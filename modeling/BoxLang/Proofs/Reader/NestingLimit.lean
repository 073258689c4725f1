import Mathlib.Data.Nat.Find
import BoxLang.Proofs.Reader.Moves
import BoxLang.Proofs.Reader.Prefixes

/-!
# The nesting limit

The limit is looked at only where a box or an assignment is entered.  Two readings under
different limits go the same way until one of them is too deep, and then it fails at once, one
level below its limit.  So every text has a least limit that it fits in, and a limit beyond that
makes no difference.
-/

namespace BoxLang

namespace Reader

theorem Context.depth_add_le (context : Context) (expr : Expr) :
    (context.add expr).depth ≤ context.depth := by
  induction context generalizing expr with
  | program => exact Nat.le_refl _
  | box => exact Nat.le_refl _
  | assignment name outer inductionHypothesis =>
      exact Nat.le_succ_of_le (inductionHypothesis (.assign name expr))

theorem Rests.depth_le {context : Context} {state : State} (rests : Rests context state) :
    context.depth ≤ state.context.depth := by
  cases rests with
  | ready => exact Nat.le_refl _
  | complete => exact Nat.le_refl _
  | numeral _ added => exact added ▸ Context.depth_add_le ..
  | name added => exact added ▸ Context.depth_add_le ..
  | named added => exact added ▸ Context.depth_add_le ..

/-- What may come of a character where some boxes and assignments are open: at most one more is
open, and the text is too deep exactly if that is one too many. -/
def Deepens (maxDepth depth : Nat) : Except Fault (Context × Mode) → Prop
  | .ok (context, mode) =>
      context.depth ≤ depth + 1 ∧ (mode = .tooDeep ↔ maxDepth < context.depth)
  | .error fault => fault.kind.cause ≠ .nesting

section Steps

variable {maxDepth depth : Nat} {state : State} {char : Char}

theorem deepens_ok {context : Context} {mode : Mode} (fits : depth ≤ maxDepth)
    (outside : context.depth ≤ depth) (shallow : mode ≠ .tooDeep) :
    Deepens maxDepth depth (.ok (context, mode)) := by
  refine ⟨Nat.le_succ_of_le outside, ?_⟩
  simp only [shallow, false_iff, Nat.not_lt]
  exact Nat.le_trans outside fits

theorem deepens_nest {context : Context} (inside : context.depth = depth + 1) :
    Deepens maxDepth depth (.ok (State.nest maxDepth context)) := by
  refine ⟨Nat.le_of_eq inside, ?_⟩
  by_cases fits : context.depth ≤ maxDepth
  · simp [fits]
  · simp [fits, Nat.lt_of_not_le fits]

theorem Moves.deepens {result : Except Fault (Context × Mode)}
    (moves : Moves maxDepth state char result) (fits : state.context.depth ≤ maxDepth)
    (shallow : state.mode ≠ .tooDeep) : Deepens maxDepth state.context.depth result := by
  have added (context : Context) (expr : Expr) := context.depth_add_le expr
  cases moves with
  | blank => exact deepens_ok fits (Nat.le_refl _) (by simp)
  | openString => exact deepens_ok fits (Nat.le_refl _) (by simp)
  | beginNumeral => exact deepens_ok fits (Nat.le_refl _) (by simp)
  | openBox => exact deepens_nest rfl
  | beginName => exact deepens_ok fits (Nat.le_refl _) (by simp)
  | inString => exact deepens_ok fits (Nat.le_refl _) (by simp)
  | closeString => exact deepens_ok fits (added _ _) (by simp)
  | inNumeral => exact deepens_ok fits (Nat.le_refl _) (by simp)
  | endNumeral => exact deepens_ok fits (added _ _) (by simp)
  | malformed => simp [Deepens, FaultKind.cause]
  | unfinished unclosed =>
      simp [Deepens, (cause_of_close unclosed).1]
  | inName => exact deepens_ok fits (Nat.le_refl _) (by simp)
  | endName => exact deepens_ok fits (Nat.le_refl _) (by simp)
  | assign => exact deepens_nest rfl
  | settled => exact deepens_ok fits (Nat.le_refl _) (by simp)
  | semicolon rests => exact deepens_ok fits rests.depth_le (by simp)
  | closeBox rests =>
      have outside := Nat.le_of_succ_le rests.depth_le
      exact deepens_ok fits (Nat.le_trans (added _ _) outside) (by simp)
  | misplaced =>
      simp [Deepens, State.faultAt, Context.cause_misplaced]
  | tooDeep => exact absurd rfl shallow

end Steps

theorem offset_of_next {maxDepth : Nat} {state state' : State} {char : Char}
    (stepped : state.next maxDepth char = .ok state') :
    state'.offset = state.offset + char.utf8Size := by
  obtain ⟨_, _, stepped⟩ := bind_eq_ok.mp stepped
  cases stepped
  rfl

/-- A state is as deep as its mode says, and no deeper than what was read has made it. -/
structure Measured (maxDepth : Nat) (state : State) : Prop where
  le_offset : state.context.depth ≤ state.offset
  le_limit : state.context.depth ≤ maxDepth + 1
  tooDeep_iff : state.mode = .tooDeep ↔ maxDepth < state.context.depth

/-- A result says that the text is one level too deep. -/
def Exceeds (maxDepth : Nat) (result : Except Fault Expr) : Prop :=
  ∃ span, result = .error ⟨.maxDepthExceeded (maxDepth + 1) maxDepth, span⟩

namespace Measured

variable {maxDepth : Nat} {state : State}

theorem initial (maxDepth : Nat) : Measured maxDepth .initial :=
  ⟨Nat.le_refl 0, Nat.zero_le _, by simp [State.initial, Context.depth]⟩

theorem fits (measured : Measured maxDepth state) (shallow : state.mode ≠ .tooDeep) :
    state.context.depth ≤ maxDepth :=
  Nat.not_lt.mp fun deeper => shallow (measured.tooDeep_iff.mpr deeper)

theorem depth_eq (measured : Measured maxDepth state) (deep : state.mode = .tooDeep) :
    state.context.depth = maxDepth + 1 :=
  Nat.le_antisymm measured.le_limit (measured.tooDeep_iff.mp deep)

theorem deepens (measured : Measured maxDepth state) (shallow : state.mode ≠ .tooDeep)
    (char : Char) : Deepens maxDepth state.context.depth (state.move maxDepth char) :=
  (Moves.ofMove state char).deepens (measured.fits shallow) shallow

theorem move_eq_of_tooDeep (measured : Measured maxDepth state) (deep : state.mode = .tooDeep)
    (char : Char) :
    state.move maxDepth char =
      .error ⟨.maxDepthExceeded (maxDepth + 1) maxDepth, .ofChar state.offset char⟩ := by
  simp only [State.move, deep, State.faultAt, measured.depth_eq deep]

theorem next {char : Char} {state' : State} (measured : Measured maxDepth state)
    (stepped : state.next maxDepth char = .ok state') : Measured maxDepth state' := by
  obtain ⟨⟨context, mode⟩, moved, stepped⟩ := bind_eq_ok.mp stepped
  cases stepped
  have shallow : state.mode ≠ .tooDeep := by
    intro deep
    rw [measured.move_eq_of_tooDeep deep] at moved
    cases moved
  have deepens := measured.deepens shallow char
  rw [moved] at deepens
  obtain ⟨deepened, tooDeep_iff⟩ := deepens
  have fits := measured.fits shallow
  have shallower := measured.le_offset
  have positive := char.utf8Size_pos
  refine ⟨?_, ?_, tooDeep_iff⟩
  · show context.depth ≤ state.offset + char.utf8Size
    omega
  · show context.depth ≤ maxDepth + 1
    omega

end Measured

section Limits

variable {maxDepth lower higher : Nat} {state : State} {fault : Fault}

theorem Measured.exceeds (measured : Measured maxDepth state) (deep : state.mode = .tooDeep)
    (unread : List Char) : Exceeds maxDepth (state.readOn maxDepth unread) := by
  cases unread with
  | nil =>
      refine ⟨.point state.offset, ?_⟩
      show state.finish maxDepth = _
      simp only [State.finish, deep, measured.depth_eq deep]
  | cons char unread =>
      refine ⟨.ofChar state.offset char, ?_⟩
      rw [State.readOn_cons, State.next, measured.move_eq_of_tooDeep deep]
      rfl

theorem nest_eq_or_tooDeep (le : lower ≤ higher) (context : Context) :
    State.nest lower context = State.nest higher context ∨
      State.nest lower context = (context, .tooDeep) := by
  by_cases fits : context.depth ≤ lower
  · left
    rw [nest_eq fits, nest_eq (Nat.le_trans fits le)]
  · right
    simp [State.nest, fits]

theorem atStart_eq_or_tooDeep (le : lower ≤ higher) (offset : Nat) (context : Context)
    (char : Char) :
    State.atStart lower offset context char = State.atStart higher offset context char ∨
      ∃ inner, State.atStart lower offset context char = .ok (inner, .tooDeep) := by
  unfold State.atStart
  rcases nest_eq_or_tooDeep le (.box offset [] context) with same | deep
  · left
    rw [same]
  · rw [deep]
    grind

theorem afterName_eq_or_tooDeep (le : lower ≤ higher) (offset : Nat) (context : Context)
    (name : String) (char : Char) :
    State.afterName lower offset context name char =
        State.afterName higher offset context name char ∨
      ∃ inner, State.afterName lower offset context name char = .ok (inner, .tooDeep) := by
  unfold State.afterName
  rcases nest_eq_or_tooDeep le (.assignment name context) with same | deep
  · left
    rw [same]
  · rw [deep]
    grind

/-- Under a lower limit a character does the same, or leads too deep. -/
theorem move_eq_or_tooDeep (le : lower ≤ higher) (shallow : state.mode ≠ .tooDeep)
    (char : Char) :
    state.move lower char = state.move higher char ∨
      ∃ inner, state.move lower char = .ok (inner, .tooDeep) := by
  obtain ⟨offset, context, mode⟩ := state
  cases mode with
  | ready => exact atStart_eq_or_tooDeep le offset context char
  | complete => exact .inl rfl
  | string => exact .inl rfl
  | numeral => exact .inl rfl
  | name chars =>
      simp only [State.move]
      split
      case isTrue => exact .inl rfl
      case isFalse => exact afterName_eq_or_tooDeep le offset context _ char
  | named name => exact afterName_eq_or_tooDeep le offset context name char
  | tooDeep => exact absurd rfl shallow

theorem finish_eq (shallow : state.mode ≠ .tooDeep) :
    state.finish lower = state.finish higher := by
  obtain ⟨offset, context, mode⟩ := state
  cases mode with
  | tooDeep => exact absurd rfl shallow
  | _ => rfl

/-- Under a lower limit a text is read the same way, or found to be too deep. -/
theorem readOn_eq_or_exceeds (le : lower ≤ higher) (measured : Measured lower state)
    (unread : List Char) :
    state.readOn lower unread = state.readOn higher unread ∨
      Exceeds lower (state.readOn lower unread) := by
  induction unread generalizing state with
  | nil =>
      by_cases deep : state.mode = .tooDeep
      · exact .inr (measured.exceeds deep [])
      · exact .inl (finish_eq deep)
  | cons char unread inductionHypothesis =>
      by_cases deep : state.mode = .tooDeep
      · exact .inr (measured.exceeds deep (char :: unread))
      · rw [State.readOn_cons, State.readOn_cons]
        rcases move_eq_or_tooDeep le deep char with same | ⟨inner, moved⟩
        · have sameNext : state.next lower char = state.next higher char := by
            rw [State.next, same, State.next]
          rw [← sameNext]
          cases stepped : state.next lower char with
          | error fault => exact .inl rfl
          | ok state' => exact inductionHypothesis (measured.next stepped)
        · have stepped : state.next lower char =
              .ok ⟨state.offset + char.utf8Size, inner, .tooDeep⟩ := by
            rw [State.next, moved]
            rfl
          rw [stepped]
          exact .inr ((measured.next stepped).exceeds rfl unread)

theorem cause_of_finish (shallow : state.mode ≠ .tooDeep)
    (failed : state.finish maxDepth = .error fault) : fault.kind.cause ≠ .nesting := by
  have ends {context : Context}
      (failed : State.finishContext state.offset context = .error fault) :
      fault.kind.cause ≠ .nesting := by
    rw [cause_of_finishContext failed]
    exact nofun
  obtain ⟨offset, context, mode⟩ := state
  cases mode with
  | ready => exact ends failed
  | complete => exact ends failed
  | string =>
      cases failed
      exact nofun
  | numeral numeral =>
      rcases bind_eq_error.mp failed with unclosed | ⟨literal, -, failed⟩
      · rw [(cause_of_close unclosed).1]
        exact nofun
      · exact ends failed
  | name => exact ends failed
  | named => exact ends failed
  | tooDeep => exact absurd rfl shallow

/-- A text that is too deep is so by one level, and it is longer than the limit. -/
theorem exceeds_of_nesting (measured : Measured maxDepth state) (unread : List Char)
    (failed : state.readOn maxDepth unread = .error fault)
    (nesting : fault.kind.cause = .nesting) :
    maxDepth < state.offset + String.utf8Len unread ∧
      Exceeds maxDepth (state.readOn maxDepth unread) := by
  have ofDeep {state : State} (measured : Measured maxDepth state) (deep : state.mode = .tooDeep)
      (unread : List Char) :
      maxDepth < state.offset + String.utf8Len unread ∧
        Exceeds maxDepth (state.readOn maxDepth unread) := by
    have depth_eq := measured.depth_eq deep
    have le_offset := measured.le_offset
    exact ⟨by omega, measured.exceeds deep unread⟩
  induction unread generalizing state with
  | nil =>
      by_cases deep : state.mode = .tooDeep
      · exact ofDeep measured deep []
      · exact absurd nesting (cause_of_finish deep failed)
  | cons char unread inductionHypothesis =>
      by_cases deep : state.mode = .tooDeep
      · exact ofDeep measured deep (char :: unread)
      · have deepens := measured.deepens deep char
        rw [State.readOn_cons] at failed ⊢
        rcases bind_eq_error.mp failed with stopped | ⟨state', stepped, failed⟩
        · rcases bind_eq_error.mp stopped with refused | ⟨_, _, returned⟩
          · rw [refused] at deepens
            exact absurd nesting deepens
          · cases returned
        · obtain ⟨longer, exceeds⟩ := inductionHypothesis (measured.next stepped) failed
          have offset_eq := offset_of_next stepped
          rw [stepped, String.utf8Len_cons]
          exact ⟨by omega, exceeds⟩

end Limits

end Reader

open Reader

section Sources

variable {maxDepth lower higher : Nat} {source : String}

/-- A source text is found to be one level too deep. -/
def ExceedsDepth (maxDepth : Nat) (source : String) : Prop :=
  ∃ span, parseWithin maxDepth source =
    .error ⟨⟨.maxDepthExceeded (maxDepth + 1) maxDepth, span⟩, source⟩

theorem exceedsDepth_iff :
    ExceedsDepth maxDepth source ↔ Exceeds maxDepth (read maxDepth source.toList) := by
  simp [ExceedsDepth, Exceeds, parseWithin_error_iff_read]

theorem parseWithin_eq_or_exceedsDepth (le : lower ≤ higher) :
    parseWithin lower source = parseWithin higher source ∨ ExceedsDepth lower source := by
  rw [exceedsDepth_iff]
  rcases readOn_eq_or_exceeds le (.initial lower) source.toList with same | exceeds
  · have same : read lower source.toList = read higher source.toList := same
    exact .inl (by rw [parseWithin, same, parseWithin])
  · exact .inr exceeds

theorem exceedsDepth_of_nesting {error : ParseError}
    (failed : parseWithin maxDepth source = .error error)
    (nesting : error.kind.cause = .nesting) :
    maxDepth < source.utf8ByteSize ∧ ExceedsDepth maxDepth source := by
  obtain ⟨failed, -⟩ := parseWithin_error_iff_read.mp failed
  obtain ⟨longer, exceeds⟩ := exceeds_of_nesting (.initial maxDepth) source.toList failed nesting
  rw [String.utf8Len_toList] at longer
  exact ⟨by simpa [State.initial] using longer, exceedsDepth_iff.mpr exceeds⟩

theorem parseWithin_raise (le : lower ≤ higher) (fits : ¬ExceedsDepth lower source) :
    parseWithin higher source = parseWithin lower source :=
  ((parseWithin_eq_or_exceedsDepth le).resolve_right fits).symm

/-- No text nests more deeply than it is long. -/
theorem not_exceedsDepth_utf8ByteSize (source : String) :
    ¬ExceedsDepth source.utf8ByteSize source := by
  rintro ⟨span, failed⟩
  have longer := (exceedsDepth_of_nesting failed rfl).1
  exact absurd longer (Nat.lt_irrefl _)

end Sources

/-- Every text has one depth that it needs.  Under a limit below it the text is found to be one
level too deep, and all other limits give one and the same result. -/
theorem parseWithin_threshold (source : String) :
    (∃ threshold ≤ source.utf8ByteSize, ∃ result,
      (∀ error depth limit, result = .error error →
        error.kind ≠ .maxDepthExceeded depth limit) ∧
      (∀ maxDepth, threshold ≤ maxDepth → parseWithin maxDepth source = result) ∧
      ∀ maxDepth < threshold, ExceedsDepth maxDepth source) ∧
    ∀ lower higher, lower ≤ higher → ¬ExceedsDepth lower source →
      parseWithin higher source = parseWithin lower source := by
  classical
  have fitting : ∃ maxDepth, ¬ExceedsDepth maxDepth source :=
    ⟨source.utf8ByteSize, not_exceedsDepth_utf8ByteSize source⟩
  have fits := Nat.find_spec fitting
  refine ⟨⟨Nat.find fitting, ?_, parseWithin (Nat.find fitting) source, ?_, ?_, ?_⟩, ?_⟩
  · exact Nat.find_min' fitting (not_exceedsDepth_utf8ByteSize source)
  · intro error depth limit failed nested
    have nesting : error.kind.cause = .nesting := by rw [nested, FaultKind.cause]
    exact fits (exceedsDepth_of_nesting failed nesting).2
  · intro maxDepth enough
    exact parseWithin_raise enough fits
  · intro maxDepth below
    exact not_not.mp (Nat.find_min fitting below)
  · intro lower higher le fits
    exact parseWithin_raise le fits

end BoxLang
