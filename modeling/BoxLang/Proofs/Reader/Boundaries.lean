import BoxLang.Proofs.Reader.Positions

/-!
# What spans of faults cover

A state remembers where boxes, strings and numerals have started, and it has been at each of
these places.  So the span of a fault covers whole characters: it starts at such a place or at
the character that is refused, and ends where reading stopped.
-/

namespace BoxLang

/-- A span covers whole characters of a text, with some before them. -/
structure Span.Covers (span : Span) (text before covered : List Char) : Prop where
  isPrefix : before ++ covered <+: text
  start_eq : span.start = String.utf8Len before
  stop_eq : span.stop = String.utf8Len (before ++ covered)

theorem Span.exists_covers {span : Span} {text before read : List Char} (isPrefix : read <+: text)
    (started : before <+: read) (start_eq : String.utf8Len before = span.start)
    (stop_eq : span.stop = String.utf8Len read) :
    ∃ covered, span.Covers text before covered := by
  obtain ⟨covered, rfl⟩ := started
  exact ⟨covered, isPrefix, start_eq.symm, stop_eq⟩

theorem Span.Covers.ordered {span : Span} {text before covered : List Char}
    (covers : span.Covers text before covered) : span.start ≤ span.stop := by
  rw [covers.start_eq, covers.stop_eq, String.utf8Len_append]
  exact Nat.le_add_right _ _

/-- The reasons for which a numeral is refused. -/
def Numeral.flaws : List String :=
  [noDigit, "Unexpected second `.` in number", "Expected digit before `.` in number",
    "Expected digit before `_` in number", "Trailing `_` in number",
    "Expected digit after `.` in number"]

/-- A kind of fault that names a flaw of a numeral names one of those that exist. -/
def FaultKind.IsGrounded : FaultKind → Prop
  | .invalidNumber reason => reason ∈ Numeral.flaws
  | _ => True

/-- A fault is found at one of some places. -/
structure Fault.FoundAt (fault : Fault) (places : List Nat) : Prop where
  start_mem : fault.span.start ∈ places
  isGrounded : fault.kind.IsGrounded

namespace Reader

/-- Where the boxes of a context have been opened. -/
def Context.openings : Context → List Nat
  | .program _ => []
  | .box opening _ outer => opening :: outer.openings
  | .assignment _ outer => outer.openings

/-- Where the string or the numeral under reading has started. -/
def Mode.openings : Mode → List Nat
  | .string opening _ _ => [opening]
  | .numeral written => [written.start]
  | _ => []

def State.openings (state : State) : List Nat :=
  state.context.openings ++ state.mode.openings

@[simp]
theorem Context.openings_add (context : Context) (expr : Expr) :
    (context.add expr).openings = context.openings := by
  induction context generalizing expr with
  | program => rfl
  | box => rfl
  | assignment name outer inductionHypothesis => exact inductionHypothesis (.assign name expr)

/-- What may come of a character at an offset: no other place is remembered, or blamed, than
the offset and those that were remembered before. -/
def Remembers (offset : Nat) (openings : List Nat) : Except Fault (Context × Mode) → Prop
  | .ok (context, mode) => context.openings ++ mode.openings ⊆ offset :: openings
  | .error fault => fault.FoundAt (offset :: openings)

section Numerals

variable {numeral : Numeral} {char : Char}

theorem mem_flaws_of_malformed {reason : String}
    (malformed : numeral.next char = .malformed reason) : reason ∈ Numeral.flaws := by
  unfold Numeral.next at malformed
  split at malformed
  case isTrue => cases malformed
  case isFalse =>
    split at malformed
    case isTrue =>
      cases malformed
      decide
    case isFalse =>
      split at malformed
      case isTrue =>
        split at malformed
        case isTrue =>
          cases malformed
          decide
        case isFalse =>
          split at malformed
          case isTrue => cases malformed
          case isFalse =>
            cases malformed
            decide
      case isFalse =>
        split at malformed
        case isTrue =>
          split at malformed
          case isTrue => cases malformed
          case isFalse =>
            cases malformed
            decide
        case isFalse => cases malformed

theorem mem_flaws_of_endingFlaw {reason : String} (flawed : numeral.endingFlaw? = some reason) :
    reason ∈ Numeral.flaws := by
  unfold Numeral.endingFlaw? at flawed
  split at flawed
  case isTrue =>
    cases flawed
    decide
  case isFalse =>
    split at flawed
    case isTrue =>
      cases flawed
      decide
    case isFalse =>
      split at flawed
      case isTrue =>
        cases flawed
        decide
      case isFalse => cases flawed

theorem foundAt_of_close {fault : Fault} (failed : numeral.close = .error fault)
    {places : List Nat} (known : numeral.start ∈ places) : fault.FoundAt places := by
  unfold Numeral.close at failed
  split at failed
  case h_1 reason flawed =>
    cases failed
    exact ⟨known, mem_flaws_of_endingFlaw flawed⟩
  case h_2 =>
    split at failed
    case h_1 => cases failed
    case h_2 =>
      cases failed
      exact ⟨known, trivial⟩

end Numerals

section Remembers

variable {maxDepth offset : Nat} {context : Context} {char : Char} {openings : List Nat}

theorem isGrounded_misplaced (context : Context) (char : Char) :
    (context.misplaced char).IsGrounded := by
  cases context with
  | program => trivial
  | box => trivial
  | assignment => trivial

/-- Nothing new is remembered but, perhaps, the offset. -/
theorem remembers_ok {mode : Mode} (known : context.openings ⊆ offset :: openings)
    (knownMode : mode.openings ⊆ offset :: openings) :
    Remembers offset openings (.ok (context, mode)) :=
  List.append_subset.mpr ⟨known, knownMode⟩

theorem remembers_punctuation (known : context.openings ⊆ openings) :
    Remembers offset openings (State.punctuation offset context char) := by
  unfold State.punctuation
  split
  case h_1 => exact remembers_ok (List.nil_subset _) (List.nil_subset _)
  case h_2 => exact remembers_ok (List.subset_cons_of_subset _ known) (List.nil_subset _)
  case h_3 statements outer =>
    refine remembers_ok ?_ (List.nil_subset _)
    rw [Context.openings_add]
    exact List.subset_cons_of_subset _ (List.subset_of_cons_subset known)
  case h_4 => exact ⟨List.mem_cons_self, isGrounded_misplaced _ _⟩

theorem remembers_afterExpression (known : context.openings ⊆ openings) :
    Remembers offset openings (State.afterExpression offset context char) := by
  unfold State.afterExpression
  split
  case isTrue => exact remembers_ok (List.subset_cons_of_subset _ known) (List.nil_subset _)
  case isFalse => exact remembers_punctuation known

theorem remembers_nest (known : context.openings ⊆ offset :: openings) :
    Remembers offset openings (.ok (State.nest maxDepth context)) := by
  unfold State.nest
  split
  case isTrue => exact remembers_ok known (List.nil_subset _)
  case isFalse => exact remembers_ok known (List.nil_subset _)

theorem remembers_atStart (known : context.openings ⊆ openings) :
    Remembers offset openings (State.atStart maxDepth offset context char) := by
  have here : [offset] ⊆ offset :: openings := List.cons_subset_cons offset (List.nil_subset _)
  have knownStill := List.subset_cons_of_subset offset known
  unfold State.atStart
  split
  case isTrue => exact remembers_ok knownStill (List.nil_subset _)
  case isFalse =>
    split
    case isTrue => exact remembers_ok knownStill here
    case isFalse =>
      split
      case isTrue => exact remembers_ok knownStill here
      case isFalse =>
        split
        case isTrue => exact remembers_nest (List.cons_subset_cons offset known)
        case isFalse =>
          split
          case isTrue => exact remembers_ok knownStill (List.nil_subset _)
          case isFalse => exact remembers_punctuation known

theorem remembers_afterName {name : String} (known : context.openings ⊆ openings) :
    Remembers offset openings (State.afterName maxDepth offset context name char) := by
  have knownStill := List.subset_cons_of_subset offset known
  unfold State.afterName
  split
  case isTrue => exact remembers_ok knownStill (List.nil_subset _)
  case isFalse =>
    split
    case isTrue => exact remembers_nest knownStill
    case isFalse =>
      apply remembers_punctuation
      rwa [Context.openings_add]

theorem remembers_inNumeral {numeral : Numeral} (known : context.openings ⊆ openings)
    (knownStart : numeral.start ∈ openings) :
    Remembers offset openings (State.inNumeral offset context numeral char) := by
  have knownStill := List.subset_cons_of_subset offset known
  have startStill := List.mem_cons_of_mem offset knownStart
  unfold State.inNumeral
  split
  case h_1 numeral' longer =>
    obtain ⟨rfl, -⟩ := eq_push_of_longer longer
    exact remembers_ok knownStill (List.cons_subset.mpr ⟨startStill, List.nil_subset _⟩)
  case h_2 reason malformed => exact ⟨startStill, mem_flaws_of_malformed malformed⟩
  case h_3 =>
    cases closed : numeral.close with
    | error fault => exact foundAt_of_close closed startStill
    | ok literal =>
        apply remembers_afterExpression
        rwa [Context.openings_add]

theorem remembers_move (state : State) (char : Char) :
    Remembers state.offset state.openings (state.move maxDepth char) := by
  obtain ⟨offset, context, mode⟩ := state
  have known : context.openings ⊆ context.openings ++ mode.openings :=
    List.subset_append_left _ _
  have knownMode : mode.openings ⊆ context.openings ++ mode.openings :=
    List.subset_append_right _ _
  cases mode with
  | ready => exact remembers_atStart known
  | complete => exact remembers_afterExpression known
  | string opening quote content =>
      simp only [State.move]
      split
      case isTrue =>
        refine remembers_ok ?_ (List.nil_subset _)
        rw [Context.openings_add]
        exact List.subset_cons_of_subset _ known
      case isFalse =>
        exact remembers_ok (List.subset_cons_of_subset _ known)
          (List.subset_cons_of_subset _ knownMode)
  | numeral numeral => exact remembers_inNumeral known (List.cons_subset.mp knownMode).1
  | name chars =>
      simp only [State.move]
      split
      case isTrue => exact remembers_ok (List.subset_cons_of_subset _ known) (List.nil_subset _)
      case isFalse => exact remembers_afterName known
  | named name => exact remembers_afterName known
  | tooDeep => exact ⟨List.mem_cons_self, trivial⟩

end Remembers

section Endings

variable {maxDepth : Nat} {fault : Fault}

theorem foundAt_of_finishContext {length : Nat} {context : Context} {openings : List Nat}
    (known : context.openings ⊆ openings)
    (failed : State.finishContext length context = .error fault) :
    fault.FoundAt (length :: openings) ∧ fault.span.stop = length := by
  cases context with
  | program => cases failed
  | box opening =>
      cases failed
      exact ⟨⟨List.mem_cons_of_mem _ (known List.mem_cons_self), trivial⟩, rfl⟩
  | assignment =>
      cases failed
      exact ⟨⟨List.mem_cons_self, trivial⟩, rfl⟩

/-- A fault of an ending is found there or at a place that is remembered, and goes up to the
end. -/
theorem foundAt_of_finish {state : State} (agrees : state.mode.Agrees state.offset state.context)
    (failed : state.finish maxDepth = .error fault) :
    fault.FoundAt (state.offset :: state.openings) ∧ fault.span.stop = state.offset := by
  obtain ⟨offset, context, mode⟩ := state
  have known : context.openings ⊆ context.openings ++ mode.openings :=
    List.subset_append_left _ _
  have knownMode : mode.openings ⊆ offset :: (context.openings ++ mode.openings) :=
    List.subset_cons_of_subset _ (List.subset_append_right _ _)
  have added (expr : Expr) : (context.add expr).openings ⊆ context.openings ++ mode.openings := by
    rwa [Context.openings_add]
  cases mode with
  | ready => exact foundAt_of_finishContext known failed
  | complete => exact foundAt_of_finishContext known failed
  | string opening =>
      cases failed
      exact ⟨⟨(List.cons_subset.mp knownMode).1, trivial⟩, rfl⟩
  | numeral numeral =>
      rcases bind_eq_error.mp failed with unclosed | ⟨literal, -, failed⟩
      · refine ⟨foundAt_of_close unclosed (List.cons_subset.mp knownMode).1, ?_⟩
        rw [(cause_of_close unclosed).2]
        exact agrees
      · exact foundAt_of_finishContext (added literal) failed
  | name chars => exact foundAt_of_finishContext (added _) failed
  | named name => exact foundAt_of_finishContext (added _) failed
  | tooDeep =>
      cases failed
      exact ⟨⟨List.mem_cons_self, trivial⟩, rfl⟩

end Endings

/-- A state that has read a text remembers places between its characters. -/
def Opened (text : List Char) (state : State) : Prop :=
  ∀ opening ∈ state.openings, ∃ before, before <+: text ∧ String.utf8Len before = opening

namespace Opened

variable {maxDepth : Nat} {text : List Char} {state : State}

/-- Every place that can be blamed is one between two characters. -/
theorem exists_front (placed : Placed text state) (opened : Opened text state) {place : Nat}
    (known : place ∈ state.offset :: state.openings) :
    ∃ before, before <+: text ∧ String.utf8Len before = place := by
  rcases List.mem_cons.mp known with rfl | member
  · exact ⟨text, List.prefix_refl text, placed.offset_eq.symm⟩
  · exact opened place member

theorem next {char : Char} {state' : State} (placed : Placed text state)
    (opened : Opened text state) (stepped : state.next maxDepth char = .ok state') :
    Opened (text ++ [char]) state' := by
  obtain ⟨⟨context, mode⟩, moved, stepped⟩ := bind_eq_ok.mp stepped
  cases stepped
  have remembers := @remembers_move maxDepth state char
  rw [moved] at remembers
  intro opening member
  obtain ⟨before, isPrefix, length_eq⟩ := exists_front placed opened (remembers member)
  exact ⟨before, isPrefix.trans (List.prefix_append _ _), length_eq⟩

theorem ofRun (ran : text.foldlM (State.next maxDepth) .initial = .ok state) :
    Opened text state := by
  have start : Opened [] .initial := fun _ member => absurd member List.not_mem_nil
  refine State.ran_of_invariant start ?_ ran
  intro text char state state' ran opened stepped
  exact opened.next (.ofRun ran) stepped

end Opened

section Faults

variable {maxDepth : Nat} {text : List Char} {fault : Fault}

/-- A character that is refused is the last that a fault covers, or the first after it. -/
theorem Stops.stop_eq {before : List Char} {char : Char} {state : State}
    (stops : Stops maxDepth fault before char state) :
    fault.span.stop = String.utf8Len before ∨
      fault.span.stop = String.utf8Len (before ++ [char]) := by
  have refuses := stops.refuses
  have charStop : (Span.ofChar state.offset char).stop = String.utf8Len (before ++ [char]) := by
    rw [Span.ofChar, stops.placed.offset_eq]
    simp
  unfold Refuses at refuses
  split at refuses
  case h_1 =>
    obtain ⟨context, -, rfl⟩ := refuses
    exact Or.inr charStop
  case h_2 => exact refuses.elim
  case h_3 =>
    rw [refuses, stops.placed.offset_eq]
    exact Or.inl rfl
  case h_4 =>
    rw [refuses]
    exact Or.inr charStop

/-- The fault of a text covers whole characters of it. -/
theorem covers_of_read (failed : read maxDepth text = .error fault) :
    (∃ before covered, fault.span.Covers text before covered) ∧ fault.kind.IsGrounded := by
  rcases bind_eq_error.mp failed with stopped | ⟨state, ran, failed⟩
  · obtain ⟨before, char, after, state, rfl, stops⟩ := exists_stops stopped
    have found := @remembers_move maxDepth state char
    rw [stops.failed] at found
    obtain ⟨start, started, start_eq⟩ :=
      (Opened.ofRun stops.ran).exists_front stops.placed found.start_mem
    refine ⟨⟨start, ?_⟩, found.isGrounded⟩
    rcases stops.stop_eq with stop_eq | stop_eq
    · exact Span.exists_covers (List.prefix_append _ _) started start_eq stop_eq
    · refine Span.exists_covers ?_ (started.trans (List.prefix_append _ _)) start_eq stop_eq
      rw [List.append_cons before char after]
      exact List.prefix_append _ _
  · have placed : Placed text state := .ofRun ran
    obtain ⟨found, stop_eq⟩ := foundAt_of_finish placed.agrees failed
    obtain ⟨start, started, start_eq⟩ := (Opened.ofRun ran).exists_front placed found.start_mem
    rw [placed.offset_eq] at stop_eq
    exact ⟨⟨start, Span.exists_covers (List.prefix_refl text) started start_eq stop_eq⟩,
      found.isGrounded⟩

end Faults

end Reader

end BoxLang
