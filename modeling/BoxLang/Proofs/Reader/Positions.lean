import Mathlib.Data.String.Basic
import BoxLang.Proofs.Reader.Completeness

/-!
# Where faults are found

A state knows how many bytes have been read, and a numeral under reading ends at that
place.  So the fault of a refused character points at the character, or at the numeral
right before it, and it is the same whatever follows the character.
-/

namespace BoxLang

/-- What about a text is at fault. -/
inductive Cause
  /-- A character stands where it may not. -/
  | character
  /-- The text ends before what it has begun. -/
  | ending
  /-- A numeral does not stand for a number. -/
  | numeral
  /-- Boxes and assignments are nested too deeply. -/
  | nesting
  deriving DecidableEq

def FaultKind.cause : FaultKind → Cause
  | .unexpectedChar _ _ | .unclosedBox (some _) | .trailingInput _ => .character
  | .unexpectedEnd _ | .unterminatedString | .unclosedBox none => .ending
  | .invalidNumber _ | .numberOutOfRange _ => .numeral
  | .maxDepthExceeded _ _ => .nesting

namespace Reader

theorem bind_eq_error {α β ε : Type} {action : Except ε α} {next : α → Except ε β} {error : ε} :
    action >>= next = .error error ↔
      action = .error error ∨ ∃ value, action = .ok value ∧ next value = .error error := by
  cases action with
  | error => simp [bind, Except.bind]
  | ok value => simp [bind, Except.bind]

namespace Context

theorem isBlock_add (context : Context) (expr : Expr) : (context.add expr).IsBlock := by
  induction context generalizing expr with
  | program => exact trivial
  | box => exact trivial
  | assignment name outer inductionHypothesis => exact inductionHypothesis (.assign name expr)

theorem cause_misplaced (context : Context) (char : Char) :
    (context.misplaced char).cause = .character := by
  cases context with
  | program => rfl
  | box => rfl
  | assignment => rfl

end Context

section Numerals

variable {numeral numeral' : Numeral} {char : Char}

theorem utf8Size_of_isDigit (digit : char.isDigit = true) : char.utf8Size = 1 := by
  obtain ⟨-, most⟩ := Char.isDigit_iff_toNat.mp digit
  apply Char.utf8Size_eq_one_iff.mpr
  exact UInt32.le_iff_toNat_le.mpr (Nat.le_trans most (by decide))

theorem utf8Size_of_isSign (sign : Numeral.isSign char = true) : char.utf8Size = 1 := by
  rcases (Bool.or_eq_true _ _).mp sign with minus | plus
  · rw [eq_of_beq minus]
    decide
  · rw [eq_of_beq plus]
    decide

/-- A numeral grows by one character of one byte at a time. -/
theorem eq_push_of_longer (longer : numeral.next char = .longer numeral') :
    numeral' = numeral.push char ∧ char.utf8Size = 1 := by
  unfold Numeral.next at longer
  split at longer
  case isTrue digit =>
    cases longer
    exact ⟨rfl, utf8Size_of_isDigit digit⟩
  case isFalse =>
    split at longer
    case isTrue => cases longer
    case isFalse =>
      split at longer
      case isTrue isPoint =>
        subst isPoint
        split at longer
        case isTrue => cases longer
        case isFalse =>
          split at longer
          case isTrue =>
            cases longer
            exact ⟨rfl, by decide⟩
          case isFalse => cases longer
      case isFalse =>
        split at longer
        case isTrue isSeparator =>
          subst isSeparator
          split at longer
          case isTrue =>
            cases longer
            exact ⟨rfl, by decide⟩
          case isFalse => cases longer
        case isFalse => cases longer

theorem span_stop_of_longer (longer : numeral.next char = .longer numeral') :
    numeral'.span.stop = numeral.span.stop + char.utf8Size := by
  obtain ⟨rfl, oneByte⟩ := eq_push_of_longer longer
  rw [oneByte]
  rfl

theorem cause_of_close {fault : Fault} (failed : numeral.close = .error fault) :
    fault.kind.cause = .numeral ∧ fault.span = numeral.span := by
  unfold Numeral.close at failed
  split at failed
  case h_1 =>
    cases failed
    exact ⟨rfl, rfl⟩
  case h_2 =>
    split at failed
    case h_1 => cases failed
    case h_2 =>
      cases failed
      exact ⟨rfl, rfl⟩

end Numerals

/-- A mode fits the place where it was reached: a numeral ends there, and no value is
missing once an expression has ended. -/
def Mode.Agrees (offset : Nat) (context : Context) : Mode → Prop
  | .complete => context.IsBlock
  | .numeral written => written.span.stop = offset
  | _ => True

/-- What the cause of a fault says about a state that refuses a character. -/
def Refuses (state : State) (char : Char) (fault : Fault) : Prop :=
  match fault.kind.cause with
  | .character => ∃ context, Rests context state ∧
      fault = State.faultAt state.offset char (context.misplaced char)
  | .ending => False
  | .numeral => fault.span.stop = state.offset
  | .nesting => fault.span = .ofChar state.offset char

/-- What may come of a character in a state. -/
def Answers (state : State) (char : Char) : Except Fault (Context × Mode) → Prop
  | .ok (context, mode) => mode.Agrees (state.offset + char.utf8Size) context
  | .error fault => Refuses state char fault

section Answers

variable {maxDepth offset : Nat} {context : Context} {state : State} {char : Char}

theorem Rests.refuses (rests : Rests context state) :
    Refuses state char (State.faultAt state.offset char (context.misplaced char)) := by
  rw [Refuses, State.faultAt, context.cause_misplaced]
  exact ⟨context, rests, rfl⟩

theorem answers_punctuation (rests : Rests context state) :
    Answers state char (State.punctuation state.offset context char) := by
  unfold State.punctuation
  split
  case h_1 => exact trivial
  case h_2 => exact trivial
  case h_3 => exact Context.isBlock_add ..
  case h_4 => exact rests.refuses

theorem answers_afterExpression (rests : Rests context state) (isBlock : context.IsBlock) :
    Answers state char (State.afterExpression state.offset context char) := by
  unfold State.afterExpression
  split
  case isTrue => exact isBlock
  case isFalse => exact answers_punctuation rests

theorem answers_nest (inner : Context) :
    Answers state char (.ok (State.nest maxDepth inner)) := by
  unfold State.nest
  split
  case isTrue => exact trivial
  case isFalse => exact trivial

theorem answers_atStart :
    Answers ⟨offset, context, .ready⟩ char
      (State.atStart maxDepth offset context char) := by
  unfold State.atStart
  split
  case isTrue => exact trivial
  case isFalse =>
    split
    case isTrue => exact trivial
    case isFalse =>
      split
      case isTrue begins =>
        have oneByte : char.utf8Size = 1 := by
          rcases (Bool.or_eq_true _ _).mp begins with digit | sign
          · exact utf8Size_of_isDigit digit
          · exact utf8Size_of_isSign sign
        show offset + 1 = offset + char.utf8Size
        rw [oneByte]
      case isFalse =>
        split
        case isTrue => exact answers_nest _
        case isFalse =>
          split
          case isTrue => exact trivial
          case isFalse => exact answers_punctuation .ready

theorem answers_afterName {name : String} (rests : Rests (context.add (.get name)) state) :
    Answers state char (State.afterName maxDepth state.offset context name char) := by
  unfold State.afterName
  split
  case isTrue => exact trivial
  case isFalse =>
    split
    case isTrue => exact answers_nest _
    case isFalse => exact answers_punctuation rests

theorem answers_inNumeral {numeral : Numeral} (ends : numeral.span.stop = offset) :
    Answers ⟨offset, context, .numeral numeral⟩ char
      (State.inNumeral offset context numeral char) := by
  unfold State.inNumeral
  split
  case h_1 numeral' longer =>
    show numeral'.span.stop = offset + char.utf8Size
    rw [← ends]
    exact span_stop_of_longer longer
  case h_2 => exact ends
  case h_3 =>
    cases closed : numeral.close with
    | error fault =>
        obtain ⟨cause, spanned⟩ := cause_of_close closed
        show Refuses ⟨offset, context, .numeral numeral⟩ char fault
        rw [Refuses, cause, spanned]
        exact ends
    | ok literal =>
        have rests : Rests (context.add literal) ⟨offset, context, .numeral numeral⟩ :=
          .numeral closed rfl
        exact answers_afterExpression rests (context.isBlock_add literal)

theorem answers_move (agrees : state.mode.Agrees state.offset state.context) :
    Answers state char (state.move maxDepth char) := by
  obtain ⟨offset, context, mode⟩ := state
  cases mode with
  | ready => exact answers_atStart
  | complete => exact answers_afterExpression .complete agrees
  | string opening quote content =>
      simp only [State.move]
      split
      case isTrue => exact Context.isBlock_add ..
      case isFalse => exact trivial
  | numeral numeral => exact answers_inNumeral agrees
  | name chars =>
      simp only [State.move]
      split
      case isTrue => exact trivial
      case isFalse => exact answers_afterName (.name rfl)
  | named name => exact answers_afterName (.named rfl)
  | tooDeep => exact rfl

end Answers

/-- A state fits the text that was read to reach it. -/
structure Placed (text : List Char) (state : State) : Prop where
  offset_eq : state.offset = String.utf8Len text
  agrees : state.mode.Agrees state.offset state.context

namespace Placed

variable {maxDepth : Nat} {text : List Char} {state : State}

theorem initial : Placed [] .initial :=
  ⟨rfl, trivial⟩

theorem next {char : Char} {state' : State} (placed : Placed text state)
    (stepped : state.next maxDepth char = .ok state') : Placed (text ++ [char]) state' := by
  obtain ⟨⟨context, mode⟩, moved, stepped⟩ := bind_eq_ok.mp stepped
  cases stepped
  have answers := @answers_move maxDepth state char placed.agrees
  rw [moved] at answers
  refine ⟨?_, answers⟩
  rw [placed.offset_eq, String.utf8Len_append, String.utf8Len_cons, String.utf8Len_nil,
    Nat.zero_add]

theorem ofRun (ran : text.foldlM (State.next maxDepth) .initial = .ok state) :
    Placed text state :=
  State.ran_of_invariant initial (fun _ _ _ _ _ => next) ran

end Placed

/-- Reading stops at a character, in the state that the text before it leads to. -/
structure Stops (maxDepth : Nat) (fault : Fault) (before : List Char) (char : Char)
    (state : State) : Prop where
  ran : before.foldlM (State.next maxDepth) .initial = .ok state
  placed : Placed before state
  failed : state.move maxDepth char = .error fault

section Stops

variable {maxDepth : Nat} {fault : Fault} {text before : List Char} {char : Char} {state : State}

/-- Nothing after the character is looked at. -/
theorem Stops.read_eq (stops : Stops maxDepth fault before char state) (rest : List Char) :
    read maxDepth (before ++ char :: rest) = .error fault := by
  rw [read, List.foldlM_append, stops.ran]
  apply bind_eq_error.mpr
  left
  show List.foldlM (State.next maxDepth) state (char :: rest) = .error fault
  rw [List.foldlM_cons, State.next, stops.failed]
  rfl

theorem Stops.refuses (stops : Stops maxDepth fault before char state) :
    Refuses state char fault := by
  have answers := @answers_move maxDepth state char stops.placed.agrees
  rwa [stops.failed] at answers

/-- Reading that fails before the end of the text stops at one of its characters. -/
theorem exists_stops (failed : text.foldlM (State.next maxDepth) .initial = .error fault) :
    ∃ before char after state,
      text = before ++ char :: after ∧ Stops maxDepth fault before char state := by
  induction text using List.reverseRecOn with
  | nil => cases failed
  | append_singleton text char inductionHypothesis =>
      rw [List.foldlM_append] at failed
      rcases bind_eq_error.mp failed with failedEarlier | ⟨state, ran, failed⟩
      · obtain ⟨before, refused, after, state, rfl, stops⟩ := inductionHypothesis failedEarlier
        exact ⟨before, refused, after ++ [char], state, List.append_assoc _ _ _, stops⟩
      · rcases bind_eq_error.mp failed with stopped | ⟨_, _, returned⟩
        · rcases bind_eq_error.mp stopped with refused | ⟨_, _, returned⟩
          · exact ⟨text, char, [], state, rfl, ran, .ofRun ran, refused⟩
          · cases returned
        · cases returned

end Stops

end Reader

end BoxLang
