import BoxLang.Proofs.Reader.Completeness

/-!
# The moves of the reader

All that may come of a character, as a table: which states it can be read in, and where it
leads.  What reading keeps is then shown once for each row of the table.
-/

namespace BoxLang.Reader

/-- A name has just been read, or is being read. -/
def Mode.Names (name : String) : Mode → Prop
  | .name chars => name = String.ofList chars.reverse
  | .named ended => name = ended
  | _ => False

/-- What comes of a character in a state. -/
inductive Moves (maxDepth : Nat) : State → Char → Except Fault (Context × Mode) → Prop
  | blank {offset : Nat} {context : Context} {char : Char} :
      isSpace char = true → Moves maxDepth ⟨offset, context, .ready⟩ char (.ok (context, .ready))
  | openString {offset : Nat} {context : Context} {char : Char} :
      char = '"' ∨ char = '\'' →
      Moves maxDepth ⟨offset, context, .ready⟩ char (.ok (context, .string offset char []))
  | beginNumeral {offset : Nat} {context : Context} {char : Char} :
      char.isDigit = true ∨ Numeral.isSign char = true →
      Moves maxDepth ⟨offset, context, .ready⟩ char
        (.ok (context, .numeral (.begin offset char)))
  | openBox {offset : Nat} {context : Context} :
      Moves maxDepth ⟨offset, context, .ready⟩ '{'
        (.ok (State.nest maxDepth (.box offset [] context)))
  | beginName {offset : Nat} {context : Context} {char : Char} :
      startsName char = true →
      Moves maxDepth ⟨offset, context, .ready⟩ char (.ok (context, .name [char]))
  | inString {offset opening : Nat} {context : Context} {quote char : Char}
      {content : List Char} :
      char ≠ quote →
      Moves maxDepth ⟨offset, context, .string opening quote content⟩ char
        (.ok (context, .string opening quote (char :: content)))
  | closeString {offset opening : Nat} {context : Context} {quote : Char} {content : List Char} :
      Moves maxDepth ⟨offset, context, .string opening quote content⟩ quote
        (.ok (context.add (.text (Utf8.encode content.reverse)), .complete))
  | inNumeral {offset : Nat} {context : Context} {numeral numeral' : Numeral} {char : Char} :
      numeral.next char = .longer numeral' →
      Moves maxDepth ⟨offset, context, .numeral numeral⟩ char (.ok (context, .numeral numeral'))
  | endNumeral {offset : Nat} {context : Context} {numeral : Numeral} {literal : Expr}
      {char : Char} :
      numeral.close = .ok literal → isSpace char = true →
      Moves maxDepth ⟨offset, context, .numeral numeral⟩ char
        (.ok (context.add literal, .complete))
  | malformed {offset : Nat} {context : Context} {numeral : Numeral} {char : Char}
      {reason : String} :
      numeral.next char = .malformed reason →
      Moves maxDepth ⟨offset, context, .numeral numeral⟩ char
        (.error ⟨.invalidNumber reason, numeral.span⟩)
  | unfinished {offset : Nat} {context : Context} {numeral : Numeral} {char : Char}
      {fault : Fault} :
      numeral.close = .error fault →
      Moves maxDepth ⟨offset, context, .numeral numeral⟩ char (.error fault)
  | inName {offset : Nat} {context : Context} {chars : List Char} {char : Char} :
      continuesName char = true →
      Moves maxDepth ⟨offset, context, .name chars⟩ char (.ok (context, .name (char :: chars)))
  | endName {offset : Nat} {context : Context} {mode : Mode} {name : String} {char : Char} :
      mode.Names name → isSpace char = true →
      Moves maxDepth ⟨offset, context, mode⟩ char (.ok (context, .named name))
  | assign {offset : Nat} {context : Context} {mode : Mode} {name : String} :
      mode.Names name →
      Moves maxDepth ⟨offset, context, mode⟩ '='
        (.ok (State.nest maxDepth (.assignment name context)))
  | settled {offset : Nat} {context : Context} {char : Char} :
      isSpace char = true →
      Moves maxDepth ⟨offset, context, .complete⟩ char (.ok (context, .complete))
  | semicolon {state : State} {context : Context} :
      Rests context state → context.IsBlock →
      Moves maxDepth state ';' (.ok (context, .ready))
  | closeBox {state : State} {opening : Nat} {statements : List Expr} {outer : Context} :
      Rests (.box opening statements outer) state →
      Moves maxDepth state '}'
        (.ok (outer.add (.box (.ofStatements statements.reverse)), .complete))
  | misplaced {state : State} {context : Context} {char : Char} :
      Rests context state → isSpace char = false →
      Moves maxDepth state char
        (.error (State.faultAt state.offset char (context.misplaced char)))
  | tooDeep {offset : Nat} {context : Context} {char : Char} :
      Moves maxDepth ⟨offset, context, .tooDeep⟩ char
        (.error (State.faultAt offset char (.maxDepthExceeded context.depth maxDepth)))

namespace Moves

variable {maxDepth offset : Nat} {context : Context} {state : State} {char : Char}

theorem punctuation (rests : Rests context state) (notSpace : isSpace char = false) :
    Moves maxDepth state char (State.punctuation state.offset context char) := by
  unfold State.punctuation
  split
  case h_1 => exact .semicolon rests trivial
  case h_2 => exact .semicolon rests trivial
  case h_3 => exact .closeBox rests
  case h_4 => exact .misplaced rests notSpace

theorem atStart :
    Moves maxDepth ⟨offset, context, .ready⟩ char
      (State.atStart maxDepth offset context char) := by
  unfold State.atStart
  split
  case isTrue space => exact .blank space
  case isFalse notSpace =>
    split
    case isTrue isQuote => exact .openString isQuote
    case isFalse =>
      split
      case isTrue begins => exact .beginNumeral ((Bool.or_eq_true _ _).mp begins)
      case isFalse =>
        split
        case isTrue isBrace =>
          subst isBrace
          exact .openBox
        case isFalse =>
          split
          case isTrue starts => exact .beginName starts
          case isFalse => exact punctuation .ready (Bool.eq_false_iff.mpr notSpace)

theorem afterName {mode : Mode} {name : String} (names : mode.Names name)
    (rests : Rests (context.add (.get name)) ⟨offset, context, mode⟩) :
    Moves maxDepth ⟨offset, context, mode⟩ char
      (State.afterName maxDepth offset context name char) := by
  unfold State.afterName
  split
  case isTrue space => exact .endName names space
  case isFalse notSpace =>
    split
    case isTrue isEqual =>
      subst isEqual
      exact .assign names
    case isFalse => exact punctuation rests (Bool.eq_false_iff.mpr notSpace)

theorem ofNumeral {numeral : Numeral} :
    Moves maxDepth ⟨offset, context, .numeral numeral⟩ char
      (State.inNumeral offset context numeral char) := by
  unfold State.inNumeral
  split
  case h_1 numeral' longer => exact .inNumeral longer
  case h_2 reason malformed => exact .malformed malformed
  case h_3 =>
    cases closed : numeral.close with
    | error fault => exact .unfinished closed
    | ok literal =>
        show Moves maxDepth ⟨offset, context, .numeral numeral⟩ char
          (State.afterExpression offset (context.add literal) char)
        unfold State.afterExpression
        split
        case isTrue space => exact .endNumeral closed space
        case isFalse notSpace =>
          exact punctuation (.numeral closed rfl) (Bool.eq_false_iff.mpr notSpace)

/-- The table is complete. -/
theorem ofMove (state : State) (char : Char) :
    Moves maxDepth state char (state.move maxDepth char) := by
  obtain ⟨offset, context, mode⟩ := state
  cases mode with
  | ready => exact atStart
  | complete =>
      simp only [State.move, State.afterExpression]
      split
      case isTrue space => exact .settled space
      case isFalse notSpace => exact punctuation .complete (Bool.eq_false_iff.mpr notSpace)
  | string opening quote content =>
      simp only [State.move]
      split
      case isTrue isQuote =>
        subst isQuote
        exact .closeString
      case isFalse differs => exact .inString differs
  | numeral numeral => exact ofNumeral
  | name chars =>
      simp only [State.move]
      split
      case isTrue continues => exact .inName continues
      case isFalse => exact afterName rfl (.name rfl)
  | named name => exact afterName rfl (.named rfl)
  | tooDeep => exact .tooDeep

end Moves

/-- Reads on from a state to the end of the text. -/
def State.readOn (maxDepth : Nat) (state : State) (unread : List Char) : Except Fault Expr := do
  let state ← unread.foldlM (State.next maxDepth) state
  state.finish maxDepth

theorem State.readOn_cons (maxDepth : Nat) (state : State) (char : Char) (unread : List Char) :
    state.readOn maxDepth (char :: unread) =
      state.next maxDepth char >>= fun state => state.readOn maxDepth unread := by
  simp only [readOn, List.foldlM_cons, bind_assoc]

end BoxLang.Reader
