import Mathlib.Data.List.TakeWhile
import Mathlib.Data.String.Basic
import BoxLang.Proofs.Reader.Moves

/-!
# How reading goes on

What a state makes of the text that is left depends on its next character and on where that leads.
So a run of characters that a state takes in can be passed over at once, and states that treat
the next character alike can stand for each other.
-/

/-- The span of the first of some characters, empty if there is none. -/
def BoxLang.Span.ofHead (offset : Nat) : List Char → Span
  | [] => point offset
  | char :: _ => ofChar offset char

namespace BoxLang.Reader

variable {maxDepth offset : Nat} {context : Context} {state state' : State} {char : Char}
  {unread : List Char}

/-- A character with which an expression starts. -/
def startsExpr (char : Char) : Bool :=
  char == '"' || char == '\'' || char.isDigit || Numeral.isSign char || char == '{' ||
    startsName char

theorem readOn_of_ok {mode : Mode} (moved : state.move maxDepth char = .ok (context, mode))
    (unread : List Char) :
    state.readOn maxDepth (char :: unread) =
      State.readOn maxDepth ⟨state.offset + char.utf8Size, context, mode⟩ unread := by
  rw [State.readOn_cons, State.next, moved]
  rfl

theorem readOn_of_error {fault : Fault} (moved : state.move maxDepth char = .error fault)
    (unread : List Char) : state.readOn maxDepth (char :: unread) = .error fault := by
  rw [State.readOn_cons, State.next, moved]
  rfl

/-- States that treat the next character, or the end, alike read on alike. -/
theorem readOn_congr (offset_eq : state.offset = state'.offset)
    (ends : state.finish maxDepth = state'.finish maxDepth)
    (moves : ∀ char ∈ unread.head?, state.move maxDepth char = state'.move maxDepth char) :
    state.readOn maxDepth unread = state'.readOn maxDepth unread := by
  cases unread with
  | nil => exact ends
  | cons char unread =>
      rw [State.readOn_cons, State.readOn_cons, State.next, State.next,
        moves char (Option.mem_some_self char), offset_eq]

/-- A mode that takes in characters takes in a whole run of them. -/
theorem readOn_collecting {collecting : List Char → Mode} {text : List Char}
    (moves : ∀ char ∈ text, ∀ offset done,
      State.move maxDepth ⟨offset, context, collecting done⟩ char =
        .ok (context, collecting (char :: done)))
    (offset : Nat) (done rest : List Char) :
    State.readOn maxDepth ⟨offset, context, collecting done⟩ (text ++ rest) =
      State.readOn maxDepth
        ⟨offset + String.utf8Len text, context, collecting (text.reverse ++ done)⟩ rest := by
  induction text generalizing offset done with
  | nil => rfl
  | cons char text inductionHypothesis =>
      obtain ⟨moved, moves⟩ := List.forall_mem_cons.mp moves
      rw [List.cons_append, readOn_of_ok (moved offset done), inductionHypothesis moves,
        String.utf8Len_cons, Nat.add_comm (String.utf8Len _), ← Nat.add_assoc,
        List.reverse_cons, List.append_assoc]
      rfl

theorem refuses_head?_dropWhile (accepts : Char → Bool) (unread : List Char) :
    ∀ char ∈ (unread.dropWhile accepts).head?, accepts char = false := by
  intro char head
  have stopped := List.head?_dropWhile_not accepts unread
  rw [Option.mem_def.mp head] at stopped
  exact stopped

/-- Spaces make no difference in a mode. -/
def Mode.SkipsSpace : Mode → Prop
  | .ready | .complete | .named _ => True
  | .string _ _ _ | .numeral _ | .name _ | .tooDeep => False

theorem move_space {mode : Mode} (skips : mode.SkipsSpace) (space : isSpace char = true) :
    State.move maxDepth ⟨offset, context, mode⟩ char = .ok (context, mode) := by
  cases mode with
  | ready => simp [State.move, State.atStart, space]
  | complete => simp [State.move, State.afterExpression, space]
  | named name => simp [State.move, State.afterName, space]
  | string | numeral | name | tooDeep => cases skips

theorem readOn_spaces {mode : Mode} (skips : mode.SkipsSpace) (offset : Nat)
    (unread : List Char) :
    State.readOn maxDepth ⟨offset, context, mode⟩ unread =
      State.readOn maxDepth
        ⟨offset + String.utf8Len (unread.takeWhile isSpace), context, mode⟩
        (unread.dropWhile isSpace) := by
  have moves : ∀ char ∈ unread.takeWhile isSpace, ∀ offset, List Char →
      State.move maxDepth ⟨offset, context, mode⟩ char = .ok (context, mode) :=
    fun char member offset _ => move_space skips (List.mem_takeWhile_imp member)
  have passed := readOn_collecting moves offset [] (unread.dropWhile isSpace)
  rwa [List.takeWhile_append_dropWhile] at passed

theorem move_complete (notSpace : isSpace char = false) :
    State.move maxDepth ⟨offset, context, .complete⟩ char =
      State.punctuation offset context char := by
  simp [State.move, State.afterExpression, notSpace]

/-- Where no expression starts, it makes no difference whether one has just ended. -/
theorem readOn_ready_eq_complete
    (quiet : ∀ char ∈ unread.head?, isSpace char = false ∧ startsExpr char = false) :
    State.readOn maxDepth ⟨offset, context, .ready⟩ unread =
      State.readOn maxDepth ⟨offset, context, .complete⟩ unread := by
  refine readOn_congr rfl rfl ?_
  intro char head
  obtain ⟨notSpace, notStart⟩ := quiet char head
  simp only [startsExpr, Bool.or_eq_false_iff, beq_eq_false_iff_ne] at notStart
  rw [move_complete notSpace]
  simp [State.move, State.atStart, notSpace, notStart]

/-- A name has ended where a character does not continue it. -/
theorem readOn_name_eq_named {chars : List Char}
    (ends : ∀ char ∈ unread.head?, continuesName char = false) :
    State.readOn maxDepth ⟨offset, context, .name chars⟩ unread =
      State.readOn maxDepth ⟨offset, context, .named (String.ofList chars.reverse)⟩ unread := by
  refine readOn_congr rfl rfl ?_
  intro char head
  simp [State.move, ends char head]

/-- A name that is not assigned to is an expression. -/
theorem readOn_named_eq_complete {name : String}
    (unassigned : ∀ char ∈ unread.head?, isSpace char = false ∧ char ≠ '=') :
    State.readOn maxDepth ⟨offset, context, .named name⟩ unread =
      State.readOn maxDepth ⟨offset, context.add (.get name), .complete⟩ unread := by
  refine readOn_congr rfl rfl ?_
  intro char head
  obtain ⟨notSpace, notEqual⟩ := unassigned char head
  rw [move_complete notSpace]
  simp [State.move, State.afterName, notSpace, notEqual]

/-- A name goes as far as letters, digits and underscores go. -/
theorem readOn_name {first : Char} (starts : startsName first = true) (unread : List Char) :
    State.readOn maxDepth ⟨offset, context, .ready⟩ (first :: unread) =
      State.readOn maxDepth
        ⟨offset + String.utf8Len (first :: unread.takeWhile continuesName), context,
          .named (String.ofList (first :: unread.takeWhile continuesName))⟩
        (unread.dropWhile continuesName) := by
  have inside : ∀ char ∈ unread.takeWhile continuesName, ∀ offset done,
      State.move maxDepth ⟨offset, context, .name done⟩ char =
        .ok (context, .name (char :: done)) := by
    intro char member offset done
    simp [State.move, List.mem_takeWhile_imp member]
  have collected := readOn_collecting inside (offset + first.utf8Size) [first]
    (unread.dropWhile continuesName)
  rw [List.takeWhile_append_dropWhile] at collected
  have ends := refuses_head?_dropWhile continuesName unread
  rw [readOn_of_ok (move_startsName starts), collected, readOn_name_eq_named ends,
    String.utf8Len_cons, Nat.add_comm (String.utf8Len _), ← Nat.add_assoc]
  simp

section Strings

variable {quote : Char} {content : List Char}

theorem readOn_inString (isQuote : quote = '"' ∨ quote = '\'') (apart : quote ∉ content)
    (rest : List Char) :
    State.readOn maxDepth ⟨offset, context, .ready⟩ (quote :: (content ++ rest)) =
      State.readOn maxDepth
        ⟨offset + String.utf8Len (quote :: content), context,
          .string offset quote content.reverse⟩ rest := by
  have notSpace : isSpace quote = false := by rcases isQuote with rfl | rfl <;> rfl
  have opened : State.move maxDepth ⟨offset, context, .ready⟩ quote =
      .ok (context, .string offset quote []) := by
    simp [State.move, State.atStart, notSpace, isQuote]
  have inside : ∀ char ∈ content, ∀ offset' done,
      State.move maxDepth ⟨offset', context, .string offset quote done⟩ char =
        .ok (context, .string offset quote (char :: done)) := by
    intro char member offset' done
    have differs : char ≠ quote := by
      rintro rfl
      exact apart member
    simp [State.move, differs]
  rw [readOn_of_ok opened, readOn_collecting inside, String.utf8Len_cons,
    Nat.add_comm (String.utf8Len _), ← Nat.add_assoc, List.append_nil]

theorem readOn_string (isQuote : quote = '"' ∨ quote = '\'') (apart : quote ∉ content)
    (rest : List Char) :
    State.readOn maxDepth ⟨offset, context, .ready⟩ (quote :: (content ++ quote :: rest)) =
      State.readOn maxDepth
        ⟨offset + String.utf8Len (quote :: content) + quote.utf8Size,
          context.add (.text (Utf8.encode content)), .complete⟩ rest := by
  rw [readOn_inString isQuote apart]
  apply readOn_of_ok
  simp [State.move]

theorem readOn_openString (isQuote : quote = '"' ∨ quote = '\'') (apart : quote ∉ content) :
    State.readOn maxDepth ⟨offset, context, .ready⟩ (quote :: content) =
      .error ⟨.unterminatedString, ⟨offset, offset + String.utf8Len (quote :: content)⟩⟩ := by
  have inside := @readOn_inString maxDepth offset context quote content isQuote apart []
  rw [List.append_nil] at inside
  rw [inside]
  rfl

end Strings

section Nesting

variable {name : String} {opening : Nat} {statements : List Expr} {outer inner : Context}

theorem readOn_tooDeep (offset : Nat) (unread : List Char) :
    State.readOn maxDepth ⟨offset, context, .tooDeep⟩ unread =
      .error ⟨.maxDepthExceeded context.depth maxDepth, .ofHead offset unread⟩ := by
  cases unread with
  | nil => rfl
  | cons char unread => exact readOn_of_error rfl unread

/-- Reads on inside a box or an assignment that has just been opened. -/
def enter (maxDepth offset : Nat) (inner : Context) (unread : List Char) : Except Fault Expr :=
  State.readOn maxDepth ⟨offset, inner, (State.nest maxDepth inner).2⟩ unread

theorem enter_eq :
    enter maxDepth offset inner unread =
      if inner.depth ≤ maxDepth then State.readOn maxDepth ⟨offset, inner, .ready⟩ unread
      else .error ⟨.maxDepthExceeded inner.depth maxDepth, .ofHead offset unread⟩ := by
  unfold enter State.nest
  split
  case isTrue => rfl
  case isFalse => exact readOn_tooDeep offset unread

theorem readOn_openBox :
    State.readOn maxDepth ⟨offset, context, .ready⟩ ('{' :: unread) =
      enter maxDepth (offset + 1) (.box offset [] context) unread :=
  readOn_of_ok rfl unread

theorem readOn_equals :
    State.readOn maxDepth ⟨offset, context, .named name⟩ ('=' :: unread) =
      enter maxDepth (offset + 1) (.assignment name context) unread :=
  readOn_of_ok rfl unread

theorem readOn_semicolon (isBlock : context.IsBlock) :
    State.readOn maxDepth ⟨offset, context, .complete⟩ (';' :: unread) =
      State.readOn maxDepth ⟨offset + 1, context, .ready⟩ unread :=
  readOn_of_ok ((move_complete rfl).trans (isBlock.semicolon offset)) unread

theorem readOn_closeBox :
    State.readOn maxDepth ⟨offset, .box opening statements outer, .complete⟩ ('}' :: unread) =
      State.readOn maxDepth
        ⟨offset + 1, outer.add (.box (.ofStatements statements.reverse)), .complete⟩ unread :=
  readOn_of_ok rfl unread

theorem readOn_misplaced (notSpace : isSpace char = false)
    (refused : State.punctuation offset context char =
      .error (State.faultAt offset char (context.misplaced char))) :
    State.readOn maxDepth ⟨offset, context, .complete⟩ (char :: unread) =
      .error ⟨context.misplaced char, .ofChar offset char⟩ :=
  readOn_of_error ((move_complete notSpace).trans refused) unread

end Nesting

section Ends

variable {opening : Nat} {name : String} {statements : List Expr} {outer : Context}

/-- What is wrong where a value is missing, by what is there instead. -/
def missingValue : Option Char → FaultKind
  | some found => .unexpectedChar Context.expectedValue found
  | none => .unexpectedEnd Context.expectedValue

/-- An assignment without a value. -/
theorem readOn_assignment (quiet : ∀ char ∈ unread.head?, isSpace char = false) :
    State.readOn maxDepth ⟨offset, .assignment name outer, .complete⟩ unread =
      .error ⟨missingValue unread.head?, .ofHead offset unread⟩ := by
  cases unread with
  | nil => rfl
  | cons char unread => exact readOn_misplaced (quiet char rfl) rfl

/-- A box without its end. -/
theorem readOn_unclosed (ended : ∀ char ∈ unread.head?, isSpace char = false ∧ char ≠ ';')
    (unclosed : unread.head? ≠ some '}') :
    State.readOn maxDepth ⟨offset, .box opening statements outer, .complete⟩ unread =
      .error ⟨.unclosedBox unread.head?,
        if unread.head?.isNone then .combine ⟨opening, opening + 1⟩ (.ofHead offset unread)
        else .ofHead offset unread⟩ := by
  cases unread with
  | nil => rfl
  | cons char unread =>
      obtain ⟨notSpace, notSemicolon⟩ := ended char rfl
      have notBrace : char ≠ '}' := by
        rintro rfl
        exact unclosed rfl
      apply readOn_misplaced notSpace
      simp [State.punctuation, notSemicolon, notBrace]

theorem readOn_trailing (notSpace : isSpace char = false) (notSemicolon : char ≠ ';') :
    State.readOn maxDepth ⟨offset, .program statements, .complete⟩ (char :: unread) =
      .error ⟨.trailingInput char, .ofChar offset char⟩ := by
  apply readOn_misplaced notSpace
  simp [State.punctuation, notSemicolon]

end Ends

end BoxLang.Reader
