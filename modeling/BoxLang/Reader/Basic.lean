import BoxLang.Reader.State

/-!
# Reading programs

`State.next` reads one character and `State.finish` ends a text, so `parse` is a
fold over the characters.  A fault depends only on the characters up to the one
that shows it.
-/

namespace BoxLang.Reader

namespace State

/-- A fault at a character that is read next. -/
def faultAt (offset : Nat) (char : Char) (kind : FaultKind) : Fault :=
  ⟨kind, Span.ofChar offset char⟩

/-- Enters a box or an assignment. -/
def nest (maxDepth : Nat) (context : Context) : Context × Mode :=
  (context, if context.depth ≤ maxDepth then .ready else .tooDeep)

/-- A character that neither starts nor continues an expression: it ends a
statement or a box. -/
def punctuation (offset : Nat) (context : Context) (char : Char) :
    Except Fault (Context × Mode) :=
  match context, char with
  | .program statements, ';' => .ok (.program statements, .ready)
  | .box opening statements outer, ';' => .ok (.box opening statements outer, .ready)
  | .box _ statements outer, '}' =>
      .ok (outer.add (.box (.ofStatements statements.reverse)), .complete)
  | context, char => .error (faultAt offset char (context.misplaced char))

/-- A character where an expression may start. -/
def atStart (maxDepth offset : Nat) (context : Context) (char : Char) :
    Except Fault (Context × Mode) :=
  if isSpace char then .ok (context, .ready)
  else if char = '"' ∨ char = '\'' then .ok (context, .string offset char [])
  else if char.isDigit || Numeral.isSign char then
    .ok (context, .numeral (.begin offset char))
  else if char = '{' then .ok (nest maxDepth (.box offset [] context))
  else if startsName char then .ok (context, .name [char])
  else punctuation offset context char

/-- A character after an expression. -/
def afterExpression (offset : Nat) (context : Context) (char : Char) :
    Except Fault (Context × Mode) :=
  if isSpace char then .ok (context, .complete)
  else punctuation offset context char

/-- A character after a name. -/
def afterName (maxDepth offset : Nat) (context : Context) (name : String) (char : Char) :
    Except Fault (Context × Mode) :=
  if isSpace char then .ok (context, .named name)
  else if char = '=' then .ok (nest maxDepth (.assignment name context))
  else punctuation offset (context.add (.get name)) char

/-- A character inside or right after a numeral. -/
def inNumeral (offset : Nat) (context : Context) (numeral : Numeral) (char : Char) :
    Except Fault (Context × Mode) :=
  match numeral.next char with
  | .longer numeral => .ok (context, .numeral numeral)
  | .malformed reason => .error ⟨.invalidNumber reason, numeral.span⟩
  | .ended => do
      let literal ← numeral.close
      afterExpression offset (context.add literal) char

/-- The context and mode after one character. -/
def move (maxDepth : Nat) (state : State) (char : Char) : Except Fault (Context × Mode) :=
  let offset := state.offset
  let context := state.context
  match state.mode with
  | .ready => atStart maxDepth offset context char
  | .complete => afterExpression offset context char
  | .string opening quote content =>
      if char = quote then
        .ok (context.add (.text (Utf8.encode content.reverse)), .complete)
      else .ok (context, .string opening quote (char :: content))
  | .numeral numeral => inNumeral offset context numeral char
  | .name chars =>
      if continuesName char then .ok (context, .name (char :: chars))
      else afterName maxDepth offset context (String.ofList chars.reverse) char
  | .named name => afterName maxDepth offset context name char
  | .tooDeep =>
      .error (faultAt offset char (.maxDepthExceeded context.depth maxDepth))

/-- Reads one character. -/
def next (maxDepth : Nat) (state : State) (char : Char) : Except Fault State := do
  let (context, mode) ← state.move maxDepth char
  return ⟨state.offset + char.utf8Size, context, mode⟩

/-- The program of a context at the end of a text of `length` bytes. -/
def finishContext (length : Nat) : Context → Except Fault Expr
  | .program statements => .ok (.ofStatements statements.reverse)
  | .box opening _ _ => .error ⟨.unclosedBox none, ⟨opening, length⟩⟩
  | .assignment _ _ => .error ⟨.unexpectedEnd Context.expectedValue, .point length⟩

/-- Ends the text. -/
def finish (maxDepth : Nat) (state : State) : Except Fault Expr :=
  let length := state.offset
  let context := state.context
  match state.mode with
  | .ready | .complete => finishContext length context
  | .string opening _ _ => .error ⟨.unterminatedString, ⟨opening, length⟩⟩
  | .numeral numeral => do
      let literal ← numeral.close
      finishContext length (context.add literal)
  | .name chars => finishContext length (context.add (.get (String.ofList chars.reverse)))
  | .named name => finishContext length (context.add (.get name))
  | .tooDeep => .error ⟨.maxDepthExceeded context.depth maxDepth, .point length⟩

end State

/-- Reads a text whose boxes and assignments nest at most `maxDepth` deep. -/
def read (maxDepth : Nat) (text : List Char) : Except Fault Expr := do
  let state ← text.foldlM (State.next maxDepth) .initial
  state.finish maxDepth

end BoxLang.Reader

namespace BoxLang

/-- The nesting of boxes and assignments allowed when nothing else is said. -/
def defaultMaxDepth : Nat :=
  256

/-- The tree of a program text, or the first fault in it. -/
def parseWithin (maxDepth : Nat) (source : String) : Except ParseError Expr :=
  match Reader.read maxDepth source.toList with
  | .ok expr => .ok expr
  | .error fault => .error ⟨fault, source⟩

theorem parseWithin_ok_iff_read {maxDepth : Nat} {source : String} {expr : Expr} :
    parseWithin maxDepth source = .ok expr ↔ Reader.read maxDepth source.toList = .ok expr := by
  unfold parseWithin
  cases Reader.read maxDepth source.toList <;> simp

theorem parseWithin_error_iff_read {maxDepth : Nat} {source : String} {error : ParseError} :
    parseWithin maxDepth source = .error error ↔
      Reader.read maxDepth source.toList = .error error.toFault ∧ error.source = source := by
  obtain ⟨fault, source'⟩ := error
  unfold parseWithin
  cases Reader.read maxDepth source.toList with
  | ok expr => simp
  | error fault' =>
      simp only [Except.error.injEq, ParseError.mk.injEq]
      exact and_congr_right' eq_comm

def parse (source : String) : Except ParseError Expr :=
  parseWithin defaultMaxDepth source

end BoxLang
