import BoxLang.Reader.Basic

/-!
# Reading by descent

A second way to read a program: one function for each construct, over the bytes of the text, with
a cursor that moves along them and counts the boxes and assignments that it is in.  Every access
to the text is checked, and so is the progress that recursion rests on.  A cursor remembers all
the places that it has been at.
-/

namespace BoxLang.Utf8

/-- What comes after some bytes of a text, unless they end inside a character or past the end. -/
def drop? : List Char → Nat → Option (List Char)
  | text, 0 => some text
  | [], _ + 1 => none
  | char :: text, length + 1 =>
      if char.utf8Size ≤ length + 1 then drop? text (length + 1 - char.utf8Size) else none

/-- The first bytes of a text, unless they end inside a character or past the end. -/
def take? : List Char → Nat → Option (List Char)
  | _, 0 => some []
  | [], _ + 1 => none
  | char :: text, length + 1 =>
      if char.utf8Size ≤ length + 1 then
        (take? text (length + 1 - char.utf8Size)).map (char :: ·)
      else none

/-- The text between two byte offsets. -/
def slice? (text : List Char) (start stop : Nat) : Option (List Char) :=
  if start ≤ stop then (drop? text start).bind (take? · (stop - start)) else none

end BoxLang.Utf8

namespace BoxLang.Descent

open Reader

/-- A text, and what is around the part of it that is being read. -/
structure Input where
  text : List Char
  maxDepth : Nat
  /-- Where the boxes and assignments that are being read have been opened, innermost first. -/
  enclosing : List Nat

/-- A place that reading has come to. -/
structure Place where
  /-- The offset of the next byte. -/
  index : Nat
  /-- The count of open boxes and assignments. -/
  depth : Nat
  enclosing : List Nat
  deriving DecidableEq

/-- A place, and all the places before it, newest first. -/
structure Cursor where
  here : Place
  earlier : List Place

namespace Cursor

def start : Cursor :=
  ⟨⟨0, 0, []⟩, []⟩

def index (cursor : Cursor) : Nat :=
  cursor.here.index

def depth (cursor : Cursor) : Nat :=
  cursor.here.depth

def places (cursor : Cursor) : List Place :=
  cursor.here :: cursor.earlier

/-- Goes to another place. No cursor moves in any other way. -/
def goTo (cursor : Cursor) (input : Input) (index depth : Nat) : Cursor :=
  ⟨⟨index, depth, input.enclosing⟩, cursor.places⟩

def advance (cursor : Cursor) (input : Input) (count : Nat) : Cursor :=
  cursor.goTo input (cursor.index + count) cursor.depth

end Cursor

namespace Input

def bytes (input : Input) : List UInt8 :=
  Utf8.encode input.text

/-- The number of bytes that are left to read. -/
def left (input : Input) (cursor : Cursor) : Nat :=
  input.bytes.length - cursor.index

/-- The same text, inside a box or an assignment that has been opened at an offset. -/
def inside (input : Input) (opening : Nat) : Input :=
  { input with enclosing := opening :: input.enclosing }

/-- The next byte. -/
def next? (input : Input) (cursor : Cursor) : Option Char :=
  input.bytes[cursor.index]?.map Char.ofUInt8

/-- The byte that has been read last. -/
def previous? (input : Input) (cursor : Cursor) : Option Char :=
  if cursor.index = 0 then none else input.bytes[cursor.index - 1]?.map Char.ofUInt8

theorem left_advance_lt {input : Input} {cursor : Cursor} {char : Char}
    (seen : input.next? cursor = some char) :
    input.left (cursor.advance input 1) < input.left cursor := by
  obtain ⟨byte, found, -⟩ := Option.map_eq_some_iff.mp seen
  obtain ⟨inRange, -⟩ := List.getElem?_eq_some_iff.mp found
  show input.bytes.length - (cursor.index + 1) < input.bytes.length - cursor.index
  omega

end Input

/-- Moves over all bytes of a class. -/
def skip (input : Input) (accepts : Char → Bool) (cursor : Cursor) : Cursor :=
  match _seen : input.next? cursor with
  | some char =>
      if accepts char then skip input accepts (cursor.advance input 1) else cursor
  | none => cursor
termination_by input.left cursor
decreasing_by exact Input.left_advance_lt _seen

theorem left_skip_le (input : Input) (accepts : Char → Bool) (cursor : Cursor) :
    input.left (skip input accepts cursor) ≤ input.left cursor := by
  fun_induction skip input accepts cursor with
  | case1 cursor char seen accepted inductionHypothesis =>
      exact Nat.le_trans inductionHypothesis (Nat.le_of_lt (Input.left_advance_lt seen))
  | case2 => exact Nat.le_refl _
  | case3 => exact Nat.le_refl _

/-- What must hold for reading to go on. -/
inductive Check
  /-- There is a byte where one is looked at. -/
  | byte
  /-- A part of the text starts and ends between characters. -/
  | boundary
  /-- Something is open where the count is lowered. -/
  | count
  /-- Fewer bytes are left than before. -/
  | progress
  deriving DecidableEq

/-- Why reading stops. -/
inductive Stop
  /-- The text is not a program. -/
  | fault (fault : Fault)
  /-- A check has failed. -/
  | failed (check : Check)
  deriving DecidableEq

abbrev Parser (α : Type) : Type :=
  EStateM Stop Cursor α

abbrev Result (α : Type) : Type :=
  EStateM.Result Stop Cursor α

/-- Goes on from what has been read. -/
def andThen {α β : Type} (result : Result α) (next : α → Parser β) : Result β :=
  match result with
  | .ok value cursor => next value cursor
  | .error stop cursor => .error stop cursor

section Tokens

variable (input : Input)

def peek : Parser (Option Char) :=
  fun cursor => .ok (input.next? cursor) cursor

def advance (count : Nat) : Parser Unit :=
  fun cursor => .ok () (cursor.advance input count)

def skipSpace : Parser Unit :=
  fun cursor => .ok () (skip input isSpace cursor)

/-- Moves over one character if it comes next. -/
def eat (char : Char) : Parser Bool :=
  fun cursor =>
    if input.next? cursor = some char then .ok true (cursor.advance input 1)
    else .ok false cursor

/-- Goes on with what was found by a check. -/
def ensure {α : Type} (check : Check) (found : Option α) : Parser α :=
  match found with
  | some value => pure value
  | none => throw (.failed check)

def byteHere : Parser UInt8 := do
  ensure .byte input.bytes[(← get).index]?

def previous : Parser Char := do
  ensure .byte (input.previous? (← get))

/-- The bytes between two offsets. -/
def bytesBetween (start stop : Nat) : Parser (List UInt8) :=
  ensure .byte
    (if start ≤ stop ∧ stop ≤ input.bytes.length then
      some ((input.bytes.drop start).take (stop - start))
    else none)

/-- The text from an offset to the cursor. -/
def textSince (start : Nat) : Parser (List Char) := do
  ensure .boundary (Utf8.slice? input.text start (← get).index)

/-- The character at the cursor, if the text does not end there. -/
def charHere : Parser (Option Char) := do
  let unread ← ensure .boundary (Utf8.drop? input.text (← get).index)
  return unread.head?

def spanHere : Parser Span := do
  let index := (← get).index
  if index < input.bytes.length then ensure .boundary (Span.charAt? input.text index)
  else return .point index

def fail {α : Type} (kind : FaultKind) (span : Span) : Parser α :=
  throw (.fault ⟨kind, span⟩)

def failHere {α : Type} (kind : FaultKind) : Parser α := do
  fail kind (← spanHere input)

/-- Counts a box or an assignment that has been opened. -/
def enterNested : Parser Unit :=
  fun cursor =>
    let deeper := cursor.goTo input cursor.index (cursor.depth + 1)
    if deeper.depth ≤ input.maxDepth then .ok () deeper
    else failHere input (.maxDepthExceeded deeper.depth input.maxDepth) deeper

def exitNested : Parser Unit :=
  fun cursor =>
    match cursor.depth with
    | 0 => .error (.failed .count) cursor
    | depth + 1 => .ok () (cursor.goTo input cursor.index depth)

def endOfInput : Parser Unit := do
  skipSpace input
  match ← charHere input with
  | some found => failHere input (.trailingInput found)
  | none => return ()

def string : Parser Expr := do
  let opening := (← get).index
  let quote ← byteHere input
  advance input 1
  let unread ← bytesBetween input (opening + 1) input.bytes.length
  match unread.findIdx? (· == quote) with
  | some length =>
      let content ← bytesBetween input (opening + 1) (opening + 1 + length)
      advance input (length + 1)
      return .text content
  | none =>
      advance input unread.length
      fail .unterminatedString ⟨opening, input.bytes.length⟩

/-- A flaw of the number that starts at an offset. -/
def invalid {α : Type} (opening : Nat) (reason : String) : Parser α := do
  fail (.invalidNumber reason) ⟨opening, max (← get).index (opening + 1)⟩

/-- The digits, points and separators of a number, after its first digit. -/
def digits (opening : Nat) (seenPoint : Bool) (cursor : Cursor) : Result Unit :=
  match _seen : input.next? cursor with
  | none => .ok () cursor
  | some char =>
      match input.previous? cursor with
      | none => .error (.failed .byte) cursor
      | some previous =>
          if char.isDigit then digits opening seenPoint (cursor.advance input 1)
          else if char = '.' then
            if seenPoint then invalid opening "Unexpected second `.` in number" cursor
            else if previous.isDigit then digits opening true (cursor.advance input 1)
            else invalid opening "Expected digit before `.` in number" cursor
          else if char = '_' then
            if previous.isDigit then digits opening seenPoint (cursor.advance input 1)
            else invalid opening "Expected digit before `_` in number" cursor
          else .ok () cursor
termination_by input.left cursor
decreasing_by all_goals exact Input.left_advance_lt _seen

def sign : Parser Unit := do
  if (← peek input).any Numeral.isSign then advance input 1 else return ()

def firstDigit (opening : Nat) : Parser Unit := do
  if (← peek input).any Char.isDigit then advance input 1 else invalid opening Numeral.noDigit

/-- The literal of a number that has been read up to the cursor. -/
def literal (opening : Nat) : Parser Expr := do
  let last ← previous input
  if last = '_' then invalid opening "Trailing `_` in number"
  else if last = '.' then invalid opening "Expected digit after `.` in number"
  else
    let written ← textSince input opening
    match (Numeral.mk opening written.reverse).literal? with
    | some literal => return literal
    | none => fail (.numberOutOfRange (String.ofList written)) ⟨opening, (← get).index⟩

def afterFirstDigit (opening : Nat) : Parser Expr :=
  fun cursor => andThen (digits input opening false cursor) fun _ => literal input opening

def number : Parser Expr := do
  let opening := (← get).index
  sign input
  firstDigit input opening
  afterFirstDigit input opening

def name : Parser String := do
  let opening := (← get).index
  advance input 1
  modify (skip input continuesName)
  return String.ofList (← textSince input opening)

/-- Goes on with fewer bytes left than at the start. -/
def onward {α : Type} (start : Cursor)
    (parser : (cursor : Cursor) → input.left cursor < input.left start → Result α) : Parser α :=
  fun cursor =>
    if fewer : input.left cursor < input.left start then parser cursor fewer
    else .error (.failed .progress) cursor

end Tokens

mutual

/-- Statements with `;` between them, on top of those that are done, newest first. -/
def statements (input : Input) (done : List Expr) (start : Cursor) : Result (List Expr) :=
  match input.next? (skip input isSpace start) with
  | none => .ok done (skip input isSpace start)
  | some _ =>
      andThen (expression input (skip input isSpace start)) fun found => do
        skipSpace input
        if ← eat input ';' then
          onward input start fun cursor _ => statements input (found.toList ++ done) cursor
        else return found.toList ++ done
termination_by (input.left start, 3)
decreasing_by
  · have fewer := left_skip_le input isSpace start
    simp only [Prod.lex_def]
    omega
  · exact .left _ _ ‹_›

def sequence (input : Input) (start : Cursor) : Result Expr :=
  andThen (statements input [] start) fun done => pure (.ofStatements done.reverse)
termination_by (input.left start, 4)
decreasing_by exact .right _ (by decide)

/-- One expression, or none if the cursor is not where one starts. -/
def expression (input : Input) (start : Cursor) : Result (Option Expr) :=
  match input.next? start with
  | none => .ok none start
  | some char =>
      if char = '"' ∨ char = '\'' then andThen (string input start) fun expr => pure (some expr)
      else if char.isDigit || Numeral.isSign char then
        andThen (number input start) fun expr => pure (some expr)
      else if char = '{' then andThen (box input start) fun expr => pure (some expr)
      else if startsName char then
        andThen (named input start) fun expr => pure (some expr)
      else .ok none start
termination_by (input.left start, 2)
decreasing_by all_goals exact .right _ (by decide)

/-- An expression that may not be missing. -/
def value (input : Input) (start : Cursor) : Result Expr :=
  andThen (expression input start) fun
    | some expr => pure expr
    | none => do
        match ← charHere input with
        | some found => failHere input (.unexpectedChar Context.expectedValue found)
        | none => failHere input (.unexpectedEnd Context.expectedValue)
termination_by (input.left start, 3)
decreasing_by exact .right _ (by decide)

/-- A name, or an assignment to it. -/
def named (input : Input) (start : Cursor) : Result Expr :=
  andThen (name input start) fun name => do
    skipSpace input
    let opening := (← get).index
    if ← eat input '=' then
      enterNested (input.inside opening)
      skipSpace (input.inside opening)
      let value ← onward input start fun cursor _ => value (input.inside opening) cursor
      exitNested input
      return .assign name value
    else return .get name
termination_by (input.left start, 1)
decreasing_by exact .left _ _ ‹_›

def box (input : Input) (start : Cursor) : Result Expr :=
  andThen (advance input 1 start) fun _ => do
    enterNested (input.inside start.index)
    let body ← onward input start fun cursor _ => sequence (input.inside start.index) cursor
    if ← eat (input.inside start.index) '}' then
      exitNested input
      return .box body
    else
      let found ← charHere (input.inside start.index)
      let span ← spanHere (input.inside start.index)
      if found.isNone then
        fail (.unclosedBox found) (Span.combine ⟨start.index, start.index + 1⟩ span)
      else fail (.unclosedBox found) span
termination_by (input.left start, 1)
decreasing_by exact .left _ _ ‹_›

end

/-- A whole text. -/
def program (input : Input) (start : Cursor) : Result Expr :=
  andThen (sequence input start) fun expr => do
    endOfInput input
    return expr

/-- Reads a text from its start. -/
def run (maxDepth : Nat) (source : String) : Result Expr :=
  program ⟨source.toList, maxDepth, []⟩ .start

end BoxLang.Descent
