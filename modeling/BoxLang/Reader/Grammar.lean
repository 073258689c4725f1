import BoxLang.Reader.Basic

/-!
# The grammar

Which texts are programs, and which trees they stand for, without a word on how
they are read.
-/

namespace BoxLang.Reader

/-- A text of nothing but spaces. -/
def IsSpacing (text : List Char) : Prop :=
  ∀ char ∈ text, isSpace char = true

/-- A letter or underscore, and then letters, digits and underscores. -/
def IsName (text : List Char) : Prop :=
  ∃ first rest, text = first :: rest ∧ startsName first = true ∧
    ∀ char ∈ rest, continuesName char = true

/-- Digits with single separators between them. -/
inductive IsDigits : List Char → Prop
  | digit {char : Char} : char.isDigit = true → IsDigits [char]
  | snoc {text : List Char} {char : Char} :
      IsDigits text → char.isDigit = true → IsDigits (text ++ [char])
  | separated {text : List Char} {char : Char} :
      IsDigits text → char.isDigit = true → IsDigits (text ++ ['_', char])

/-- Digits, and possibly a point and more digits. -/
inductive IsUnsigned : List Char → Prop
  | whole {text : List Char} : IsDigits text → IsUnsigned text
  | fraction {whole fraction : List Char} :
      IsDigits whole → IsDigits fraction → IsUnsigned (whole ++ '.' :: fraction)

/-- The written form of a number. -/
inductive IsNumeral : List Char → Prop
  | unsigned {text : List Char} : IsUnsigned text → IsNumeral text
  | signed {sign : Char} {text : List Char} :
      Numeral.isSign sign = true → IsUnsigned text → IsNumeral (sign :: text)

def digitCount (text : List Char) : Nat :=
  text.countP Char.isDigit

/-- The number that the digits in a text stand for, each by its place. -/
def decimalValue : List Char → Nat
  | [] => 0
  | char :: text =>
      if char.isDigit then
        (char.toNat - '0'.toNat) * Nat.pow 10 (digitCount text) + decimalValue text
      else decimalValue text

/-- The integer that a text without a point stands for. -/
def integerValue (text : List Char) : Int :=
  if text.head? = some '-' then -decimalValue text else decimalValue text

/-- The real that a text with a point stands for. -/
def realValue (text : List Char) : Binary64 :=
  .ofRatio (text.head? = some '-') (decimalValue text)
    (Nat.pow 10 (digitCount (text.dropWhile (· ≠ '.'))))

/-- A text stands for a number that its type can hold. -/
inductive DerivesNumber : List Char → Expr → Prop
  | integer {text : List Char} :
      IsNumeral text → '.' ∉ text →
      Int64.minValue.toInt ≤ integerValue text → integerValue text ≤ Int64.maxValue.toInt →
      DerivesNumber text (.integer (Int64.ofInt (integerValue text)))
  | real {text : List Char} :
      IsNumeral text → '.' ∈ text → (realValue text).isFinite = true →
      DerivesNumber text (.real (realValue text))

mutual

/-- A text stands for an expression. -/
inductive DerivesExpr : List Char → Expr → Prop
  | string {quote : Char} {content : List Char} :
      quote = '"' ∨ quote = '\'' → quote ∉ content →
      DerivesExpr (quote :: content ++ [quote]) (.text (Utf8.encode content))
  | number {text : List Char} {literal : Expr} :
      DerivesNumber text literal → DerivesExpr text literal
  | get {name : List Char} : IsName name → DerivesExpr name (.get (String.ofList name))
  | assign {name before after text : List Char} {value : Expr} :
      IsName name → IsSpacing before → IsSpacing after → DerivesExpr text value →
      DerivesExpr (name ++ before ++ '=' :: after ++ text)
        (.assign (String.ofList name) value)
  | box {body : List Char} {statements : List Expr} :
      DerivesStatements body statements →
      DerivesExpr ('{' :: body ++ ['}']) (.box (.ofStatements statements))

/-- A text stands for statements with `;` between them, any of which may be missing. -/
inductive DerivesStatements : List Char → List Expr → Prop
  | missing {space : List Char} : IsSpacing space → DerivesStatements space []
  | single {before text after : List Char} {expr : Expr} :
      IsSpacing before → DerivesExpr text expr → IsSpacing after →
      DerivesStatements (before ++ text ++ after) [expr]
  | separated {first second : List Char} {statements statements' : List Expr} :
      DerivesStatements first statements → DerivesStatements second statements' →
      DerivesStatements (first ++ ';' :: second) (statements ++ statements')

end

/-- A text stands for a program. -/
def DerivesProgram (text : List Char) (expr : Expr) : Prop :=
  ∃ statements, DerivesStatements text statements ∧ expr = .ofStatements statements

end BoxLang.Reader
