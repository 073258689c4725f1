import BoxLang.Binary64.Basic

/-!
# Expressions

The trees that programs are read into and the machine evaluates.  Reading yields
only some of them; the others are built by a host.
-/

namespace BoxLang

/-- A function of the host, known by its name. -/
structure HostFunction where
  name : String
  deriving DecidableEq

inductive Expr
  /-- Expressions evaluated in order; the last one gives the value. -/
  | sequence (items : List Expr)
  /-- A variable of the current scope. -/
  | get (name : String)
  /-- A variable of another box. -/
  | getFrom (target : Expr) (name : String)
  /-- Sets a variable of the current scope. -/
  | assign (name : String) (value : Expr)
  /-- Sets a variable of another box. -/
  | assignTo (target : Expr) (name : String) (value : Expr)
  | call (target argument : Expr)
  /-- A new box with nothing in it. -/
  | emptyBox
  /-- A new box, with the body evaluated inside it. -/
  | box (body : Expr)
  | text (bytes : List UInt8)
  | integer (value : Int64)
  | real (value : Binary64)
  | external (function : HostFunction)

namespace Expr

/-- The expression that stands for a list of statements: one statement stands for
itself. -/
def ofStatements : List Expr → Expr
  | [statement] => statement
  | statements => .sequence statements

/-- The name of the kind of node at the root. -/
def kindName : Expr → String
  | .sequence _ => "Multi"
  | .get _ | .getFrom _ _ => "Get"
  | .assign _ _ | .assignTo _ _ _ => "Assign"
  | .call _ _ => "Call"
  | .emptyBox | .box _ => "BoxLiteral"
  | .text _ => "StringLiteral"
  | .integer _ => "IntegerLiteral"
  | .real _ => "RealLiteral"
  | .external _ => "ExternalCall"

mutual

/-- Whether two trees are the same, with reals compared as numbers. -/
def agrees : Expr → Expr → Bool
  | .sequence items, .sequence items' => agreesAll items items'
  | .get name, .get name' => name == name'
  | .getFrom target name, .getFrom target' name' =>
      target.agrees target' && name == name'
  | .assign name value, .assign name' value' => name == name' && value.agrees value'
  | .assignTo target name value, .assignTo target' name' value' =>
      target.agrees target' && name == name' && value.agrees value'
  | .call target argument, .call target' argument' =>
      target.agrees target' && argument.agrees argument'
  | .emptyBox, .emptyBox => true
  | .box body, .box body' => body.agrees body'
  | .text bytes, .text bytes' => bytes == bytes'
  | .integer value, .integer value' => value == value'
  | .real value, .real value' => value.sameNumber value'
  | .external function, .external function' => function == function'
  | _, _ => false

/-- Whether two lists of trees agree item by item. -/
def agreesAll : List Expr → List Expr → Bool
  | [], [] => true
  | item :: items, item' :: items' => item.agrees item' && agreesAll items items'
  | _, _ => false

end

end Expr

end BoxLang
