import BoxLang.Binary64.Text
import BoxLang.Expr.Basic
import BoxLang.Text.Outline
import BoxLang.Text.Quoted

/-!
# Outlines of expressions

The structure of a tree for inspection.
-/

namespace BoxLang

/-- The bytes of a string, one entry each. -/
def Outline.ofBytes (bytes : List UInt8) : Outline :=
  .group "" .brackets (bytes.map fun byte => .text (Nat.repr byte.toNat))

namespace Expr

/-- One value under a name. -/
def outlineOf (name : String) (content : Outline) : Outline :=
  .group name .parentheses [content]

/-- A child that may be missing. -/
def outlineOption : Option Outline → Outline
  | none => .text "None"
  | some content => outlineOf "Some" content

def outlineName (name : String) : Outline :=
  .labelled "member" (.text (quoted name.toList))

def outlineGet (target : Option Outline) (name : String) : Outline :=
  .group "Get" .braces [.labelled "target" (outlineOption target), outlineName name]

def outlineAssign (target : Option Outline) (name : String) (value : Outline) : Outline :=
  .group "Assign" .braces
    [.labelled "target" (outlineOption target), outlineName name, .labelled "value" value]

mutual

def outline : Expr → Outline
  | .sequence items => outlineOf "Multi" (.group "" .brackets (outlineAll items))
  | .get name => outlineGet none name
  | .getFrom target name => outlineGet (some target.outline) name
  | .assign name value => outlineAssign none name value.outline
  | .assignTo target name value => outlineAssign (some target.outline) name value.outline
  | .call target argument =>
      .group "Call" .braces
        [.labelled "target" target.outline, .labelled "argument" argument.outline]
  | .emptyBox => outlineOf "BoxLiteral" (outlineOption none)
  | .box body => outlineOf "BoxLiteral" (outlineOption (some body.outline))
  | .text bytes => outlineOf "StringLiteral" (.ofBytes bytes)
  | .integer value => outlineOf "IntegerLiteral" (.text (toString value.toInt))
  | .real value => outlineOf "RealLiteral" (.text value.text)
  | .external _ => outlineOf "ExternalCall" (.text "ExternalFunction()")

def outlineAll : List Expr → List Outline
  | [] => []
  | item :: items => item.outline :: outlineAll items

end

end Expr

end BoxLang
