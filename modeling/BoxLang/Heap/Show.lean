import BoxLang.Binary64.Text
import BoxLang.Expr.Outline
import BoxLang.Heap.Values
import BoxLang.Text.Utf8

/-!
# Showing boxes

Boxes are shown by their payloads, following lists and dictionaries but never
variables.  A payload holds boxes that are older than its own, so following it
once per box of the heap reaches everything.
-/

namespace BoxLang.Heap

/-- The text of a box without a payload. -/
def displayPlain (heap : Heap) (box : BoxId) : String :=
  match Kind.ofBox? box with
  | some .null => "null"
  | some kind => "<" ++ kind.name ++ ">"
  | none =>
      let names := (heap.variableNames box).filter (· != componentsName)
      "\x7b" ++ ", ".intercalate names ++ "\x7d"

/-- The text of a payload, given the texts of the boxes it holds. -/
def displayPayload (displayBox : BoxId → String) : Payload → String
  | .boolean value => if value then "true" else "false"
  | .integer value => toString value.toInt
  | .real value => value.text
  | .string bytes => quoted (Utf8.decode bytes)
  | .list items => "[" ++ ", ".intercalate (items.map displayBox) ++ "]"
  | .dictionary entries =>
      let shown := entries.map fun (key, value) => displayBox key ++ ": " ++ displayBox value
      "\x7b" ++ ", ".intercalate shown ++ "\x7d"

/-- The text of a box, given the texts of the boxes in its payload. -/
def displayRule (heap : Heap) (shown : BoxId → String) (box : BoxId) : String :=
  match heap.payload? box with
  | some payload => displayPayload shown payload
  | none => heap.displayPlain box

/-- The text of a box whose payload is followed to a given depth. -/
def displayWithin (heap : Heap) : Nat → BoxId → String
  | 0, _ => ""
  | depth + 1, box => heap.displayRule (heap.displayWithin depth) box

/-- The text that a program prints for a box. -/
def display (heap : Heap) (box : BoxId) : String :=
  heap.displayWithin (heap.size + 1) box

/-- The outline of a payload, given the outlines of the boxes it holds. -/
def outlinePayload (outlineBox : BoxId → Outline) : Payload → Outline
  | .boolean value => Expr.outlineOf "Boolean" (.text (if value then "true" else "false"))
  | .integer value => Expr.outlineOf "Integer" (.text (toString value.toInt))
  | .real value => Expr.outlineOf "Real" (.text value.text)
  | .string bytes => Expr.outlineOf "String" (.ofBytes bytes)
  | .list items => Expr.outlineOf "List" (.group "" .brackets (items.map outlineBox))
  | .dictionary entries =>
      Expr.outlineOf "Dictionary"
        (.group "" .brackets (entries.map fun (key, value) =>
          .group "" .parentheses [outlineBox key, outlineBox value]))

/-- The outline of a box, given the outlines of the boxes in its payload. -/
def outlineRule (heap : Heap) (shown : BoxId → Outline) (box : BoxId) : Outline :=
  match Kind.ofBox? box with
  | some kind => Expr.outlineOf "Box" (.text ("<" ++ kind.name ++ ">"))
  | none =>
      let names := (heap.variableNames box).map fun name => .text (quoted name.toList)
      let callable := if (heap.method box).isCallable then "true" else "false"
      .group "Box" .braces
        [.labelled "variables" (.group "" .brackets names),
          .labelled "callable" (.text callable),
          .labelled "data"
            (Expr.outlineOption ((heap.payload? box).map (outlinePayload shown)))]

/-- The outline of a box whose payload is followed to a given depth. -/
def outlineWithin (heap : Heap) : Nat → BoxId → Outline
  | 0, _ => .text ""
  | depth + 1, box => heap.outlineRule (heap.outlineWithin depth) box

/-- The structure of a box for inspection. -/
def outline (heap : Heap) (box : BoxId) : Outline :=
  heap.outlineWithin (heap.size + 1) box

end BoxLang.Heap
