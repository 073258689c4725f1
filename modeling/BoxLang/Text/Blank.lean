import BoxLang.Text.CharSet

/-!
# White space

The characters with the Unicode property `White_Space`.
-/

namespace BoxLang

namespace CharSet

def whiteSpace : CharSet :=
  ⟨[(0x9, 0xD), (0x20, 0x20), (0x85, 0x85), (0xA0, 0xA0), (0x1680, 0x1680),
    (0x2000, 0x200A), (0x2028, 0x2029), (0x202F, 0x202F), (0x205F, 0x205F),
    (0x3000, 0x3000)]⟩

example : areOrdered whiteSpace.ranges = true := by decide

end CharSet

/-- Whether a text holds nothing but white space. -/
def isBlank (text : List Char) : Bool :=
  text.all CharSet.whiteSpace.contains

end BoxLang
