/-!
# Kinds

Every built-in value is of a kind, and every kind is itself a box.  Boxes are
known by number; the boxes of the kinds have the first numbers.
-/

namespace BoxLang

/-- The identity of a box. -/
abbrev BoxId := Nat

inductive Kind
  | null
  | boolean
  | integer
  | real
  | string
  | list
  | dictionary
  deriving DecidableEq

namespace Kind

def all : List Kind :=
  [null, boolean, integer, real, string, list, dictionary]

def name : Kind → String
  | null => "Null"
  | boolean => "Boolean"
  | integer => "Integer"
  | real => "Real"
  | string => "String"
  | list => "List"
  | dictionary => "Dictionary"

/-- The box that stands for a kind. -/
def box : Kind → BoxId
  | null => 0
  | boolean => 1
  | integer => 2
  | real => 3
  | string => 4
  | list => 5
  | dictionary => 6

/-- The kind that a box stands for. -/
def ofBox? (box : BoxId) : Option Kind :=
  all.find? fun kind => kind.box = box

theorem mem_all (kind : Kind) : kind ∈ all := by
  cases kind <;> decide

theorem box_lt (kind : Kind) : kind.box < all.length := by
  cases kind <;> decide

theorem box_injective {first second : Kind} (equal : first.box = second.box) :
    first = second := by
  cases first <;> cases second <;> first | rfl | (exact absurd equal (by decide))

theorem ofBox?_eq_some_iff {box : BoxId} {kind : Kind} :
    ofBox? box = some kind ↔ box = kind.box := by
  constructor
  · intro found
    have equal := List.find?_some found
    exact (of_decide_eq_true equal).symm
  · rintro rfl
    cases kind <;> rfl

end Kind

end BoxLang
