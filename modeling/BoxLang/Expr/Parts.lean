import BoxLang.Expr.Basic

/-!
# Parts of trees

What occurs anywhere in a tree.
-/

namespace BoxLang.Expr

/-- The trees right below the root. -/
def children : Expr → List Expr
  | .sequence items => items
  | .getFrom target _ => [target]
  | .assign _ value => [value]
  | .assignTo target _ value => [target, value]
  | .call target argument => [target, argument]
  | .box body => [body]
  | .get _ | .emptyBox | .text _ | .integer _ | .real _ | .external _ => []

/-- A tree occurs in another, which may be the same. -/
inductive IsPart (part : Expr) : Expr → Prop
  | self : IsPart part part
  | inside {child expr : Expr} : child ∈ expr.children → IsPart part child → IsPart part expr

theorem isPart_iff {part expr : Expr} :
    IsPart part expr ↔ part = expr ∨ ∃ child ∈ expr.children, IsPart part child := by
  constructor
  · intro isPart
    cases isPart with
    | self => exact .inl rfl
    | inside member isPart => exact .inr ⟨_, member, isPart⟩
  · rintro (rfl | ⟨child, member, isPart⟩)
    · exact .self
    · exact .inside member isPart

end BoxLang.Expr
