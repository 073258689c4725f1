import BoxLang.Expr.Basic

/-!
# Nesting

How deeply boxes and assignments nest in a tree.
-/

namespace BoxLang.Expr

mutual

/-- The greatest number of boxes and assignments on a path from the root. -/
def nesting : Expr → Nat
  | .sequence items => nestingAll items
  | .getFrom target _ => target.nesting
  | .assign _ value => value.nesting + 1
  | .assignTo target _ value => max target.nesting value.nesting + 1
  | .call target argument => max target.nesting argument.nesting
  | .emptyBox => 1
  | .box body => body.nesting + 1
  | .get _ | .text _ | .integer _ | .real _ | .external _ => 0

def nestingAll : List Expr → Nat
  | [] => 0
  | item :: items => max item.nesting (nestingAll items)

end

theorem nestingAll_le_iff {items : List Expr} {bound : Nat} :
    nestingAll items ≤ bound ↔ ∀ item ∈ items, item.nesting ≤ bound := by
  induction items with
  | nil => simp [nestingAll]
  | cons item items inductionHypothesis =>
      rw [nestingAll, Nat.max_le, inductionHypothesis, List.forall_mem_cons]

theorem nesting_ofStatements_le_iff {statements : List Expr} {bound : Nat} :
    (ofStatements statements).nesting ≤ bound ↔
      ∀ statement ∈ statements, statement.nesting ≤ bound := by
  cases statements with
  | nil => simp [ofStatements, nesting, nestingAll]
  | cons first rest =>
      cases rest with
      | nil => simp [ofStatements]
      | cons second rest => exact nestingAll_le_iff

end BoxLang.Expr
