import BoxLang.Expr.Basic

/-!
# Cost and height

How many steps the evaluation of a tree without calls takes, and how many frames
it needs at once.
-/

namespace BoxLang.Expr

mutual

/-- Whether no part of a tree is a call, of a box or of the host. -/
def isCallFree : Expr → Bool
  | .sequence items => areCallFree items
  | .getFrom target _ => target.isCallFree
  | .assign _ value => value.isCallFree
  | .assignTo target _ value => target.isCallFree && value.isCallFree
  | .call _ _ | .external _ => false
  | .box body => body.isCallFree
  | .get _ | .emptyBox | .text _ | .integer _ | .real _ => true

def areCallFree : List Expr → Bool
  | [] => true
  | item :: items => item.isCallFree && areCallFree items

end

mutual

/-- The number of steps that a tree without calls takes when it succeeds. A call
counts for what comes before the method it runs. -/
def cost : Expr → Nat
  | .sequence items => costAll items + 1
  | .getFrom target _ => target.cost + 3
  | .assign _ value => value.cost + 3
  | .assignTo target _ value => target.cost + value.cost + 4
  | .call target argument => target.cost + argument.cost + 4
  | .emptyBox => 3
  | .box body => body.cost + 3
  | .get _ | .text _ | .integer _ | .real _ => 2
  | .external _ => 1

/-- The cost of the items of a sequence, with one step to enter each. -/
def costAll : List Expr → Nat
  | [] => 0
  | item :: items => item.cost + 1 + costAll items

end

mutual

/-- The number of frames that a tree without calls needs at once. -/
def height : Expr → Nat
  | .sequence items => heightAll items + 1
  | .getFrom target _ => target.height + 1
  | .assign _ value => value.height + 1
  | .assignTo target _ value => max target.height value.height + 1
  | .call target argument => max target.height argument.height + 1
  | .box body => body.height + 1
  | .get _ | .emptyBox | .text _ | .integer _ | .real _ | .external _ => 1

def heightAll : List Expr → Nat
  | [] => 0
  | item :: items => max item.height (heightAll items)

end

theorem costAll_append (first second : List Expr) :
    costAll (first ++ second) = costAll first + costAll second := by
  induction first with
  | nil => simp [costAll]
  | cons item items inductionHypothesis =>
      simp only [List.cons_append, costAll, inductionHypothesis, Nat.add_assoc]

theorem heightAll_le_iff {items : List Expr} {bound : Nat} :
    heightAll items ≤ bound ↔ ∀ item ∈ items, item.height ≤ bound := by
  induction items with
  | nil => simp [heightAll]
  | cons item items inductionHypothesis =>
      rw [heightAll, Nat.max_le, inductionHypothesis, List.forall_mem_cons]

theorem height_ofStatements_le {statements : List Expr} {bound : Nat}
    (bounded : ∀ statement ∈ statements, statement.height ≤ bound) :
    (ofStatements statements).height ≤ bound + 1 := by
  unfold ofStatements
  split
  · exact Nat.le_succ_of_le (bounded _ (List.mem_singleton_self _))
  · rw [height]
    exact Nat.succ_le_succ (heightAll_le_iff.mpr bounded)

end BoxLang.Expr
