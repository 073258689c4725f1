import BoxLang.Expr.Parts
import BoxLang.Proofs.Reader.Shapes

/-!
# When trees agree

Trees are compared node by node, and reals as numbers.  So two trees agree exactly if they are
the same up to the signs of zeros and no real in them is other than a number: agreement is
symmetric and transitive, and a tree fails to agree with itself only over such a real.
-/

namespace BoxLang

namespace Binary64

/-- The word itself, or the positive zero for either zero. -/
def withPlainZero (x : Binary64) : Binary64 :=
  if x.isZero then ⟨0⟩ else x

theorem isNaN_of_isZero {x : Binary64} (zero : x.isZero = true) : x.isNaN = false := by
  simp only [isZero, decide_eq_true_eq] at zero
  simp [isNaN, zero]

theorem isNaN_of_isFinite {x : Binary64} (finite : x.isFinite = true) : x.isNaN = false := by
  simp only [isFinite, decide_eq_true_eq] at finite
  simp only [isNaN, decide_eq_false_iff_not]
  omega

theorem isNaN_withPlainZero (x : Binary64) : x.withPlainZero.isNaN = x.isNaN := by
  unfold withPlainZero
  split
  case isTrue zero => rw [isNaN_of_isZero zero, isNaN_of_isZero (by decide)]
  case isFalse => rfl

theorem withPlainZero_eq_iff {x y : Binary64} :
    x.withPlainZero = y.withPlainZero ↔ x = y ∨ x.isZero = true ∧ y.isZero = true := by
  have plain : isZero ⟨0⟩ = true := by decide
  unfold withPlainZero
  grind

theorem sameNumber_iff_withPlainZero {x y : Binary64} :
    x.sameNumber y = true ↔ x.isNaN = false ∧ x.withPlainZero = y.withPlainZero := by
  rw [sameNumber_iff, ← withPlainZero_eq_iff]
  constructor
  · rintro ⟨number, -, same⟩
    exact ⟨number, same⟩
  · rintro ⟨number, same⟩
    refine ⟨number, ?_, same⟩
    rwa [← isNaN_withPlainZero, ← same, isNaN_withPlainZero]

end Binary64

namespace Expr

/-- Every real in a tree is a number. -/
def IsNumeric (expr : Expr) : Prop :=
  ∀ value, IsPart (.real value) expr → value.isNaN = false

theorem isNumeric_iff {expr : Expr} :
    expr.IsNumeric ↔
      (∀ value, expr = .real value → value.isNaN = false) ∧
        ∀ child ∈ expr.children, child.IsNumeric := by
  constructor
  · intro numeric
    refine ⟨?_, ?_⟩
    · rintro value rfl
      exact numeric value .self
    · intro child member value isPart
      exact numeric value (.inside member isPart)
  · rintro ⟨root, below⟩ value isPart
    rcases isPart_iff.mp isPart with same | ⟨child, member, isPart⟩
    · exact root value same.symm
    · exact below child member value isPart

mutual

/-- The tree with the positive zero for every zero. -/
def withPlainZeros : Expr → Expr
  | .sequence items => .sequence (allWithPlainZeros items)
  | .get name => .get name
  | .getFrom target name => .getFrom target.withPlainZeros name
  | .assign name value => .assign name value.withPlainZeros
  | .assignTo target name value => .assignTo target.withPlainZeros name value.withPlainZeros
  | .call target argument => .call target.withPlainZeros argument.withPlainZeros
  | .emptyBox => .emptyBox
  | .box body => .box body.withPlainZeros
  | .text bytes => .text bytes
  | .integer value => .integer value
  | .real value => .real value.withPlainZero
  | .external function => .external function

def allWithPlainZeros : List Expr → List Expr
  | [] => []
  | item :: items => item.withPlainZeros :: allWithPlainZeros items

end

mutual

/-- Trees agree exactly if the first has only numbers for reals and they are the same up to the
signs of zeros. -/
theorem agrees_iff (expr other : Expr) :
    expr.agrees other = true ↔
      expr.IsNumeric ∧ expr.withPlainZeros = other.withPlainZeros := by
  rw [isNumeric_iff]
  -- Trees with different roots neither agree nor become the same.
  match expr with
  | .sequence items =>
      cases other <;> simp [agrees, children, withPlainZeros, agreesAll_iff items]
  | .get name => cases other <;> simp [agrees, children, withPlainZeros]
  | .getFrom target name =>
      cases other <;> simp [agrees, children, withPlainZeros, agrees_iff target, and_assoc]
  | .assign name value =>
      cases other <;> simp [agrees, children, withPlainZeros, agrees_iff value, and_left_comm]
  | .assignTo target name value =>
      cases other with
      | assignTo =>
          simp only [agrees, children, withPlainZeros, agrees_iff target, agrees_iff value,
            Bool.and_eq_true, beq_iff_eq, assignTo.injEq, List.forall_mem_cons]
          grind
      | _ => simp [agrees, withPlainZeros]
  | .call target argument =>
      cases other with
      | call =>
          simp only [agrees, children, withPlainZeros, agrees_iff target, agrees_iff argument,
            Bool.and_eq_true, call.injEq, List.forall_mem_cons]
          grind
      | _ => simp [agrees, withPlainZeros]
  | .emptyBox => cases other <;> simp [agrees, children, withPlainZeros]
  | .box body => cases other <;> simp [agrees, children, withPlainZeros, agrees_iff body]
  | .text bytes => cases other <;> simp [agrees, children, withPlainZeros]
  | .integer value => cases other <;> simp [agrees, children, withPlainZeros]
  | .real value =>
      cases other <;>
        simp [agrees, children, withPlainZeros, Binary64.sameNumber_iff_withPlainZero]
  | .external function => cases other <;> simp [agrees, children, withPlainZeros]

theorem agreesAll_iff (items others : List Expr) :
    agreesAll items others = true ↔
      (∀ item ∈ items, item.IsNumeric) ∧ allWithPlainZeros items = allWithPlainZeros others := by
  match items, others with
  | [], [] => simp [agreesAll]
  | [], _ :: _ => simp [agreesAll, allWithPlainZeros]
  | _ :: _, [] => simp [agreesAll, allWithPlainZeros]
  | item :: items, other :: others =>
      rw [agreesAll, Bool.and_eq_true, agrees_iff item, agreesAll_iff items, List.forall_mem_cons,
        allWithPlainZeros, allWithPlainZeros, List.cons.injEq]
      exact and_and_and_comm

end

mutual

theorem isNumeric_withPlainZeros (expr : Expr) :
    expr.withPlainZeros.IsNumeric ↔ expr.IsNumeric := by
  rw [isNumeric_iff, @isNumeric_iff expr]
  match expr with
  | .sequence items =>
      simpa [withPlainZeros, children] using forall_isNumeric_allWithPlainZeros items
  | .getFrom target name =>
      simpa [withPlainZeros, children] using isNumeric_withPlainZeros target
  | .assign name value =>
      simpa [withPlainZeros, children] using isNumeric_withPlainZeros value
  | .assignTo target name value =>
      simp [withPlainZeros, children, isNumeric_withPlainZeros target,
        isNumeric_withPlainZeros value]
  | .call target argument =>
      simp [withPlainZeros, children, isNumeric_withPlainZeros target,
        isNumeric_withPlainZeros argument]
  | .box body => simpa [withPlainZeros, children] using isNumeric_withPlainZeros body
  | .real value => simp [withPlainZeros, children, Binary64.isNaN_withPlainZero]
  | .get _ | .emptyBox | .text _ | .integer _ | .external _ =>
      simp [withPlainZeros, children]

theorem forall_isNumeric_allWithPlainZeros (items : List Expr) :
    (∀ item ∈ allWithPlainZeros items, item.IsNumeric) ↔ ∀ item ∈ items, item.IsNumeric := by
  match items with
  | [] => simp [allWithPlainZeros]
  | item :: items =>
      rw [allWithPlainZeros, List.forall_mem_cons, List.forall_mem_cons,
        isNumeric_withPlainZeros item, forall_isNumeric_allWithPlainZeros items]

end

section Parts

/-- Every part of a program is an item or a sequence. -/
theorem IsSequence.of_isPart {part expr : Expr} (isPart : IsPart part expr)
    (isSequence : expr.IsSequence) : part.IsSequence := by
  induction isPart with
  | self => exact isSequence
  | inside member _ inductionHypothesis =>
      apply inductionHypothesis
      cases isSequence with
      | several _ areItems => exact .single (areItems _ member)
      | single isItem =>
          cases isItem with
          | assign _ isItem =>
              obtain rfl := List.mem_singleton.mp member
              exact .single isItem
          | box isSequence =>
              obtain rfl := List.mem_singleton.mp member
              exact isSequence
          | text => cases member
          | integer => cases member
          | real => cases member
          | get => cases member

theorem IsSequence.isNumeric {expr : Expr} (isSequence : expr.IsSequence) : expr.IsNumeric := by
  intro value isPart
  cases isSequence.of_isPart isPart with
  | single isItem =>
      cases isItem with
      | real _ _ finite => exact Binary64.isNaN_of_isFinite finite

theorem IsSequence.isValidUTF8 {expr : Expr} (isSequence : expr.IsSequence) {bytes : List UInt8}
    (isPart : IsPart (.text bytes) expr) : bytes.toByteArray.IsValidUTF8 := by
  cases isSequence.of_isPart isPart with
  | single isItem =>
      cases isItem with
      | text valid _ => exact valid

end Parts

theorem agrees_self_iff (expr : Expr) : expr.agrees expr = true ↔ expr.IsNumeric := by
  simp [agrees_iff]

/-- What agrees with a tree of numbers is a tree of numbers. -/
theorem agrees_symm {expr other : Expr} (agree : expr.agrees other = true) :
    other.agrees expr = true := by
  obtain ⟨numeric, same⟩ := (agrees_iff expr other).mp agree
  rw [agrees_iff]
  refine ⟨?_, same.symm⟩
  rwa [← isNumeric_withPlainZeros, ← same, isNumeric_withPlainZeros]

theorem agrees_trans {first second third : Expr} (agree : first.agrees second = true)
    (agree' : second.agrees third = true) : first.agrees third = true := by
  rw [agrees_iff] at agree agree' ⊢
  exact ⟨agree.1, agree.2.trans agree'.2⟩

end Expr

/-- Agreement of trees is a partial equivalence: it is the sameness of trees up to the signs of
zeros, among those whose reals are all numbers.  Only a real that is not a number, anywhere in a
tree, keeps the tree from agreeing with itself, and no program has one. -/
theorem agrees_partialEquivalence :
    (∀ expr other : Expr, expr.agrees other = true → other.agrees expr = true) ∧
    (∀ first second third : Expr, first.agrees second = true → second.agrees third = true →
      first.agrees third = true) ∧
    (∀ expr : Expr, expr.agrees expr = true ↔
      ∀ value, Expr.IsPart (.real value) expr → value.isNaN = false) ∧
    (∀ expr other : Expr, expr.agrees other = true ↔
      expr.IsNumeric ∧ expr.withPlainZeros = other.withPlainZeros) ∧
    ∀ maxDepth source expr, parseWithin maxDepth source = .ok expr → expr.agrees expr = true := by
  refine ⟨fun _ _ => Expr.agrees_symm, fun _ _ _ => Expr.agrees_trans, Expr.agrees_self_iff,
    Expr.agrees_iff, ?_⟩
  intro maxDepth source expr parsed
  obtain ⟨derives, -⟩ := derivesProgram_of_parsed parsed
  exact (Expr.agrees_self_iff expr).mpr derives.isSequence.isNumeric

/-- Trees that differ in the sign of a zero agree both ways.  A tree that holds the same word
twice does not agree with itself if the word is not a number. -/
theorem agrees_partialEquivalence_zeros_and_NaN :
    let zero : Expr := .assign "a" (.real ⟨0⟩)
    let negativeZero : Expr := .assign "a" (.real ⟨0x8000000000000000⟩)
    let notANumber : Expr := .real ⟨0x7ff8000000000000⟩
    negativeZero.agrees zero = true ∧ zero.agrees zero = true ∧
      (Expr.call notANumber notANumber).agrees (.call notANumber notANumber) = false := by
  intro zero negativeZero notANumber
  obtain ⟨symmetric, transitive, self_iff, -⟩ := agrees_partialEquivalence
  have agree : zero.agrees negativeZero = true := by decide
  have agree' := symmetric zero negativeZero agree
  refine ⟨agree', transitive zero negativeZero zero agree agree', ?_⟩
  rw [← Bool.not_eq_true, self_iff]
  intro numeric
  have isPart : Expr.IsPart notANumber (.call notANumber notANumber) :=
    .inside List.mem_cons_self .self
  exact absurd (numeric _ isPart) (by decide)

end BoxLang
