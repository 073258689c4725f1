import BoxLang.Expr.Cost
import BoxLang.Expr.Scoping
import BoxLang.Proofs.Reader.Numerals

/-!
# The trees of programs

A program only uses the variables of its own scopes, it costs at most two steps for each
of its characters and one more, and it needs at most two frames for each level of
nesting and two more.  Each follows from the grammar: the characters of a construct pay
for the steps that its tree adds to those of its parts.
-/

namespace BoxLang.Reader

/-- What the grammar tells of the tree of an expression. -/
structure Sized (text : List Char) (expr : Expr) : Prop where
  isLocal : expr.IsLocal
  cost_le : expr.cost ≤ 2 * text.length
  height_le : expr.height ≤ 2 * expr.nesting + 1

/-- What the grammar tells of the trees of statements. The `;` between two of them pays
for the two steps that enter them. -/
structure SizedAll (text : List Char) (statements : List Expr) : Prop where
  isLocal : ∀ statement ∈ statements, statement.IsLocal
  cost_le : Expr.costAll statements + statements.length ≤ 2 * text.length + 2
  height_le : ∀ statement ∈ statements, statement.height ≤ 2 * statement.nesting + 1

theorem IsName.length_pos {name : List Char} (isName : IsName name) : 0 < name.length := by
  obtain ⟨first, rest, rfl, -, -⟩ := isName
  exact Nat.succ_pos _

theorem DerivesNumber.sized {text : List Char} {literal : Expr}
    (derives : DerivesNumber text literal) : Sized text literal := by
  have long : 0 < text.length := by
    obtain ⟨lead, body, rfl, -, unsigned⟩ := isNumeral_iff.mp derives.isNumeral
    have pos := List.length_pos_iff.mpr unsigned.ne_nil
    rw [List.length_append]
    omega
  cases derives with
  | integer => exact ⟨.integer, by rw [Expr.cost]; omega, Nat.le_refl 1⟩
  | real => exact ⟨.real, by rw [Expr.cost]; omega, Nat.le_refl 1⟩

section Statements

variable {text before after first second : List Char} {expr : Expr}
  {statements statements' : List Expr}

theorem Sized.string (quote : Char) (content : List Char) (bytes : List UInt8) :
    Sized (quote :: content ++ [quote]) (.text bytes) := by
  refine ⟨.text, ?_, Nat.le_refl 1⟩
  simp only [Expr.cost, List.length_append, List.length_cons, List.length_nil]
  omega

theorem Sized.assign {name space : List Char} (sized : Sized text expr) (isName : IsName name)
    (assigned : String) :
    Sized (name ++ space ++ '=' :: before ++ text) (.assign assigned expr) := by
  have long := isName.length_pos
  have cost_le := sized.cost_le
  have height_le := sized.height_le
  refine ⟨.assign sized.isLocal, ?_, ?_⟩
  · simp only [Expr.cost, List.length_append, List.length_cons]
    omega
  · simp only [Expr.height, Expr.nesting]
    omega

theorem SizedAll.missing : SizedAll text [] := by
  refine ⟨by simp, ?_, by simp⟩
  simp [Expr.costAll]

theorem SizedAll.single (sized : Sized text expr) : SizedAll (before ++ text ++ after) [expr] := by
  refine ⟨List.forall_mem_singleton.mpr sized.isLocal, ?_,
    List.forall_mem_singleton.mpr sized.height_le⟩
  have cost_le := sized.cost_le
  simp only [Expr.costAll, List.length_append, List.length_cons, List.length_nil]
  omega

theorem SizedAll.separated (sized : SizedAll first statements)
    (sized' : SizedAll second statements') :
    SizedAll (first ++ ';' :: second) (statements ++ statements') := by
  refine ⟨List.forall_mem_append.mpr ⟨sized.isLocal, sized'.isLocal⟩, ?_,
    List.forall_mem_append.mpr ⟨sized.height_le, sized'.height_le⟩⟩
  have cost_le := sized.cost_le
  have cost_le' := sized'.cost_le
  simp only [Expr.costAll_append, List.length_append, List.length_cons]
  omega

theorem SizedAll.cost_ofStatements_le (sized : SizedAll text statements) :
    (Expr.ofStatements statements).cost ≤ 2 * text.length + 1 := by
  have cost_le := sized.cost_le
  match statements with
  | [] => exact Nat.le_add_left 1 _
  | [statement] =>
      simp only [Expr.costAll, List.length_cons, List.length_nil] at cost_le
      rw [Expr.ofStatements]
      omega
  | first :: second :: rest =>
      simp only [List.length_cons] at cost_le
      rw [Expr.ofStatements, Expr.cost]
      · omega
      · simp

theorem SizedAll.height_ofStatements_le (sized : SizedAll text statements) :
    (Expr.ofStatements statements).height ≤ 2 * (Expr.ofStatements statements).nesting + 2 := by
  have nested := Expr.nesting_ofStatements_le_iff.mp
    (Nat.le_refl (Expr.ofStatements statements).nesting)
  apply Expr.height_ofStatements_le
  intro statement member
  have height_le := sized.height_le statement member
  have inner := nested statement member
  omega

theorem SizedAll.box (sized : SizedAll text statements) :
    Sized ('{' :: text ++ ['}']) (.box (.ofStatements statements)) := by
  have cost_le := sized.cost_ofStatements_le
  have height_le := sized.height_ofStatements_le
  refine ⟨.box (.ofStatements sized.isLocal), ?_, ?_⟩
  · simp only [Expr.cost, List.length_append, List.length_cons, List.length_nil]
    omega
  · simp only [Expr.height, Expr.nesting]
    omega

end Statements

mutual

theorem DerivesExpr.sized {text : List Char} {expr : Expr} (derives : DerivesExpr text expr) :
    Sized text expr :=
  match derives with
  | .string _ _ => .string _ _ _
  | .number number => number.sized
  | .get isName => ⟨.get, Nat.mul_le_mul_left 2 isName.length_pos, Nat.le_refl 1⟩
  | .assign isName _ _ value => value.sized.assign isName _
  | .box body => body.sizedAll.box

theorem DerivesStatements.sizedAll {text : List Char} {statements : List Expr}
    (derives : DerivesStatements text statements) : SizedAll text statements :=
  match derives with
  | .missing _ => .missing
  | .single _ expr _ => .single expr.sized
  | .separated first second => first.sizedAll.separated second.sizedAll

end

theorem DerivesProgram.isLocal {text : List Char} {expr : Expr}
    (derives : DerivesProgram text expr) : expr.IsLocal := by
  obtain ⟨statements, derives, rfl⟩ := derives
  exact .ofStatements derives.sizedAll.isLocal

theorem DerivesProgram.cost_le {text : List Char} {expr : Expr}
    (derives : DerivesProgram text expr) : expr.cost ≤ 2 * text.length + 1 := by
  obtain ⟨statements, derives, rfl⟩ := derives
  exact derives.sizedAll.cost_ofStatements_le

theorem DerivesProgram.height_le {text : List Char} {expr : Expr}
    (derives : DerivesProgram text expr) : expr.height ≤ 2 * expr.nesting + 2 := by
  obtain ⟨statements, derives, rfl⟩ := derives
  exact derives.sizedAll.height_ofStatements_le

end BoxLang.Reader
