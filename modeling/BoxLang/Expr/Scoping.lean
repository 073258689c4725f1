import BoxLang.Expr.Basic

/-!
# Scoping

Which names a program uses in its scope, and which it may read.  A name has to be set
before it is read, and a box sees only the names that are set inside it, so both can be
told from the tree.
-/

namespace BoxLang

/-- What is known after a part of a program. -/
structure Definedness where
  /-- The names that are set. -/
  names : List String
  /-- The name that was read without being set, if there was one. -/
  missing : Option String
  deriving DecidableEq

/-- Goes on with the names that are set, unless one was missing. -/
def Definedness.andThen (before : Definedness) (next : List String → Definedness) :
    Definedness :=
  match before.missing with
  | none => next before.names
  | some _ => before

theorem Definedness.andThen_of_none {before : Definedness} (complete : before.missing = none)
    (next : List String → Definedness) : before.andThen next = next before.names := by
  simp [andThen, complete]

theorem Definedness.andThen_of_some {before : Definedness} {name : String}
    (missing : before.missing = some name) (next : List String → Definedness) :
    before.andThen next = before := by
  simp [andThen, missing]

namespace Expr

/-- A tree that only uses the variables of the scopes in which its parts stand. -/
inductive IsLocal : Expr → Prop
  | sequence {items : List Expr} : (∀ item ∈ items, item.IsLocal) → IsLocal (.sequence items)
  | get {name : String} : IsLocal (.get name)
  | assign {name : String} {value : Expr} : value.IsLocal → IsLocal (.assign name value)
  | emptyBox : IsLocal .emptyBox
  | box {body : Expr} : body.IsLocal → IsLocal (.box body)
  | text {bytes : List UInt8} : IsLocal (.text bytes)
  | integer {value : Int64} : IsLocal (.integer value)
  | real {value : Binary64} : IsLocal (.real value)

theorem IsLocal.ofStatements {statements : List Expr}
    (isLocal : ∀ statement ∈ statements, statement.IsLocal) :
    (Expr.ofStatements statements).IsLocal := by
  unfold Expr.ofStatements
  split
  · exact isLocal _ (List.mem_singleton_self _)
  · exact .sequence isLocal

mutual

/-- Whether no assignment in a tree has a target, so that it only sets variables of the scopes
in which its parts stand. -/
def isConfined : Expr → Bool
  | .sequence items => areConfined items
  | .getFrom target _ => target.isConfined
  | .assign _ value => value.isConfined
  | .assignTo _ _ _ => false
  | .call target argument => target.isConfined && argument.isConfined
  | .box body => body.isConfined
  | .get _ | .emptyBox | .text _ | .integer _ | .real _ | .external _ => true

def areConfined : List Expr → Bool
  | [] => true
  | item :: items => item.isConfined && areConfined items

end

theorem areConfined_iff {items : List Expr} :
    areConfined items = true ↔ ∀ item ∈ items, item.isConfined = true := by
  induction items with
  | nil => simp [areConfined]
  | cons item items inductionHypothesis => simp [areConfined, inductionHypothesis]

theorem IsLocal.isConfined {expr : Expr} (isLocal : expr.IsLocal) : expr.isConfined = true := by
  induction isLocal with
  | sequence _ items => exact areConfined_iff.mpr items
  | assign _ value => exact value
  | box _ body => exact body
  | _ => rfl

mutual

/-- The names that are set after a program, given those set before it, up to the first
name that is read without being set. A box starts with no names and sets none outside
of it. -/
def definedAfter (names : List String) : Expr → Definedness
  | .sequence items => definedAfterAll names items
  | .get name => ⟨names, if name ∈ names then none else some name⟩
  | .assign name value =>
      (value.definedAfter names).andThen fun names => ⟨name :: names, none⟩
  | .box body => ⟨names, (body.definedAfter []).missing⟩
  | .text _ | .integer _ | .real _ | .emptyBox | .external _ => ⟨names, none⟩
  | .getFrom target _ => target.definedAfter names
  | .assignTo target _ value =>
      (target.definedAfter names).andThen fun names => value.definedAfter names
  | .call target argument =>
      (target.definedAfter names).andThen fun names => argument.definedAfter names

def definedAfterAll (names : List String) : List Expr → Definedness
  | [] => ⟨names, none⟩
  | item :: items =>
      (item.definedAfter names).andThen fun names => definedAfterAll names items

end

mutual

/-- The names that a tree uses in its own scope, so not those inside of a box. -/
def scopeNames : Expr → List String
  | .sequence items => scopeNamesAll items
  | .get name => [name]
  | .assign name value => name :: value.scopeNames
  | .getFrom target _ => target.scopeNames
  | .assignTo target _ value => target.scopeNames ++ value.scopeNames
  | .call target argument => target.scopeNames ++ argument.scopeNames
  | .box _ | .emptyBox | .text _ | .integer _ | .real _ | .external _ => []

def scopeNamesAll : List Expr → List String
  | [] => []
  | item :: items => item.scopeNames ++ scopeNamesAll items

end

end Expr

end BoxLang
