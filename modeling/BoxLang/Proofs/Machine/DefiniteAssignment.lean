import BoxLang.Proofs.Heap.Retention
import BoxLang.Proofs.Machine.Simulation
import BoxLang.Proofs.Reader.Completeness
import BoxLang.Proofs.Reader.Trees

/-!
# Definite assignment

A program reads and sets the variables of its scope and of the boxes that it makes, so
whether it reads a variable that is not set can be told from its tree and the names in
its scope.  The evaluation goes through the tree in the order of the analysis; a box is
evaluated in a scope of its own and leaves the others as they are.
-/

namespace BoxLang

open Machine

/-- The variables of a box are those with the given names. -/
def Heap.HasNames (heap : Heap) (box : BoxId) (names : List String) : Prop :=
  ∀ name, name ∈ heap.variableNames box ↔ name ∈ names

/-- An outcome in a scope is the one that the analysis foresees. -/
structure Foreseen (heap : Heap) (scope : BoxId) (definedness : Definedness)
    (outcome : Outcome) : Prop where
  succeeds : definedness.missing = none → ∃ value, outcome.result = .ok value
  fails : ∀ name, definedness.missing = some name →
    outcome.result = .error (.variableNotFound name)
  hasNames : outcome.heap.HasNames scope definedness.names
  retains : Heap.Retains (· ≠ scope) heap outcome.heap

/-- Wherever a tree is evaluated, it has the outcome that the analysis foresees. -/
def Expr.Foreseeable (expr : Expr) : Prop :=
  ∀ (heap : Heap) (scope : BoxId) (names : List String), scope < heap.size →
    heap.HasNames scope names →
    ∃ outcome, Evaluates heap scope expr outcome ∧
      Foreseen heap scope (expr.definedAfter names) outcome

section Parts

variable {heap after : Heap} {scope : BoxId} {names : List String}

theorem Heap.Retains.hasNames {Kept : BoxId → Prop} (retains : Heap.Retains Kept heap after)
    (inUse : scope < heap.size) (kept : Kept scope) (hasNames : heap.HasNames scope names) :
    after.HasNames scope names := by
  intro name
  rw [retains.variableNames_eq inUse kept]
  exact hasNames name

/-- A part that makes boxes and sets no variable in the scope. -/
theorem Foreseen.ofValue {value : BoxId} (inUse : scope < heap.size)
    (hasNames : heap.HasNames scope names) (retains : Heap.Retains (fun _ => True) heap after) :
    Foreseen heap scope ⟨names, none⟩ ⟨.ok value, after⟩ where
  succeeds _ := ⟨value, rfl⟩
  fails _ missing := by cases missing
  hasNames := retains.hasNames inUse trivial hasNames
  retains := retains.mono fun _ _ _ => trivial

theorem Foreseen.ofMissing {name : String} (inUse : scope < heap.size)
    (hasNames : heap.HasNames scope names) (retains : Heap.Retains (fun _ => True) heap after) :
    Foreseen heap scope ⟨names, some name⟩ ⟨.error (.variableNotFound name), after⟩ where
  succeeds complete := by cases complete
  fails _ missing := by
    cases missing
    rfl
  hasNames := retains.hasNames inUse trivial hasNames
  retains := retains.mono fun _ _ _ => trivial

theorem Foreseen.fail {definedness : Definedness} {outcome : Outcome} {name : String}
    (foreseen : Foreseen heap scope definedness outcome)
    (missing : definedness.missing = some name) :
    outcome = ⟨.error (.variableNotFound name), outcome.heap⟩ := by
  obtain ⟨result, after⟩ := outcome
  have failed : result = .error (.variableNotFound name) := foreseen.fails name missing
  rw [failed]

theorem Foreseen.ok {definedness : Definedness} {outcome : Outcome}
    (foreseen : Foreseen heap scope definedness outcome) (complete : definedness.missing = none) :
    ∃ value, outcome = ⟨.ok value, outcome.heap⟩ := by
  obtain ⟨result, after⟩ := outcome
  obtain ⟨value, succeeded⟩ := foreseen.succeeds complete
  have succeeded : result = .ok value := succeeded
  exact ⟨value, by rw [succeeded]⟩

end Parts

theorem foreseeable_sequence {items : List Expr} (foreseeable : ∀ item ∈ items, item.Foreseeable) :
    (Expr.sequence items).Foreseeable := by
  induction items with
  | nil =>
      intro heap scope names inUse hasNames
      exact ⟨_, .sequenceNil, .ofValue inUse hasNames (.refl heap)⟩
  | cons item rest inductionHypothesis =>
      obtain ⟨itemForeseeable, restForeseeable⟩ := List.forall_mem_cons.mp foreseeable
      intro heap scope names inUse hasNames
      obtain ⟨outcome, evaluates, foreseen⟩ := itemForeseeable heap scope names inUse hasNames
      rw [Expr.definedAfter, Expr.definedAfterAll]
      cases missing : (item.definedAfter names).missing with
      | some name =>
          rw [Definedness.andThen_of_some missing]
          refine ⟨outcome, ?_, foreseen⟩
          rw [foreseen.fail missing] at evaluates ⊢
          cases rest with
          | nil => exact .sequenceLast evaluates
          | cons next rest => exact .sequenceError evaluates
      | none =>
          rw [Definedness.andThen_of_none missing]
          obtain ⟨value, succeeded⟩ := foreseen.ok missing
          cases rest with
          | nil =>
              refine ⟨outcome, .sequenceLast evaluates, ?_⟩
              rw [Expr.definedAfterAll, ← missing]
              exact foreseen
          | cons next rest =>
              have inUse' := Nat.lt_of_lt_of_le inUse foreseen.retains.size_le
              obtain ⟨last, evaluatesRest, foreseenRest⟩ :=
                inductionHypothesis restForeseeable outcome.heap scope _ inUse' foreseen.hasNames
              rw [succeeded] at evaluates
              refine ⟨last, .sequenceCons evaluates evaluatesRest, ?_⟩
              rw [Expr.definedAfter] at foreseenRest
              exact { foreseenRest with retains := foreseen.retains.trans foreseenRest.retains }

theorem foreseeable_assign {name : String} {value : Expr} (foreseeable : value.Foreseeable) :
    (Expr.assign name value).Foreseeable := by
  intro heap scope names inUse hasNames
  obtain ⟨outcome, evaluates, foreseen⟩ := foreseeable heap scope names inUse hasNames
  rw [Expr.definedAfter]
  cases missing : (value.definedAfter names).missing with
  | some unset =>
      rw [Definedness.andThen_of_some missing]
      refine ⟨outcome, ?_, foreseen⟩
      rw [foreseen.fail missing] at evaluates ⊢
      exact .assignError evaluates
  | none =>
      rw [Definedness.andThen_of_none missing]
      obtain ⟨box, succeeded⟩ := foreseen.ok missing
      rw [succeeded] at evaluates
      have inUse' := Nat.lt_of_lt_of_le inUse foreseen.retains.size_le
      refine ⟨_, .assign evaluates, fun _ => ⟨box, rfl⟩, ?_, ?_, ?_⟩
      · intro _ missing
        cases missing
      · intro query
        rw [Heap.mem_variableNames_setVariable inUse', List.mem_cons, foreseen.hasNames query]
      · exact foreseen.retains.trans (Heap.retains_setVariable outcome.heap scope name box)

theorem foreseeable_box {body : Expr} (foreseeable : body.Foreseeable) :
    (Expr.box body).Foreseeable := by
  intro heap scope names inUse hasNames
  have empty : heap.newBox.1.HasNames heap.newBox.2 [] := by
    intro name
    rw [heap.variableNames_newBox]
  obtain ⟨outcome, evaluates, foreseen⟩ := foreseeable _ _ [] heap.newBox_lt_size empty
  have retains : Heap.Retains (fun _ => True) heap outcome.heap := by
    have created : Heap.Retains (· ≠ heap.newBox.2) heap heap.newBox.1 :=
      Heap.retains_alloc heap .empty
    exact (created.trans foreseen.retains).mono fun box inUse _ => Nat.ne_of_lt inUse
  rw [Expr.definedAfter]
  cases missing : (body.definedAfter []).missing with
  | some name =>
      rw [foreseen.fail missing] at evaluates
      exact ⟨_, .boxError evaluates, .ofMissing inUse hasNames retains⟩
  | none =>
      obtain ⟨value, succeeded⟩ := foreseen.ok missing
      rw [succeeded] at evaluates
      exact ⟨_, .box evaluates, .ofValue inUse hasNames retains⟩

/-- A tree that only uses the variables of its scopes ends as the analysis foresees. -/
theorem Expr.IsLocal.foreseeable {expr : Expr} (isLocal : expr.IsLocal) : expr.Foreseeable := by
  induction isLocal with
  | sequence _ items => exact foreseeable_sequence items
  | @get name =>
      intro heap scope names inUse hasNames
      have set_iff := Heap.mem_variableNames_iff.symm.trans (hasNames name)
      rw [Expr.definedAfter]
      cases found : heap.lookup? scope name with
      | some value =>
          rw [if_pos (set_iff.mp (by rw [found]; rfl))]
          exact ⟨_, .get found, .ofValue inUse hasNames (.refl heap)⟩
      | none =>
          have unset : name ∉ names := by
            intro member
            have some := set_iff.mpr member
            rw [found] at some
            cases some
          rw [if_neg unset]
          exact ⟨_, .getMissing found, .ofMissing inUse hasNames (.refl heap)⟩
  | assign _ value => exact foreseeable_assign value
  | emptyBox =>
      intro heap scope names inUse hasNames
      exact ⟨_, .emptyBox, .ofValue inUse hasNames (Heap.retains_alloc heap .empty)⟩
  | box _ body => exact foreseeable_box body
  | text =>
      intro heap scope names inUse hasNames
      exact ⟨_, .text, .ofValue inUse hasNames (Heap.retains_newValue heap _)⟩
  | integer =>
      intro heap scope names inUse hasNames
      exact ⟨_, .integer, .ofValue inUse hasNames (Heap.retains_newValue heap _)⟩
  | real =>
      intro heap scope names inUse hasNames
      exact ⟨_, .real, .ofValue inUse hasNames (Heap.retains_newValue heap _)⟩

/-- A program always ends, with a value exactly if every name that it reads has been set
before, and otherwise because of the first that has not.  The names in its scope are then
those that the analysis reached. -/
theorem haltsWith_definedAfter {maxDepth : Nat} {source : String} {expr : Expr}
    (parsed : parseWithin maxDepth source = .ok expr) (heap : Heap) (scope : BoxId)
    (inUse : scope < heap.size) :
    ∃ outcome, HaltsWith .unlimited heap scope expr outcome ∧
      ((∃ value, outcome.result = .ok value) ↔
        (expr.definedAfter (heap.variableNames scope)).missing = none) ∧
      (∀ error, outcome.result = .error error ↔
        ∃ name, (expr.definedAfter (heap.variableNames scope)).missing = some name ∧
          error = .variableNotFound name) ∧
      ∀ name, name ∈ outcome.heap.variableNames scope ↔
        name ∈ (expr.definedAfter (heap.variableNames scope)).names := by
  have derives := (derivesProgram_of_parsed parsed).1
  obtain ⟨outcome, evaluates, foreseen⟩ :=
    derives.isLocal.foreseeable heap scope _ inUse fun _ => Iff.rfl
  refine ⟨outcome, evaluates.haltsWith, ?_⟩
  cases missing : (expr.definedAfter (heap.variableNames scope)).missing with
  | none =>
      obtain ⟨value, succeeded⟩ := foreseen.succeeds missing
      simp [succeeded, foreseen.hasNames _]
  | some name =>
      have failed := foreseen.fails name missing
      simp [failed, foreseen.hasNames _, eq_comm]

/-- A box does not see the names around it. -/
theorem haltsWith_definedAfter_isolated_box :
    ∃ expr, parseWithin 2 "a = 1; b = {a}" = .ok expr ∧ 7 < Heap.initial.newBox.1.size ∧
      ∃ outcome, HaltsWith .unlimited Heap.initial.newBox.1 7 expr outcome ∧
        outcome.result = .error (.variableNotFound "a") ∧
        ∀ name, name ∈ outcome.heap.variableNames 7 ↔ name = "a" := by
  let program : Expr := .sequence [.assign "a" (.integer 1), .assign "b" (.box (.get "a"))]
  have parsed : parseWithin 2 "a = 1; b = {a}" = .ok program := rfl
  have inUse : 7 < Heap.initial.newBox.1.size := by decide
  have analysis : program.definedAfter (Heap.initial.newBox.1.variableNames 7) =
      ⟨["a"], some "a"⟩ := rfl
  obtain ⟨outcome, halts, -, failed, names⟩ := haltsWith_definedAfter parsed _ 7 inUse
  rw [analysis] at failed names
  refine ⟨program, parsed, inUse, outcome, halts, (failed _).mpr ⟨"a", rfl, rfl⟩, ?_⟩
  intro name
  rw [names, List.mem_singleton]

end BoxLang
