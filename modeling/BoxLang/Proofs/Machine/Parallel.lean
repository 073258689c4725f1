import BoxLang.Proofs.Heap.Correspondence
import BoxLang.Proofs.Machine.DefiniteAssignment
import BoxLang.Proofs.Machine.LocalSteps

/-!
# The same tree in two scopes

A local tree is evaluated in two scopes of two heaps.  If the heaps correspond and the
variables of the scopes that the tree uses are paired, it ends alike in both: with the same
error or with paired boxes, and with heaps that still correspond once the boxes that were made
on both sides are paired.
-/

namespace BoxLang

/-- What a tree can tell of two scopes is the same, given the names that it uses in them. -/
structure Alike (Sealed : BoxId → Prop) (Paired : BoxId → BoxId → Prop) (Names : String → Prop)
    (heap : Heap) (scope : BoxId) (heap' : Heap) (scope' : BoxId) : Prop where
  corresponds : heap.Corresponds Sealed Paired heap'
  inUse : scope < heap.size
  inUse' : scope' < heap'.size
  scopes : ∀ {box box'}, Paired box box' → (box = scope ↔ box' = scope')
  lookups : ∀ name, Names name →
    Option.Rel Paired (heap.lookup? scope name) (heap'.lookup? scope' name)

/-- Some boxes that two heaps did not have before have been paired. -/
structure Pairs (Paired : BoxId → BoxId → Prop) (heap heap' : Heap)
    (Paired' : BoxId → BoxId → Prop) : Prop where
  kept : ∀ box box', Paired box box' → Paired' box box'
  new : ∀ box box', Paired' box box' →
    Paired box box' ∨ heap.size ≤ box ∧ heap'.size ≤ box'

/-- The same error, or boxes that are paired. -/
inductive SameResult (Paired : BoxId → BoxId → Prop) :
    Except EvalError BoxId → Except EvalError BoxId → Prop
  | ok {value value' : BoxId} : Paired value value' → SameResult Paired (.ok value) (.ok value')
  | error (error : EvalError) : SameResult Paired (.error error) (.error error)

/-- Two evaluations on heaps that corresponded have ended alike. -/
structure EndsAlike (Sealed : BoxId → Prop) (Paired : BoxId → BoxId → Prop)
    (Names : String → Prop) (heap : Heap) (scope : BoxId) (heap' : Heap) (scope' : BoxId)
    (outcome outcome' : Outcome) (Paired' : BoxId → BoxId → Prop) : Prop where
  size_le : heap.size ≤ outcome.heap.size
  size_le' : heap'.size ≤ outcome'.heap.size
  pairs : Pairs Paired heap heap' Paired'
  alike : Alike Sealed Paired' Names outcome.heap scope outcome'.heap scope'
  same : SameResult Paired' outcome.result outcome'.result

/-- A tree ends alike in scopes that are alike in the names that it uses. -/
def Expr.Parallel (expr : Expr) : Prop :=
  ∀ {Sealed : BoxId → Prop} {Paired : BoxId → BoxId → Prop} {Names : String → Prop}
    {heap heap' : Heap} {scope scope' : BoxId},
    Alike Sealed Paired Names heap scope heap' scope' →
    (∀ name ∈ expr.scopeNames, Names name) →
    ∃ outcome outcome' Paired',
      Evaluates heap scope expr outcome ∧ Evaluates heap' scope' expr outcome' ∧
      EndsAlike Sealed Paired Names heap scope heap' scope' outcome outcome' Paired'

section Retaining

variable {heap : Heap} {scope : BoxId} {expr : Expr} {outcome : Outcome}

/-- A local tree only writes to its scope. -/
theorem Expr.IsLocal.retains (isLocal : expr.IsLocal) (inUse : scope < heap.size)
    (evaluates : Evaluates heap scope expr outcome) :
    Heap.Retains (· ≠ scope) heap outcome.heap := by
  obtain ⟨outcome', evaluates', foreseen⟩ :=
    isLocal.foreseeable heap scope _ inUse fun _ => Iff.rfl
  rw [evaluates.deterministic evaluates']
  exact foreseen.retains

/-- A tree that is evaluated in a new box writes to no other. -/
theorem Expr.IsLocal.retains_box (isLocal : expr.IsLocal)
    (evaluates : Evaluates heap.newBox.1 heap.newBox.2 expr outcome) :
    Heap.Retains (fun _ => True) heap outcome.heap := by
  have created : Heap.Retains (· ≠ heap.newBox.2) heap heap.newBox.1 :=
    Heap.retains_alloc heap .empty
  have retains := isLocal.retains heap.newBox_lt_size evaluates
  exact (created.trans retains).mono fun box inUse _ => Nat.ne_of_lt inUse

/-- What new boxes, literals and assignments keep true of a heap, a local tree does. -/
theorem Expr.IsLocal.keeps {Holds : Heap → Prop} (isLocal : expr.IsLocal)
    (newBox : ∀ heap, Holds heap → Holds heap.newBox.1)
    (newOfKind : ∀ heap payload, payload.IsLiteral → Holds heap →
      Holds (heap.newOfKind payload).1)
    (setVariable : ∀ heap box name value, Holds heap → Holds (heap.setVariable box name value))
    (evaluates : Evaluates heap scope expr outcome) (holds : Holds heap) :
    Holds outcome.heap := by
  induction isLocal generalizing heap scope outcome with
  | @sequence items isLocal inductionHypothesis =>
      induction items generalizing heap with
      | nil =>
          cases evaluates
          exact holds
      | cons item rest inductionHypothesisRest =>
          obtain ⟨-, isLocalRest⟩ := List.forall_mem_cons.mp isLocal
          obtain ⟨ofItem, ofRest⟩ := List.forall_mem_cons.mp inductionHypothesis
          cases evaluates with
          | sequenceLast evaluates => exact ofItem evaluates holds
          | sequenceError evaluates => exact ofItem evaluates holds
          | sequenceCons evaluates evaluatesRest =>
              exact inductionHypothesisRest isLocalRest ofRest evaluatesRest
                (ofItem evaluates holds)
  | get => cases evaluates <;> exact holds
  | assign _ inductionHypothesis =>
      cases evaluates with
      | assignError evaluates => exact inductionHypothesis evaluates holds
      | assign evaluates => exact setVariable _ _ _ _ (inductionHypothesis evaluates holds)
  | emptyBox =>
      cases evaluates
      exact newBox _ holds
  | box _ inductionHypothesis =>
      cases evaluates with
      | box evaluates =>
          have kept := inductionHypothesis evaluates (newBox _ holds)
          exact kept
      | boxError evaluates => exact inductionHypothesis evaluates (newBox _ holds)
  | text =>
      cases evaluates
      exact newOfKind _ _ (.string _) holds
  | integer =>
      cases evaluates
      exact newOfKind _ _ (.integer _) holds
  | real =>
      cases evaluates
      exact newOfKind _ _ (.real _) holds

theorem Expr.IsLocal.founded (isLocal : expr.IsLocal)
    (evaluates : Evaluates heap scope expr outcome) (founded : heap.Founded) :
    outcome.heap.Founded :=
  isLocal.keeps (fun _ founded => founded.newBox)
    (fun _ _ isLiteral founded => founded.newOfKind isLiteral.boxes_eq)
    (fun _ box name value founded => founded.setVariable box name value) evaluates founded

theorem Heap.Retains.lookup?_eq {heap later : Heap}
    (retains : Heap.Retains (fun _ => True) heap later) {box : BoxId} (inUse : box < heap.size)
    (name : String) : later.lookup? box name = heap.lookup? box name := by
  rw [Heap.lookup?, retains.cell_eq box inUse trivial, Heap.lookup?]

end Retaining

section Pairing

variable {Sealed : BoxId → Prop} {Paired Paired' : BoxId → BoxId → Prop}
  {Names : String → Prop} {heap heap' after after' : Heap} {scope scope' : BoxId}

theorem Pairs.refl (Paired : BoxId → BoxId → Prop) (heap heap' : Heap) :
    Pairs Paired heap heap' Paired :=
  ⟨fun _ _ paired => paired, fun _ _ => Or.inl⟩

theorem Pairs.trans {middle middle' : Heap} {Paired'' : BoxId → BoxId → Prop}
    (first : Pairs Paired heap heap' Paired') (second : Pairs Paired' middle middle' Paired'')
    (size_le : heap.size ≤ middle.size) (size_le' : heap'.size ≤ middle'.size) :
    Pairs Paired heap heap' Paired'' := by
  refine ⟨fun box box' paired => second.kept _ _ (first.kept _ _ paired), ?_⟩
  intro box box' paired
  rcases second.new _ _ paired with paired | ⟨new, new'⟩
  · exact first.new _ _ paired
  · exact Or.inr ⟨Nat.le_trans size_le new, Nat.le_trans size_le' new'⟩

theorem pairs_alloc (Paired : BoxId → BoxId → Prop) (heap heap' : Heap) :
    Pairs Paired heap heap' (PairedWith Paired heap.size heap'.size) := by
  refine ⟨fun _ _ => Or.inl, ?_⟩
  rintro box box' (paired | ⟨rfl, rfl⟩)
  · exact Or.inl paired
  · exact Or.inr ⟨Nat.le_refl _, Nat.le_refl _⟩

/-- Scopes stay alike while nothing but new boxes are written to. -/
theorem Alike.later (alike : Alike Sealed Paired Names heap scope heap' scope')
    (pairs : Pairs Paired heap heap' Paired')
    (corresponds : after.Corresponds Sealed Paired' after')
    (retains : Heap.Retains (fun _ => True) heap after)
    (retains' : Heap.Retains (fun _ => True) heap' after') :
    Alike Sealed Paired' Names after scope after' scope' where
  corresponds := corresponds
  inUse := Nat.lt_of_lt_of_le alike.inUse retains.size_le
  inUse' := Nat.lt_of_lt_of_le alike.inUse' retains'.size_le
  scopes := by
    intro box box' paired
    rcases pairs.new _ _ paired with paired | ⟨new, new'⟩
    · exact alike.scopes paired
    · exact iff_of_false (Nat.ne_of_gt (Nat.lt_of_lt_of_le alike.inUse new))
        (Nat.ne_of_gt (Nat.lt_of_lt_of_le alike.inUse' new'))
  lookups := by
    intro name used
    rw [retains.lookup?_eq alike.inUse, retains'.lookup?_eq alike.inUse']
    exact optionRel_mono (alike.lookups name used) pairs.kept

theorem Alike.setVariable (alike : Alike Sealed Paired Names heap scope heap' scope')
    (name : String) {value value' : BoxId} (paired : Paired value value') :
    Alike Sealed Paired Names (heap.setVariable scope name value) scope
      (heap'.setVariable scope' name value') scope' where
  corresponds :=
    alike.corresponds.setVariable alike.scopes alike.inUse alike.inUse' name paired
  inUse := by
    rw [Heap.size_setVariable]
    exact alike.inUse
  inUse' := by
    rw [Heap.size_setVariable]
    exact alike.inUse'
  scopes := alike.scopes
  lookups := by
    intro query used
    rw [Heap.lookup?_setVariable _ _ _ _ _ _ alike.inUse,
      Heap.lookup?_setVariable _ _ _ _ _ _ alike.inUse']
    by_cases same : query = name
    · rw [if_pos ⟨rfl, same⟩, if_pos ⟨rfl, same⟩]
      exact .some paired
    · rw [if_neg fun both => same both.2, if_neg fun both => same both.2]
      exact alike.lookups query used

/-- A box has been made on both sides. -/
theorem EndsAlike.ofRetains (alike : Alike Sealed Paired Names heap scope heap' scope')
    (pairs : Pairs Paired heap heap' Paired')
    (corresponds : after.Corresponds Sealed Paired' after')
    (retains : Heap.Retains (fun _ => True) heap after)
    (retains' : Heap.Retains (fun _ => True) heap' after') {value value' : BoxId}
    (paired : Paired' value value') :
    EndsAlike Sealed Paired Names heap scope heap' scope' ⟨.ok value, after⟩ ⟨.ok value', after'⟩
      Paired' :=
  ⟨retains.size_le, retains'.size_le, pairs, alike.later pairs corresponds retains retains',
    .ok paired⟩

theorem EndsAlike.refl (alike : Alike Sealed Paired Names heap scope heap' scope')
    {result result' : Except EvalError BoxId} (same : SameResult Paired result result') :
    EndsAlike Sealed Paired Names heap scope heap' scope' ⟨result, heap⟩ ⟨result', heap'⟩
      Paired :=
  ⟨Nat.le_refl _, Nat.le_refl _, .refl _ _ _, alike, same⟩

theorem EndsAlike.trans {first first' second second' : Outcome}
    {Paired'' : BoxId → BoxId → Prop}
    (ends : EndsAlike Sealed Paired Names heap scope heap' scope' first first' Paired')
    (endsRest : EndsAlike Sealed Paired' Names first.heap scope first'.heap scope' second second'
      Paired'') :
    EndsAlike Sealed Paired Names heap scope heap' scope' second second' Paired'' where
  size_le := Nat.le_trans ends.size_le endsRest.size_le
  size_le' := Nat.le_trans ends.size_le' endsRest.size_le'
  pairs := ends.pairs.trans endsRest.pairs ends.size_le ends.size_le'
  alike := endsRest.alike
  same := endsRest.same

/-- Two new boxes are alike in all names. -/
theorem Heap.Corresponds.alike_newBox (corresponds : heap.Corresponds Sealed Paired heap') :
    Alike Sealed (PairedWith Paired heap.size heap'.size) (fun _ => True)
      heap.newBox.1 heap.newBox.2 heap'.newBox.1 heap'.newBox.2 where
  corresponds := corresponds.alloc Cell.matches_empty
  inUse := heap.newBox_lt_size
  inUse' := heap'.newBox_lt_size
  scopes := by
    intro box box' paired
    exact (corresponds.alloc Cell.matches_empty).unique paired (Or.inr ⟨rfl, rfl⟩)
  lookups := by
    intro name _
    rw [Heap.lookup?, Heap.lookup?, Heap.newBox, Heap.newBox, Heap.cell_alloc_new,
      Heap.cell_alloc_new]
    exact .none

/-- The same literal, made in two heaps. -/
theorem Alike.newOfKind (alike : Alike Sealed Paired Names heap scope heap' scope')
    {payload : Payload} (isLiteral : payload.IsLiteral) :
    ∃ Paired', EndsAlike Sealed Paired Names heap scope heap' scope'
      ⟨.ok (heap.newOfKind payload).2, (heap.newOfKind payload).1⟩
      ⟨.ok (heap'.newOfKind payload).2, (heap'.newOfKind payload).1⟩ Paired' := by
  have items : Payload.Matches Paired (.list [payload.kind.box]) (.list [payload.kind.box]) :=
    .list (.cons (alike.corresponds.kinds payload.kind) .nil)
  have list := alike.corresponds.alloc
    (Cell.matches_fromParts .none (alike.corresponds.kinds .list) items)
  have carried : payload.Matches (PairedWith Paired heap.size heap'.size) payload := by
    apply Payload.matches_self
    rw [isLiteral.boxes_eq]
    exact List.forall_mem_nil _
  have literal := list.alloc (Cell.matches_fromParts .none (Or.inr ⟨rfl, rfl⟩) carried)
  have pairs := (pairs_alloc Paired heap heap').trans
    (pairs_alloc _ (heap.newList [payload.kind.box]).1 (heap'.newList [payload.kind.box]).1)
    (Heap.grows_alloc heap _).size_le (Heap.grows_alloc heap' _).size_le
  have retains (heap : Heap) :
      Heap.Retains (fun _ => True) heap (heap.newOfKind payload).1 :=
    (Heap.retains_alloc heap _).trans (Heap.retains_alloc _ _)
  exact ⟨_, .ofRetains alike pairs literal (retains heap) (retains heap') (Or.inr ⟨rfl, rfl⟩)⟩

end Pairing

section Trees

theorem parallel_sequence {items : List Expr} (parallel : ∀ item ∈ items, item.Parallel) :
    (Expr.sequence items).Parallel := by
  induction items with
  | nil =>
      intro Sealed Paired Names heap heap' scope scope' alike used
      exact ⟨_, _, Paired, .sequenceNil, .sequenceNil,
        .refl alike (.ok (alike.corresponds.kinds .null))⟩
  | cons item rest inductionHypothesis =>
      obtain ⟨parallelItem, parallelRest⟩ := List.forall_mem_cons.mp parallel
      intro Sealed Paired Names heap heap' scope scope' alike used
      obtain ⟨usedItem, usedRest⟩ := List.forall_mem_append.mp used
      obtain ⟨⟨result, after⟩, ⟨result', after'⟩, Paired', evaluates, evaluates', ends⟩ :=
        parallelItem alike usedItem
      cases rest with
      | nil => exact ⟨_, _, Paired', .sequenceLast evaluates, .sequenceLast evaluates', ends⟩
      | cons next rest =>
          cases ends.same with
          | error error =>
              exact ⟨_, _, Paired', .sequenceError evaluates, .sequenceError evaluates', ends⟩
          | ok paired =>
              obtain ⟨outcome, outcome', Paired'', evaluatesRest, evaluatesRest', endsRest⟩ :=
                inductionHypothesis parallelRest ends.alike usedRest
              exact ⟨outcome, outcome', Paired'', .sequenceCons evaluates evaluatesRest,
                .sequenceCons evaluates' evaluatesRest', ends.trans endsRest⟩

theorem parallel_assign {name : String} {value : Expr} (parallel : value.Parallel) :
    (Expr.assign name value).Parallel := by
  intro Sealed Paired Names heap heap' scope scope' alike used
  obtain ⟨⟨result, after⟩, ⟨result', after'⟩, Paired', evaluates, evaluates', ends⟩ :=
    parallel alike (List.forall_mem_cons.mp used).2
  cases ends.same with
  | error error => exact ⟨_, _, Paired', .assignError evaluates, .assignError evaluates', ends⟩
  | ok paired =>
      refine ⟨_, _, Paired', .assign evaluates, .assign evaluates', ?_⟩
      refine ⟨?_, ?_, ends.pairs, ends.alike.setVariable name paired, .ok paired⟩
      · rw [Heap.size_setVariable]
        exact ends.size_le
      · rw [Heap.size_setVariable]
        exact ends.size_le'

/-- The body of a box starts in new boxes, which are alike whatever is around them. -/
theorem parallel_box {body : Expr} (isLocal : body.IsLocal) (parallel : body.Parallel) :
    (Expr.box body).Parallel := by
  intro Sealed Paired Names heap heap' scope scope' alike used
  obtain ⟨⟨result, after⟩, ⟨result', after'⟩, Paired', evaluates, evaluates', ends⟩ :=
    parallel alike.corresponds.alike_newBox fun _ _ => trivial
  have pairs := (pairs_alloc Paired heap heap').trans ends.pairs
    (Heap.grows_alloc heap .empty).size_le (Heap.grows_alloc heap' .empty).size_le
  have retains := isLocal.retains_box evaluates
  have retains' := isLocal.retains_box evaluates'
  cases ends.same with
  | error error =>
      exact ⟨_, _, Paired', .boxError evaluates, .boxError evaluates', retains.size_le,
        retains'.size_le, pairs, alike.later pairs ends.alike.corresponds retains retains',
        .error error⟩
  | ok paired =>
      exact ⟨_, _, Paired', .box evaluates, .box evaluates',
        .ofRetains alike pairs ends.alike.corresponds retains retains'
          (ends.pairs.kept _ _ (Or.inr ⟨rfl, rfl⟩))⟩

/-- A local tree ends alike in scopes that are alike in the names that it uses. -/
theorem Expr.IsLocal.parallel {expr : Expr} (isLocal : expr.IsLocal) : expr.Parallel := by
  induction isLocal with
  | sequence _ items => exact parallel_sequence items
  | @get name =>
      intro Sealed Paired Names heap heap' scope scope' alike used
      have lookups := alike.lookups name (used name (List.mem_singleton_self name))
      generalize found : heap.lookup? scope name = value,
        found' : heap'.lookup? scope' name = value' at lookups
      cases lookups with
      | none =>
          exact ⟨_, _, Paired, .getMissing found, .getMissing found', .refl alike (.error _)⟩
      | some paired =>
          exact ⟨_, _, Paired, .get found, .get found', .refl alike (.ok paired)⟩
  | assign _ value => exact parallel_assign value
  | emptyBox =>
      intro Sealed Paired Names heap heap' scope scope' alike used
      exact ⟨_, _, _, .emptyBox, .emptyBox, .ofRetains alike (pairs_alloc Paired heap heap')
        (alike.corresponds.alloc Cell.matches_empty) (Heap.retains_alloc heap _)
        (Heap.retains_alloc heap' _) (Or.inr ⟨rfl, rfl⟩)⟩
  | box isLocal body => exact parallel_box isLocal body
  | text =>
      intro Sealed Paired Names heap heap' scope scope' alike used
      obtain ⟨Paired', ends⟩ := alike.newOfKind (.string _)
      exact ⟨_, _, Paired', .text, .text, ends⟩
  | integer =>
      intro Sealed Paired Names heap heap' scope scope' alike used
      obtain ⟨Paired', ends⟩ := alike.newOfKind (.integer _)
      exact ⟨_, _, Paired', .integer, .integer, ends⟩
  | real =>
      intro Sealed Paired Names heap heap' scope scope' alike used
      obtain ⟨Paired', ends⟩ := alike.newOfKind (.real _)
      exact ⟨_, _, Paired', .real, .real, ends⟩

/-- A local tree changes no other variables of its scope than those it names. -/
theorem Expr.IsLocal.lookup?_eq {expr : Expr} (isLocal : expr.IsLocal) {heap : Heap}
    {scope : BoxId} {outcome : Outcome} (inUse : scope < heap.size)
    (evaluates : Evaluates heap scope expr outcome) {name : String}
    (unused : name ∉ expr.scopeNames) :
    outcome.heap.lookup? scope name = heap.lookup? scope name := by
  induction isLocal generalizing heap outcome with
  | @sequence items isLocal inductionHypothesis =>
      induction items generalizing heap outcome with
      | nil =>
          cases evaluates
          rfl
      | cons item rest inductionHypothesisRest =>
          obtain ⟨unusedItem, unusedRest⟩ := not_or.mp (mt List.mem_append.mpr unused)
          obtain ⟨isLocalItem, isLocalRest⟩ := List.forall_mem_cons.mp isLocal
          obtain ⟨ofItem, ofRest⟩ := List.forall_mem_cons.mp inductionHypothesis
          cases evaluates with
          | sequenceLast evaluates => exact ofItem inUse evaluates unusedItem
          | sequenceError evaluates => exact ofItem inUse evaluates unusedItem
          | sequenceCons evaluates evaluatesRest =>
              have retains := isLocalItem.retains inUse evaluates
              have inUse' := Nat.lt_of_lt_of_le inUse retains.size_le
              rw [inductionHypothesisRest isLocalRest ofRest inUse' evaluatesRest unusedRest]
              exact ofItem inUse evaluates unusedItem
  | get => cases evaluates <;> rfl
  | assign isLocal inductionHypothesis =>
      obtain ⟨different, unused⟩ := not_or.mp (mt List.mem_cons.mpr unused)
      cases evaluates with
      | assignError evaluates => exact inductionHypothesis inUse evaluates unused
      | assign evaluates =>
          have retains := isLocal.retains inUse evaluates
          have inUse' := Nat.lt_of_lt_of_le inUse retains.size_le
          rw [Heap.lookup?_setVariable _ _ _ _ _ _ inUse', if_neg fun same => different same.2]
          exact inductionHypothesis inUse evaluates unused
  | emptyBox =>
      cases evaluates
      exact (Heap.retains_alloc heap _).lookup?_eq inUse name
  | box isLocal =>
      cases evaluates with
      | box evaluates => exact (isLocal.retains_box evaluates).lookup?_eq inUse name
      | boxError evaluates => exact (isLocal.retains_box evaluates).lookup?_eq inUse name
  | text =>
      cases evaluates
      exact (Heap.retains_newValue heap _).lookup?_eq inUse name
  | integer =>
      cases evaluates
      exact (Heap.retains_newValue heap _).lookup?_eq inUse name
  | real =>
      cases evaluates
      exact (Heap.retains_newValue heap _).lookup?_eq inUse name

end Trees

end BoxLang
