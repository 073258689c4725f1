import BoxLang.Proofs.Engine.Joining
import BoxLang.Proofs.Engine.Sessions
import BoxLang.Proofs.Heap.Printing
import BoxLang.Proofs.Machine.Parallel

/-!
# Threads that share a scope

Several threads run their programs in one scope, one run at a time and each thread in its own
order.  If no two threads use the same name in the scope, every run ends as it would without
the other threads, up to the choice of new boxes.  To one thread, a run of another thread is a
change of the heap that it cannot tell.
-/

namespace BoxLang

variable {ι : Type} [DecidableEq ι]

/-- What belongs to one thread, in order. -/
def entriesOf {α : Type} (thread : ι) (entries : List (ι × α)) : List α :=
  (entries.filter fun entry => entry.1 = thread).map (·.2)

/-- A schedule runs all programs of all threads, each thread in its own order. -/
def Serializes (schedule : List (ι × Program)) (threads : ι → List Program) : Prop :=
  ∀ thread, entriesOf thread schedule = threads thread

/-- The outcomes of a schedule that is run in one scope, each with its thread. -/
def Engine.outcomes (engine : Engine) (scope : BoxId) (heap : Heap)
    (schedule : List (ι × Program)) : List (ι × (Heap × Except Error BoxId)) :=
  (schedule.map (·.1)).zip (engine.transcript scope heap (schedule.map (·.2)))

/-- Two runs ended with the same error, or with boxes that are shown alike and lead to the
same graph. -/
inductive SameOutcome : Heap × Except Error BoxId → Heap × Except Error BoxId → Prop
  | ok {heap heap' : Heap} {value value' : BoxId} :
      heap.display value = heap'.display value' → heap.Isomorphic value heap' value' →
      SameOutcome (heap, .ok value) (heap', .ok value')
  | error {heap heap' : Heap} (error : Error) :
      SameOutcome (heap, .error error) (heap', .error error)

/-- No two threads have programs that use the same name in their scope. -/
def UseApart (threads : ι → List Program) : Prop :=
  ∀ first second, first ≠ second → ∀ program ∈ threads first, ∀ program' ∈ threads second,
    List.Disjoint program.expr.scopeNames program'.expr.scopeNames

/-- A scope that is shared with others, and one that is not, are alike in some names, and
neither can be reached from the boxes that are paired. -/
structure Follows (Names : String → Prop) (root : BoxId) (Paired : BoxId → BoxId → Prop)
    (heap heap' : Heap) : Prop where
  alike : Alike (fun _ => False) Paired Names heap root heap' root
  apart : ∀ {box box'}, Paired box box' → box ≠ root
  founded : heap.Founded
  founded' : heap'.Founded

/-- A program of a list uses a name in its scope. -/
def Program.Names (programs : List Program) (name : String) : Prop :=
  ∃ program ∈ programs, name ∈ program.expr.scopeNames

section Steps

variable {engine : Engine} {Names : String → Prop} {root : BoxId}
  {Paired : BoxId → BoxId → Prop} {heap heap' : Heap} {program : Program}

/-- A run of a program that only uses names in which the scopes are alike ends alike. -/
theorem Follows.run (unlimited : engine.limits = .unlimited)
    (follows : Follows Names root Paired heap heap')
    (used : ∀ name ∈ program.expr.scopeNames, Names name) :
    SameOutcome (engine.runIn heap root program) (engine.runIn heap' root program) ∧
      ∃ Paired', Follows Names root Paired' (engine.runIn heap root program).1
        (engine.runIn heap' root program).1 := by
  obtain ⟨outcome, outcome', Paired', evaluates, evaluates', ends⟩ :=
    program.isLocal.parallel follows.alike used
  rw [Engine.runIn_of_evaluates unlimited evaluates,
    Engine.runIn_of_evaluates unlimited evaluates']
  have founded := program.isLocal.founded evaluates follows.founded
  have founded' := program.isLocal.founded evaluates' follows.founded'
  constructor
  · obtain ⟨result, after⟩ := outcome
    obtain ⟨result', after'⟩ := outcome'
    cases ends.same with
    | error error => exact .error _
    | ok paired =>
        have isomorphic : after.Isomorphic _ after' _ := ⟨Paired', ends.alike.corresponds, paired⟩
        exact .ok (isomorphic.display_eq founded founded') isomorphic
  · refine ⟨Paired', ends.alike, ?_, founded, founded'⟩
    intro box box' paired
    rcases ends.pairs.new _ _ paired with paired | ⟨new, -⟩
    · exact follows.apart paired
    · exact Nat.ne_of_gt (Nat.lt_of_lt_of_le follows.alike.inUse new)

/-- A run of a program that uses none of the names changes nothing that can be told. -/
theorem Follows.skip (unlimited : engine.limits = .unlimited)
    (follows : Follows Names root Paired heap heap')
    (unused : ∀ name ∈ program.expr.scopeNames, ¬Names name) :
    Follows Names root Paired (engine.runIn heap root program).1 heap' := by
  obtain ⟨outcome, evaluates, ran⟩ := Engine.exists_evaluates unlimited heap root program
  rw [ran]
  have alike := follows.alike
  have retains := program.isLocal.retains alike.inUse evaluates
  refine ⟨⟨alike.corresponds.retained retains follows.apart, ?_, alike.inUse', alike.scopes, ?_⟩,
    follows.apart, program.isLocal.founded evaluates follows.founded, follows.founded'⟩
  · exact Nat.lt_of_lt_of_le alike.inUse retains.size_le
  · intro name named
    have unusedName : name ∉ program.expr.scopeNames := fun member => unused name member named
    rw [program.isLocal.lookup?_eq alike.inUse evaluates unusedName]
    exact alike.lookups name named

/-- A new scope is alike to itself. -/
theorem Heap.WellFormed.follows {base : Heap} (wellFormed : base.WellFormed)
    (Names : String → Prop) :
    Follows Names base.newBox.2 (fun box box' => box = box' ∧ box < base.size)
      base.newBox.1 base.newBox.1 := by
  have retains : Heap.Retains (fun _ => True) base base.newBox.1 := Heap.retains_alloc base .empty
  have founded := wellFormed.toFounded.newBox
  refine ⟨⟨wellFormed.corresponds retains retains, base.newBox_lt_size, base.newBox_lt_size, ?_,
    ?_⟩, ?_, founded, founded⟩
  · rintro box _ ⟨rfl, -⟩
    exact Iff.rfl
  · intro name _
    rw [Heap.lookup?, Heap.newBox, Heap.cell_alloc_new]
    exact .none
  · rintro box _ ⟨rfl, inUse⟩
    exact Nat.ne_of_lt inUse

end Steps

section Entries

variable {α : Type} {thread owner : ι} {item : α} {rest : List (ι × α)}

theorem entriesOf_cons_of_eq (own : owner = thread) :
    entriesOf thread ((owner, item) :: rest) = item :: entriesOf thread rest := by
  simp [entriesOf, own]

theorem entriesOf_cons_of_ne (other : owner ≠ thread) :
    entriesOf thread ((owner, item) :: rest) = entriesOf thread rest := by
  simp [entriesOf, other]

theorem mem_entriesOf {entry : ι × α} {entries : List (ι × α)} (member : entry ∈ entries) :
    entry.2 ∈ entriesOf entry.1 entries :=
  List.mem_map_of_mem (List.mem_filter.mpr ⟨member, decide_eq_true rfl⟩)

end Entries

section Schedules

variable {engine : Engine} {root : BoxId}

/-- The runs of one thread end alike in a schedule and without the others. -/
theorem Follows.outcomes (unlimited : engine.limits = .unlimited) {Names : String → Prop}
    {Paired : BoxId → BoxId → Prop} {heap heap' : Heap} {thread : ι}
    {schedule : List (ι × Program)} (follows : Follows Names root Paired heap heap')
    (named_iff : ∀ entry ∈ schedule, ∀ name ∈ entry.2.expr.scopeNames,
      (Names name ↔ entry.1 = thread)) :
    List.Forall₂ SameOutcome (entriesOf thread (engine.outcomes root heap schedule))
        (engine.transcript root heap' (entriesOf thread schedule)) ∧
      ∃ Paired', Follows Names root Paired' (engine.heapAfter root heap (schedule.map (·.2)))
        (engine.heapAfter root heap' (entriesOf thread schedule)) := by
  induction schedule generalizing Paired heap heap' with
  | nil => exact ⟨.nil, Paired, follows⟩
  | cons entry rest inductionHypothesis =>
      obtain ⟨owner, program⟩ := entry
      obtain ⟨named_program_iff, named_rest_iff⟩ := List.forall_mem_cons.mp named_iff
      have outcomes_cons : engine.outcomes root heap ((owner, program) :: rest) =
          (owner, engine.runIn heap root program) ::
            engine.outcomes root (engine.runIn heap root program).1 rest := rfl
      rw [outcomes_cons]
      by_cases own : owner = thread
      · obtain ⟨same, Paired', followsRest⟩ :=
          follows.run unlimited fun name member => (named_program_iff name member).mpr own
        obtain ⟨sameRest, followsAll⟩ := inductionHypothesis followsRest named_rest_iff
        rw [entriesOf_cons_of_eq own, entriesOf_cons_of_eq own]
        exact ⟨.cons same sameRest, followsAll⟩
      · have followsRest := follows.skip unlimited fun name member named =>
          own ((named_program_iff name member).mp named)
        rw [entriesOf_cons_of_ne own, entriesOf_cons_of_ne own]
        exact inductionHypothesis followsRest named_rest_iff

/-- Programs leave the variables of their scope alone that none of them names. -/
theorem lookup?_heapAfter (unlimited : engine.limits = .unlimited) {programs : List Program}
    {heap : Heap} (inUse : root < heap.size) {name : String}
    (unnamed : ¬Program.Names programs name) :
    (engine.heapAfter root heap programs).lookup? root name = heap.lookup? root name := by
  induction programs generalizing heap with
  | nil => rfl
  | cons program rest inductionHypothesis =>
      rw [Engine.heapAfter]
      obtain ⟨outcome, evaluates, ran⟩ := Engine.exists_evaluates unlimited heap root program
      have retains := program.isLocal.retains inUse evaluates
      have unnamedProgram : name ∉ program.expr.scopeNames := fun member =>
        unnamed ⟨program, List.mem_cons_self, member⟩
      have unnamedRest : ¬Program.Names rest name := by
        rintro ⟨other, member, named⟩
        exact unnamed ⟨other, List.mem_cons_of_mem program member, named⟩
      rw [ran, inductionHypothesis (Nat.lt_of_lt_of_le inUse retains.size_le) unnamedRest]
      exact program.isLocal.lookup?_eq inUse evaluates unnamedProgram

/-- The variables of a scope that was new are named by the programs that were run in it. -/
theorem names_of_mem_heapAfter (unlimited : engine.limits = .unlimited) {base : Heap}
    {programs : List Program} {name : String}
    (member : name ∈
      (engine.heapAfter base.newBox.2 base.newBox.1 programs).variableNames base.newBox.2) :
    Program.Names programs name := by
  apply Classical.byContradiction
  intro unnamed
  rw [Heap.mem_variableNames_iff, lookup?_heapAfter unlimited base.newBox_lt_size unnamed,
    ← Heap.mem_variableNames_iff, base.variableNames_newBox] at member
  cases member

end Schedules

/-- Threads that use no name in common run their programs in one scope, which is new.  In
whatever order the runs follow each other, each of them ends as it would without the other
threads, and the scope has the variables that the threads would have set without each other. -/
theorem outcomes_of_serializes {engine : Engine} (unlimited : engine.limits = .unlimited)
    {base : Heap} (wellFormed : base.WellFormed) {threads : ι → List Program}
    (apart : UseApart threads) {schedule : List (ι × Program)}
    (serializes : Serializes schedule threads) :
    (∀ thread, List.Forall₂ SameOutcome
      (entriesOf thread (engine.outcomes base.newBox.2 base.newBox.1 schedule))
      (engine.transcript base.newBox.2 base.newBox.1 (threads thread))) ∧
    ∀ name,
      name ∈ (engine.heapAfter base.newBox.2 base.newBox.1
        (schedule.map (·.2))).variableNames base.newBox.2 ↔
      ∃ thread, name ∈ (engine.heapAfter base.newBox.2 base.newBox.1
        (threads thread)).variableNames base.newBox.2 := by
  have mem_thread : ∀ entry ∈ schedule, entry.2 ∈ threads entry.1 := by
    intro entry member
    rw [← serializes]
    exact mem_entriesOf member
  have named_iff (thread : ι) : ∀ entry ∈ schedule, ∀ name ∈ entry.2.expr.scopeNames,
      (Program.Names (threads thread) name ↔ entry.1 = thread) := by
    intro entry member name named
    constructor
    · rintro ⟨program, memberProgram, named'⟩
      apply Classical.byContradiction
      intro other
      exact apart _ _ other _ (mem_thread entry member) _ memberProgram named named'
    · rintro rfl
      exact ⟨entry.2, mem_thread entry member, named⟩
  have follows (thread : ι) := (wellFormed.follows _).outcomes unlimited (named_iff thread)
  simp only [serializes _] at follows
  refine ⟨fun thread => (follows thread).1, ?_⟩
  have mem_iff (thread : ι) {name : String} (named : Program.Names (threads thread) name) :
      name ∈ (engine.heapAfter base.newBox.2 base.newBox.1
        (schedule.map (·.2))).variableNames base.newBox.2 ↔
      name ∈ (engine.heapAfter base.newBox.2 base.newBox.1
        (threads thread)).variableNames base.newBox.2 := by
    obtain ⟨-, Paired, followsAll⟩ := follows thread
    rw [Heap.mem_variableNames_iff, Heap.mem_variableNames_iff,
      optionRel_isSome (followsAll.alike.lookups name named)]
  intro name
  constructor
  · intro member
    obtain ⟨program, memberProgram, named⟩ := names_of_mem_heapAfter unlimited member
    obtain ⟨entry, memberEntry, rfl⟩ := List.mem_map.mp memberProgram
    exact ⟨entry.1, (mem_iff _ ⟨_, mem_thread entry memberEntry, named⟩).mp member⟩
  · rintro ⟨thread, member⟩
    exact (mem_iff thread (names_of_mem_heapAfter unlimited member)).mpr member

/-- One thread fails on a name that no one has set while the other uses a box that it has
made. -/
theorem outcomes_of_serializes_two_threads :
    ∃ (threads : Bool → List Program) (schedule : List (Bool × Program)),
      schedule.map (fun entry => (entry.1, entry.2.source)) =
        [(true, "b = 2"), (false, "a = \x7bx = 1\x7d"), (true, "c"), (false, "a")] ∧
      Heap.initial.WellFormed ∧ UseApart threads ∧ Serializes schedule threads ∧
      (∀ thread, List.Forall₂ SameOutcome
        (entriesOf thread (Engine.standard.outcomes rootBox Heap.initial.newBox.1 schedule))
        (Engine.standard.transcript rootBox Heap.initial.newBox.1 (threads thread))) ∧
      ∀ name,
        name ∈ (Engine.standard.heapAfter rootBox Heap.initial.newBox.1
          (schedule.map (·.2))).variableNames rootBox ↔ name = "a" ∨ name = "b" := by
  let setB : Program := ⟨"b = 2", .assign "b" (.integer 2), 1, rfl⟩
  let setA : Program :=
    ⟨"a = \x7bx = 1\x7d", .assign "a" (.box (.assign "x" (.integer 1))), 3, rfl⟩
  let getC : Program := ⟨"c", .get "c", 0, rfl⟩
  let getA : Program := ⟨"a", .get "a", 0, rfl⟩
  let threads (thread : Bool) : List Program := if thread then [setB, getC] else [setA, getA]
  let schedule : List (Bool × Program) :=
    [(true, setB), (false, setA), (true, getC), (false, getA)]
  have named_iff : ∀ thread, ∀ program ∈ threads thread, ∀ name ∈ program.expr.scopeNames,
      (name = "a" ↔ thread = false) := by
    rintro (_ | _) <;> simp [threads, setA, getA, setB, getC, Expr.scopeNames]
  have apart : UseApart threads := by
    intro first second different program member program' member' name named named'
    have same_iff := (named_iff first program member name named).symm.trans
      (named_iff second program' member' name named')
    revert different
    cases first <;> cases second <;> simp at same_iff ⊢
  have serializes : Serializes schedule threads := by
    rintro (_ | _) <;> rfl
  have wellFormed := Heap.ordered_initial.wellFormed
  have unlimited : Engine.standard.limits = .unlimited := rfl
  obtain ⟨outcomes, names⟩ := outcomes_of_serializes unlimited wellFormed apart serializes
  refine ⟨threads, schedule, rfl, wellFormed, apart, serializes, outcomes, ?_⟩
  have first : (Engine.standard.heapAfter rootBox Heap.initial.newBox.1
      (threads false)).variableNames rootBox = ["a"] := by decide +kernel
  have second : (Engine.standard.heapAfter rootBox Heap.initial.newBox.1
      (threads true)).variableNames rootBox = ["b"] := by decide +kernel
  intro name
  refine (names name).trans ?_
  rw [Bool.exists_bool]
  change name ∈ (Engine.standard.heapAfter rootBox _ _).variableNames rootBox ∨
    name ∈ (Engine.standard.heapAfter rootBox _ _).variableNames rootBox ↔ _
  rw [first, second, List.mem_singleton, List.mem_singleton]

end BoxLang
