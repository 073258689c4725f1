import BoxLang.Proofs.Engine.Bounds

/-!
# Programs run one after the other

Source texts with `;` between them are one program, and its statements are those of the
texts in order.  A scope carries over from one run to the next as it does from one
statement to the next, so running the texts one after the other comes to the same as
running them as one program, up to the first that fails.
-/

namespace BoxLang

open Machine Reader

/-- The statements that a tree stands for. -/
def Expr.statements : Expr → List Expr
  | .sequence items => items
  | expr => [expr]

namespace Engine

/-- The outcomes of programs that are run one after the other in one scope, each on the
heap that the one before it has left. -/
def transcript (engine : Engine) (scope : BoxId) :
    Heap → List Program → List (Heap × Except Error BoxId)
  | _, [] => []
  | heap, program :: rest =>
      engine.runIn heap scope program ::
        engine.transcript scope (engine.runIn heap scope program).1 rest

/-- The heap that is left when programs have been run one after the other. -/
def heapAfter (engine : Engine) (scope : BoxId) : Heap → List Program → Heap
  | heap, [] => heap
  | heap, program :: rest => engine.heapAfter scope (engine.runIn heap scope program).1 rest

end Engine

/-- A run ended with a value. -/
def Succeeded (ran : Heap × Except Error BoxId) : Prop :=
  ∃ value, ran.2 = .ok value

section Trees

mutual

theorem Reader.DerivesExpr.statements_eq {text : List Char} {expr : Expr}
    (derives : DerivesExpr text expr) : expr.statements = [expr] := by
  cases derives with
  | string => rfl
  | number number =>
      cases number with
      | integer => rfl
      | real => rfl
  | get => rfl
  | assign => rfl
  | box => rfl

theorem Reader.DerivesStatements.statements_eq {text : List Char} {statements : List Expr}
    (derives : DerivesStatements text statements) :
    ∀ statement ∈ statements, statement.statements = [statement] :=
  match derives with
  | .missing _ => List.forall_mem_nil _
  | .single _ expr _ => List.forall_mem_singleton.mpr expr.statements_eq
  | .separated first second =>
      List.forall_mem_append.mpr ⟨first.statements_eq, second.statements_eq⟩

end

theorem Expr.statements_ofStatements {statements : List Expr}
    (single : ∀ statement ∈ statements, statement.statements = [statement]) :
    (Expr.ofStatements statements).statements = statements := by
  unfold Expr.ofStatements
  split
  · exact single _ (List.mem_singleton_self _)
  · rfl

/-- Texts with `;` between them stand for the statements of all of them. -/
theorem derivesStatements_intercalate {texts : List (List Char)} {statements : List (List Expr)}
    (derives : List.Forall₂ DerivesStatements texts statements) :
    DerivesStatements ([';'].intercalate texts) statements.flatten := by
  induction derives with
  | nil => exact .missing (by simp [IsSpacing])
  | @cons text first texts rest derivesText derivesTexts inductionHypothesis =>
      cases derivesTexts with
      | nil => simpa using derivesText
      | cons =>
          rw [List.intercalate_cons_cons, List.flatten_cons, List.append_assoc]
          exact .separated derivesText inductionHypothesis

end Trees

section Sequences

variable {heap after : Heap} {scope value : BoxId} {first second : List Expr}
  {error : EvalError} {outcome : Outcome}

/-- A single statement is evaluated as a sequence of one. -/
theorem evaluates_ofStatements_iff {statements : List Expr} :
    Evaluates heap scope (.ofStatements statements) outcome ↔
      Evaluates heap scope (.sequence statements) outcome := by
  unfold Expr.ofStatements
  split
  · constructor
    · exact .sequenceLast
    · intro evaluates
      cases evaluates with
      | sequenceLast item => exact item
  · exact Iff.rfl

theorem evaluates_append_of_error
    (evaluates : Evaluates heap scope (.sequence first) ⟨.error error, after⟩) :
    Evaluates heap scope (.sequence (first ++ second)) ⟨.error error, after⟩ := by
  induction first generalizing heap with
  | nil => cases evaluates
  | cons item rest inductionHypothesis =>
      cases evaluates with
      | sequenceLast failed =>
          cases second with
          | nil => exact .sequenceLast failed
          | cons => exact .sequenceError failed
      | sequenceCons succeeded failed =>
          exact .sequenceCons succeeded (inductionHypothesis failed)
      | sequenceError failed => exact .sequenceError failed

theorem evaluates_append_of_ok (nonempty : second ≠ [])
    (evaluates : Evaluates heap scope (.sequence first) ⟨.ok value, after⟩)
    (evaluatesSecond : Evaluates after scope (.sequence second) outcome) :
    Evaluates heap scope (.sequence (first ++ second)) outcome := by
  obtain ⟨next, second, rfl⟩ := List.exists_cons_of_ne_nil nonempty
  induction first generalizing heap with
  | nil =>
      cases evaluates
      exact evaluatesSecond
  | cons item rest inductionHypothesis =>
      cases evaluates with
      | sequenceLast succeeded => exact .sequenceCons succeeded evaluatesSecond
      | sequenceCons succeeded evaluatesRest =>
          exact .sequenceCons succeeded (inductionHypothesis evaluatesRest)

end Sequences

namespace Engine

variable {engine : Engine} {heap : Heap} {scope : BoxId}

/-- Without limits, a run of a program follows the evaluation rules. -/
theorem exists_evaluates (unlimited : engine.limits = .unlimited) (heap : Heap) (scope : BoxId)
    (program : Program) :
    ∃ outcome, Evaluates heap scope program.expr outcome ∧
      engine.runIn heap scope program =
        (outcome.heap, outcome.result.mapError .ofEvalError) := by
  obtain ⟨maxDepth, parsed⟩ := program.isRead
  obtain ⟨outcome, ran⟩ := @exists_halted_of_cost .unlimited heap scope program.expr
    (isCallFree_of_parsed parsed)
  have halts : HaltsWith .unlimited heap scope program.expr outcome := ⟨_, ran⟩
  refine ⟨outcome, halts.evaluates, runIn_eq ?_⟩
  rwa [unlimited]

theorem runIn_of_evaluates (unlimited : engine.limits = .unlimited) {program : Program}
    {outcome : Outcome} (evaluates : Evaluates heap scope program.expr outcome) :
    engine.runIn heap scope program = (outcome.heap, outcome.result.mapError .ofEvalError) := by
  obtain ⟨outcome', evaluates', ran⟩ := exists_evaluates unlimited heap scope program
  rw [ran, evaluates.deterministic evaluates']

theorem parsed_of_compiled {source : String} {program : Program}
    (compiled : engine.compile source = .ok program) :
    parseWithin engine.maxDepth source = .ok program.expr := by
  cases parsed : parseWithin engine.maxDepth source with
  | error error => cases (compile_of_failed parsed).symm.trans compiled
  | ok expr =>
      obtain ⟨program', compiled', rfl⟩ := compile_of_parsed parsed
      cases compiled.symm.trans compiled'
      rfl

end Engine

/-- The tree of a program is that of its statements, which the text stands for. -/
theorem statements_of_parsed {maxDepth : Nat} {source : String} {expr : Expr}
    (parsed : parseWithin maxDepth source = .ok expr) :
    DerivesStatements source.toList expr.statements ∧ expr = .ofStatements expr.statements := by
  obtain ⟨statements, derives, same⟩ := (derivesProgram_of_parsed parsed).1
  have statements_eq := Expr.statements_ofStatements derives.statements_eq
  rw [same, statements_eq]
  exact ⟨derives, rfl⟩

/-- The statements of programs, in order. -/
def Program.allStatements (programs : List Program) : List Expr :=
  programs.flatMap fun program => program.expr.statements

section Texts

variable {engine : Engine} {sources : List String} {programs : List Program}

theorem derives_of_compiled
    (compiled : List.Forall₂ (fun source program => engine.compile source = .ok program)
      sources programs) :
    DerivesStatements (";".intercalate sources).toList (Program.allStatements programs) := by
  rw [String.toList_intercalate, Program.allStatements, List.flatMap_def]
  apply derivesStatements_intercalate
  rw [List.forall₂_map_left_iff, List.forall₂_map_right_iff]
  exact compiled.imp fun _ _ compiled =>
    (statements_of_parsed (Engine.parsed_of_compiled compiled)).1

theorem nesting_le_of_compiled
    (compiled : List.Forall₂ (fun source program => engine.compile source = .ok program)
      sources programs) :
    ∀ statement ∈ Program.allStatements programs, statement.nesting ≤ engine.maxDepth := by
  induction compiled with
  | nil => simp [Program.allStatements]
  | cons compiled _ inductionHypothesis =>
      have parsed := Engine.parsed_of_compiled compiled
      have fits := (derivesProgram_of_parsed parsed).2
      rw [(statements_of_parsed parsed).2, Expr.nesting_ofStatements_le_iff] at fits
      exact List.forall_mem_append.mpr ⟨fits, inductionHypothesis⟩

/-- Texts that are compiled make one program with `;` between them. -/
theorem compile_joined
    (compiled : List.Forall₂ (fun source program => engine.compile source = .ok program)
      sources programs) :
    ∃ joined, engine.compile (";".intercalate sources) = .ok joined ∧
      joined.expr = .ofStatements (Program.allStatements programs) := by
  apply Engine.compile_of_parsed
  apply parseWithin_ok_iff_read.mpr
  have derives : DerivesProgram _ _ := ⟨_, derives_of_compiled compiled, rfl⟩
  exact derives.read_eq (Expr.nesting_ofStatements_le_iff.mpr (nesting_le_of_compiled compiled))

end Texts

section Runs

variable {engine : Engine} {scope : BoxId}

/-- A run of a program succeeds or fails as the evaluation of its statements does. -/
theorem evaluates_statements (unlimited : engine.limits = .unlimited) (heap : Heap)
    (scope : BoxId) (program : Program) :
    (∃ value after, Evaluates heap scope (.sequence program.expr.statements) ⟨.ok value, after⟩ ∧
      engine.runIn heap scope program = (after, .ok value)) ∨
    ∃ error after, Evaluates heap scope (.sequence program.expr.statements)
        ⟨.error error, after⟩ ∧
      engine.runIn heap scope program = (after, .error (.ofEvalError error)) := by
  obtain ⟨⟨result, after⟩, evaluates, ran⟩ := Engine.exists_evaluates unlimited heap scope program
  obtain ⟨maxDepth, parsed⟩ := program.isRead
  rw [(statements_of_parsed parsed).2, evaluates_ofStatements_iff] at evaluates
  cases result with
  | ok value => exact Or.inl ⟨value, after, evaluates, ran⟩
  | error error => exact Or.inr ⟨error, after, evaluates, ran⟩

/-- The statements of programs fail where the first of the programs does. -/
theorem evaluates_of_failed (unlimited : engine.limits = .unlimited) {programs : List Program}
    {heap : Heap} {earlier later : List (Heap × Except Error BoxId)}
    {failed : Heap × Except Error BoxId}
    (split : engine.transcript scope heap programs = earlier ++ failed :: later)
    (succeeded : ∀ ran ∈ earlier, Succeeded ran) (unsuccessful : ¬Succeeded failed) :
    ∃ error, Evaluates heap scope (.sequence (Program.allStatements programs))
        ⟨.error error, failed.1⟩ ∧ failed.2 = .error (.ofEvalError error) := by
  induction programs generalizing heap earlier with
  | nil => simp [Engine.transcript] at split
  | cons program rest inductionHypothesis =>
      rw [Engine.transcript] at split
      rcases evaluates_statements unlimited heap scope program with
        ⟨value, after, evaluates, ran⟩ | ⟨error, after, evaluates, ran⟩
      · rw [ran] at split
        rcases List.cons_eq_append_iff.mp split with ⟨-, same⟩ | ⟨earlier, rfl, splitRest⟩
        · cases same
          exact absurd ⟨value, rfl⟩ unsuccessful
        · have succeededRest := (List.forall_mem_cons.mp succeeded).2
          obtain ⟨error, evaluatesRest, same⟩ := inductionHypothesis splitRest succeededRest
          refine ⟨error, evaluates_append_of_ok ?_ evaluates evaluatesRest, same⟩
          intro empty
          have nothing : Program.allStatements rest = [] := empty
          rw [nothing] at evaluatesRest
          cases evaluatesRest
      · rw [ran] at split
        rcases List.cons_eq_append_iff.mp split with ⟨-, same⟩ | ⟨earlier, rfl, -⟩
        · cases same
          exact ⟨error, evaluates_append_of_error evaluates, rfl⟩
        · obtain ⟨value, succeededFirst⟩ := (List.forall_mem_cons.mp succeeded).1
          cases succeededFirst

/-- The statements of programs that all succeed leave the heap that the programs leave. Their
value is that of the last program, unless it has no statements. -/
theorem evaluates_of_succeeded (unlimited : engine.limits = .unlimited) {programs : List Program}
    {heap : Heap} (succeeded : ∀ ran ∈ engine.transcript scope heap programs, Succeeded ran) :
    ∃ value, Evaluates heap scope (.sequence (Program.allStatements programs))
        ⟨.ok value, engine.heapAfter scope heap programs⟩ ∧
      ∀ last, programs.getLast? = some last → last.expr.statements ≠ [] →
        (engine.transcript scope heap programs).getLast? =
          some (engine.heapAfter scope heap programs, .ok value) := by
  induction programs generalizing heap with
  | nil => exact ⟨_, .sequenceNil, by simp⟩
  | cons program rest inductionHypothesis =>
      rw [Engine.transcript] at succeeded ⊢
      rw [Engine.heapAfter]
      obtain ⟨succeededFirst, succeededRest⟩ := List.forall_mem_cons.mp succeeded
      obtain ⟨valueRest, evaluatesRest, lastRest⟩ := inductionHypothesis succeededRest
      rcases evaluates_statements unlimited heap scope program with
        ⟨value, after, evaluates, ran⟩ | ⟨error, after, -, ran⟩
      · rw [ran] at evaluatesRest lastRest ⊢
        by_cases empty : Program.allStatements rest = []
        · have statements_eq : Program.allStatements (program :: rest) = program.expr.statements :=
            (congrArg (program.expr.statements ++ ·) empty).trans (List.append_nil _)
          rw [empty] at evaluatesRest
          have unchanged : engine.heapAfter scope after rest = after :=
            congrArg Outcome.heap (evaluatesRest.deterministic .sequenceNil)
          rw [statements_eq, unchanged]
          refine ⟨value, evaluates, ?_⟩
          intro last isLast nonempty
          cases rest with
          | nil => rfl
          | cons next rest =>
              rw [List.getLast?_cons_cons] at isLast
              have member := List.mem_of_getLast? isLast
              exact absurd (List.flatMap_eq_nil_iff.mp empty last member) nonempty
        · refine ⟨valueRest, evaluates_append_of_ok empty evaluates evaluatesRest, ?_⟩
          intro last isLast nonempty
          cases rest with
          | nil => exact absurd rfl empty
          | cons next rest =>
              rw [List.getLast?_cons_cons] at isLast
              rw [List.getLast?_cons, lastRest last isLast nonempty]
              rfl
      · rw [ran] at succeededFirst
        obtain ⟨value, impossible⟩ := succeededFirst
        cases impossible

end Runs

/-- Texts that are programs make one program with `;` between them, of all their statements in
order.  Without limits, running it comes to the same as running them one after the other in
the same scope: up to and including the first that fails, if one does, and otherwise with
the result of the last, unless that has no statements. -/
theorem runIn_joined {engine : Engine} (unlimited : engine.limits = .unlimited)
    {sources : List String} {programs : List Program}
    (compiled : List.Forall₂ (fun source program => engine.compile source = .ok program)
      sources programs) :
    ∃ joined, engine.compile (";".intercalate sources) = .ok joined ∧
      joined.expr = .ofStatements (Program.allStatements programs) ∧
      joined.expr.statements = Program.allStatements programs ∧
      ∀ (heap : Heap) (scope : BoxId),
        (∀ earlier failed later,
          engine.transcript scope heap programs = earlier ++ failed :: later →
            (∀ ran ∈ earlier, Succeeded ran) → ¬Succeeded failed →
              engine.runIn heap scope joined = failed) ∧
        ((∀ ran ∈ engine.transcript scope heap programs, Succeeded ran) →
          ∃ value, engine.runIn heap scope joined =
              (engine.heapAfter scope heap programs, .ok value) ∧
            ∀ last, programs.getLast? = some last → last.expr.statements ≠ [] →
              (engine.transcript scope heap programs).getLast? =
                some (engine.heapAfter scope heap programs, .ok value)) := by
  obtain ⟨joined, compiledJoined, expr_eq⟩ := compile_joined compiled
  have single := (derives_of_compiled compiled).statements_eq
  have ran_of_evaluates : ∀ {heap scope outcome},
      Evaluates heap scope (.sequence (Program.allStatements programs)) outcome →
        engine.runIn heap scope joined =
          (outcome.heap, outcome.result.mapError .ofEvalError) := by
    intro heap scope outcome evaluates
    apply Engine.runIn_of_evaluates unlimited
    rwa [expr_eq, evaluates_ofStatements_iff]
  refine ⟨joined, compiledJoined, expr_eq, ?_, ?_⟩
  · rw [expr_eq, Expr.statements_ofStatements single]
  intro heap scope
  constructor
  · intro earlier failed later split succeeded unsuccessful
    obtain ⟨error, evaluates, same⟩ :=
      evaluates_of_failed unlimited split succeeded unsuccessful
    rw [ran_of_evaluates evaluates]
    exact Prod.ext rfl same.symm
  · intro succeeded
    obtain ⟨value, evaluates, isLast⟩ := evaluates_of_succeeded unlimited succeeded
    exact ⟨value, ran_of_evaluates evaluates, isLast⟩

/-- A blank text between two others changes nothing, and the last one fails on the heap that
the others have left. -/
theorem runIn_joined_three_texts :
    ∃ programs,
      List.Forall₂ (fun source program => Engine.standard.compile source = .ok program)
        ["a = 1", " ", "a; b"] programs ∧
      ∃ joined, Engine.standard.compile "a = 1; ;a; b" = .ok joined ∧
        joined.expr = .sequence [.assign "a" (.integer 1), .get "a", .get "b"] ∧
        ∃ earlier failed,
          Engine.standard.transcript 7 Heap.initial.newBox.1 programs = earlier ++ [failed] ∧
          ¬Succeeded failed ∧ Engine.standard.runIn Heap.initial.newBox.1 7 joined = failed := by
  let first : Program := ⟨"a = 1", .assign "a" (.integer 1), 256, rfl⟩
  let blank : Program := ⟨" ", .sequence [], 256, rfl⟩
  let last : Program := ⟨"a; b", .sequence [.get "a", .get "b"], 256, rfl⟩
  have compiled : List.Forall₂ (fun source program => Engine.standard.compile source = .ok program)
      ["a = 1", " ", "a; b"] [first, blank, last] :=
    .cons rfl (.cons rfl (.cons rfl .nil))
  let heap := Heap.initial.newBox.1
  let assigned := (Engine.standard.runIn heap 7 first).1
  obtain ⟨joined, compiledJoined, expr_eq, -, runs⟩ := runIn_joined rfl compiled
  refine ⟨_, compiled, joined, compiledJoined, expr_eq,
    [(assigned, .ok 9), (assigned, .ok 0)], (assigned, .error (.runtime "Variable `b` not found")),
    rfl, ?_, ?_⟩
  · rintro ⟨value, impossible⟩
    cases impossible
  · refine (runs heap 7).1 [(assigned, .ok 9), (assigned, .ok 0)] _ [] rfl ?_ ?_
    · simp [Succeeded]
    · rintro ⟨value, impossible⟩
      cases impossible

end BoxLang
