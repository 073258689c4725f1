import Mathlib.Data.String.Basic
import BoxLang.Engine.Basic
import BoxLang.Proofs.Machine.Cost
import BoxLang.Proofs.Machine.DefiniteAssignment

/-!
# Limits that every program fits in

The length of a source text bounds the steps of its program, and the nesting that was
allowed when it was read bounds the frames.  An engine whose limits are no lower never
runs into them, so a host that chooses its limits by the text is told only that the text
is no program or that a variable is missing.
-/

namespace BoxLang

open Machine Limits

theorem length_le_utf8Len (text : List Char) : text.length ≤ String.utf8Len text := by
  induction text with
  | nil => exact Nat.le_refl 0
  | cons char text inductionHypothesis =>
      have positive := char.utf8Size_pos
      rw [List.length_cons, String.utf8Len_cons]
      omega

section Parsed

variable {maxDepth : Nat} {source : String} {expr : Expr}

theorem isCallFree_of_parsed (parsed : parseWithin maxDepth source = .ok expr) :
    expr.isCallFree = true := by
  have derives := (derivesProgram_of_parsed parsed).1
  exact derives.isLocal.isCallFree

theorem cost_le_of_parsed (parsed : parseWithin maxDepth source = .ok expr) :
    expr.cost ≤ 2 * source.utf8ByteSize + 1 := by
  have derives := (derivesProgram_of_parsed parsed).1
  have cost_le := derives.cost_le
  have length_le := length_le_utf8Len source.toList
  rw [String.utf8Len_toList] at length_le
  omega

theorem height_le_of_parsed (parsed : parseWithin maxDepth source = .ok expr) :
    expr.height ≤ 2 * maxDepth + 2 := by
  obtain ⟨derives, nested⟩ := derivesProgram_of_parsed parsed
  have height_le := derives.height_le
  omega

/-- A program ends with a value or for want of a variable. -/
theorem exists_haltsWith_of_parsed (parsed : parseWithin maxDepth source = .ok expr)
    {heap : Heap} {scope : BoxId} (inUse : scope < heap.size) :
    ∃ outcome, HaltsWith .unlimited heap scope expr outcome ∧
      ((∃ value, outcome.result = .ok value) ∨
        ∃ name, outcome.result = .error (.variableNotFound name)) := by
  have derives := (derivesProgram_of_parsed parsed).1
  obtain ⟨outcome, evaluates, foreseen⟩ :=
    derives.isLocal.foreseeable heap scope _ inUse fun _ => Iff.rfl
  refine ⟨outcome, evaluates.haltsWith, ?_⟩
  cases missing : (expr.definedAfter (heap.variableNames scope)).missing with
  | none => exact Or.inl (foreseen.succeeds missing)
  | some name => exact Or.inr ⟨name, foreseen.fails name missing⟩

end Parsed

namespace Engine

variable {engine : Engine} {heap : Heap} {scope : BoxId}

/-- A run of a program is the whole of its evaluation. -/
theorem runIn_eq {program : Program} {outcome : Outcome}
    (halts : HaltsWith engine.limits heap scope program.expr outcome) :
    engine.runIn heap scope program =
      (outcome.heap, outcome.result.mapError .ofEvalError) := by
  obtain ⟨maxDepth, parsed⟩ := program.isRead
  obtain ⟨outcome', halted⟩ := exists_halted_of_cost (isCallFree_of_parsed parsed)
  have same : outcome = outcome' := halts.unique ⟨_, halted⟩
  rw [runIn, halted, same]
  rfl

theorem compile_of_parsed {source : String} {expr : Expr}
    (parsed : parseWithin engine.maxDepth source = .ok expr) :
    ∃ program, engine.compile source = .ok program ∧ program.expr = expr := by
  unfold compile compileWithin
  split
  case h_1 expr' parsed' =>
    cases parsed.symm.trans parsed'
    exact ⟨_, rfl, rfl⟩
  case h_2 failed => cases parsed.symm.trans failed

theorem compile_of_failed {source : String} {error : ParseError}
    (failed : parseWithin engine.maxDepth source = .error error) :
    engine.compile source = .error (.ofParseError error) := by
  unfold compile compileWithin
  split
  case h_1 parsed => cases failed.symm.trans parsed
  case h_2 error' failed' =>
    cases failed.symm.trans failed'
    rfl

end Engine

section Fitting

variable {engine : Engine} {source : String} {expr : Expr} {heap : Heap} {scope : BoxId}

theorem haltsWith_iff_of_parsed (parsed : parseWithin engine.maxDepth source = .ok expr)
    (steps : Allows engine.limits.maxSteps (2 * source.utf8ByteSize + 1))
    (frames : Allows engine.limits.maxFrames (2 * engine.maxDepth + 2)) (outcome : Outcome) :
    HaltsWith engine.limits heap scope expr outcome ↔
      HaltsWith .unlimited heap scope expr outcome := by
  have enough : ∀ count, Enough engine.limits heap scope expr count :=
    enough_of_cost (isCallFree_of_parsed parsed) (steps.le (cost_le_of_parsed parsed))
      (frames.le (height_le_of_parsed parsed))
  unfold HaltsWith
  simp only [evaluate_eq_of_enough enough]

/-- A source text that is a program is answered with the outcome of its evaluation in a new
box. -/
theorem runSource_of_parsed (parsed : parseWithin engine.maxDepth source = .ok expr)
    (steps : Allows engine.limits.maxSteps (2 * source.utf8ByteSize + 1))
    (frames : Allows engine.limits.maxFrames (2 * engine.maxDepth + 2)) :
    ∃ outcome, HaltsWith engine.limits heap.newBox.1 heap.newBox.2 expr outcome ∧
      ((∃ box, outcome.result = .ok box ∧
          engine.runSource heap source = (outcome.heap, .ok box)) ∨
        ∃ name, outcome.result = .error (.variableNotFound name) ∧
          engine.runSource heap source =
            (outcome.heap, .error (.runtime (EvalError.variableNotFound name).message))) := by
  obtain ⟨program, compiled, rfl⟩ := Engine.compile_of_parsed parsed
  obtain ⟨outcome, unlimited, ended⟩ := exists_haltsWith_of_parsed parsed heap.newBox_lt_size
  have halts := (haltsWith_iff_of_parsed parsed steps frames outcome).mpr unlimited
  have answer : engine.runSource heap source =
      (outcome.heap, outcome.result.mapError .ofEvalError) := by
    rw [Engine.runSource, compiled]
    exact Engine.runIn_eq halts
  refine ⟨outcome, halts, ?_⟩
  rw [answer]
  rcases ended with ⟨box, succeeded⟩ | ⟨name, failed⟩
  · exact Or.inl ⟨box, succeeded, by rw [succeeded]; rfl⟩
  · exact Or.inr ⟨name, failed, by rw [failed]; rfl⟩

end Fitting

/-- Two steps for each byte of a source text and one more, and two frames for each level
of nesting that it may have and two more, are as good as no limits.  So an engine with
such limits answers with the outcome of the evaluation, which is a value or the want of a
variable, unless the text is no program. -/
theorem runSource_fits_limits (engine : Engine) (source : String)
    (steps : Allows engine.limits.maxSteps (2 * source.utf8ByteSize + 1))
    (frames : Allows engine.limits.maxFrames (2 * engine.maxDepth + 2)) :
    (∀ expr, parseWithin engine.maxDepth source = .ok expr →
      ∀ (heap : Heap) (scope : BoxId),
        (∀ outcome, HaltsWith engine.limits heap scope expr outcome ↔
          HaltsWith .unlimited heap scope expr outcome) ∧
        ∃ outcome, HaltsWith engine.limits heap scope expr outcome ∧
          ∀ error, outcome.result = .error error → ¬error.IsLimit) ∧
    ∀ heap : Heap,
      ((∃ diagnostics text,
        (engine.runSource heap source).2 = .error (.compilation diagnostics text)) ↔
        ∀ expr, parseWithin engine.maxDepth source ≠ .ok expr) ∧
      ∀ expr, parseWithin engine.maxDepth source = .ok expr →
        ∃ outcome, HaltsWith engine.limits heap.newBox.1 heap.newBox.2 expr outcome ∧
          ((∃ box, outcome.result = .ok box ∧
              engine.runSource heap source = (outcome.heap, .ok box)) ∨
            ∃ name, outcome.result = .error (.variableNotFound name) ∧
              engine.runSource heap source =
                (outcome.heap, .error (.runtime (EvalError.variableNotFound name).message))) := by
  refine ⟨?_, ?_⟩
  · intro expr parsed heap scope
    have same := @haltsWith_iff_of_parsed engine source expr heap scope parsed steps frames
    obtain ⟨outcome, ran⟩ := exists_halted_of_cost (isCallFree_of_parsed parsed)
    have halts : HaltsWith engine.limits heap scope expr outcome := ⟨_, ran⟩
    refine ⟨same, outcome, halts, ?_⟩
    intro error failed
    exact ((same outcome).mp halts).evaluates.not_isLimit failed
  · intro heap
    refine ⟨⟨?_, ?_⟩, fun expr parsed => runSource_of_parsed parsed steps frames⟩
    · rintro ⟨diagnostics, text, failed⟩ expr parsed
      obtain ⟨outcome, -, ⟨box, -, ran⟩ | ⟨name, -, ran⟩⟩ :=
        @runSource_of_parsed engine source expr heap parsed steps frames
      · cases failed.symm.trans (congrArg Prod.snd ran)
      · cases failed.symm.trans (congrArg Prod.snd ran)
    · intro unparsed
      cases parsed : parseWithin engine.maxDepth source with
      | ok expr => exact absurd parsed (unparsed expr)
      | error error =>
          refine ⟨[error.diagnostic], error.source, ?_⟩
          rw [Engine.runSource, Engine.compile_of_failed parsed]
          rfl

/-- The bounds are met: two literals take seven steps, three for each and one to leave, and the
engine answers with their outcome. -/
theorem runSource_fits_limits_two_literals :
    Allows (some 7) (2 * "1;1".utf8ByteSize + 1) ∧ Allows (some 2) (2 * 0 + 2) ∧
      ∃ expr, parseWithin 0 "1;1" = .ok expr ∧
        (∃ outcome, HaltsWith ⟨some 2, some 7⟩ Heap.initial 0 expr outcome ∧
          HaltsWith .unlimited Heap.initial 0 expr outcome ∧
          ∀ error, outcome.result = .error error → ¬error.IsLimit) ∧
        ∃ outcome box,
          HaltsWith ⟨some 2, some 7⟩ Heap.initial.newBox.1 Heap.initial.newBox.2 expr outcome ∧
          outcome.result = .ok box ∧
          Engine.runSource ⟨0, ⟨some 2, some 7⟩⟩ Heap.initial "1;1" =
            (outcome.heap, .ok box) := by
  have steps : Allows (some 7) (2 * "1;1".utf8ByteSize + 1) := by decide
  have frames : Allows (some 2) (2 * 0 + 2) := by decide
  have parsed : parseWithin 0 "1;1" = .ok (.sequence [.integer 1, .integer 1]) := rfl
  obtain ⟨fits, answers⟩ := runSource_fits_limits ⟨0, ⟨some 2, some 7⟩⟩ "1;1" steps frames
  obtain ⟨same, outcome, halts, unlimited⟩ := fits _ parsed Heap.initial 0
  refine ⟨steps, frames, _, parsed,
    ⟨outcome, halts, (same outcome).mp halts, unlimited⟩, ?_⟩
  obtain ⟨outcome, halts, ⟨box, succeeded, ran⟩ | ⟨name, -, ran⟩⟩ :=
    (answers Heap.initial).2 _ parsed
  · exact ⟨outcome, box, halts, succeeded, ran⟩
  · have succeeded : (Engine.runSource ⟨0, ⟨some 2, some 7⟩⟩ Heap.initial "1;1").2.isOk = true := by
      decide
    rw [ran] at succeeded
    cases succeeded

end BoxLang
