import BoxLang.Expr.Scoping
import BoxLang.Proofs.Machine.Phases

/-!
# Steps of local frames

What a step of a frame can do when its expression only uses the variables of its scope: it
reads or sets a variable of that scope, makes a box or a literal, or moves on.  A frame that
has its share of values uses no others.
-/

namespace BoxLang

/-- The payloads of literals. -/
inductive Payload.IsLiteral : Payload → Prop
  | integer (value : Int64) : IsLiteral (.integer value)
  | real (value : Binary64) : IsLiteral (.real value)
  | string (bytes : List UInt8) : IsLiteral (.string bytes)

theorem Payload.IsLiteral.boxes_eq {payload : Payload} (isLiteral : payload.IsLiteral) :
    payload.boxes = [] := by
  cases isLiteral <;> rfl

namespace Machine

/-- A move that enters nothing but local expressions, in a given scope. -/
def Move.StaysIn (scope : BoxId) (move : Move) : Prop :=
  ∀ scope' expr, move = .enter scope' expr → scope' = scope ∧ expr.IsLocal

namespace Frame

/-- What a step of a local frame can come to. -/
inductive Acts (frame : Frame) (heap : Heap) (values : Stack BoxId) : Effect → Prop
  | fail (error : EvalError) : Acts frame heap values (.fail heap values error)
  /-- It drops some of its own values. -/
  | drop {count : Nat} {move : Move} : frame.baseline ≤ count → move.StaysIn frame.scope →
      Acts frame heap values (.next heap (values.truncate count) move)
  | null : Acts frame heap values (.next heap (values.push Kind.null.box) .leave)
  | get {name : String} {found : BoxId} : heap.lookup? frame.scope name = some found →
      Acts frame heap values (.next heap (values.push found) .advance)
  | assign {name : String} {value : BoxId} {base : Stack BoxId} :
      values = base.push value → frame.baseline = base.size →
      Acts frame heap values
        (.next (heap.setVariable frame.scope name value) (base.push value) .advance)
  | box {move : Move} : move.StaysIn heap.newBox.2 →
      Acts frame heap values (.next heap.newBox.1 (values.push heap.newBox.2) move)
  | literal {payload : Payload} : payload.IsLiteral →
      Acts frame heap values
        (.next (heap.newOfKind payload).1 (values.push (heap.newOfKind payload).2) .advance)

section Acts

variable {frame : Frame} {heap : Heap} {values : Stack BoxId} {move : Move}

theorem Acts.keep (owned : frame.baseline ≤ values.size) (stays : move.StaysIn frame.scope) :
    Acts frame heap values (.next heap values move) := by
  have acts := @Acts.drop frame heap values values.size move owned stays
  rwa [Stack.truncate_size] at acts

theorem Acts.leave (owned : frame.baseline ≤ values.size) :
    Acts frame heap values (.next heap values .leave) := by
  refine .keep owned ?_
  intro scope expr entered
  cases entered

theorem staysIn_advance (scope : BoxId) : Move.advance.StaysIn scope := by
  intro scope expr entered
  cases entered

theorem staysIn_enter {scope : BoxId} {expr : Expr} (isLocal : expr.IsLocal) :
    (Move.enter scope expr).StaysIn scope := by
  intro scope' expr' entered
  cases entered
  exact ⟨rfl, isLocal⟩

theorem Sits.baseline_le (sits : Sits values frame) : frame.baseline ≤ values.size := by
  rw [sits.size_eq]
  exact Nat.le_add_right _ _

theorem acts_sequence {items : List Expr} (isLocal : ∀ item ∈ items, item.IsLocal)
    (sits : Sits values frame) (expr_eq : frame.expr = .sequence items) :
    Acts frame heap values (frame.step heap values) := by
  simp only [step, expr_eq]
  split
  case h_1 item present =>
    exact .drop (Nat.le_refl _) (staysIn_enter (isLocal item (List.mem_of_getElem? present)))
  case h_2 =>
    split
    · exact .null
    · exact .leave sits.baseline_le

theorem acts_get {name : String} (sits : Sits values frame) (expr_eq : frame.expr = .get name) :
    Acts frame heap values (frame.step heap values) := by
  simp only [step, expr_eq]
  split
  · unfold Effect.lookup
    split
    case h_1 found present => exact .get present
    case h_2 => exact .fail _
  · exact .leave sits.baseline_le

end Acts

/-- A local frame with its share of values does one of these things. -/
theorem Sits.acts {frame : Frame} {values : Stack BoxId} (sits : Sits values frame)
    (isLocal : frame.expr.IsLocal) (heap : Heap) :
    Acts frame heap values (frame.step heap values) := by
  obtain ⟨scope, expr, phase, baseline⟩ := frame
  cases isLocal with
  | sequence items => exact acts_sequence items sits rfl
  | get => exact acts_get sits rfl
  | assign value =>
      match phase, sits with
      | 0, sits => exact .keep sits.baseline_le (staysIn_enter value)
      | 1, sits =>
          obtain ⟨base, box, rfl, found⟩ := Stack.exists_push_of_size sits.size_eq
          exact .assign rfl found.symm
      | phase + 2, sits => exact .leave sits.baseline_le
  | emptyBox =>
      match phase, sits with
      | 0, sits => exact .box (staysIn_advance _)
      | 1, sits => exact .drop (Nat.le_succ _) (staysIn_advance _)
      | phase + 2, sits => exact .leave sits.baseline_le
  | box body =>
      match phase, sits with
      | 0, sits => exact .box (staysIn_enter body)
      | 1, sits => exact .drop (Nat.le_succ _) (staysIn_advance _)
      | phase + 2, sits => exact .leave sits.baseline_le
  | text =>
      match phase, sits with
      | 0, sits => exact .literal (.string _)
      | phase + 1, sits => exact .leave sits.baseline_le
  | integer =>
      match phase, sits with
      | 0, sits => exact .literal (.integer _)
      | phase + 1, sits => exact .leave sits.baseline_le
  | real =>
      match phase, sits with
      | 0, sits => exact .literal (.real _)
      | phase + 1, sits => exact .leave sits.baseline_le

end Frame

end Machine

end BoxLang
