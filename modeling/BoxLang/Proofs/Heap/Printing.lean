import BoxLang.Heap.Show
import BoxLang.Proofs.Heap.Correspondence

/-!
# How boxes are shown

A box is shown by a rule that makes use of how the boxes in its payload are shown.  Where
payloads hold older boxes only, as they do in every heap that programs make, the rule comes to
an end on each box, and following payloads as often as there are boxes leaves nothing out.  The
rules take the payload, the names of the variables, the kind and whether the box can be called.
So boxes that are the same in this respect, with all that their payloads lead to, are shown
alike, whatever values their variables have.
-/

namespace BoxLang

/-- Payloads are shown alike if the boxes that they hold are. -/
theorem Payload.Matches.displayPayload_eq {Paired : BoxId → BoxId → Prop}
    {payload payload' : Payload} (matched : payload.Matches Paired payload')
    {shown shown' : BoxId → String}
    (alike : ∀ box box', Paired box box' → shown box = shown' box') :
    Heap.displayPayload shown payload = Heap.displayPayload shown' payload' := by
  cases matched with
  | boolean => rfl
  | integer => rfl
  | real => rfl
  | string => rfl
  | list items =>
      have texts_eq := map_eq_of_forall₂ items alike
      rw [Heap.displayPayload, Heap.displayPayload, texts_eq]
  | dictionary entries =>
      simp only [Heap.displayPayload]
      rw [map_eq_of_forall₂ entries]
      intro entry entry' paired
      rw [alike _ _ paired.1, alike _ _ paired.2]

theorem Payload.Matches.outlinePayload_eq {Paired : BoxId → BoxId → Prop}
    {payload payload' : Payload} (matched : payload.Matches Paired payload')
    {shown shown' : BoxId → Outline}
    (alike : ∀ box box', Paired box box' → shown box = shown' box') :
    Heap.outlinePayload shown payload = Heap.outlinePayload shown' payload' := by
  cases matched with
  | boolean => rfl
  | integer => rfl
  | real => rfl
  | string => rfl
  | list items =>
      have outlines_eq := map_eq_of_forall₂ items alike
      rw [Heap.outlinePayload, Heap.outlinePayload, outlines_eq]
  | dictionary entries =>
      simp only [Heap.outlinePayload]
      rw [map_eq_of_forall₂ entries]
      intro entry entry' paired
      rw [alike _ _ paired.1, alike _ _ paired.2]

namespace Heap

/-- The payload of a box holds another box. -/
def Contains (heap : Heap) (box other : BoxId) : Prop :=
  ∃ payload, heap.payload? box = some payload ∧ other ∈ payload.boxes

/-- Two boxes have the same kind, names of variables and payload, up to a pairing of the boxes
in it, and both or neither can be called. -/
structure LooksLike (Paired : BoxId → BoxId → Prop) (heap : Heap) (box : BoxId) (heap' : Heap)
    (box' : BoxId) : Prop where
  kind : Kind.ofBox? box = Kind.ofBox? box'
  names : heap.variableNames box = heap'.variableNames box'
  callable : (heap.method box).isCallable = (heap'.method box').isCallable
  payload : Option.Rel (Payload.Matches Paired) (heap.payload? box) (heap'.payload? box')

/-- Two boxes look alike, with all the boxes that they lead to through payloads. -/
def Resembles (heap : Heap) (box : BoxId) (heap' : Heap) (box' : BoxId) : Prop :=
  ∃ Paired : BoxId → BoxId → Prop, Paired box box' ∧
    ∀ other other', Paired other other' → LooksLike Paired heap other heap' other'

/-- A way of showing boxes: a rule for a box, given what the boxes in its payload are shown as,
and what comes of the rule when payloads are followed to a depth. -/
structure Printer (α : Type) where
  rule : Heap → (BoxId → α) → BoxId → α
  within : Heap → Nat → BoxId → α
  within_zero : ∀ heap heap' box box', within heap 0 box = within heap' 0 box'
  within_succ : ∀ heap depth box, within heap (depth + 1) box = rule heap (within heap depth) box
  uniform : ∀ {Paired heap box heap' box'} {shown shown' : BoxId → α},
    LooksLike Paired heap box heap' box' →
    (∀ other other', Paired other other' → shown other = shown' other') →
    rule heap shown box = rule heap' shown' box'

theorem LooksLike.displayPlain_eq {Paired : BoxId → BoxId → Prop} {heap heap' : Heap}
    {box box' : BoxId} (looksLike : LooksLike Paired heap box heap' box') :
    heap.displayPlain box = heap'.displayPlain box' := by
  rw [displayPlain, displayPlain, looksLike.kind, looksLike.names]

/-- The printer of what programs print. -/
def displayPrinter : Printer String where
  rule := displayRule
  within := displayWithin
  within_zero _ _ _ _ := rfl
  within_succ _ _ _ := rfl
  uniform := by
    intro Paired heap box heap' box' shown shown' looksLike alike
    have plain_eq := looksLike.displayPlain_eq
    have payloads := looksLike.payload
    unfold displayRule
    generalize heap.payload? box = payload, heap'.payload? box' = payload' at payloads
    cases payloads with
    | some matched => exact matched.displayPayload_eq alike
    | none => exact plain_eq

/-- The printer of what is inspected. -/
def outlinePrinter : Printer Outline where
  rule := outlineRule
  within := outlineWithin
  within_zero _ _ _ _ := rfl
  within_succ _ _ _ := rfl
  uniform := by
    intro Paired heap box heap' box' shown shown' looksLike alike
    have payloads := looksLike.payload
    have outlines_eq : (heap.payload? box).map (outlinePayload shown) =
        (heap'.payload? box').map (outlinePayload shown') := by
      generalize heap.payload? box = payload, heap'.payload? box' = payload' at payloads
      cases payloads with
      | some matched => exact congrArg some (matched.outlinePayload_eq alike)
      | none => rfl
    unfold outlineRule
    rw [looksLike.kind, looksLike.names, looksLike.callable, outlines_eq]

section Containment

variable {heap : Heap} {box other : BoxId}

theorem Contains.inUse (contains : heap.Contains box other) : box < heap.size :=
  Refers.inUse (Or.inr contains)

theorem Founded.lt_of_contains (founded : heap.Founded) (contains : heap.Contains box other) :
    other < box := by
  obtain ⟨payload, carried, member⟩ := contains
  exact founded.older carried other member

/-- No box is in its own payload, however deep. -/
theorem Founded.not_contains_self (founded : heap.Founded) (box : BoxId) :
    ¬Relation.TransGen heap.Contains box box := by
  have older : ∀ {other}, Relation.TransGen heap.Contains box other → other < box := by
    intro other path
    induction path with
    | single contains => exact founded.lt_of_contains contains
    | tail _ contains inductionHypothesis =>
        exact Nat.lt_trans (founded.lt_of_contains contains) inductionHypothesis
  intro cycle
  exact Nat.lt_irrefl box (older cycle)

/-- A box looks like itself, also when its variables have other values. -/
theorem looksLike_of_agree {heap' : Heap} {Paired : BoxId → BoxId → Prop}
    (payload_eq : heap'.payload? box = heap.payload? box)
    (names_eq : heap'.variableNames box = heap.variableNames box)
    (callable_eq : (heap'.method box).isCallable = (heap.method box).isCallable)
    (paired : ∀ other, heap.Contains box other → Paired other other) :
    LooksLike Paired heap box heap' box := by
  refine ⟨rfl, names_eq.symm, callable_eq.symm, ?_⟩
  rw [payload_eq]
  cases carried : heap.payload? box with
  | none => exact .none
  | some payload =>
      exact .some (Payload.matches_self fun other member =>
        paired other ⟨payload, carried, member⟩)

/-- A box resembles itself in a heap with the same payloads, names of variables and methods for
all that its payload leads to. -/
theorem resembles_of_agree {heap' : Heap}
    (agree : ∀ other, Relation.ReflTransGen heap.Contains box other →
      heap'.payload? other = heap.payload? other ∧
      heap'.variableNames other = heap.variableNames other ∧
      (heap'.method other).isCallable = (heap.method other).isCallable) :
    heap.Resembles box heap' box := by
  refine ⟨fun other other' => other = other' ∧ Relation.ReflTransGen heap.Contains box other,
    ⟨rfl, .refl⟩, ?_⟩
  rintro other _ ⟨rfl, reached⟩
  obtain ⟨payload_eq, names_eq, callable_eq⟩ := agree other reached
  exact looksLike_of_agree payload_eq names_eq callable_eq fun inner contains =>
    ⟨rfl, reached.tail contains⟩

/-- To give a variable another value changes no names. -/
theorem variableNames_setVariable {scope : BoxId} {name : String}
    (bound : (heap.lookup? scope name).isSome = true) (value box : BoxId) :
    (heap.setVariable scope name value).variableNames box = heap.variableNames box := by
  have member := mem_variableNames_iff.mpr bound
  have inUse := lt_size_of_mem_variableNames member
  apply Bindings.names_eq_of_mem_iff
  intro query
  change query ∈ (heap.setVariable scope name value).variableNames box ↔
    query ∈ heap.variableNames box
  by_cases same : box = scope
  · rw [same, mem_variableNames_setVariable inUse]
    constructor
    · rintro (rfl | member')
      · exact member
      · exact member'
    · exact Or.inr
  · rw [variableNames, setVariable, cell_modifyVariables, if_neg fun both => same both.1,
      variableNames]

/-- The values of variables are not part of what a box looks like. -/
theorem resembles_setVariable {scope : BoxId} {name : String}
    (bound : (heap.lookup? scope name).isSome = true) (value box : BoxId) :
    heap.Resembles box (heap.setVariable scope name value) box := by
  apply resembles_of_agree
  intro other _
  refine ⟨payload_setVariable heap scope name value other,
    variableNames_setVariable bound value other, ?_⟩
  rw [method_setVariable]

end Containment

namespace Printer

variable {α : Type} (printer : Printer α) {heap heap' : Heap} {box box' : BoxId}

/-- What a box is shown as, with its payload followed as often as there are boxes. -/
def shown (heap : Heap) (box : BoxId) : α :=
  printer.within heap (heap.size + 1) box

/-- A printer that calls itself on all boxes in the payload of a box comes to an end. -/
inductive Prints (heap : Heap) : BoxId → α → Prop
  | intro {box : BoxId} (shown : BoxId → α) :
      (∀ other, heap.Contains box other → Prints heap other (shown other)) →
      Prints heap box (printer.rule heap shown box)

variable {printer}

/-- Nothing but the boxes in the payload of a box is followed. -/
theorem rule_eq {shown shown' : BoxId → α}
    (alike : ∀ other, heap.Contains box other → shown other = shown' other) :
    printer.rule heap shown box = printer.rule heap shown' box := by
  have looksLike : LooksLike (fun other other' => other = other' ∧ heap.Contains box other)
      heap box heap box :=
    looksLike_of_agree rfl rfl rfl fun _ contains => ⟨rfl, contains⟩
  apply printer.uniform looksLike
  rintro other _ ⟨rfl, contains⟩
  exact alike other contains

/-- A box is shown in full at every depth that exceeds its number or that of all boxes. -/
theorem within_eq (founded : heap.Founded) {depth depth' : Nat}
    (enough : box < depth ∨ heap.size < depth) (enough' : box < depth' ∨ heap.size < depth') :
    printer.within heap depth box = printer.within heap depth' box := by
  induction depth generalizing box depth' with
  | zero => rcases enough with impossible | impossible <;> cases impossible
  | succ depth inductionHypothesis =>
      cases depth' with
      | zero => rcases enough' with impossible | impossible <;> cases impossible
      | succ depth' =>
          rw [printer.within_succ, printer.within_succ]
          apply rule_eq
          intro other contains
          have older := founded.lt_of_contains contains
          have inner : ∀ {depth : Nat}, box < depth + 1 ∨ heap.size < depth + 1 →
              other < depth ∨ heap.size < depth := by
            rintro depth (bounded | bounded)
            · exact Or.inl (Nat.lt_of_lt_of_le older (Nat.le_of_lt_succ bounded))
            · exact Or.inl (Nat.lt_of_lt_of_le (Nat.lt_trans older contains.inUse)
                (Nat.le_of_lt_succ bounded))
          exact inductionHypothesis (inner enough) (inner enough')

theorem shown_eq (founded : heap.Founded) {depth : Nat} (enough : heap.size < depth) :
    printer.shown heap box = printer.within heap depth box :=
  within_eq founded (Or.inr (Nat.lt_succ_self _)) (Or.inr enough)

theorem prints_shown (founded : heap.Founded) (box : BoxId) :
    printer.Prints heap box (printer.shown heap box) := by
  induction box using Nat.strong_induction_on with
  | _ box inductionHypothesis =>
      have unfolded : printer.shown heap box =
          printer.rule heap (printer.shown heap) box := by
        rw [shown_eq founded (Nat.lt_succ_of_lt (Nat.lt_succ_self _)), printer.within_succ]
        rfl
      rw [unfolded]
      refine .intro _ ?_
      intro other contains
      exact inductionHypothesis other (founded.lt_of_contains contains)

theorem Prints.unique {result result' : α} (prints : printer.Prints heap box result)
    (prints' : printer.Prints heap box result') : result = result' := by
  induction prints generalizing result' with
  | intro shown parts inductionHypothesis =>
      cases prints' with
      | intro shown' parts' =>
          apply rule_eq
          intro other contains
          exact inductionHypothesis other contains (parts' other contains)

/-- A printer comes to an end on every box, with what the box is shown as. -/
theorem prints_iff (founded : heap.Founded) {result : α} :
    printer.Prints heap box result ↔ result = printer.shown heap box := by
  constructor
  · intro prints
    exact prints.unique (prints_shown founded box)
  · rintro rfl
    exact prints_shown founded box

/-- Boxes that resemble each other are shown alike. -/
theorem shown_eq_of_resembles (founded : heap.Founded) (founded' : heap'.Founded)
    (resembles : heap.Resembles box heap' box') :
    printer.shown heap box = printer.shown heap' box' := by
  obtain ⟨Paired, paired, looksLike⟩ := resembles
  have within_eq : ∀ depth box box', Paired box box' →
      printer.within heap depth box = printer.within heap' depth box' := by
    intro depth
    induction depth with
    | zero => exact fun box box' _ => printer.within_zero heap heap' box box'
    | succ depth inductionHypothesis =>
        intro box box' paired
        rw [printer.within_succ, printer.within_succ]
        exact printer.uniform (looksLike box box' paired) inductionHypothesis
  rw [shown_eq founded (Nat.lt_succ_of_le (Nat.le_max_left heap.size heap'.size)),
    shown_eq founded' (Nat.lt_succ_of_le (Nat.le_max_right heap.size heap'.size))]
  exact within_eq _ box box' paired

end Printer

section Pairings

variable {Sealed : BoxId → Prop} {Paired : BoxId → BoxId → Prop} {heap heap' : Heap}
  {box box' : BoxId}

theorem Corresponds.looksLike (corresponds : heap.Corresponds Sealed Paired heap')
    (paired : Paired box box') (unsealed : ¬Sealed box) :
    LooksLike Paired heap box heap' box' := by
  have matched := corresponds.cells paired unsealed
  refine ⟨corresponds.ofBox?_eq paired, matched.names_eq, ?_, matched.payload⟩
  rw [Heap.method, Heap.method, matched.method]

/-- Boxes that lead to the same graph are shown alike. -/
theorem Isomorphic.display_eq (isomorphic : heap.Isomorphic box heap' box')
    (founded : heap.Founded) (founded' : heap'.Founded) :
    heap.display box = heap'.display box' := by
  obtain ⟨Paired, corresponds, paired⟩ := isomorphic
  have resembles : heap.Resembles box heap' box' :=
    ⟨Paired, paired, fun _ _ paired => corresponds.looksLike paired not_false⟩
  exact displayPrinter.shown_eq_of_resembles founded founded' resembles

end Pairings

end Heap

end BoxLang
