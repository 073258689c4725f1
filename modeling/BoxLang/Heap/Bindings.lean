/-!
# Bindings

Finite maps from names, kept in ascending order of the names.  Two bindings that
find the same values are equal.
-/

namespace BoxLang

structure Bindings (α : Type) where
  entries : List (String × α)
  ascending : entries.Pairwise fun earlier later => earlier.1 < later.1

namespace Bindings

variable {α : Type}

def empty : Bindings α :=
  ⟨[], .nil⟩

/-- The value of the entry with a given name. -/
def search? (name : String) : List (String × α) → Option α
  | [] => none
  | entry :: rest => if name = entry.1 then some entry.2 else search? name rest

def find? (bindings : Bindings α) (name : String) : Option α :=
  search? name bindings.entries

/-- The bound names, ascending. -/
def names (bindings : Bindings α) : List String :=
  bindings.entries.map (·.1)

def values (bindings : Bindings α) : List α :=
  bindings.entries.map (·.2)

/-- Puts an entry in its place, over one with the same name. -/
def insertEntry (name : String) (value : α) : List (String × α) → List (String × α)
  | [] => [(name, value)]
  | entry :: rest =>
      if name < entry.1 then (name, value) :: entry :: rest
      else if entry.1 < name then entry :: insertEntry name value rest
      else (name, value) :: rest

theorem mem_insertEntry {name : String} {value : α} {entries : List (String × α)}
    {entry : String × α} (member : entry ∈ insertEntry name value entries) :
    entry = (name, value) ∨ entry ∈ entries := by
  induction entries with
  | nil => simpa [insertEntry] using member
  | cons head rest inductionHypothesis =>
      simp only [insertEntry] at member
      split at member
      · simpa using member
      · split at member
        · rcases List.mem_cons.1 member with rfl | member
          · simp
          · rcases inductionHypothesis member with equal | member
            · exact Or.inl equal
            · exact Or.inr (List.mem_cons_of_mem _ member)
        · rcases List.mem_cons.1 member with equal | member
          · exact Or.inl equal
          · exact Or.inr (List.mem_cons_of_mem _ member)

theorem eq_of_not_lt {first second : String} (notLess : ¬first < second)
    (notGreater : ¬second < first) : first = second :=
  String.le_antisymm (String.not_lt.1 notGreater) (String.not_lt.1 notLess)

theorem pairwise_insertEntry (name : String) (value : α) {entries : List (String × α)}
    (ascending : entries.Pairwise fun earlier later => earlier.1 < later.1) :
    (insertEntry name value entries).Pairwise fun earlier later => earlier.1 < later.1 := by
  induction entries with
  | nil => simp [insertEntry]
  | cons head rest inductionHypothesis =>
      obtain ⟨above, ascending⟩ := List.pairwise_cons.1 ascending
      simp only [insertEntry]
      split
      case isTrue less =>
        refine List.pairwise_cons.2 ⟨?_, List.pairwise_cons.2 ⟨above, ascending⟩⟩
        intro entry member
        rcases List.mem_cons.1 member with rfl | member
        · exact less
        · exact String.lt_trans less (above entry member)
      case isFalse notLess =>
        split
        case isTrue greater =>
          refine List.pairwise_cons.2 ⟨?_, inductionHypothesis ascending⟩
          intro entry member
          rcases mem_insertEntry member with rfl | member
          · exact greater
          · exact above entry member
        case isFalse notGreater =>
          refine List.pairwise_cons.2 ⟨?_, ascending⟩
          intro entry member
          rw [eq_of_not_lt notLess notGreater]
          exact above entry member

/-- Binds a name, over its earlier value if it has one. -/
def insert (bindings : Bindings α) (name : String) (value : α) : Bindings α :=
  ⟨insertEntry name value bindings.entries,
    pairwise_insertEntry name value bindings.ascending⟩

/-- Removes a name. -/
def erase (bindings : Bindings α) (name : String) : Bindings α :=
  ⟨bindings.entries.filter fun entry => entry.1 != name, bindings.ascending.filter _⟩

@[simp] theorem find?_empty (name : String) : (empty : Bindings α).find? name = none := rfl

theorem search?_insertEntry (name : String) (value : α) (entries : List (String × α))
    (query : String) :
    search? query (insertEntry name value entries) =
      if query = name then some value else search? query entries := by
  induction entries with
  | nil => simp [insertEntry, search?]
  | cons head rest inductionHypothesis =>
      simp only [insertEntry]
      split
      · simp [search?]
      · split
        case isTrue less =>
          have different : head.1 ≠ name := fun equal => String.lt_irrefl name (equal ▸ less)
          grind [search?]
        case isFalse notLess notGreater =>
          have equal := eq_of_not_lt notLess notGreater
          grind [search?]

@[simp] theorem find?_insert (bindings : Bindings α) (name : String) (value : α)
    (query : String) :
    (bindings.insert name value).find? query =
      if query = name then some value else bindings.find? query :=
  search?_insertEntry name value bindings.entries query

@[simp] theorem find?_erase (bindings : Bindings α) (name query : String) :
    (bindings.erase name).find? query =
      if query = name then none else bindings.find? query := by
  simp only [find?, erase]
  induction bindings.entries with
  | nil => simp [search?]
  | cons head rest inductionHypothesis => grind [search?]

theorem search?_isSome_iff (name : String) (entries : List (String × α)) :
    (search? name entries).isSome = true ↔ name ∈ entries.map (·.1) := by
  induction entries with
  | nil => simp [search?]
  | cons head rest inductionHypothesis => grind [search?]

theorem mem_names_iff (bindings : Bindings α) (name : String) :
    name ∈ bindings.names ↔ (bindings.find? name).isSome = true :=
  (search?_isSome_iff name bindings.entries).symm

theorem search?_eq_none {name : String} {entries : List (String × α)}
    (above : ∀ entry ∈ entries, name < entry.1) : search? name entries = none := by
  induction entries with
  | nil => rfl
  | cons head rest inductionHypothesis =>
      have different : name ≠ head.1 := fun equal =>
        String.lt_irrefl name (equal ▸ above head (List.mem_cons_self ..))
      rw [search?, if_neg different]
      exact inductionHypothesis fun entry member => above entry (List.mem_cons_of_mem _ member)

theorem entries_eq_of_search? {first second : List (String × α)}
    (ascending : first.Pairwise fun earlier later => earlier.1 < later.1)
    (ascending' : second.Pairwise fun earlier later => earlier.1 < later.1)
    (same : ∀ name, search? name first = search? name second) : first = second := by
  induction first generalizing second with
  | nil =>
      cases second with
      | nil => rfl
      | cons head rest => simpa [search?] using same head.1
  | cons head rest inductionHypothesis =>
      obtain ⟨above, ascendingRest⟩ := List.pairwise_cons.1 ascending
      cases second with
      | nil => simpa [search?] using same head.1
      | cons head' rest' =>
          obtain ⟨above', ascendingRest'⟩ := List.pairwise_cons.1 ascending'
          have notLess : ¬head.1 < head'.1 := by
            intro less
            have missing : search? head.1 (head' :: rest') = none := by
              refine search?_eq_none fun entry member => ?_
              rcases List.mem_cons.1 member with rfl | member
              · exact less
              · exact String.lt_trans less (above' entry member)
            have found := (same head.1).trans missing
            simp [search?] at found
          have notGreater : ¬head'.1 < head.1 := by
            intro less
            have missing : search? head'.1 (head :: rest) = none := by
              refine search?_eq_none fun entry member => ?_
              rcases List.mem_cons.1 member with rfl | member
              · exact less
              · exact String.lt_trans less (above entry member)
            have found := (same head'.1).symm.trans missing
            simp [search?] at found
          have equalNames := eq_of_not_lt notLess notGreater
          have equalHeads : head = head' := by
            have values := same head.1
            simp only [search?, equalNames, if_true, Option.some.injEq] at values
            exact Prod.ext equalNames values
          subst equalHeads
          have equalRests := inductionHypothesis ascendingRest ascendingRest' fun name => by
            by_cases atHead : name = head.1
            · subst atHead
              rw [search?_eq_none above, search?_eq_none above']
            · simpa [search?, atHead] using same name
          rw [equalRests]

/-- Bindings are determined by what they find. -/
@[ext] theorem ext {first second : Bindings α}
    (same : ∀ name, first.find? name = second.find? name) : first = second := by
  obtain ⟨entries, ascending⟩ := first
  obtain ⟨entries', ascending'⟩ := second
  have equal : entries = entries' := entries_eq_of_search? ascending ascending' same
  subst equal
  rfl

end Bindings

end BoxLang
