/-!
# Stacks

A list of items, top first, with its length at hand.
-/

namespace BoxLang

structure Stack (α : Type) where
  items : List α
  size : Nat
  size_eq : size = items.length

namespace Stack

variable {α : Type}

def empty : Stack α :=
  ⟨[], 0, rfl⟩

def push (stack : Stack α) (item : α) : Stack α :=
  ⟨item :: stack.items, stack.size + 1, by simp [stack.size_eq]⟩

/-- The top item and the stack below it. -/
def pop? (stack : Stack α) : Option (α × Stack α) :=
  match stack with
  | ⟨[], _, _⟩ => none
  | ⟨item :: items, size, size_eq⟩ => some (item, ⟨items, size - 1, by simp [size_eq]⟩)

/-- Drops items from the top until at most `count` are left. -/
def truncate (stack : Stack α) (count : Nat) : Stack α :=
  ⟨stack.items.drop (stack.size - count), min stack.size count, by
    rw [List.length_drop, ← stack.size_eq]; omega⟩

@[ext] theorem ext {first second : Stack α} (same : first.items = second.items) :
    first = second := by
  obtain ⟨items, size, size_eq⟩ := first
  obtain ⟨items', size', size_eq'⟩ := second
  subst same size_eq size_eq'
  rfl

@[simp] theorem items_empty : (empty : Stack α).items = [] := rfl

@[simp] theorem items_push (stack : Stack α) (item : α) :
    (stack.push item).items = item :: stack.items := rfl

@[simp] theorem size_push (stack : Stack α) (item : α) :
    (stack.push item).size = stack.size + 1 := rfl

@[simp] theorem pop?_empty : (empty : Stack α).pop? = none := rfl

@[simp] theorem pop?_push (stack : Stack α) (item : α) :
    (stack.push item).pop? = some (item, stack) := rfl

theorem pop?_eq_none_iff (stack : Stack α) : stack.pop? = none ↔ stack = empty := by
  obtain ⟨items, size, size_eq⟩ := stack
  cases items with
  | nil =>
      subst size_eq
      exact ⟨fun _ => rfl, fun _ => rfl⟩
  | cons item items => exact ⟨fun popped => by simp [pop?] at popped, fun equal => by
      simp [empty] at equal⟩

theorem pop?_eq_some_iff (stack : Stack α) (item : α) (below : Stack α) :
    stack.pop? = some (item, below) ↔ stack = below.push item := by
  constructor
  · obtain ⟨items, size, size_eq⟩ := stack
    cases items with
    | nil => simp [pop?]
    | cons top rest =>
        intro popped
        simp only [pop?, Option.some.injEq, Prod.mk.injEq] at popped
        obtain ⟨rfl, rfl⟩ := popped
        exact Stack.ext rfl
  · rintro rfl
    rfl

@[simp] theorem items_truncate (stack : Stack α) (count : Nat) :
    (stack.truncate count).items = stack.items.drop (stack.size - count) := rfl

@[simp] theorem size_truncate (stack : Stack α) (count : Nat) :
    (stack.truncate count).size = min stack.size count := rfl

@[simp] theorem truncate_size (stack : Stack α) : stack.truncate stack.size = stack := by
  apply Stack.ext
  simp

theorem truncate_push {stack : Stack α} {count : Nat} (bounded : count ≤ stack.size) (item : α) :
    (stack.push item).truncate count = stack.truncate count := by
  apply Stack.ext
  simp only [items_truncate, items_push, size_push]
  rw [Nat.succ_sub bounded, List.drop_succ_cons]

@[simp] theorem truncate_push_size (stack : Stack α) (item : α) :
    (stack.push item).truncate stack.size = stack := by
  rw [truncate_push (Nat.le_refl _), truncate_size]

theorem truncate_push_push_size (stack : Stack α) (first second : α) :
    ((stack.push first).push second).truncate stack.size = stack := by
  rw [truncate_push (Nat.le_succ _), truncate_push_size]

theorem truncate_truncate {count count' : Nat} (ordered : count ≤ count') (stack : Stack α) :
    (stack.truncate count').truncate count = stack.truncate count := by
  apply Stack.ext
  simp only [items_truncate, size_truncate, List.drop_drop]
  congr 1
  omega

theorem exists_push_of_size {stack : Stack α} {count : Nat} (large : stack.size = count + 1) :
    ∃ (below : Stack α) (item : α), stack = below.push item ∧ below.size = count := by
  obtain ⟨items, size, size_eq⟩ := stack
  cases items with
  | nil => simp_all
  | cons item items =>
      have length : items.length = count := by simp_all
      exact ⟨⟨items, count, length.symm⟩, item, Stack.ext rfl, rfl⟩

end Stack

end BoxLang
