/-
**A heap of blocks with identities.**

A `Heap α` hands out block numbers in increasing order and never reuses one, so a number that was
released stays released: a stale reference can be told from a live one. `alloc` takes the next
number, `free` releases a block, `put` overwrites the contents of one. `skip` is the heap after a
block was allocated, written and released again: only the next number has moved
(`free_put_alloc`).

The same structure counts open connections, which are blocks without contents.
-/

import Mathlib.Logic.Function.Basic

namespace GatewayConnector.Lib

/-- Blocks by number; the numbers from `next` on were never handed out. -/
@[ext] structure Heap (α : Type) where
  next : Nat
  cell : Nat → Option α
  fresh : ∀ block, next ≤ block → cell block = none

namespace Heap

variable {α : Type}

/-- The heap in which nothing was allocated. -/
def empty : Heap α := ⟨0, fun _ => none, fun _ _ => rfl⟩

/-- The block was handed out and not released. -/
def Live (heap : Heap α) (block : Nat) : Prop := heap.cell block ≠ none

instance (heap : Heap α) (block : Nat) : Decidable (heap.Live block) :=
  decidable_of_iff ((heap.cell block).isSome = true) Option.isSome_iff_ne_none

/-- Hand out the block `heap.next` with the given contents. -/
def alloc (heap : Heap α) (contents : α) : Heap α where
  next := heap.next + 1
  cell := Function.update heap.cell heap.next (some contents)
  fresh block above := by
    have other : block ≠ heap.next := by omega
    rw [Function.update_of_ne other]
    exact heap.fresh block (by omega)

/-- Release a block. -/
def free (heap : Heap α) (block : Nat) : Heap α where
  next := heap.next
  cell := Function.update heap.cell block none
  fresh other above := by
    by_cases same : other = block
    · rw [same, Function.update_self]
    · rw [Function.update_of_ne same]
      exact heap.fresh other above

/-- Overwrite the contents of a block; a block that is not live stays so. -/
def put (heap : Heap α) (block : Nat) (contents : α) : Heap α where
  next := heap.next
  cell := Function.update heap.cell block ((heap.cell block).map fun _ => contents)
  fresh other above := by
    by_cases same : other = block
    · subst same
      rw [Function.update_self, heap.fresh other above]
      rfl
    · rw [Function.update_of_ne same]
      exact heap.fresh other above

/-- Move past one number without a block. -/
def skip (heap : Heap α) : Heap α where
  next := heap.next + 1
  cell := heap.cell
  fresh block above := heap.fresh block (by omega)

@[simp] theorem cell_next (heap : Heap α) : heap.cell heap.next = none :=
  heap.fresh heap.next (Nat.le_refl _)

theorem Live.lt_next {heap : Heap α} {block : Nat} (live : heap.Live block) :
    block < heap.next := by
  by_contra above
  exact live (heap.fresh block (by omega))

theorem live_of_cell {heap : Heap α} {block : Nat} {contents : α}
    (found : heap.cell block = some contents) : heap.Live block := by
  rw [Live, found]
  exact Option.some_ne_none contents

/-! ### What each operation does to a cell -/

@[simp] theorem next_alloc (heap : Heap α) (contents : α) :
    (heap.alloc contents).next = heap.next + 1 := rfl

@[simp] theorem next_skip (heap : Heap α) : heap.skip.next = heap.next + 1 := rfl

@[simp] theorem cell_skip (heap : Heap α) : heap.skip.cell = heap.cell := rfl

@[simp] theorem cell_alloc_next (heap : Heap α) (contents : α) :
    (heap.alloc contents).cell heap.next = some contents := Function.update_self ..

theorem cell_alloc_of_ne {heap : Heap α} {contents : α} {block : Nat} (other : block ≠ heap.next) :
    (heap.alloc contents).cell block = heap.cell block := Function.update_of_ne other ..

/-- What was live keeps its contents when a block is allocated. -/
theorem cell_alloc_of_live {heap : Heap α} {contents : α} {block : Nat} (live : heap.Live block) :
    (heap.alloc contents).cell block = heap.cell block :=
  cell_alloc_of_ne (Nat.ne_of_lt live.lt_next)

theorem cell_alloc_of_cell {heap : Heap α} {contents held : α} {block : Nat}
    (found : heap.cell block = some held) : (heap.alloc contents).cell block = some held :=
  (cell_alloc_of_live (live_of_cell found)).trans found

@[simp] theorem cell_free_self (heap : Heap α) (block : Nat) :
    (heap.free block).cell block = none := Function.update_self ..

theorem cell_free_of_ne {heap : Heap α} {block other : Nat} (different : other ≠ block) :
    (heap.free block).cell other = heap.cell other := Function.update_of_ne different ..

theorem cell_put_of_live {heap : Heap α} {block : Nat} (contents : α) (live : heap.Live block) :
    (heap.put block contents).cell block = some contents := by
  obtain ⟨held, found⟩ := Option.ne_none_iff_exists'.mp live
  show Function.update heap.cell block _ block = _
  rw [Function.update_self, found]
  rfl

theorem cell_put_of_ne {heap : Heap α} {block other : Nat} (contents : α)
    (different : other ≠ block) : (heap.put block contents).cell other = heap.cell other :=
  Function.update_of_ne different ..

/-! ### What each operation does to the live blocks -/

@[simp] theorem not_live_empty (block : Nat) : ¬ (empty : Heap α).Live block := fun live => live rfl

theorem live_alloc (heap : Heap α) (contents : α) (block : Nat) :
    (heap.alloc contents).Live block ↔ block = heap.next ∨ heap.Live block := by
  by_cases same : block = heap.next
  · subst same
    exact iff_of_true (live_of_cell (cell_alloc_next ..)) (Or.inl rfl)
  · rw [Live, cell_alloc_of_ne same]
    exact (or_iff_right same).symm

theorem live_free (heap : Heap α) (block other : Nat) :
    (heap.free block).Live other ↔ other ≠ block ∧ heap.Live other := by
  by_cases same : other = block
  · subst same
    exact iff_of_false (fun live => live (cell_free_self ..)) fun both => both.1 rfl
  · rw [Live, cell_free_of_ne same]
    exact (and_iff_right same).symm

/-- A block that is allocated, written and released leaves only the next number changed. -/
theorem free_put_alloc (heap : Heap α) (first second : α) :
    ((heap.alloc first).put heap.next second).free heap.next = heap.skip := by
  apply Heap.ext
  · rfl
  · funext block
    by_cases same : block = heap.next
    · rw [same, cell_free_self, cell_skip, cell_next]
    · rw [cell_free_of_ne same, cell_put_of_ne _ same, cell_alloc_of_ne same, cell_skip]

theorem free_skip (heap : Heap α) (block : Nat) : heap.skip.free block = (heap.free block).skip :=
  rfl

/-- A block that is allocated and released at once leaves only the next number changed. -/
theorem free_alloc (heap : Heap α) (contents : α) :
    (heap.alloc contents).free heap.next = heap.skip := by
  apply Heap.ext
  · rfl
  · funext block
    by_cases same : block = heap.next
    · rw [same, cell_free_self, cell_skip, cell_next]
    · rw [cell_free_of_ne same, cell_alloc_of_ne same, cell_skip]

end Heap

end GatewayConnector.Lib
