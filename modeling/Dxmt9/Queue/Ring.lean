import Mathlib.Data.List.Basic
import Mathlib.Data.List.Range
import Mathlib.Data.Nat.ModEq
import Mathlib.Algebra.BigOperators.Group.List.Basic

/-!
# Ring buffers

A ring keeps its items in the cells of a fixed array, from a head onwards and
around the end.  A write behind the last item appends to them, and moving the
head over the first item removes it.
-/

namespace Dxmt9.Queue

variable {α : Type} [Inhabited α]

variable {head : Nat}

/-- Different offsets from one head are different cells. -/
theorem ringIndex_inj {capacity left right : Nat}
    (leftInside : left < capacity) (rightInside : right < capacity)
    (same : (head + left) % capacity = (head + right) % capacity) :
    left = right := by
  have congruent : left ≡ right [MOD capacity] :=
    Nat.ModEq.add_left_cancel' head same
  exact congruent.eq_of_lt_of_lt leftInside rightInside

theorem ringIndex_ringIndex (capacity head before offset : Nat) :
    ((head + before) % capacity + offset) % capacity =
      (head + (before + offset)) % capacity := by
  rw [Nat.mod_add_mod, Nat.add_assoc]

/-- The items of a ring, in order. -/
def window (slots : List α) (head count : Nat) : List α :=
  (List.range count).map fun offset =>
    slots.getD ((head + offset) % slots.length) default

@[simp] theorem window_zero (slots : List α) (head : Nat) :
    window slots head 0 = [] := rfl

@[simp] theorem length_window (slots : List α) (head count : Nat) :
    (window slots head count).length = count := by
  rw [window, List.length_map, List.length_range]

theorem window_snoc (slots : List α) (head count : Nat) :
    window slots head (count + 1) =
      window slots head count ++
        [slots.getD ((head + count) % slots.length) default] := by
  rw [window, List.range_succ, List.map_append]
  rfl

theorem window_cons (slots : List α)
    (inside : head < slots.length) (count : Nat) :
    window slots head (count + 1) =
      slots.getD head default ::
        window slots ((head + 1) % slots.length) count := by
  rw [window, List.range_succ_eq_map, List.map_cons, List.map_map,
    Nat.add_zero, Nat.mod_eq_of_lt inside]
  congr 1
  apply List.map_congr_left
  intro offset _
  simp only [Function.comp_apply]
  rw [ringIndex_ringIndex, Nat.add_comm 1 offset]

variable {slots : List α}

variable {count : Nat}

/-- A write outside of the items leaves them. -/
theorem window_set_of_outside {cell : Nat}
    (outside : ∀ offset < count, (head + offset) % slots.length ≠ cell)
    (item : α) :
    window (slots.set cell item) head count = window slots head count := by
  unfold window
  apply List.map_congr_left
  intro offset member
  have apart := outside offset (List.mem_range.mp member)
  rw [List.length_set, List.getD_eq_getElem?_getD,
    List.getD_eq_getElem?_getD, List.getElem?_set_ne apart.symm]

/-- A write at the tail appends an item. -/
theorem window_push
    (space : count < slots.length) (item : α) :
    window (slots.set ((head + count) % slots.length) item) head
        (count + 1) = window slots head count ++ [item] := by
  have inside : (head + count) % slots.length < slots.length :=
    Nat.mod_lt _ (by omega)
  rw [window_snoc, window_set_of_outside]
  · rw [List.length_set, List.getD_eq_getElem?_getD,
      List.getElem?_set_self inside]
    rfl
  · intro offset before same
    have equal := ringIndex_inj (by omega) space same
    omega

/-- Clearing the head and moving over it removes the first item. -/
theorem window_pop
    (inside : head < slots.length) (space : count < slots.length)
    (item : α) :
    window (slots.set head item) ((head + 1) % slots.length) count =
      (window slots head (count + 1)).tail := by
  rw [window_cons slots inside, List.tail_cons, window_set_of_outside]
  intro offset before same
  rw [ringIndex_ringIndex] at same
  have start : (head + (1 + offset)) % slots.length =
      (head + 0) % slots.length := by
    rw [same, Nat.add_zero, Nat.mod_eq_of_lt inside]
  have equal := ringIndex_inj (by omega) (by omega) start
  omega

/-! ## Cells

The items of a ring whose cells are a function of the position. -/

section Cells

variable {β : Type} {cells : Nat → β} {capacity head count : Nat}

/-- How many cells hold an item of a kind. -/
def cellCount (cells : Nat → β) (capacity : Nat) (counted : β → Bool) :
    Nat :=
  (List.range capacity).countP fun cell => counted (cells cell)

variable {counted : β → Bool}

theorem cellCount_succ (cells : Nat → β) (capacity : Nat)
    (counted : β → Bool) :
    cellCount cells (capacity + 1) counted =
      cellCount cells capacity counted + (counted (cells capacity)).toNat := by
  unfold cellCount
  rw [List.range_succ, List.countP_append, List.countP_singleton]
  cases counted (cells capacity) <;> rfl

variable {cell : Nat}

theorem cellCount_update_of_le (outside : capacity ≤ cell)
    (item : β) :
    cellCount (Function.update cells cell item) capacity counted =
      cellCount cells capacity counted := by
  apply List.countP_congr
  intro position member
  have inside := List.mem_range.mp member
  rw [Function.update_of_ne (by omega)]

/-- A write counts its item in place of the old one. -/
theorem cellCount_update (inside : cell < capacity)
    (item : β) :
    cellCount (Function.update cells cell item) capacity counted +
        (counted (cells cell)).toNat =
      cellCount cells capacity counted + (counted item).toNat := by
  induction capacity with
  | zero => exact absurd inside (Nat.not_lt_zero cell)
  | succ capacity induction =>
      rw [cellCount_succ, cellCount_succ]
      by_cases last : cell = capacity
      · subst last
        rw [cellCount_update_of_le (Nat.le_refl cell), Function.update_self]
        omega
      · rw [Function.update_of_ne (Ne.symm last)]
        have before := induction (by omega)
        omega

end Cells

end Dxmt9.Queue

/-!
## Extents in a ring

Items that take consecutive extents of an unbounded line, seen modulo the
capacity of a ring.  As long as the extents together fit into the ring, no two
of them meet.
-/

namespace Dxmt9.Queue

variable {α : Type} (extent : α → Nat) (Placed : Nat → α → Prop)

/-- The positions that the items take together. -/
def totalExtent (items : List α) : Nat := (items.map extent).sum

/-- Every item is placed where the one before it ends. -/
def LaidOut : Nat → List α → Prop
  | _, [] => True
  | start, item :: rest =>
      Placed start item ∧ LaidOut (start + extent item) rest

variable {extent Placed}

@[simp] theorem totalExtent_nil : totalExtent extent [] = 0 := rfl

@[simp] theorem totalExtent_cons (item : α) (rest : List α) :
    totalExtent extent (item :: rest) =
      extent item + totalExtent extent rest := by
  unfold totalExtent
  rw [List.map_cons, List.sum_cons]

@[simp] theorem totalExtent_append (front back : List α) :
    totalExtent extent (front ++ back) =
      totalExtent extent front + totalExtent extent back := by
  unfold totalExtent
  rw [List.map_append, List.sum_append]

theorem laidOut_append {start : Nat} {front back : List α} :
    LaidOut extent Placed start (front ++ back) ↔
      LaidOut extent Placed start front ∧
        LaidOut extent Placed (start + totalExtent extent front) back := by
  induction front generalizing start with
  | nil =>
      rw [List.nil_append, totalExtent_nil, Nat.add_zero]
      exact Iff.symm (iff_of_eq (true_and _))
  | cons item rest induction =>
      rw [List.cons_append, totalExtent_cons, ← Nat.add_assoc, LaidOut,
        LaidOut, induction, and_assoc]

end Dxmt9.Queue
