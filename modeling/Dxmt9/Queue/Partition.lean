import Dxmt9.Queue.Ring

/-!
# Partitions into consecutive items

Items that follow one another from zero up to a size, none of them empty.
Every position below the size lies in one of them, and each begins where the
one before it ends.
-/

namespace Dxmt9.Queue

variable {α : Type} (first count : α → Nat)

/-- The items follow one another from zero to the size. -/
def Partitions (items : List α) (size : Nat) : Prop :=
  LaidOut count (fun start item => first item = start ∧ 0 < count item) 0
      items ∧
    totalExtent count items = size

/-- A position belongs to an item. -/
def Within (item : α) (position : Nat) : Prop :=
  first item ≤ position ∧ position < first item + count item

variable {first count} {items front back : List α} {item : α} {size : Nat}

theorem partitions_nil : Partitions first count [] 0 := ⟨trivial, rfl⟩

theorem partitions_append_singleton :
    Partitions first count (items ++ [item]) size ↔
      Partitions first count items (first item) ∧ 0 < count item ∧
        first item + count item = size := by
  unfold Partitions
  rw [laidOut_append, totalExtent_append, totalExtent_cons,
    totalExtent_nil, Nat.add_zero, Nat.zero_add]
  constructor
  · rintro ⟨⟨laid, ⟨begins, nonempty⟩, -⟩, total⟩
    exact ⟨⟨laid, begins.symm⟩, nonempty, begins ▸ total⟩
  · rintro ⟨⟨laid, begins⟩, nonempty, total⟩
    exact ⟨⟨laid, ⟨begins.symm, nonempty⟩, trivial⟩, begins ▸ total⟩

/-- What is behind an item begins where the item ends. -/
theorem Partitions.next {next : α}
    (partition : Partitions first count (front ++ item :: next :: back) size) :
    first next = first item + count item := by
  have behind := (laidOut_append.mp partition.1).2
  obtain ⟨⟨begins, -⟩, ⟨follows, -⟩, -⟩ := behind
  rw [follows, begins]

/-- An item begins at zero or where the one before it ends. -/
theorem Partitions.first_eq
    (partition : Partitions first count (front ++ item :: back) size) :
    first item = totalExtent count front := by
  have behind := (laidOut_append.mp partition.1).2
  rw [behind.1.1, Nat.zero_add]

/-- The last item ends at the size. -/
theorem Partitions.last
    (partition : Partitions first count (front ++ [item]) size) :
    first item + count item = size :=
  (partitions_append_singleton.mp partition).2.2

section

variable (partition : Partitions first count items size)
include partition

theorem Partitions.nonempty (member : item ∈ items) : 0 < count item := by
  obtain ⟨front, back, rfl⟩ := List.append_of_mem member
  exact (laidOut_append.mp partition.1).2.1.2

theorem Partitions.le (member : item ∈ items) :
    first item + count item ≤ size := by
  obtain ⟨front, back, rfl⟩ := List.append_of_mem member
  have total := partition.2
  rw [totalExtent_append, totalExtent_cons] at total
  rw [partition.first_eq]
  omega

/-- There are no more items than positions. -/
theorem Partitions.length_le : items.length ≤ size := by
  induction items using List.reverseRecOn generalizing size with
  | nil => exact Nat.zero_le size
  | append_singleton front item induction =>
      obtain ⟨before, nonempty, ends⟩ :=
        partitions_append_singleton.mp partition
      have shorter := induction before
      rw [List.length_append, List.length_singleton]
      omega

/-- Every position lies in an item. -/
theorem Partitions.exists_within {position : Nat}
    (inside : position < size) :
    ∃ item ∈ items, Within first count item position := by
  induction items using List.reverseRecOn generalizing size with
  | nil =>
      have total : 0 = size := partition.2
      omega
  | append_singleton front item induction =>
      obtain ⟨before, nonempty, ends⟩ :=
        partitions_append_singleton.mp partition
      by_cases earlier : position < first item
      · obtain ⟨found, member, within⟩ := induction before earlier
        exact ⟨found, List.mem_append_left _ member, within⟩
      · refine ⟨item, List.mem_append_right _ (List.mem_singleton_self item),
          Nat.not_lt.mp earlier, ?_⟩
        omega

end

theorem laidOut_map {β : Type} {f : β → α} {extent : α → Nat}
    {Placed : Nat → α → Prop} {start : Nat} {items : List β} :
    LaidOut extent Placed start (items.map f) ↔
      LaidOut (extent ∘ f) (fun position item => Placed position (f item))
        start items := by
  induction items generalizing start with
  | nil => exact Iff.rfl
  | cons head tail induction =>
      rw [List.map_cons, LaidOut, LaidOut, induction]
      exact Iff.rfl

/-- A partition is one of whatever the items stand for. -/
theorem partitions_map {β : Type} {f : β → α} {items : List β} :
    Partitions first count (items.map f) size ↔
      Partitions (first ∘ f) (count ∘ f) items size := by
  unfold Partitions totalExtent
  rw [laidOut_map, List.map_map]
  exact Iff.rfl

end Dxmt9.Queue
