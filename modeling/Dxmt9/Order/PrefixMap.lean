import Mathlib.Data.List.Basic

/-!
# Maps that see the entries before

What a loop makes of an entry may depend on the entries before it.  The image
of a list under such a map grows with the list.
-/

namespace Dxmt9.Order

variable {α β : Type}

/-- Every entry with what stands before it. -/
def mapPrefix (image : List α → α → β) : List α → List α → List β
  | _, [] => []
  | before, entry :: rest =>
      image before entry :: mapPrefix image (before ++ [entry]) rest

variable {image : List α → α → β}

@[simp] theorem length_mapPrefix (before entries : List α) :
    (mapPrefix image before entries).length = entries.length := by
  induction entries generalizing before with
  | nil => rfl
  | cons entry rest induction =>
      exact congrArg (· + 1) (induction (before ++ [entry]))

theorem mapPrefix_append (before front back : List α) :
    mapPrefix image before (front ++ back) =
      mapPrefix image before front ++
        mapPrefix image (before ++ front) back := by
  induction front generalizing before with
  | nil =>
      rw [List.append_nil]
      rfl
  | cons entry rest induction =>
      have later := induction (before ++ [entry])
      rw [List.append_assoc] at later
      exact congrArg (image before entry :: ·) later

/-- One more entry at the end. -/
theorem mapPrefix_snoc (entries : List α) (entry : α) :
    mapPrefix image [] (entries ++ [entry]) =
      mapPrefix image [] entries ++ [image entries entry] :=
  mapPrefix_append [] entries [entry]

variable {entries : List α} {index : Nat}

theorem split_at
    (inside : index < entries.length) :
    entries = entries.take index ++
      entries[index] :: entries.drop (index + 1) := by
  rw [← List.drop_eq_getElem_cons inside, List.take_append_drop]

/-- The image of the entry at an index. -/
theorem getElem?_mapPrefix
    (inside : index < entries.length) :
    (mapPrefix image [] entries)[index]? =
      some (image (entries.take index) entries[index]) := by
  have front : (mapPrefix image [] (entries.take index)).length = index := by
    rw [length_mapPrefix, List.length_take,
      Nat.min_eq_left (Nat.le_of_lt inside)]
  have split := congrArg (mapPrefix image []) (split_at inside)
  rw [mapPrefix_append] at split
  rw [split, List.getElem?_append_right (Nat.le_of_eq front), front,
    Nat.sub_self]
  rfl

end Dxmt9.Order
