import Mathlib.Data.List.Flatten
import Mathlib.Data.List.Perm.Basic

/-!
# Order of two entries of a list

`Precedes list first second` says that `first` stands somewhere in front of
`second`.  Sublists, concatenations and maps keep the order of entries.
-/

namespace Dxmt9.Order

variable {α β : Type*}

/-- `first` stands before `second` in the list. -/
def Precedes (list : List α) (first second : α) : Prop :=
  [first, second].Sublist list

instance [DecidableEq α] (list : List α) (first second : α) :
    Decidable (Precedes list first second) :=
  inferInstanceAs (Decidable (List.Sublist _ _))

variable {list : List α}

theorem Precedes.mono {more : List α} {first second : α}
    (precedes : Precedes list first second) (within : list.Sublist more) :
    Precedes more first second :=
  List.Sublist.trans precedes within

theorem Precedes.mem {first second : α}
    (precedes : Precedes list first second) :
    first ∈ list ∧ second ∈ list :=
  ⟨List.Sublist.subset precedes List.mem_cons_self,
    List.Sublist.subset precedes
      (List.mem_cons_of_mem first List.mem_cons_self)⟩

theorem Precedes.map {first second : α}
    (precedes : Precedes list first second) (image : α → β) :
    Precedes (list.map image) (image first) (image second) :=
  List.Sublist.map image precedes

/-- In a list ordered against a relation, related entries have its order. -/
theorem precedes_of_pairwise {relation : α → α → Prop}
    {first second : α}
    (ordered : list.Pairwise fun earlier later => ¬ relation later earlier)
    (firstMember : first ∈ list) (secondMember : second ∈ list)
    (different : first ≠ second) (related : relation first second) :
    Precedes list first second := by
  obtain ⟨before, after, rfl⟩ := List.append_of_mem firstMember
  rcases List.mem_append.mp secondMember with early | late
  · exact absurd related ((List.pairwise_append.mp ordered).2.2 second early
      first List.mem_cons_self)
  · have behind : second ∈ after :=
      (List.mem_cons.mp late).resolve_left different.symm
    refine List.Sublist.trans ?_ (List.sublist_append_right _ _)
    exact List.Sublist.cons_cons first (List.singleton_sublist.mpr behind)

/-- A list without repetition has different entries in its order. -/
theorem Precedes.ne {first second : α}
    (precedes : Precedes list first second) (distinct : list.Nodup) :
    first ≠ second :=
  List.rel_of_pairwise_cons (distinct.sublist precedes) List.mem_cons_self

theorem Precedes.asymm {first second : α}
    (precedes : Precedes list first second) (distinct : list.Nodup) :
    ¬Precedes list second first := by
  intro back
  have same := (distinct.perm_iff_eq_of_sublist precedes back).mp
    (List.Perm.swap second first [])
  exact precedes.ne distinct (List.cons.inj same).1

/-- A part of a list without repetition keeps the order of its entries. -/
theorem Precedes.within {part : List α} {first second : α}
    (precedes : Precedes list first second) (distinct : list.Nodup)
    (sublist : part.Sublist list) (firstMember : first ∈ part)
    (secondMember : second ∈ part) : Precedes part first second :=
  precedes_of_pairwise
    (List.pairwise_iff_forall_sublist.mpr fun ordered back =>
      Precedes.asymm back distinct (List.Sublist.trans ordered sublist))
    firstMember secondMember (precedes.ne distinct) precedes

variable {piece : α → List β}

theorem sublist_flatMap_of_mem {item : α} (member : item ∈ list) :
    (piece item).Sublist (list.flatMap piece) :=
  List.sublist_flatten_of_mem (List.mem_map_of_mem member)

/-- Concatenation keeps the order of the pieces. -/
theorem Precedes.flatMap
    {firstPiece secondPiece : α} {first second : β}
    (pieces : Precedes list firstPiece secondPiece)
    (firstMember : first ∈ piece firstPiece)
    (secondMember : second ∈ piece secondPiece) :
    Precedes (list.flatMap piece) first second := by
  have both : Precedes ([firstPiece, secondPiece].flatMap piece) first
      second := by
    simp only [List.flatMap_cons, List.flatMap_nil, List.append_nil]
    exact List.Sublist.append (List.singleton_sublist.mpr firstMember)
      (List.singleton_sublist.mpr secondMember)
  exact both.mono (List.Sublist.flatMap pieces piece)

end Dxmt9.Order
