import Mathlib.Algebra.Order.Group.Nat
import Mathlib.Data.List.Basic
import Mathlib.Data.List.Perm.Basic
import Mathlib.Order.Basic

/-!
# Lines with reserved places

A line hands its items out from the front.  A place may be reserved before its
item is there; it is filled where it stands, or given up.  Whatever moves the
line makes, each item that joins it is handed out once, in the order of the
places; and numbers that grow when places are added grow along the line.
-/

namespace Dxmt9.Queue

variable {α : Type}

/-- What has been handed out, and what waits behind it. -/
structure Line (α : Type) where
  taken : List α
  waiting : List α

namespace Line

/-- The items that are there. -/
def present (reserved : α → Bool) (line : Line α) : List α :=
  line.taken ++ line.waiting.filter fun item => !reserved item

/-- All places, the ones handed out first. -/
def places (line : Line α) : List α := line.taken ++ line.waiting

/-- A place with a number has one between the bounds. -/
def NumberedIn (number : α → Option Nat) (low high : Nat) (place : α) :
    Prop :=
  ∀ value, number place = some value → low ≤ value ∧ value < high

/-- A move of the line, with the items that join it.  A place is added with a
number between the bounds, if it has one. -/
inductive Moves (reserved : α → Bool) (number : α → Option Nat)
    (low high : Nat) : Line α → List α → Line α → Prop where
  | keep (line : Line α) : Moves reserved number low high line [] line
  | join (taken waiting : List α) (item : α)
      (there : reserved item = false)
      (fresh : NumberedIn number low high item) :
      Moves reserved number low high ⟨taken, waiting⟩ [item]
        ⟨taken, waiting ++ [item]⟩
  | reserve (taken waiting : List α) (place : α)
      (empty : reserved place = true)
      (fresh : NumberedIn number low high place) :
      Moves reserved number low high ⟨taken, waiting⟩ []
        ⟨taken, waiting ++ [place]⟩
  | fill (taken front back : List α) (place item : α)
      (empty : reserved place = true) (there : reserved item = false)
      (same : number item = number place) :
      Moves reserved number low high ⟨taken, front ++ place :: back⟩ [item]
        ⟨taken, front ++ item :: back⟩
  | giveUp (taken front back : List α) (place : α)
      (empty : reserved place = true) :
      Moves reserved number low high ⟨taken, front ++ place :: back⟩ []
        ⟨taken, front ++ back⟩
  | hand (taken back : List α) (item : α) (there : reserved item = false) :
      Moves reserved number low high ⟨taken, item :: back⟩ []
        ⟨taken ++ [item], back⟩
  | drain (taken waiting : List α) :
      Moves reserved number low high ⟨taken, waiting⟩ []
        ⟨taken ++ waiting.filter fun item => !reserved item, []⟩

variable {reserved : α → Bool} {number : α → Option Nat} {low high : Nat}
  {line next : Line α} {joined : List α}

section

variable (moves : Moves reserved number low high line joined next)
include moves

/-- What is handed out stays so. -/
theorem Moves.taken_prefix : line.taken <+: next.taken := by
  cases moves with
  | keep line => exact List.prefix_rfl
  | join taken waiting item there fresh => exact List.prefix_rfl
  | reserve taken waiting place empty fresh => exact List.prefix_rfl
  | fill taken front back place item empty there same => exact List.prefix_rfl
  | giveUp taken front back place empty => exact List.prefix_rfl
  | hand taken back item there => exact List.prefix_append taken [item]
  | drain taken waiting => exact List.prefix_append taken _

/-- An item that is there is kept, and keeps its order to the others. -/
theorem Moves.present_sublist :
    (line.present reserved).Sublist (next.present reserved) := by
  cases moves with
  | keep line => exact List.Sublist.refl _
  | join taken waiting item there fresh =>
      apply List.Sublist.append_left
      rw [List.filter_append]
      exact List.sublist_append_left _ _
  | reserve taken waiting place empty fresh =>
      apply List.Sublist.append_left
      rw [List.filter_append]
      exact List.sublist_append_left _ _
  | fill taken front back place item empty there same =>
      apply List.Sublist.append_left
      change (List.filter _ (front ++ place :: back)).Sublist
        (List.filter _ (front ++ item :: back))
      rw [List.filter_append, List.filter_append]
      apply List.Sublist.append_left
      rw [List.filter_cons_of_neg (by simp [empty])]
      exact (List.sublist_cons_self item back).filter _
  | giveUp taken front back place empty =>
      change (taken ++ List.filter _ (front ++ place :: back)).Sublist
        (taken ++ List.filter _ (front ++ back))
      rw [List.filter_append, List.filter_append,
        List.filter_cons_of_neg (by simp [empty])]
  | hand taken back item there =>
      change (taken ++ List.filter _ (item :: back)).Sublist
        (taken ++ [item] ++ List.filter _ back)
      rw [List.filter_cons_of_pos (by simp [there]), List.append_assoc,
        List.singleton_append]
  | drain taken waiting =>
      change (taken ++ _).Sublist (taken ++ _ ++ [])
      rw [List.append_nil]

/-- The items that are there after a move are those before it and those that
join. -/
theorem Moves.present_perm :
    (line.present reserved ++ joined).Perm (next.present reserved) := by
  cases moves with
  | keep line => rw [List.append_nil]
  | join taken waiting item there fresh =>
      change (taken ++ List.filter _ waiting ++ [item]).Perm
        (taken ++ List.filter _ (waiting ++ [item]))
      rw [List.filter_append, List.append_assoc,
        List.filter_cons_of_pos (by simp [there]), List.filter_nil]
  | reserve taken waiting place empty fresh =>
      change (taken ++ List.filter _ waiting ++ []).Perm
        (taken ++ List.filter _ (waiting ++ [place]))
      rw [List.filter_append, List.filter_cons_of_neg (by simp [empty]),
        List.filter_nil, List.append_nil, List.append_nil]
  | fill taken front back place item empty there same =>
      change (taken ++ List.filter _ (front ++ place :: back) ++ [item]).Perm
        (taken ++ List.filter _ (front ++ item :: back))
      rw [List.filter_append, List.filter_append,
        List.filter_cons_of_neg (by simp [empty]),
        List.filter_cons_of_pos (by simp [there]), List.append_assoc,
        List.append_assoc]
      apply List.Perm.append_left
      apply List.Perm.append_left
      exact List.perm_append_singleton item _
  | giveUp taken front back place empty =>
      change (taken ++ List.filter _ (front ++ place :: back) ++ []).Perm
        (taken ++ List.filter _ (front ++ back))
      rw [List.append_nil, List.filter_append, List.filter_append,
        List.filter_cons_of_neg (by simp [empty])]
  | hand taken back item there =>
      change (taken ++ List.filter _ (item :: back) ++ []).Perm
        (taken ++ [item] ++ List.filter _ back)
      rw [List.append_nil, List.filter_cons_of_pos (by simp [there]),
        List.append_assoc, List.singleton_append]
  | drain taken waiting => exact List.Perm.refl _

end

/-- The numbers grow along the line, below the bound. -/
structure Numbered (number : α → Option Nat) (bound : Nat)
    (line : Line α) : Prop where
  ordered : (line.places.filterMap number).Pairwise (· < ·)
  below : ∀ place ∈ line.places, ∀ value, number place = some value →
    value < bound

section

variable (numbered : Numbered number low line)
include numbered

/-- Only the numbers of its places count. -/
theorem Numbered.congr {other : α → Option Nat}
    (same : ∀ place ∈ line.places, other place = number place) :
    Numbered other low line where
  ordered := by
    rw [List.filterMap_congr same]
    exact numbered.ordered
  below place member value found :=
    numbered.below place member value ((same place member).symm.trans found)

/-- Fewer places under a larger bound. -/
theorem Numbered.shrink
    (grows : low ≤ high) (fewer : next.places.Sublist line.places) :
    Numbered number high next where
  ordered := numbered.ordered.sublist (fewer.filterMap number)
  below place member value found :=
    (numbered.below place (fewer.subset member) value found).trans_le grows

/-- A place at the end, with a fresh number. -/
theorem Numbered.extend
    (grows : low ≤ high) {place : α}
    (fresh : NumberedIn number low high place)
    (added : next.places = line.places ++ [place]) :
    Numbered number high next where
  ordered := by
    rw [added, List.filterMap_append, List.pairwise_append]
    refine ⟨numbered.ordered, ?_, ?_⟩
    · cases found : number place with
      | none => rw [List.filterMap_cons_none found]; exact List.Pairwise.nil
      | some value =>
          rw [List.filterMap_cons_some found]
          exact List.pairwise_singleton _ _
    · intro old earlier new later
      obtain ⟨one, member, found⟩ := List.mem_filterMap.mp earlier
      obtain ⟨other, last, numbers⟩ := List.mem_filterMap.mp later
      rw [List.mem_singleton] at last
      rw [last] at numbers
      exact (numbered.below one member old found).trans_le
        (fresh new numbers).1
  below := by
    intro other member value found
    rw [added] at member
    rcases List.mem_append.mp member with old | new
    · exact (numbered.below other old value found).trans_le grows
    · rw [List.mem_singleton] at new
      rw [new] at found
      exact (fresh value found).2

end

theorem Moves.numbered
    (moves : Moves reserved number low high line joined next)
    (grows : low ≤ high) (numbered : Numbered number low line) :
    Numbered number high next := by
  cases moves with
  | keep line => exact numbered.shrink grows (List.Sublist.refl _)
  | join taken waiting item there fresh =>
      exact numbered.extend grows fresh (List.append_assoc _ _ _).symm
  | reserve taken waiting place empty fresh =>
      exact numbered.extend grows fresh (List.append_assoc _ _ _).symm
  | fill taken front back place item empty there same =>
      have ordered := numbered.ordered
      have below := numbered.below
      unfold places at ordered below
      constructor
      · unfold places
        have numbers : (item :: back).filterMap number =
            (place :: back).filterMap number := by
          rw [List.filterMap_cons, List.filterMap_cons, same]
        rw [List.filterMap_append, List.filterMap_append, numbers,
          ← List.filterMap_append, ← List.filterMap_append]
        exact ordered
      · intro other member value found
        unfold places at member
        simp only [List.mem_append, List.mem_cons] at member below
        rcases member with old | old | rfl | old
        · exact (below other (Or.inl old) value found).trans_le grows
        · exact (below other (Or.inr (Or.inl old)) value found).trans_le grows
        · rw [same] at found
          exact (below place (Or.inr (Or.inr (Or.inl rfl))) value
            found).trans_le grows
        · exact (below other (Or.inr (Or.inr (Or.inr old))) value
            found).trans_le grows
  | giveUp taken front back place empty =>
      apply numbered.shrink grows
      apply List.Sublist.append_left
      apply List.Sublist.append_left
      exact List.sublist_cons_self place back
  | hand taken back item there =>
      apply numbered.shrink grows
      change (taken ++ [item] ++ back).Sublist (taken ++ item :: back)
      rw [List.append_assoc, List.singleton_append]
  | drain taken waiting =>
      apply numbered.shrink grows
      change (taken ++ _ ++ []).Sublist (taken ++ waiting)
      rw [List.append_nil]
      exact (List.filter_sublist).append_left taken

/-- Two places of one number are one place. -/
theorem Numbered.number_inj (numbered : Numbered number low line)
    {front middle back : List α} {one other : α} {value : Nat}
    (split : line.places = front ++ one :: (middle ++ other :: back))
    (first : number one = some value) : number other ≠ some value := by
  intro second
  have ordered := numbered.ordered
  rw [split, List.filterMap_append, List.filterMap_cons_some first,
    List.filterMap_append, List.filterMap_cons_some second,
    List.pairwise_append, List.pairwise_cons] at ordered
  exact absurd (ordered.2.1.1 value
    (List.mem_append_right _ (List.mem_cons_self))) (lt_irrefl value)

end Line

end Dxmt9.Queue
