import Mathlib.Algebra.Ring.Nat
import Mathlib.Data.List.Basic
import Mathlib.Data.List.Nodup

/-!
# Open addressing with tombstones

A table is a list of slots.  Every key has a path of positions; a lookup
follows the path past occupied slots and tombstones and stops at the first
empty slot.  An insertion takes the first slot of the path that is not
occupied, and a deletion leaves a tombstone.

The path is a parameter: linear probing is the instance at the end.
-/

namespace Dxmt9.Table

/-- One slot of the table. -/
inductive Slot (κ ν : Type) where
  | empty
  | occupied (key : κ) (value : ν)
  | tombstone
deriving DecidableEq

variable {κ ν : Type}

namespace Slot

def isOccupied : Slot κ ν → Bool
  | .occupied _ _ => true
  | _ => false

/-- Occupied or a tombstone. -/
def isUsed : Slot κ ν → Bool
  | .empty => false
  | _ => true

end Slot

section Operations

variable [DecidableEq κ]

/-- The position at which the lookup of a key ends successfully. -/
def locate (slots : List (Slot κ ν)) (key : κ) : List Nat → Option Nat
  | [] => none
  | position :: rest =>
      match slots[position]? with
      | some (.occupied other _) =>
          if other = key then some position else locate slots key rest
      | some .tombstone => locate slots key rest
      | some .empty => none
      | none => none

/-- The value at a position. -/
def valueAt (slots : List (Slot κ ν)) (position : Nat) : Option ν :=
  match slots[position]? with
  | some (.occupied _ value) => some value
  | _ => none

def find (slots : List (Slot κ ν)) (key : κ) (path : List Nat) :
    Option ν :=
  (locate slots key path).bind (valueAt slots)

/-- The first position of the path that is not occupied. -/
def freePosition (slots : List (Slot κ ν)) : List Nat → Option Nat
  | [] => none
  | position :: rest =>
      match slots[position]? with
      | some (.occupied _ _) => freePosition slots rest
      | some _ => some position
      | none => none

end Operations

/-- The table stores `value` under `key`. -/
def Holds (slots : List (Slot κ ν)) (key : κ) (value : ν) : Prop :=
  ∃ position : Nat, slots[position]? = some (Slot.occupied key value)

/-- Every stored key is stored once and can be reached along its path. -/
structure Sound (path : κ → List Nat) (slots : List (Slot κ ν)) : Prop where
  reachable : ∀ {position : Nat} {key : κ} {value : ν},
    slots[position]? = some (Slot.occupied key value) →
      ∃ before after, path key = before ++ position :: after ∧
        ∀ earlier ∈ before, ∃ slot, slots[earlier]? = some slot ∧
          slot.isUsed = true
  unique : ∀ {first second : Nat} {key : κ} {left right : ν},
    slots[first]? = some (Slot.occupied key left) →
      slots[second]? = some (Slot.occupied key right) → first = second

variable {slots : List (Slot κ ν)}

/-- A table without stored keys is sound. -/
theorem Sound.vacant {path : κ → List Nat}
    (vacant : ∀ slot ∈ slots, slot = Slot.empty) : Sound path slots where
  reachable stored := by
    have absurd := vacant _ (List.mem_of_getElem? stored)
    contradiction
  unique stored := by
    have absurd := vacant _ (List.mem_of_getElem? stored)
    contradiction

section Lookup

variable [DecidableEq κ] {slots : List (Slot κ ν)} {path : κ → List Nat}

variable {key : κ} {position : Nat}

theorem exists_of_locate {positions : List Nat}
    (located : locate slots key positions = some position) :
    ∃ value, slots[position]? = some (Slot.occupied key value) := by
  induction positions with
  | nil => contradiction
  | cons head rest induction =>
      unfold locate at located
      split at located
      · rename_i other value stored
        split at located
        · rename_i same
          obtain rfl := Option.some.inj located
          exact ⟨value, same ▸ stored⟩
        · exact induction located
      · exact induction located
      · contradiction
      · contradiction

/-- A lookup finds exactly the position of the key. -/
theorem Sound.locate_eq_some_iff (sound : Sound path slots) :
    locate slots key (path key) = some position ↔
      ∃ value, slots[position]? = some (Slot.occupied key value) := by
  constructor
  · exact exists_of_locate
  · rintro ⟨value, stored⟩
    obtain ⟨before, after, equal, used⟩ := sound.reachable stored
    rw [equal]
    clear equal
    induction before with
    | nil => simp [locate, stored]
    | cons head rest induction =>
        obtain ⟨slot, present, isUsed⟩ := used head List.mem_cons_self
        have later := induction fun earlier member =>
          used earlier (List.mem_cons_of_mem head member)
        rw [List.cons_append]
        unfold locate
        rw [present]
        cases slot with
        | empty => contradiction
        | tombstone => exact later
        | occupied other held =>
            simp only
            split
            · rename_i same
              exact congrArg some (sound.unique (same ▸ present) stored)
            · exact later

/-- A lookup returns exactly what is stored. -/
theorem Sound.find_eq_some_iff (sound : Sound path slots)
    {value : ν} :
    find slots key (path key) = some value ↔ Holds slots key value := by
  unfold find Holds
  rw [Option.bind_eq_some_iff]
  constructor
  · rintro ⟨position, located, found⟩
    obtain ⟨held, stored⟩ := sound.locate_eq_some_iff.mp located
    unfold valueAt at found
    rw [stored] at found
    obtain rfl := Option.some.inj found
    exact ⟨position, stored⟩
  · rintro ⟨position, stored⟩
    refine ⟨position, sound.locate_eq_some_iff.mpr ⟨value, stored⟩, ?_⟩
    unfold valueAt
    rw [stored]

end Lookup

section Writing

variable {slots : List (Slot κ ν)} {path : κ → List Nat}

variable {position : Nat}

theorem getElem?_set_of_some {other : Nat}
    {old new : Slot κ ν} (present : slots[position]? = some old) :
    (slots.set position new)[other]? =
      if position = other then some new else slots[other]? := by
  have bound := (List.getElem?_eq_some_iff.mp present).1
  rw [List.getElem?_set, if_pos bound]

variable {positions : List Nat}

theorem freePosition_spec
    (found : freePosition slots positions = some position) :
    ∃ before after slot, positions = before ++ position :: after ∧
      slots[position]? = some slot ∧ slot.isOccupied = false ∧
      ∀ earlier ∈ before, ∃ slot, slots[earlier]? = some slot ∧
        slot.isOccupied = true := by
  induction positions with
  | nil => contradiction
  | cons head rest induction =>
      unfold freePosition at found
      split at found
      · rename_i key value stored
        obtain ⟨before, after, slot, equal, present, free, used⟩ :=
          induction found
        refine ⟨head :: before, after, slot, by rw [equal]; rfl, present,
          free, ?_⟩
        intro earlier member
        rcases List.mem_cons.mp member with rfl | behind
        · exact ⟨_, stored, rfl⟩
        · exact used earlier behind
      · rename_i slot other present
        obtain rfl := Option.some.inj found
        refine ⟨[], rest, slot, rfl, present, ?_, by simp⟩
        cases slot with
        | occupied key value => exact absurd rfl (other key value)
        | empty => rfl
        | tombstone => rfl
      · contradiction

variable {slot : Slot κ ν}

/-- A path over the whole table meets every slot that is not occupied. -/
theorem exists_freePosition
    (inside : ∀ position ∈ positions, position < slots.length) (member : position ∈ positions)
    (present : slots[position]? = some slot)
    (free : slot.isOccupied = false) :
    ∃ found, freePosition slots positions = some found := by
  induction positions with
  | nil => contradiction
  | cons head rest induction =>
      unfold freePosition
      have bound := inside head List.mem_cons_self
      rw [List.getElem?_eq_getElem bound]
      cases known : slots[head] with
      | empty => exact ⟨head, rfl⟩
      | tombstone => exact ⟨head, rfl⟩
      | occupied key value =>
          apply induction
          · exact fun other listed =>
              inside other (List.mem_cons_of_mem head listed)
          · rcases List.mem_cons.mp member with rfl | behind
            · rw [List.getElem?_eq_getElem bound, known] at present
              obtain rfl := Option.some.inj present
              contradiction
            · exact behind

variable {key : κ} {value : ν}

/-- Storing a new key in its first free slot keeps the table sound. -/
theorem Sound.insert (sound : Sound path slots)
    (absent : ∀ held, ¬ Holds slots key held)
    (found : freePosition slots (path key) = some position) :
    Sound path (slots.set position (Slot.occupied key value)) := by
  obtain ⟨before, after, slot, equal, present, free, occupied⟩ :=
    freePosition_spec found
  have read : ∀ other, (slots.set position (Slot.occupied key value))[other]? =
        if position = other then some (Slot.occupied key value)
        else slots[other]? := fun _ => getElem?_set_of_some present
  have stillUsed : ∀ {earlier : Nat} {slot : Slot κ ν},
      slots[earlier]? = some slot → slot.isUsed = true →
      ∃ slot, (slots.set position (Slot.occupied key value))[earlier]? =
        some slot ∧ slot.isUsed = true := by
    intro earlier slot known used
    rw [read]
    split
    · exact ⟨_, rfl, rfl⟩
    · exact ⟨slot, known, used⟩
  constructor
  · intro at' other held stored
    rw [read] at stored
    split at stored
    · rename_i here
      subst here
      obtain ⟨rfl, rfl⟩ := Slot.occupied.inj (Option.some.inj stored)
      refine ⟨before, after, equal, fun earlier member => ?_⟩
      obtain ⟨slot, known, isOccupied⟩ := occupied earlier member
      refine stillUsed known ?_
      cases slot with
      | occupied _ _ => rfl
      | empty => contradiction
      | tombstone => contradiction
    · obtain ⟨front, back, split, used⟩ := sound.reachable stored
      refine ⟨front, back, split, fun earlier member => ?_⟩
      obtain ⟨slot, known, isUsed⟩ := used earlier member
      exact stillUsed known isUsed
  · intro first second other left right firstStored secondStored
    rw [read] at firstStored secondStored
    split at firstStored
    · rename_i firstHere
      split at secondStored
      · rename_i secondHere
        exact firstHere.symm.trans secondHere
      · obtain ⟨rfl, _⟩ := Slot.occupied.inj (Option.some.inj firstStored)
        exact absurd ⟨second, secondStored⟩ (absent right)
    · split at secondStored
      · obtain ⟨rfl, _⟩ := Slot.occupied.inj (Option.some.inj secondStored)
        exact absurd ⟨first, firstStored⟩ (absent left)
      · exact sound.unique firstStored secondStored

variable {held : ν}

/-- What is stored after an insertion. -/
theorem holds_insert (present : slots[position]? = some slot)
    (free : slot.isOccupied = false) {other : κ} :
    Holds (slots.set position (Slot.occupied key value)) other held ↔
      Holds slots other held ∨ (other = key ∧ held = value) := by
  unfold Holds
  constructor
  · rintro ⟨at', stored⟩
    rw [getElem?_set_of_some present] at stored
    split at stored
    · obtain ⟨rfl, rfl⟩ := Slot.occupied.inj (Option.some.inj stored)
      exact Or.inr ⟨rfl, rfl⟩
    · exact Or.inl ⟨at', stored⟩
  · rintro (⟨at', stored⟩ | ⟨rfl, rfl⟩)
    · refine ⟨at', ?_⟩
      rw [getElem?_set_of_some present, if_neg]
      · exact stored
      · rintro rfl
        rw [present] at stored
        obtain rfl := Option.some.inj stored
        contradiction
    · exact ⟨position, by rw [getElem?_set_of_some present, if_pos rfl]⟩

section

variable (sound : Sound path slots)
  (stored : slots[position]? = some (Slot.occupied key value))
include sound stored

/-- Leaving a tombstone keeps the table sound. -/
theorem Sound.erase : Sound path (slots.set position .tombstone) := by
  have read : ∀ other, (slots.set position .tombstone)[other]? =
      if position = other then some Slot.tombstone else slots[other]? :=
    fun _ => getElem?_set_of_some stored
  have before : ∀ {at' : Nat} {other : κ} {held : ν},
      (slots.set position .tombstone)[at']? = some (Slot.occupied other held) →
      slots[at']? = some (Slot.occupied other held) := by
    intro at' other held found
    rw [read] at found
    split at found
    · simp at found
    · exact found
  constructor
  · intro at' other held found
    obtain ⟨front, back, split, used⟩ := sound.reachable (before found)
    refine ⟨front, back, split, fun earlier member => ?_⟩
    obtain ⟨slot, known, isUsed⟩ := used earlier member
    rw [read]
    split
    · exact ⟨_, rfl, rfl⟩
    · exact ⟨slot, known, isUsed⟩
  · intro first second other left right firstFound secondFound
    exact sound.unique (before firstFound) (before secondFound)

/-- What is stored after a deletion. -/
theorem Sound.holds_erase {other : κ} :
    Holds (slots.set position .tombstone) other held ↔
      Holds slots other held ∧ other ≠ key := by
  unfold Holds
  constructor
  · rintro ⟨at', found⟩
    rw [getElem?_set_of_some stored] at found
    split at found
    · simp at found
    · rename_i elsewhere
      refine ⟨⟨at', found⟩, ?_⟩
      rintro rfl
      exact elsewhere (sound.unique stored found)
  · rintro ⟨⟨at', found⟩, different⟩
    refine ⟨at', ?_⟩
    rw [getElem?_set_of_some stored, if_neg]
    · exact found
    · rintro rfl
      rw [stored] at found
      exact different (Slot.occupied.inj (Option.some.inj found)).1.symm

end

end Writing

/-- The table maps each key of the list to its position, and nothing else. -/
def Indexes (slots : List (Slot κ Nat)) (keys : List κ) : Prop :=
  ∀ key position, Holds slots key position ↔ keys[position]? = some key

section Positions

variable {slots : List (Slot κ Nat)} {keys : List κ}

theorem Indexes.vacant (vacant : ∀ slot ∈ slots, slot = Slot.empty) :
    Indexes slots [] := by
  intro key position
  constructor
  · rintro ⟨at', stored⟩
    have absurd := vacant _ (List.mem_of_getElem? stored)
    contradiction
  · intro listed
    simp at listed

variable {key : κ}

/-- An unlisted key is not stored. -/
theorem Indexes.absent (indexes : Indexes slots keys)
    (unlisted : key ∉ keys) (held : Nat) : ¬ Holds slots key held := by
  rw [indexes]
  exact fun listed => unlisted (List.mem_of_getElem? listed)

variable {position : Nat}

/-- Storing the next position of a new key extends the list. -/
theorem Indexes.insert (indexes : Indexes slots keys) {slot : Slot κ Nat}
    (present : slots[position]? = some slot)
    (free : slot.isOccupied = false) :
    Indexes (slots.set position (Slot.occupied key keys.length))
      (keys ++ [key]) := by
  intro other held
  rw [holds_insert present free, indexes]
  rcases Nat.lt_trichotomy held keys.length with inside | rfl | outside
  · rw [List.getElem?_append_left inside]
    simp [Nat.ne_of_lt inside]
  · rw [List.getElem?_append_right (Nat.le_refl _)]
    simp [eq_comm]
  · rw [List.getElem?_append_right (Nat.le_of_lt outside),
      List.getElem?_eq_none (Nat.le_of_lt outside), List.getElem?_eq_none]
    · simp [Nat.ne_of_gt outside]
    · simp
      omega

/-- Erasing the last key shortens the list. -/
theorem Indexes.erase {path : κ → List Nat} (sound : Sound path slots) (indexes : Indexes slots (keys ++ [key]))
    (fresh : key ∉ keys) {value : Nat}
    (stored : slots[position]? = some (Slot.occupied key value)) :
    Indexes (slots.set position .tombstone) keys := by
  intro other held
  rw [sound.holds_erase stored, indexes]
  rcases Nat.lt_trichotomy held keys.length with inside | rfl | outside
  · rw [List.getElem?_append_left inside]
    constructor
    · exact And.left
    · intro listed
      exact ⟨listed, fun same => fresh (same ▸ List.mem_of_getElem? listed)⟩
  · rw [List.getElem?_append_right (Nat.le_refl _)]
    simp [eq_comm]
  · rw [List.getElem?_append_right (Nat.le_of_lt outside),
      List.getElem?_eq_none (Nat.le_of_lt outside), List.getElem?_eq_none]
    · simp
    · simp
      omega

end Positions

variable {position : Nat}

/-- Writing one item changes a count by that item alone. -/
theorem countP_set_add {α : Type} {items : List α}
    {old : α} (new : α) (counted : α → Bool)
    (present : items[position]? = some old) :
    (items.set position new).countP counted + (counted old).toNat =
      items.countP counted + (counted new).toNat := by
  obtain ⟨bound, equal⟩ := List.getElem?_eq_some_iff.mp present
  have positive : counted old = true → 0 < items.countP counted := by
    intro isCounted
    exact List.countP_pos_iff.mpr
      ⟨old, equal ▸ List.getElem_mem bound, isCounted⟩
  rw [List.countP_set bound, equal]
  cases oldCounted : counted old with
  | false => cases counted new <;> simp
  | true =>
      have nonempty := positive oldCounted
      cases counted new <;> simp <;> omega

/-- A table that is not full has a slot that is not occupied. -/
theorem exists_not_occupied
    (room : slots.countP Slot.isOccupied < slots.length) :
    ∃ (position : Nat) (slot : Slot κ ν), slots[position]? = some slot ∧
      slot.isOccupied = false := by
  have notAll : ¬ ∀ slot ∈ slots, slot.isOccupied = true := by
    intro all
    exact absurd (List.countP_eq_length.mpr all) (Nat.ne_of_lt room)
  simp only [not_forall, Bool.not_eq_true] at notAll
  obtain ⟨slot, member, free⟩ := notAll
  obtain ⟨position, present⟩ := List.mem_iff_getElem?.mp member
  exact ⟨position, slot, present, free⟩

theorem countP_isOccupied_le (slots : List (Slot κ ν)) :
    slots.countP Slot.isOccupied ≤ slots.countP Slot.isUsed := by
  apply List.countP_mono_left
  intro slot _ occupied
  cases slot with
  | occupied _ _ => rfl
  | empty => contradiction
  | tombstone => contradiction

/-- `count` consecutive positions under a mask. -/
def probes (mask : Nat) : Nat → Nat → List Nat
  | 0, _ => []
  | count + 1, position =>
      position :: probes mask count ((position + 1) &&& mask)

/-- The linear path of a hash over a table of a power of two. -/
def linearPath (size hash : Nat) : List Nat :=
  probes (size - 1) size (hash &&& (size - 1))

variable {bits : Nat}

theorem mem_probes {count start : Nat}
    (inside : start < 2 ^ bits) :
    position ∈ probes (2 ^ bits - 1) count start ↔
      ∃ step < count, (start + step) % 2 ^ bits = position := by
  induction count generalizing start with
  | zero => simp [probes]
  | succ count induction =>
      have next : (start + 1) &&& (2 ^ bits - 1) = (start + 1) % 2 ^ bits :=
        Nat.and_two_pow_sub_one_eq_mod _ _
      have nextInside : (start + 1) % 2 ^ bits < 2 ^ bits :=
        Nat.mod_lt _ (Nat.two_pow_pos bits)
      rw [probes, next, List.mem_cons, induction nextInside]
      constructor
      · rintro (rfl | ⟨step, bound, rfl⟩)
        · exact ⟨0, Nat.succ_pos count, Nat.mod_eq_of_lt inside⟩
        · refine ⟨step + 1, Nat.succ_lt_succ bound, ?_⟩
          rw [Nat.mod_add_mod, Nat.add_assoc, Nat.add_comm 1]
      · rintro ⟨step, bound, rfl⟩
        cases step with
        | zero => exact Or.inl (Nat.mod_eq_of_lt inside)
        | succ step =>
            refine Or.inr ⟨step, Nat.lt_of_succ_lt_succ bound, ?_⟩
            rw [Nat.mod_add_mod, Nat.add_assoc, Nat.add_comm 1]

/-- A linear path visits exactly the positions of the table. -/
theorem mem_linearPath {hash : Nat} :
    position ∈ linearPath (2 ^ bits) hash ↔ position < 2 ^ bits := by
  have start : hash &&& (2 ^ bits - 1) < 2 ^ bits := by
    rw [Nat.and_two_pow_sub_one_eq_mod]
    exact Nat.mod_lt _ (Nat.two_pow_pos bits)
  unfold linearPath
  rw [mem_probes start]
  generalize hash &&& (2 ^ bits - 1) = home at start
  constructor
  · rintro ⟨step, _, rfl⟩
    exact Nat.mod_lt _ (Nat.two_pow_pos bits)
  · intro inside
    -- The distance from the home position, around the end if necessary.
    by_cases ahead : home ≤ position
    · refine ⟨position - home, by omega, ?_⟩
      rw [Nat.add_sub_cancel' ahead, Nat.mod_eq_of_lt inside]
    · refine ⟨position + 2 ^ bits - home, by omega, ?_⟩
      rw [Nat.add_sub_cancel' (by omega), Nat.add_mod_right,
        Nat.mod_eq_of_lt inside]

end Dxmt9.Table
