import Mathlib.Data.List.Basic
import Mathlib.Data.List.GetD

/-!
# Packed rows

Two packed representations of a relation on small numbers.  A bit row keeps
a set as machine words.  A compressed table keeps the values of every key in
one array, ordered by key and, for one key, in the order of insertion; it is
filled by counting the keys, summing the counts and placing each entry at
the cursor of its key.
-/

namespace Dxmt9.Table

/-! ## Bit rows -/

/-- Words of 64 bits; element `i` is bit `i % 64` of word `i / 64`. -/
abbrev BitRow := List (BitVec 64)

namespace BitRow

def mask (index : Nat) : BitVec 64 :=
  1#64 <<< (index % 64)

def empty (words : Nat) : BitRow :=
  List.replicate words 0

def test (row : BitRow) (index : Nat) : Bool :=
  (row.getD (index / 64) 0 &&& mask index) != 0

def mark (row : BitRow) (index : Nat) : BitRow :=
  row.modify (index / 64) fun word => word ||| mask index

variable (row : BitRow) (index other : Nat)

theorem getLsbD_mask (position : Nat) :
    (mask index).getLsbD position = decide (position = index % 64) := by
  have small : index % 64 < 64 := Nat.mod_lt _ (by decide)
  apply Bool.eq_iff_iff.mpr
  simp only [mask, BitVec.getLsbD_shiftLeft, BitVec.getLsbD_one,
    Bool.and_eq_true, decide_eq_true_eq, Bool.not_eq_true',
    decide_eq_false_iff_not]
  omega

/-- Testing against the mask reads one bit. -/
theorem test_eq_getLsbD :
    row.test index = (row.getD (index / 64) 0).getLsbD (index % 64) := by
  have small : index % 64 < 64 := Nat.mod_lt _ (by decide)
  apply Bool.eq_iff_iff.mpr
  constructor
  · intro nonzero
    by_contra clear
    have zero : row.getD (index / 64) 0 &&& mask index = 0 := by
      apply BitVec.eq_of_getLsbD_eq
      intro position _
      rw [BitVec.getLsbD_and, getLsbD_mask]
      by_cases same : position = index % 64
      · subst same
        simpa using clear
      · simp [same]
    rw [test, zero] at nonzero
    exact absurd nonzero (by decide)
  · intro bit
    simp only [test, bne_iff_ne, ne_eq]
    intro zero
    have cleared := congrArg (fun word => word.getLsbD (index % 64)) zero
    simp only [BitVec.getLsbD_and, getLsbD_mask, bit] at cleared
    simp at cleared

@[simp]
theorem length_mark : (row.mark index).length = row.length := by
  simp [mark]

@[simp]
theorem length_empty (words : Nat) : (empty words).length = words := by
  simp [empty]

@[simp]
theorem test_empty (words : Nat) : (empty words).test index = false := by
  rw [test_eq_getLsbD]
  simp [empty, List.getD_eq_getElem?_getD, List.getElem?_replicate]
  split <;> simp

/-- Marking adds exactly one element. -/
theorem test_mark (inside : index / 64 < row.length) :
    (row.mark index).test other = (row.test other || decide (other = index)) := by
  rw [test_eq_getLsbD, test_eq_getLsbD]
  by_cases sameWord : other / 64 = index / 64
  · have marked : (row.mark index).getD (other / 64) 0 =
        row.getD (other / 64) 0 ||| mask index := by
      rw [sameWord]
      simp [mark, List.getD_eq_getElem?_getD, inside]
    rw [marked, BitVec.getLsbD_or, getLsbD_mask]
    congr 1
    apply decide_eq_decide.mpr
    omega
  · have kept : (row.mark index).getD (other / 64) 0 =
        row.getD (other / 64) 0 := by
      simp [mark, List.getD_eq_getElem?_getD, Ne.symm sameWord]
    have distinct : other ≠ index := by
      intro same
      exact sameWord (same ▸ rfl)
    simp only [kept, distinct, decide_false, Bool.or_false]

end BitRow

/-- Values ordered by key; row `k` starts at `offsets[k]`. -/
structure CompressedRows (α : Type*) where
  offsets : List Nat
  values : List α

namespace CompressedRows

variable {α : Type*}

/-- Entries with the key `key`, in order. -/
def valuesOf (entries : List (Nat × α)) (key : Nat) : List α :=
  (entries.filter fun entry => entry.1 == key).map Prod.snd

/-- One more entry of a key is announced in the slot behind the key. -/
def announce (offsets : List Nat) (entry : Nat × α) : List Nat :=
  offsets.modify (entry.1 + 1) (· + 1)

/-- Add the total in front to slot `index`. -/
def accumulate (offsets : List Nat) (index : Nat) : List Nat :=
  offsets.modify index (· + offsets.getD (index - 1) 0)

/-- Store an entry at the cursor of its key and advance the cursor. -/
def place (state : List Nat × List α) (entry : Nat × α) :
    List Nat × List α :=
  (state.1.modify entry.1 (· + 1),
    state.2.set (state.1.getD entry.1 0) entry.2)

def starts (keys : Nat) (entries : List (Nat × α)) : List Nat :=
  (List.range' 1 keys).foldl accumulate
    (entries.foldl announce (List.replicate (keys + 1) 0))

/-- Count, sum and place. -/
def build [Inhabited α] (keys : Nat) (entries : List (Nat × α)) :
    CompressedRows α :=
  let offsets := starts keys entries
  { offsets := offsets
    values :=
      (entries.foldl place
        (offsets, List.replicate (offsets.getD keys 0) default)).2 }

/-- The values between the start of `key` and the start of the next key. -/
def row (rows : CompressedRows α) (key : Nat) : List α :=
  (rows.values.drop (rows.offsets.getD key 0)).take
    (rows.offsets.getD (key + 1) 0 - rows.offsets.getD key 0)

/-! ### Counting and summing -/

theorem getD_modify_add (slots : List Nat) (slot amount : Nat)
    {index : Nat} (inside : index < slots.length) :
    (slots.modify slot (· + amount)).getD index 0 =
      slots.getD index 0 + if slot = index then amount else 0 := by
  simp only [List.getD_eq_getElem?_getD, List.getElem?_modify,
    List.getElem?_eq_getElem inside]
  split <;> rfl

/-- The number of entries in front of the row of `key`. -/
def before (entries : List (Nat × α)) (key : Nat) : Nat :=
  entries.countP fun entry => decide (entry.1 < key)

theorem length_valuesOf (entries : List (Nat × α)) (key : Nat) :
    (valuesOf entries key).length =
      entries.countP fun entry => entry.1 == key := by
  simp [valuesOf, List.countP_eq_length_filter]

theorem valuesOf_append (front back : List (Nat × α)) (key : Nat) :
    valuesOf (front ++ back) key =
      valuesOf front key ++ valuesOf back key := by
  simp [valuesOf]

/-- The next row starts where the row of `key` ends. -/
theorem before_succ (entries : List (Nat × α)) (key : Nat) :
    before entries (key + 1) =
      before entries key + (valuesOf entries key).length := by
  rw [length_valuesOf]
  induction entries with
  | nil => rfl
  | cons entry rest induction =>
      simp only [before, List.countP_cons, beq_iff_eq,
        decide_eq_true_eq] at induction ⊢
      split <;> split <;> split <;> omega

theorem before_mono (entries : List (Nat × α)) {low high : Nat}
    (ordered : low ≤ high) : before entries low ≤ before entries high := by
  apply List.countP_mono_left
  intro entry _ inFront
  simp only [decide_eq_true_eq] at inFront ⊢
  exact Nat.lt_of_lt_of_le inFront ordered

theorem announce_fold (entries : List (Nat × α)) (offsets : List Nat) :
    (entries.foldl announce offsets).length = offsets.length ∧
      (entries.foldl announce offsets).getD 0 0 = offsets.getD 0 0 ∧
      ∀ key, key + 1 < offsets.length →
        (entries.foldl announce offsets).getD (key + 1) 0 =
          offsets.getD (key + 1) 0 + (valuesOf entries key).length := by
  induction entries generalizing offsets with
  | nil => simp [valuesOf]
  | cons entry rest induction =>
      have announced : (announce offsets entry).length = offsets.length := by
        simp [announce]
      obtain ⟨sameLength, first, later⟩ := induction (announce offsets entry)
      refine ⟨sameLength.trans announced, first.trans ?_, ?_⟩
      · simp [announce, List.getD_eq_getElem?_getD]
      · intro key inside
        rw [List.foldl_cons, later key (announced ▸ inside)]
        have counted := getD_modify_add offsets (entry.1 + 1) 1 inside
        rw [show (announce offsets entry).getD (key + 1) 0 = _ from counted]
        by_cases same : entry.1 = key
        · simp only [same, if_true, valuesOf, beq_self_eq_true,
            List.filter_cons_of_pos, List.map_cons, List.length_cons]
          omega
        · simp [valuesOf, same]

/-- The summed counts are the row starts. -/
theorem accumulate_fold (keys : Nat) (entries : List (Nat × α)) (slots : Nat)
    (inside : slots ≤ keys) :
    let counted := entries.foldl announce (List.replicate (keys + 1) 0)
    let summed := (List.range' 1 slots).foldl accumulate counted
    summed.length = keys + 1 ∧
      (∀ key ≤ slots, summed.getD key 0 = before entries key) ∧
      ∀ key, slots < key → summed.getD key 0 = counted.getD key 0 := by
  intro counted
  obtain ⟨sameLength, first, later⟩ :=
    announce_fold entries (List.replicate (keys + 1) 0)
  rw [List.length_replicate] at sameLength
  induction slots with
  | zero =>
      refine ⟨sameLength, ?_, fun key _ => rfl⟩
      intro key zero
      obtain rfl := Nat.le_zero.mp zero
      change counted.getD 0 0 = before entries 0
      rw [show counted.getD 0 0 = _ from first]
      simp [before]
  | succ slots induction =>
      obtain ⟨length, started, untouched⟩ :=
        induction (Nat.le_of_succ_le inside)
      rw [List.range'_1_concat, List.foldl_append]
      simp only [List.foldl_cons, List.foldl_nil]
      set summed := (List.range' 1 slots).foldl accumulate counted
      have slot : accumulate summed (1 + slots) =
          summed.modify (slots + 1) (· + summed.getD slots 0) := by
        simp [accumulate, Nat.add_comm]
      rw [slot]
      refine ⟨by simp [length], ?_, ?_⟩
      · intro key bound
        by_cases last : key = slots + 1
        · subst last
          have announced := later slots (by
            rw [List.length_replicate]
            exact Nat.lt_succ_of_le inside)
          have added := getD_modify_add summed (slots + 1)
            (summed.getD slots 0)
            (show slots + 1 < summed.length by omega)
          rw [if_pos rfl] at added
          rw [added, untouched _ (Nat.lt_succ_self _),
            started slots (Nat.le_refl _), before_succ]
          rw [show counted.getD (slots + 1) 0 = _ from announced]
          simp [Nat.add_comm]
        · have kept : (summed.modify (slots + 1)
              (· + summed.getD slots 0)).getD key 0 = summed.getD key 0 := by
            simp [List.getD_eq_getElem?_getD, Ne.symm last]
          rw [kept]
          exact started key (by omega)
      · intro key above
        have kept : (summed.modify (slots + 1)
            (· + summed.getD slots 0)).getD key 0 = summed.getD key 0 := by
          simp [List.getD_eq_getElem?_getD, Nat.ne_of_lt above]
        rw [kept]
        exact untouched key (by omega)

theorem length_starts (keys : Nat) (entries : List (Nat × α)) :
    (starts keys entries).length = keys + 1 :=
  (accumulate_fold keys entries keys (Nat.le_refl _)).1

variable {keys key : Nat}

theorem starts_getD (entries : List (Nat × α))
    (inside : key ≤ keys) :
    (starts keys entries).getD key 0 = before entries key :=
  (accumulate_fold keys entries keys (Nat.le_refl _)).2.1 key inside

/-- The entries `done` stand in their rows of the table for `entries`. -/
structure Placed (keys : Nat) (entries done : List (Nat × α))
    (state : List Nat × List α) : Prop where
  cursors : state.1.length = keys + 1
  cursor : ∀ key < keys,
    state.1.getD key 0 = before entries key + (valuesOf done key).length
  length : state.2.length = before entries keys
  stored : ∀ key < keys, ∀ index < (valuesOf done key).length,
    state.2[before entries key + index]? = (valuesOf done key)[index]?

variable {entries done : List (Nat × α)} {state : List Nat × List α}

theorem Placed.place {rest : List (Nat × α)}
    {entry : Nat × α}
    (placed : Placed keys entries done state)
    (split : entries = done ++ entry :: rest) (inside : entry.1 < keys) :
    Placed keys entries (done ++ [entry])
      (CompressedRows.place state entry) := by
  have grown : ∀ key, valuesOf (done ++ [entry]) key =
      if entry.1 = key then valuesOf done key ++ [entry.2]
      else valuesOf done key := by
    intro key
    rw [valuesOf_append]
    split <;> rename_i same <;> simp [valuesOf, same]
  have room : ∀ key, (valuesOf (done ++ [entry]) key).length ≤
      (valuesOf entries key).length := by
    intro key
    have regrouped : entries = (done ++ [entry]) ++ rest := by
      rw [split, List.append_assoc, List.singleton_append]
    rw [regrouped, valuesOf_append (done ++ [entry]), List.length_append]
    exact Nat.le_add_right _ _
  have position := placed.cursor entry.1 inside
  refine ⟨?_, ?_, ?_, ?_⟩
  · simp [CompressedRows.place, placed.cursors]
  · intro key keyInside
    have bound : key < state.1.length := by
      rw [placed.cursors]
      exact Nat.lt_succ_of_lt keyInside
    have advanced := getD_modify_add state.1 entry.1 1 bound
    change (state.1.modify entry.1 (· + 1)).getD key 0 = _
    rw [advanced, placed.cursor key keyInside, grown]
    split
    · rw [List.length_append, List.length_singleton, Nat.add_assoc]
    · rfl
  · simp [CompressedRows.place, placed.length]
  · intro key keyInside index bound
    have enough := room entry.1
    have firstEnd := before_succ entries entry.1
    have secondEnd := before_succ entries key
    have keyRoom := room key
    have total : before entries (entry.1 + 1) ≤ before entries keys :=
      before_mono entries inside
    rw [grown] at enough bound keyRoom
    rw [grown]
    simp only [CompressedRows.place]
    rw [position]
    by_cases same : entry.1 = key
    · subst same
      simp only [if_true, List.length_append, List.length_singleton]
        at bound enough ⊢
      by_cases last : index = (valuesOf done entry.1).length
      · subst last
        have fits : before entries entry.1 + (valuesOf done entry.1).length
            < state.2.length := by
          rw [placed.length]
          omega
        simp [fits]
      · have old := placed.stored entry.1 inside index (by omega)
        rw [List.getElem?_set_ne (by omega), old,
          List.getElem?_append_left (by omega)]
    · simp only [same, if_false, if_true, List.length_append,
        List.length_singleton] at bound enough keyRoom ⊢
      have apart : before entries entry.1 + (valuesOf done entry.1).length ≠
          before entries key + index := by
        rcases Nat.lt_or_gt_of_ne same with low | high
        · have next : before entries (entry.1 + 1) ≤ before entries key :=
            before_mono entries low
          omega
        · have next : before entries (key + 1) ≤ before entries entry.1 :=
            before_mono entries high
          omega
      rw [List.getElem?_set_ne apart]
      exact placed.stored key keyInside index bound

theorem Placed.fold
    (rest : List (Nat × α)) (placed : Placed keys entries done state)
    (split : entries = done ++ rest)
    (inside : ∀ entry ∈ rest, entry.1 < keys) :
    Placed keys entries entries (rest.foldl CompressedRows.place state) := by
  induction rest generalizing done state with
  | nil => simpa [split] using placed
  | cons entry rest induction =>
      apply induction (placed.place split (inside entry List.mem_cons_self))
      · rw [split, List.append_assoc, List.singleton_append]
      · exact fun other member =>
          inside other (List.mem_cons_of_mem entry member)

/-- Row `key` lists the values of the key in the order of insertion. -/
theorem row_build [Inhabited α] (inside : ∀ entry ∈ entries, entry.1 < keys)
    (keyInside : key < keys) :
    (build keys entries).row key = valuesOf entries key := by
  have initial : Placed keys entries [] (starts keys entries,
        List.replicate ((starts keys entries).getD keys 0) default) := by
    refine ⟨length_starts keys entries, ?_, ?_, ?_⟩
    · intro other otherInside
      rw [starts_getD entries (Nat.le_of_lt otherInside)]
      rfl
    · rw [List.length_replicate, starts_getD entries (Nat.le_refl _)]
    · intro other _ index bound
      exact absurd bound (Nat.not_lt_zero index)
  have placed := initial.fold entries rfl inside
  have ends := before_succ entries key
  unfold row build
  simp only
  rw [starts_getD entries (Nat.le_of_lt keyInside),
    starts_getD entries (Nat.succ_le_of_lt keyInside), ends,
    Nat.add_sub_cancel_left]
  apply List.ext_getElem?
  intro index
  by_cases bound : index < (valuesOf entries key).length
  · rw [List.getElem?_take_of_lt bound, List.getElem?_drop]
    exact placed.stored key keyInside index bound
  · have outside := Nat.not_lt.mp bound
    rw [List.getElem?_eq_none_iff.mpr outside, List.getElem?_eq_none_iff]
    exact Nat.le_trans (List.length_take_le _ _) outside

end CompressedRows

end Dxmt9.Table
