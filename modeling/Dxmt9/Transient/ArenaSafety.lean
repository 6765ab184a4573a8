import Mathlib.Data.List.TakeWhile
import Mathlib.Tactic.Set
import Dxmt9.Transient.ResourceArena

/-!
# Slices in flight

Every slice lies in its buffer, and what is in flight is neither shared nor
dropped, as long as an append that is not scanned is one that a scan accepts.
-/

namespace Dxmt9.Transient

open ResourceArena

variable {config : ArenaConfig} {arena : ResourceArena}
  {issued : List IssuedSlice} {completed last : Nat}

theorem wrap_of_fits {value : Nat} (fits : value ≤ maxUInt64) :
    wrap value = value := Nat.mod_eq_of_lt (Nat.lt_succ_of_le fits)

theorem and_clearLow {value power : Nat} (fits : value ≤ maxUInt64)
    (low : power ≤ 64) :
    value &&& (maxUInt64 ^^^ (2 ^ power - 1)) =
      value / 2 ^ power * 2 ^ power := by
  have small : value < 2 ^ 64 := Nat.lt_succ_of_le fits
  have ones : maxUInt64 = 2 ^ 64 - 1 := rfl
  apply Nat.eq_of_testBit_eq
  intro bit
  rw [← Nat.shiftRight_eq_div_pow, ← Nat.shiftLeft_eq, Nat.testBit_and,
    Nat.testBit_xor, ones, Nat.testBit_two_pow_sub_one,
    Nat.testBit_two_pow_sub_one, Nat.testBit_shiftLeft,
    Nat.testBit_shiftRight]
  by_cases below : bit < power
  · have inWord : bit < 64 := Nat.lt_of_lt_of_le below low
    have notAbove : ¬power ≤ bit := Nat.not_le_of_lt below
    simp only [below, inWord, ge_iff_le, notAbove, decide_true,
      Bool.xor_self, Bool.and_false, decide_false, Bool.false_and]
  · have above : power ≤ bit := Nat.le_of_not_lt below
    rw [Nat.add_sub_cancel' above]
    by_cases inWord : bit < 64
    · simp only [below, inWord, ge_iff_le, above, decide_true, decide_false,
        Bool.xor_false, Bool.and_true, Bool.true_and]
    · have zero : value.testBit bit = false :=
        Nat.testBit_lt_two_pow (Nat.lt_of_lt_of_le small
          (Nat.pow_le_pow_right (by decide) (Nat.le_of_not_lt inWord)))
      rw [zero, Bool.false_and, Bool.and_false]

theorem alignUp_eq {value power : Nat}
    (fits : value + 2 ^ power - 1 ≤ maxUInt64) :
    alignUp value (2 ^ power) =
      (value + 2 ^ power - 1) / 2 ^ power * 2 ^ power := by
  have positive : 0 < 2 ^ power := Nat.two_pow_pos power
  have low : power ≤ 64 := by
    by_contra high
    have large : 2 ^ 65 ≤ 2 ^ power :=
      Nat.pow_le_pow_right (by decide) (Nat.lt_of_not_le high)
    unfold maxUInt64 at fits
    omega
  unfold alignUp
  split
  · have one : 2 ^ power = 1 := by omega
    rw [one, Nat.div_one, Nat.mul_one, Nat.add_sub_cancel]
  · rw [wrap_of_fits fits, and_clearLow fits low]

theorem dvd_alignUp {value power : Nat}
    (fits : value + 2 ^ power - 1 ≤ maxUInt64) :
    2 ^ power ∣ alignUp value (2 ^ power) := by
  rw [alignUp_eq fits]
  exact Nat.dvd_mul_left _ _

theorem le_alignUp {value power : Nat}
    (fits : value + 2 ^ power - 1 ≤ maxUInt64) :
    value ≤ alignUp value (2 ^ power) := by
  have positive : 0 < 2 ^ power := Nat.two_pow_pos power
  have rest := Nat.div_add_mod (value + 2 ^ power - 1) (2 ^ power)
  have small := Nat.mod_lt (value + 2 ^ power - 1) positive
  rw [alignUp_eq fits, Nat.mul_comm]
  omega

/-! ## What is kept -/

/-- A slice is covered by an allocation of the slab, or its buffer is
retained. -/
def Held (arena : ResourceArena) (slice : IssuedSlice) : Prop :=
  (∃ slab, arena.slab = some slab ∧ slab.buffer = slice.buffer ∧
    ∃ allocation ∈ arena.slabAllocations,
      allocation.offset = slice.offset ∧ slice.size ≤ allocation.size ∧
        slice.seqId ≤ allocation.seqId) ∨
  ∃ retained ∈ arena.retainedBuffers,
    retained.buffer = slice.buffer ∧ slice.seqId ≤ retained.seqId

/-- The later slice was cut while the earlier one was in flight: they do not
overlap. -/
def Apart (earlier later : IssuedSlice) : Prop :=
  earlier.buffer = later.buffer → later.completedSeqId < earlier.seqId →
    earlier.offset + earlier.size ≤ later.offset ∨
      later.offset + later.size ≤ earlier.offset

instance : DecidableRel Apart := fun _ _ =>
  inferInstanceAs (Decidable (_ = _ → _ < _ → _ ∨ _))

def Inside (buffers : List (Option Nat)) (slice : IssuedSlice) : Prop :=
  ∃ length, buffers[slice.buffer]? = some (some length) ∧
    slice.offset + slice.size ≤ length

/-- What holds of an arena and of what it handed out. -/
structure Ok (completed last : Nat) (arena : ResourceArena)
    (issued : List IssuedSlice) : Prop where
  slab : ∀ slab, arena.slab = some slab →
    arena.buffers[slab.buffer]? = some (some slab.capacity)
  vacant : arena.slab = none → arena.slabAllocations = []
  fits : ∀ allocation ∈ arena.slabAllocations,
    allocation.offset + allocation.size ≤ maxUInt64
  known : ∀ retained ∈ arena.retainedBuffers,
    retained.buffer < arena.buffers.length
  retired : ∀ retained ∈ arena.retainedBuffers,
    ∀ slab, arena.slab = some slab → retained.buffer ≠ slab.buffer
  inside : ∀ slice ∈ issued, Inside arena.buffers slice
  aligned : ∀ slice ∈ issued, slice.alignment ∣ slice.offset
  recent : ∀ slice ∈ issued, slice.seqId ≤ last
  held : ∀ slice ∈ issued, completed < slice.seqId → Held arena slice
  apart : issued.Pairwise Apart

theorem Ok.later {later : Nat} (ok : Ok completed last arena issued)
    (less : last ≤ later) : Ok completed later arena issued :=
  { ok with
    recent := fun slice member =>
      Nat.le_trans (ok.recent slice member) less }

theorem Inside.lt {buffers : List (Option Nat)} {slice : IssuedSlice}
    (inside : Inside buffers slice) : slice.buffer < buffers.length := by
  obtain ⟨length, isLength, -⟩ := inside
  exact (List.getElem?_eq_some_iff.mp isLength).1

theorem Inside.append {buffers : List (Option Nat)} {slice : IssuedSlice}
    (inside : Inside buffers slice) (more : List (Option Nat)) :
    Inside (buffers ++ more) slice := by
  have before := inside.lt
  obtain ⟨length, isLength, fits⟩ := inside
  refine ⟨length, ?_, fits⟩
  rw [List.getElem?_append_left before]
  exact isLength

theorem mem_dropWhile_of_not {α : Type} {drops : α → Bool} {item : α}
    {items : List α} (member : item ∈ items)
    (stays : drops item = false) : item ∈ items.dropWhile drops := by
  induction items with
  | nil => exact nomatch member
  | cons head rest induction =>
      rw [List.dropWhile_cons]
      split
      · rename_i dropped
        rcases List.mem_cons.mp member with same | behind
        · rw [same, dropped] at stays
          exact nomatch stays
        · exact induction behind
      · exact member

/-- Reclaiming keeps everything that has not completed. -/
theorem Ok.reclaim {value : Nat} (ok : Ok completed last arena issued)
    (later : completed ≤ value) :
    Ok value last (arena.reclaimUnlocked value) issued where
  slab := ok.slab
  vacant := by
    intro none
    change arena.slabAllocations.dropWhile _ = []
    rw [ok.vacant none]
    rfl
  fits := fun allocation member =>
    ok.fits allocation (List.dropWhile_subset _ member)
  known := fun retained member =>
    ok.known retained (List.dropWhile_subset _ member)
  retired := fun retained member =>
    ok.retired retained (List.dropWhile_subset _ member)
  inside := ok.inside
  aligned := ok.aligned
  recent := ok.recent
  apart := ok.apart
  held := by
    intro slice member inFlight
    rcases ok.held slice member (Nat.lt_of_le_of_lt later inFlight) with
      ⟨slab, isSlab, buffer, allocation, allocated, place, size, seqId⟩ |
      ⟨retained, isRetained, buffer, seqId⟩
    · refine Or.inl ⟨slab, isSlab, buffer, allocation, ?_, place, size, seqId⟩
      apply mem_dropWhile_of_not allocated
      exact decide_eq_false (by omega)
    · refine Or.inr ⟨retained, ?_, buffer, seqId⟩
      apply mem_dropWhile_of_not isRetained
      exact decide_eq_false (by omega)

/-- The arena behind one more request. -/
def asked (arena : ResourceArena) (length : Option Nat) : ResourceArena :=
  { arena with buffers := arena.buffers ++ [length] }

theorem newBuffer_eq (length : Nat) :
    arena.newBuffer config length =
      (asked arena
        (if config.newBuffer arena.buffers.length = .nothing then none
          else some length),
        config.newBuffer arena.buffers.length, arena.buffers.length) := rfl

theorem getElem?_asked (length : Option Nat) :
    (asked arena length).buffers[arena.buffers.length]? = some length := by
  unfold asked
  dsimp only
  rw [List.getElem?_append_right (Nat.le_refl _), Nat.sub_self]
  rfl

section

variable (ok : Ok completed last arena issued)
include ok

theorem Ok.asked
    (length : Option Nat) :
    Ok completed last (asked arena length) issued :=
  { ok with
    slab := by
      intro slab isSlab
      have before := ok.slab slab isSlab
      unfold Transient.asked
      dsimp only
      rw [List.getElem?_append_left (List.getElem?_eq_some_iff.mp before).1]
      exact before
    known := by
      intro retained member
      unfold Transient.asked
      dsimp only
      rw [List.length_append]
      exact Nat.lt_add_right _ (ok.known retained member)
    inside := fun slice member => (ok.inside slice member).append _ }

theorem Ok.newSlab
    (vacant : arena.slab = none) (capacity : Nat) :
    Ok completed last
      { Transient.asked arena (some capacity) with
        slab := some { buffer := arena.buffers.length, capacity := capacity }
        slabCursor := 0 } issued := by
  have grown := ok.asked (some capacity)
  refine { grown with slab := ?_, vacant := ?_, retired := ?_, held := ?_ }
  · rintro slab isSlab
    rw [← Option.some.inj isSlab]
    exact getElem?_asked (some capacity)
  · intro none
    exact nomatch none
  · intro retained member slab isSlab
    rw [← Option.some.inj isSlab]
    exact Nat.ne_of_lt (ok.known retained member)
  · intro slice member inFlight
    rcases ok.held slice member inFlight with ⟨slab, isSlab, -⟩ | retained
    · exact nomatch vacant.symm.trans isSlab
    · exact Or.inr retained

theorem Ok.ensure (minimum : Nat) :
    Ok completed last (arena.ensureSlabUnlocked config minimum).1 issued ∧
      ((arena.ensureSlabUnlocked config minimum).2 = true →
        (arena.ensureSlabUnlocked config minimum).1.slab ≠ none) := by
  unfold ensureSlabUnlocked
  split
  · rename_i slab isSlab
    refine ⟨ok, fun _ => ?_⟩
    rw [isSlab]
    exact Option.some_ne_none slab
  · rename_i vacant
    dsimp only
    rw [newBuffer_eq]
    cases answer : config.newBuffer arena.buffers.length with
    | mapped => exact ⟨ok.newSlab vacant _, fun _ => Option.some_ne_none _⟩
    | unmapped => exact ⟨ok.asked _, fun made => nomatch made⟩
    | nothing => exact ⟨ok.asked _, fun made => nomatch made⟩

theorem Ok.rotate {seqId : Nat}
    (later : last ≤ seqId) (minimum : Nat) :
    Ok completed last
        (arena.rotateSlabUnlocked config minimum seqId).1 issued ∧
      ((arena.rotateSlabUnlocked config minimum seqId).2 = true →
        (arena.rotateSlabUnlocked config minimum seqId).1.slab ≠ none) := by
  unfold rotateSlabUnlocked
  apply Ok.ensure
  constructor
  case slab => exact fun slab isSlab => nomatch isSlab
  case vacant => exact fun _ => rfl
  case fits => exact fun allocation member => nomatch member
  case known =>
    intro retained member
    rcases List.mem_append.mp member with before | new
    · exact ok.known retained before
    · split at new
      · rename_i slab isSlab
        split at new
        · exact nomatch new
        · rw [List.mem_singleton.mp new]
          exact (List.getElem?_eq_some_iff.mp (ok.slab slab isSlab)).1
      · exact nomatch new
  case retired => exact fun retained member slab isSlab => nomatch isSlab
  case inside => exact ok.inside
  case aligned => exact ok.aligned
  case recent => exact ok.recent
  case apart => exact ok.apart
  case held =>
    intro slice member inFlight
    right
    rcases ok.held slice member inFlight with
      ⟨slab, isSlab, buffer, allocation, allocated, -⟩ |
      ⟨retained, isRetained, same⟩
    · refine ⟨{ buffer := slab.buffer, seqId := seqId }, ?_, buffer,
        Nat.le_trans (ok.recent slice member) later⟩
      apply List.mem_append_right
      rw [isSlab]
      dsimp only
      rw [if_neg (List.ne_nil_of_mem allocated)]
      exact List.mem_singleton.mpr rfl
    · exact ⟨retained, List.mem_append_left _ isRetained, same⟩

end

/-- A region that a scan accepts meets no allocation. -/
theorem canPlace_apart {alignedSize offset : Nat}
    (fits : offset + alignedSize ≤ maxUInt64)
    (places : arena.canPlace alignedSize offset = true) :
    offset + alignedSize ≤ arena.slabCapacity ∧
      ∀ allocation ∈ arena.slabAllocations,
        allocation.offset + allocation.size ≤ maxUInt64 →
        offset + alignedSize ≤ allocation.offset ∨
          allocation.offset + allocation.size ≤ offset := by
  unfold canPlace at places
  rw [Bool.and_eq_true, wrap_of_fits fits, decide_eq_true_eq,
    List.all_eq_true] at places
  refine ⟨places.1, ?_⟩
  intro allocation member allocationFits
  have scanned := places.2 allocation member
  rw [Bool.or_eq_true, decide_eq_true_eq, decide_eq_true_eq,
    wrap_of_fits allocationFits] at scanned
  exact scanned

/-- A slice of a region that a scan accepts. -/
theorem Ok.append (ok : Ok completed last arena issued)
    {slab : Slab} (isSlab : arena.slab = some slab)
    {offset size alignedSize alignment seqId : Nat} (later : last ≤ seqId)
    (rounded : size ≤ alignedSize) (aligned : alignment ∣ offset)
    (fits : offset + alignedSize ≤ maxUInt64)
    (places : arena.canPlace alignedSize offset = true) :
    Ok completed seqId (arena.append offset alignedSize seqId)
      (issued ++
        [{ buffer := slab.buffer
           offset := offset
           size := size
           alignment := alignment
           seqId := seqId
           completedSeqId := completed }]) := by
  obtain ⟨inside, free⟩ := canPlace_apart fits places
  have capacity : arena.slabCapacity = slab.capacity := by
    unfold slabCapacity
    rw [isSlab]
    rfl
  constructor
  case slab => exact ok.slab
  case vacant => exact fun none => nomatch isSlab.symm.trans none
  case fits =>
    intro allocation member
    rcases List.mem_append.mp member with before | new
    · exact ok.fits allocation before
    · rw [List.mem_singleton.mp new]
      exact fits
  case known => exact ok.known
  case retired => exact ok.retired
  case inside =>
    intro slice member
    rcases List.mem_append.mp member with before | new
    · exact ok.inside slice before
    · rw [List.mem_singleton.mp new]
      refine ⟨slab.capacity, ok.slab slab isSlab, ?_⟩
      dsimp only
      omega
  case aligned =>
    intro slice member
    rcases List.mem_append.mp member with before | new
    · exact ok.aligned slice before
    · rw [List.mem_singleton.mp new]
      exact aligned
  case recent =>
    intro slice member
    rcases List.mem_append.mp member with before | new
    · exact Nat.le_trans (ok.recent slice before) later
    · rw [List.mem_singleton.mp new]
  case held =>
    intro slice member inFlight
    rcases List.mem_append.mp member with before | new
    · rcases ok.held slice before inFlight with
        ⟨other, isOther, buffer, allocation, allocated, covers⟩ | retained
      · exact Or.inl ⟨other, isOther, buffer, allocation,
          List.mem_append_left _ allocated, covers⟩
      · exact Or.inr retained
    · rw [List.mem_singleton.mp new]
      exact Or.inl ⟨slab, isSlab, rfl, _,
        List.mem_append_right _ (List.mem_singleton.mpr rfl), rfl, rounded,
        Nat.le_refl _⟩
  case apart =>
    rw [List.pairwise_append]
    refine ⟨ok.apart, List.pairwise_singleton _ _, ?_⟩
    intro earlier member newest isNewest
    rw [List.mem_singleton.mp isNewest]
    intro same inFlight
    -- Only an allocation of the slab can hold the earlier slice.
    rcases ok.held earlier member inFlight with
      ⟨-, -, -, allocation, allocated, place, covers, -⟩ |
      ⟨retained, isRetained, buffer, -⟩
    · dsimp only
      rcases free allocation allocated (ok.fits allocation allocated) with
        below | above
      · right
        omega
      · left
        omega
    · exact absurd (buffer.trans same)
        (ok.retired retained isRetained slab isSlab)

/-- A buffer of its own is retained from the start. -/
theorem Ok.dedicated (ok : Ok completed last arena issued)
    {seqId : Nat} (later : last ≤ seqId) (mapped : Bool)
    (size alignment : Nat) :
    Ok completed seqId (arena.dedicated config mapped size seqId).1
      (issued ++ issuedSlices
        [(arena.dedicated config mapped size seqId).2] alignment seqId
        completed) := by
  have grown := (ok.asked
    (if config.newBuffer arena.buffers.length = .nothing then none
      else some size)).later later
  unfold ResourceArena.dedicated
  rw [newBuffer_eq]
  dsimp only
  split
  · change Ok _ _ _ (issued ++ [])
    rw [List.append_nil]
    exact grown
  rename_i answered
  rw [not_or] at answered
  rw [if_neg answered.1] at grown ⊢
  change Ok _ _ _ (issued ++
    [{ buffer := arena.buffers.length, offset := 0, size := size,
       alignment := alignment, seqId := seqId,
       completedSeqId := completed }])
  constructor
  case slab => exact grown.slab
  case vacant => exact grown.vacant
  case fits => exact grown.fits
  case known =>
    intro retained member
    rcases List.mem_append.mp member with before | new
    · exact grown.known retained before
    · rw [List.mem_singleton.mp new]
      exact (List.getElem?_eq_some_iff.mp (getElem?_asked (some size))).1
  case retired =>
    intro retained member slab isSlab
    rcases List.mem_append.mp member with before | new
    · exact grown.retired retained before slab isSlab
    · rw [List.mem_singleton.mp new]
      exact Nat.ne_of_gt (List.getElem?_eq_some_iff.mp (ok.slab slab isSlab)).1
  case inside =>
    intro slice member
    rcases List.mem_append.mp member with before | new
    · exact grown.inside slice before
    · rw [List.mem_singleton.mp new]
      refine ⟨size, getElem?_asked (some size), ?_⟩
      dsimp only
      rw [Nat.zero_add]
  case aligned =>
    intro slice member
    rcases List.mem_append.mp member with before | new
    · exact grown.aligned slice before
    · rw [List.mem_singleton.mp new]
      exact Nat.dvd_zero _
  case recent =>
    intro slice member
    rcases List.mem_append.mp member with before | new
    · exact grown.recent slice before
    · rw [List.mem_singleton.mp new]
  case held =>
    intro slice member inFlight
    rcases List.mem_append.mp member with before | new
    · rcases grown.held slice before inFlight with
        allocated | ⟨retained, isRetained, same⟩
      · exact Or.inl allocated
      · exact Or.inr ⟨retained, List.mem_append_left _ isRetained, same⟩
    · rw [List.mem_singleton.mp new]
      exact Or.inr ⟨_, List.mem_append_right _ (List.mem_singleton.mpr rfl),
        rfl, Nat.le_refl _⟩
  case apart =>
    rw [List.pairwise_append]
    refine ⟨grown.apart, List.pairwise_singleton _ _, ?_⟩
    intro earlier member newest isNewest
    rw [List.mem_singleton.mp isNewest]
    intro same
    exact absurd same (Nat.ne_of_lt (ok.inside earlier member).lt)

/-! ## Allocations -/

/-- An append that is not scanned, and that a scan would refuse, overlaps an
allocation of the slab. -/
theorem append_overlaps {alignedSize offset : Nat}
    (unscanned : arena.canAppendWithoutScan alignedSize offset = true)
    (refused : arena.canPlace alignedSize offset = false)
    (fits : offset + alignedSize ≤ maxUInt64) :
    ∃ allocation ∈ arena.slabAllocations,
      offset < allocation.offset + allocation.size ∧
        allocation.offset < offset + alignedSize := by
  unfold canAppendWithoutScan at unscanned
  unfold canPlace at refused
  rw [Bool.and_eq_true] at unscanned
  rw [unscanned.1, Bool.true_and, List.all_eq_false] at refused
  obtain ⟨allocation, member, overlaps⟩ := refused
  rw [Bool.or_eq_true, decide_eq_true_eq, decide_eq_true_eq,
    wrap_of_fits fits, not_or] at overlaps
  have wraps : wrap (allocation.offset + allocation.size) ≤
      allocation.offset + allocation.size := Nat.mod_le _ _
  refine ⟨allocation, member, ?_, ?_⟩
  · omega
  · omega

/-- Aligning the size and the cursor does not wrap. -/
structure AlignsUp (arena : ResourceArena) (size alignment : Nat) :
    Prop where
  size : size + alignment - 1 ≤ maxUInt64
  cursor : arena.slabCursor + alignment - 1 ≤ maxUInt64

/-- An append that is not scanned is one that a scan accepts, and its end does
not wrap. -/
structure AppendsPast (arena : ResourceArena) (size alignment : Nat) :
    Prop where
  fits : alignUp arena.slabCursor alignment + alignUp size alignment ≤
    maxUInt64
  scanned :
    arena.canAppendWithoutScan (alignUp size alignment)
      (alignUp arena.slabCursor alignment) = true →
    arena.canPlace (alignUp size alignment)
      (alignUp arena.slabCursor alignment) = true

instance (arena : ResourceArena) (size alignment : Nat) :
    Decidable (AlignsUp arena size alignment) :=
  decidable_of_iff
    (size + alignment - 1 ≤ maxUInt64 ∧
      arena.slabCursor + alignment - 1 ≤ maxUInt64)
    ⟨fun fits => ⟨fits.1, fits.2⟩, fun aligns => ⟨aligns.1, aligns.2⟩⟩

instance (arena : ResourceArena) (size alignment : Nat) :
    Decidable (AppendsPast arena size alignment) :=
  decidable_of_iff
    (alignUp arena.slabCursor alignment + alignUp size alignment ≤
        maxUInt64 ∧
      (arena.canAppendWithoutScan (alignUp size alignment)
          (alignUp arena.slabCursor alignment) = true →
        arena.canPlace (alignUp size alignment)
          (alignUp arena.slabCursor alignment) = true))
    ⟨fun past => ⟨past.1, past.2⟩, fun past => ⟨past.1, past.2⟩⟩

theorem rotate_cursor {minimum seqId : Nat}
    (rotates : (arena.rotateSlabUnlocked config minimum seqId).2 = true) :
    (arena.rotateSlabUnlocked config minimum seqId).1.slabCursor = 0 := by
  unfold rotateSlabUnlocked ensureSlabUnlocked at rotates ⊢
  dsimp only at rotates ⊢
  rw [newBuffer_eq] at rotates ⊢
  split at rotates
  · rfl
  · exact nomatch rotates

theorem alignUp_zero {power : Nat} (fits : 2 ^ power - 1 ≤ maxUInt64) :
    alignUp 0 (2 ^ power) = 0 := by
  have positive : 0 < 2 ^ power := Nat.two_pow_pos power
  rw [alignUp_eq (by omega), Nat.zero_add,
    Nat.div_eq_of_lt (Nat.sub_lt positive Nat.one_pos), Nat.zero_mul]

/-- What a place in the slab leaves, and what is left without one. -/
def Placed (completed last seqId size alignment : Nat)
    (issued : List IssuedSlice) : ResourceArena × Option Nat → Prop
  | (placed, some offset) =>
      Ok completed seqId placed
        (issued ++ issuedSlices
          [{ buffer := placed.slab.map (·.buffer)
             offset := offset
             size := size }] alignment seqId completed)
  | (rotated, none) => Ok completed last rotated issued

theorem Ok.place (ok : Ok completed last arena issued)
    (some : arena.slab ≠ none) {size power seqId : Nat}
    (later : last ≤ seqId) (aligns : AlignsUp arena size (2 ^ power))
    (past : AppendsPast arena size (2 ^ power)) :
    Placed completed last seqId size (2 ^ power) issued
      (arena.place config (alignUp size (2 ^ power)) (2 ^ power) seqId) := by
  have rounded := le_alignUp aligns.size
  have sizeFits : alignUp size (2 ^ power) ≤ maxUInt64 :=
    Nat.le_trans (Nat.le_add_left _ _) past.fits
  have cut : ∀ {world : ResourceArena} {offset : Nat},
      Ok completed last world issued → world.slab ≠ none →
      2 ^ power ∣ offset →
      offset + alignUp size (2 ^ power) ≤ maxUInt64 →
      world.canPlace (alignUp size (2 ^ power)) offset = true →
      Placed completed last seqId size (2 ^ power) issued
        (world.append offset (alignUp size (2 ^ power)) seqId,
          .some offset) := by
    intro world offset ok some aligned fits places
    obtain ⟨slab, isSlab⟩ := Option.ne_none_iff_exists'.mp some
    have cuts := ok.append isSlab later rounded aligned fits places
    unfold Placed
    dsimp only
    have same : (world.append offset (alignUp size (2 ^ power)) seqId).slab =
        world.slab := rfl
    rw [same, isSlab]
    exact cuts
  unfold ResourceArena.place
  dsimp only
  split
  case isTrue accepted =>
    apply cut ok some (dvd_alignUp aligns.cursor) past.fits
    rcases accepted with unscanned | scanned
    · exact past.scanned unscanned
    · exact scanned
  case isFalse refused =>
    split
    case isTrue atStart =>
      exact cut ok some (Nat.dvd_zero _) (by omega) atStart
    case isFalse full =>
      obtain ⟨rotatedOk, rotatedSome⟩ := @Ok.rotate config _ _ _ _ ok seqId
        later (alignUp size (2 ^ power))
      split
      case isTrue failed => exact rotatedOk
      case isFalse rotates =>
        rw [Bool.not_eq_false] at rotates
        have start : alignUp (arena.rotateSlabUnlocked config
            (alignUp size (2 ^ power)) seqId).1.slabCursor (2 ^ power) =
              0 := by
          rw [rotate_cursor rotates]
          apply alignUp_zero
          exact Nat.le_trans (by omega) aligns.size
        rw [start]
        split
        case isTrue refused => exact rotatedOk
        case isFalse places =>
          rw [Bool.not_eq_false] at places
          exact cut rotatedOk (rotatedSome rotates) (Nat.dvd_zero _)
            (by omega) places

/-- A property of the arena that a place is looked for in, if one is. -/
def PlaceMeets (property : ResourceArena → Nat → Nat → Prop)
    (config : ArenaConfig) (arena : ResourceArena) (size alignment : Nat) :
    Prop :=
  config.forceDedicatedTransientUploads = false →
    (arena.ensureSlabUnlocked config (alignUp size alignment)).2 = true →
      property (arena.ensureSlabUnlocked config (alignUp size alignment)).1
        size alignment

instance (property : ResourceArena → Nat → Nat → Prop)
    [∀ arena size alignment, Decidable (property arena size alignment)]
    (config : ArenaConfig) (arena : ResourceArena) (size alignment : Nat) :
    Decidable (PlaceMeets property config arena size alignment) :=
  inferInstanceAs (Decidable (_ → _ → _))

theorem Ok.allocate (ok : Ok completed last arena issued)
    {size power seqId : Nat} (later : last ≤ seqId) (mapped : Bool)
    (aligns : PlaceMeets AlignsUp config arena size (2 ^ power))
    (past : PlaceMeets AppendsPast config arena size (2 ^ power)) :
    Ok completed seqId
      (arena.allocate config mapped size (2 ^ power) seqId).1
      (issued ++ issuedSlices
        [(arena.allocate config mapped size (2 ^ power) seqId).2]
        (2 ^ power) seqId completed) := by
  unfold ResourceArena.allocate
  split
  · exact ok.dedicated later mapped size (2 ^ power)
  rename_i shared
  rw [Bool.not_eq_true] at shared
  obtain ⟨ensuredOk, ensuredSome⟩ :=
    @Ok.ensure config _ _ _ _ ok (alignUp size (2 ^ power))
  dsimp only
  split
  · exact ensuredOk.dedicated later mapped size (2 ^ power)
  rename_i ensured
  rw [Bool.not_eq_false] at ensured
  have placed := @Ok.place config _ _ _ _ ensuredOk (ensuredSome ensured)
    size power seqId later (aligns shared ensured) (past shared ensured)
  split
  · rename_i arena' offset result
    rw [result] at placed
    exact placed
  · rename_i rotated result
    rw [result] at placed
    exact placed.dedicated later mapped size (2 ^ power)

end Dxmt9.Transient
