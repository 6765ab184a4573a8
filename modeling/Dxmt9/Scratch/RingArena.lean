import Dxmt9.Transition.Run
import Mathlib.Tactic.FinCases
import Dxmt9.Memory.MachineArithmetic

/-!
# The ring arena

A bump allocator over one vector of bytes.  A region carries the sequence
number it was asked for, and goes when that number has completed.  A place is
looked for behind the last region, then at the start of the storage.
-/

namespace Dxmt9.Scratch

/-- A sum of machine words. -/
def wrap (value : Nat) : Nat := value % 2 ^ 64

def alignUp (value alignment : Nat) : Nat :=
  if alignment ≤ 1 then value
  else wrap (value + alignment - 1) &&& ((2 ^ 64 - 1) ^^^ (alignment - 1))

/-- The bytes behind an arena: where they are, and how many.  A vector has at
most as many as a signed word counts. -/
structure Storage where
  address : Nat
  size : Nat
  vector : size < 2 ^ 63

structure Allocation where
  offset : Nat
  size : Nat
  seqId : Nat
deriving DecidableEq

structure RingArena where
  storage : Storage
  cursor : Nat := 0
  allocations : List Allocation := []

namespace RingArena

/-- The end of a region. -/
def regionEnd (allocation : Allocation) : Nat :=
  wrap (allocation.offset + allocation.size)

/-- The loop of a reclaim: the regions that go, oldest first, and the cursor
behind the furthest of them. -/
def dropCompleted (completedSeqId : Nat) :
    Nat → List Allocation → Nat × List Allocation
  | cursor, [] => (cursor, [])
  | cursor, front :: rest =>
      if front.seqId ≤ completedSeqId then
        dropCompleted completedSeqId (max cursor (regionEnd front)) rest
      else (cursor, front :: rest)

def reclaim (arena : RingArena) (completedSeqId : Nat) : RingArena :=
  let dropped := dropCompleted completedSeqId arena.cursor arena.allocations
  { arena with
    cursor := if dropped.2.isEmpty then 0 else dropped.1
    allocations := dropped.2 }

/-- A region at an offset is inside the storage and meets no other one. -/
def canPlace (arena : RingArena) (alignedSize offset : Nat) : Bool :=
  decide (wrap (offset + alignedSize) ≤ arena.storage.size) &&
    arena.allocations.all fun allocation =>
      decide (wrap (offset + alignedSize) ≤ allocation.offset) ||
        decide (regionEnd allocation ≤ offset)

def push (arena : RingArena) (offset alignedSize seqId : Nat) : RingArena :=
  { arena with
    cursor := wrap (offset + alignedSize)
    allocations := arena.allocations ++
      [{ offset := offset, size := alignedSize, seqId := seqId }] }

/-- Where a region goes: behind the cursor, or at the start. -/
def place (arena : RingArena) (alignedSize alignment : Nat) : Option Nat :=
  let offset := alignUp arena.cursor alignment
  if arena.canPlace alignedSize offset then some offset
  else if arena.canPlace alignedSize 0 then some 0
  else none

/-- The offset behind the address of the storage, or nothing. -/
def allocateBytes (arena : RingArena) (size alignment seqId : Nat) :
    RingArena × Option Nat :=
  if size = 0 ∨ arena.storage.size = 0 then (arena, none)
  else
    let alignedSize := alignUp size alignment
    if arena.storage.size < alignedSize then (arena, none)
    else
      match arena.place alignedSize alignment with
      | some offset => (arena.push offset alignedSize seqId, some offset)
      | none => (arena, none)

end RingArena

inductive RingCall where
  | allocate (size alignment seqId : Nat)
  | reclaim (completedSeqId : Nat)
deriving DecidableEq

/-- A region that was handed out, with what it was asked for and with the last
watermark that was reclaimed by then. -/
structure IssuedRegion where
  offset : Nat
  size : Nat
  alignment : Nat
  seqId : Nat
  watermark : Option Nat
deriving DecidableEq

/-- An arena with everything it handed out and the last watermark. -/
structure RingRun where
  arena : RingArena
  issued : List IssuedRegion := []
  watermark : Option Nat := none

def RingRun.step (run : RingRun) : RingCall → RingRun
  | .allocate size alignment seqId =>
      let allocated := run.arena.allocateBytes size alignment seqId
      { run with
        arena := allocated.1
        issued := run.issued ++ allocated.2.toList.map fun offset =>
          { offset := offset
            size := size
            alignment := alignment
            seqId := seqId
            watermark := run.watermark } }
  | .reclaim completedSeqId =>
      { run with
        arena := run.arena.reclaim completedSeqId
        watermark := some completedSeqId }

def runRing (storage : Storage) (calls : List RingCall) : RingRun :=
  Transition.run RingRun.step { arena := { storage := storage } } calls

/-- A number is above the last watermark; every one is before the first. -/
def Above (watermark : Option Nat) (seqId : Nat) : Prop :=
  ∀ completed ∈ watermark, completed < seqId

/-- The watermarks that a list of calls reclaims. -/
def watermarks (calls : List RingCall) : List Nat :=
  calls.filterMap fun
    | .allocate _ _ _ => none
    | .reclaim completedSeqId => some completedSeqId

/-- An alignment is a power of two that fits into a word. -/
def RingCall.PowerAligned : RingCall → Prop
  | .allocate size alignment _ =>
      size < 2 ^ 64 ∧ ∃ power < 64, alignment = 2 ^ power
  | .reclaim _ => True

/-- The size is rounded up to the alignment without leaving a word. -/
def RingCall.RoundsUp : RingCall → Prop
  | .allocate size alignment _ => size + alignment - 1 < 2 ^ 64
  | .reclaim _ => True

end Dxmt9.Scratch

/-!
## Regions of a ring arena

What is above the last watermark is still listed, and a new region is checked
against all that is listed, so regions in flight never meet.  The check is by
words; it is exact as long as the size of the region is rounded up within a
word.
-/

namespace Dxmt9.Scratch

open Memory RingArena

variable {value : Nat}

theorem wrap_of_lt (fits : value < 2 ^ 64) : wrap value = value :=
  Nat.mod_eq_of_lt fits

variable {power : Nat}

theorem alignUp_eq (low : power < 64)
    (fits : value + 2 ^ power - 1 < 2 ^ 64) :
    alignUp value (2 ^ power) =
      (value + 2 ^ power - 1) / 2 ^ power * 2 ^ power := by
  unfold alignUp
  split
  · have positive : 0 < 2 ^ power := Nat.two_pow_pos power
    have one : 2 ^ power = 1 := by omega
    rw [one, Nat.div_one, Nat.mul_one, Nat.add_sub_cancel]
  · rw [wrap_of_lt fits, and_complement_mask fits (Nat.le_of_lt low)]

/-- What a value is rounded up to: the next multiple. -/
structure RoundedUp (value power aligned : Nat) : Prop where
  multiple : 2 ^ power ∣ aligned
  above : value ≤ aligned
  next : aligned < value + 2 ^ power

theorem alignUp_rounded (low : power < 64)
    (fits : value + 2 ^ power - 1 < 2 ^ 64) :
    RoundedUp value power (alignUp value (2 ^ power)) := by
  have positive : 0 < 2 ^ power := Nat.two_pow_pos power
  have parts := Nat.div_add_mod (value + 2 ^ power - 1) (2 ^ power)
  have small := Nat.mod_lt (value + 2 ^ power - 1) positive
  rw [alignUp_eq low fits, Nat.mul_comm]
  constructor
  · exact Nat.dvd_mul_right _ _
  · omega
  · omega

variable {limit : Nat}

theorem RoundedUp.le_power {aligned : Nat}
    (rounded : RoundedUp value power aligned)
    (low : power ≤ limit) (small : value ≤ 2 ^ limit) :
    aligned ≤ 2 ^ limit := by
  obtain ⟨count, rfl⟩ := rounded.multiple
  obtain ⟨more, bound⟩ := Nat.pow_dvd_pow 2 low
  have next := rounded.next
  rw [bound] at small ⊢
  apply Nat.mul_le_mul_left
  by_contra beyond
  have further : 2 ^ power * (more + 1) ≤ 2 ^ power * count :=
    Nat.mul_le_mul_left _ (Nat.lt_of_not_le beyond)
  rw [Nat.mul_add_one] at further
  omega

/-- The later region was cut while the earlier one was above the watermark:
they do not overlap. -/
def Apart (earlier later : IssuedRegion) : Prop :=
  Above later.watermark earlier.seqId →
    earlier.offset + earlier.size ≤ later.offset ∨
      later.offset + later.size ≤ earlier.offset

/-- The listed region that keeps the place of one that was handed out. -/
def Held (allocations : List Allocation) (region : IssuedRegion) : Prop :=
  ∃ allocation ∈ allocations, allocation.offset = region.offset ∧
    region.size ≤ allocation.size ∧ allocation.seqId = region.seqId

structure Ok (run : RingRun) : Prop where
  cursor : run.arena.cursor ≤ run.arena.storage.size
  fits : ∀ allocation ∈ run.arena.allocations,
    allocation.offset + allocation.size ≤ run.arena.storage.size
  inside : ∀ region ∈ run.issued,
    region.offset + region.size ≤ run.arena.storage.size
  aligned : ∀ region ∈ run.issued, region.alignment ∣ region.offset
  held : ∀ region ∈ run.issued, Above run.watermark region.seqId →
    Held run.arena.allocations region
  apart : run.issued.Pairwise Apart

variable {run : RingRun} {arena : RingArena}

variable {completed cursor : Nat} {allocations : List Allocation}
  {allocation : Allocation}

/-- Reclaiming drops regions from the front, none above the watermark. -/
theorem dropCompleted_mem
    (member : allocation ∈ allocations)
    (above : completed < allocation.seqId) :
    allocation ∈ (dropCompleted completed cursor allocations).2 := by
  induction allocations generalizing cursor with
  | nil => exact nomatch member
  | cons front rest induction =>
      rw [dropCompleted]
      split
      · rename_i dropped
        rcases List.mem_cons.mp member with same | behind
        · rw [same] at above
          exact absurd dropped (Nat.not_le_of_lt above)
        · exact induction behind
      · exact member

theorem dropCompleted_subset :
    (dropCompleted completed cursor allocations).2 ⊆ allocations := by
  induction allocations generalizing cursor with
  | nil => exact fun _ member => member
  | cons front rest induction =>
      rw [dropCompleted]
      split
      · exact fun _ member => List.mem_cons_of_mem _ (induction member)
      · exact fun _ member => member

theorem dropCompleted_cursor (inside : cursor ≤ limit)
    (ends : ∀ allocation ∈ allocations, regionEnd allocation ≤ limit) :
    (dropCompleted completed cursor allocations).1 ≤ limit := by
  induction allocations generalizing cursor with
  | nil => exact inside
  | cons front rest induction =>
      rw [dropCompleted]
      split
      · apply induction
        · exact Nat.max_le.mpr ⟨inside, ends front List.mem_cons_self⟩
        · exact fun allocation member =>
            ends allocation (List.mem_cons_of_mem _ member)
      · exact inside

/-- No region above the watermark goes. -/
theorem reclaim_keeps
    (member : allocation ∈ arena.allocations)
    (above : completed < allocation.seqId) :
    allocation ∈ (arena.reclaim completed).allocations :=
  dropCompleted_mem member above

variable {storage : Storage}

theorem regionEnd_eq
    (fits : allocation.offset + allocation.size ≤ storage.size) :
    regionEnd allocation = allocation.offset + allocation.size := by
  have vector := storage.vector
  exact wrap_of_lt (by omega)

theorem Ok.reclaim (ok : Ok run)
    (later : ∀ earlier ∈ run.watermark, earlier ≤ completed) :
    Ok (run.step (.reclaim completed)) where
  cursor := by
    have ends : ∀ allocation ∈ run.arena.allocations,
        regionEnd allocation ≤ run.arena.storage.size := by
      intro allocation member
      rw [regionEnd_eq (ok.fits allocation member)]
      exact ok.fits allocation member
    change (if _ then 0 else _) ≤ run.arena.storage.size
    split
    · exact Nat.zero_le _
    · exact dropCompleted_cursor ok.cursor ends
  fits := fun allocation member =>
    ok.fits allocation (dropCompleted_subset member)
  inside := ok.inside
  aligned := ok.aligned
  apart := ok.apart
  held := by
    intro region issued above
    have aboveBefore : Above run.watermark region.seqId := by
      intro earlier isEarlier
      exact Nat.lt_of_le_of_lt (later earlier isEarlier) (above _ rfl)
    obtain ⟨allocation, member, offset, size, seqId⟩ :=
      ok.held region issued aboveBefore
    refine ⟨allocation, reclaim_keeps member ?_, offset, size, seqId⟩
    rw [seqId]
    exact above _ rfl

/-- What a place that was found is: a multiple of the alignment inside of the
storage, apart from all regions that are listed. -/
structure Placed (arena : RingArena) (alignedSize power offset : Nat) :
    Prop where
  multiple : 2 ^ power ∣ offset
  inside : offset + alignedSize ≤ arena.storage.size
  apart : ∀ allocation ∈ arena.allocations,
    offset + alignedSize ≤ allocation.offset ∨
      allocation.offset + allocation.size ≤ offset

variable {alignedSize offset : Nat}

theorem canPlace_apart
    (fits : ∀ allocation ∈ arena.allocations,
      allocation.offset + allocation.size ≤ arena.storage.size)
    (inWord : offset + alignedSize < 2 ^ 64)
    (places : arena.canPlace alignedSize offset = true) :
    offset + alignedSize ≤ arena.storage.size ∧
      ∀ allocation ∈ arena.allocations,
        offset + alignedSize ≤ allocation.offset ∨
          allocation.offset + allocation.size ≤ offset := by
  rw [canPlace, wrap_of_lt inWord, Bool.and_eq_true,
    decide_eq_true_eq, List.all_eq_true] at places
  refine ⟨places.1, fun allocation member => ?_⟩
  have apart := places.2 allocation member
  rw [Bool.or_eq_true, decide_eq_true_eq, decide_eq_true_eq,
    regionEnd_eq (fits allocation member)] at apart
  exact apart

/-- A size that is no less than its alignment leaves no room for the place of
the cursor to wrap. -/
theorem place_inWord
    (low : power < 64) (inside : cursor ≤ storage.size)
    (size : alignedSize ≤ storage.size) (large : 2 ^ power ≤ alignedSize) :
    2 ^ power ∣ alignUp cursor (2 ^ power) ∧
      alignUp cursor (2 ^ power) + alignedSize < 2 ^ 64 := by
  have vector := storage.vector
  have small : power ≤ 63 := by omega
  have room : cursor + 2 ^ power - 1 < 2 ^ 64 := by omega
  have rounded := alignUp_rounded low room
  have bounded := rounded.le_power small (by omega)
  exact ⟨rounded.multiple, by omega⟩

theorem place_placed
    (fits : ∀ allocation ∈ arena.allocations,
      allocation.offset + allocation.size ≤ arena.storage.size)
    (cursor : arena.cursor ≤ arena.storage.size)
    (low : power < 64) (size : alignedSize ≤ arena.storage.size)
    (large : 2 ^ power ≤ alignedSize)
    (found : arena.place alignedSize (2 ^ power) = some offset) :
    Placed arena alignedSize power offset := by
  have vector := arena.storage.vector
  have behind := place_inWord low cursor size large
  simp only [place] at found
  split at found
  · rename_i places
    cases found
    have apart := canPlace_apart fits behind.2 places
    exact ⟨behind.1, apart.1, apart.2⟩
  · split at found
    · rename_i places
      cases found
      have apart := canPlace_apart fits (by omega) places
      exact ⟨Nat.dvd_zero _, apart.1, apart.2⟩
    · cases found

/-- What an allocation does: nothing, or it puts a region of the rounded size
into a place that was found. -/
theorem allocateBytes_cases (arena : RingArena)
    (size alignment seqId : Nat) :
    arena.allocateBytes size alignment seqId = (arena, none) ∨
      ∃ offset, 0 < size ∧ alignUp size alignment ≤ arena.storage.size ∧
        arena.place (alignUp size alignment) alignment = some offset ∧
        arena.allocateBytes size alignment seqId =
          (arena.push offset (alignUp size alignment) seqId, some offset) := by
  simp only [allocateBytes]
  split
  · exact .inl rfl
  · rename_i asked
    split
    · exact .inl rfl
    · rename_i fits
      cases found : arena.place (alignUp size alignment) alignment with
      | none => exact .inl rfl
      | some offset =>
          exact .inr ⟨offset, by omega, Nat.le_of_not_lt fits, rfl, rfl⟩

/-- The run behind an allocation that was given a place. -/
def RingRun.issue (run : RingRun) (offset size alignment seqId : Nat) :
    RingRun :=
  { run with
    arena := run.arena.push offset (alignUp size alignment) seqId
    issued := run.issued ++
      [{ offset := offset
         size := size
         alignment := alignment
         seqId := seqId
         watermark := run.watermark }] }

variable {size seqId : Nat}

theorem Ok.issue (ok : Ok run) (within : size ≤ alignUp size (2 ^ power))
    (placed : Placed run.arena (alignUp size (2 ^ power)) power offset) :
    Ok (run.issue offset size (2 ^ power) seqId) where
  cursor := by
    have inside := placed.inside
    have vector := run.arena.storage.vector
    change wrap (offset + alignUp size (2 ^ power)) ≤ run.arena.storage.size
    rw [wrap_of_lt (by omega)]
    exact inside
  fits := by
    intro allocation member
    rcases List.mem_append.mp member with before | new
    · exact ok.fits allocation before
    · rw [List.mem_singleton.mp new]
      exact placed.inside
  inside := by
    intro region member
    rcases List.mem_append.mp member with before | new
    · exact ok.inside region before
    · rw [List.mem_singleton.mp new]
      exact Nat.le_trans (Nat.add_le_add_left within offset) placed.inside
  aligned := by
    intro region member
    rcases List.mem_append.mp member with before | new
    · exact ok.aligned region before
    · rw [List.mem_singleton.mp new]
      exact placed.multiple
  held := by
    intro region member above
    rcases List.mem_append.mp member with before | new
    · obtain ⟨allocation, listed, same⟩ := ok.held region before above
      exact ⟨allocation, List.mem_append_left _ listed, same⟩
    · rw [List.mem_singleton.mp new]
      exact ⟨_, List.mem_append_right _ List.mem_cons_self, rfl, within, rfl⟩
  apart := by
    apply List.pairwise_append.mpr
    refine ⟨ok.apart, List.pairwise_singleton _ _, ?_⟩
    intro earlier issued later new above
    rw [List.mem_singleton.mp new] at above ⊢
    obtain ⟨allocation, listed, place, size, -⟩ := ok.held earlier issued above
    have apart := placed.apart allocation listed
    dsimp only
    omega

theorem Ok.allocate (ok : Ok run)
    (low : power < 64) (fits : size + 2 ^ power - 1 < 2 ^ 64) :
    Ok (run.step (.allocate size (2 ^ power) seqId)) := by
  have rounded := alignUp_rounded low fits
  rcases allocateBytes_cases run.arena size (2 ^ power) seqId with
    refused | ⟨offset, asked, small, found, allocated⟩
  · have same : run.step (.allocate size (2 ^ power) seqId) = run := by
      simp only [RingRun.step, refused, Option.toList_none, List.map_nil,
        List.append_nil]
    rw [same]
    exact ok
  · have large : 2 ^ power ≤ alignUp size (2 ^ power) :=
      Nat.le_of_dvd (Nat.lt_of_lt_of_le asked rounded.above) rounded.multiple
    have issues : run.step (.allocate size (2 ^ power) seqId) =
        run.issue offset size (2 ^ power) seqId := by
      simp only [RingRun.step, allocated]
      rfl
    rw [issues]
    exact ok.issue rounded.above
      (place_placed ok.fits ok.cursor low small large found)

theorem ok_initial (storage : Storage) :
    Ok { arena := { storage := storage } } where
  cursor := Nat.zero_le _
  fits := fun _ member => nomatch member
  inside := fun _ member => nomatch member
  aligned := fun _ member => nomatch member
  held := fun _ member => nomatch member
  apart := .nil

theorem Ok.runCalls (ok : Ok run) {calls : List RingCall}
    (ordered : (run.watermark.toList ++ watermarks calls).Pairwise (· ≤ ·))
    (aligned : ∀ call ∈ calls, call.PowerAligned)
    (rounds : ∀ call ∈ calls, call.RoundsUp) :
    Ok (Transition.run RingRun.step run calls) := by
  induction calls generalizing run with
  | nil => exact ok
  | cons call rest induction =>
      have alignedRest := fun other member =>
        aligned other (List.mem_cons_of_mem call member)
      have roundsRest := fun other member =>
        rounds other (List.mem_cons_of_mem call member)
      cases call with
      | allocate size alignment seqId =>
          obtain ⟨-, power, low, rfl⟩ := aligned _ List.mem_cons_self
          have fits := rounds _ List.mem_cons_self
          exact induction (ok.allocate low fits) ordered alignedRest roundsRest
      | reclaim completed =>
          have later : ∀ earlier ∈ run.watermark, earlier ≤ completed := by
            intro earlier isEarlier
            exact (List.pairwise_append.mp ordered).2.2 earlier
              (Option.mem_toList.mpr isEarlier) completed List.mem_cons_self
          exact induction (ok.reclaim later)
            (List.pairwise_append.mp ordered).2.1 alignedRest roundsRest

/-- What a ring arena promises after a run: regions are inside of the storage
and aligned, and so is the pointer where the storage itself is; a region and
one cut while it was above the watermark do not overlap; a reclaim leaves every
region above its watermark listed. -/
structure RingSafe (run : RingRun) : Prop where
  inside : ∀ region ∈ run.issued,
    region.offset + region.size ≤ run.arena.storage.size
  aligned : ∀ region ∈ run.issued, region.alignment ∣ region.offset ∧
    (region.alignment ∣ run.arena.storage.address + region.offset ↔
      region.alignment ∣ run.arena.storage.address)
  apart : run.issued.Pairwise Apart
  held : ∀ region ∈ run.issued, Above run.watermark region.seqId →
    Held run.arena.allocations region
  kept : ∀ completed, ∀ allocation ∈ run.arena.allocations,
    completed < allocation.seqId →
      allocation ∈ (run.arena.reclaim completed).allocations

theorem Ok.safe (ok : Ok run) : RingSafe run where
  inside := ok.inside
  aligned := fun region issued =>
    ⟨ok.aligned region issued,
      (Nat.dvd_add_iff_left (ok.aligned region issued)).symm⟩
  apart := ok.apart
  held := ok.held
  kept := fun _ _ listed above => reclaim_keeps listed above

/-- In every run whose sizes are rounded up within a word the regions are
safe. -/
theorem ringArena_safe (storage : Storage) (calls : List RingCall)
    (ordered : (watermarks calls).Pairwise (· ≤ ·))
    (aligned : ∀ call ∈ calls, call.PowerAligned)
    (rounds : ∀ call ∈ calls, call.RoundsUp) :
    RingSafe (runRing storage calls) :=
  ((ok_initial storage).runCalls ordered aligned rounds).safe

/-- Two regions, a reclaim of the first one and a region in its place. -/
def wrappedCalls : List RingCall :=
  [.allocate 40 16 1, .allocate 16 16 2, .reclaim 1, .allocate 30 8 3]

theorem ringArena_safe_wrapped :
    RingSafe (runRing ⟨4096, 64, by decide⟩ wrappedCalls) :=
  ringArena_safe _ _ (by decide)
    (by
      intro call member
      fin_cases member
      · exact ⟨by decide, 4, by decide, rfl⟩
      · exact ⟨by decide, 4, by decide, rfl⟩
      · exact trivial
      · exact ⟨by decide, 3, by decide, rfl⟩)
    (by
      intro call member
      fin_cases member
      · exact (by decide : (40 + 16 - 1 : Nat) < 2 ^ 64)
      · exact (by decide : (16 + 16 - 1 : Nat) < 2 ^ 64)
      · exact trivial
      · exact (by decide : (30 + 8 - 1 : Nat) < 2 ^ 64))

/-- A request for all bytes there can be is rounded up to none, and gets a
place in a storage of sixty-four. -/
theorem ringArena_oversize :
    (runRing ⟨4096, 64, by decide⟩
        [.allocate (2 ^ 64 - 1) 16 1]).issued =
      [{ offset := 0, size := 2 ^ 64 - 1, alignment := 16, seqId := 1,
         watermark := none }] ∧
    ¬ RingSafe (runRing ⟨4096, 64, by decide⟩
        [.allocate (2 ^ 64 - 1) 16 1]) := by
  have issued : (runRing ⟨4096, 64, by decide⟩
      [.allocate (2 ^ 64 - 1) 16 1]).issued =
        [{ offset := 0, size := 2 ^ 64 - 1, alignment := 16, seqId := 1,
           watermark := none }] := by
    decide +kernel
  refine ⟨issued, fun safe => ?_⟩
  have inside := safe.inside
  rw [issued] at inside
  exact absurd (inside _ List.mem_cons_self) (by decide +kernel)

end Dxmt9.Scratch
