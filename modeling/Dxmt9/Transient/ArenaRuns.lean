import Dxmt9.Transient.ArenaSafety

/-!
# Runs of the transient arena

Calls come with sequence numbers and completed values that do not decrease.
A batch does what its uploads do one after another, and as long as no append
passes over an allocation, the slices in flight stay apart and alive.
-/

namespace Dxmt9.Transient

open ResourceArena

variable {config : ArenaConfig} {arena : ResourceArena}
  {issued : List IssuedSlice} {completed last : Nat}

/-! ## Calls -/

def ArenaCall.alignment? : ArenaCall → Option Nat
  | .uploadBuffer _ alignment _ _ => some alignment
  | .uploadBufferBatch _ alignment _ _ => some alignment
  | .reserveBuffer _ alignment _ _ => some alignment
  | .reclaim _ => none

/-- A call asks for an alignment that is a power of two. -/
def ArenaCall.PowerOfTwo (call : ArenaCall) : Prop :=
  ∀ alignment ∈ call.alignment?, 2 ^ alignment.log2 = alignment

instance (call : ArenaCall) : Decidable call.PowerOfTwo :=
  inferInstanceAs (Decidable (∀ _ ∈ call.alignment?, _ = _))

/-- A property of every place that the loop of a batch looks for. -/
def PlacesMeet (property : ResourceArena → Nat → Nat → Prop)
    (config : ArenaConfig) (alignment seqId : Nat) :
    ResourceArena → List Nat → Prop
  | _, [] => True
  | arena, size :: rest =>
      if size = 0 then
        PlacesMeet property config alignment seqId arena rest
      else
        PlaceMeets property config arena size alignment ∧
        PlacesMeet property config alignment seqId
          (arena.allocate config false size alignment seqId).1 rest

/-- A property of every place that a call looks for, in the arena behind its
reclaim. -/
def CallMeets (property : ResourceArena → Nat → Nat → Prop)
    (config : ArenaConfig) (arena : ResourceArena) : ArenaCall → Prop
  | .uploadBuffer size alignment _ completed =>
      PlaceMeets property config (arena.reclaimUnlocked completed) size
        (max alignment 1)
  | .uploadBufferBatch sizes alignment seqId completed =>
      PlacesMeet property config (max alignment 1) seqId
        (arena.reclaimUnlocked completed) sizes
  | .reserveBuffer size alignment _ completed =>
      PlaceMeets property config (arena.reclaimUnlocked completed) size
        (max alignment 1)
  | .reclaim _ => True

/-- A property of every place that the calls of a run look for. -/
def RunMeets (property : ResourceArena → Nat → Nat → Prop)
    (config : ArenaConfig) : ArenaRun → List ArenaCall → Prop
  | _, [] => True
  | run, call :: rest =>
      CallMeets property config run.arena call ∧
        RunMeets property config (run.step config call) rest

instance decidablePlacesMeet (property : ResourceArena → Nat → Nat → Prop)
    [∀ arena size alignment, Decidable (property arena size alignment)]
    (config : ArenaConfig) (alignment seqId : Nat) :
    ∀ (arena : ResourceArena) (sizes : List Nat),
      Decidable (PlacesMeet property config alignment seqId arena sizes)
  | _, [] => isTrue trivial
  | arena, size :: rest =>
      have := decidablePlacesMeet property config alignment seqId arena rest
      have := decidablePlacesMeet property config alignment seqId
        (arena.allocate config false size alignment seqId).1 rest
      inferInstanceAs (Decidable (if size = 0 then
        PlacesMeet property config alignment seqId arena rest
      else
        PlaceMeets property config arena size alignment ∧
        PlacesMeet property config alignment seqId
          (arena.allocate config false size alignment seqId).1 rest))

instance decidableCallMeets (property : ResourceArena → Nat → Nat → Prop)
    [∀ arena size alignment, Decidable (property arena size alignment)]
    (config : ArenaConfig) (arena : ResourceArena) :
    ∀ call : ArenaCall, Decidable (CallMeets property config arena call)
  | .uploadBuffer size alignment _ completed =>
      inferInstanceAs (Decidable (PlaceMeets property config
        (arena.reclaimUnlocked completed) size (max alignment 1)))
  | .uploadBufferBatch sizes alignment seqId completed =>
      inferInstanceAs (Decidable (PlacesMeet property config
        (max alignment 1) seqId (arena.reclaimUnlocked completed) sizes))
  | .reserveBuffer size alignment _ completed =>
      inferInstanceAs (Decidable (PlaceMeets property config
        (arena.reclaimUnlocked completed) size (max alignment 1)))
  | .reclaim _ => isTrue trivial

instance decidableRunMeets (property : ResourceArena → Nat → Nat → Prop)
    [∀ arena size alignment, Decidable (property arena size alignment)]
    (config : ArenaConfig) :
    ∀ (run : ArenaRun) (calls : List ArenaCall),
      Decidable (RunMeets property config run calls)
  | _, [] => isTrue trivial
  | run, call :: rest =>
      have := decidableRunMeets property config (run.step config call) rest
      inferInstanceAs (Decidable (CallMeets property config run.arena call ∧
        RunMeets property config (run.step config call) rest))

/-- Sequence numbers and completed values do not decrease. -/
structure InOrder (calls : List ArenaCall) : Prop where
  completed : calls.Pairwise fun earlier later =>
    earlier.completedSeqId ≤ later.completedSeqId
  seqIds : (calls.filterMap ArenaCall.seqId?).Pairwise (· ≤ ·)

theorem Ok.advance {value : Nat} (ok : Ok completed last arena issued)
    (later : completed ≤ value) : Ok value last arena issued :=
  { ok with
    held := fun slice member inFlight =>
      ok.held slice member (Nat.lt_of_le_of_lt later inFlight) }

theorem issuedSlices_cons (slice : BufferSlice) (slices : List BufferSlice)
    (alignment seqId completed : Nat) :
    issuedSlices (slice :: slices) alignment seqId completed =
      issuedSlices [slice] alignment seqId completed ++
        issuedSlices slices alignment seqId completed :=
  @List.filterMap_append _ _ [slice] slices _

theorem Ok.allocateAll {power seqId : Nat} (sizes : List Nat)
    (ok : Ok completed last arena issued) (later : last ≤ seqId)
    (aligns : PlacesMeet AlignsUp config (2 ^ power) seqId arena sizes)
    (past : PlacesMeet AppendsPast config (2 ^ power) seqId arena sizes) :
    Ok completed seqId
      (allocateAll config (2 ^ power) seqId arena sizes).1
      (issued ++ issuedSlices
        (allocateAll config (2 ^ power) seqId arena sizes).2
        (2 ^ power) seqId completed) := by
  induction sizes generalizing arena issued last with
  | nil =>
      change Ok completed seqId arena (issued ++ [])
      rw [List.append_nil]
      exact ok.later later
  | cons size rest induction =>
      unfold ResourceArena.allocateAll
      unfold PlacesMeet at aligns past
      split
      case isTrue empty =>
        rw [if_pos empty] at aligns past
        exact induction ok later aligns past
      case isFalse some =>
        rw [if_neg some] at aligns past
        have one := @Ok.allocate config _ _ _ _ ok size power seqId later
          false aligns.1 past.1
        have others := induction one (Nat.le_refl _) aligns.2 past.2
        rw [List.append_assoc, ← issuedSlices_cons] at others
        exact others

variable {run : ArenaRun}

/-- One call whose places do not pass over an allocation. -/
theorem Ok.step {call : ArenaCall}
    (ok : Ok run.completedSeqId last run.arena run.issued)
    (completes : run.completedSeqId ≤ call.completedSeqId)
    (later : ∀ seqId, call.seqId? = some seqId → last ≤ seqId)
    (powers : call.PowerOfTwo)
    (aligns : CallMeets AlignsUp config run.arena call)
    (past : CallMeets AppendsPast config run.arena call) :
    Ok (run.step config call).completedSeqId (call.seqId?.getD last)
      (run.step config call).arena (run.step config call).issued := by
  have atLeast : ∀ power : Nat, max (2 ^ power) 1 = 2 ^ power :=
    fun power => Nat.max_eq_left (Nat.one_le_two_pow)
  cases call with
  | reclaim value => exact ok.reclaim completes
  | uploadBuffer size alignment seqId value =>
      obtain ⟨power, rfl⟩ : ∃ power, alignment = 2 ^ power :=
        ⟨_, (powers alignment rfl).symm⟩
      unfold CallMeets at aligns past
      dsimp only at aligns past
      unfold ArenaRun.step
      dsimp only
      unfold ResourceArena.uploadBuffer
      split
      · change Ok value seqId run.arena (run.issued ++ [])
        rw [List.append_nil]
        exact (ok.advance completes).later (later seqId rfl)
      · rw [atLeast] at aligns past ⊢
        exact (ok.reclaim completes).allocate (later seqId rfl) false aligns
          past
  | reserveBuffer size alignment seqId value =>
      obtain ⟨power, rfl⟩ : ∃ power, alignment = 2 ^ power :=
        ⟨_, (powers alignment rfl).symm⟩
      unfold CallMeets at aligns past
      dsimp only at aligns past
      unfold ArenaRun.step
      dsimp only
      unfold ResourceArena.reserveBuffer
      split
      · change Ok value seqId run.arena (run.issued ++ [])
        rw [List.append_nil]
        exact (ok.advance completes).later (later seqId rfl)
      · rw [atLeast] at aligns past ⊢
        exact (ok.reclaim completes).allocate (later seqId rfl) true aligns
          past
  | uploadBufferBatch sizes alignment seqId value =>
      obtain ⟨power, rfl⟩ : ∃ power, alignment = 2 ^ power :=
        ⟨_, (powers alignment rfl).symm⟩
      unfold CallMeets at aligns past
      dsimp only at aligns past
      unfold ArenaRun.step
      dsimp only
      unfold ResourceArena.uploadBufferBatch
      split
      · change Ok value seqId run.arena (run.issued ++ [])
        rw [List.append_nil]
        exact (ok.advance completes).later (later seqId rfl)
      · rw [atLeast] at aligns past ⊢
        exact (ok.reclaim completes).allocateAll sizes (later seqId rfl)
          aligns past

theorem emptyArena_ok : Ok 0 0 {} [] where
  slab := fun _ isSlab => nomatch isSlab
  vacant := fun _ => rfl
  fits := fun _ member => nomatch member
  known := fun _ member => nomatch member
  retired := fun _ member => nomatch member
  inside := fun _ member => nomatch member
  aligned := fun _ member => nomatch member
  recent := fun _ member => nomatch member
  held := fun _ member => nomatch member
  apart := List.Pairwise.nil

theorem ok_run {calls : List ArenaCall}
    (ok : Ok run.completedSeqId last run.arena run.issued)
    (completes : ∀ call ∈ calls, run.completedSeqId ≤ call.completedSeqId)
    (later : ∀ seqId ∈ calls.filterMap ArenaCall.seqId?, last ≤ seqId)
    (ordered : InOrder calls) (powers : ∀ call ∈ calls, call.PowerOfTwo)
    (aligns : RunMeets AlignsUp config run calls)
    (past : RunMeets AppendsPast config run calls) :
    ∃ final,
      Ok (Transition.run (ArenaRun.step config) run calls).completedSeqId
        final (Transition.run (ArenaRun.step config) run calls).arena
        (Transition.run (ArenaRun.step config) run calls).issued := by
  induction calls generalizing run last with
  | nil => exact ⟨last, ok⟩
  | cons call rest induction =>
      obtain ⟨completedBefore, completedRest⟩ :=
        List.pairwise_cons.mp ordered.completed
      have stepped := @Ok.step config _ run call ok
        (completes call List.mem_cons_self)
        (fun seqId isSeqId => later seqId
          (List.mem_filterMap.mpr ⟨call, List.mem_cons_self, isSeqId⟩))
        (powers call List.mem_cons_self) aligns.1 past.1
      have isCompleted : (run.step config call).completedSeqId =
          call.completedSeqId := by
        cases call <;> rfl
      have seqIds := ordered.seqIds
      rw [List.filterMap_cons] at seqIds
      refine @induction _ (run.step config call) stepped ?_ ?_ ?_ ?_
        aligns.2 past.2
      · intro other member
        rw [isCompleted]
        exact completedBefore other member
      · intro seqId member
        cases isSeqId : call.seqId? with
        | none =>
            exact later seqId (by
              rw [List.filterMap_cons_none isSeqId]
              exact member)
        | some first =>
            rw [isSeqId] at seqIds
            exact (List.pairwise_cons.mp seqIds).1 seqId member
      · refine ⟨completedRest, ?_⟩
        split at seqIds
        · exact seqIds
        · exact (List.pairwise_cons.mp seqIds).2
      · exact fun other member => powers other (List.mem_cons_of_mem _ member)

/-- What the arena promises about what it handed out. -/
structure SlicesSafe (run : ArenaRun) : Prop where
  inside : ∀ slice ∈ run.issued, Inside run.arena.buffers slice
  aligned : ∀ slice ∈ run.issued, slice.alignment ∣ slice.offset
  apart : run.issued.Pairwise Apart
  alive : ∀ slice ∈ run.issued, run.completedSeqId < slice.seqId →
    (∃ slab, run.arena.slab = some slab ∧ slab.buffer = slice.buffer) ∨
      ∃ retained ∈ run.arena.retainedBuffers,
        retained.buffer = slice.buffer

theorem Ok.slicesSafe
    (ok : Ok run.completedSeqId last run.arena run.issued) :
    SlicesSafe run where
  inside := ok.inside
  aligned := ok.aligned
  apart := ok.apart
  alive := by
    intro slice member inFlight
    rcases ok.held slice member inFlight with
      ⟨slab, isSlab, buffer, -⟩ | ⟨retained, isRetained, buffer, -⟩
    · exact Or.inl ⟨slab, isSlab, buffer⟩
    · exact Or.inr ⟨retained, isRetained, buffer⟩

theorem runMeets_front {property : ResourceArena → Nat → Nat → Prop} {front back : List ArenaCall}
    (meets : RunMeets property config run (front ++ back)) :
    RunMeets property config run front := by
  induction front generalizing run with
  | nil => exact trivial
  | cons call rest induction => exact ⟨meets.1, induction meets.2⟩

/-! ## Batches -/

/-- Nothing is left to reclaim. -/
structure Reclaimed (completed : Nat) (arena : ResourceArena) : Prop where
  allocations : ∀ front, arena.slabAllocations.head? = some front →
    completed < front.seqId
  cursor : arena.slabAllocations = [] → arena.slabCursor = 0
  retained : ∀ front, arena.retainedBuffers.head? = some front →
    completed < front.seqId

theorem dropWhile_of_head {α : Type} {drops : α → Bool} {items : List α}
    (stays : ∀ front, items.head? = some front → drops front = false) :
    items.dropWhile drops = items := by
  cases items with
  | nil => rfl
  | cons front rest =>
      apply List.dropWhile_cons_of_neg
      rw [stays front rfl]
      exact Bool.false_ne_true

theorem Reclaimed.reclaim (reclaimed : Reclaimed completed arena) :
    arena.reclaimUnlocked completed = arena := by
  have allocations : arena.slabAllocations.dropWhile
      (fun allocation => allocation.seqId ≤ completed) =
        arena.slabAllocations := by
    apply dropWhile_of_head
    intro front isFront
    have later := reclaimed.allocations front isFront
    exact decide_eq_false (Nat.not_le_of_lt later)
  have retained : arena.retainedBuffers.dropWhile
      (fun retained => retained.seqId ≤ completed) =
        arena.retainedBuffers := by
    apply dropWhile_of_head
    intro front isFront
    have later := reclaimed.retained front isFront
    exact decide_eq_false (Nat.not_le_of_lt later)
  unfold reclaimUnlocked
  rw [allocations, retained]
  dsimp only
  split
  · rename_i empty
    rw [← reclaimed.cursor empty]
  · rfl

theorem reclaimed_reclaim :
    Reclaimed completed (arena.reclaimUnlocked completed) := by
  have dropped : ∀ {α : Type} (seqId : α → Nat) (items : List α) (front : α),
      (items.dropWhile fun item => seqId item ≤ completed).head? =
        some front → completed < seqId front := by
    intro α seqId items front isFront
    have stays := List.head?_dropWhile_not
      (fun item => decide (seqId item ≤ completed)) items
    rw [isFront] at stays
    dsimp only at stays
    rw [decide_eq_false_iff_not] at stays
    exact Nat.lt_of_not_le stays
  constructor
  case allocations => exact dropped _ _
  case cursor =>
    intro empty
    unfold reclaimUnlocked at empty ⊢
    exact if_pos empty
  case retained => exact dropped _ _

section

variable {seqId : Nat}

theorem Reclaimed.ensure (reclaimed : Reclaimed completed arena)
    (minimum : Nat) :
    Reclaimed completed (arena.ensureSlabUnlocked config minimum).1 := by
  unfold ensureSlabUnlocked
  split
  · exact reclaimed
  · dsimp only
    rw [newBuffer_eq]
    split
    · rename_i result
      rw [← (Prod.mk.inj result).1]
      exact ⟨reclaimed.allocations, fun _ => rfl, reclaimed.retained⟩
    · rename_i result
      rw [← (Prod.mk.inj result).1]
      exact ⟨reclaimed.allocations, reclaimed.cursor, reclaimed.retained⟩

/-- What is added at the end keeps the front in flight. -/
theorem head_append {α : Type} {number : α → Nat} {items more : List α}
    (before : ∀ front, items.head? = some front → completed < number front)
    (after : ∀ item ∈ more, completed < number item) (front : α)
    (isFront : (items ++ more).head? = some front) :
    completed < number front := by
  cases items with
  | nil => exact after front (List.mem_of_mem_head? isFront)
  | cons first rest => exact before front isFront

section

variable (reclaimed : Reclaimed completed arena) (inFlight : completed < seqId)
include reclaimed inFlight

theorem Reclaimed.append (offset alignedSize : Nat) :
    Reclaimed completed (arena.append offset alignedSize seqId) where
  allocations := by
    apply head_append reclaimed.allocations
    intro item member
    rw [List.mem_singleton.mp member]
    exact inFlight
  cursor := fun empty => absurd empty (List.append_ne_nil_of_right_ne_nil _
    (List.cons_ne_nil _ _))
  retained := reclaimed.retained

theorem Reclaimed.rotate (minimum : Nat) :
    Reclaimed completed
      (arena.rotateSlabUnlocked config minimum seqId).1 := by
  unfold rotateSlabUnlocked
  apply Reclaimed.ensure
  constructor
  case allocations => exact fun _ isFront => nomatch isFront
  case cursor => exact fun _ => rfl
  case retained =>
    apply head_append reclaimed.retained
    intro item member
    split at member
    · split at member
      · exact nomatch member
      · rw [List.mem_singleton.mp member]
        exact inFlight
    · exact nomatch member

theorem Reclaimed.place (alignedSize alignment : Nat) :
    Reclaimed completed
      (arena.place config alignedSize alignment seqId).1 := by
  unfold ResourceArena.place
  dsimp only
  split
  · exact reclaimed.append inFlight _ _
  split
  · exact reclaimed.append inFlight _ _
  have rotated := @Reclaimed.rotate config _ _ _ reclaimed inFlight alignedSize
  split
  · exact rotated
  split
  · exact rotated
  · exact rotated.append inFlight _ _

theorem Reclaimed.dedicated (mapped : Bool) (size : Nat) :
    Reclaimed completed (arena.dedicated config mapped size seqId).1 := by
  unfold ResourceArena.dedicated
  rw [newBuffer_eq]
  dsimp only
  split
  · exact ⟨reclaimed.allocations, reclaimed.cursor, reclaimed.retained⟩
  · refine ⟨reclaimed.allocations, reclaimed.cursor, ?_⟩
    apply head_append reclaimed.retained
    intro item member
    rw [List.mem_singleton.mp member]
    exact inFlight

theorem Reclaimed.allocate (mapped : Bool) (size alignment : Nat) :
    Reclaimed completed
      (arena.allocate config mapped size alignment seqId).1 := by
  unfold ResourceArena.allocate
  split
  · exact reclaimed.dedicated inFlight mapped size
  dsimp only
  have ensured := @Reclaimed.ensure config _ _ reclaimed
    (alignUp size alignment)
  split
  · exact ensured.dedicated inFlight mapped size
  have placed := @Reclaimed.place config _ _ _ ensured inFlight
    (alignUp size alignment) alignment
  split
  · rename_i result
    rw [result] at placed
    exact placed
  · rename_i result
    rw [result] at placed
    exact placed.dedicated inFlight mapped size

end

/-- The uploads of a batch, one call each. -/
def uploadEach (config : ArenaConfig) (alignment seqId completed : Nat) :
    ResourceArena → List Nat → ResourceArena × List BufferSlice
  | arena, [] => (arena, [])
  | arena, size :: rest =>
      let first := arena.uploadBuffer config size alignment seqId completed
      let others := uploadEach config alignment seqId completed first.1 rest
      (others.1, first.2 :: others.2)

variable {sizes : List Nat}

theorem allocateAll_eq_uploadEach (device : config.device = true)
    (reclaimed : Reclaimed completed arena) (inFlight : completed < seqId)
    (alignment : Nat)
    (some : ∀ size ∈ sizes, size ≠ 0) :
    allocateAll config (max alignment 1) seqId arena sizes =
      uploadEach config alignment seqId completed arena sizes := by
  induction sizes generalizing arena with
  | nil => rfl
  | cons size rest induction =>
      have here := some size List.mem_cons_self
      have one : arena.uploadBuffer config size alignment seqId completed =
          arena.allocate config false size (max alignment 1) seqId := by
        unfold ResourceArena.uploadBuffer
        rw [if_neg, reclaimed.reclaim]
        rintro (none | empty)
        · exact nomatch device.symm.trans none
        · exact here empty
      unfold ResourceArena.allocateAll uploadEach
      rw [if_neg here, one]
      dsimp only
      rw [induction (reclaimed.allocate inFlight false size _)
        fun other member => some other (List.mem_cons_of_mem _ member)]

theorem reclaim_uploadBuffer (size alignment : Nat) (some : size ≠ 0) :
    (arena.reclaimUnlocked completed).uploadBuffer config size alignment
        seqId completed =
      if config.device = false then (arena.reclaimUnlocked completed, {})
      else arena.uploadBuffer config size alignment seqId completed := by
  unfold ResourceArena.uploadBuffer
  rw [(@reclaimed_reclaim arena completed).reclaim]
  split
  · rename_i nothing
    rw [if_pos (nothing.resolve_right some)]
  · rename_i device
    rw [if_neg (fun none => device (Or.inl none))]

theorem uploadBufferBatch_eq (inFlight : completed < seqId) (alignment : Nat)
    (some : ∀ size ∈ sizes, size ≠ 0) :
    (arena.uploadBufferBatch config sizes alignment seqId completed).1 =
        (uploadEach config alignment seqId completed arena sizes).1 ∧
      issuedSlices
          (arena.uploadBufferBatch config sizes alignment seqId completed).2
          alignment seqId completed =
        issuedSlices
          (uploadEach config alignment seqId completed arena sizes).2
          alignment seqId completed := by
  cases device : config.device with
  | false =>
      have nothing : ∀ sizes,
          (uploadEach config alignment seqId completed arena sizes).1 = arena ∧
            issuedSlices (uploadEach config alignment seqId completed arena
              sizes).2 alignment seqId completed = [] := by
        intro sizes
        induction sizes with
        | nil => exact ⟨rfl, rfl⟩
        | cons size rest induction =>
            have one : arena.uploadBuffer config size alignment seqId
                completed = (arena, {}) := if_pos (Or.inl device)
            unfold uploadEach
            rw [one]
            exact induction
      unfold ResourceArena.uploadBufferBatch
      rw [if_pos (Or.inl device)]
      exact ⟨(nothing sizes).1.symm, (nothing sizes).2.symm⟩
  | true =>
      cases sizes with
      | nil =>
          unfold ResourceArena.uploadBufferBatch
          rw [if_pos (Or.inr rfl)]
          exact ⟨rfl, rfl⟩
      | cons size rest =>
          have same : arena.uploadBufferBatch config (size :: rest) alignment
              seqId completed =
                uploadEach config alignment seqId completed arena
                  (size :: rest) := by
            unfold ResourceArena.uploadBufferBatch
            rw [if_neg, allocateAll_eq_uploadEach device reclaimed_reclaim
              inFlight alignment some]
            · unfold uploadEach
              rw [reclaim_uploadBuffer size alignment
                (some size List.mem_cons_self), device,
                if_neg Bool.noConfusion]
            · rintro (none | empty)
              · exact nomatch device.symm.trans none
              · exact nomatch empty
          rw [same]
          exact ⟨rfl, rfl⟩

end

/-- The slices of a run are apart and alive in every state that it reaches, as
long as no append passes over an allocation without a scan; an append that
does overlaps one. -/
theorem transientSlices_safe (config : ArenaConfig) (calls : List ArenaCall)
    (ordered : InOrder calls)
    (powers : ∀ call ∈ calls, call.PowerOfTwo)
    (aligns : RunMeets AlignsUp config {} calls)
    (past : RunMeets AppendsPast config {} calls) :
    (∀ reached, reached <+: calls → SlicesSafe (runArena config reached)) ∧
    (∀ (arena : ResourceArena) (sizes : List Nat)
      (alignment seqId completed : Nat),
      completed < seqId → (∀ size ∈ sizes, size ≠ 0) →
      (arena.uploadBufferBatch config sizes alignment seqId completed).1 =
          (uploadEach config alignment seqId completed arena sizes).1 ∧
        issuedSlices (arena.uploadBufferBatch config sizes alignment seqId
            completed).2 alignment seqId completed =
          issuedSlices (uploadEach config alignment seqId completed arena
            sizes).2 alignment seqId completed) ∧
    ∀ (arena : ResourceArena) (alignedSize offset : Nat),
      arena.canAppendWithoutScan alignedSize offset = true →
      arena.canPlace alignedSize offset = false →
      offset + alignedSize ≤ maxUInt64 →
      ∃ allocation ∈ arena.slabAllocations,
        offset < allocation.offset + allocation.size ∧
          allocation.offset < offset + alignedSize := by
  refine ⟨?_, ?_, ?_⟩
  · rintro reached ⟨rest, rfl⟩
    have reachedOrdered : InOrder reached := by
      refine ⟨(List.pairwise_append.mp ordered.completed).1, ?_⟩
      have seqIds := ordered.seqIds
      rw [List.filterMap_append] at seqIds
      exact (List.pairwise_append.mp seqIds).1
    obtain ⟨final, ok⟩ := @ok_run config 0 {} reached emptyArena_ok
      (fun call member => Nat.zero_le _) (fun seqId member => Nat.zero_le _)
      reachedOrdered
      (fun call member => powers call (List.mem_append_left _ member))
      (runMeets_front aligns) (runMeets_front past)
    exact ok.slicesSafe
  · intro arena sizes alignment seqId completed inFlight some
    exact uploadBufferBatch_eq inFlight alignment some
  · intro arena alignedSize offset unscanned refused fits
    exact append_overlaps unscanned refused fits

/-- A device that always answers. -/
def answering : ArenaConfig :=
  { device := true
    forceDedicatedTransientUploads := false
    newBuffer := fun _ => .mapped }

/-- Uploads of one frame behind another, with a batch and a reservation. -/
def framedCalls : List ArenaCall :=
  [.uploadBuffer 100 16 1 0, .uploadBufferBatch [8, 40] 16 2 0,
    .reserveBuffer 256 256 3 1, .reclaim 2]

theorem transientSlices_safe_framed :
    SlicesSafe (runArena answering framedCalls) :=
  (transientSlices_safe answering framedCalls
    ⟨by decide, by decide⟩
    (by decide) (by decide +kernel) (by decide +kernel)).1 framedCalls
    (List.prefix_refl _)

/-- An aligned slice lands in the padding behind a small one that wraps the
ring, and the slice behind it runs into what is in flight. -/
def overlappingCalls : List ArenaCall :=
  [.uploadBuffer 100 1 1 0, .uploadBuffer 8 1 2 0,
    .uploadBuffer (kInitialSlabCapacity - 4096) 4096 3 0,
    .uploadBuffer 60 1 4 1, .uploadBuffer 100 128 5 1,
    .uploadBuffer 4096 1 6 1]

theorem transientSlices_overlap :
    InOrder overlappingCalls ∧
      (∀ call ∈ overlappingCalls, call.PowerOfTwo) ∧
      RunMeets AlignsUp answering {} overlappingCalls ∧
      ¬SlicesSafe (runArena answering overlappingCalls) := by
  refine ⟨⟨by decide, by decide⟩, by decide, by decide +kernel, ?_⟩
  intro safe
  have apart := safe.apart
  revert apart
  decide +kernel

end Dxmt9.Transient
