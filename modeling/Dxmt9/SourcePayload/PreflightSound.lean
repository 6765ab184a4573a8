import Dxmt9.CpuReady.PayloadLayout
import Dxmt9.SourcePayload.LayoutBounds

/-!
# Binding a payload block to memory

The checks that a layout has to pass before any region is bound, and the
regions that are then bound one after the other to their parts of the memory.
-/

namespace Dxmt9.SourcePayload

open Dxmt9.CpuReady

/-- A span of memory: where it starts, zero for nowhere, and its size. -/
structure ByteSpan where
  address : Nat
  size : Nat
  deriving DecidableEq

/-- A part of a span.  It has to lie inside. -/
def ByteSpan.subspan (memory : ByteSpan) (offset count : Nat) : ByteSpan :=
  ⟨memory.address + offset, count⟩

/-- The regions of a layout are an array with one place for each. -/
def Sized (layout : SourcePayloadLayout) : Prop :=
  layout.regions.length = sourcePayloadRegions.length

instance (layout : SourcePayloadLayout) : Decidable (Sized layout) :=
  inferInstanceAs (Decidable (_ = _))

/-- What an array holds where nothing was written. -/
def freshRegion : SourcePayloadLayoutRegion where
  id := .commandHeaders
  offset := 0
  byteCount := 0
  alignment := 1
  elementCount := 0
  elementSize := 0

def regionOf (layout : SourcePayloadLayout) (id : SourcePayloadRegion) :
    SourcePayloadLayoutRegion :=
  layout.regions.getD (sourcePayloadRegions.idxOf id) freshRegion

def preflightRegion (sizes : PayloadSizes) (memory : ByteSpan)
    (layout : SourcePayloadLayout) (id : SourcePayloadRegion) : Bool :=
  let region := regionOf layout id
  let elementSize := regionElementSize sizes id
  let alignment := regionAlignment sizes id
  decide (region.id = id ∧ region.elementSize = elementSize ∧
    region.alignment = alignment ∧ region.elementCount ≤ kMaxU32 ∧
    checkedMultiply region.elementCount elementSize =
      some region.byteCount ∧
    region.offset % alignment = 0 ∧
    region.offset ≤ layout.usedBytes ∧
    region.byteCount ≤ layout.usedBytes - region.offset ∧
    region.offset ≤ memory.size ∧
    region.byteCount ≤ memory.size - region.offset ∧
    (region.byteCount ≠ 0 →
      (memory.address + region.offset) % alignment = 0))

/-- The loop over all regions: where the last one ends, and the widest
alignment. -/
def preflightExtents (memory : ByteSpan) (usedBytes : Nat) :
    List SourcePayloadRegion → List SourcePayloadLayoutRegion → Nat → Nat →
    Option (Nat × Nat)
  | id :: ids, region :: regions, cursor, maximumAlignment =>
    if region.id ≠ id ∨ !CpuReady.isPowerOfTwo region.alignment ∨
        region.offset < cursor ∨ region.offset % region.alignment ≠ 0 then
      none
    else
      match checkedAdd region.offset region.byteCount with
      | none => none
      | some stop =>
          if usedBytes < stop ∨ memory.size < stop then none
          else
            preflightExtents memory usedBytes ids regions stop
              (max maximumAlignment region.alignment)
  | _, _, cursor, maximumAlignment => some (cursor, maximumAlignment)

/-- The regions that are checked by name.  The records of generated mipmaps
are not among them. -/
def preflightedRegions : List SourcePayloadRegion :=
  [.commandHeaders, .drawHotStates, .drawShaderLayouts, .drawDebugSnapshots,
    .drawPsoSubviews, .drawUniformFixedPayloads, .drawUniformVertexConstants,
    .drawUniformVertexConstantBytes, .drawUniformPixelConstants,
    .drawUniformPixelConstantBytes, .drawUniformPayloads,
    .drawUniformPayloadLookupHeads, .drawUniformPayloadLookupTails,
    .drawUniformPayloadLookupNext, .drawUniformVertexConstantsLookupHeads,
    .drawUniformVertexConstantsLookupTails,
    .drawUniformVertexConstantsLookupNext,
    .drawUniformPixelConstantsLookupHeads,
    .drawUniformPixelConstantsLookupTails,
    .drawUniformPixelConstantsLookupNext, .drawParams, .drawPayloadBytes,
    .drawRunRecords, .clearRecords, .clearRects, .surfaceCopyRecords,
    .stretchRectRecords, .readbackRecords, .colorFillRecords,
    .depthResolveRecords, .presentRecords]

def preflightLayout (sizes : PayloadSizes) (memory : ByteSpan)
    (layout : SourcePayloadLayout) : Bool :=
  if !CpuReady.isPowerOfTwo layout.requiredBaseAlignment ∨
      layout.requiredBaseAlignment ≠ layout.maximumAlignment ∨
      memory.size < layout.usedBytes ∨ kMaxU32 < layout.pageCount ∨
      (layout.usedBytes == 0) ≠ (layout.pageCount == 0) ∨
      (layout.usedBytes ≠ 0 ∧
        (memory.address = 0 ∨
          memory.address % layout.requiredBaseAlignment ≠ 0)) then
    false
  else
    match preflightExtents memory layout.usedBytes sourcePayloadRegions
        layout.regions 0 1 with
    | none => false
    | some (cursor, maximumAlignment) =>
        if cursor ≠ layout.usedBytes ∨
            maximumAlignment ≠ layout.maximumAlignment then
          false
        else preflightedRegions.all (preflightRegion sizes memory layout)

/-- What a monotonic resource over a buffer hands out first: the first aligned
address, when the bytes fit behind it. -/
def monotonicAllocate (memory : ByteSpan) (bytes alignment : Nat) :
    Option Nat :=
  let aligned := (memory.address + (alignment - 1)) / alignment * alignment
  if aligned - memory.address + bytes ≤ memory.size then some aligned
  else none

structure ArenaSoA where
  data : Nat := 0
  size : Nat := 0
  capacity : Nat := 0
  bound : Bool := false
  sealed : Bool := false
  resource : Option ByteSpan := none
  deriving DecidableEq

def ArenaSoA.bind (elementSize alignment : Nat) (storage : ArenaSoA)
    (memory : ByteSpan) (capacity : Nat) : Bool × ArenaSoA :=
  if storage.bound ∨ storage.size ≠ 0 ∨ kMaxSize / elementSize < capacity ∨
      memory.size ≠ capacity * elementSize then
    (false, storage)
  else if capacity ≠ 0 ∧
      (memory.address = 0 ∨ memory.address % alignment ≠ 0) then
    (false, storage)
  else if capacity = 0 then
    (true, { storage with
      resource := some memory, capacity := capacity, bound := true })
  else
    match monotonicAllocate memory (capacity * elementSize) alignment with
    | none => (false, { storage with resource := none })
    | some data =>
        if data ≠ memory.address then
          (false, { storage with data := 0, resource := none })
        else
          (true, { storage with
            resource := some memory, data := data, capacity := capacity,
            bound := true })

structure ArenaByteBuffer where
  data : Nat := 0
  size : Nat := 0
  capacity : Nat := 0
  baseAlignment : Nat := 1
  bound : Bool := false
  sealed : Bool := false
  deriving DecidableEq

def ArenaByteBuffer.bind (storage : ArenaByteBuffer) (memory : ByteSpan)
    (baseAlignment : Nat) : Bool × ArenaByteBuffer :=
  if storage.bound ∨ storage.size ≠ 0 ∨
      !CpuReady.isPowerOfTwo baseAlignment ∨
      (memory.size ≠ 0 ∧
        (memory.address = 0 ∨ memory.address % baseAlignment ≠ 0)) then
    (false, storage)
  else
    (true, { storage with
      data := memory.address, capacity := memory.size,
      baseAlignment := baseAlignment, bound := true })

/-- The storage of a region: elements of a type, or plain bytes. -/
inductive RegionStorage where
  | elements (storage : ArenaSoA)
  | bytes (storage : ArenaByteBuffer)
  deriving DecidableEq

def freshStorage : SourcePayloadRegion → RegionStorage
  | .drawUniformVertexConstantBytes | .drawUniformPixelConstantBytes
  | .drawPayloadBytes => .bytes {}
  | _ => .elements {}

structure ArenaSourcePayloadBlock where
  storages : SourcePayloadRegion → RegionStorage := freshStorage
  boundBase : Nat := 0
  boundExtent : Nat := 0
  bound : Bool := false

/-- One region bound to its part of the memory. -/
def bindRegion (sizes : PayloadSizes) (memory : ByteSpan)
    (layout : SourcePayloadLayout) (id : SourcePayloadRegion) :
    RegionStorage → Bool × RegionStorage
  | .elements storage =>
      let region := regionOf layout id
      let result := storage.bind (regionElementSize sizes id)
        (regionAlignment sizes id)
        (memory.subspan region.offset region.byteCount) region.elementCount
      (result.1, .elements result.2)
  | .bytes storage =>
      let region := regionOf layout id
      let result := storage.bind
        (memory.subspan region.offset region.byteCount)
        kSourcePayloadByteAlignment
      (result.1, .bytes result.2)

/-- Regions bound one after the other, up to the first that fails. -/
def bindRegions (sizes : PayloadSizes) (memory : ByteSpan)
    (layout : SourcePayloadLayout) :
    List SourcePayloadRegion → (SourcePayloadRegion → RegionStorage) →
    Bool × (SourcePayloadRegion → RegionStorage)
  | [], storages => (true, storages)
  | id :: rest, storages =>
      let result := bindRegion sizes memory layout id (storages id)
      let next := Function.update storages id result.2
      if result.1 then bindRegions sizes memory layout rest next
      else (false, next)

def ArenaSourcePayloadBlock.bind (sizes : PayloadSizes)
    (block : ArenaSourcePayloadBlock) (memory : ByteSpan)
    (layout : SourcePayloadLayout) : Bool × ArenaSourcePayloadBlock :=
  if block.bound ∨ !preflightLayout sizes memory layout then (false, block)
  else
    let result := bindRegions sizes memory layout sourcePayloadRegions
      block.storages
    if result.1 then
      (true, { block with
        storages := result.2, bound := true,
        boundBase := memory.address, boundExtent := memory.size })
    else (false, { block with storages := result.2, bound := false })

end Dxmt9.SourcePayload

/-!
## What preflight accepts

The loop of preflight accepts exactly the regions that follow one another at
their alignments inside the layout and the memory, and every layout that was
made for a capacity passes.
-/

namespace Dxmt9.SourcePayload

open Dxmt9.CpuReady

variable {sizes : PayloadSizes} {capacity : SourcePayloadCapacity}
  {memory : ByteSpan} {layout : SourcePayloadLayout}

/-- Regions one behind the other from a cursor on. -/
structure Follows (memory : ByteSpan) (usedBytes : Nat)
    (ids : List SourcePayloadRegion)
    (regions : List SourcePayloadLayoutRegion) (cursor : Nat) : Prop where
  ids : regions.map (·.id) = ids
  power : ∀ region ∈ regions, CpuReady.isPowerOfTwo region.alignment = true
  aligned : ∀ region ∈ regions, region.offset % region.alignment = 0
  inside : ∀ region ∈ regions, region.offset + region.byteCount ≤ usedBytes
  within : ∀ region ∈ regions, region.offset + region.byteCount ≤ memory.size
  behind : ∀ region ∈ regions, cursor ≤ region.offset
  ordered : regions.Pairwise fun before after =>
    before.offset + before.byteCount ≤ after.offset

/-- Where the last of some regions ends. -/
def lastStop (regions : List SourcePayloadLayoutRegion) (cursor : Nat) :
    Nat :=
  regions.foldl (fun _ region => region.offset + region.byteCount) cursor

/-- The widest alignment of some regions. -/
def widestAlignment (regions : List SourcePayloadLayoutRegion)
    (most : Nat) : Nat :=
  regions.foldl (fun most region => max most region.alignment) most

theorem checkedAdd_eq {left right sum : Nat}
    (added : checkedAdd left right = some sum) : sum = left + right := by
  unfold checkedAdd at added
  split at added
  · exact nomatch added
  · exact (Option.some.inj added).symm

variable {usedBytes cursor : Nat} {ids : List SourcePayloadRegion}
  {regions : List SourcePayloadLayoutRegion}

theorem follows_of_preflightExtents {most stop widest : Nat}
    (lengths : regions.length = ids.length)
    (passed : preflightExtents memory usedBytes ids regions cursor most =
      some (stop, widest)) :
    Follows memory usedBytes ids regions cursor ∧
      stop = lastStop regions cursor ∧
      widest = widestAlignment regions most := by
  induction regions generalizing ids cursor most with
  | nil =>
      cases ids with
      | cons id ids => exact nomatch lengths
      | nil =>
          obtain ⟨rfl, rfl⟩ := Prod.mk.inj (Option.some.inj passed)
          exact ⟨⟨rfl, nofun, nofun, nofun, nofun, nofun, .nil⟩, rfl, rfl⟩
  | cons region regions induction =>
      cases ids with
      | nil => exact nomatch lengths
      | cons id ids =>
          rw [preflightExtents] at passed
          split at passed
          · exact nomatch passed
          · rename_i checks
            push Not at checks
            obtain ⟨same, power, above, aligned⟩ := checks
            cases added : checkedAdd region.offset region.byteCount with
            | none =>
                rw [added] at passed
                exact nomatch passed
            | some ends =>
                rw [added] at passed
                dsimp only at passed
                split at passed
                · exact nomatch passed
                · rename_i room
                  push Not at room
                  have sum := checkedAdd_eq added
                  subst sum
                  obtain ⟨rest, last, wide⟩ :=
                    induction (Nat.succ.inj lengths) passed
                  have power : CpuReady.isPowerOfTwo region.alignment =
                      true := by
                    cases known : CpuReady.isPowerOfTwo region.alignment with
                    | true => rfl
                    | false => exact absurd (by rw [known]; rfl) power
                  refine ⟨?_, last, wide⟩
                  exact
                    { ids := congrArg₂ List.cons same rest.ids
                      power := List.forall_mem_cons.mpr ⟨power, rest.power⟩
                      aligned := List.forall_mem_cons.mpr
                        ⟨aligned, rest.aligned⟩
                      inside := List.forall_mem_cons.mpr ⟨room.1, rest.inside⟩
                      within := List.forall_mem_cons.mpr ⟨room.2, rest.within⟩
                      behind := List.forall_mem_cons.mpr
                        ⟨above, fun other member => Nat.le_trans above
                          (Nat.le_trans (Nat.le_add_right ..)
                            (rest.behind other member))⟩
                      ordered := List.Pairwise.cons rest.behind
                        rest.ordered }

theorem preflightExtents_of_follows (most : Nat) (small : usedBytes ≤ kMaxSize)
    (follows : Follows memory usedBytes ids regions cursor) :
    preflightExtents memory usedBytes ids regions cursor most =
      some (lastStop regions cursor, widestAlignment regions most) := by
  induction regions generalizing ids cursor most with
  | nil =>
      cases ids with
      | nil => rfl
      | cons id ids => exact nomatch follows.ids
  | cons region regions induction =>
      cases ids with
      | nil => exact nomatch follows.ids
      | cons id ids =>
          have ids := List.cons.inj follows.ids
          have power := follows.power region (List.mem_cons_self ..)
          have behind := follows.behind region (List.mem_cons_self ..)
          have aligned := follows.aligned region (List.mem_cons_self ..)
          have inside := follows.inside region (List.mem_cons_self ..)
          have within := follows.within region (List.mem_cons_self ..)
          have pairs := List.pairwise_cons.mp follows.ordered
          have others : Follows memory usedBytes _ regions
              (region.offset + region.byteCount) :=
            { ids := ids.2
              power := fun other member =>
                follows.power other (List.mem_cons_of_mem _ member)
              aligned := fun other member =>
                follows.aligned other (List.mem_cons_of_mem _ member)
              inside := fun other member =>
                follows.inside other (List.mem_cons_of_mem _ member)
              within := fun other member =>
                follows.within other (List.mem_cons_of_mem _ member)
              behind := pairs.1
              ordered := pairs.2 }
          have rest := induction (max most region.alignment) others
          have sum := Nat.le_trans inside small
          have added := (checkedAdd_some
            (Nat.le_trans (Nat.le_add_right ..) sum)).mpr ⟨rfl, sum⟩
          rw [preflightExtents, if_neg, added]
          · dsimp only
            rw [if_neg]
            · exact rest
            · rintro (large | large)
              · exact Nat.not_lt.mpr inside large
              · exact Nat.not_lt.mpr within large
          · rw [power]
            rintro (other | unpowered | above | unaligned)
            · exact other ids.1
            · exact nomatch unpowered
            · exact Nat.not_lt.mpr behind above
            · exact unaligned aligned

/-- The regions that preflight names are regions. -/
theorem regionOf_of_ids (id : SourcePayloadRegion)
    (ids : layout.regions.map (·.id) = sourcePayloadRegions) :
    regionOf layout id ∈ layout.regions ∧ (regionOf layout id).id = id := by
  have member := mem_sourcePayloadRegions id
  have inside := List.idxOf_lt_length_of_mem member
  have lengths : layout.regions.length = sourcePayloadRegions.length := by
    rw [← ids, List.length_map]
  have bound : sourcePayloadRegions.idxOf id < layout.regions.length :=
    lengths.symm ▸ inside
  have found : regionOf layout id =
      layout.regions[sourcePayloadRegions.idxOf id] := by
    unfold regionOf
    rw [List.getD_eq_getElem?_getD, List.getElem?_eq_getElem bound]
    rfl
  refine ⟨found ▸ List.getElem_mem bound, ?_⟩
  have named : (layout.regions.map (·.id))[sourcePayloadRegions.idxOf id]?
      = some id := by
    rw [ids, List.getElem?_eq_getElem inside, List.getElem_idxOf inside]
  rw [List.getElem?_map, List.getElem?_eq_getElem bound] at named
  rw [found]
  exact Option.some.inj named

/-- Memory that can hold a layout. -/
structure Holds (memory : ByteSpan) (layout : SourcePayloadLayout) :
    Prop where
  size : layout.usedBytes ≤ memory.size
  present : layout.usedBytes ≠ 0 → memory.address ≠ 0
  based : memory.address % layout.requiredBaseAlignment = 0

/-- What is known of a layout that was made for a capacity. -/
structure MadeFor (sizes : PayloadSizes) (capacity : SourcePayloadCapacity)
    (pageSize maxPages : Nat) (layout : SourcePayloadLayout) : Prop where
  page : 0 < pageSize
  laid : ∃ placed, LaysOut sizes capacity sourcePayloadRegions placed ∧
    layout = finished pageSize placed
  fits : pageSize % layout.requiredBaseAlignment = 0
  rounds : layout.usedBytes ≤ kMaxSize - (pageSize - 1)
  few : layout.pageCount ≤ kMaxU32
  limited : layout.pageCount ≤ maxPages

variable {pageSize maxPages : Nat}

theorem madeFor
    (made : makeSourcePayloadLayout sizes capacity pageSize maxPages =
      some layout) :
    MadeFor sizes capacity pageSize maxPages layout := by
  obtain ⟨placed, finishes, rfl⟩ := makeSourcePayloadLayout_some.mp made
  refine ⟨finishes.page, ⟨placed, ?_, rfl⟩, finishes.fits, finishes.rounds,
    finishes.few, finishes.limited⟩
  rw [finishes.built]
  exact laysOut_start.withRegions finishes.places

theorem preflightRegion_madeFor
    (made : MadeFor sizes capacity pageSize maxPages layout)
    (holds : Holds memory layout) (id : SourcePayloadRegion) :
    preflightRegion sizes memory layout id = true := by
  obtain ⟨placed, laid, rfl⟩ := made.laid
  have found : regionOf (finished pageSize placed) id ∈ placed.regions ∧
      (regionOf (finished pageSize placed) id).id = id :=
    regionOf_of_ids id laid.ids
  obtain ⟨member, named⟩ := found
  have shape := laid.shape _ member
  have inside := laid.inside _ member
  have aligned := laid.aligned _ member
  have divides := laid.divides _ member
  rw [named] at shape
  apply decide_eq_true
  generalize regionOf (finished pageSize placed) id = region at *
  generalize region.offset = offset at *
  subst shape
  have ends : offset + capacity id * regionElementSize sizes id ≤
      memory.size := Nat.le_trans inside holds.size
  have used : offset + capacity id * regionElementSize sizes id ≤
      placed.usedBytes := inside
  refine ⟨rfl, rfl, rfl, ?_, checkedMultiply_some.mpr ⟨rfl, ?_⟩, aligned,
    ?_, ?_, ?_, ?_, ?_⟩
  · exact laid.counted _ member
  · exact Nat.le_trans (Nat.le_trans (Nat.le_add_left ..) used) laid.used
  · exact Nat.le_trans (Nat.le_add_right ..) used
  · exact Nat.le_sub_of_add_le' used
  · exact Nat.le_trans (Nat.le_add_right ..) ends
  · exact Nat.le_sub_of_add_le' ends
  · intro _
    apply Nat.mod_eq_zero_of_dvd
    apply Nat.dvd_add
    · exact Nat.dvd_trans divides (Nat.dvd_of_mod_eq_zero holds.based)
    · exact Nat.dvd_of_mod_eq_zero aligned

theorem pagesFor_eq_zero_iff
    (positive : 0 < pageSize) :
    pagesFor usedBytes pageSize = 0 ↔ usedBytes = 0 := by
  rw [← Nat.le_zero, pagesFor_le_iff positive, Nat.zero_mul, Nat.le_zero]

theorem preflightLayout_madeFor
    (made : MadeFor sizes capacity pageSize maxPages layout)
    (holds : Holds memory layout) :
    preflightLayout sizes memory layout = true := by
  have named : preflightedRegions.all
      (preflightRegion sizes memory layout) = true :=
    List.all_eq_true.mpr fun id _ => preflightRegion_madeFor made holds id
  obtain ⟨placed, laid, rfl⟩ := made.laid
  have follows : Follows memory placed.usedBytes sourcePayloadRegions
      placed.regions 0 :=
    { ids := laid.ids
      power := laid.power
      aligned := laid.aligned
      inside := laid.inside
      within := fun region member =>
        Nat.le_trans (laid.inside region member) holds.size
      behind := fun _ _ => Nat.zero_le _
      ordered := laid.ordered }
  have extents := preflightExtents_of_follows 1 laid.used follows
  have stop : lastStop placed.regions 0 = placed.usedBytes := laid.cursor
  have widest : widestAlignment placed.regions 1 = placed.maximumAlignment :=
    laid.widest
  unfold preflightLayout
  rw [if_neg]
  · have passed : preflightExtents memory
        (finished pageSize placed).usedBytes sourcePayloadRegions
        (finished pageSize placed).regions 0 1 =
          some (placed.usedBytes, placed.maximumAlignment) := by
      rw [← stop, ← widest]
      exact extents
    rw [passed]
    dsimp only
    rw [if_neg]
    · exact named
    · rintro (other | other)
      · exact other rfl
      · exact other rfl
  · rintro (unpowered | other | small | many | mixed | ⟨used, nowhere⟩)
    · change (!CpuReady.isPowerOfTwo placed.maximumAlignment) = true
        at unpowered
      rw [laid.base] at unpowered
      exact nomatch unpowered
    · exact other rfl
    · exact Nat.not_lt.mpr holds.size small
    · exact Nat.not_lt.mpr made.few many
    · apply mixed
      apply Bool.eq_iff_iff.mpr
      rw [beq_iff_eq, beq_iff_eq]
      exact (pagesFor_eq_zero_iff made.page).symm
    · exact nowhere.elim (holds.present used) (fun off => off holds.based)

end Dxmt9.SourcePayload
