import Mathlib.Logic.Function.Basic
import Dxmt9.EncodePartition.ReplayStream
import Dxmt9.Provisioning.ProvisionPlan
import Mathlib.Order.MinMax

/-!
# The storage of a chunk slot

A chunk slot is a row of vectors, one for each dimension of the slot schema.
Of each vector the size and the capacity are kept, of five of them also the
elements that the range check and the rectangle count read.
-/

namespace Dxmt9.DirectContinuation

open Dxmt9.CpuReady
open Dxmt9.EncodePartition

/-! ## The schema -/

inductive PhysicalRole where
  | vector
  | semanticOnly
  deriving DecidableEq

inductive ProvisionRole where
  | staged
  | coverageOnly
  | semanticOnly
  deriving DecidableEq

inductive LookupRole where
  | ordinary
  | head
  | tail
  | next
  deriving DecidableEq

def physicalRole : SourcePayloadRegion → PhysicalRole
  | .clearRects => .semanticOnly
  | _ => .vector

def provisionRole : SourcePayloadRegion → ProvisionRole
  | .readbackRecords => .coverageOnly
  | .clearRects => .semanticOnly
  | _ => .staged

def lookupRole : SourcePayloadRegion → LookupRole
  | .drawUniformPayloadLookupHeads | .drawUniformVertexConstantsLookupHeads
  | .drawUniformPixelConstantsLookupHeads => .head
  | .drawUniformPayloadLookupTails | .drawUniformVertexConstantsLookupTails
  | .drawUniformPixelConstantsLookupTails => .tail
  | .drawUniformPayloadLookupNext | .drawUniformVertexConstantsLookupNext
  | .drawUniformPixelConstantsLookupNext => .next
  | _ => .ordinary

/-- The vectors that hold records. -/
def ordinaryRegions : List SourcePayloadRegion :=
  sourcePayloadRegions.filter fun region =>
    physicalRole region == .vector && lookupRole region == .ordinary

/-- Those of them that a reservation grows. -/
def reservedRegions : List SourcePayloadRegion :=
  ordinaryRegions.filter fun region => provisionRole region == .staged

/-- The vectors whose emptiness makes a slot empty.  The bucket tables of a
lookup keep their extent in an empty slot. -/
def emptinessRegions : List SourcePayloadRegion :=
  sourcePayloadRegions.filter fun region =>
    physicalRole region == .vector &&
      (lookupRole region == .ordinary || lookupRole region == .next)

/-- The uniform records that are found by their hash. -/
inductive LookupFamily where
  | payloads
  | vertexConstants
  | pixelConstants
  deriving DecidableEq

def lookupFamilies : List LookupFamily :=
  [.payloads, .vertexConstants, .pixelConstants]

namespace LookupFamily

def records : LookupFamily → SourcePayloadRegion
  | payloads => .drawUniformPayloads
  | vertexConstants => .drawUniformVertexConstants
  | pixelConstants => .drawUniformPixelConstants

def heads : LookupFamily → SourcePayloadRegion
  | payloads => .drawUniformPayloadLookupHeads
  | vertexConstants => .drawUniformVertexConstantsLookupHeads
  | pixelConstants => .drawUniformPixelConstantsLookupHeads

def tails : LookupFamily → SourcePayloadRegion
  | payloads => .drawUniformPayloadLookupTails
  | vertexConstants => .drawUniformVertexConstantsLookupTails
  | pixelConstants => .drawUniformPixelConstantsLookupTails

def next : LookupFamily → SourcePayloadRegion
  | payloads => .drawUniformPayloadLookupNext
  | vertexConstants => .drawUniformVertexConstantsLookupNext
  | pixelConstants => .drawUniformPixelConstantsLookupNext

end LookupFamily

/-! ## Slots -/

structure MetalCommandHeader where
  kind : MetalCommandKind := .drawRun
  payloadIndex : Nat := 0
  deriving DecidableEq

/-- A clear, by the number of its rectangles. -/
structure ClearDesc where
  rects : Nat := 0
  deriving DecidableEq

/-- A uniform payload record is named by its handle. -/
structure ChunkSlotRows where
  commandHeaders : List MetalCommandHeader := []
  drawUniformPayloads : List DrawUniformHandle := []
  drawParams : List DrawParam := []
  drawRunRecords : List DrawRunCommandRecord := []
  clearRecords : List ClearDesc := []
  /-- The sizes of the other vectors. -/
  others : SourcePayloadRegion → Nat := fun _ => 0

def ChunkSlotRows.size (rows : ChunkSlotRows) : SourcePayloadRegion → Nat
  | .commandHeaders => rows.commandHeaders.length
  | .drawUniformPayloads => rows.drawUniformPayloads.length
  | .drawParams => rows.drawParams.length
  | .drawRunRecords => rows.drawRunRecords.length
  | .clearRecords => rows.clearRecords.length
  | region => rows.others region

/-- The marker of a slot whose resource owners are detached. -/
structure DetachedOwnerMarker where
  serial : Nat := 0
  deriving DecidableEq

def DetachedOwnerMarker.active (marker : DetachedOwnerMarker) : Bool :=
  marker.serial != 0

structure ChunkSlot where
  rows : ChunkSlotRows := {}
  capacity : SourcePayloadRegion → Nat := rows.size
  pipelinePrefetchSealed : Bool := false
  detachedOwnerMarker : DetachedOwnerMarker := {}
  stored : ∀ region, rows.size region ≤ capacity region := by
    exact fun _ => Nat.le_refl _

def ChunkSlot.size (slot : ChunkSlot) : SourcePayloadRegion → Nat :=
  slot.rows.size

def ChunkSlot.prefetchedPipelinesSealed (slot : ChunkSlot) : Bool :=
  slot.pipelinePrefetchSealed

def ChunkSlot.drawStateStorageConsistent (slot : ChunkSlot) : Bool :=
  slot.size .drawHotStates == slot.size .drawShaderLayouts &&
    slot.size .drawHotStates == slot.size .drawDebugSnapshots

/-! ## Payload ranges -/

/-- The slot holds the uniform payload record of a handle. -/
def ChunkSlotRows.drawUniformPayloadRecord (rows : ChunkSlotRows)
    (handle : DrawUniformHandle) : Bool :=
  handle.valid && rows.drawUniformPayloads[handle.index]? == some handle

def drawPayloadRangeFits (payloadSize : Nat) (range : DrawPayloadRange) :
    Bool :=
  decide (range.offset ≤ payloadSize) &&
    decide (range.size ≤ payloadSize - range.offset)

def ChunkSlotRows.uniformKnown (rows : ChunkSlotRows)
    (handle : DrawUniformHandle) : Bool :=
  !handle.valid || rows.drawUniformPayloadRecord handle

def ChunkSlotRows.drawParamInRange (rows : ChunkSlotRows)
    (record : DrawRunCommandRecord) (param : DrawParam) : Bool :=
  rows.uniformKnown param.uniformHandle &&
    drawPayloadRangeFits record.payloadSize param.userVertexRange &&
    drawPayloadRangeFits record.payloadSize param.userIndexRange &&
    drawPayloadRangeFits record.payloadSize param.bindingOverrideRange &&
    drawPayloadRangeFits record.payloadSize param.bindingSnapshotRange

def ChunkSlotRows.drawRunInRange (rows : ChunkSlotRows)
    (record : DrawRunCommandRecord) : Bool :=
  decide (record.stateIndex < rows.size .drawHotStates) &&
    decide (record.stateIndex < rows.size .drawShaderLayouts) &&
    decide (record.stateIndex < rows.size .drawDebugSnapshots) &&
    decide (record.firstParam ≤ rows.size .drawParams) &&
    decide (record.paramCount ≤ rows.size .drawParams - record.firstParam) &&
    decide (record.payloadOffset ≤ rows.size .drawPayloadBytes) &&
    decide (record.payloadSize ≤
      rows.size .drawPayloadBytes - record.payloadOffset) &&
    rows.uniformKnown record.uniformHandle &&
    ((rows.drawParams.drop record.firstParam).take record.paramCount).all
      (rows.drawParamInRange record)

/-- The records of a command that is no draw. -/
def commandRegion : MetalCommandKind → SourcePayloadRegion
  | .drawRun => .drawRunRecords
  | .clear => .clearRecords
  | .surfaceCopy => .surfaceCopyRecords
  | .stretchRect => .stretchRectRecords
  | .readback => .readbackRecords
  | .colorFill => .colorFillRecords
  | .depthResolve => .depthResolveRecords
  | .generateMipmaps => .generateMipmapsRecords
  | .present => .presentRecords

def ChunkSlotRows.commandInRange (rows : ChunkSlotRows)
    (header : MetalCommandHeader) : Bool :=
  match header.kind with
  | .drawRun =>
      match rows.drawRunRecords[header.payloadIndex]? with
      | none => false
      | some record =>
          decide (header.payloadIndex < rows.size .drawPsoSubviews) &&
            rows.drawRunInRange record
  | kind => decide (header.payloadIndex < rows.size (commandRegion kind))

def ChunkSlot.commandPayloadSuffixInRange (slot : ChunkSlot)
    (firstCommand : Nat) : Bool :=
  decide (firstCommand ≤ slot.rows.commandHeaders.length) &&
    slot.drawStateStorageConsistent &&
    (slot.rows.commandHeaders.drop firstCommand).all slot.rows.commandInRange

def ChunkSlot.commandPayloadsInRange (slot : ChunkSlot) : Bool :=
  slot.commandPayloadSuffixInRange 0

/-! ## Admission -/

def directContinuationAppendFits (current extra capacity : Nat) : Bool :=
  decide (extra ≤ kMaxSize - current) && decide (current + extra ≤ capacity)

inductive DirectContinuationAdmission where
  | admitted
  | capacityRejected
  | structuralRejected
  deriving DecidableEq

/-- The headers of the commands other than draws, as a 64-bit sum. -/
def coordinatorHeaders (extra : SourcePayloadCapacity) : Nat :=
  Provisioning.coordinatorRecords extra % 2 ^ 64

def headersMatch (extra : SourcePayloadCapacity) : Bool :=
  decide (coordinatorHeaders extra ≤ kMaxSize - extra .drawParams) &&
    extra .commandHeaders == extra .drawParams + coordinatorHeaders extra &&
    !(extra .clearRects != 0 && extra .clearRecords == 0)

def drawShapeMatches (extra : SourcePayloadCapacity) : Bool :=
  extra .drawParams != 0 &&
    Provisioning.perDrawRegions.all fun region =>
      extra region == extra .drawParams

/-- The dimensions of a plan that follow from its draws. -/
def derivedShapeMatches (sizes : PayloadSizes)
    (extra : SourcePayloadCapacity) : Bool :=
  let drawCount := extra .drawParams
  decide (drawCount ≤ kMaxSize / sizes.vertexShaderConstants) &&
    decide (drawCount ≤ kMaxSize / sizes.pixelShaderConstants) &&
    extra .drawUniformVertexConstantBytes ==
      drawCount * sizes.vertexShaderConstants &&
    extra .drawUniformPixelConstantBytes ==
      drawCount * sizes.pixelShaderConstants &&
    extra .drawUniformPayloadLookupHeads ==
      chunkSlotUniformLookupBucketCount drawCount &&
    extra .drawUniformPayloadLookupTails ==
      extra .drawUniformPayloadLookupHeads &&
    lookupFamilies.all fun family =>
      extra family.heads == extra .drawUniformPayloadLookupHeads &&
        extra family.tails == extra .drawUniformPayloadLookupTails &&
        extra family.next == drawCount

def lookupReady (slot : ChunkSlot) (family : LookupFamily)
    (additional : Nat) : Bool :=
  let records := slot.size family.records
  if additional = 0 then
    slot.size family.heads == slot.size family.tails &&
      slot.size family.next == records &&
      (records == 0 ||
        decide (chunkSlotUniformLookupBucketCount records ≤
          slot.size family.heads))
  else if kMaxSize - records < additional then false
  else
    slot.size family.heads == slot.size family.tails &&
      decide (chunkSlotUniformLookupBucketCount (records + additional) ≤
        slot.size family.heads) &&
      slot.size family.next == records &&
      decide (records + additional ≤ slot.capacity family.next)

def directContinuationAdmission (sizes : PayloadSizes) (slot : ChunkSlot)
    (extra : SourcePayloadCapacity) : DirectContinuationAdmission :=
  if extra .readbackRecords != 0 then .structuralRejected
  else if !headersMatch extra then .structuralRejected
  else if !(drawShapeMatches extra && derivedShapeMatches sizes extra) then
    .structuralRejected
  else if slot.pipelinePrefetchSealed || !slot.drawStateStorageConsistent ||
      !slot.commandPayloadsInRange then
    .structuralRejected
  else if !ordinaryRegions.all fun region =>
      directContinuationAppendFits (slot.size region) (extra region)
        (slot.capacity region) then
    .capacityRejected
  else if !lookupFamilies.all fun family =>
      lookupReady slot family (extra family.records) then
    .capacityRejected
  else .admitted

def directSlotLookupCovers (slot : ChunkSlot) (family : LookupFamily)
    (additional : Nat) : Bool :=
  let records := slot.size family.records
  if additional = 0 then true
  else if kMaxSize - records < additional then false
  else
    let total := records + additional
    if slot.capacity family.next < total then false
    else
      let bucketCount := max (chunkSlotUniformLookupBucketCount total)
        (slot.size family.heads)
      decide (bucketCount ≤ slot.size family.heads) &&
        slot.size family.heads == slot.size family.tails &&
        slot.size family.next == records

/-- The rectangles of some clears added to a count, unless it overflows. -/
def accumulateClearRects (clearRectCount : Nat) :
    List ClearDesc → Option Nat
  | [] => some clearRectCount
  | clear :: rest =>
      if kMaxSize - clearRectCount < clear.rects then none
      else accumulateClearRects (clearRectCount + clear.rects) rest

def directSlotClearRectAccumulationFits (slot : ChunkSlot) : Bool :=
  (accumulateClearRects 0 slot.rows.clearRecords).isSome

def directSlotPhysicalCapacityCovers (slot : ChunkSlot)
    (plan : SourcePayloadCapacity) : Bool :=
  if slot.prefetchedPipelinesSealed || !slot.drawStateStorageConsistent ||
      !slot.commandPayloadsInRange ||
      !directSlotClearRectAccumulationFits slot ||
      slot.detachedOwnerMarker.active then
    false
  else if !ordinaryRegions.all fun region =>
      directContinuationAppendFits (slot.size region) (plan region)
        (slot.capacity region) then
    false
  else if plan .drawUniformPayloads = 0 then true
  else
    lookupFamilies.all fun family =>
      directSlotLookupCovers slot family (plan family.records)

def chunkSlotDirectStorageEmpty (slot : ChunkSlot) : Bool :=
  !slot.detachedOwnerMarker.active &&
    emptinessRegions.all fun region => slot.size region == 0

/-- The capacity of the tables and of the chain of a lookup. -/
def lookupCapacity (slot : ChunkSlot) (family : LookupFamily)
    (count : Nat) : Bool :=
  if count = 0 then true
  else
    let buckets := chunkSlotUniformLookupBucketCount count
    decide (buckets ≤ slot.capacity family.heads) &&
      decide (buckets ≤ slot.capacity family.tails) &&
      decide (count ≤ slot.capacity family.next)

def directSlotEmptyStorageReusable (slot : ChunkSlot)
    (plan : SourcePayloadCapacity) : Bool :=
  if !chunkSlotDirectStorageEmpty slot || slot.prefetchedPipelinesSealed ||
      !slot.drawStateStorageConsistent || !slot.commandPayloadsInRange then
    false
  else if !ordinaryRegions.all fun region =>
      decide (plan region ≤ slot.capacity region) then
    false
  else if plan .drawUniformPayloads = 0 then true
  else
    lookupFamilies.all fun family =>
      lookupCapacity slot family (plan family.records)

end Dxmt9.DirectContinuation

/-!
## Reserving storage in a chunk slot

The vector operations behind the reservation of a transaction and behind the
restoration of an empty slot's lookup tables.  An operation that needs more
capacity than its vector has requests an allocation; the allocator may refuse
it, which ends the whole step as an exception does.
-/

namespace Dxmt9.DirectContinuation

open Dxmt9.CpuReady

/-- An allocation of a number of elements for one vector. -/
structure AllocationRequest where
  region : SourcePayloadRegion
  elements : Nat
  deriving DecidableEq

/-- The requests that an allocator grants. -/
abbrev Allocator := AllocationRequest → Bool

/-- A slot with the allocations requested on the way to it. -/
structure Reservation where
  slot : ChunkSlot
  requests : List AllocationRequest := []

/-! ## Vectors -/

/-- More capacity for one vector. -/
def ChunkSlot.grown (slot : ChunkSlot) (region : SourcePayloadRegion)
    (capacity : Nat) : ChunkSlot where
  rows := slot.rows
  capacity := Function.update slot.capacity region
    (max (slot.capacity region) capacity)
  pipelinePrefetchSealed := slot.pipelinePrefetchSealed
  detachedOwnerMarker := slot.detachedOwnerMarker
  stored := by
    intro other
    rw [Function.update_apply]
    split
    · rename_i same
      rw [same]
      exact Nat.le_trans (slot.stored region) (Nat.le_max_left _ _)
    · exact slot.stored other

/-- The rows with another size of a vector whose elements are not kept. -/
def ChunkSlotRows.resized (rows : ChunkSlotRows)
    (region : SourcePayloadRegion) (size : Nat) : ChunkSlotRows :=
  { rows with others := Function.update rows.others region size }

theorem ChunkSlotRows.size_resized_le (rows : ChunkSlotRows)
    (region other : SourcePayloadRegion) (size : Nat) :
    (rows.resized region size).size other ≤
      if other = region then max (rows.size other) size
      else rows.size other := by
  by_cases same : other = region
  · rw [same, if_pos rfl]
    cases region <;> simp [ChunkSlotRows.size, ChunkSlotRows.resized]
  · rw [if_neg same]
    cases other <;>
      simp [ChunkSlotRows.size, ChunkSlotRows.resized, same]

/-- A vector with another size, and the capacity for it. -/
def ChunkSlot.resized (slot : ChunkSlot) (region : SourcePayloadRegion)
    (size : Nat) : ChunkSlot where
  rows := slot.rows.resized region size
  capacity := (slot.grown region size).capacity
  pipelinePrefetchSealed := slot.pipelinePrefetchSealed
  detachedOwnerMarker := slot.detachedOwnerMarker
  stored := by
    intro other
    apply Nat.le_trans (slot.rows.size_resized_le region other size)
    change _ ≤ Function.update slot.capacity region _ other
    rw [Function.update_apply]
    split
    · rename_i same
      rw [same]
      exact max_le_max (slot.stored region) (Nat.le_refl _)
    · exact slot.stored other

section Vectors

variable (grants : Allocator)

/-- `vector::reserve`. -/
def reserveVector (region : SourcePayloadRegion) (capacity : Nat)
    (state : Reservation) : Except Reservation Reservation :=
  if capacity ≤ state.slot.capacity region then .ok state
  else
    let request := AllocationRequest.mk region capacity
    let asked := state.requests ++ [request]
    if grants request then
      .ok { slot := state.slot.grown region capacity, requests := asked }
    else .error { state with requests := asked }

/-- `vector::assign` of equal elements. -/
def assignVector (region : SourcePayloadRegion) (size : Nat)
    (state : Reservation) : Except Reservation Reservation :=
  if size ≤ state.slot.capacity region then
    .ok { state with slot := state.slot.resized region size }
  else
    let request := AllocationRequest.mk region size
    let asked := state.requests ++ [request]
    if grants request then
      .ok { slot := state.slot.resized region size, requests := asked }
    else .error { state with requests := asked }

/-- `vector::clear`. -/
def clearVector (region : SourcePayloadRegion) (state : Reservation) :
    Reservation :=
  { state with slot := state.slot.resized region 0 }

/-- The capacity to which a vector is doubled. -/
def doubledCapacity (capacity required : Nat) : Nat :=
  let start := if capacity = 0 then 8 else capacity
  max (lookupBucketLoop required 32 start) required

def chunkSlotReserveAtLeast (region : SourcePayloadRegion) (required : Nat)
    (state : Reservation) : Except Reservation Reservation :=
  if required ≤ state.slot.capacity region then .ok state
  else
    reserveVector grants region
      (doubledCapacity (state.slot.capacity region) required) state

def rebuildLookup (family : LookupFamily) (bucketCount : Nat)
    (state : Reservation) : Except Reservation Reservation :=
  let records := state.slot.size family.records
  if records = 0 then
    .ok (clearVector family.next
      (clearVector family.tails (clearVector family.heads state)))
  else do
    let bucketCount :=
      max bucketCount (chunkSlotUniformLookupBucketCount records)
    let state ← assignVector grants family.heads bucketCount state
    let state ← assignVector grants family.tails bucketCount state
    assignVector grants family.next records state

/-- `reserveDrawUniformPayloadLookup` and `reserveDrawUniformStageLookup`. -/
def reserveLookup (family : LookupFamily) (recordCount : Nat)
    (state : Reservation) : Except Reservation Reservation :=
  if recordCount = 0 then .ok state
  else do
    let state ← chunkSlotReserveAtLeast grants family.next recordCount state
    let bucketCount := max (chunkSlotUniformLookupBucketCount recordCount)
      (state.slot.size family.heads)
    if state.slot.size family.heads < bucketCount ∨
        state.slot.size family.heads ≠ state.slot.size family.tails ∨
        state.slot.size family.next ≠ state.slot.size family.records then
      rebuildLookup grants family bucketCount state
    else .ok state

/-- The tables of one lookup of an empty slot. -/
def provisionLookup (family : LookupFamily) (count : Nat)
    (state : Reservation) : Except Reservation Reservation :=
  if count = 0 then .ok state
  else do
    let bucketCount := chunkSlotUniformLookupBucketCount count
    let extent :=
      if state.slot.size family.heads < bucketCount then bucketCount
      else state.slot.size family.heads
    let state ← assignVector grants family.heads extent state
    let state ← assignVector grants family.tails extent state
    chunkSlotReserveAtLeast grants family.next count
      (clearVector family.next state)

def provisionEmptyDrawUniformLookup (plan : SourcePayloadCapacity)
    (state : Reservation) : Except Reservation Reservation :=
  if lookupFamilies.any fun family =>
      state.slot.size family.records != 0 then
    .ok state
  else
    lookupFamilies.foldlM
      (fun state family =>
        provisionLookup grants family (plan family.records) state)
      state

/-- The reservation of a record vector; an extent that leaves the 64-bit
range ends the step before it asks for storage. -/
def reserveOrdinary (plan : SourcePayloadCapacity) (state : Reservation)
    (region : SourcePayloadRegion) : Except Reservation Reservation :=
  if kMaxSize - state.slot.size region < plan region then .error state
  else
    reserveVector grants region (state.slot.size region + plan region) state

/-- The reservation of the transaction that appends to a direct slot. -/
def reserveDirectSlot (slot : ChunkSlot) (plan : SourcePayloadCapacity) :
    Except Reservation Reservation := do
  let state : Reservation := { slot := slot }
  if slot.prefetchedPipelinesSealed || !slot.drawStateStorageConsistent ||
      !slot.commandPayloadsInRange || slot.detachedOwnerMarker.active then
    .error state
  else if !directSlotClearRectAccumulationFits slot then .error state
  else
    let state ← reservedRegions.foldlM (reserveOrdinary grants plan) state
    if plan .drawUniformPayloads = 0 then .ok state
    else
      lookupFamilies.foldlM
        (fun state family =>
          reserveLookup grants family
            (state.slot.size family.records + plan family.records) state)
        state

/-- The lookup tables of an empty slot are given their extent again.  The
result says whether the slot covers the plan afterwards. -/
def restoreDirectSlotLookupTables (slot : ChunkSlot)
    (plan : SourcePayloadCapacity) : Bool × Reservation :=
  match provisionEmptyDrawUniformLookup grants plan { slot := slot } with
  | .error state => (false, state)
  | .ok state => (directSlotPhysicalCapacityCovers state.slot plan, state)

end Vectors

end Dxmt9.DirectContinuation
