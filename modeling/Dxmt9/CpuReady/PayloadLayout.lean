import Mathlib.Logic.Function.Basic
import Dxmt9.CpuReady.ImportedChunk

/-!
# The capacity a record needs

What each record type adds to the regions of a source payload.  Every count
and every byte total stays a 32-bit number: an addition that would leave that
range fails.  After a failure what was added so far is not read.
-/

namespace Dxmt9.CpuReady

/-- The regions of a source payload, in layout order. -/
inductive SourcePayloadRegion where
  | commandHeaders
  | drawHotStates
  | drawShaderLayouts
  | drawDebugSnapshots
  | drawPsoSubviews
  | drawUniformFixedPayloads
  | drawUniformVertexConstants
  | drawUniformVertexConstantBytes
  | drawUniformPixelConstants
  | drawUniformPixelConstantBytes
  | drawUniformPayloads
  | drawUniformPayloadLookupHeads
  | drawUniformPayloadLookupTails
  | drawUniformPayloadLookupNext
  | drawUniformVertexConstantsLookupHeads
  | drawUniformVertexConstantsLookupTails
  | drawUniformVertexConstantsLookupNext
  | drawUniformPixelConstantsLookupHeads
  | drawUniformPixelConstantsLookupTails
  | drawUniformPixelConstantsLookupNext
  | drawParams
  | drawPayloadBytes
  | drawRunRecords
  | clearRecords
  | clearRects
  | surfaceCopyRecords
  | stretchRectRecords
  | readbackRecords
  | colorFillRecords
  | depthResolveRecords
  | generateMipmapsRecords
  | presentRecords
  deriving DecidableEq

def sourcePayloadRegions : List SourcePayloadRegion :=
  [.commandHeaders, .drawHotStates, .drawShaderLayouts, .drawDebugSnapshots,
    .drawPsoSubviews, .drawUniformFixedPayloads, .drawUniformVertexConstants,
    .drawUniformVertexConstantBytes, .drawUniformPixelConstants,
    .drawUniformPixelConstantBytes, .drawUniformPayloads,
    .drawUniformPayloadLookupHeads, .drawUniformPayloadLookupTails,
    .drawUniformPayloadLookupNext, .drawUniformVertexConstantsLookupHeads,
    .drawUniformVertexConstantsLookupTails,
    .drawUniformVertexConstantsLookupNext,
    .drawUniformPixelConstantsLookupHeads,
    .drawUniformPixelConstantsLookupTails,
    .drawUniformPixelConstantsLookupNext, .drawParams, .drawPayloadBytes,
    .drawRunRecords, .clearRecords, .clearRects, .surfaceCopyRecords,
    .stretchRectRecords, .readbackRecords, .colorFillRecords,
    .depthResolveRecords, .generateMipmapsRecords, .presentRecords]

theorem mem_sourcePayloadRegions (region : SourcePayloadRegion) :
    region ∈ sourcePayloadRegions := by
  cases region <;> decide

/-- How many elements of each region a source needs. -/
abbrev SourcePayloadCapacity := SourcePayloadRegion → Nat

def emptyCapacity : SourcePayloadCapacity := fun _ => 0

/-- The sizes of the types that the payload stores: of the elements of a
region, and of the values that draws append to the byte regions. -/
structure PayloadSizes where
  element : SourcePayloadRegion → Nat
  alignment : SourcePayloadRegion → Nat
  vertexShaderConstants : Nat
  pixelShaderConstants : Nat
  drawBindingOverride : Nat
  drawBindingSnapshot : Nat

/-- The largest 32-bit and the largest 64-bit number. -/
def kMaxU32 : Nat := 2 ^ 32 - 1

def kMaxSize : Nat := 2 ^ 64 - 1

def kArenaDrawPayloadAppendAlignment : Nat := 16

def addCount (target value : Nat) : Option Nat :=
  if kMaxU32 - target < value then none else some (target + value)

def multiplyU32Count (count elementSize : Nat) : Option Nat :=
  if elementSize ≠ 0 ∧ kMaxU32 / elementSize < count then none
  else some (count * elementSize)

def addAlignedBytes (target byteCount alignment : Nat) : Option Nat :=
  let mask := alignment - 1
  if alignment = 0 ∨ alignment &&& mask ≠ 0 ∨ kMaxU32 - mask < target then
    none
  else
    let aligned := (target + mask) / alignment * alignment
    if kMaxU32 - aligned < byteCount then none
    else some (aligned + byteCount)

/-- A count added to one region. -/
def SourcePayloadCapacity.addCount (capacity : SourcePayloadCapacity)
    (region : SourcePayloadRegion) (value : Nat) :
    Option SourcePayloadCapacity :=
  (CpuReady.addCount (capacity region) value).map
    (Function.update capacity region)

/-- One element added to each of several regions. -/
def SourcePayloadCapacity.addOnes (capacity : SourcePayloadCapacity) :
    List SourcePayloadRegion → Option SourcePayloadCapacity
  | [] => some capacity
  | region :: rest =>
      match capacity.addCount region 1 with
      | none => none
      | some added => addOnes added rest

/-- A byte range appended to the draw payload. -/
def SourcePayloadCapacity.addDrawPayload (capacity : SourcePayloadCapacity)
    (byteCount : Nat) : Option SourcePayloadCapacity :=
  (addAlignedBytes (capacity .drawPayloadBytes) byteCount
    kArenaDrawPayloadAppendAlignment).map
    (Function.update capacity .drawPayloadBytes)

/-! ## Draws -/

/-- A triangle fan is expanded into lists: the size of what is drawn instead
of each of its elements. -/
def triangleFanElementSize (type : RecordType) (draw : WireDrawHeader) :
    Option Nat :=
  match type with
  | .drawPrimitive =>
      some (if draw.primitiveCount.toNat ≤ 2 ^ 16 - 1 - 1 then 2 else 4)
  | .drawIndexedPrimitive => some 4
  | .drawIndexedPrimitiveUp => some (if draw.indexFormat = 102 then 4 else 2)
  | .drawPrimitiveUp => some draw.stride.toNat
  | _ => none

def addTriangleFanPayloadCapacity (capacity : SourcePayloadCapacity)
    (record : ImportedRecordView) (draw : WireDrawHeader) :
    Option SourcePayloadCapacity :=
  if kMaxU32 / 3 < draw.primitiveCount.toNat then none
  else
    match triangleFanElementSize record.header.type draw with
    | none => none
    | some elementSize =>
        match multiplyU32Count (draw.primitiveCount.toNat * 3) elementSize with
        | none => none
        | some byteCount =>
            if byteCount = 0 then some capacity
            else capacity.addDrawPayload byteCount

/-- Only a triangle fan is expanded. -/
def expandTriangleFan (capacity : SourcePayloadCapacity)
    (record : ImportedRecordView) (draw : WireDrawHeader) :
    Option SourcePayloadCapacity :=
  if draw.primitiveType ≠ 6 then some capacity
  else addTriangleFanPayloadCapacity capacity record draw

def sectionUpIndexData : UInt16 := 24

def sectionUpVertexData : UInt16 := 25

/-- Whether a section of a draw becomes draw payload.  The fan expansion
replaces the index data of an indexed fan and the vertex data of a plain
one. -/
def sectionAppends (type : RecordType) (draw : WireDrawHeader)
    (kind : UInt16) : Bool :=
  if kind = sectionUpIndexData ∧
      ¬(draw.primitiveType = 6 ∧ type = .drawIndexedPrimitiveUp) ∨
      kind = sectionUpVertexData then
    !(draw.primitiveType = 6 && type = .drawPrimitiveUp)
  else false

def addSectionCapacity (record : ImportedRecordView) (draw : WireDrawHeader)
    (capacity : SourcePayloadCapacity) (index : Nat) :
    Option SourcePayloadCapacity :=
  let view := record.section index
  if view.payload.length ≠ view.descriptor.byteSize.toNat then none
  else if sectionAppends record.header.type draw view.descriptor.kind then
    capacity.addDrawPayload view.descriptor.byteSize.toNat
  else some capacity

/-- The regions that a draw takes one element of. -/
def drawRegions : List SourcePayloadRegion :=
  [.commandHeaders, .drawHotStates, .drawShaderLayouts, .drawDebugSnapshots,
    .drawPsoSubviews, .drawUniformFixedPayloads, .drawUniformVertexConstants,
    .drawUniformPixelConstants, .drawUniformPayloads, .drawParams,
    .drawRunRecords]

def addDrawCapacities (sizes : PayloadSizes)
    (capacity : SourcePayloadCapacity) (record : ImportedRecordView)
    (draw : WireDrawHeader) : Option SourcePayloadCapacity := do
  let counted ← capacity.addOnes drawRegions
  let sectioned ← (List.range record.sections.length).foldlM
    (addSectionCapacity record draw) counted
  let expanded ← expandTriangleFan sectioned record draw
  let overridden ← expanded.addDrawPayload sizes.drawBindingOverride
  overridden.addDrawPayload sizes.drawBindingSnapshot

/-! ## Records -/

inductive RecordCapacityDeltaResult where
  | stateOnly
  | gpuProducing
  | invalid
  | overflow
  | unsupported
  deriving DecidableEq

structure RecordCapacityDelta where
  result : RecordCapacityDeltaResult
  capacity : SourcePayloadCapacity
  drawCount : Nat

/-- The outcome of a command that takes a header, an element of its own
region and further elements of a third one. -/
def addCommandCapacity (capacity : SourcePayloadCapacity) (drawCount : Nat)
    (region : SourcePayloadRegion) (extra : List (SourcePayloadRegion × Nat)) :
    RecordCapacityDelta :=
  match (capacity.addOnes [.commandHeaders, region]).bind fun added =>
      extra.foldlM (fun total entry => total.addCount entry.1 entry.2)
        added with
  | none => ⟨.overflow, capacity, drawCount⟩
  | some added => ⟨.gpuProducing, added, drawCount⟩

/-- What a draw record adds. -/
def addDrawRecordCapacity (sizes : PayloadSizes)
    (capacity : SourcePayloadCapacity) (drawCount : Nat)
    (record : ImportedRecordView) : RecordCapacityDelta :=
  let draw := loadDrawHeader record.payload
  if record.payload.length < drawHeaderSize ∨ draw.primitiveType < 1 ∨
      6 < draw.primitiveType then
    ⟨.invalid, capacity, drawCount⟩
  else
    match addDrawCapacities sizes capacity record draw,
      addCount drawCount 1 with
    | some added, some count => ⟨.gpuProducing, added, count⟩
    | _, _ => ⟨.overflow, capacity, drawCount⟩

def addDirectRecordCapacity (sizes : PayloadSizes)
    (capacity : SourcePayloadCapacity) (drawCount : Nat)
    (record : ImportedRecordView) : RecordCapacityDelta :=
  match record.header.type with
  | .drawPrimitive | .drawIndexedPrimitive | .drawPrimitiveUp
  | .drawIndexedPrimitiveUp =>
      addDrawRecordCapacity sizes capacity drawCount record
  | .setVsConstF | .setVsConstI | .setVsConstB | .setPsConstF
  | .setPsConstI | .setPsConstB | .applyState =>
      ⟨.stateOnly, capacity, drawCount⟩
  | .clear =>
      if record.payload.length < clearSize then
        ⟨.invalid, capacity, drawCount⟩
      else
        addCommandCapacity capacity drawCount .clearRecords
          [(.clearRects, (loadU32 record.payload 16).toNat)]
  | .updateSurface =>
      addCommandCapacity capacity drawCount .surfaceCopyRecords []
  | .stretchRect =>
      addCommandCapacity capacity drawCount .stretchRectRecords []
  | .colorFill =>
      addCommandCapacity capacity drawCount .colorFillRecords []
  | .reszDepthResolve =>
      addCommandCapacity capacity drawCount .depthResolveRecords []
  | .generateMipmaps =>
      addCommandCapacity capacity drawCount .generateMipmapsRecords []
  | .present =>
      if record.payload.length < presentSize then
        ⟨.invalid, capacity, drawCount⟩
      else addCommandCapacity capacity drawCount .presentRecords []
  | .updateTexture | .queryIssue | .readback | .other _ =>
      ⟨.unsupported, capacity, drawCount⟩

def computeRecordCapacityDelta (sizes : PayloadSizes)
    (record : ImportedRecordView) : RecordCapacityDelta :=
  addDirectRecordCapacity sizes emptyCapacity 0 record

/-- Whether a delta fits on top of a total in every region. -/
def deltaFits (target delta : SourcePayloadCapacity) : Bool :=
  sourcePayloadRegions.all fun region =>
    target region ≤ kMaxU32 && delta region ≤ kMaxU32 - target region

def applyRecordCapacityDelta (target : SourcePayloadCapacity)
    (drawCount : Nat) (delta : RecordCapacityDelta) :
    Option (SourcePayloadCapacity × Nat) :=
  if delta.result ≠ .stateOnly ∧ delta.result ≠ .gpuProducing then none
  else if kMaxU32 < drawCount ∨ kMaxU32 - drawCount < delta.drawCount then
    none
  else if deltaFits target delta.capacity then
    some (fun region => target region + delta.capacity region,
      drawCount + delta.drawCount)
  else none

/-- The doubling loop behind the size of a lookup table.  A table has at most
`2 ^ 31` buckets, so the steps it may take never run out. -/
def lookupBucketLoop (target : Nat) : Nat → Nat → Nat
  | 0, bucketCount => bucketCount
  | steps + 1, bucketCount =>
      if bucketCount < target ∧ bucketCount ≤ kMaxU32 / 2 then
        lookupBucketLoop target steps (bucketCount * 2)
      else bucketCount

def chunkSlotUniformLookupBucketCount (payloadCount : Nat) : Nat :=
  let target :=
    if kMaxU32 / 2 < payloadCount then kMaxU32 else payloadCount * 2
  lookupBucketLoop target 32 8

def applyDerivedDrawCapacity (sizes : PayloadSizes)
    (capacity : SourcePayloadCapacity) (drawCount : Nat) :
    SourcePayloadCapacity
  | .drawUniformVertexConstantBytes => drawCount * sizes.vertexShaderConstants
  | .drawUniformPixelConstantBytes => drawCount * sizes.pixelShaderConstants
  | .drawUniformPayloadLookupHeads | .drawUniformPayloadLookupTails
  | .drawUniformVertexConstantsLookupHeads
  | .drawUniformVertexConstantsLookupTails
  | .drawUniformPixelConstantsLookupHeads
  | .drawUniformPixelConstantsLookupTails =>
      chunkSlotUniformLookupBucketCount drawCount
  | .drawUniformPayloadLookupNext | .drawUniformVertexConstantsLookupNext
  | .drawUniformPixelConstantsLookupNext => drawCount
  | region => capacity region

def addDerivedDrawCapacity (sizes : PayloadSizes)
    (capacity : SourcePayloadCapacity) (drawCount : Nat) :
    Option SourcePayloadCapacity :=
  match multiplyU32Count drawCount sizes.vertexShaderConstants,
    multiplyU32Count drawCount sizes.pixelShaderConstants with
  | some vertexConstantBytes, some pixelConstantBytes =>
      let derived := applyDerivedDrawCapacity sizes capacity drawCount
      if derived .drawUniformVertexConstantBytes = vertexConstantBytes ∧
          derived .drawUniformPixelConstantBytes = pixelConstantBytes then
        some derived
      else none
  | _, _ => none

end Dxmt9.CpuReady

/-!
## The layout of a source payload

The regions of a payload behind one another, each at its own alignment, and
several such payloads packed into one extent.
-/

namespace Dxmt9.CpuReady

def isPowerOfTwo (value : Nat) : Bool :=
  value != 0 && value &&& (value - 1) == 0

def checkedAdd (lhs rhs : Nat) : Option Nat :=
  if kMaxSize - lhs < rhs then none else some (lhs + rhs)

def checkedMultiply (lhs rhs : Nat) : Option Nat :=
  if lhs ≠ 0 ∧ kMaxSize / lhs < rhs then none else some (lhs * rhs)

def checkedAlignUp (value alignment : Nat) : Option Nat :=
  if !isPowerOfTwo alignment then none
  else
    let mask := alignment - 1
    if kMaxSize - mask < value then none
    else some ((value + mask) / alignment * alignment)

def kSourcePayloadByteAlignment : Nat := 16

/-- The size of an element of a region. -/
def regionElementSize (sizes : PayloadSizes) : SourcePayloadRegion → Nat
  | .drawUniformVertexConstantBytes | .drawUniformPixelConstantBytes
  | .drawPayloadBytes => 1
  | .drawUniformPayloadLookupHeads | .drawUniformPayloadLookupTails
  | .drawUniformPayloadLookupNext | .drawUniformVertexConstantsLookupHeads
  | .drawUniformVertexConstantsLookupTails
  | .drawUniformVertexConstantsLookupNext
  | .drawUniformPixelConstantsLookupHeads
  | .drawUniformPixelConstantsLookupTails
  | .drawUniformPixelConstantsLookupNext => 4
  | region => sizes.element region

/-- The alignment of a region. -/
def regionAlignment (sizes : PayloadSizes) : SourcePayloadRegion → Nat
  | .drawUniformVertexConstantBytes | .drawUniformPixelConstantBytes
  | .drawPayloadBytes => kSourcePayloadByteAlignment
  | .drawUniformPayloadLookupHeads | .drawUniformPayloadLookupTails
  | .drawUniformPayloadLookupNext | .drawUniformVertexConstantsLookupHeads
  | .drawUniformVertexConstantsLookupTails
  | .drawUniformVertexConstantsLookupNext
  | .drawUniformPixelConstantsLookupHeads
  | .drawUniformPixelConstantsLookupTails
  | .drawUniformPixelConstantsLookupNext => 4
  | region => sizes.alignment region

structure SourcePayloadLayoutRegion where
  id : SourcePayloadRegion
  offset : Nat
  byteCount : Nat
  alignment : Nat
  elementCount : Nat
  elementSize : Nat
  deriving DecidableEq

structure SourcePayloadLayout where
  regions : List SourcePayloadLayoutRegion := []
  usedBytes : Nat := 0
  pageCount : Nat := 0
  maximumAlignment : Nat := 1
  requiredBaseAlignment : Nat := 1
  deriving DecidableEq

/-- A region placed behind what is used so far. -/
def placeRegion (sizes : PayloadSizes) (capacity : SourcePayloadCapacity)
    (layout : SourcePayloadLayout) (region : SourcePayloadRegion) :
    Option SourcePayloadLayout :=
  if kMaxU32 < capacity region then none
  else do
    let alignment := regionAlignment sizes region
    let elementSize := regionElementSize sizes region
    let offset ← checkedAlignUp layout.usedBytes alignment
    let byteCount ← checkedMultiply (capacity region) elementSize
    let stop ← checkedAdd offset byteCount
    return { layout with
      regions := layout.regions ++
        [{ id := region
           offset := offset
           byteCount := byteCount
           alignment := alignment
           elementCount := capacity region
           elementSize := elementSize }]
      usedBytes := stop
      maximumAlignment := max layout.maximumAlignment alignment }

def makeSourcePayloadLayout (sizes : PayloadSizes)
    (capacity : SourcePayloadCapacity) (pageSize maxPages : Nat) :
    Option SourcePayloadLayout :=
  if pageSize = 0 ∨ maxPages = 0 then none
  else
    match sourcePayloadRegions.foldlM (placeRegion sizes capacity) {} with
    | none => none
    | some placed =>
        let layout :=
          { placed with requiredBaseAlignment := placed.maximumAlignment }
        if pageSize % layout.requiredBaseAlignment ≠ 0 then none
        else if layout.usedBytes = 0 then some layout
        else if kMaxSize - (pageSize - 1) < layout.usedBytes then none
        else
          let pages := (layout.usedBytes + pageSize - 1) / pageSize
          if kMaxU32 < pages ∨ maxPages < pages then none
          else some { layout with pageCount := pages }

def kMaxArenaSourcePayloadSegments : Nat := 8

structure ArenaSourcePayloadSegmentLayout where
  layout : SourcePayloadLayout
  byteOffset : Nat
  deriving DecidableEq

structure ArenaSourcePayloadLayout where
  segments : List ArenaSourcePayloadSegmentLayout := []
  segmentCount : Nat := 0
  usedBytes : Nat := 0
  pageCount : Nat := 0
  deriving DecidableEq

/-- A payload packed behind what is used so far. -/
def placeSegment (pageSize : Nat) (result : ArenaSourcePayloadLayout)
    (segment : SourcePayloadLayout) : Option ArenaSourcePayloadLayout :=
  if segment.usedBytes = 0 ∨ segment.pageCount = 0 ∨
      !isPowerOfTwo segment.requiredBaseAlignment ∨
      pageSize % segment.requiredBaseAlignment ≠ 0 then
    none
  else do
    let offset ← checkedAlignUp result.usedBytes segment.requiredBaseAlignment
    let stop ← checkedAdd offset segment.usedBytes
    return { result with
      segments := result.segments ++ [⟨segment, offset⟩]
      usedBytes := stop }

def makeArenaSourcePayloadLayout (segments : List SourcePayloadLayout)
    (pageSize maxPages : Nat) : Option ArenaSourcePayloadLayout :=
  if segments = [] ∨ kMaxArenaSourcePayloadSegments < segments.length ∨
      pageSize = 0 ∨ maxPages = 0 then
    none
  else
    match segments.foldlM (placeSegment pageSize) {} with
    | none => none
    | some placed =>
        if kMaxSize - (pageSize - 1) < placed.usedBytes then none
        else
          let pages := (placed.usedBytes + pageSize - 1) / pageSize
          if pages = 0 ∨ maxPages < pages ∨ kMaxU32 < pages then none
          else
            some { placed with
              segmentCount := segments.length
              pageCount := pages }

end Dxmt9.CpuReady
