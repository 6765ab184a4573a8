import Dxmt9.CpuReady.ImportedChunk
import Dxmt9.SessionRelease.SessionReleaseState
import Dxmt9.CpuReady.EmissionPlan

/-!
# Plans of chunks

The controls that a plan keeps in order, and the plan itself.

## Ordered controls

The disposition of a Query, a Readback or an UpdateTexture, built from the
record alone.
-/

namespace Dxmt9.CpuReady

open SessionRelease

/-- The index that names no handle and the index that names no record. -/
def kNoOrderedControlHandleIndex : UInt32 := 0xFFFFFFFF

def kNoOrderedControlRecordIndex : Nat := 2 ^ 32 - 1

inductive OrderedControlKind where
  | invalid
  | query
  | readback
  | updateTexture
  deriving DecidableEq

structure OrderedControlDisposition where
  kind : OrderedControlKind := .invalid
  requiredReleaseAction : SessionReleaseAction := .closePass
  rawOrdinal : Nat := 0
  recordIndex : Nat := kNoOrderedControlRecordIndex
  recordType : RecordType := .other 0
  firstHandle : UInt32 := 0
  handleCount : UInt32 := 0
  primaryHandleIndex : UInt32 := kNoOrderedControlHandleIndex
  secondaryHandleIndex : UInt32 := kNoOrderedControlHandleIndex
  controlFlags : UInt32 := 0
  deriving DecidableEq

def handleWithinRecord (disposition : OrderedControlDisposition)
    (handleIndex : UInt32) : Bool :=
  handleIndex != kNoOrderedControlHandleIndex &&
    decide (disposition.firstHandle ≤ handleIndex) &&
    decide (handleIndex.toNat <
      disposition.firstHandle.toNat + disposition.handleCount.toNat)

/-- What a control with two handles needs. -/
def OrderedControlDisposition.validPair
    (disposition : OrderedControlDisposition) (type : RecordType)
    (action : SessionReleaseAction) : Bool :=
  disposition.recordType == type &&
    disposition.requiredReleaseAction == action &&
    disposition.handleCount == 2 && disposition.controlFlags == 0 &&
    handleWithinRecord disposition disposition.secondaryHandleIndex &&
    disposition.primaryHandleIndex != disposition.secondaryHandleIndex

def OrderedControlDisposition.valid
    (disposition : OrderedControlDisposition) : Bool :=
  if disposition.rawOrdinal = 0 ∨
      disposition.recordIndex = kNoOrderedControlRecordIndex ∨
      disposition.handleCount = 0 ∨
      !handleWithinRecord disposition disposition.primaryHandleIndex then
    false
  else
    match disposition.kind with
    | .query =>
        disposition.recordType == .queryIssue &&
          disposition.requiredReleaseAction == .closePass &&
          disposition.handleCount == 1 &&
          disposition.secondaryHandleIndex == kNoOrderedControlHandleIndex
    | .readback => disposition.validPair .readback .submitAndWait
    | .updateTexture => disposition.validPair .updateTexture .submitSession
    | .invalid => false

def makeOrderedControlDisposition (record : ImportedRecordView)
    (rawOrdinal recordIndex : Nat) : Option OrderedControlDisposition :=
  if rawOrdinal = 0 ∨ kNoOrderedControlRecordIndex ≤ recordIndex then none
  else
    let disposition : OrderedControlDisposition :=
      { rawOrdinal := rawOrdinal
        recordIndex := recordIndex
        recordType := record.header.type
        firstHandle := record.header.firstHandle
        handleCount := record.header.handleCount }
    let filled : Option OrderedControlDisposition :=
      match record.header.type with
      | .queryIssue =>
          if record.payload.length < queryIssueSize then none
          else
            some { disposition with
              kind := .query
              requiredReleaseAction := .closePass
              primaryHandleIndex := loadU32 record.payload 0
              controlFlags := loadU32 record.payload 4 }
      | .readback =>
          if record.payload.length < readbackSize then none
          else
            some { disposition with
              kind := .readback
              requiredReleaseAction := .submitAndWait
              primaryHandleIndex := loadU32 record.payload 0
              secondaryHandleIndex := loadU32 record.payload 4 }
      | .updateTexture =>
          if record.payload.length < updateTextureSize then none
          else
            some { disposition with
              kind := .updateTexture
              requiredReleaseAction := .submitSession
              primaryHandleIndex := loadU32 record.payload 0
              secondaryHandleIndex := loadU32 record.payload 4 }
      | _ => none
    filled.filter OrderedControlDisposition.valid

end Dxmt9.CpuReady

/-!
## The CPU-ready plan of a chunk

The records grouped into construction segments, each as large as its page
limit allows, and the segments grouped into sources.  A plan that does not
come to an end is a fallback.
-/

namespace Dxmt9.CpuReady

inductive ReplayLane where
  | directArenaCandidate
  | stateOnly
  | legacy
  | inline
  | reject
  deriving DecidableEq

inductive ReplayReason where
  | eligible
  | query
  | readback
  | updateTexture
  | present
  | triangleFan
  | unknownRecord
  | invalidImportedView
  | structuralOverflow
  | oversize
  deriving DecidableEq

structure CpuReadyPlanOptions where
  pageSize : Nat := 4096
  maxOrdinaryPagesPerSegment : Nat := 64
  maxSegmentsPerSource : Nat := kMaxArenaSourcePayloadSegments
  maxPagesPerSource : Nat := kMaxU32
  maxPages : Nat := kMaxU32
  maxSourcesPerChunk : Nat := 1
  deriving DecidableEq

/-- The bound on the pages of a source. -/
def CpuReadyPlanOptions.sourcePages (options : CpuReadyPlanOptions) : Nat :=
  min options.maxPages options.maxPagesPerSource

structure CpuReadySegmentPlan where
  firstRecordIndex : Nat
  recordCount : Nat
  jumbo : Bool
  capacity : SourcePayloadCapacity
  layout : SourcePayloadLayout

structure CpuReadySourcePlan where
  firstSegmentIndex : Nat
  segmentCount : Nat
  firstRecordIndex : Nat
  recordCount : Nat
  jumbo : Bool
  arenaLayout : ArenaSourcePayloadLayout

structure CpuReadyPlan where
  rawOrdinal : Nat := 0
  lane : ReplayLane := .legacy
  reason : ReplayReason := .invalidImportedView
  logicalSource : Bool := false
  capacity : SourcePayloadCapacity := emptyCapacity
  segments : List CpuReadySegmentPlan := []
  segmentCount : Nat := 0
  sources : List CpuReadySourcePlan := []
  sourceCount : Nat := 0
  arenaLayout : Option ArenaSourcePayloadLayout := none
  directSlotCapacity : SourcePayloadCapacity := emptyCapacity
  directSlotLayout : Option SourcePayloadLayout := none
  directSlotSingleSource : Bool := false
  containsOrderedControls : Bool := false
  layout : Option SourcePayloadLayout := none

def fallback (rawOrdinal : Nat) (lane : ReplayLane) (reason : ReplayReason)
    (containsOrderedControls : Bool) : CpuReadyPlan :=
  { rawOrdinal := rawOrdinal
    lane := lane
    reason := reason
    containsOrderedControls := containsOrderedControls }

inductive IslandMembership where
  | draw
  | stateOnly
  | outside
  | malformed
  deriving DecidableEq

def islandMembership (imported : ImportedChunkView) (index : Nat) :
    IslandMembership :=
  let record := imported.record index
  if !imported.recordAgrees index then .malformed
  else
    match recordRule record.header.type, recordTopology record.header.type with
    | some rule, some topology =>
        if record.payload.length < rule.fixedPayloadSize then .malformed
        else if !topology.islandResident then .outside
        else if topology.topology ≠ .directDraw then .stateOnly
        else if record.drawHeader.primitiveType < 1 ∨
            6 < record.drawHeader.primitiveType then
          .malformed
        else if directDrawRecordSupported imported index then .draw
        else .outside
    | _, _ => .outside

/-- A record added to the capacity of the direct slot, and whether a draw has
been seen. -/
def addSlotRecord (sizes : PayloadSizes) (imported : ImportedChunkView)
    (total : SourcePayloadCapacity × Nat × Bool) (index : Nat) :
    Option (SourcePayloadCapacity × Nat × Bool) :=
  let added :=
    addDirectRecordCapacity sizes total.1 total.2.1 (imported.record index)
  match islandMembership imported index with
  | .draw =>
      if added.result ≠ .gpuProducing then none
      else some (added.capacity, added.drawCount, true)
  | .stateOnly =>
      if added.result ≠ .stateOnly then none
      else some (added.capacity, added.drawCount, total.2.2)
  | .outside | .malformed => none

def makeDirectSlotCapacity (sizes : PayloadSizes)
    (imported : ImportedChunkView) (pageSize : Nat) :
    Option (SourcePayloadCapacity × SourcePayloadLayout) :=
  match (List.range imported.records.length).foldlM
    (addSlotRecord sizes imported) (emptyCapacity, 0, false) with
  | none => none
  | some (total, drawCount, sawDraw) =>
      if !sawDraw then none
      else
        match addDerivedDrawCapacity sizes total drawCount with
        | none => none
        | some capacity =>
            (makeSourcePayloadLayout sizes capacity pageSize kMaxU32).map
              fun layout => (capacity, layout)

def oversizedFallback (sizes : PayloadSizes) (options : CpuReadyPlanOptions)
    (imported : ImportedChunkView) (rawOrdinal : Nat) : CpuReadyPlan :=
  let result := fallback rawOrdinal .legacy .oversize false
  match makeDirectSlotCapacity sizes imported options.pageSize with
  | none => result
  | some (capacity, layout) =>
      { result with
        directSlotCapacity := capacity
        directSlotLayout := some layout
        directSlotSingleSource := true }

/-- The controls found so far, and the lane and reason they ask for. -/
structure ControlScan where
  containsOrderedControls : Bool := false
  lane : ReplayLane := .legacy
  reason : ReplayReason := .eligible

/-- The reason that a control gives. -/
def controlReason : RecordType → Option ReplayReason
  | .queryIssue => some .query
  | .readback => some .readback
  | .updateTexture => some .updateTexture
  | _ => none

def ControlScan.step (imported : ImportedChunkView) (rawOrdinal : Nat)
    (scan : ControlScan) (index : Nat) : Except CpuReadyPlan ControlScan :=
  let record := imported.record index
  if !imported.recordAgrees index then
    .error (fallback rawOrdinal .reject .invalidImportedView false)
  else
    match controlReason record.header.type with
    | none => .ok scan
    | some reason =>
        match makeOrderedControlDisposition record rawOrdinal index with
        | none =>
            .error (fallback rawOrdinal .reject .invalidImportedView false)
        | some _ =>
            let first := if scan.containsOrderedControls then scan.reason
              else reason
            .ok
              { containsOrderedControls := true
                lane := if reason = .readback then .inline else scan.lane
                reason := if reason = .readback then reason else first }

/-! ## Segments -/

structure SegmentAccumulator where
  capacity : SourcePayloadCapacity := emptyCapacity
  drawCount : Nat := 0
  firstRecordIndex : Nat := 0
  lastRecordIndex : Nat := 0
  active : Bool := false

def makeSegmentLayout (sizes : PayloadSizes)
    (baseCapacity : SourcePayloadCapacity) (drawCount pageSize : Nat) :
    Option SourcePayloadLayout :=
  match addDerivedDrawCapacity sizes baseCapacity drawCount with
  | none => none
  | some capacity => makeSourcePayloadLayout sizes capacity pageSize kMaxU32

def appendSegment (sizes : PayloadSizes) (options : CpuReadyPlanOptions)
    (plan : CpuReadyPlan) (segment : SegmentAccumulator) (jumbo : Bool) :
    Option CpuReadyPlan :=
  if !segment.active then none
  else
    match addDerivedDrawCapacity sizes segment.capacity segment.drawCount with
    | none => none
    | some capacity =>
        match makeSourcePayloadLayout sizes capacity options.pageSize
          kMaxU32 with
        | none => none
        | some layout =>
            if kMaxU32 < segment.firstRecordIndex ∨
                segment.lastRecordIndex < segment.firstRecordIndex ∨
                kMaxU32 ≤
                  segment.lastRecordIndex - segment.firstRecordIndex then
              none
            else
              some { plan with
                segments := plan.segments ++
                  [{ firstRecordIndex := castU32 segment.firstRecordIndex
                     recordCount :=
                       castU32 (segment.lastRecordIndex -
                         segment.firstRecordIndex + 1)
                     jumbo := jumbo
                     capacity := capacity
                     layout := layout }]
                segmentCount := plan.segmentCount + 1 }

/-- The plan so far and the segment that is still growing. -/
structure ChunkPass where
  plan : CpuReadyPlan
  totalDrawCount : Nat := 0
  current : SegmentAccumulator := {}
  sawPresent : Bool := false
  nextSegmentRecordIndex : Nat := 0

/-- A record added to a segment, with the layout it then has. -/
def SegmentAccumulator.extend (sizes : PayloadSizes)
    (options : CpuReadyPlanOptions) (segment : SegmentAccumulator)
    (record : ImportedRecordView) :
    Option (SegmentAccumulator × SourcePayloadLayout) :=
  let added := addDirectRecordCapacity sizes segment.capacity
    segment.drawCount record
  if added.result ≠ .gpuProducing then none
  else
    (makeSegmentLayout sizes added.capacity added.drawCount
      options.pageSize).map fun layout =>
      ({ segment with
          capacity := added.capacity
          drawCount := added.drawCount }, layout)

/-- The growing segment closed, if there is one. -/
def ChunkPass.closeCurrent (sizes : PayloadSizes)
    (options : CpuReadyPlanOptions) (pass : ChunkPass) : Option ChunkPass :=
  if pass.current.active then
    match appendSegment sizes options pass.plan pass.current false with
    | none => none
    | some plan =>
        some { pass with
          plan := plan
          nextSegmentRecordIndex := pass.current.lastRecordIndex + 1 }
  else some pass

/-- The growing segment replaced, and a source known to be there. -/
def ChunkPass.withCurrent (pass : ChunkPass) (current : SegmentAccumulator) :
    ChunkPass :=
  { pass with
    current := current
    plan := { pass.plan with logicalSource := true } }

/-- A record that starts a segment of its own, a jumbo one if it must. -/
def ChunkPass.startSegment (sizes : PayloadSizes)
    (options : CpuReadyPlanOptions) (imported : ImportedChunkView)
    (rawOrdinal : Nat) (pass : ChunkPass) (index : Nat) :
    Except CpuReadyPlan ChunkPass :=
  let alone : SegmentAccumulator :=
    { firstRecordIndex := pass.nextSegmentRecordIndex
      lastRecordIndex := index
      active := true }
  match alone.extend sizes options (imported.record index) with
  | none => .error (fallback rawOrdinal .reject .structuralOverflow false)
  | some (indivisible, layout) =>
      if options.maxOrdinaryPagesPerSegment < layout.pageCount then
        if options.sourcePages < layout.pageCount then
          .error (oversizedFallback sizes options imported rawOrdinal)
        else
          match appendSegment sizes options pass.plan indivisible true with
          | none => .error (oversizedFallback sizes options imported rawOrdinal)
          | some plan =>
              .ok (({ pass with
                plan := plan
                nextSegmentRecordIndex := index + 1 }).withCurrent {})
      else .ok (pass.withCurrent indivisible)

/-- The growing segment as it would be with a record at an index. -/
def ChunkPass.candidate (pass : ChunkPass) (index : Nat) :
    SegmentAccumulator :=
  if pass.current.active then { pass.current with lastRecordIndex := index }
  else
    { pass.current with
      active := true
      firstRecordIndex := pass.nextSegmentRecordIndex
      lastRecordIndex := index }

def ChunkPass.growSegment (sizes : PayloadSizes)
    (options : CpuReadyPlanOptions) (imported : ImportedChunkView)
    (rawOrdinal : Nat) (pass : ChunkPass) (index : Nat) :
    Except CpuReadyPlan ChunkPass :=
  match (pass.candidate index).extend sizes options
    (imported.record index) with
  | none => .error (fallback rawOrdinal .reject .structuralOverflow false)
  | some (candidate, layout) =>
      if layout.pageCount ≤ options.maxOrdinaryPagesPerSegment then
        .ok (pass.withCurrent candidate)
      else
        match pass.closeCurrent sizes options with
        | none => .error (oversizedFallback sizes options imported rawOrdinal)
        | some closed =>
            closed.startSegment sizes options imported rawOrdinal index

/-- What the whole raw needs so far. -/
def ChunkPass.withTotals (pass : ChunkPass)
    (capacity : SourcePayloadCapacity) (drawCount : Nat) : ChunkPass :=
  { pass with
    plan := { pass.plan with capacity := capacity }
    totalDrawCount := drawCount }

/-- A record of any type but a second or an early Present. -/
def ChunkPass.addRecord (sizes : PayloadSizes)
    (options : CpuReadyPlanOptions) (imported : ImportedChunkView)
    (rawOrdinal : Nat) (pass : ChunkPass) (index : Nat) :
    Except CpuReadyPlan ChunkPass :=
  let added := addDirectRecordCapacity sizes pass.plan.capacity
    pass.totalDrawCount (imported.record index)
  let counted := pass.withTotals added.capacity added.drawCount
  match added.result with
  | .invalid =>
      .error (fallback rawOrdinal .reject .invalidImportedView false)
  | .overflow =>
      .error (fallback rawOrdinal .reject .structuralOverflow false)
  | .unsupported =>
      .error (fallback rawOrdinal .reject .unknownRecord false)
  | .stateOnly => .ok counted
  | .gpuProducing =>
      counted.growSegment sizes options imported rawOrdinal index

def ChunkPass.step (sizes : PayloadSizes) (options : CpuReadyPlanOptions)
    (imported : ImportedChunkView) (rawOrdinal : Nat) (pass : ChunkPass)
    (index : Nat) : Except CpuReadyPlan ChunkPass :=
  if !imported.recordAgrees index then
    .error (fallback rawOrdinal .reject .invalidImportedView false)
  else if (imported.record index).header.type = .present then
    if pass.sawPresent ∨ index + 1 ≠ imported.records.length then
      .error (fallback rawOrdinal .legacy .present false)
    else
      ({ pass with sawPresent := true }).addRecord sizes options imported
        rawOrdinal index
  else pass.addRecord sizes options imported rawOrdinal index

/-- The segments a source takes from those that remain, and its layout. -/
def growSource (options : CpuReadyPlanOptions) :
    List CpuReadySegmentPlan → Option ArenaSourcePayloadLayout →
      List CpuReadySegmentPlan →
        List CpuReadySegmentPlan × Option ArenaSourcePayloadLayout ×
          List CpuReadySegmentPlan
  | held, layout, [] => (held, layout, [])
  | held, layout, segment :: rest =>
      if held.length < options.maxSegmentsPerSource then
        match makeArenaSourcePayloadLayout
          ((held ++ [segment]).map CpuReadySegmentPlan.layout)
          options.pageSize options.sourcePages with
        | none => (held, layout, segment :: rest)
        | some grown => growSource options (held ++ [segment]) (some grown) rest
      else (held, layout, segment :: rest)

/-- The source of some consecutive segments. -/
def makeSource (sourceSegmentBegin : Nat) (held : List CpuReadySegmentPlan)
    (first last : CpuReadySegmentPlan) (layout : ArenaSourcePayloadLayout) :
    CpuReadySourcePlan where
  firstSegmentIndex := castU32 sourceSegmentBegin
  segmentCount := castU32 held.length
  firstRecordIndex := first.firstRecordIndex
  recordCount :=
    castU32 (last.firstRecordIndex + last.recordCount -
      first.firstRecordIndex)
  jumbo := held.any CpuReadySegmentPlan.jumbo
  arenaLayout := layout

/-- The checks on the numbers of a source. -/
def sourceOverflows (sourceSegmentBegin : Nat)
    (held : List CpuReadySegmentPlan) (first last : CpuReadySegmentPlan) :
    Bool :=
  decide (last.firstRecordIndex < first.firstRecordIndex) ||
    decide (kMaxU32 - last.firstRecordIndex < last.recordCount) ||
    decide (last.firstRecordIndex + last.recordCount <
      first.firstRecordIndex) ||
    last.firstRecordIndex + last.recordCount - first.firstRecordIndex == 0 ||
    decide (kMaxU32 < sourceSegmentBegin) || decide (kMaxU32 < held.length)

/-- The remaining segments grouped into sources.  Every source takes a
segment, so as many steps as segments are enough. -/
def groupSources (options : CpuReadyPlanOptions) (oversized : CpuReadyPlan)
    (rawOrdinal : Nat) :
    Nat → Nat → List CpuReadySegmentPlan → List CpuReadySourcePlan →
      Except CpuReadyPlan (List CpuReadySourcePlan)
  | _, _, [], sources => .ok sources
  | 0, _, _ :: _, _ => .error oversized
  | steps + 1, sourceSegmentBegin, remaining, sources =>
      if options.maxSourcesPerChunk ≤ sources.length then .error oversized
      else
        match growSource options [] none remaining with
        | (held, some layout, rest) =>
            match held.head?, held.getLast? with
            | some first, some last =>
                if sourceOverflows sourceSegmentBegin held first last then
                  .error
                    (fallback rawOrdinal .reject .structuralOverflow false)
                else
                  groupSources options oversized rawOrdinal steps
                    (sourceSegmentBegin + held.length) rest
                    (sources ++
                      [makeSource sourceSegmentBegin held first last layout])
            | _, _ => .error oversized
        | (_, none, _) => .error oversized

/-- The segment that grows last takes the state records behind it. -/
def ChunkPass.closeTail (sizes : PayloadSizes)
    (options : CpuReadyPlanOptions) (imported : ImportedChunkView)
    (rawOrdinal : Nat) (pass : ChunkPass) : Except CpuReadyPlan CpuReadyPlan :=
  let size := imported.records.length
  if pass.current.active then
    match appendSegment sizes options pass.plan
      { pass.current with lastRecordIndex := size - 1 } false with
    | none => .error (oversizedFallback sizes options imported rawOrdinal)
    | some plan => .ok plan
  else if pass.nextSegmentRecordIndex < size then
    match pass.plan.segments.getLast? with
    | none => .ok pass.plan
    | some tail =>
        let tailCount := size - tail.firstRecordIndex
        if kMaxU32 < tailCount then
          .error (fallback rawOrdinal .reject .structuralOverflow false)
        else
          .ok { pass.plan with
            segments := pass.plan.segments.dropLast ++
              [{ tail with recordCount := castU32 tailCount }] }
  else .ok pass.plan

/-- The plan with its sources. -/
def CpuReadyPlan.withSources (plan : CpuReadyPlan)
    (sources : List CpuReadySourcePlan) : CpuReadyPlan :=
  let planned :=
    { plan with
      sources := sources
      sourceCount := sources.length }
  match sources with
  | [source] =>
      { planned with
        arenaLayout := some source.arenaLayout
        layout :=
          match plan.segments with
          | [segment] => some segment.layout
          | _ => none }
  | _ => planned

def completeChunkPlan (sizes : PayloadSizes) (options : CpuReadyPlanOptions)
    (imported : ImportedChunkView) (rawOrdinal : Nat) (pass : ChunkPass) :
    Except CpuReadyPlan CpuReadyPlan :=
  if !pass.plan.logicalSource then
    .ok { pass.plan with lane := .stateOnly }
  else do
    let closed ← pass.closeTail sizes options imported rawOrdinal
    match addDerivedDrawCapacity sizes closed.capacity pass.totalDrawCount with
    | none => .error (fallback rawOrdinal .reject .structuralOverflow false)
    | some capacity =>
        let sources ← groupSources options
          (oversizedFallback sizes options imported rawOrdinal) rawOrdinal
          closed.segments.length 0 closed.segments []
        if sources = [] then
          .error (fallback rawOrdinal .reject .structuralOverflow false)
        else .ok ({ closed with capacity := capacity }.withSources sources)

/-- The options and the view that planning refuses at once. -/
def planRefused (imported : ImportedChunkView) (rawOrdinal : Nat)
    (options : CpuReadyPlanOptions) : Bool :=
  rawOrdinal == 0 || options.pageSize == 0 || options.maxPages == 0 ||
    options.maxOrdinaryPagesPerSegment == 0 ||
    options.maxSourcesPerChunk == 0 || options.maxSegmentsPerSource == 0 ||
    decide (kMaxArenaSourcePayloadSegments < options.maxSegmentsPerSource) ||
    options.maxPagesPerSource == 0 ||
    imported.records.length != imported.recordCount.toNat

def planRecords (sizes : PayloadSizes) (options : CpuReadyPlanOptions)
    (imported : ImportedChunkView) (rawOrdinal : Nat) :
    Except CpuReadyPlan CpuReadyPlan := do
  let pass ← (List.range imported.records.length).foldlM
    (fun (pass : ChunkPass) index =>
      pass.step sizes options imported rawOrdinal index)
    { plan :=
        { rawOrdinal := rawOrdinal
          lane := .directArenaCandidate
          reason := .eligible } }
  completeChunkPlan sizes options imported rawOrdinal pass

def planCpuReadyChunk (sizes : PayloadSizes) (imported : ImportedChunkView)
    (reserved : Bool) (rawOrdinal : Nat) (options : CpuReadyPlanOptions) :
    CpuReadyPlan :=
  if planRefused imported rawOrdinal options then
    fallback rawOrdinal .reject .invalidImportedView false
  else
    match (List.range imported.records.length).foldlM
      (fun (scan : ControlScan) index =>
        scan.step imported rawOrdinal index) {} with
    | .error plan => plan
    | .ok scan =>
        if scan.containsOrderedControls then
          fallback rawOrdinal scan.lane scan.reason true
        else if !reserved then
          fallback rawOrdinal .reject .structuralOverflow false
        else
          match planRecords sizes options imported rawOrdinal with
          | .error plan => plan
          | .ok plan => plan

end Dxmt9.CpuReady
