import Dxmt9.CpuReady.PayloadLayout

/-!
# The replay emission plan

One left-to-right pass over the records of a chunk cuts them into typed
segments; a second pass over the segments cuts these into lease spans; what is
left decides whether one lease may own the chunk.
-/

namespace Dxmt9.CpuReady

/-- The conversion to a 32-bit number. -/
def castU32 (value : Nat) : Nat := value % 2 ^ 32

inductive EmissionRecordRole where
  | islandDraw
  | islandStateOnly
  | coordinator
  | orderedControl
  | compatibilityDraw
  | unknown
  deriving DecidableEq

/-- The number of a triangle fan among the primitive types. -/
def triangleFanIndex : UInt32 := 5

def directDrawRecordSupported (imported : ImportedChunkView) (index : Nat) :
    Bool :=
  match imported.recordType index with
  | .drawPrimitive | .drawIndexedPrimitive =>
      (imported.record index).drawHeader.primitiveType - 1 != triangleFanIndex
  | _ => true

def emissionRecordRole (imported : ImportedChunkView) (index : Nat) :
    EmissionRecordRole :=
  match recordTopology (imported.recordType index) with
  | none => .unknown
  | some rule =>
      match rule.topology with
      | .directDraw =>
          if directDrawRecordSupported imported index then .islandDraw
          else .compatibilityDraw
      | .directStateOnly => .islandStateOnly
      | .coordinatorCommand => .coordinator
      | .orderedControl => .orderedControl
      | .compatibilityDraw => .compatibilityDraw

/-! ## The plan -/

inductive EmissionSegmentKind where
  | directIsland
  | stateOnlyRun
  | coordinatorLocator
  | orderedControlLocator
  | compatibilityRange
  deriving DecidableEq

inductive EmissionPlanReason where
  | complete
  | malformedView
  | unknownRecord
  | overflow
  | coverage
  | capacity
  | storage
  deriving DecidableEq

inductive EmissionLeaseBlock where
  | none
  | incompletePlan
  | presentOrdering
  | orderedControl
  | compatibilityRange
  | noIsland
  deriving DecidableEq

structure EmissionSegment where
  kind : EmissionSegmentKind
  firstRecordIndex : Nat
  recordCount : Nat
  drawCount : Nat := 0
  locatorRecordType : RecordType := .other 0
  capacity : SourcePayloadCapacity := emptyCapacity

inductive EmissionSpanCut where
  | endOfRaw
  | orderedControl
  | compatibilityRange
  deriving DecidableEq

structure EmissionLeaseSpan where
  firstRecordIndex : Nat := 0
  recordCount : Nat := 0
  firstSegmentIndex : Nat := 0
  segmentCount : Nat := 0
  leaseOrdinal : Nat := 0
  drawCount : Nat := 0
  islandCount : Nat := 0
  coordinatorCount : Nat := 0
  presentCount : Nat := 0
  trailingCut : EmissionSpanCut := .endOfRaw
  ownsLease : Bool := false
  presentTrailingCoordinator : Bool := false
  finalLeaseSpan : Bool := false
  containsTerminalPresent : Bool := false
  capacity : SourcePayloadCapacity := emptyCapacity
  plannedBytes : Nat := 0

def EmissionLeaseSpan.endRecordIndex (span : EmissionLeaseSpan) : Nat :=
  castU32 (span.firstRecordIndex + span.recordCount)

structure ReplayEmissionPlan where
  rawOrdinal : Nat := 0
  reason : EmissionPlanReason := .malformedView
  leaseBlock : EmissionLeaseBlock := .incompletePlan
  segments : List EmissionSegment := []
  leaseSpans : List EmissionLeaseSpan := []
  leaseSpanCount : Nat := 0
  islandCount : Nat := 0
  stateOnlyRunCount : Nat := 0
  coordinatorCount : Nat := 0
  orderedControlCount : Nat := 0
  compatibilityRangeCount : Nat := 0
  compatibilityRecordCount : Nat := 0
  directDrawCount : Nat := 0
  directIslandRecordCount : Nat := 0
  slotCommandCount : Nat := 0
  aggregateCapacity : SourcePayloadCapacity := emptyCapacity
  aggregatePlannedBytes : Nat := 0
  presentCount : Nat := 0
  containsPresent : Bool := false
  coverageExact : Bool := false

def emissionReject (rawOrdinal : Nat) (reason : EmissionPlanReason) :
    ReplayEmissionPlan :=
  { rawOrdinal := rawOrdinal
    reason := reason
    leaseBlock := .incompletePlan }

/-- What the two reservations give.  Room for segments is at least what was
asked for; a reservation that throws leaves nothing. -/
structure EmissionStorage (needed : Nat) where
  segmentRoom : Option Nat
  enough : ∀ room, segmentRoom = some room → needed ≤ room
  leaseSpansReserved : Bool

/-! ## The pass over the records -/

/-- The plan so far, the totals over what a lease would append, and the run
of island records that is still open. -/
structure EmissionPass where
  plan : ReplayEmissionPlan := {}
  aggregate : SourcePayloadCapacity := emptyCapacity
  aggregateDrawCount : Nat := 0
  pendingCapacity : SourcePayloadCapacity := emptyCapacity
  pendingDrawCount : Nat := 0
  pendingFirstRecord : Nat := 0
  pendingOpen : Bool := false
  pushFailed : Bool := false

/-- Growing the segments behind the room they have is refused. -/
def EmissionPass.push (room : Nat) (pass : EmissionPass)
    (segment : EmissionSegment) : EmissionPass :=
  if pass.plan.segments.length = room then { pass with pushFailed := true }
  else
    { pass with
      plan :=
        { pass.plan with segments := pass.plan.segments ++ [segment] } }

/-- The pending run forgotten. -/
def EmissionPass.clearPending (pass : EmissionPass) : EmissionPass :=
  { pass with
    pendingCapacity := emptyCapacity
    pendingDrawCount := 0
    pendingOpen := false }

/-- The segment that a pending run with a draw becomes. -/
def EmissionPass.island (pass : EmissionPass) (recordCount : Nat)
    (capacity : SourcePayloadCapacity) : EmissionSegment where
  kind := .directIsland
  firstRecordIndex := castU32 pass.pendingFirstRecord
  recordCount := castU32 recordCount
  drawCount := castU32 pass.pendingDrawCount
  capacity := capacity

/-- The segment that a pending run without a draw becomes. -/
def EmissionPass.stateRun (pass : EmissionPass) (recordCount : Nat) :
    EmissionSegment where
  kind := .stateOnlyRun
  firstRecordIndex := castU32 pass.pendingFirstRecord
  recordCount := castU32 recordCount

def EmissionPass.countIsland (pass : EmissionPass) (recordCount : Nat) :
    EmissionPass :=
  { pass with
    plan :=
      { pass.plan with
        islandCount := pass.plan.islandCount + 1
        directIslandRecordCount :=
          pass.plan.directIslandRecordCount + recordCount } }

def EmissionPass.countStateRun (pass : EmissionPass) : EmissionPass :=
  { pass with
    plan :=
      { pass.plan with
        stateOnlyRunCount := pass.plan.stateOnlyRunCount + 1 } }

/-- The pending run closed, unless the compatibility draw behind it takes its
records over. -/
def EmissionPass.closePending (sizes : PayloadSizes) (room : Nat)
    (pass : EmissionPass) (endExclusive : Nat)
    (foldIntoFollowingCompatibility : Bool) : Option EmissionPass :=
  let recordCount := endExclusive - pass.pendingFirstRecord
  if !pass.pendingOpen then some pass
  else if pass.pendingDrawCount = 0 ∧ foldIntoFollowingCompatibility then
    some pass
  else if pass.pendingDrawCount ≠ 0 then
    match addDerivedDrawCapacity sizes pass.pendingCapacity
      pass.pendingDrawCount with
    | none => none
    | some capacity =>
        some ((pass.push room (pass.island recordCount capacity)).countIsland
          recordCount).clearPending
  else
    some (pass.push room
      (pass.stateRun recordCount)).countStateRun.clearPending

def EmissionPass.countCompatibility (pass : EmissionPass)
    (ranges recordCount : Nat) : EmissionPass :=
  { pass with
    plan :=
      { pass.plan with
        compatibilityRangeCount := pass.plan.compatibilityRangeCount + ranges
        compatibilityRecordCount :=
          pass.plan.compatibilityRecordCount + recordCount } }

/-- The last segment made longer. -/
def EmissionPass.extendLast (pass : EmissionPass)
    (previous : EmissionSegment) (recordCount : Nat) : EmissionPass :=
  { pass with
    plan :=
      { pass.plan with
        segments :=
          pass.plan.segments.dropLast ++
            [{ previous with
              recordCount :=
                castU32 (previous.recordCount + castU32 recordCount) }] } }

def compatibilitySegment (firstRecord recordCount : Nat) :
    EmissionSegment where
  kind := .compatibilityRange
  firstRecordIndex := castU32 firstRecord
  recordCount := castU32 recordCount

/-- Records added to the compatibility range they continue, or to a new
one. -/
def EmissionPass.appendCompatibility (room : Nat) (pass : EmissionPass)
    (firstRecord recordCount : Nat) : EmissionPass :=
  let fresh :=
    (pass.push room (compatibilitySegment firstRecord
      recordCount)).countCompatibility 1 recordCount
  match pass.plan.segments.getLast? with
  | none => fresh
  | some previous =>
      if previous.kind = .compatibilityRange ∧
          previous.firstRecordIndex + previous.recordCount = firstRecord then
        (pass.extendLast previous recordCount).countCompatibility 0
          recordCount
      else fresh

/-- An island record joins the pending run and opens one if there is none. -/
def EmissionPass.openPending (pass : EmissionPass) (index : Nat) :
    EmissionPass :=
  if pass.pendingOpen then pass
  else { pass with pendingFirstRecord := index, pendingOpen := true }

def EmissionPass.appendIslandRecord (sizes : PayloadSizes)
    (pass : EmissionPass) (index : Nat) (record : ImportedRecordView) :
    Except EmissionPlanReason EmissionPass :=
  let opened := pass.openPending index
  let delta := computeRecordCapacityDelta sizes record
  match delta.result with
  | .invalid => .error .malformedView
  | .overflow => .error .overflow
  | .unsupported => .error .unknownRecord
  | .stateOnly | .gpuProducing =>
      match applyRecordCapacityDelta opened.pendingCapacity
          opened.pendingDrawCount delta,
        applyRecordCapacityDelta opened.aggregate opened.aggregateDrawCount
          delta with
      | some pending, some aggregate =>
          .ok
            { opened with
              pendingCapacity := pending.1
              pendingDrawCount := pending.2
              aggregate := aggregate.1
              aggregateDrawCount := aggregate.2 }
      | _, _ => .error .overflow

/-- The segment of a single record at its exact index. -/
def locatorSegment (kind : EmissionSegmentKind) (index : Nat)
    (type : RecordType) (capacity : SourcePayloadCapacity) :
    EmissionSegment where
  kind := kind
  firstRecordIndex := castU32 index
  recordCount := 1
  locatorRecordType := type
  capacity := capacity

def EmissionPass.countCoordinator (pass : EmissionPass) (type : RecordType) :
    EmissionPass :=
  let counted :=
    { pass.plan with coordinatorCount := pass.plan.coordinatorCount + 1 }
  { pass with
    plan :=
      if type = .present then
        { counted with
          containsPresent := true
          presentCount := counted.presentCount + 1 }
      else counted }

def EmissionPass.appendCoordinator (sizes : PayloadSizes) (room : Nat)
    (pass : EmissionPass) (index : Nat) (record : ImportedRecordView) :
    Except EmissionPlanReason EmissionPass :=
  match pass.closePending sizes room index false with
  | none => .error .overflow
  | some closed =>
      let delta := computeRecordCapacityDelta sizes record
      if delta.result ≠ .gpuProducing ∨ delta.drawCount ≠ 0 then
        .error (if delta.result = .overflow then .overflow
          else .malformedView)
      else
        match applyRecordCapacityDelta emptyCapacity 0 delta,
          applyRecordCapacityDelta closed.aggregate closed.aggregateDrawCount
            delta with
        | some locator, some aggregate =>
            let applied :=
              { closed with
                aggregate := aggregate.1
                aggregateDrawCount := aggregate.2 }
            .ok ((applied.push room (locatorSegment .coordinatorLocator index
              record.header.type locator.1)).countCoordinator
                record.header.type)
        | _, _ => .error .overflow

def EmissionPass.countOrderedControl (pass : EmissionPass) : EmissionPass :=
  { pass with
    plan :=
      { pass.plan with
        orderedControlCount := pass.plan.orderedControlCount + 1 } }

def EmissionPass.appendOrderedControl (sizes : PayloadSizes) (room : Nat)
    (pass : EmissionPass) (index : Nat) (record : ImportedRecordView) :
    Except EmissionPlanReason EmissionPass :=
  match pass.closePending sizes room index false with
  | none => .error .overflow
  | some closed =>
      .ok (closed.push room (locatorSegment .orderedControlLocator index
        record.header.type emptyCapacity)).countOrderedControl

def EmissionPass.appendCompatibilityDraw (sizes : PayloadSizes) (room : Nat)
    (pass : EmissionPass) (index : Nat) :
    Except EmissionPlanReason EmissionPass :=
  let rangeFirst :=
    if pass.pendingOpen ∧ pass.pendingDrawCount = 0 then
      pass.pendingFirstRecord
    else index
  match pass.closePending sizes room index true with
  | none => .error .overflow
  | some closed =>
      .ok (closed.clearPending.appendCompatibility room rangeFirst
        (index + 1 - rangeFirst))

/-- One record, by its role. -/
def EmissionPass.appendRecord (sizes : PayloadSizes) (room : Nat)
    (imported : ImportedChunkView) (pass : EmissionPass) (index : Nat) :
    Except EmissionPlanReason EmissionPass :=
  let record := imported.record index
  match emissionRecordRole imported index with
  | .unknown => .error .unknownRecord
  | .islandDraw | .islandStateOnly =>
      pass.appendIslandRecord sizes index record
  | .coordinator => pass.appendCoordinator sizes room index record
  | .orderedControl => pass.appendOrderedControl sizes room index record
  | .compatibilityDraw => pass.appendCompatibilityDraw sizes room index

def EmissionPass.step (sizes : PayloadSizes) (room : Nat)
    (imported : ImportedChunkView) (pass : EmissionPass) (index : Nat) :
    Except EmissionPlanReason EmissionPass :=
  if !imported.recordAgrees index then .error .malformedView
  else
    match pass.appendRecord sizes room imported index with
    | .error reason => .error reason
    | .ok appended =>
        if appended.pushFailed then .error .storage else .ok appended

/-- The whole pass and the run that is open at its end. -/
def emissionSegments (sizes : PayloadSizes) (room : Nat)
    (imported : ImportedChunkView) (rawOrdinal : Nat) :
    Except EmissionPlanReason EmissionPass :=
  let start : EmissionPass := { plan := { rawOrdinal := rawOrdinal } }
  match (List.range imported.records.length).foldlM
    (fun pass index => pass.step sizes room imported index) start with
  | .error reason => .error reason
  | .ok pass =>
      match pass.closePending sizes room imported.records.length false with
      | none => .error .overflow
      | some closed =>
          if closed.pushFailed then .error .storage else .ok closed

/-- The coverage fold over segments: they follow one another without an
empty one. -/
def coveredBySegments (size : Nat) : Nat → List EmissionSegment → Option Nat
  | covered, [] => some covered
  | covered, segment :: rest =>
      if segment.recordCount = 0 ∨ segment.firstRecordIndex ≠ covered ∨
          size < covered ∨ size - covered < segment.recordCount then
        none
      else coveredBySegments size (covered + segment.recordCount) rest

end Dxmt9.CpuReady
