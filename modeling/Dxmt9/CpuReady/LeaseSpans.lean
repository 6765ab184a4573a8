import Dxmt9.CpuReady.EmissionPlan

/-!
# Lease spans

The segments between ordered controls and compatibility ranges grouped into
lease spans, and the plan with its verdict on one lease for the whole chunk.
-/

namespace Dxmt9.CpuReady

/-- The cut a segment makes; the end of the raw where it makes none. -/
def cutForSegment : EmissionSegmentKind → EmissionSpanCut
  | .orderedControlLocator => .orderedControl
  | .compatibilityRange => .compatibilityRange
  | .directIsland | .stateOnlyRun | .coordinatorLocator => .endOfRaw

/-- Whether a segment locates a Present. -/
def EmissionSegment.locatesPresent (segment : EmissionSegment) : Bool :=
  segment.kind == .coordinatorLocator && segment.locatorRecordType == .present

/-- The capacity and the draws of a record added to a span's. -/
def addSpanRecord (sizes : PayloadSizes) (imported : ImportedChunkView)
    (total : SourcePayloadCapacity × Nat) (index : Nat) :
    Option (SourcePayloadCapacity × Nat) :=
  let added :=
    addDirectRecordCapacity sizes total.1 total.2 (imported.record index)
  match added.result with
  | .stateOnly | .gpuProducing => some (added.capacity, added.drawCount)
  | .overflow | .invalid | .unsupported => none

/-- The reservation of a span that owns a lease. -/
def EmissionLeaseSpan.reserve (sizes : PayloadSizes)
    (imported : ImportedChunkView) (pageSize : Nat)
    (span : EmissionLeaseSpan) : Option EmissionLeaseSpan :=
  match (List.range' span.firstRecordIndex
      (span.endRecordIndex - span.firstRecordIndex)).foldlM
    (addSpanRecord sizes imported) (emptyCapacity, 0) with
  | none => none
  | some (total, drawCount) =>
      if drawCount ≠ span.drawCount then none
      else
        match addDerivedDrawCapacity sizes total drawCount with
        | none => none
        | some capacity =>
            match makeSourcePayloadLayout sizes capacity pageSize kMaxU32 with
            | none => none
            | some layout =>
                if layout.usedBytes = 0 ∨
                    capacity .commandHeaders ≠
                      castU32 (span.drawCount + span.coordinatorCount) then
                  none
                else
                  some { span with
                    capacity := capacity
                    plannedBytes := layout.usedBytes }

/-- Whether a span's only Present is its last segment. -/
def EmissionLeaseSpan.endsInPresent (segments : List EmissionSegment)
    (span : EmissionLeaseSpan) : Bool :=
  match segments[span.firstSegmentIndex + span.segmentCount - 1]? with
  | none => false
  | some last => last.locatesPresent

/-- The marks a span gets where it ends. -/
def EmissionLeaseSpan.close (segments : List EmissionSegment)
    (span : EmissionLeaseSpan) (cut : EmissionSpanCut) : EmissionLeaseSpan :=
  { span with
    trailingCut := cut
    ownsLease := span.drawCount != 0
    presentTrailingCoordinator :=
      if span.presentCount = 1 ∧ span.segmentCount ≠ 0 then
        span.endsInPresent segments
      else span.presentTrailingCoordinator }

/-- A span ended by a cut; nothing where its reservation fails. -/
def finishSpan (sizes : PayloadSizes) (imported : ImportedChunkView)
    (pageSize : Nat) (segments : List EmissionSegment)
    (span : EmissionLeaseSpan) (cut : EmissionSpanCut) :
    Option EmissionLeaseSpan :=
  let closed := span.close segments cut
  if closed.ownsLease then closed.reserve sizes imported pageSize
  else some closed

/-- The spans ended so far and the one that is open. -/
structure SpanPass where
  leaseSpans : List EmissionLeaseSpan := []
  current : EmissionLeaseSpan := {}
  currentOpen : Bool := false

/-- A cut is an ordinary span of its own. -/
def separatorSpan (index : Nat) (segment : EmissionSegment)
    (cut : EmissionSpanCut) : EmissionLeaseSpan where
  firstRecordIndex := segment.firstRecordIndex
  recordCount := segment.recordCount
  firstSegmentIndex := index
  segmentCount := 1
  trailingCut := cut

/-- A segment counted into the open span. -/
def EmissionLeaseSpan.addSegment (span : EmissionLeaseSpan)
    (segmentTotal index : Nat) (segment : EmissionSegment) :
    EmissionLeaseSpan :=
  { span with
    recordCount := castU32 (span.recordCount + segment.recordCount)
    segmentCount := castU32 (span.segmentCount + 1)
    drawCount := castU32 (span.drawCount + segment.drawCount)
    islandCount :=
      if segment.kind = .directIsland then castU32 (span.islandCount + 1)
      else span.islandCount
    coordinatorCount :=
      if segment.kind = .coordinatorLocator then
        castU32 (span.coordinatorCount + 1)
      else span.coordinatorCount
    presentCount :=
      if segment.locatesPresent then castU32 (span.presentCount + 1)
      else span.presentCount
    containsTerminalPresent :=
      if segment.locatesPresent then index + 1 == segmentTotal
      else span.containsTerminalPresent }

/-- The open span ended, if there is one. -/
def SpanPass.finish (sizes : PayloadSizes) (imported : ImportedChunkView)
    (pageSize : Nat) (segments : List EmissionSegment) (pass : SpanPass)
    (cut : EmissionSpanCut) : Option SpanPass :=
  if pass.currentOpen then
    match finishSpan sizes imported pageSize segments pass.current cut with
    | none => none
    | some finished =>
        some { leaseSpans := pass.leaseSpans ++ [finished] }
  else some pass

def SpanPass.step (sizes : PayloadSizes) (imported : ImportedChunkView)
    (pageSize : Nat) (segments : List EmissionSegment) (pass : SpanPass)
    (index : Nat) (segment : EmissionSegment) : Option SpanPass :=
  if cutForSegment segment.kind ≠ .endOfRaw then
    match pass.finish sizes imported pageSize segments
      (cutForSegment segment.kind) with
    | none => none
    | some finished =>
        some { finished with
          leaseSpans := finished.leaseSpans ++
            [separatorSpan index segment (cutForSegment segment.kind)] }
  else
    let opened : EmissionLeaseSpan :=
      if pass.currentOpen then pass.current
      else
        { firstRecordIndex := segment.firstRecordIndex
          firstSegmentIndex := index }
    some { pass with
      current := opened.addSegment segments.length index segment
      currentOpen := true }

/-- The spans of the segments from an index on. -/
def spansFrom (sizes : PayloadSizes) (imported : ImportedChunkView)
    (pageSize : Nat) (segments : List EmissionSegment) :
    Nat → List EmissionSegment → SpanPass → Option SpanPass
  | _, [], pass => pass.finish sizes imported pageSize segments .endOfRaw
  | index, segment :: rest, pass =>
      match pass.step sizes imported pageSize segments index segment with
      | none => none
      | some stepped =>
          spansFrom sizes imported pageSize segments (index + 1) rest stepped

/-- Dense ordinals over the spans that own a lease. -/
def assignLeaseOrdinals :
    Nat → List EmissionLeaseSpan → List EmissionLeaseSpan
  | _, [] => []
  | ordinal, span :: rest =>
      if span.ownsLease then
        { span with leaseOrdinal := ordinal } ::
          assignLeaseOrdinals (castU32 (ordinal + 1)) rest
      else span :: assignLeaseOrdinals ordinal rest

/-- The last span that owns a lease is marked. -/
def markFinalLeaseSpan : List EmissionLeaseSpan → List EmissionLeaseSpan
  | [] => []
  | span :: rest =>
      if span.ownsLease && rest.all fun later => !later.ownsLease then
        { span with finalLeaseSpan := true } :: rest
      else span :: markFinalLeaseSpan rest

/-- The coverage fold over spans, of records and of segments. -/
def coveredBySpans : Nat × Nat → List EmissionLeaseSpan → Option (Nat × Nat)
  | covered, [] => some covered
  | covered, span :: rest =>
      if span.recordCount = 0 ∨ span.segmentCount = 0 ∨
          span.firstRecordIndex ≠ covered.1 ∨
          span.firstSegmentIndex ≠ covered.2 then
        none
      else
        coveredBySpans
          (covered.1 + span.recordCount, covered.2 + span.segmentCount) rest

def deriveEmissionLeaseSpans (sizes : PayloadSizes) (reserved : Bool)
    (imported : ImportedChunkView) (pageSize : Nat)
    (segments : List EmissionSegment) :
    Except EmissionPlanReason (List EmissionLeaseSpan) :=
  if !reserved then .error .storage
  else
    match spansFrom sizes imported pageSize segments 0 segments {} with
    | none => .error .capacity
    | some pass =>
        let spans := markFinalLeaseSpan (assignLeaseOrdinals 0 pass.leaseSpans)
        if coveredBySpans (0, 0) spans =
            some (imported.records.length, segments.length) then
          .ok spans
        else .error .coverage

/-- Whether a lease would emit a Present out of its source order. -/
def presentsOutOfOrder (spans : List EmissionLeaseSpan) : Bool :=
  spans.any fun span =>
    span.ownsLease && span.presentCount != 0 &&
      !span.presentTrailingCoordinator

/-- A plan that one lease may own, with the reservation for it. -/
def leaseWholeRaw (sizes : PayloadSizes) (pageSize : Nat)
    (aggregate : SourcePayloadCapacity) (aggregateDrawCount : Nat)
    (plan : ReplayEmissionPlan) :
    Except EmissionPlanReason ReplayEmissionPlan :=
  match addDerivedDrawCapacity sizes aggregate aggregateDrawCount with
  | none => .error .overflow
  | some capacity =>
      match makeSourcePayloadLayout sizes capacity pageSize kMaxU32 with
      | none => .error .capacity
      | some layout =>
          if layout.usedBytes = 0 then .error .capacity
          else
            let slotCommandCount := aggregateDrawCount + plan.coordinatorCount
            if capacity .commandHeaders ≠ slotCommandCount then
              .error .malformedView
            else
              .ok { plan with
                slotCommandCount := slotCommandCount
                aggregateCapacity := capacity
                aggregatePlannedBytes := layout.usedBytes
                leaseBlock := .none }

def decideLeaseBlock (sizes : PayloadSizes) (pageSize : Nat)
    (aggregate : SourcePayloadCapacity) (aggregateDrawCount : Nat)
    (plan : ReplayEmissionPlan) :
    Except EmissionPlanReason ReplayEmissionPlan :=
  if presentsOutOfOrder plan.leaseSpans then
    .ok { plan with leaseBlock := .presentOrdering }
  else if plan.orderedControlCount ≠ 0 then
    .ok { plan with leaseBlock := .orderedControl }
  else if plan.compatibilityRecordCount ≠ 0 then
    .ok { plan with leaseBlock := .compatibilityRange }
  else if plan.islandCount = 0 ∨ aggregateDrawCount = 0 then
    .ok { plan with leaseBlock := .noIsland }
  else leaseWholeRaw sizes pageSize aggregate aggregateDrawCount plan

/-- Everything behind the pass over the records. -/
def completeEmissionPlan (sizes : PayloadSizes) (reserved : Bool)
    (imported : ImportedChunkView) (pageSize : Nat) (pass : EmissionPass) :
    Except EmissionPlanReason ReplayEmissionPlan :=
  if coveredBySegments imported.records.length 0 pass.plan.segments ≠
      some imported.records.length then
    .error .coverage
  else
    match deriveEmissionLeaseSpans sizes reserved imported pageSize
      pass.plan.segments with
    | .error reason => .error reason
    | .ok spans =>
        decideLeaseBlock sizes pageSize pass.aggregate
          pass.aggregateDrawCount
          { pass.plan with
            leaseSpans := spans
            leaseSpanCount := spans.length
            directDrawCount := pass.aggregateDrawCount
            reason := .complete
            coverageExact := true }

def planReplayEmission (sizes : PayloadSizes) (imported : ImportedChunkView)
    (storage : EmissionStorage imported.records.length)
    (rawOrdinal pageSize : Nat) : ReplayEmissionPlan :=
  if rawOrdinal = 0 ∨ pageSize = 0 ∨
      imported.records.length ≠ imported.recordCount.toNat then
    emissionReject rawOrdinal .malformedView
  else
    match storage.segmentRoom with
    | none => emissionReject rawOrdinal .storage
    | some room =>
        match emissionSegments sizes room imported rawOrdinal with
        | .error reason => emissionReject rawOrdinal reason
        | .ok pass =>
            match completeEmissionPlan sizes storage.leaseSpansReserved
              imported pageSize pass with
            | .error reason => emissionReject rawOrdinal reason
            | .ok plan => plan

end Dxmt9.CpuReady
