import Dxmt9.EncodePartition.RangeValidation

/-!
# The production partition plan

Long draw runs are cut near a target length, where the draws on both sides do
not merge; everything else stays in segments of whole commands.
-/

namespace Dxmt9.EncodePartition

open Dxmt9.Tape

/-- A range of the payload, empty when it does not fit. -/
def drawPayloadRangeBytes (range : DrawPayloadRange) (arena : List UInt8) :
    List UInt8 :=
  if range.size = 0 then []
  else if arena.length < range.offset ||
      arena.length - range.offset < range.size then []
  else (arena.drop range.offset).take range.size

def drawParamPayloadRangesEqual (left right : DrawPayloadRange)
    (arena : List UInt8) : Bool :=
  if left.size ≠ right.size then false
  else if left.size = 0 then true
  else
    let leftBytes := drawPayloadRangeBytes left arena
    let rightBytes := drawPayloadRangeBytes right arena
    if leftBytes.length ≠ left.size || rightBytes.length ≠ right.size then
      false
    else leftBytes == rightBytes

def compatibleIndexedDrawMergeShape (draw : DrawParam) : Bool :=
  draw.indexed && draw.primitiveType == .triangleList &&
    draw.instanceCount == 1 && draw.userVertexRange.empty &&
    draw.userIndexRange.empty

/-- The reasons not to merge two draws, as bits; none when they merge. -/
def classifyCompatibleIndexedDrawMergePair (source next : DrawParam)
    (payloadArena : List UInt8) : UInt32 :=
  let rejectIf := fun (rejected : Bool) (bit : UInt32) =>
    if rejected then bit else 0
  let shapes :=
    rejectIf (!compatibleIndexedDrawMergeShape source) 0x001 |||
    rejectIf (!compatibleIndexedDrawMergeShape next) 0x002
  if shapes ≠ 0 then shapes
  else
    let nextStart := source.startIndex + source.primitiveCount * 3
    let combinedPrimitiveCount := source.primitiveCount + next.primitiveCount
    rejectIf (next.indexType ≠ source.indexType) 0x004 |||
    rejectIf (next.baseVertexIndex ≠ source.baseVertexIndex) 0x008 |||
    rejectIf (next.startVertex ≠ source.startVertex) 0x010 |||
    rejectIf (next.uniformHandle ≠ source.uniformHandle) 0x020 |||
    rejectIf (!drawParamPayloadRangesEqual source.bindingOverrideRange
      next.bindingOverrideRange payloadArena) 0x040 |||
    rejectIf (!drawParamPayloadRangesEqual source.bindingSnapshotRange
      next.bindingSnapshotRange payloadArena) 0x080 |||
    rejectIf (nextStart ≠ next.startIndex) 0x100 |||
    rejectIf (decide (maxUInt32 / 3 < combinedPrimitiveCount)) 0x200

def kProductionPartitionDrawThreshold : Nat := 64

def kProductionPartitionTargetDraws : Nat := 32

def kProductionPartitionMinimumDraws : Nat := 16

def kProductionPartitionRangeCapacity : Nat := 256

/-- Whether a cut before draw `candidate` splits no merged pair. -/
def separates (draws : List DrawParam) (payload : List UInt8)
    (candidate : Nat) : Bool :=
  classifyCompatibleIndexedDrawMergePair (draws.getD (candidate - 1) {})
    (draws.getD candidate {}) payload != 0

/-- The candidate nearest to the target length, the earlier one first; the
end of the draws when there is none. -/
def findMergePreservingPartitionEdge (draws : List DrawParam)
    (payload : List UInt8) (rangeBegin : Nat) : Nat :=
  let minimum := kProductionPartitionMinimumDraws
  if draws.length < rangeBegin ||
      draws.length - rangeBegin < kProductionPartitionDrawThreshold ||
      draws.length - rangeBegin < minimum then draws.length
  else
    let first := rangeBegin + minimum
    let last := draws.length - minimum
    if last < first then draws.length
    else
      let desired := min (rangeBegin + kProductionPartitionTargetDraws) last
      let radius := max (desired - first) (last - desired)
      let found := (List.range (radius + 1)).findSome? fun distance =>
        if distance ≤ desired - first &&
            separates draws payload (desired - distance) then
          some (desired - distance)
        else if distance != 0 && distance ≤ last - desired &&
            separates draws payload (desired + distance) then
          some (desired + distance)
        else none
      found.getD draws.length

/-! ## The plan -/

inductive ProductionPartitionFallbackReason where
  | none
  | noEligibleDrawRun
  | replayStreamInvalid
  | replayStreamTooLarge
  | rangeCapacity
  | snapshotInvalid
  | mergePreservation
  | validationFailed
deriving DecidableEq

structure ProductionEncodePartitionPlanResult where
  fallback : ProductionPartitionFallbackReason := .noEligibleDrawRun
  validation : EncodePartitionRangeValidation := .valid
  rangeCount : Nat := 0
  drawRangeCount : Nat := 0
  plannedDrawCount : Nat := 0
  subdividedDrawRunCount : Nat := 0
  mergePreservedIdentityCount : Nat := 0
  explicitPlan : Bool := false
deriving DecidableEq

/-- The ranges of the storage that are in use. -/
abbrev Storage := List EncodePartitionRangeSnapshot

def appendProductionRange (storage : Storage)
    (range : EncodePartitionRangeSnapshot) : Option Storage :=
  if kProductionPartitionRangeCapacity ≤ storage.length then none
  else some (storage ++ [range])

/-- A whole command extends the segment that ends before it. -/
def appendProductionCommandOrdinal (storage : Storage)
    (replayOrdinal : Nat) : Option Storage :=
  let fresh : EncodePartitionRangeSnapshot :=
    { kind := .commandSegment
      replayOrdinalBegin := replayOrdinal
      replayOrdinalCount := 1 }
  match storage.getLast? with
  | none => appendProductionRange storage fresh
  | some tail =>
      if tail.kind = .commandSegment &&
          tail.replayOrdinalBegin + tail.replayOrdinalCount ==
            replayOrdinal &&
          tail.replayOrdinalCount != maxUInt32 then
        some (storage.dropLast ++
          [{ tail with replayOrdinalCount := tail.replayOrdinalCount + 1 }])
      else appendProductionRange storage fresh

/-- The draws from `start` to `stop` of a run. -/
def appendDrawRange (schema : PayloadSchema)
    (stream : EncodePartitionReplayStream) (replayOrdinal : Nat)
    (command : MetalCommandView) (record : DrawRunCommandRecord)
    (storage : Storage) (start stop : Nat) : Option Storage :=
  if stop ≤ start || command.drawParams.length < stop ||
      kProductionPartitionRangeCapacity ≤ storage.length ||
      maxUInt32 - record.firstParam < start then none
  else
    match buildEncodePartitionEntrySnapshot schema stream replayOrdinal
        (record.firstParam + start) with
    | none => none
    | some entry =>
        appendProductionRange storage
          { kind := .drawRunEntries
            replayOrdinalBegin := replayOrdinal
            replayOrdinalCount := 1
            drawEntryCount := stop - start
            entry := entry }

/-- The cuts of one run: the storage behind the last cut, and where the rest
of the run begins.  Every cut is behind the one before, so `fuel` draws are
enough. -/
def cutDrawRun (schema : PayloadSchema)
    (stream : EncodePartitionReplayStream) (replayOrdinal : Nat)
    (command : MetalCommandView) (record : DrawRunCommandRecord) :
    Nat → Storage → Nat → Except Storage (Storage × Nat)
  | 0, storage, rangeBegin => .ok (storage, rangeBegin)
  | fuel + 1, storage, rangeBegin =>
      if command.drawParams.length - rangeBegin <
          kProductionPartitionDrawThreshold then .ok (storage, rangeBegin)
      else
        let edge := findMergePreservingPartitionEdge command.drawParams
          command.drawPayloadBytes rangeBegin
        if edge = command.drawParams.length then .ok (storage, rangeBegin)
        else
          match appendDrawRange schema stream replayOrdinal command record
              storage rangeBegin edge with
          | none => .error storage
          | some next =>
              cutDrawRun schema stream replayOrdinal command record fuel
                next edge

structure PlanState where
  storage : Storage := []
  result : ProductionEncodePartitionPlanResult := {}
  sawEligibleDrawRun : Bool := false

/-- The result of a plan that is abandoned. -/
def fallbackResult (state : PlanState)
    (fallback : ProductionPartitionFallbackReason) :
    ProductionEncodePartitionPlanResult :=
  { state.result with fallback := fallback }

/-- Which limit a failed append met. -/
def appendFailure (storage : Storage) : ProductionPartitionFallbackReason :=
  if kProductionPartitionRangeCapacity ≤ storage.length then .rangeCapacity
  else .snapshotInvalid

/-- A command that stays whole. -/
def planWholeCommand (state : PlanState) (replayOrdinal : Nat) :
    Except ProductionEncodePartitionPlanResult PlanState :=
  match appendProductionCommandOrdinal state.storage replayOrdinal with
  | none => .error (fallbackResult state .rangeCapacity)
  | some storage => .ok { state with storage := storage }

/-- A draw run, cut where that splits no merged pair. -/
def planDrawRun (schema : PayloadSchema)
    (stream : EncodePartitionReplayStream) (state : PlanState)
    (replayOrdinal : Nat) (command : MetalCommandView)
    (record : DrawRunCommandRecord) :
    Except ProductionEncodePartitionPlanResult PlanState :=
  let eligible := kProductionPartitionDrawThreshold ≤ record.paramCount
  let state : PlanState :=
    if eligible then { state with sawEligibleDrawRun := true } else state
  let cuts :=
    if eligible then
      cutDrawRun schema stream replayOrdinal command record
        command.drawParams.length state.storage 0
    else .ok (state.storage, 0)
  match cuts with
  | .error storage => .error (fallbackResult state (appendFailure storage))
  | .ok (storage, rangeBegin) =>
      if rangeBegin = 0 then
        match appendProductionCommandOrdinal storage replayOrdinal with
        | none => .error (fallbackResult state .rangeCapacity)
        | some storage =>
            .ok
              { state with
                storage := storage
                result :=
                  if eligible then
                    { state.result with
                      mergePreservedIdentityCount :=
                        state.result.mergePreservedIdentityCount + 1 }
                  else state.result }
      else
        match appendDrawRange schema stream replayOrdinal command record
            storage rangeBegin command.drawParams.length with
        | none => .error (fallbackResult state (appendFailure storage))
        | some storage =>
            .ok
              { state with
                storage := storage
                result :=
                  { state.result with
                    subdividedDrawRunCount :=
                      state.result.subdividedDrawRunCount + 1 } }

/-- One replay ordinal of the loop. -/
def planOrdinal (schema : PayloadSchema)
    (stream : EncodePartitionReplayStream) (state : PlanState)
    (replayOrdinal : Nat) :
    Except ProductionEncodePartitionPlanResult PlanState :=
  match stream.commandIndexAt replayOrdinal with
  | none =>
      .error
        { fallbackResult state .replayStreamInvalid with
          validation := .replayStreamInvalid }
  | some commandIndex =>
      let command := (stream.source.payload.commandAt commandIndex).command
      match command.kind, command.drawRunRecord with
      | .drawRun, some record =>
          if record.paramCount = 0 ||
              command.drawParams.length ≠ record.paramCount then
            planWholeCommand state replayOrdinal
          else planDrawRun schema stream state replayOrdinal command record
      | _, _ => planWholeCommand state replayOrdinal

def planOrdinals (schema : PayloadSchema)
    (stream : EncodePartitionReplayStream) (state : PlanState) :
    List Nat → Except ProductionEncodePartitionPlanResult PlanState
  | [] => .ok state
  | replayOrdinal :: rest =>
      match planOrdinal schema stream state replayOrdinal with
      | .error result => .error result
      | .ok next => planOrdinals schema stream next rest

/-- The result and the storage; a plan that is not explicit leaves the storage
empty. -/
def planProductionEncodePartitions (schema : PayloadSchema)
    (stream : EncodePartitionReplayStream) :
    ProductionEncodePartitionPlanResult × Storage :=
  if !stream.valid then
    ({ fallback := .replayStreamInvalid
       validation := .replayStreamInvalid }, [])
  else if maxUInt32 < stream.replayOrdinalCount then
    ({ fallback := .replayStreamTooLarge
       validation := .replayStreamTooLarge }, [])
  else
    match planOrdinals schema stream {}
        (List.range stream.replayOrdinalCount) with
    | .error result => (result, [])
    | .ok state =>
        if state.result.subdividedDrawRunCount = 0 then
          (fallbackResult state
            (if state.sawEligibleDrawRun then .mergePreservation
             else .noEligibleDrawRun), [])
        else
          let validation :=
            validateEncodePartitionRanges schema state.storage stream
          if validation.validation ≠ .valid then
            ({ fallbackResult state .validationFailed with
               validation := validation.validation }, [])
          else
            let drawRanges := state.storage.filter fun range =>
              range.kind = .drawRunEntries
            ({ state.result with
               fallback := .none
               rangeCount := state.storage.length
               drawRangeCount := drawRanges.length
               plannedDrawCount :=
                 (drawRanges.map (·.drawEntryCount)).sum
               explicitPlan := true }, state.storage)

end Dxmt9.EncodePartition
