import Dxmt9.Tape.Entry

/-!
# Replay streams and encode partitions

A replay stream selects commands of one published source.  A partition of it
is a list of ranges: segments of whole commands, and runs of the draws of one
draw command.  A draw range carries a locator of its first draw, which must
agree with the source in every field.
-/

namespace Dxmt9.EncodePartition

open Dxmt9.Tape

inductive PrimitiveType where
  | pointList
  | lineList
  | lineStrip
  | triangleList
  | triangleStrip
  | triangleFan
deriving DecidableEq

inductive IndexType where
  | uint16
  | uint32
deriving DecidableEq

structure DrawPayloadRange where
  offset : Nat := 0
  size : Nat := 0
deriving DecidableEq

def DrawPayloadRange.empty (range : DrawPayloadRange) : Bool :=
  range.size == 0

structure DrawUniformHandle where
  index : Nat := 0
  generation : Nat := 0
  hash : UInt64 := 0
deriving DecidableEq

def DrawUniformHandle.valid (handle : DrawUniformHandle) : Bool :=
  handle.generation != 0

structure DrawParam where
  primitiveType : PrimitiveType := .triangleList
  primitiveCount : Nat := 0
  startVertex : Nat := 0
  baseVertexIndex : Int := 0
  startIndex : Nat := 0
  indexType : IndexType := .uint16
  indexed : Bool := false
  instanceCount : Nat := 1
  userVertexRange : DrawPayloadRange := {}
  userIndexRange : DrawPayloadRange := {}
  bindingOverrideRange : DrawPayloadRange := {}
  bindingSnapshotRange : DrawPayloadRange := {}
  uniformHandle : DrawUniformHandle := {}
deriving DecidableEq

/-! ## Commands -/

inductive MetalCommandKind where
  | drawRun
  | clear
  | surfaceCopy
  | stretchRect
  | readback
  | colorFill
  | depthResolve
  | generateMipmaps
  | present
deriving DecidableEq

structure DrawRunCommandRecord where
  stateIndex : Nat := 0
  firstParam : Nat := 0
  paramCount : Nat := 0
  payloadOffset : Nat := 0
  payloadSize : Nat := 0
  uniformHandle : DrawUniformHandle := {}
deriving DecidableEq

/-- Which parts of the draw state are there. -/
structure FlatDrawStateView where
  hot : Bool := false
  shaderLayout : Bool := false
  debug : Bool := false
deriving DecidableEq

/-- The uniform records of a source are named by their handles. -/
structure MetalCommandView where
  kind : MetalCommandKind := .drawRun
  drawRunRecord : Option DrawRunCommandRecord := none
  drawState : FlatDrawStateView := {}
  drawUniformPayloadRecords : List DrawUniformHandle := []
  drawParams : List DrawParam := []
  drawPayloadBytes : List UInt8 := []
deriving DecidableEq

structure SourceCommandView where
  command : MetalCommandView := {}
  payloadIndex : Nat := 0
deriving DecidableEq

/-- A legacy slot, by its address and its sequence. -/
structure ChunkSlot where
  address : Nat
  seqId : UInt64
deriving DecidableEq

structure SourcePayloadView where
  valid : Bool := false
  legacyPayload : Option ChunkSlot := none
  commands : List SourceCommandView := []
deriving DecidableEq

def SourcePayloadView.commandCount (payload : SourcePayloadView) : Nat :=
  payload.commands.length

def SourcePayloadView.commandAt (payload : SourcePayloadView)
    (index : Nat) : SourceCommandView :=
  payload.commands.getD index {}

structure ResolvedPublishedSource where
  slotIndex : Nat := 0
  seqId : UInt64 := 0
  payload : SourcePayloadView := {}
  sourceId : CpuReadySourceId := {}
  storage : CpuReadyStorageRef := {}
  slot : Option ChunkSlot := none
  commandBegin : Nat := 0
  commandCount : Nat := 0
deriving DecidableEq

structure RetainedEncodeSourceLocator where
  tapeSource : SourceRef := {}
  retainedSourceIndex : Nat := 0
  slotIndex : Nat := 0
  seqId : UInt64 := 0
deriving DecidableEq

structure EncodePartitionEntrySnapshot where
  source : RetainedEncodeSourceLocator := {}
  commandIndex : Nat := 0
  drawRunRecordIndex : Nat := 0
  stateIndex : Nat := 0
  drawParamIndex : Nat := 0
  uniformHandle : DrawUniformHandle := {}
  bindingOverrideBytes : DrawPayloadRange := {}
  bindingSnapshotBytes : DrawPayloadRange := {}
deriving DecidableEq

inductive EncodePartitionRangeKind where
  | commandSegment
  | drawRunEntries
deriving DecidableEq

structure EncodePartitionRangeSnapshot where
  kind : EncodePartitionRangeKind := .commandSegment
  replayOrdinalBegin : Nat := 0
  replayOrdinalCount : Nat := 0
  drawEntryCount : Nat := 0
  entry : EncodePartitionEntrySnapshot := {}
deriving DecidableEq

structure EncodePartitionReplayStream where
  source : ResolvedPublishedSource := {}
  commandOrderActive : Bool := false
  commandOrder : List Nat := []
  valid : Bool := false
deriving DecidableEq

namespace EncodePartitionReplayStream

def replayOrdinalCount (stream : EncodePartitionReplayStream) : Nat :=
  if stream.commandOrderActive then stream.commandOrder.length
  else stream.source.commandCount

def commandIndexAt (stream : EncodePartitionReplayStream)
    (replayOrdinal : Nat) : Option Nat :=
  if !stream.valid || stream.replayOrdinalCount ≤ replayOrdinal then none
  else
    let selected :=
      if stream.commandOrderActive then
        stream.commandOrder.getD replayOrdinal 0
      else stream.source.commandBegin + replayOrdinal
    if maxUInt32 < selected then none else some selected

end EncodePartitionReplayStream

inductive EncodePartitionEntryValidation where
  | valid
  | retainedSourceIndexOutOfRange
  | sourceIdentityMismatch
  | sourceCommandRangeInvalid
  | commandIndexOutOfRange
  | commandIsNotDrawRun
  | drawRunRecordMismatch
  | stateIndexMismatch
  | drawParamIndexMismatch
  | uniformHandleMismatch
  | bindingOverrideRangeMismatch
  | bindingSnapshotRangeMismatch
deriving DecidableEq

/-- The sizes of the two records that a draw payload holds. -/
structure PayloadSchema where
  bindingOverrideSize : Nat
  bindingSnapshotSize : Nat
deriving DecidableEq

/-- A draw's payload range, absolute in its source, with its bytes. -/
def resolvePayloadRange (record : DrawRunCommandRecord)
    (relative : DrawPayloadRange) (commandPayload : List UInt8)
    (schemaSize : Nat) : Option (DrawPayloadRange × List UInt8) :=
  if relative.empty then some ({}, [])
  else if relative.size ≠ schemaSize ||
      record.payloadSize < relative.offset ||
      record.payloadSize - relative.offset < relative.size ||
      commandPayload.length ≠ record.payloadSize then none
  else
    let offset := record.payloadOffset + relative.offset
    if maxUInt32 < offset || commandPayload.length < relative.offset ||
        commandPayload.length - relative.offset < relative.size then none
    else
      some ({ offset := offset, size := relative.size },
        (commandPayload.drop relative.offset).take relative.size)

/-- The handle of the draw, or of its run. -/
def effectiveUniform (record : DrawRunCommandRecord) (param : DrawParam) :
    DrawUniformHandle :=
  if param.uniformHandle.valid then param.uniformHandle
  else record.uniformHandle

/-- The record of a handle, when the source holds it. -/
def uniformAt (uniforms : List DrawUniformHandle)
    (handle : DrawUniformHandle) : Option DrawUniformHandle :=
  if handle.valid && handle.index < uniforms.length &&
      uniforms.getD handle.index {} == handle then some handle
  else none

structure ResolvedEncodePartitionEntry where
  slot : Option ChunkSlot := none
  command : MetalCommandView := {}
  drawRunRecord : DrawRunCommandRecord := {}
  drawParam : DrawParam := {}
  uniform : DrawUniformHandle := {}
  bindingOverrideBytes : List UInt8 := []
  bindingSnapshotBytes : List UInt8 := []
deriving DecidableEq

/-- Checks a locator against its source, field by field; the first field that
disagrees names the rejection. -/
def resolveEncodePartitionEntry (schema : PayloadSchema)
    (snapshot : EncodePartitionEntrySnapshot)
    (sources : List ResolvedPublishedSource) :
    Except EncodePartitionEntryValidation ResolvedEncodePartitionEntry :=
  match sources[snapshot.source.retainedSourceIndex]? with
  | none => .error .retainedSourceIndexOutOfRange
  | some source =>
      let resolvedSource : SourceRef :=
        { id := source.sourceId, storage := source.storage }
      if !snapshot.source.tapeSource.valid || !resolvedSource.valid ||
          !source.payload.valid ||
          source.sourceId ≠ snapshot.source.tapeSource.id ||
          source.storage ≠ snapshot.source.tapeSource.storage ||
          source.slotIndex ≠ snapshot.source.slotIndex ||
          source.seqId == 0 || source.seqId ≠ snapshot.source.seqId ||
          source.slot.any (fun slot =>
            slot.seqId ≠ snapshot.source.seqId ||
              source.payload.legacyPayload ≠ some slot) then
        .error .sourceIdentityMismatch
      else if source.payload.commandCount < source.commandBegin ||
          source.payload.commandCount - source.commandBegin <
            source.commandCount then
        .error .sourceCommandRangeInvalid
      else if snapshot.commandIndex < source.commandBegin ||
          source.commandBegin + source.commandCount ≤
            snapshot.commandIndex then
        .error .commandIndexOutOfRange
      else
        let sourceCommand := source.payload.commandAt snapshot.commandIndex
        let command := sourceCommand.command
        match command.kind, command.drawRunRecord with
        | .drawRun, some record =>
            if sourceCommand.payloadIndex ≠ snapshot.drawRunRecordIndex then
              .error .drawRunRecordMismatch
            else if record.stateIndex ≠ snapshot.stateIndex ||
                !command.drawState.hot || !command.drawState.shaderLayout ||
                !command.drawState.debug then
              .error .stateIndexMismatch
            else if snapshot.drawParamIndex < record.firstParam ||
                record.paramCount ≤
                  snapshot.drawParamIndex - record.firstParam ||
                command.drawParams.length ≤
                  snapshot.drawParamIndex - record.firstParam then
              .error .drawParamIndexMismatch
            else
              let param := command.drawParams.getD
                (snapshot.drawParamIndex - record.firstParam) {}
              match uniformAt command.drawUniformPayloadRecords
                  (effectiveUniform record param) with
              | none => .error .uniformHandleMismatch
              | some uniform =>
                  if uniform ≠ snapshot.uniformHandle then
                    .error .uniformHandleMismatch
                  else
                    match resolvePayloadRange record
                        param.bindingOverrideRange command.drawPayloadBytes
                        schema.bindingOverrideSize with
                    | none => .error .bindingOverrideRangeMismatch
                    | some (bindingOverrideBytes, bindingOverrideView) =>
                        if bindingOverrideBytes ≠
                            snapshot.bindingOverrideBytes then
                          .error .bindingOverrideRangeMismatch
                        else
                          match resolvePayloadRange record
                              param.bindingSnapshotRange
                              command.drawPayloadBytes
                              schema.bindingSnapshotSize with
                          | none => .error .bindingSnapshotRangeMismatch
                          | some (bindingSnapshotBytes,
                              bindingSnapshotView) =>
                              if bindingSnapshotBytes ≠
                                  snapshot.bindingSnapshotBytes then
                                .error .bindingSnapshotRangeMismatch
                              else
                                .ok
                                  { slot := source.slot
                                    command := command
                                    drawRunRecord := record
                                    drawParam := param
                                    uniform := uniform
                                    bindingOverrideBytes :=
                                      bindingOverrideView
                                    bindingSnapshotBytes :=
                                      bindingSnapshotView }
        | _, _ => .error .commandIsNotDrawRun

/-- The locator of one draw of the stream, when the source has it. -/
def buildEncodePartitionEntrySnapshot (schema : PayloadSchema)
    (stream : EncodePartitionReplayStream) (replayOrdinal : Nat)
    (drawParamIndex : Nat) : Option EncodePartitionEntrySnapshot :=
  if !stream.valid || !stream.source.payload.valid then none
  else
    match stream.commandIndexAt replayOrdinal with
    | none => none
    | some commandIndex =>
        let source := stream.source
        let streamSource : SourceRef :=
          { id := source.sourceId, storage := source.storage }
        let sourceCommand := source.payload.commandAt commandIndex
        let command := sourceCommand.command
        if !streamSource.valid || maxUInt32 < source.slotIndex then none
        else if source.seqId == 0 ||
            source.slot.any (fun slot => slot.seqId ≠ source.seqId) ||
            commandIndex < source.commandBegin ||
            source.commandBegin + source.commandCount ≤ commandIndex then
          none
        else
          match command.kind, command.drawRunRecord with
          | .drawRun, some record =>
              if !command.drawState.hot || !command.drawState.shaderLayout ||
                  !command.drawState.debug ||
                  source.payload.commandCount ≤ commandIndex then none
              else if command.drawParams.length ≠ record.paramCount ||
                  drawParamIndex < record.firstParam ||
                  record.paramCount ≤ drawParamIndex - record.firstParam ||
                  command.drawParams.length ≤
                    drawParamIndex - record.firstParam then none
              else
                let param := command.drawParams.getD
                  (drawParamIndex - record.firstParam) {}
                match uniformAt command.drawUniformPayloadRecords
                      (effectiveUniform record param),
                    resolvePayloadRange record param.bindingOverrideRange
                      command.drawPayloadBytes schema.bindingOverrideSize,
                    resolvePayloadRange record param.bindingSnapshotRange
                      command.drawPayloadBytes schema.bindingSnapshotSize
                    with
                | some uniform, some (bindingOverrideBytes, _),
                    some (bindingSnapshotBytes, _) =>
                    some
                      { source :=
                          { tapeSource := streamSource
                            retainedSourceIndex := 0
                            slotIndex := source.slotIndex
                            seqId := source.seqId }
                        commandIndex := commandIndex
                        drawRunRecordIndex := sourceCommand.payloadIndex
                        stateIndex := record.stateIndex
                        drawParamIndex := drawParamIndex
                        uniformHandle := uniform
                        bindingOverrideBytes := bindingOverrideBytes
                        bindingSnapshotBytes := bindingSnapshotBytes }
                | _, _, _ => none
          | _, _ => none

end Dxmt9.EncodePartition
