import Dxmt9.EncodePartition.RangeValidation

/-!
# The identity cursor

A replay stream is made from a payload and an order of its commands.  The
identity cursor walks over it once: a draw run that a locator can name becomes
one range of all its draws, and the commands between such runs are gathered
into segments.
-/

namespace Dxmt9.EncodePartition

open Dxmt9.Tape

/-- The ordinal of a command that no replay ordinal selected. -/
def missingOrdinal : Nat := 2 ^ 64 - 1

/-- Enters the commands of an order into the scratch, one after another; an
order that leaves the range of the commands or repeats one is refused. -/
def enterOrdinals (commandBegin commandCount : Nat) :
    List UInt32 → Nat → List Nat → Bool × List Nat
  | [], _, scratch => (true, scratch)
  | selected :: rest, ordinal, scratch =>
      let commandIndex := selected.toNat
      if commandIndex < commandBegin ||
          commandBegin + commandCount ≤ commandIndex then (false, scratch)
      else
        let relative := commandIndex - commandBegin
        if scratch.getD relative missingOrdinal ≠ missingOrdinal then
          (false, scratch)
        else
          enterOrdinals commandBegin commandCount rest (ordinal + 1)
            (scratch.set relative ordinal)

/-- Whether an order selects commands of the range, each once, with the
scratch that shows it. -/
def checkCommandOrder (commandBegin commandCount : Nat)
    (commandOrder : List UInt32) (scratch : List Nat) : Bool × List Nat :=
  if commandCount < commandOrder.length then (false, scratch)
  else if !commandOrder.isEmpty && scratch.length < commandCount then
    (false, scratch)
  else if commandCount ≤ scratch.length then
    enterOrdinals commandBegin commandCount commandOrder 0
      (List.replicate commandCount missingOrdinal ++
        scratch.drop commandCount)
  else (true, scratch)

def makeEncodePartitionReplayStream (slotIndex : Nat)
    (payload : SourcePayloadView) (seqId : UInt64)
    (commandBegin commandCount : Nat) (commandOrderActive : Bool)
    (commandOrder : List UInt32) (replayOrdinalByCommandIndex : List Nat)
    (tapeSource : SourceRef) : EncodePartitionReplayStream × List Nat :=
  let sourceRangeValid := commandBegin ≤ payload.commandCount &&
    commandCount ≤ payload.commandCount - commandBegin
  let replayCount :=
    if commandOrderActive then commandOrder.length else commandCount
  let selection :=
    if !(tapeSource.valid && sourceRangeValid && replayCount ≤ maxUInt32) then
      (false, replayOrdinalByCommandIndex)
    else if !commandOrderActive then
      (commandOrder.isEmpty && (commandCount == 0 ||
        (commandBegin ≤ maxUInt32 &&
          commandCount - 1 ≤ maxUInt32 - commandBegin)),
        replayOrdinalByCommandIndex)
    else
      checkCommandOrder commandBegin commandCount commandOrder
        replayOrdinalByCommandIndex
  ({ source :=
      { slotIndex := slotIndex
        seqId := seqId
        payload := payload
        sourceId := tapeSource.id
        storage := tapeSource.storage
        slot := payload.legacyPayload
        commandBegin := commandBegin
        commandCount := commandCount }
     commandOrderActive := commandOrderActive
     commandOrder := commandOrder.map UInt32.toNat
     valid := selection.1 },
    selection.2)

/-- The locator of one draw of a command, and the entry it stands for. -/
def snapshotForResolvedDrawParam (schema : PayloadSchema)
    (stream : EncodePartitionReplayStream) (commandIndex : Nat)
    (sourceCommand : SourceCommandView) (drawParamIndex : Nat) :
    Option (EncodePartitionEntrySnapshot × ResolvedEncodePartitionEntry) :=
  let source := stream.source
  let streamSource : SourceRef :=
    { id := source.sourceId, storage := source.storage }
  if !stream.valid || !source.payload.valid || !streamSource.valid ||
      maxUInt32 < source.slotIndex then none
  else if source.seqId == 0 ||
      source.slot.any (fun slot => slot.seqId ≠ source.seqId) ||
      commandIndex < source.commandBegin ||
      source.commandBegin + source.commandCount ≤ commandIndex then none
  else
    let command := sourceCommand.command
    match command.kind, command.drawRunRecord with
    | .drawRun, some record =>
        if !command.drawState.hot || !command.drawState.shaderLayout ||
            !command.drawState.debug ||
            source.payload.commandCount ≤ commandIndex then none
        else if command.drawParams.length ≠ record.paramCount ||
            drawParamIndex < record.firstParam ||
            record.paramCount ≤ drawParamIndex - record.firstParam ||
            command.drawParams.length ≤
              drawParamIndex - record.firstParam then none
        else
          let param := command.drawParams.getD
            (drawParamIndex - record.firstParam) {}
          match uniformAt command.drawUniformPayloadRecords
                (effectiveUniform record param),
              resolvePayloadRange record param.bindingOverrideRange
                command.drawPayloadBytes schema.bindingOverrideSize,
              resolvePayloadRange record param.bindingSnapshotRange
                command.drawPayloadBytes schema.bindingSnapshotSize with
          | some uniform, some (bindingOverrideBytes, bindingOverrideView),
              some (bindingSnapshotBytes, bindingSnapshotView) =>
              some
                ({ source :=
                    { tapeSource := streamSource
                      retainedSourceIndex := 0
                      slotIndex := source.slotIndex
                      seqId := source.seqId }
                   commandIndex := commandIndex
                   drawRunRecordIndex := sourceCommand.payloadIndex
                   stateIndex := record.stateIndex
                   drawParamIndex := drawParamIndex
                   uniformHandle := uniform
                   bindingOverrideBytes := bindingOverrideBytes
                   bindingSnapshotBytes := bindingSnapshotBytes },
                 { slot := source.slot
                   command := command
                   drawRunRecord := record
                   drawParam := param
                   uniform := uniform
                   bindingOverrideBytes := bindingOverrideView
                   bindingSnapshotBytes := bindingSnapshotView })
          | _, _, _ => none
    | _, _ => none

/-- A range with the partition it resolves to. -/
abbrev IdentityEntry : Type :=
  EncodePartitionRangeSnapshot × ResolvedEncodePartition

/-- The conversion of a size to a 32-bit word. -/
def truncated (value : Nat) : Nat :=
  value % 2 ^ 32

/-- The range of all draws of the run that an ordinal selects, when a locator
can name its first draw. -/
def identityDrawRun (schema : PayloadSchema)
    (stream : EncodePartitionReplayStream) (replayOrdinal : Nat) :
    Option IdentityEntry :=
  match stream.commandIndexAt replayOrdinal with
  | none => none
  | some commandIndex =>
      let sourceCommand := stream.source.payload.commandAt commandIndex
      let command := sourceCommand.command
      match command.kind, command.drawRunRecord with
      | .drawRun, some record =>
          if record.paramCount = 0 then none
          else
            match snapshotForResolvedDrawParam schema stream commandIndex
                sourceCommand record.firstParam with
            | none => none
            | some (entry, resolved) =>
                some
                  ({ kind := .drawRunEntries
                     replayOrdinalBegin := truncated replayOrdinal
                     replayOrdinalCount := 1
                     drawEntryCount := record.paramCount
                     entry := entry },
                   { entry := resolved
                     drawParams := command.drawParams })
      | _, _ => none

structure EncodePartitionIdentityCursor where
  replayOrdinal : Nat := 0
  pendingDrawRun : Bool := false
  pendingRange : EncodePartitionRangeSnapshot := {}
  pendingPartition : ResolvedEncodePartition := {}
deriving DecidableEq

/-- The loop behind the first command of a segment: on to the end, or to a
draw run. -/
def scanSegment (schema : PayloadSchema)
    (stream : EncodePartitionReplayStream) : Nat → Nat →
      Nat × Option IdentityEntry
  | 0, replayOrdinal => (replayOrdinal, none)
  | left + 1, replayOrdinal =>
      match identityDrawRun schema stream replayOrdinal with
      | some entry => (replayOrdinal, some entry)
      | none => scanSegment schema stream left (replayOrdinal + 1)

/-- One call: the next entry, unless the cursor is at the end. -/
def EncodePartitionIdentityCursor.next (schema : PayloadSchema)
    (stream : EncodePartitionReplayStream)
    (cursor : EncodePartitionIdentityCursor) :
    Option IdentityEntry × EncodePartitionIdentityCursor :=
  if !stream.valid || stream.replayOrdinalCount ≤ cursor.replayOrdinal then
    (none, cursor)
  else if cursor.pendingDrawRun then
    (some (cursor.pendingRange, cursor.pendingPartition),
      { cursor with
        pendingDrawRun := false
        replayOrdinal := cursor.replayOrdinal + 1 })
  else
    match identityDrawRun schema stream cursor.replayOrdinal with
    | some entry =>
        (some entry,
          { cursor with replayOrdinal := cursor.replayOrdinal + 1 })
    | none =>
        let start := cursor.replayOrdinal
        let scanned := scanSegment schema stream
          (stream.replayOrdinalCount - (start + 1)) (start + 1)
        let behind : EncodePartitionIdentityCursor :=
          match scanned.2 with
          | none => { cursor with replayOrdinal := scanned.1 }
          | some (range, partition) =>
              { replayOrdinal := scanned.1
                pendingDrawRun := true
                pendingRange := range
                pendingPartition := partition }
        (some
          ({ kind := .commandSegment
             replayOrdinalBegin := truncated start
             replayOrdinalCount := truncated (scanned.1 - start)
             drawEntryCount := 0 },
           {}),
          behind)

end Dxmt9.EncodePartition
