import Dxmt9.SemanticBatch.BatchOwner

/-!
# The count plan and the emission

The planner places the records of a frozen owner in the canonical chunk.  The
emission plans once more, compares, clears the destination up to the end of
the chunk and stores the header, every record header with its payload, and
the handle entries.
-/

namespace Dxmt9.SemanticBatch

open Dxmt9.ChunkBuilder
open Dxmt9.Memory

namespace ImmutableSemanticBatchOwner

def size (owner : ImmutableSemanticBatchOwner) : Nat :=
  if owner.frozen then owner.records.length else 0

def record (owner : ImmutableSemanticBatchOwner) (index : Nat) :
    OwnedBatchRecord :=
  owner.records.getD index {}

def payloadOf (owner : ImmutableSemanticBatchOwner)
    (record : OwnedBatchRecord) : List UInt8 :=
  slice owner.payload record.payloadOffset.toNat record.payloadBytes.toNat

def identitiesOf (owner : ImmutableSemanticBatchOwner)
    (record : OwnedBatchRecord) : List PeCommittedSemanticIdentityValue :=
  (owner.identities.drop record.identityOffset.toNat).take
    record.identityCount.toNat

end ImmutableSemanticBatchOwner

structure SemanticBatchPlanRecord where
  payloadOffset : UInt32 := 0
  payloadBytes : UInt32 := 0
  firstHandle : UInt32 := 0
  handleCount : UInt32 := 0
deriving DecidableEq

/-- The counts of records and handles are the lengths of the lists. -/
structure SemanticBatchCountPlan where
  records : List SemanticBatchPlanRecord := []
  handles : List PeCommittedSemanticIdentityValue := []
  payloadBytes : Nat := 0
  wireBytes : Nat := 0
  recordTableOffset : Nat := wireHeaderSize
  handleTableOffset : Nat := 0
  payloadArenaOffset : Nat := 0
  uniqueRetainerCount : Nat := 0
  pendingWitnessCount : Nat := 0
  captureWitnessCount : Nat := 0
deriving DecidableEq

def SemanticBatchCountPlan.valid (limits : Limits)
    (plan : SemanticBatchCountPlan) : Bool :=
  decide (plan.records.length ≠ 0 ∧
    plan.records.length ≤ limits.maxRecords ∧
    plan.handles.length ≤ limits.maxIdentities ∧
    plan.payloadBytes ≤ limits.maxPayloadBytes ∧
    plan.wireBytes ≠ 0 ∧ plan.wireBytes ≤ maxTotalWireBytes)

/-- The loop over the identities of one record. -/
def pushHandles (limits : Limits)
    (handles : List PeCommittedSemanticIdentityValue) :
    List PeCommittedSemanticIdentityValue →
      Option (List PeCommittedSemanticIdentityValue)
  | [] => some handles
  | identity :: rest =>
      if handles.length = limits.maxIdentities then none
      else pushHandles limits (handles ++ [identity]) rest

/-- One turn of the loop over the records; the second part is
`payloadEnd`. -/
def planRecord (limits : Limits) (owner : ImmutableSemanticBatchOwner)
    (state : SemanticBatchCountPlan × Nat) (source : OwnedBatchRecord) :
    Option (SemanticBatchCountPlan × Nat) :=
  let out := state.1
  let payloadEnd := state.2
  match recordRule source.recordType with
  | none => none
  | some rule =>
      match semanticBatchAlignUp payloadEnd rule.payloadAlignment with
      | none => none
      | some alignedPayload =>
          if limits.maxPayloadBytes < alignedPayload ∨
              limits.maxPayloadBytes - alignedPayload <
                source.payloadBytes.toNat ∨
              out.records.length = limits.maxRecords then none
          else
            let identities := owner.identitiesOf source
            match pushHandles limits out.handles identities with
            | none => none
            | some handles =>
                some
                  ({ out with
                      records := out.records ++
                        [{ payloadOffset := UInt32.ofNat alignedPayload
                           payloadBytes := source.payloadBytes
                           firstHandle := UInt32.ofNat out.handles.length
                           handleCount := UInt32.ofNat identities.length }]
                      handles := handles
                      uniqueRetainerCount := out.uniqueRetainerCount +
                        if source.retainerWitness then identities.length
                        else 0
                      pendingWitnessCount := out.pendingWitnessCount +
                        if source.pendingWitness then 1 else 0
                      captureWitnessCount := out.captureWitnessCount +
                        if source.captureWitness then 1 else 0 },
                    alignedPayload + source.payloadBytes.toNat)

/-- The offsets behind the tables. -/
def planOffsets (limits : Limits) (state : SemanticBatchCountPlan × Nat) :
    Option SemanticBatchCountPlan :=
  let out := state.1
  let payloadEnd := state.2
  if (maxSize - out.recordTableOffset) / wireRecordHeaderSize <
      out.records.length then none
  else
    match semanticBatchAlignUp
        (out.recordTableOffset + out.records.length * wireRecordHeaderSize)
        (UInt32.ofNat wireHandleEntryAlignment) with
    | none => none
    | some handleTableOffset =>
        if (maxSize - handleTableOffset) / wireHandleEntrySize <
            out.handles.length then none
        else
          let recordEnd :=
            handleTableOffset + out.handles.length * wireHandleEntrySize
          match semanticBatchAlignUp recordEnd
              (UInt32.ofNat wireWordAlignment) with
          | none => none
          | some payloadArenaOffset =>
              if maxSize - payloadEnd < payloadArenaOffset then none
              else
                let plan :=
                  { out with
                    handleTableOffset := handleTableOffset
                    payloadArenaOffset := payloadArenaOffset
                    payloadBytes := payloadEnd
                    wireBytes := payloadArenaOffset + payloadEnd }
                if plan.valid limits then some plan else none

def planSemanticBatch (limits : Limits) (owner : ImmutableSemanticBatchOwner) :
    Option SemanticBatchCountPlan :=
  if owner.frozen = false then none
  else
    ((owner.records.take owner.size).foldlM (planRecord limits owner)
      ({}, 0)).bind (planOffsets limits)

/-! ## The emission -/

/-- The memory behind the destination span, with its address. -/
structure Destination where
  address : UInt64
  bytes : List UInt8
deriving DecidableEq

structure ExactFixedEmission where
  transport : D9CCommandChunkSegmentedTransportV1 := {}
  wire : List UInt8 := []
  wireBytes : Nat := 0
deriving DecidableEq

def ExactFixedEmission.valid (out : ExactFixedEmission) : Bool :=
  out.wireBytes != 0 && out.wire.length == out.wireBytes &&
    out.transport.header.recordCount != 0

def emittedHeader (plan : SemanticBatchCountPlan) :
    D9CCommandChunkWireHeader :=
  { version := kWireVersion
    headerSize := UInt32.ofNat wireHeaderSize
    recordHeaderSize := UInt32.ofNat wireRecordHeaderSize
    handleEntrySize := UInt32.ofNat wireHandleEntrySize
    recordTableOffset := UInt32.ofNat plan.recordTableOffset
    recordCount := UInt32.ofNat plan.records.length
    handleTableOffset := UInt32.ofNat plan.handleTableOffset
    handleCount := UInt32.ofNat plan.handles.length
    payloadArenaOffset := UInt32.ofNat plan.payloadArenaOffset
    payloadArenaSize := UInt32.ofNat plan.payloadBytes }

def headerBlock (plan : SemanticBatchCountPlan) : Block :=
  ⟨0, wordsBytes (emittedHeader plan).words⟩

def emittedRecord (owner : ImmutableSemanticBatchOwner)
    (plan : SemanticBatchCountPlan) (index : Nat) :
    D9CCommandChunkWireRecordHeader :=
  let source := owner.record index
  let record := plan.records.getD index {}
  { type := source.recordType
    flags := source.recordFlags
    payloadOffset := record.payloadOffset
    payloadSize := record.payloadBytes
    firstHandle := record.firstHandle
    handleCount := record.handleCount }

def recordBlock (owner : ImmutableSemanticBatchOwner)
    (plan : SemanticBatchCountPlan) (index : Nat) : Block :=
  ⟨plan.recordTableOffset + index * wireRecordHeaderSize,
    wordsBytes (emittedRecord owner plan index).words⟩

def payloadBlock (owner : ImmutableSemanticBatchOwner)
    (plan : SemanticBatchCountPlan) (index : Nat) : Block :=
  ⟨plan.payloadArenaOffset +
      (plan.records.getD index {}).payloadOffset.toNat,
    owner.payloadOf (owner.record index)⟩

def emittedHandle (plan : SemanticBatchCountPlan) (index : Nat) :
    D9CCommandChunkWireHandleEntry :=
  let handle := plan.handles.getD index {}
  { kind := handle.kind
    generation := handle.generation
    objectId := handle.objectId }

def handleBlock (plan : SemanticBatchCountPlan) (index : Nat) : Block :=
  ⟨plan.handleTableOffset + index * wireHandleEntrySize,
    wordsBytes (emittedHandle plan index).words⟩

/-- The stores of the emission, in their order. -/
def emittedBlocks (owner : ImmutableSemanticBatchOwner)
    (plan : SemanticBatchCountPlan) : List Block :=
  headerBlock plan ::
    ((List.range plan.records.length).flatMap fun index =>
      [recordBlock owner plan index, payloadBlock owner plan index]) ++
    (List.range plan.handles.length).map (handleBlock plan)

def emittedTransport (owner : ImmutableSemanticBatchOwner)
    (plan : SemanticBatchCountPlan) (address : UInt64) :
    D9CCommandChunkSegmentedTransportV1 :=
  { header := emittedHeader plan
    records := toWireHandle (address + UInt64.ofNat plan.recordTableOffset)
    recordBytes :=
      UInt32.ofNat (plan.records.length * wireRecordHeaderSize)
    handles := toWireHandle (address + UInt64.ofNat plan.handleTableOffset)
    handleBytes := UInt32.ofNat (plan.handles.length * wireHandleEntrySize)
    payload := toWireHandle (address + UInt64.ofNat plan.payloadArenaOffset)
    payloadBytes := UInt32.ofNat plan.payloadBytes
    renderTapeCaptureToken := owner.role.captureToken
    renderTapeEventOrdinal := owner.role.eventOrdinal }

/-- What the call leaves in the destination and in `out`, and what it
returns. -/
structure EmitResult where
  bytes : List UInt8
  out : ExactFixedEmission := {}
  accepted : Bool := false
deriving DecidableEq

/-- The comparison with the verified plan is that of all the fields. -/
def emitExactFixed (limits : Limits) (owner : ImmutableSemanticBatchOwner)
    (plan : SemanticBatchCountPlan) (destination : Destination) :
    EmitResult :=
  if planSemanticBatch limits owner ≠ some plan ∨
      plan.valid limits = false ∨
      destination.bytes.length < plan.wireBytes ∨
      destination.address.toNat % wireHandleEntryAlignment ≠ 0 then
    { bytes := destination.bytes }
  else
    let cleared := fillBytes destination.bytes 0 plan.wireBytes 0
    let bytes := writeBlocks cleared (emittedBlocks owner plan)
    let out : ExactFixedEmission :=
      { transport := emittedTransport owner plan destination.address
        wire := bytes.take plan.wireBytes
        wireBytes := plan.wireBytes }
    { bytes := bytes, out := out, accepted := out.valid }

end Dxmt9.SemanticBatch
