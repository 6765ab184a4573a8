import Dxmt9.SemanticBatch.RecordRules
import Dxmt9.Memory.BlockWrites
import Dxmt9.Transition.Run

/-!
# Semantic records and their transport

A semantic batch takes records of known producers and is bound to the roles
of one segmented transport.  The canonical chunk is a header, a table of
record headers, a table of handle entries and an arena of payloads.
-/

namespace Dxmt9.SemanticBatch

open Dxmt9.ChunkBuilder
open Dxmt9.Memory

inductive PeSemanticProducerKind where
  | DrawPrimitive
  | DrawIndexedPrimitive
  | DrawPrimitiveUp
  | DrawIndexedPrimitiveUp
  | ApplyState
  | VsFloatConstant
  | VsIntConstant
  | VsBoolConstant
  | PsFloatConstant
  | PsIntConstant
  | PsBoolConstant
  | Clear
  | StretchRect
  | ColorFill
  | UpdateTexture
  | UpdateSurface
  | QueryIssue
  | Readback
  | ReszDepthResolve
  | GenerateMipmaps
  | Present
deriving DecidableEq

inductive PeSemanticProducerCategory where
  | Draw
  | DrawUp
  | StateBlock
  | Constant
  | Copy
  | Update
  | Query
  | Readback
  | Present
deriving DecidableEq

structure PeSemanticProducerPolicyRow where
  kind : PeSemanticProducerKind
  category : PeSemanticProducerCategory
deriving DecidableEq

/-- The rows by record type. -/
def kPeSemanticProducerPolicyTable :
    List (UInt32 × PeSemanticProducerPolicyRow) :=
  [(1, ⟨.DrawPrimitive, .Draw⟩),
    (2, ⟨.DrawIndexedPrimitive, .Draw⟩),
    (3, ⟨.DrawPrimitiveUp, .DrawUp⟩),
    (4, ⟨.DrawIndexedPrimitiveUp, .DrawUp⟩),
    (28, ⟨.ApplyState, .StateBlock⟩),
    (14, ⟨.VsFloatConstant, .Constant⟩),
    (15, ⟨.VsIntConstant, .Constant⟩),
    (16, ⟨.VsBoolConstant, .Constant⟩),
    (17, ⟨.PsFloatConstant, .Constant⟩),
    (18, ⟨.PsIntConstant, .Constant⟩),
    (19, ⟨.PsBoolConstant, .Constant⟩),
    (20, ⟨.Clear, .Copy⟩),
    (22, ⟨.StretchRect, .Copy⟩),
    (23, ⟨.ColorFill, .Copy⟩),
    (24, ⟨.UpdateTexture, .Update⟩),
    (25, ⟨.UpdateSurface, .Update⟩),
    (26, ⟨.QueryIssue, .Query⟩),
    (27, ⟨.Readback, .Readback⟩),
    (29, ⟨.ReszDepthResolve, .Copy⟩),
    (30, ⟨.GenerateMipmaps, .Update⟩),
    (21, ⟨.Present, .Present⟩)]

def peSemanticProducerPolicy (recordType : UInt32) :
    Option PeSemanticProducerPolicyRow :=
  kPeSemanticProducerPolicyTable.lookup recordType

/-- The column `allowedRecordFlags` of the record rules: every rule has
`D9C_COMMAND_CHUNK_RECORD_FLAG_NONE`. -/
def allowedRecordFlags : UInt32 := 0

/-! ## Wire values -/

@[ext] structure PeCommittedSemanticIdentityValue where
  kind : UInt32 := 0
  generation : UInt32 := 0
  objectId : UInt64 := 0
deriving DecidableEq

/-- `D9C_CHUNK_HANDLE_KIND_QUERY`. -/
def kHandleKindQuery : UInt32 := 5

/-- `D9C_COMMAND_CHUNK_WIRE_VERSION`. -/
def kWireVersion : UInt32 := 2

structure D9CWireHandle where
  lo : UInt32 := 0
  hi : UInt32 := 0
deriving DecidableEq

/-- A pointer in two halves. -/
def toWireHandle (handle : UInt64) : D9CWireHandle :=
  { lo := (handle &&& 0xffffffff).toUInt32
    hi := (handle >>> 32).toUInt32 }

def d9cWireHandleValue (handle : D9CWireHandle) : UInt64 :=
  handle.lo.toUInt64 ||| (handle.hi.toUInt64 <<< 32)

@[ext] structure D9CCommandChunkWireHeader where
  version : UInt32 := 0
  headerSize : UInt32 := 0
  recordHeaderSize : UInt32 := 0
  handleEntrySize : UInt32 := 0
  recordTableOffset : UInt32 := 0
  recordCount : UInt32 := 0
  handleTableOffset : UInt32 := 0
  handleCount : UInt32 := 0
  payloadArenaOffset : UInt32 := 0
  payloadArenaSize : UInt32 := 0
  reserved0 : UInt32 := 0
  reserved1 : UInt32 := 0
deriving DecidableEq

def D9CCommandChunkWireHeader.words (header : D9CCommandChunkWireHeader) :
    List UInt32 :=
  [header.version, header.headerSize, header.recordHeaderSize,
    header.handleEntrySize, header.recordTableOffset, header.recordCount,
    header.handleTableOffset, header.handleCount, header.payloadArenaOffset,
    header.payloadArenaSize, header.reserved0, header.reserved1]

@[ext] structure D9CCommandChunkWireRecordHeader where
  type : UInt32 := 0
  flags : UInt32 := 0
  payloadOffset : UInt32 := 0
  payloadSize : UInt32 := 0
  firstHandle : UInt32 := 0
  handleCount : UInt32 := 0
  reserved0 : UInt32 := 0
  reserved1 : UInt32 := 0
deriving DecidableEq

def D9CCommandChunkWireRecordHeader.words
    (record : D9CCommandChunkWireRecordHeader) : List UInt32 :=
  [record.type, record.flags, record.payloadOffset, record.payloadSize,
    record.firstHandle, record.handleCount, record.reserved0,
    record.reserved1]

structure D9CCommandChunkWireHandleEntry where
  kind : UInt32 := 0
  generation : UInt32 := 0
  objectId : UInt64 := 0
deriving DecidableEq

/-- The words of an entry, the low half of the object first. -/
def D9CCommandChunkWireHandleEntry.words
    (entry : D9CCommandChunkWireHandleEntry) : List UInt32 :=
  [entry.kind, entry.generation, entry.objectId.toUInt32,
    (entry.objectId >>> 32).toUInt32]

/-- The fixed roles of a segmented transport. -/
structure D9CCommandChunkSegmentedTransportV1 where
  header : D9CCommandChunkWireHeader := {}
  records : D9CWireHandle := {}
  recordBytes : UInt32 := 0
  recordReserved : UInt32 := 0
  handles : D9CWireHandle := {}
  handleBytes : UInt32 := 0
  handleReserved : UInt32 := 0
  payload : D9CWireHandle := {}
  payloadBytes : UInt32 := 0
  payloadReserved : UInt32 := 0
  renderTapeCaptureToken : UInt64 := 0
  renderTapeEventOrdinal : UInt64 := 0
deriving DecidableEq

/-- `(value + alignment - 1) & ~(alignment - 1)` for a power of two. -/
def alignedUp (value alignment : Nat) : Nat :=
  (value + (alignment - 1)) / alignment * alignment

def semanticBatchAlignUp (value : Nat) (alignment : UInt32) : Option Nat :=
  if alignment = 0 ∨ alignment &&& (alignment - 1) ≠ 0 ∨
      maxSize - (alignment.toNat - 1) < value then none
  else some (alignedUp value alignment.toNat)

theorem le_alignedUp (value : Nat) {alignment : Nat}
    (positive : 0 < alignment) : value ≤ alignedUp value alignment := by
  have whole := Nat.div_add_mod (value + (alignment - 1)) alignment
  have rest := Nat.mod_lt (value + (alignment - 1)) positive
  unfold alignedUp
  rw [Nat.mul_comm]
  omega

theorem alignedUp_mod (value alignment : Nat) :
    alignedUp value alignment % alignment = 0 :=
  Nat.mul_mod_left _ _

variable {value : Nat}

theorem alignedUp_of_mod {alignment : Nat} (positive : 0 < alignment)
    (aligned : value % alignment = 0) : alignedUp value alignment = value := by
  obtain ⟨quotient, rfl⟩ := Nat.dvd_of_mod_eq_zero aligned
  unfold alignedUp
  rw [Nat.mul_add_div positive, Nat.div_eq_of_lt (by omega), Nat.add_zero,
    Nat.mul_comm]

theorem semanticBatchAlignUp_eq_some {alignment : UInt32}
    {aligned : Nat}
    (result : semanticBatchAlignUp value alignment = some aligned) :
    0 < alignment.toNat ∧ aligned = alignedUp value alignment.toNat := by
  unfold semanticBatchAlignUp at result
  split at result
  · cases result
  · rename_i accepted
    have nonzero : alignment ≠ 0 := fun zero => accepted (Or.inl zero)
    constructor
    · apply Nat.pos_of_ne_zero
      intro zero
      exact nonzero (UInt32.toNat_inj.mp zero)
    · exact (Option.some.inj result).symm

end Dxmt9.SemanticBatch

/-!
## The owner of a semantic batch

The owner takes the roles of a transport, copies records and freezes.  An
array of the source with its count is the list of the entries counted.
-/

namespace Dxmt9.SemanticBatch

open Dxmt9.ChunkBuilder

/-- The parameters of the template. -/
structure Limits where
  maxRecords : Nat
  maxPayloadBytes : Nat
  maxIdentities : Nat
deriving DecidableEq

structure FixedRoleOwnership where
  recordCount : UInt32 := 0
  handleCount : UInt32 := 0
  recordBytes : UInt32 := 0
  handleBytes : UInt32 := 0
  payloadBytes : UInt32 := 0
  captureToken : UInt64 := 0
  eventOrdinal : UInt64 := 0
  bound : Bool := false
deriving DecidableEq

def FixedRoleOwnership.valid (role : FixedRoleOwnership) : Bool :=
  role.bound && role.recordCount != 0 &&
    ((role.captureToken == 0) == (role.eventOrdinal == 0)) &&
    decide (role.recordBytes.toNat + role.handleBytes.toNat +
      role.payloadBytes.toNat ≤ maxTotalWireBytes)

structure BatchRecordInput where
  producer : PeSemanticProducerKind := .DrawPrimitive
  recordType : UInt32 := 0
  recordFlags : UInt32 := 0
  exactPayload : List UInt8 := []
  identities : List PeCommittedSemanticIdentityValue := []
  sourceOrdinal : UInt64 := 0
  recordOrdinal : UInt64 := 0
  pendingWitness : Bool := false
  pendingKey : UInt64 := 0
  pendingValue : UInt64 := 0
  captureWitness : Bool := false
  retainerWitness : Bool := false
deriving DecidableEq

structure OwnedBatchRecord where
  producer : PeSemanticProducerKind := .DrawPrimitive
  category : PeSemanticProducerCategory := .Draw
  recordType : UInt32 := 0
  recordFlags : UInt32 := 0
  payloadOffset : UInt32 := 0
  payloadBytes : UInt32 := 0
  identityOffset : UInt32 := 0
  identityCount : UInt32 := 0
  sourceOrdinal : UInt64 := 0
  recordOrdinal : UInt64 := 0
  pendingKey : UInt64 := 0
  pendingValue : UInt64 := 0
  pendingWitness : Bool := false
  captureWitness : Bool := false
  retainerWitness : Bool := false
deriving DecidableEq

/-- The payload bytes are packed; `canonicalPayloadBytes` counts them with the
padding that the wire demands. -/
structure ImmutableSemanticBatchOwner where
  records : List OwnedBatchRecord := []
  payload : List UInt8 := []
  identities : List PeCommittedSemanticIdentityValue := []
  role : FixedRoleOwnership := {}
  canonicalPayloadBytes : Nat := 0
  frozen : Bool := false
deriving DecidableEq

namespace ImmutableSemanticBatchOwner

/-- The lambda `roleMatches`. -/
def roleMatches (role : D9CWireHandle) (bytes : UInt32) : Bool :=
  (bytes == 0) == (d9cWireHandleValue role == 0)

/-- The tests of `bindSegmentedOwnership` on the transport alone. -/
def RefusesTransport (transport : D9CCommandChunkSegmentedTransportV1) :
    Prop :=
  let header := transport.header
  let expectedRecordBytes := header.recordCount.toNat * wireRecordHeaderSize
  let expectedHandleBytes := header.handleCount.toNat * wireHandleEntrySize
  let expectedHandleOffset := alignedUp
    (header.headerSize.toNat + expectedRecordBytes) wireHandleEntryAlignment
  let expectedPayloadOffset :=
    alignedUp (expectedHandleOffset + expectedHandleBytes) wireWordAlignment
  let expectedWireBytes :=
    expectedPayloadOffset + header.payloadArenaSize.toNat
  header.version ≠ kWireVersion ∨
    header.headerSize.toNat ≠ wireHeaderSize ∨
    header.recordHeaderSize.toNat ≠ wireRecordHeaderSize ∨
    header.handleEntrySize.toNat ≠ wireHandleEntrySize ∨
    header.recordTableOffset ≠ header.headerSize ∨
    transport.recordBytes.toNat ≠ expectedRecordBytes ∨
    transport.handleBytes.toNat ≠ expectedHandleBytes ∨
    transport.payloadBytes ≠ header.payloadArenaSize ∨
    header.handleTableOffset.toNat ≠ expectedHandleOffset ∨
    header.payloadArenaOffset.toNat ≠ expectedPayloadOffset ∨
    maxTotalWireBytes < expectedWireBytes ∨
    transport.recordReserved ≠ 0 ∨
    transport.handleReserved ≠ 0 ∨
    transport.payloadReserved ≠ 0 ∨
    roleMatches transport.records transport.recordBytes = false ∨
    roleMatches transport.handles transport.handleBytes = false ∨
    roleMatches transport.payload transport.payloadBytes = false

instance (transport : D9CCommandChunkSegmentedTransportV1) :
    Decidable (RefusesTransport transport) :=
  inferInstanceAs (Decidable (_ ∨ _))

def roleOf (transport : D9CCommandChunkSegmentedTransportV1) :
    FixedRoleOwnership :=
  { recordCount := transport.header.recordCount
    handleCount := transport.header.handleCount
    recordBytes := transport.recordBytes
    handleBytes := transport.handleBytes
    payloadBytes := transport.payloadBytes
    captureToken := transport.renderTapeCaptureToken
    eventOrdinal := transport.renderTapeEventOrdinal
    bound := true }

/-- The role is stored before the last test is returned. -/
def bindSegmentedOwnership (owner : ImmutableSemanticBatchOwner)
    (transport : D9CCommandChunkSegmentedTransportV1) :
    ImmutableSemanticBatchOwner × Bool :=
  if owner.frozen ∨ owner.role.bound ∨ RefusesTransport transport then
    (owner, false)
  else
    ({ owner with role := roleOf transport }, (roleOf transport).valid)

/-- The loop over the identities of an input; `prior` are those before. -/
def identitiesAccepted (prior : List PeCommittedSemanticIdentityValue) :
    List PeCommittedSemanticIdentityValue → Bool
  | [] => true
  | identity :: rest =>
      if kHandleKindQuery < identity.kind ∨ identity.generation = 0 ∨
          identity.objectId = 0 then false
      else if identity ∈ prior then false
      else identitiesAccepted (prior ++ [identity]) rest

/-- The record that `append` stores. -/
def ownedRecord (owner : ImmutableSemanticBatchOwner)
    (input : BatchRecordInput) (policy : PeSemanticProducerPolicyRow) :
    OwnedBatchRecord :=
  { producer := input.producer
    category := policy.category
    recordType := input.recordType
    recordFlags := input.recordFlags
    payloadOffset := UInt32.ofNat owner.payload.length
    payloadBytes := UInt32.ofNat input.exactPayload.length
    identityOffset := UInt32.ofNat owner.identities.length
    identityCount := UInt32.ofNat input.identities.length
    sourceOrdinal := input.sourceOrdinal
    recordOrdinal := input.recordOrdinal
    pendingKey := input.pendingKey
    pendingValue := input.pendingValue
    pendingWitness := input.pendingWitness
    captureWitness := input.captureWitness
    retainerWitness := input.retainerWitness }

/-- The stores of `append`. -/
def appended (owner : ImmutableSemanticBatchOwner) (input : BatchRecordInput)
    (policy : PeSemanticProducerPolicyRow) (alignedPayload : Nat) :
    ImmutableSemanticBatchOwner :=
  { owner with
    records := owner.records ++ [ownedRecord owner input policy]
    payload := owner.payload ++ input.exactPayload
    identities := owner.identities ++ input.identities
    canonicalPayloadBytes := alignedPayload + input.exactPayload.length }

/-- The alignment of the payload is computed in place by the source, with the
tests of `semanticBatchAlignUp`. -/
def append (limits : Limits) (owner : ImmutableSemanticBatchOwner)
    (input : BatchRecordInput) : ImmutableSemanticBatchOwner × Bool :=
  if owner.frozen ∨ owner.records.length = limits.maxRecords ∨
      input.exactPayload = [] ∨
      limits.maxPayloadBytes - owner.payload.length <
        input.exactPayload.length ∨
      limits.maxIdentities - owner.identities.length <
        input.identities.length ∨
      input.sourceOrdinal = 0 ∨ input.recordOrdinal = 0 then
    (owner, false)
  else
    match peSemanticProducerPolicy input.recordType,
        recordRule input.recordType with
    | some policy, some wireRule =>
        if policy.kind ≠ input.producer ∨
            input.recordFlags &&& ~~~allowedRecordFlags ≠ 0 ∨
            input.exactPayload.length < wireRule.fixedPayloadSize ∨
            maxUInt32 < input.exactPayload.length ∨
            (input.pendingWitness ∧ input.pendingKey = 0) ∨
            (input.captureWitness ∧ ¬ owner.role.bound) ∨
            (input.retainerWitness ∧ input.identities = []) then
          (owner, false)
        else if owner.records.getLast?.any
            (fun last => decide (input.recordOrdinal ≤ last.recordOrdinal)) then
          (owner, false)
        else if input.captureWitness ∧
            (owner.role.captureToken = 0 ∨ owner.role.eventOrdinal = 0) then
          (owner, false)
        else if identitiesAccepted [] input.identities = false then
          (owner, false)
        else
          match semanticBatchAlignUp owner.canonicalPayloadBytes
              wireRule.payloadAlignment with
          | none => (owner, false)
          | some alignedPayload =>
              if limits.maxPayloadBytes < alignedPayload ∨
                  limits.maxPayloadBytes - alignedPayload <
                    input.exactPayload.length then
                (owner, false)
              else (owner.appended input policy alignedPayload, true)
    | _, _ => (owner, false)

def freeze (owner : ImmutableSemanticBatchOwner) :
    ImmutableSemanticBatchOwner × Bool :=
  if owner.frozen ∨ owner.records = [] ∨ owner.role.valid = false ∨
      owner.role.recordCount.toNat ≠ owner.records.length ∨
      owner.role.handleCount.toNat ≠ owner.identities.length ∨
      owner.role.recordBytes.toNat ≠
        owner.records.length * wireRecordHeaderSize ∨
      owner.role.handleBytes.toNat ≠
        owner.identities.length * wireHandleEntrySize ∨
      owner.role.payloadBytes.toNat ≠ owner.canonicalPayloadBytes then
    (owner, false)
  else ({ owner with frozen := true }, true)

end ImmutableSemanticBatchOwner

inductive BatchCall where
  | bind (transport : D9CCommandChunkSegmentedTransportV1)
  | append (input : BatchRecordInput)
  | freeze
deriving DecidableEq

/-- The owner after a call, with what the call returns. -/
def callOwner (limits : Limits) (owner : ImmutableSemanticBatchOwner) :
    BatchCall → ImmutableSemanticBatchOwner × Bool
  | .bind transport => owner.bindSegmentedOwnership transport
  | .append input => owner.append limits input
  | .freeze => owner.freeze

def stepOwner (limits : Limits) (owner : ImmutableSemanticBatchOwner)
    (call : BatchCall) : ImmutableSemanticBatchOwner :=
  (callOwner limits owner call).1

end Dxmt9.SemanticBatch
