import Mathlib.Algebra.Ring.Nat

/-!
# Names and sizes of a tape

## Source references

A source of the CPU-ready tape is named by its slot and by its pages, each
with the generation of its allocation.
-/

namespace Dxmt9.Tape

def maxUInt32 : Nat := 0xffffffff

structure CpuReadySourceId where
  index : Nat := maxUInt32
  generation : UInt64 := 0
deriving DecidableEq

def CpuReadySourceId.valid (id : CpuReadySourceId) : Bool :=
  id.generation != 0 && id.index != maxUInt32

structure CpuReadyStorageRef where
  firstPage : Nat := maxUInt32
  pageCount : Nat := 0
  generation : UInt64 := 0
deriving DecidableEq

def CpuReadyStorageRef.valid (storage : CpuReadyStorageRef) : Bool :=
  storage.generation != 0 && storage.pageCount != 0 &&
    storage.firstPage != maxUInt32

structure SourceRef where
  id : CpuReadySourceId := {}
  storage : CpuReadyStorageRef := {}
deriving DecidableEq

def SourceRef.valid (source : SourceRef) : Bool :=
  source.id.valid && source.storage.valid

end Dxmt9.Tape

/-!
## Tape configurations

The sizes of a tape and its high and low waters.  A configuration is only
built from values that pass the checks.
-/

namespace Dxmt9.Tape

def maxUInt64 : Nat := 0xffffffffffffffff

def kMaxArenaSourcePayloadSegments : Nat := 8

/-- The alignment of the largest scalar. -/
def kCpuReadyPageArenaAlignment : Nat := 16

structure Values where
  pageSize : Nat := 4096
  pageCount : Nat := 0
  sourceSlotCount : Nat := 0
  readyFifoCount : Nat := 0
  compatibilityPayloadCount : Nat := 0
  maxPagesPerSource : Nat := 0
  highWaterSources : Nat := 0
  lowWaterSources : Nat := 0
  highWaterPages : Nat := 0
  lowWaterPages : Nat := 0
  highWaterReady : Nat := 0
  lowWaterReady : Nat := 0
deriving DecidableEq

/-- The checks of a configuration. -/
def Values.valid (values : Values) : Bool :=
  values.pageSize != 0 && values.pageCount != 0 &&
    values.sourceSlotCount != 0 && values.readyFifoCount != 0 &&
    values.compatibilityPayloadCount != 0 &&
    values.pageSize % kCpuReadyPageArenaAlignment == 0 &&
    decide (values.pageCount ≤ maxUInt32) &&
    decide (values.sourceSlotCount ≤ maxUInt32) &&
    decide (values.sourceSlotCount ≤
      maxUInt64 / kMaxArenaSourcePayloadSegments) &&
    decide (values.readyFifoCount ≤ values.sourceSlotCount) &&
    values.maxPagesPerSource != 0 &&
    decide (values.maxPagesPerSource ≤ values.pageCount) &&
    values.highWaterSources != 0 &&
    decide (values.highWaterSources ≤ values.sourceSlotCount) &&
    decide (values.lowWaterSources < values.highWaterSources) &&
    values.highWaterPages != 0 &&
    decide (values.highWaterPages ≤ values.pageCount) &&
    decide (values.maxPagesPerSource ≤ values.highWaterPages) &&
    decide (values.lowWaterPages < values.highWaterPages) &&
    values.highWaterReady != 0 &&
    decide (values.highWaterReady ≤ values.readyFifoCount) &&
    decide (values.lowWaterReady < values.highWaterReady) &&
    decide (values.pageSize ≤ maxUInt64 / values.pageCount)

structure CpuReadyTapeConfig where
  values : Values
  valid : values.valid = true

namespace CpuReadyTapeConfig

def capacity (config : CpuReadyTapeConfig) : Nat :=
  config.values.sourceSlotCount

end CpuReadyTapeConfig

end Dxmt9.Tape

/-!
## Sources of a tape

A source is described by an entry of the tape: where it is stored, which
identity its admission consumed, and how far it has come.  Identities are
64-bit values; every addition to one is guarded against overflow.
-/

namespace Dxmt9.Tape

def kInvalidIndex : Nat := maxUInt64

inductive PayloadKind where
  | legacy
  | arena
deriving DecidableEq

inductive State where
  | free
  | writing
  | «sealed»
  | ready
  | tentativeRepresented
  | represented
  | submitted
  | completed
  | reclaiming
deriving DecidableEq

inductive ArenaDetachKind where
  | none
  | abort
  | reclaim
deriving DecidableEq

/-! ## Producer identities -/

structure CpuReadyProducerIdentity where
  firstEventOrdinal : Nat := 0
  lastEventOrdinal : Nat := 0
  firstSourceOrdinal : Nat := 0
  lastSourceOrdinal : Nat := 0
deriving DecidableEq

namespace CpuReadyProducerIdentity

def absent (identity : CpuReadyProducerIdentity) : Bool :=
  identity.firstEventOrdinal == 0 && identity.lastEventOrdinal == 0 &&
    identity.firstSourceOrdinal == 0 && identity.lastSourceOrdinal == 0

def valid (identity : CpuReadyProducerIdentity) : Bool :=
  identity.firstEventOrdinal != 0 &&
    decide (identity.firstEventOrdinal ≤ identity.lastEventOrdinal) &&
    identity.firstSourceOrdinal != 0 &&
    decide (identity.firstSourceOrdinal ≤ identity.lastSourceOrdinal)

def importable (identity : CpuReadyProducerIdentity) : Bool :=
  identity.absent || identity.valid

end CpuReadyProducerIdentity

/-- Batches of one open source must be exactly adjacent. -/
def compatibilityProducerIdentityAppendable
    (current next : CpuReadyProducerIdentity) : Bool :=
  if !next.importable then false
  else if next.absent || current.absent then true
  else
    current.valid && current.lastEventOrdinal != maxUInt64 &&
      current.lastSourceOrdinal != maxUInt64 &&
      next.firstEventOrdinal == current.lastEventOrdinal + 1 &&
      next.firstSourceOrdinal == current.lastSourceOrdinal + 1

structure CpuReadySpanWitness where
  rawOrdinal : Nat := 0
  lastSpanOrdinal : Nat := 0
  settled : Bool := false
  producerIdentity : CpuReadyProducerIdentity := {}
deriving DecidableEq

def CpuReadySpanWitness.active (witness : CpuReadySpanWitness) : Bool :=
  witness.rawOrdinal != 0 && witness.producerIdentity.importable

inductive CpuReadySpanAdmission where
  | crossRaw
  | sameRawSpan
  | duplicateSpan
  | skippedSpan
  | settledRaw
  | identityMismatch
deriving DecidableEq

def compatibilitySpanAdmission (witness : CpuReadySpanWitness)
    (rawOrdinal spanOrdinal : Nat) (identity : CpuReadyProducerIdentity) :
    CpuReadySpanAdmission :=
  if !witness.active || rawOrdinal == 0 ||
      witness.rawOrdinal != rawOrdinal then .crossRaw
  else if witness.settled then .settledRaw
  else if witness.producerIdentity ≠ identity then .identityMismatch
  else if spanOrdinal ≤ witness.lastSpanOrdinal then .duplicateSpan
  else if witness.lastSpanOrdinal == maxUInt32 ||
      spanOrdinal != witness.lastSpanOrdinal + 1 then .skippedSpan
  else .sameRawSpan

structure SourceSemanticSummary where
  byteCount : Nat := 0
  pageCount : Nat := 0
  commandCount : Nat := 0
  hasPresent : Bool := false
  «sealed» : Bool := false
deriving DecidableEq

/-- Where a source is stored. -/
structure SourcePlacement where
  generation : UInt64 := 0
  storage : CpuReadyStorageRef := {}
  paddingFirstPage : Nat := 0
  paddingBefore : Nat := 0
  payloadKind : PayloadKind := .legacy
  compatibilityIndex : Option Nat := none
  arenaPayloadCount : Nat := 0
deriving DecidableEq

/-- Which identity the admission of a source consumed, and its group. -/
structure SourceAdmission where
  rawOrdinal : Nat := 0
  sourceOrdinal : Nat := 0
  seqId : Nat := 0
  buildGeneration : Nat := 0
  groupRawOrdinal : Nat := 0
  groupHeadSourceOrdinal : Nat := 0
  groupBuildGeneration : Nat := 0
  groupTailSeqId : Nat := 0
  groupSourceCount : Nat := 0
  groupSourceIndex : Nat := 0
  strictAdmission : Bool := false
deriving DecidableEq

structure ArenaExtent where
  byteOffset : Nat := 0
  byteCount : Nat := 0
deriving DecidableEq

structure Entry extends SourcePlacement, SourceAdmission where
  state : State := .free
  usedBytes : Nat := 0
  plannedBytes : Nat := 0
  arenaExtents : List ArenaExtent := []
  producerIdentity : CpuReadyProducerIdentity := {}
  spanWitness : CpuReadySpanWitness := {}
  groupSettlementEmitted : Bool := false
  semantic : SourceSemanticSummary := {}
  readyPublicationReserved : Bool := false
  arenaOwnerDetached : Bool := false
  arenaDetachKind : ArenaDetachKind := .none
deriving DecidableEq

structure Page where
  owner : CpuReadySourceId := {}
  generation : UInt64 := 0
  allocated : Bool := false
deriving DecidableEq

structure CpuReadyPublicationTicket where
  id : CpuReadySourceId := {}
  storage : CpuReadyStorageRef := {}
  rawOrdinal : Nat := 0
  sourceOrdinal : Nat := 0
  seqId : Nat := 0
  buildGeneration : Nat := 0
  producerIdentity : CpuReadyProducerIdentity := {}
deriving DecidableEq

namespace CpuReadyPublicationTicket

def source (ticket : CpuReadyPublicationTicket) : SourceRef :=
  { id := ticket.id, storage := ticket.storage }

def hasAdmissionIdentity (ticket : CpuReadyPublicationTicket) : Bool :=
  ticket.rawOrdinal != 0 || ticket.sourceOrdinal != 0 ||
    ticket.seqId != 0 || ticket.buildGeneration != 0 ||
    !ticket.producerIdentity.absent

end CpuReadyPublicationTicket

structure CpuReadySourceMetadata where
  rawOrdinal : Nat := 0
  sourceOrdinal : Nat := 0
  seqId : Nat := 0
  buildGeneration : Nat := 0
  usedBytes : Nat := 0
  pageCount : Nat := 0
  paddingPagesBefore : Nat := 0
  strictAdmission : Bool := false
deriving DecidableEq

structure ReadyEntry where
  source : SourceRef := {}
  controlIndex : Nat := kInvalidIndex
  seqId : Nat := 0
  metadata : CpuReadySourceMetadata := {}
  semantic : SourceSemanticSummary := {}
deriving DecidableEq

structure Reservation where
  id : CpuReadySourceId := {}
  storage : CpuReadyStorageRef := {}
  ticket : CpuReadyPublicationTicket := {}
  payloadKind : PayloadKind := .legacy
  arenaPayloadCount : Nat := 0
deriving DecidableEq

/-- A generation is never zero. -/
def nextGeneration (current : UInt64) : UInt64 :=
  if current + 1 = 0 then 1 else current + 1

end Dxmt9.Tape
