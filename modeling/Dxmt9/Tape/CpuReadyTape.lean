import Mathlib.Logic.Function.Basic
import Dxmt9.Tape.Entry

/-!
# The CPU-ready tape

Sources are kept in a ring of slots, oldest first, and their pages in a ring
of pages.  A run of pages does not wrap: the pages behind the tail that are
too few for it are discarded as its padding.
-/

namespace Dxmt9.Tape

/-! ## The tape -/

structure PressureDimensions where
  sources : Bool := false
  pages : Bool := false
  compatibility : Bool := false
  ready : Bool := false
deriving DecidableEq

namespace PressureDimensions

def union (left right : PressureDimensions) : PressureDimensions :=
  { sources := left.sources || right.sources
    pages := left.pages || right.pages
    compatibility := left.compatibility || right.compatibility
    ready := left.ready || right.ready }

/-- Pressure other than that of the compatibility payloads. -/
def arenaActive (dimensions : PressureDimensions) : Bool :=
  dimensions.sources || dimensions.pages || dimensions.ready

def active (dimensions : PressureDimensions) : PayloadKind → Bool
  | .legacy => dimensions.arenaActive || dimensions.compatibility
  | .arena => dimensions.arenaActive

end PressureDimensions

inductive ReserveProbe where
  | ready
  | temporaryPressure
  | invalidRequest
  | stopped
  | corrupt
deriving DecidableEq

inductive ArenaBatchReserveFailure where
  | none
  | recoverable
  | temporaryPressure
  | invalid
  | stopped
  | corrupt
deriving DecidableEq

/-- The arrays are functions of the index; the prefix that is tentatively
represented is a list. -/
structure CpuReadyTape where
  entries : Nat → Entry := fun _ => {}
  readyFifo : Nat → ReadyEntry := fun _ => {}
  tentativeReadyPrefix : List ReadyEntry := []
  pages : Nat → Page := fun _ => {}
  arenaOwnerConstructed : Nat → Nat → Bool := fun _ _ => false
  compatibilityOwners : Nat → CpuReadySourceId := fun _ => {}
  sourceHead : Nat := 0
  sourceTail : Nat := 0
  readyHead : Nat := 0
  readyTail : Nat := 0
  readyCount : Nat := 0
  pageTail : Nat := 0
  compatibilityTail : Nat := 0
  residentCount : Nat := 0
  occupiedPages : Nat := 0
  compatibilityResident : Nat := 0
  compatibilityWritingCount : Nat := 0
  readyPublicationReservations : Nat := 0
  nextPageAllocationGeneration : UInt64 := 0
  rawOrdinalHighWater : Nat := 0
  sourceOrdinalHighWater : Nat := 0
  seqIdHighWater : Nat := 0
  closedPressureDimensions : PressureDimensions := {}
  strictWritingActive : Bool := false
  lastArenaBatchReserveFailure : ArenaBatchReserveFailure := .none
  stopped : Bool := false

namespace CpuReadyTape

def setEntry (tape : CpuReadyTape) (index : Nat) (entry : Entry) :
    CpuReadyTape :=
  { tape with entries := Function.update tape.entries index entry }

variable (config : CpuReadyTapeConfig)

/-- Every page of the run belongs to the source. -/
def validatePages (tape : CpuReadyTape) (source : SourceRef) : Bool :=
  let storage := source.storage
  storage.valid && decide (storage.firstPage < config.values.pageCount) &&
    decide (storage.pageCount ≤
      config.values.pageCount - storage.firstPage) &&
    decide (∀ offset < storage.pageCount,
      tape.pages (storage.firstPage + offset) =
        { owner := source.id
          generation := storage.generation
          allocated := true })

def resolveEntry (tape : CpuReadyTape) (source : SourceRef) :
    Option Entry :=
  let entry := tape.entries source.id.index
  if source.id.valid ∧ source.id.index < config.capacity ∧
      entry.generation = source.id.generation ∧ entry.state ≠ .free ∧
      entry.storage = source.storage ∧
      validatePages config tape source = true then some entry
  else none

def wrapPaddingFor (tape : CpuReadyTape) (pageCount : Nat) : Nat :=
  if pageCount = 0 ∨ config.values.pageCount < pageCount then
    config.values.pageCount
  else if config.values.pageCount < tape.pageTail + pageCount then
    config.values.pageCount - tape.pageTail
  else 0

def validPageRequest (pageCount : Nat) : Bool :=
  pageCount != 0 && decide (pageCount ≤ config.values.maxPagesPerSource) &&
    decide (pageCount ≤ config.values.pageCount)

def pressureDimensions (tape : CpuReadyTape) (pageCount : Nat)
    (payloadKind : PayloadKind) : PressureDimensions :=
  let padding := wrapPaddingFor config tape pageCount
  let availablePages := config.values.highWaterPages -
    min tape.occupiedPages config.values.highWaterPages
  { sources := decide (config.values.highWaterSources ≤ tape.residentCount)
    compatibility := payloadKind == .legacy &&
      decide (config.values.compatibilityPayloadCount ≤
        tape.compatibilityResident)
    ready := decide (config.values.highWaterReady ≤
      tape.readyPublicationReservations)
    pages := decide (availablePages < padding) ||
      decide (availablePages - min padding availablePages < pageCount) }

def reachedDimensions (tape : CpuReadyTape) (payloadKind : PayloadKind) :
    PressureDimensions :=
  { sources := decide (config.values.highWaterSources ≤ tape.residentCount)
    compatibility := payloadKind == .legacy &&
      decide (config.values.compatibilityPayloadCount ≤
        tape.compatibilityResident)
    pages := decide (config.values.highWaterPages ≤ tape.occupiedPages)
    ready := decide (config.values.highWaterReady ≤
      tape.readyPublicationReservations) }

def closeAdmission (tape : CpuReadyTape)
    (dimensions : PressureDimensions) : CpuReadyTape :=
  { tape with
    closedPressureDimensions :=
      tape.closedPressureDimensions.union dimensions }

def stopAdmission (tape : CpuReadyTape) : CpuReadyTape :=
  { tape with stopped := true }

/-! ## Reserving storage -/

/-- The first compatibility payload from the tail on that nobody owns. -/
def findFreeCompatibilityPayload (tape : CpuReadyTape) : Option Nat :=
  let count := config.values.compatibilityPayloadCount
  ((List.range count).map fun offset =>
    (tape.compatibilityTail + offset) % count).find? fun index =>
      !(tape.compatibilityOwners index).valid

def allocationPagesFree (tape : CpuReadyTape)
    (firstPage pageCount padding : Nat) : Bool :=
  decide (firstPage ≤ config.values.pageCount) &&
    decide (pageCount ≤ config.values.pageCount - firstPage) &&
    (padding == 0 ||
      decide (padding ≤ config.values.pageCount - tape.pageTail) &&
        decide (∀ offset < padding,
          (tape.pages (tape.pageTail + offset)).allocated = false)) &&
    decide (∀ offset < pageCount,
      (tape.pages (firstPage + offset)).allocated = false)

def arenaOwnersFree (tape : CpuReadyTape) (index segmentCount : Nat) :
    Bool :=
  decide (∀ segment < segmentCount,
    tape.arenaOwnerConstructed index segment = false)

/-- The slot at the tail, a payload, the owners and the pages are free. -/
def allocatable (tape : CpuReadyTape) (pageCount : Nat)
    (payloadKind : PayloadKind) (arenaPayloadCount : Nat) : Bool :=
  let padding := wrapPaddingFor config tape pageCount
  let firstPage := if padding ≠ 0 then 0 else tape.pageTail
  (tape.entries tape.sourceTail).state == .free &&
    (payloadKind == .arena ||
      (findFreeCompatibilityPayload config tape).isSome) &&
    (payloadKind == .legacy ||
      arenaOwnersFree tape tape.sourceTail arenaPayloadCount) &&
    allocationPagesFree config tape firstPage pageCount padding

def inspectReserve (tape : CpuReadyTape) (pageCount : Nat)
    (payloadKind : PayloadKind) (arenaPayloadCount : Nat) :
    ReserveProbe :=
  let values := config.values
  let padding := wrapPaddingFor config tape pageCount
  let availablePages := values.highWaterPages - tape.occupiedPages
  if validPageRequest config pageCount = false ∨
      payloadKind = .arena ∧ (arenaPayloadCount = 0 ∨
        kMaxArenaSourcePayloadSegments < arenaPayloadCount) then
    .invalidRequest
  else if tape.stopped then .stopped
  else if tape.closedPressureDimensions.active payloadKind then
    .temporaryPressure
  else if values.highWaterReady ≤ tape.readyPublicationReservations ∨
      values.highWaterSources ≤ tape.residentCount ∨
      payloadKind = .legacy ∧
        values.compatibilityPayloadCount ≤ tape.compatibilityResident ∨
      values.highWaterPages < tape.occupiedPages then .temporaryPressure
  else if availablePages < padding ∨
      availablePages - padding < pageCount then .temporaryPressure
  else if allocatable config tape pageCount payloadKind
      arenaPayloadCount then .ready
  else .corrupt

/-- Pressure closes the admission, and a corrupt allocator stops it. -/
def probeReserve (tape : CpuReadyTape) (pageCount : Nat)
    (payloadKind : PayloadKind) (arenaPayloadCount : Nat) :
    CpuReadyTape × ReserveProbe :=
  let probe := inspectReserve config tape pageCount payloadKind
    arenaPayloadCount
  if probe = .temporaryPressure then
    (tape.closeAdmission
      (pressureDimensions config tape pageCount payloadKind), probe)
  else if probe = .corrupt then (tape.stopAdmission, probe)
  else (tape, probe)

/-- Assigns a run of pages. -/
def fillPages (pages : Nat → Page) (first count : Nat) (page : Page) :
    Nat → Page :=
  fun index =>
    if first ≤ index ∧ index < first + count then page else pages index

/-- Whether the owners of the first segments of a slot are constructed. -/
def setArenaOwners (constructed : Nat → Nat → Bool)
    (slot segmentCount : Nat) (value : Bool) : Nat → Nat → Bool :=
  fun index segment =>
    if index = slot ∧ segment < segmentCount then value
    else constructed index segment

/-- The placement of a source at the tail. -/
def placementAtTail (tape : CpuReadyTape) (pageCount : Nat)
    (payloadKind : PayloadKind) (arenaPayloadCount : Nat) :
    SourcePlacement :=
  let entry := tape.entries tape.sourceTail
  let padding := wrapPaddingFor config tape pageCount
  { generation :=
      if entry.generation = 0 then nextGeneration entry.generation
      else entry.generation
    storage :=
      { firstPage := if padding ≠ 0 then 0 else tape.pageTail
        pageCount := pageCount
        generation := nextGeneration tape.nextPageAllocationGeneration }
    paddingFirstPage := tape.pageTail
    paddingBefore := padding
    payloadKind := payloadKind
    compatibilityIndex :=
      if payloadKind = .legacy then findFreeCompatibilityPayload config tape
      else none
    arenaPayloadCount :=
      if payloadKind = .arena then arenaPayloadCount else 0 }

/-- The entry of a source that is reserved: what its slot held of a group is
kept. -/
def reservedEntry (previous : Entry) (placement : SourcePlacement) : Entry :=
  { previous with
    toSourcePlacement := placement
    state := .writing
    usedBytes := 0
    plannedBytes := 0
    arenaExtents := []
    rawOrdinal := 0
    sourceOrdinal := 0
    seqId := 0
    buildGeneration := 0
    producerIdentity := {}
    spanWitness := {}
    strictAdmission := false
    readyPublicationReserved := true
    arenaOwnerDetached := false
    arenaDetachKind := .none }

/-- The tape with a source in the slot at the tail. -/
def place (tape : CpuReadyTape) (placement : SourcePlacement) :
    CpuReadyTape :=
  let slot := tape.sourceTail
  let storage := placement.storage
  let page : Page :=
    { owner := { index := slot, generation := placement.generation }
      generation := storage.generation
      allocated := true }
  let legacy := placement.payloadKind == .legacy
  { tape with
    entries := Function.update tape.entries slot
      (reservedEntry (tape.entries slot) placement)
    pages := fillPages
      (fillPages tape.pages tape.pageTail placement.paddingBefore page)
      storage.firstPage storage.pageCount page
    nextPageAllocationGeneration := storage.generation
    compatibilityOwners :=
      match placement.compatibilityIndex with
      | some index =>
          Function.update tape.compatibilityOwners index page.owner
      | none => tape.compatibilityOwners
    compatibilityResident :=
      tape.compatibilityResident + if legacy then 1 else 0
    compatibilityWritingCount :=
      tape.compatibilityWritingCount + if legacy then 1 else 0
    arenaOwnerConstructed := setArenaOwners tape.arenaOwnerConstructed slot
      placement.arenaPayloadCount true
    pageTail :=
      (storage.firstPage + storage.pageCount) % config.values.pageCount
    occupiedPages :=
      tape.occupiedPages + (placement.paddingBefore + storage.pageCount)
    residentCount := tape.residentCount + 1
    readyPublicationReservations := tape.readyPublicationReservations + 1
    sourceTail := (slot + 1) % config.capacity }

def reserveStorageImpl (tape : CpuReadyTape) (pageCount : Nat)
    (payloadKind : PayloadKind) (arenaPayloadCount : Nat) :
    CpuReadyTape × Option Reservation :=
  if allocatable config tape pageCount payloadKind arenaPayloadCount = false ∨
      payloadKind = .arena ∧ (arenaPayloadCount = 0 ∨
        kMaxArenaSourcePayloadSegments < arenaPayloadCount) then
    (tape.stopAdmission, none)
  else
    let placement := placementAtTail config tape pageCount payloadKind
      arenaPayloadCount
    let placed := place config tape placement
    let id : CpuReadySourceId :=
      { index := tape.sourceTail, generation := placement.generation }
    -- Reaching a high water closes the admission at once.
    (placed.closeAdmission (reachedDimensions config placed payloadKind),
      some
        { id := id
          storage := placement.storage
          ticket := { id := id, storage := placement.storage }
          payloadKind := payloadKind
          arenaPayloadCount := placement.arenaPayloadCount })

/-- A compatibility source, outside of every strict one. -/
def reserve (tape : CpuReadyTape) (pageCount : Nat) :
    CpuReadyTape × Option Reservation :=
  if tape.strictWritingActive then (tape, none)
  else
    let probed := probeReserve config tape pageCount .legacy 1
    if probed.2 ≠ .ready then (probed.1, none)
    else reserveStorageImpl config probed.1 pageCount .legacy 1

/-- Appends the batch of another raw, or the next span of this one. -/
def extendCompatibilityProducerIdentity (tape : CpuReadyTape)
    (ticket : CpuReadyPublicationTicket) (next : CpuReadyProducerIdentity)
    (spanRawOrdinal spanOrdinal : Nat) (finalSpan : Bool) :
    CpuReadyTape × Bool :=
  match resolveEntry config tape ticket.source with
  | none => (tape, false)
  | some entry =>
      if entry.state ≠ .writing ∨ entry.strictAdmission ∨
          entry.payloadKind ≠ .legacy ∨ ticket.hasAdmissionIdentity ∨
          next.importable = false then (tape, false)
      else
        match compatibilitySpanAdmission entry.spanWitness spanRawOrdinal
            spanOrdinal next with
        | .sameRawSpan =>
            (tape.setEntry ticket.id.index
              { entry with
                spanWitness :=
                  { entry.spanWitness with
                    lastSpanOrdinal := spanOrdinal
                    settled := finalSpan } }, true)
        | .crossRaw =>
            if compatibilityProducerIdentityAppendable
                entry.producerIdentity next = false then (tape, false)
            else
              let witness : CpuReadySpanWitness :=
                if spanRawOrdinal ≠ 0 then
                  { rawOrdinal := spanRawOrdinal
                    lastSpanOrdinal := spanOrdinal
                    settled := finalSpan
                    producerIdentity := next }
                else {}
              let identity :=
                if next.absent then entry.producerIdentity
                else if entry.producerIdentity.absent then next
                else
                  { entry.producerIdentity with
                    lastEventOrdinal := next.lastEventOrdinal
                    lastSourceOrdinal := next.lastSourceOrdinal }
              (tape.setEntry ticket.id.index
                { entry with
                  spanWitness := witness
                  producerIdentity := identity }, true)
        | _ => (tape, false)

end CpuReadyTape

end Dxmt9.Tape
