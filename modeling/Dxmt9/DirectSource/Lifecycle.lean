import Dxmt9.Transition.Run

/-!
# The direct source lifecycle

The observer of the direct-source path keeps one record for each source it has
seen.  An event moves one record through its phases or is rejected with an
error; a batch of events is reduced on a copy of the state.

Records are a list: the used prefix of the array of the source.
-/

namespace Dxmt9.DirectSource

inductive Phase where
  | empty
  | rawOwned
  | planned
  | admitted
  | effected
  | receiptOwned
  | published
  | encoded
  | completed
  | detached
  | restored
  | poisonAbandoned
  | reclaimed
  | failStopped
deriving DecidableEq

inductive Action where
  | importRaw
  | plan
  | admitWitness
  | effectCut
  | destinationReceipt
  | publish
  | encode
  | complete
  | detach
  | restore
  | poisonAbandon
  | rollbackPreEffect
  | reclaim
  | failStop
deriving DecidableEq

inductive ControlMode where
  | ordinary
  | separator
  | orderedControl
deriving DecidableEq

inductive CreditKind where
  | qualitative
  | retainedBytes
deriving DecidableEq

inductive LifecycleError where
  | none
  | invalidIdentity
  | boundedOverflow
  | staleOrDuplicateWitness
  | invalidTransition
  | sourceReordered
  | duplicateEmission
  | fallbackAfterEffect
  | completionRequired
  | creditMismatch
  | missingRestore
  | partialAdoption
deriving DecidableEq

def maxUInt32 : UInt32 := 0xFFFFFFFF

def maxUInt64 : UInt64 := 0xFFFFFFFFFFFFFFFF

structure Identity where
  rawOrdinal : UInt64 := 0
  spanOrdinal : UInt32 := 0
  sourceOrdinal : UInt64 := 0
  seqId : UInt64 := 0
  sourceGeneration : UInt64 := 0
  storageGeneration : UInt64 := 0
  destinationSlot : UInt32 := maxUInt32
  sourceIndex : UInt32 := maxUInt32
  firstPage : UInt32 := maxUInt32
  pageCount : UInt32 := 0
deriving DecidableEq

def Identity.valid (identity : Identity) : Bool :=
  identity.rawOrdinal != 0 && identity.sourceOrdinal != 0 &&
    identity.seqId != 0 && identity.sourceGeneration != 0 &&
    identity.storageGeneration != 0 &&
    identity.destinationSlot != maxUInt32 &&
    identity.sourceIndex != maxUInt32 && identity.firstPage != maxUInt32 &&
    identity.pageCount != 0

structure LifecycleEvent where
  identity : Identity := {}
  action : Action := .importRaw
  controlMode : ControlMode := .ordinary
  creditKind : CreditKind := .qualitative
  schemaRevision : UInt32 := 0
  witnessGeneration : UInt64 := 0
  retainedCredit : UInt64 := 0
  stagedCredit : UInt64 := 0
  detachedCredit : UInt64 := 0
  physicalCreditOwner : Bool := false
  hasPresent : Bool := false
  partialAdoption : Bool := false
deriving DecidableEq

structure LifecycleRecord where
  identity : Identity := {}
  phase : Phase := .empty
  controlMode : ControlMode := .ordinary
  creditKind : CreditKind := .qualitative
  schemaRevision : UInt32 := 0
  witnessGeneration : UInt64 := 0
  retainedCredit : UInt64 := 0
  stagedCredit : UInt64 := 0
  detachedCredit : UInt64 := 0
  aggregateCredit : UInt64 := 0
  physicalCreditOwner : Bool := false
  transitionCount : UInt32 := 0
  publicationCount : UInt32 := 0
  hasPresent : Bool := false
  effectStarted : Bool := false
  witnessConsumed : Bool := false
  completed : Bool := false
  poisoned : Bool := false
deriving DecidableEq

def kMaxObservedDirectSources : Nat := 256

/-- The raw, span and source ordinals that the state remembers together. -/
structure LogicalOrdinal where
  raw : UInt64 := 0
  span : UInt32 := 0
  source : UInt64 := 0
deriving DecidableEq

def Identity.ordinal (identity : Identity) : LogicalOrdinal :=
  { raw := identity.rawOrdinal
    span := identity.spanOrdinal
    source := identity.sourceOrdinal }

structure LifecycleState where
  records : List LifecycleRecord := []
  lastImported : LogicalOrdinal := {}
  lastPublished : LogicalOrdinal := {}
  lastReclaimed : LogicalOrdinal := {}
deriving DecidableEq

/-! ## Guards -/

def findDirectSource (state : LifecycleState) (identity : Identity) :
    Option Nat :=
  state.records.findIdx? fun record => record.identity == identity

/-- No sum of credits wraps. -/
def creditSumFits (retained staged detached : UInt64) : Bool :=
  retained ≤ maxUInt64 - staged && retained + staged ≤ maxUInt64 - detached

def directCreditConserved (record : LifecycleRecord) : Bool :=
  creditSumFits record.retainedCredit record.stagedCredit
      record.detachedCredit &&
    record.retainedCredit + record.stagedCredit + record.detachedCredit ==
      record.aggregateCredit

def directPhysicalCreditKeyEqual (lhs rhs : Identity) : Bool :=
  lhs.seqId == rhs.seqId && lhs.sourceGeneration == rhs.sourceGeneration &&
    lhs.storageGeneration == rhs.storageGeneration &&
    lhs.destinationSlot == rhs.destinationSlot &&
    lhs.sourceIndex == rhs.sourceIndex && lhs.firstPage == rhs.firstPage &&
    lhs.pageCount == rhs.pageCount

def directEventCreditValid (event : LifecycleEvent) : Bool :=
  creditSumFits event.retainedCredit event.stagedCredit event.detachedCredit

def directLogicalOrdinalAfter (next prior : LogicalOrdinal) : Bool :=
  if prior.raw = 0 then next.raw != 0 && next.span == 0 && next.source != 0
  else if next.raw = prior.raw then
    prior.span != maxUInt32 && next.span == prior.span + 1 &&
      prior.source ≤ next.source
  else prior.raw < next.raw && next.span == 0 && prior.source ≤ next.source

/-- The owner of the physical payload is unique, and a sibling needs it. -/
def physicalOwnerError (state : LifecycleState) (event : LifecycleEvent) :
    LifecycleError :=
  let owned := state.records.any fun prior =>
    prior.physicalCreditOwner &&
      directPhysicalCreditKeyEqual prior.identity event.identity
  if event.physicalCreditOwner then
    if owned then .duplicateEmission else .none
  else if owned then .none else .invalidIdentity

def siblingCarriesCredit (event : LifecycleEvent) : Bool :=
  !event.physicalCreditOwner &&
    (event.retainedCredit != 0 || event.stagedCredit != 0 ||
      event.detachedCredit != 0)

def newRecord (phase : Phase) (witnessGeneration : UInt64)
    (event : LifecycleEvent) : LifecycleRecord :=
  { identity := event.identity
    phase := phase
    controlMode := event.controlMode
    creditKind := event.creditKind
    schemaRevision := event.schemaRevision
    witnessGeneration := witnessGeneration
    retainedCredit := event.retainedCredit
    stagedCredit := event.stagedCredit
    detachedCredit := event.detachedCredit
    aggregateCredit :=
      event.retainedCredit + event.stagedCredit + event.detachedCredit
    physicalCreditOwner := event.physicalCreditOwner
    hasPresent := event.hasPresent
    transitionCount := 1 }

def LifecycleState.append (state : LifecycleState)
    (record : LifecycleRecord) : LifecycleState :=
  { state with
    records := state.records ++ [record]
    lastImported := record.identity.ordinal }

/-- A witness of an unknown source attaches the projection here.  The credits
of the appended record are checked only afterwards. -/
def admitWitness (state : LifecycleState) (event : LifecycleEvent) :
    LifecycleState × LifecycleError :=
  if event.witnessGeneration = 0 then (state, .staleOrDuplicateWitness)
  else if state.records.length = kMaxObservedDirectSources then
    (state, .boundedOverflow)
  else if !directLogicalOrdinalAfter event.identity.ordinal
      state.lastImported then
    (state, .sourceReordered)
  else if siblingCarriesCredit event then (state, .creditMismatch)
  else if physicalOwnerError state event ≠ .none then
    (state, physicalOwnerError state event)
  else
    let record := newRecord .admitted event.witnessGeneration event
    (state.append record,
      if directCreditConserved record then .none else .creditMismatch)

def importRaw (state : LifecycleState) (event : LifecycleEvent) :
    LifecycleState × LifecycleError :=
  if (findDirectSource state event.identity).isSome then
    (state, .duplicateEmission)
  else if !directLogicalOrdinalAfter event.identity.ordinal
      state.lastImported then
    (state, .sourceReordered)
  else if state.records.length = kMaxObservedDirectSources then
    (state, .boundedOverflow)
  else if siblingCarriesCredit event then (state, .creditMismatch)
  else if physicalOwnerError state event ≠ .none then
    (state, physicalOwnerError state event)
  else (state.append (newRecord .rawOwned 0 event), .none)

/-! ## Transitions of a record -/

def requireCredit (record : LifecycleRecord) (event : LifecycleEvent) :
    Bool :=
  record.retainedCredit == event.retainedCredit &&
    record.stagedCredit == event.stagedCredit &&
    record.detachedCredit == event.detachedCredit

/-- The credit came back as a whole, or there was none. -/
def creditReturned (record : LifecycleRecord) (event : LifecycleEvent) :
    Bool :=
  event.detachedCredit == 0 && event.stagedCredit == 0 &&
    (if record.physicalCreditOwner then
      event.retainedCredit == record.aggregateCredit
    else event.retainedCredit == 0)

def creditDetaches (record : LifecycleRecord) (event : LifecycleEvent) :
    Bool :=
  event.stagedCredit == 0 &&
    (if record.physicalCreditOwner then
      event.detachedCredit != 0 &&
        event.retainedCredit + event.detachedCredit == record.aggregateCredit
    else event.retainedCredit == 0 && event.detachedCredit == 0)

/-- The cases of the switch that leave the record in place. -/
def moveRecord (state : LifecycleState) (record : LifecycleRecord)
    (event : LifecycleEvent) :
    Except LifecycleError (LifecycleState × LifecycleRecord) :=
  match event.action with
  | .plan =>
      if record.phase ≠ .rawOwned || !requireCredit record event then
        .error .invalidTransition
      else .ok (state, { record with phase := .planned })
  | .admitWitness =>
      if record.phase ≠ .planned || event.witnessGeneration == 0 ||
          record.witnessGeneration != 0 then
        .error .staleOrDuplicateWitness
      else if !requireCredit record event then .error .creditMismatch
      else
        .ok (state, { record with
          witnessGeneration := event.witnessGeneration
          phase := .admitted })
  | .effectCut =>
      if record.phase ≠ .admitted ||
          event.witnessGeneration != record.witnessGeneration ||
          record.witnessConsumed then
        .error .staleOrDuplicateWitness
      else if !requireCredit record event then .error .creditMismatch
      else
        .ok (state, { record with
          witnessConsumed := true
          effectStarted := true
          phase := .effected })
  | .destinationReceipt =>
      if record.phase ≠ .effected || !requireCredit record event then
        .error .invalidTransition
      else .ok (state, { record with phase := .receiptOwned })
  | .publish =>
      if record.phase ≠ .receiptOwned || !requireCredit record event ||
          !directLogicalOrdinalAfter event.identity.ordinal
            state.lastPublished then
        .error (if !directLogicalOrdinalAfter event.identity.ordinal
            state.lastPublished then .sourceReordered
          else .invalidTransition)
      else
        .ok ({ state with lastPublished := event.identity.ordinal },
          { record with
            hasPresent := event.hasPresent
            phase := .published
            publicationCount := record.publicationCount + 1 })
  | .encode =>
      if record.phase ≠ .published || !requireCredit record event then
        .error .invalidTransition
      else .ok (state, { record with phase := .encoded })
  | .complete =>
      if record.phase ≠ .encoded || !requireCredit record event then
        .error .invalidTransition
      else
        .ok (state, { record with completed := true, phase := .completed })
  | .detach =>
      if !record.completed || record.phase ≠ .completed ||
          !creditDetaches record event then
        .error (if !record.completed then .completionRequired
          else .creditMismatch)
      else
        .ok (state, { record with
          retainedCredit := event.retainedCredit
          stagedCredit := 0
          detachedCredit := event.detachedCredit
          phase := .detached })
  | .restore =>
      if record.phase ≠ .detached || !creditReturned record event then
        .error .creditMismatch
      else
        .ok (state, { record with
          retainedCredit := event.retainedCredit
          detachedCredit := 0
          phase := .restored })
  | .poisonAbandon =>
      if record.phase ≠ .detached || !creditReturned record event then
        .error .creditMismatch
      else
        .ok (state, { record with
          retainedCredit := event.retainedCredit
          detachedCredit := 0
          poisoned := true
          phase := .poisonAbandoned })
  | .reclaim =>
      if !record.completed then .error .completionRequired
      else if record.phase ≠ .restored then .error .missingRestore
      else if !requireCredit record event ||
          !directLogicalOrdinalAfter event.identity.ordinal
            state.lastReclaimed then
        .error (if !requireCredit record event then .creditMismatch
          else .sourceReordered)
      else
        .ok ({ state with lastReclaimed := event.identity.ordinal },
          { record with phase := .reclaimed })
  | .failStop =>
      .ok (state, { record with poisoned := true, phase := .failStopped })
  | .importRaw => .error .duplicateEmission
  | .rollbackPreEffect => .error .fallbackAfterEffect

/-- Only the newest record rolls back, and the frontier follows it. -/
def rollbackPreEffect (state : LifecycleState) (index : Nat)
    (record : LifecycleRecord) : LifecycleState × LifecycleError :=
  if record.effectStarted || record.witnessConsumed ||
      (record.phase ≠ .planned && record.phase ≠ .admitted) then
    (state, .fallbackAfterEffect)
  else if index + 1 ≠ state.records.length then (state, .sourceReordered)
  else
    let kept := state.records.dropLast
    ({ state with
      records := kept
      lastImported :=
        match kept.getLast? with
        | none => {}
        | some prior => prior.identity.ordinal }, .none)

def qualifies (record : LifecycleRecord) (event : LifecycleEvent) : Bool :=
  record.schemaRevision == event.schemaRevision &&
    record.controlMode == event.controlMode &&
    record.creditKind == event.creditKind &&
    record.physicalCreditOwner == event.physicalCreditOwner &&
    !event.partialAdoption

/-- An event of a known source.  The moved record is stored before its credits
are checked. -/
def reduceRecord (state : LifecycleState) (index : Nat)
    (record : LifecycleRecord) (event : LifecycleEvent) :
    LifecycleState × LifecycleError :=
  if event.action = .rollbackPreEffect then
    rollbackPreEffect state index record
  else
    match moveRecord state record event with
    | .error error => (state, error)
    | .ok (moved, record) =>
        let record := { record with
          transitionCount := record.transitionCount + 1 }
        ({ moved with records := moved.records.set index record },
          if directCreditConserved record then .none else .creditMismatch)

/-- One event: the state it leaves, and its error. -/
def reduceDirectSourceLifecycle (state : LifecycleState)
    (event : LifecycleEvent) : LifecycleState × LifecycleError :=
  if !event.identity.valid || event.schemaRevision == 0 ||
      !directEventCreditValid event then
    (state, .invalidIdentity)
  else
    let found := findDirectSource state event.identity
    if event.action = .admitWitness ∧ found = none then
      admitWitness state event
    else if event.action = .importRaw then importRaw state event
    else
      let refused := if event.partialAdoption then .partialAdoption
        else LifecycleError.invalidIdentity
      match found with
      | none => (state, refused)
      | some index =>
          match state.records[index]? with
          | none => (state, refused)
          | some record =>
              if !qualifies record event then (state, refused)
              else reduceRecord state index record event

/-- Events of one payload with exactly one owner among them. -/
def singleOwnerError (events : List LifecycleEvent) : LifecycleError :=
  match events with
  | [] => .creditMismatch
  | front :: _ =>
      if events.any fun event =>
          !directPhysicalCreditKeyEqual front.identity event.identity then
        .invalidIdentity
      else if events.countP LifecycleEvent.physicalCreditOwner ≠ 1 then
        .creditMismatch
      else .none

/-- Reduce the events one by one and stop at the first error. -/
def reduceAll (state : LifecycleState) :
    List LifecycleEvent → LifecycleState × LifecycleError
  | [] => (state, .none)
  | event :: rest =>
      let result := reduceDirectSourceLifecycle state event
      if result.2 = .none then reduceAll result.1 rest else result

def reduceDirectSourceLifecycleBatch (state : LifecycleState)
    (events : List LifecycleEvent) (requireSinglePhysicalCreditOwner : Bool) :
    LifecycleState × LifecycleError :=
  if requireSinglePhysicalCreditOwner ∧ singleOwnerError events ≠ .none then
    (state, singleOwnerError events)
  else
    let scratch := reduceAll state events
    if scratch.2 = .none then scratch else (state, scratch.2)

end Dxmt9.DirectSource
