import Mathlib.Logic.Function.Basic
import Dxmt9.Transition.Run
import Dxmt9.DirectSlot.CapacityLease

/-!
# Holders of capacity leases

A lease is a value that is moved, staged, committed or dropped; what is still
held when it is dropped is rolled back.  A compatibility write borrows the
entry of a payload and settles it with what the payload retains afterwards.
-/

namespace Dxmt9.DirectSlot

def maxUInt32 : Nat := 0xffffffff

/-! ## Receipts and payloads -/

structure DetachedCapacityReceipt where
  qualified : Bool := false
  payloadIndex : Nat := maxUInt32
  generation : Nat := 0
  retainedBytes : Nat := 0
deriving DecidableEq

namespace DetachedCapacityReceipt

def ledgerQualified (payloadIndex generation retainedBytes : Nat) :
    DetachedCapacityReceipt :=
  { qualified := true
    payloadIndex := payloadIndex
    generation := generation
    retainedBytes := retainedBytes }

def valid (receipt : DetachedCapacityReceipt) : Bool :=
  !receipt.qualified ||
    receipt.payloadIndex != maxUInt32 && receipt.generation != 0 &&
      receipt.retainedBytes != 0

end DetachedCapacityReceipt

structure DetachedCompatibilityOwnerIdentity where
  payload : Option Nat := none
  seqId : Nat := 0
  sourceIndex : Nat := maxUInt32
  sourceGeneration : Nat := 0
  firstPage : Nat := maxUInt32
  pageCount : Nat := 0
  storageGeneration : Nat := 0
  payloadIndex : Nat := maxUInt32
  capacityReceipt : DetachedCapacityReceipt := {}
deriving DecidableEq

def DetachedCompatibilityOwnerIdentity.valid
    (identity : DetachedCompatibilityOwnerIdentity) : Bool :=
  identity.payload.isSome && identity.seqId != 0 &&
    identity.sourceIndex != maxUInt32 && identity.sourceGeneration != 0 &&
    identity.firstPage != maxUInt32 && identity.pageCount != 0 &&
    identity.storageGeneration != 0 &&
    identity.payloadIndex != maxUInt32 && identity.capacityReceipt.valid

/-- What the leases read of a physical payload. -/
structure ChunkSlot where
  /-- The capacities of the vectors that a commit swaps. -/
  storageBytes : Nat := 0
  /-- The query ranges and a detached owner. -/
  ownerBytes : Nat := 0
  admissionCapacityReceipt : DetachedCapacityReceipt := {}
  detachedOwnerActive : Bool := false
  rowsEmpty : Bool := true
  prefetchedPipelinesSealed : Bool := false
  drawStateStorageConsistent : Bool := true
  commandPayloadsInRange : Bool := true
deriving DecidableEq

/-- The bytes that a payload retains, saturated. -/
def directSlotPhysicalRetainedBytes (slot : ChunkSlot) : Nat :=
  min (slot.storageBytes + slot.ownerBytes) maxUInt64

def chunkSlotDirectStorageEmpty (slot : ChunkSlot) : Bool :=
  !slot.detachedOwnerActive && slot.rowsEmpty

/-- The entry of a payload still describes its storage. -/
def directSlotCapacityLedgerQualifiesReuse
    (entry : DirectSlotCapacityLeaseEntry) (stagedBytes : Nat)
    (payload : ChunkSlot) : Bool :=
  stagedBytes == 0 && entry.generation != 0 &&
    entry.retainedBytes == directSlotPhysicalRetainedBytes payload

/-- The receipt is that of the entry of its payload. -/
def receiptMatches (ledger : DirectSlotCapacityLeaseLedger)
    (receipt : DetachedCapacityReceipt) (index : Nat) : Bool :=
  receipt.generation == (entryAt ledger.entries index).generation &&
    receipt.retainedBytes == (entryAt ledger.entries index).retainedBytes &&
    decide (receipt.retainedBytes ≤ ledger.retainedBytes)

def directSlotExactFallbackOwnerValid
    (ledger : DirectSlotCapacityLeaseLedger) (payload : ChunkSlot)
    (index : Nat) : Bool :=
  let receipt := payload.admissionCapacityReceipt
  decide (index < ledger.entries.length) && receipt.valid &&
    receipt.qualified && receipt.payloadIndex == index &&
    receiptMatches ledger receipt index && !payload.detachedOwnerActive &&
    chunkSlotDirectStorageEmpty payload &&
    !payload.prefetchedPipelinesSealed &&
    payload.drawStateStorageConsistent && payload.commandPayloadsInRange &&
    directSlotCapacityLedgerQualifiesReuse (entryAt ledger.entries index)
      ledger.stagedBytes payload

/-- What a lease reads of an exact plan. -/
structure ExactPlan where
  commandHeaders : Nat := 0
  readbackRecords : Nat := 0
  provisionRetainedBytes : Nat := 0
deriving DecidableEq

/-! ## Leases -/

/-- An active lease; a lease that was moved from or settled is none. -/
structure LeaseHeld where
  destination : Nat
  state : DirectSlotCapacityLeaseState
  index : Nat
  ticket : DirectSlotCapacityLeaseTicket
deriving DecidableEq

namespace DirectSlotCapacityLeaseLedger

/-- Writes the state of a lease back. -/
def settle (ledger : DirectSlotCapacityLeaseLedger) (index : Nat)
    (state : DirectSlotCapacityLeaseState) : DirectSlotCapacityLeaseLedger :=
  { entries := ledger.entries.set index state.entry
    limitBytes := state.limitBytes
    retainedBytes := state.retainedBytes
    stagedBytes := state.stagedBytes
    nextTicketSerial := state.nextTicketSerial }

/-- Reconciles every payload, and then stages optional headroom. -/
def tryAcquire (ledger : DirectSlotCapacityLeaseLedger) (destination : Nat)
    (actualRetainedBytes : List Nat)
    (currentIndex limitBytes requestedBytes : Nat) :
    DirectSlotCapacityLeaseLedger × Option LeaseHeld :=
  if ledger.stagedBytes ≠ 0 then (ledger, none)
  else
    let reconciliation := reconcileDirectSlotCapacityLease ledger.entries
      actualRetainedBytes currentIndex limitBytes ledger.nextTicketSerial
    let reconciled := ledger.reconciled (List.range ledger.entries.length)
      actualRetainedBytes currentIndex limitBytes
    if reconciliation.observed = false then (ledger, none)
    else if reconciliation.accepted = false then (reconciled, none)
    else
      let stage := reduceDirectSlotCapacityLease reconciliation.state
        requestedBytes {} .stage
      if stage.accepted = false then (reconciled, none)
      else
        (reconciled.settle currentIndex stage.next,
          some
            { destination := destination
              state := stage.next
              index := currentIndex
              ticket := stage.ticket })

/-- Stages required storage behind the receipt of the payload. -/
def tryAcquireExact (ledger : DirectSlotCapacityLeaseLedger)
    (destination : Nat) (payload : ChunkSlot) (index : Nat)
    (exact : ExactPlan) :
    DirectSlotCapacityLeaseLedger × Option LeaseHeld :=
  if directSlotExactFallbackOwnerValid ledger payload index = false ∨
      exact.commandHeaders = 0 ∨ exact.readbackRecords ≠ 0 then
    (ledger, none)
  else
    let stage := reduceDirectSlotCapacityLease
      { limitBytes := ledger.limitBytes
        retainedBytes := ledger.retainedBytes
        stagedBytes := ledger.stagedBytes
        nextTicketSerial := ledger.nextTicketSerial
        entry := entryAt ledger.entries index }
      exact.provisionRetainedBytes {} .stageExact
    if stage.accepted = false then (ledger, none)
    else
      ({ ledger with
          stagedBytes := stage.next.stagedBytes
          nextTicketSerial := stage.next.nextTicketSerial },
        some
          { destination := destination
            state := stage.next
            index := index
            ticket := stage.ticket })

end DirectSlotCapacityLeaseLedger

namespace LeaseHeld

def valid (lease : LeaseHeld) : Bool := lease.ticket.valid

/-- Rolls the staged credit of a lease back. -/
def rollbackLedger (lease : LeaseHeld)
    (ledger : DirectSlotCapacityLeaseLedger) :
    DirectSlotCapacityLeaseLedger × Bool :=
  let rolledBack := reduceDirectSlotCapacityLease lease.state 0 lease.ticket
    .rollback
  if rolledBack.accepted = false ∨ ledger.entries.length ≤ lease.index then
    (ledger, false)
  else (ledger.settle lease.index rolledBack.next, true)

end LeaseHeld

/-- Storage that is provisioned under a lease. -/
structure StagedDirectSlot where
  lease : Option LeaseHeld := none
  storageBytes : Nat := 0
  destination : Option Nat := none
  ready : Bool := false
deriving DecidableEq

namespace StagedDirectSlot

def valid (staged : StagedDirectSlot) : Bool :=
  staged.ready && staged.destination.isSome &&
    staged.lease.any LeaseHeld.valid

/-- Provisions storage for an empty destination; the allocation may fail. -/
def create (lease : LeaseHeld) (destination : ChunkSlot)
    (provisioned : Option Nat) : StagedDirectSlot :=
  if chunkSlotDirectStorageEmpty destination = false then
    { lease := some lease }
  else
    match provisioned with
    | none => { lease := some lease }
    | some storageBytes =>
        { lease := some lease
          storageBytes := storageBytes
          destination := some lease.destination
          ready := true }

def retainedBytes (staged : StagedDirectSlot) : Nat :=
  min staged.storageBytes maxUInt64

end StagedDirectSlot

def reduceCompatibilityCapacityWrite (state : DirectSlotCapacityLeaseState)
    (ownerValid : Bool) (actualBytes : Nat) :
    DirectSlotCapacityLeaseTransition :=
  if ownerValid = false ∨ state.entry.generation = 0 ∨
      actualBytes < state.entry.retainedBytes ∨ state.stagedBytes ≠ 0 then
    state.reject
  else
    let result := reduceDirectSlotCapacityLease
      { state with limitBytes := 0 } actualBytes {} .observe
    { result with next := { result.next with limitBytes := state.limitBytes } }

/-- A borrow of the entry of a payload. -/
structure CompatibilityCapacityWrite where
  payload : Nat
  identity : DetachedCompatibilityOwnerIdentity
deriving DecidableEq

namespace CompatibilityCapacityWrite

def acquire (ledger : DirectSlotCapacityLeaseLedger) (payload : Nat)
    (slot : ChunkSlot) (identity : DetachedCompatibilityOwnerIdentity) :
    Option CompatibilityCapacityWrite :=
  let receipt := slot.admissionCapacityReceipt
  if identity.valid = false ∨ identity.payload ≠ some payload ∨
      identity.capacityReceipt ≠ receipt ∨ receipt.qualified = false ∨
      receipt.valid = false ∨
      identity.payloadIndex ≠ receipt.payloadIndex ∨
      ledger.entries.length ≤ identity.payloadIndex ∨
      receiptMatches ledger receipt identity.payloadIndex = false ∨
      nextDirectSlotCapacityGeneration receipt.generation = 0 ∨
      slot.detachedOwnerActive ∨
      directSlotCapacityLedgerQualifiesReuse
        (entryAt ledger.entries identity.payloadIndex) ledger.stagedBytes
        slot = false then none
  else some { payload := payload, identity := identity }

/-- Settles a borrow; the ledger keeps its limit and its serials. -/
def settle (write : CompatibilityCapacityWrite)
    (ledger : DirectSlotCapacityLeaseLedger) (slot : ChunkSlot)
    (current : DetachedCompatibilityOwnerIdentity) :
    Option (DirectSlotCapacityLeaseLedger × DetachedCapacityReceipt) :=
  let receipt := write.identity.capacityReceipt
  let index := write.identity.payloadIndex
  let entry := entryAt ledger.entries index
  if current ≠ write.identity ∨ slot.admissionCapacityReceipt ≠ receipt ∨
      slot.detachedOwnerActive then none
  else
    let result := reduceCompatibilityCapacityWrite
      { limitBytes := ledger.limitBytes
        retainedBytes := ledger.retainedBytes
        stagedBytes := ledger.stagedBytes
        nextTicketSerial := ledger.nextTicketSerial
        entry := entry }
      (entry.generation == receipt.generation &&
        entry.retainedBytes == receipt.retainedBytes)
      (directSlotPhysicalRetainedBytes slot)
    if result.accepted = false then none
    else
      some
        ({ ledger with
            entries := ledger.entries.set index result.next.entry
            retainedBytes := result.next.retainedBytes },
          .ledgerQualified index result.next.entry.generation
            result.next.entry.retainedBytes)

end CompatibilityCapacityWrite

end Dxmt9.DirectSlot

/-!
## Operations on the capacity ledger

The ledger, the payloads and the objects that hold leases and borrows.  Every
operation is one call or the end of one object, in any order.
-/

namespace Dxmt9.DirectSlot

open Function

/-- The ledger with everything that holds a part of it, by name. -/
structure CapacityWorld where
  ledger : DirectSlotCapacityLeaseLedger := {}
  payloads : Nat → ChunkSlot := fun _ => {}
  leases : Nat → Option LeaseHeld := fun _ => none
  staged : Nat → Option StagedDirectSlot := fun _ => none
  writes : Nat → Option CompatibilityCapacityWrite := fun _ => none

/-- What happens to the ticket of a lease. -/
inductive LeaseEvent where
  | granted (ticket : DirectSlotCapacityLeaseTicket)
  | committed (ticket : DirectSlotCapacityLeaseTicket)
  | rolledBack (ticket : DirectSlotCapacityLeaseTicket)
deriving DecidableEq

/-- What a call leaves behind. -/
structure CapacityOutcome where
  world : CapacityWorld
  succeeded : Bool := true
  events : List LeaseEvent := []

inductive CapacityOperation where
  /-- The storage of a payload grows, shrinks or is cleared. -/
  | mutatePayload (payload : Nat) (slot : ChunkSlot)
  | tryAcquire (lease destination : Nat) (actualRetainedBytes : List Nat)
      (currentIndex limitBytes requestedBytes : Nat)
  | tryAcquireExact (lease destination index : Nat) (exact : ExactPlan)
  | moveLease (source target : Nat)
  | dropLease (lease : Nat)
  | createStaged (lease staged : Nat) (provisioned : Option Nat)
  | moveStaged (source target : Nat)
  | commitStaged (staged : Nat)
  | dropStaged (staged : Nat)
  | acquireWrite (write payload : Nat)
      (identity : DetachedCompatibilityOwnerIdentity)
  | settleWrite (write : Nat) (current : DetachedCompatibilityOwnerIdentity)
  | dropWrite (write : Nat)
  | recoverExact (payload index : Nat) (exact : ExactPlan)
      (reusable restored : Bool) (provisioned : Option Nat)

namespace CapacityWorld

/-- A call that does nothing. -/
def unchanged (world : CapacityWorld) : CapacityOutcome :=
  { world := world }

def fail (world : CapacityWorld) : CapacityOutcome :=
  { world := world, succeeded := false }

/-- A new lease object with what an acquisition returned. -/
def hold (world : CapacityWorld) (lease : Nat)
    (acquired : DirectSlotCapacityLeaseLedger × Option LeaseHeld) :
    CapacityOutcome :=
  { world :=
      { world with
        ledger := acquired.1
        leases := update world.leases lease acquired.2 }
    succeeded := acquired.2.isSome
    events := acquired.2.toList.map fun held => .granted held.ticket }

/-- Ends what may hold a lease. -/
def release (world : CapacityWorld) :
    Option LeaseHeld → CapacityOutcome
  | none => world.unchanged
  | some lease =>
      let rolledBack := lease.rollbackLedger world.ledger
      { world := { world with ledger := rolledBack.1 }
        events := if rolledBack.2 then [.rolledBack lease.ticket] else [] }

/-- The world behind a commit, with the ticket that is settled; none when
the commit is refused. -/
def adopt (world : CapacityWorld) (staged : StagedDirectSlot) :
    Option (CapacityWorld × DirectSlotCapacityLeaseTicket) :=
  match staged.lease, staged.destination with
  | some lease, some destination =>
      let adopted := reduceDirectSlotCapacityLease lease.state
        staged.retainedBytes lease.ticket .adopt
      if staged.valid = false ∨ adopted.accepted = false then none
      else
        -- The staged storage is swapped in, and its rows are empty.
        some
          ({ world with
              ledger := world.ledger.settle lease.index adopted.next
              payloads := update world.payloads destination
                { world.payloads destination with
                  storageBytes := staged.storageBytes
                  rowsEmpty := true } }, lease.ticket)
  | _, _ => none

/-- Commits a staged object, which holds the old storage afterwards. -/
def commit (world : CapacityWorld) (name : Nat)
    (staged : StagedDirectSlot) : CapacityOutcome :=
  match world.adopt staged with
  | none => world.fail
  | some (adopted, ticket) =>
      { world :=
          { adopted with
            staged := update world.staged name
              (some
                { storageBytes := staged.destination.elim 0 fun slot =>
                    (world.payloads slot).storageBytes }) }
        events := [.committed ticket] }

/-- Gives a payload the receipt of its entry. -/
def withReceipt (world : CapacityWorld) (payload index : Nat) :
    CapacityWorld :=
  let entry := entryAt world.ledger.entries index
  { world with
    payloads := update world.payloads payload
      { world.payloads payload with
        admissionCapacityReceipt := .ledgerQualified index entry.generation
          entry.retainedBytes } }

/-- Recovers the exact capacity of a payload, by its own storage or by a
staged one. -/
def recoverDirectSlotExactCapacity (world : CapacityWorld)
    (payload index : Nat) (exact : ExactPlan) (reusable restored : Bool)
    (provisioned : Option Nat) : CapacityOutcome :=
  let slot := world.payloads payload
  if directSlotExactFallbackOwnerValid world.ledger slot index = false ∨
      exact.commandHeaders = 0 ∨ exact.readbackRecords ≠ 0 then world.fail
  else if reusable then
    if restored then { world := world.withReceipt payload index }
    else world.fail
  else
    match world.ledger.tryAcquireExact payload slot index exact with
    | (_, none) => world.fail
    | (ledger, some lease) =>
        let staging := { world with ledger := ledger }
        -- The staged object is local: it ends here, committed or not.
        match staging.adopt (.create lease slot provisioned) with
        | none =>
            let dropped := staging.release (some lease)
            { dropped with
              succeeded := false
              events := .granted lease.ticket :: dropped.events }
        | some (adopted, ticket) =>
            { world := adopted.withReceipt payload index
              events := [.granted lease.ticket, .committed ticket] }

end CapacityWorld

open CapacityWorld

/-- One operation.  An object is made under a name that nothing has. -/
def stepCapacity (world : CapacityWorld) :
    CapacityOperation → CapacityOutcome
  | .mutatePayload payload slot =>
      { world :=
          { world with payloads := update world.payloads payload slot } }
  | .tryAcquire lease destination actualRetainedBytes currentIndex limitBytes
      requestedBytes =>
      if (world.leases lease).isSome then world.unchanged
      else world.hold lease (world.ledger.tryAcquire destination
        actualRetainedBytes currentIndex limitBytes requestedBytes)
  | .tryAcquireExact lease destination index exact =>
      if (world.leases lease).isSome then world.unchanged
      else world.hold lease (world.ledger.tryAcquireExact destination
        (world.payloads destination) index exact)
  | .moveLease source target =>
      if (world.leases target).isSome then world.unchanged
      else
        { world :=
            { world with
              leases := update
                (update world.leases target (world.leases source))
                source none } }
  | .dropLease lease =>
      let dropped := world.release (world.leases lease)
      { dropped with
        world :=
          { dropped.world with leases := update world.leases lease none } }
  | .createStaged lease staged provisioned =>
      if (world.staged staged).isSome then world.unchanged
      else
        match world.leases lease with
        | none =>
            { world :=
                { world with staged := update world.staged staged (some {}) }
              succeeded := false }
        | some held =>
            if held.valid = false then
              { world :=
                  { world with
                    staged := update world.staged staged (some {}) }
                succeeded := false }
            else
              let created := StagedDirectSlot.create held
                (world.payloads held.destination) provisioned
              { world :=
                  { world with
                    leases := update world.leases lease none
                    staged := update world.staged staged (some created) }
                succeeded := created.valid }
  | .moveStaged source target =>
      if (world.staged target).isSome then world.unchanged
      else
        { world :=
            { world with
              staged := update
                (update world.staged target (world.staged source))
                source ((world.staged source).map fun _ => {}) } }
  | .commitStaged staged =>
      match world.staged staged with
      | none => world.unchanged
      | some object => world.commit staged object
  | .dropStaged staged =>
      let dropped := world.release ((world.staged staged).bind (·.lease))
      { dropped with
        world :=
          { dropped.world with staged := update world.staged staged none } }
  | .acquireWrite write payload identity =>
      if (world.writes write).isSome then world.unchanged
      else
        let acquired := CompatibilityCapacityWrite.acquire world.ledger
          payload (world.payloads payload) identity
        { world :=
            { world with writes := update world.writes write acquired }
          succeeded := acquired.isSome }
  | .settleWrite write current =>
      match world.writes write with
      | none => world.fail
      | some object =>
          let spent : CapacityWorld :=
            { world with writes := update world.writes write none }
          match object.settle world.ledger
            (world.payloads object.payload) current with
          | none => spent.fail
          | some (ledger, receipt) =>
              { world :=
                  { spent with
                    ledger := ledger
                    payloads := update world.payloads object.payload
                      { world.payloads object.payload with
                        admissionCapacityReceipt := receipt } } }
  | .dropWrite write =>
      { world := { world with writes := update world.writes write none } }
  | .recoverExact payload index exact reusable restored provisioned =>
      world.recoverDirectSlotExactCapacity payload index exact reusable
        restored provisioned

/-- The world and everything that happened to leases so far. -/
structure CapacityRun where
  world : CapacityWorld := {}
  events : List LeaseEvent := []

def CapacityRun.step (run : CapacityRun) (operation : CapacityOperation) :
    CapacityRun :=
  let outcome := stepCapacity run.world operation
  { world := outcome.world, events := run.events ++ outcome.events }

/-- The run of operations from the empty ledger. -/
def runCapacity (operations : List CapacityOperation) : CapacityRun :=
  Transition.run CapacityRun.step {} operations

end Dxmt9.DirectSlot
