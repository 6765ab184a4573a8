import Dxmt9.DirectSlot.CapacityConservation

/-!
# Runs of the capacity ledger

Every run of operations keeps the ledger conserved: an operation that fails
leaves it as it was, apart from a reconciliation and from the serial of a
recovery that was rolled back.
-/

namespace Dxmt9.DirectSlot

open Function CapacityWorld

variable {ledger : DirectSlotCapacityLeaseLedger} {lease : LeaseHeld}
  {world : CapacityWorld} {events : List LeaseEvent}

def CapacityRun.view (run : CapacityRun) : LeaseView :=
  run.world.view run.events

theorem emptyRun_ok : (CapacityRun.view {}).Ok where
  ledger := by
    constructor
    · decide
    · decide
  single := by
    intro first _ _ _ isHeld
    cases first <;> exact nomatch isHeld
  held := by
    intro holder _ isHeld
    cases holder <;> exact nomatch isHeld
  charged := fun staged => absurd rfl staged
  settled := fun _ => rfl
  outstanding := by
    intro holder _ isHeld
    cases holder <;> exact nomatch isHeld
  ascending := List.Pairwise.nil
  issued := fun _ member => nomatch member

theorem runCapacity_ok (operations : List CapacityOperation) :
    (runCapacity operations).view.Ok :=
  @Transition.run_invariant _ _ CapacityRun.step (fun run => run.view.Ok)
    (fun _ operation ok => ok.changes (step_changes ok operation)) _
    emptyRun_ok operations

theorem release_succeeded (held : Option LeaseHeld) :
    (world.release held).succeeded = true := by
  cases held <;> rfl

/-- What a failed operation does to the ledger. -/
inductive FailedLedger (ledger : DirectSlotCapacityLeaseLedger) :
    CapacityOperation → DirectSlotCapacityLeaseLedger → Prop where
  | unchanged (operation : CapacityOperation) :
      FailedLedger ledger operation ledger
  | reconciled (lease destination : Nat) (actual : List Nat)
      (current limit requested : Nat) (idle : ledger.stagedBytes = 0) :
      FailedLedger ledger
        (.tryAcquire lease destination actual current limit requested)
        (ledger.reconciledAll actual current limit)
  | rolledBack (payload index : Nat) (exact : ExactPlan)
      (reusable restored : Bool) (provisioned : Option Nat)
      (idle : ledger.stagedBytes = 0) :
      FailedLedger ledger
        (.recoverExact payload index exact reusable restored provisioned)
        { ledger with
          nextTicketSerial :=
            if ledger.nextTicketSerial = maxUInt64 then 0
            else ledger.nextTicketSerial + 1 }

theorem failed_recover (ok : LedgerOk world.ledger) (payload index : Nat)
    (exact : ExactPlan) (reusable restored : Bool) (provisioned : Option Nat)
    (failed : (world.recoverDirectSlotExactCapacity payload index exact
      reusable restored provisioned).succeeded = false) :
    FailedLedger world.ledger
      (.recoverExact payload index exact reusable restored provisioned)
      (world.recoverDirectSlotExactCapacity payload index exact reusable
        restored provisioned).world.ledger := by
  unfold CapacityWorld.recoverDirectSlotExactCapacity at failed ⊢
  dsimp only at failed ⊢
  split
  · exact FailedLedger.unchanged _
  rename_i checks
  rw [if_neg checks] at failed
  split
  · split
    · exact FailedLedger.unchanged _
    · exact FailedLedger.unchanged _
  rename_i grows
  rw [if_neg grows] at failed
  rcases tryAcquireExact_cases ok payload (world.payloads payload) index
    exact with none | ⟨lease, next, some, grants, same⟩
  · rw [none]
    exact FailedLedger.unchanged _
  · rw [some] at failed ⊢
    dsimp only at failed ⊢
    split at failed
    · have ended := @release_held lease { world with ledger := next }
        grants.held
      rw [ended]
      dsimp only
      rw [grants.held.rollback grants.held.rollback_accepted, same,
        grants.next]
      exact FailedLedger.rolledBack payload index exact reusable restored
        provisioned grants.idle
    · exact nomatch failed

/-- A failed operation leaves the ledger as it was, apart from a
reconciliation and from the serial of a recovery that was rolled back. -/
theorem step_failed (ok : LedgerOk world.ledger)
    (operation : CapacityOperation)
    (failed : (stepCapacity world operation).succeeded = false) :
    FailedLedger world.ledger operation
      (stepCapacity world operation).world.ledger := by
  cases operation with
  | mutatePayload payload slot => exact nomatch failed
  | tryAcquire name destination actual current limit requested =>
      unfold stepCapacity at failed ⊢
      dsimp only at failed ⊢
      split
      · exact FailedLedger.unchanged _
      rename_i vacant
      rw [if_neg vacant] at failed
      change FailedLedger _ _ (world.ledger.tryAcquire destination actual
        current limit requested).1
      rcases tryAcquire_cases ok destination actual current limit
        requested with
        ⟨-, same | ⟨idle, same⟩⟩ | ⟨lease, some, -⟩
      · rw [same]
        exact FailedLedger.unchanged _
      · rw [same]
        exact FailedLedger.reconciled _ _ _ _ _ _ idle
      · unfold CapacityWorld.hold at failed
        rw [some] at failed
        exact nomatch failed
  | tryAcquireExact name destination index exact =>
      unfold stepCapacity at failed ⊢
      dsimp only at failed ⊢
      split
      · exact FailedLedger.unchanged _
      rename_i vacant
      rw [if_neg vacant] at failed
      rcases tryAcquireExact_cases ok destination
        (world.payloads destination) index exact with
        none | ⟨lease, next, some, -⟩
      · rw [none]
        exact FailedLedger.unchanged _
      · rw [some] at failed
        exact nomatch failed
  | moveLease source target =>
      unfold stepCapacity
      dsimp only
      split <;> exact FailedLedger.unchanged _
  | dropLease name =>
      exact nomatch (@release_succeeded world
        (world.leases name)).symm.trans failed
  | createStaged name staged provisioned =>
      unfold stepCapacity
      dsimp only
      split
      · exact FailedLedger.unchanged _
      split
      · exact FailedLedger.unchanged _
      split
      · exact FailedLedger.unchanged _
      · exact FailedLedger.unchanged _
  | moveStaged source target =>
      unfold stepCapacity
      dsimp only
      split <;> exact FailedLedger.unchanged _
  | commitStaged name =>
      unfold stepCapacity at failed ⊢
      dsimp only at failed ⊢
      split
      · exact FailedLedger.unchanged _
      rename_i staged isStaged
      rw [isStaged] at failed
      unfold CapacityWorld.commit at failed ⊢
      split
      · exact FailedLedger.unchanged _
      · rename_i adopted ticket commits
        dsimp only at failed
        rw [commits] at failed
        exact nomatch failed
  | dropStaged name =>
      exact nomatch (@release_succeeded world
        ((world.staged name).bind (·.lease))).symm.trans failed
  | acquireWrite write payload identity =>
      unfold stepCapacity
      dsimp only
      split <;> exact FailedLedger.unchanged _
  | settleWrite write current =>
      unfold stepCapacity at failed ⊢
      dsimp only at failed ⊢
      split
      · exact FailedLedger.unchanged _
      rename_i object isWrite
      rw [isWrite] at failed
      dsimp only at failed
      split
      · exact FailedLedger.unchanged _
      · rename_i next receipt settles
        rw [settles] at failed
        exact nomatch failed
  | dropWrite write => exact nomatch failed
  | recoverExact payload index exact reusable restored provisioned =>
      exact failed_recover ok payload index exact reusable restored
        provisioned failed

section

variable {state : DirectSlotCapacityLeaseState}
  {ticket : DirectSlotCapacityLeaseTicket}

theorem unsettled_rejected (refused : state.settles ticket = false)
    (bytes : Nat) :
    state.adopt bytes ticket = state.reject ∧
      state.rollback bytes ticket = state.reject := by
  constructor
  · unfold DirectSlotCapacityLeaseState.adopt
    exact if_pos (Or.inr (Or.inr (Or.inr (Or.inr refused))))
  · unfold DirectSlotCapacityLeaseState.rollback
    exact if_pos (Or.inr (Or.inr refused))

/-- Nothing settles while nothing is staged. -/
theorem idle_rejected (idle : state.stagedBytes = 0) (bytes : Nat) :
    state.adopt bytes ticket = state.reject ∧
      state.rollback bytes ticket = state.reject := by
  constructor
  · unfold DirectSlotCapacityLeaseState.adopt
    exact if_pos (Or.inl idle)
  · unfold DirectSlotCapacityLeaseState.rollback
    exact if_pos (Or.inr (Or.inl idle))

theorem stale_rejected
    (stale : ticket.generation < state.entry.generation ∨
      ticket.serial < state.stagedTicket.serial) (bytes : Nat) :
    state.adopt bytes ticket = state.reject ∧
      state.rollback bytes ticket = state.reject := by
  apply unsettled_rejected
  rw [← Bool.not_eq_true, settles_iff]
  rintro ⟨-, same, generation⟩
  rcases stale with older | older
  · exact absurd generation (Nat.ne_of_lt older)
  · rw [same] at older
    exact Nat.lt_irrefl _ older

end

/-- What every run of the ledger keeps. -/
structure CapacityConserved (run : CapacityRun) : Prop where
  retained : run.world.ledger.retainedBytes =
    retainedTotal run.world.ledger.entries
  unwrapped : run.world.ledger.retainedBytes +
    run.world.ledger.stagedBytes ≤ maxUInt64
  /-- One object holds the credit, while there is one. -/
  single : ∀ first second firstLease secondLease,
    run.world.heldBy first = some firstLease →
    run.world.heldBy second = some secondLease → first = second
  staged : run.world.ledger.stagedBytes ≠ 0 ↔
    ∃ holder lease, run.world.heldBy holder = some lease
  credit : ∀ holder lease, run.world.heldBy holder = some lease →
    lease.state.stagedBytes = run.world.ledger.stagedBytes
  /-- An optional stage keeps to its limit. -/
  within : ∀ name destination actual current limit requested,
    run.world.leases name = none →
    ∀ outcome, stepCapacity run.world (.tryAcquire name destination actual
      current limit requested) = outcome → outcome.succeeded = true →
      outcome.world.ledger.retainedBytes +
        outcome.world.ledger.stagedBytes ≤ limit
  /-- No other ticket of the run settles a lease. -/
  stale : ∀ holder lease, run.world.heldBy holder = some lease →
    ∀ ticket ∈ grantedTickets run.events, ticket ≠ lease.ticket →
    ∀ bytes, lease.state.adopt bytes ticket = lease.state.reject ∧
      lease.state.rollback bytes ticket = lease.state.reject
  distinct : (grantedTickets run.events).Nodup
  /-- Every ticket is settled once, but for that of the lease that is held. -/
  settled : (∀ holder, run.world.heldBy holder = none) →
    grantedTickets run.events = settledTickets run.events
  outstanding : ∀ holder lease, run.world.heldBy holder = some lease →
    grantedTickets run.events =
      settledTickets run.events ++ [lease.ticket]
  failed : ∀ operation,
    (stepCapacity run.world operation).succeeded = false →
    FailedLedger run.world.ledger operation
      (stepCapacity run.world operation).world.ledger

theorem acquired_within (ok : LedgerOk world.ledger)
    (name destination : Nat) (actual : List Nat)
    (current limit requested : Nat) (vacant : world.leases name = none)
    (succeeded : (stepCapacity world (.tryAcquire name destination actual
      current limit requested)).succeeded = true) :
    (stepCapacity world (.tryAcquire name destination actual current limit
        requested)).world.ledger.retainedBytes +
      (stepCapacity world (.tryAcquire name destination actual current limit
        requested)).world.ledger.stagedBytes ≤ limit := by
  unfold stepCapacity at succeeded ⊢
  dsimp only at succeeded ⊢
  have isVacant : ¬(world.leases name).isSome = true := by
    rw [vacant]
    exact Bool.false_ne_true
  rw [if_neg isVacant] at succeeded ⊢
  rcases tryAcquire_cases ok destination actual current limit requested
    with ⟨none, -⟩ | ⟨lease, -, -, -, fits⟩
  · unfold CapacityWorld.hold at succeeded
    rw [none] at succeeded
    exact nomatch succeeded
  · exact fits

theorem LeaseView.Ok.older {view : LeaseView} (ok : view.Ok) {holder : Holder}
    (isHeld : view.heldBy holder = some lease)
    {ticket : DirectSlotCapacityLeaseTicket}
    (granted : ticket ∈ grantedTickets view.events)
    (other : ticket ≠ lease.ticket) :
    ticket.serial < lease.ticket.serial := by
  have ascending := ok.ascending
  have outstanding := ok.outstanding holder lease isHeld
  rw [outstanding] at granted ascending
  rcases List.mem_append.mp granted with settled | last
  · exact (List.pairwise_append.mp ascending).2.2 ticket settled _
      (List.mem_singleton.mpr rfl)
  · exact absurd (List.mem_singleton.mp last) other

theorem conserved_of_ok {run : CapacityRun} (ok : run.view.Ok) :
    CapacityConserved run := by
  have ledgerOk : LedgerOk run.world.ledger := ok.ledger
  constructor
  case retained => exact ledgerOk.retained
  case unwrapped =>
    by_cases idle : run.world.ledger.stagedBytes = 0
    · rw [idle]
      exact ledgerOk.fits
    · obtain ⟨holder, lease, isHeld⟩ := ok.charged idle
      exact (ok.held holder lease isHeld).fits
  case single => exact ok.single
  case staged =>
    constructor
    · exact ok.charged
    · rintro ⟨holder, lease, isHeld⟩
      exact (ok.held holder lease isHeld).staged
  case credit =>
    intro holder lease isHeld
    rw [(ok.held holder lease isHeld).state]
    rfl
  case within =>
    rintro name destination actual current limit requested vacant _ rfl
      succeeded
    exact acquired_within ledgerOk name destination actual current limit
      requested vacant succeeded
  case stale =>
    intro holder lease isHeld ticket granted other bytes
    apply stale_rejected
    right
    rw [(ok.held holder lease isHeld).state]
    exact ok.older isHeld granted other
  case distinct =>
    apply ok.ascending.imp
    intro earlier later less same
    rw [same] at less
    exact Nat.lt_irrefl _ less
  case settled => exact ok.settled
  case outstanding => exact ok.outstanding
  case failed => exact fun operation => step_failed ledgerOk operation

/-- The ledger is conserved by every run.  Stale tickets never settle, and the
order of a reconciliation only matters where a running total wraps: the order
is then refused and changes nothing. -/
theorem capacityLedger_conserved :
    (∀ operations, CapacityConserved (runCapacity operations)) ∧
    (∀ (state : DirectSlotCapacityLeaseState)
      (ticket : DirectSlotCapacityLeaseTicket) (bytes : Nat),
      ticket.generation < state.entry.generation ∨
        ticket.serial < state.stagedTicket.serial ∨
        state.stagedBytes = 0 →
      state.adopt bytes ticket = state.reject ∧
        state.rollback bytes ticket = state.reject) ∧
    ∀ (ledger : DirectSlotCapacityLeaseLedger) (order other actual : List Nat)
      (current limit : Nat),
      order.Perm other → order.Nodup →
      (∀ index ∈ order, index < ledger.entries.length) →
      (retainedTotal ledger.entries +
          (order.map fun index => actual.getD index 0).sum ≤ maxUInt64 →
        ledger.reconciled order actual current limit =
          ledger.reconciled other actual current limit) ∧
      (Sees ledger order actual current limit →
        Sees ledger other actual current limit →
        ledger.reconciled order actual current limit =
          ledger.reconciled other actual current limit) ∧
      (¬Sees ledger order actual current limit →
        ledger.reconciled order actual current limit = ledger) := by
  refine ⟨fun operations => conserved_of_ok (runCapacity_ok operations),
    ?_, ?_⟩
  · rintro state ticket bytes (generation | serial | idle)
    · exact stale_rejected (Or.inl generation) bytes
    · exact stale_rejected (Or.inr serial) bytes
    · exact idle_rejected idle bytes
  · intro ledger order other actual current limit perm distinct inside
    exact ⟨reconciled_order perm distinct inside,
      reconciled_perm perm distinct inside, reconciled_of_not_sees⟩

/-- One payload retains half of what a counter can hold. -/
def halfRetained : List CapacityOperation :=
  [.tryAcquire 0 0 [0, 2 ^ 63] 0 maxUInt64 1, .dropLease 0]

/-- A payload with the receipt of its entry. -/
def receiptHeld : List CapacityOperation :=
  [.tryAcquire 0 0 [10] 0 100 20, .dropLease 0,
    .mutatePayload 0
      { storageBytes := 10
        admissionCapacityReceipt := .ledgerQualified 0 1 10 }]

/-- Behind storage that moves from one payload to another, looking at the
payloads by index is refused and the other way round is not; and a recovery
without storage gives its serial up. -/
theorem capacityLedger_order_matters :
    (let ledger := (runCapacity halfRetained).world.ledger
     let order := List.range ledger.entries.length
     let other := 1 :: 0 :: order.drop 2
     order.Perm other ∧
       ledger.reconciled order [2 ^ 63] 0 maxUInt64 ≠
         ledger.reconciled other [2 ^ 63] 0 maxUInt64) ∧
    (let world := (runCapacity receiptHeld).world
     let outcome := stepCapacity world
       (.recoverExact 0 0
         { commandHeaders := 1, provisionRetainedBytes := 20 } false false
         none)
     outcome.succeeded = false ∧
       outcome.world.ledger.nextTicketSerial ≠
         world.ledger.nextTicketSerial) := by
  decide +kernel

end Dxmt9.DirectSlot
