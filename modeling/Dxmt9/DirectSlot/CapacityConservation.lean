import Dxmt9.DirectSlot.CapacityChanges

/-!
# Conservation of the capacity ledger

Whatever operations reach the ledger, its retained bytes are the sum of its
entries, one credit is staged at most, and every lease settles once.
-/

namespace Dxmt9.DirectSlot

open Function CapacityWorld

variable {ledger : DirectSlotCapacityLeaseLedger} {lease : LeaseHeld}
  {world : CapacityWorld} {events : List LeaseEvent}

/-! ## Acquisitions -/

/-- The reconciliation of every payload, by index. -/
def DirectSlotCapacityLeaseLedger.reconciledAll
    (ledger : DirectSlotCapacityLeaseLedger) (actual : List Nat)
    (current limit : Nat) : DirectSlotCapacityLeaseLedger :=
  ledger.reconciled (List.range ledger.entries.length) actual current limit

theorem reconciledAll_adjusts (ok : LedgerOk ledger)
    (idle : ledger.stagedBytes = 0) (actual : List Nat)
    (current limit : Nat) :
    Adjusts ledger (ledger.reconciledAll actual current limit) := by
  unfold DirectSlotCapacityLeaseLedger.reconciledAll
  rcases @reconciled_eq actual ledger (List.range ledger.entries.length)
    current limit (fun _ => List.mem_range.mp) with same | ⟨reconciles, same⟩
  · rw [same]
    exact ⟨idle, idle, ok, rfl⟩
  · have fits := reconciles.observing.fits
    rw [reconciles.observing.retained] at fits
    rw [same]
    exact
      { idle := idle
        stays := rfl
        ok := ⟨rfl, fits⟩
        serial := rfl }

/-- The state that a lease of an index works on. -/
def DirectSlotCapacityLeaseLedger.stateAt
    (ledger : DirectSlotCapacityLeaseLedger) (index : Nat) :
    DirectSlotCapacityLeaseState :=
  { limitBytes := ledger.limitBytes
    retainedBytes := ledger.retainedBytes
    stagedBytes := ledger.stagedBytes
    nextTicketSerial := ledger.nextTicketSerial
    entry := entryAt ledger.entries index }

theorem reconcile_state {actual : List Nat} {current limit : Nat}
    (observed : (reconcileDirectSlotCapacityLease ledger.entries actual
      current limit ledger.nextTicketSerial).observed = true) :
    (reconcileDirectSlotCapacityLease ledger.entries actual current limit
        ledger.nextTicketSerial).state =
      (ledger.reconciledAll actual current limit).stateAt current ∧
    (ledger.reconciledAll actual current limit).limitBytes = limit ∧
    current < (ledger.reconciledAll actual current limit).entries.length := by
  obtain ⟨reconciles, result⟩ := reconcileInOrder_observed
    (fun _ => List.mem_range.mp) observed
  have observing := reconciles.observing
  unfold DirectSlotCapacityLeaseLedger.reconciledAll
    DirectSlotCapacityLeaseLedger.reconciled
  change (reconcileInOrder _ _ _ _ _ _).state = _ ∧ _
  rw [result]
  unfold reconciliationEnd
  dsimp only
  rw [if_neg Bool.noConfusion]
  refine ⟨?_, rfl, ?_⟩
  · unfold DirectSlotCapacityLeaseLedger.stateAt
    dsimp only
    rw [set_entryAt, ← observing.ticket]
  · dsimp only
    rw [set_entryAt, observing.count]
    exact reconciles.currentInside

theorem grants_of_stages {index bytes destination : Nat}
    {transition : DirectSlotCapacityLeaseTransition} (ok : LedgerOk ledger)
    (inside : index < ledger.entries.length)
    (stages : Stages (ledger.stateAt index) bytes transition) :
    Grants ledger
      { destination := destination
        state := transition.next
        index := index
        ticket := transition.ticket }
      { ledger with
        stagedBytes := transition.next.stagedBytes
        nextTicketSerial := transition.next.nextTicketSerial } := by
  obtain ⟨idle, some, generation, serial, fits, ticket, next⟩ := stages
  unfold DirectSlotCapacityLeaseLedger.stateAt at *
  dsimp only at idle generation serial fits ticket next
  have top := ok.fits
  rw [next]
  constructor
  case idle => exact idle
  case ok => exact ⟨ok.retained, ok.fits⟩
  case held =>
    constructor
    case inside => exact inside
    case state => rfl
    case staged => exact some
    case fits =>
      dsimp only
      omega
    case generation => rw [ticket]
    case valid =>
      rw [ticket]
      unfold DirectSlotCapacityLeaseTicket.valid
      simp only [Bool.and_eq_true, bne_iff_ne]
      exact ⟨generation, serial⟩
  case serial => rw [ticket]
  case issues => exact serial
  case next => rfl

theorem settle_of_stages {index bytes : Nat}
    {transition : DirectSlotCapacityLeaseTransition}
    (stages : Stages (ledger.stateAt index) bytes transition) :
    ledger.settle index transition.next =
      { ledger with
        stagedBytes := transition.next.stagedBytes
        nextTicketSerial := transition.next.nextTicketSerial } := by
  rw [stages.next]
  unfold DirectSlotCapacityLeaseLedger.settle
    DirectSlotCapacityLeaseLedger.stateAt
  dsimp only
  rw [set_entryAt]

/-- An optional acquisition leaves the ledger reconciled, or stages headroom
within the limit on top of that. -/
theorem tryAcquire_cases (ok : LedgerOk ledger)
    (destination : Nat) (actual : List Nat)
    (current limit requested : Nat) :
    (ledger.tryAcquire destination actual current limit requested).2 = none ∧
      ((ledger.tryAcquire destination actual current limit requested).1 =
          ledger ∨
        ledger.stagedBytes = 0 ∧
        (ledger.tryAcquire destination actual current limit requested).1 =
          ledger.reconciledAll actual current limit) ∨
    ∃ lease,
      (ledger.tryAcquire destination actual current limit requested).2 =
        some lease ∧
      ledger.stagedBytes = 0 ∧
      Grants (ledger.reconciledAll actual current limit) lease
        (ledger.tryAcquire destination actual current limit requested).1 ∧
      (ledger.tryAcquire destination actual current limit
          requested).1.retainedBytes +
        (ledger.tryAcquire destination actual current limit
          requested).1.stagedBytes ≤ limit := by
  unfold DirectSlotCapacityLeaseLedger.tryAcquire
  split
  · exact Or.inl ⟨rfl, Or.inl rfl⟩
  rename_i idle
  rw [not_not] at idle
  dsimp only
  split
  · exact Or.inl ⟨rfl, Or.inl rfl⟩
  rename_i observed
  rw [Bool.not_eq_false] at observed
  split
  · exact Or.inl ⟨rfl, Or.inr ⟨idle, rfl⟩⟩
  split
  · exact Or.inl ⟨rfl, Or.inr ⟨idle, rfl⟩⟩
  rename_i staged
  rw [Bool.not_eq_false] at staged
  obtain ⟨state, isLimit, inside⟩ := reconcile_state observed
  have adjusts := reconciledAll_adjusts ok idle actual current limit
  rw [state] at staged ⊢
  obtain ⟨stages, within⟩ := stage_accepted staged
  right
  refine ⟨_, rfl, idle, ?_, ?_⟩
  · change Grants _ _ ((ledger.reconciledAll actual current limit).settle
      current _)
    unfold reduceDirectSlotCapacityLease
    dsimp only
    rw [settle_of_stages stages]
    exact grants_of_stages adjusts.ok inside stages
  · change ((ledger.reconciledAll actual current limit).settle
        current _).retainedBytes +
      ((ledger.reconciledAll actual current limit).settle
        current _).stagedBytes ≤ limit
    unfold reduceDirectSlotCapacityLease
    dsimp only
    rw [settle_of_stages stages, stages.next]
    have bound := within rfl
    unfold DirectSlotCapacityLeaseLedger.stateAt at bound
    dsimp only at bound ⊢
    rw [isLimit] at bound
    exact bound

/-- An exact acquisition stages required storage, or does nothing. -/
theorem tryAcquireExact_cases (ok : LedgerOk ledger) (destination : Nat)
    (slot : ChunkSlot) (index : Nat) (exact : ExactPlan) :
    ledger.tryAcquireExact destination slot index exact = (ledger, none) ∨
      ∃ lease next,
        ledger.tryAcquireExact destination slot index exact =
          (next, some lease) ∧
        Grants ledger lease next ∧
        { next with stagedBytes := 0 } =
          { ledger with nextTicketSerial := next.nextTicketSerial } := by
  unfold DirectSlotCapacityLeaseLedger.tryAcquireExact
  split
  · exact Or.inl rfl
  rename_i checks
  dsimp only
  split
  · exact Or.inl rfl
  rename_i staged
  rw [Bool.not_eq_false] at staged
  simp only [not_or, Bool.not_eq_false] at checks
  have inside : index < ledger.entries.length := by
    have valid := checks.1
    unfold directSlotExactFallbackOwnerValid at valid
    simp only [Bool.and_eq_true, decide_eq_true_eq] at valid
    omega
  have stages := (stage_accepted staged).1
  have grants := @grants_of_stages _ _ _ destination _ ok inside stages
  refine Or.inr ⟨_, _, rfl, grants, ?_⟩
  dsimp only
  rw [grants.idle]

theorem inside_of_generation {index : Nat}
    (generation : (entryAt ledger.entries index).generation ≠ 0) :
    index < ledger.entries.length := by
  by_contra outside
  apply generation
  unfold entryAt
  rw [List.getD_eq_getElem?_getD,
    List.getElem?_eq_none (Nat.le_of_not_lt outside)]
  rfl

theorem settleWrite_adjusts {write : CompatibilityCapacityWrite}
    {slot : ChunkSlot} {current : DetachedCompatibilityOwnerIdentity}
    {next : DirectSlotCapacityLeaseLedger} {receipt : DetachedCapacityReceipt}
    (ok : LedgerOk ledger)
    (settles : write.settle ledger slot current = some (next, receipt)) :
    Adjusts ledger next := by
  unfold CompatibilityCapacityWrite.settle at settles
  dsimp only at settles
  split at settles
  · exact nomatch settles
  split at settles
  · exact nomatch settles
  rename_i accepted
  rw [Bool.not_eq_false] at accepted
  rw [Option.some.injEq, Prod.mk.injEq] at settles
  obtain ⟨rfl, -⟩ := settles
  unfold reduceCompatibilityCapacityWrite at accepted ⊢
  split at accepted
  · exact nomatch accepted
  rename_i checks
  rw [if_neg checks]
  dsimp only at accepted ⊢
  obtain ⟨idle, credit, fits, -, observed⟩ := observe_accepted accepted
  unfold reduceDirectSlotCapacityLease
  dsimp only at idle credit fits observed ⊢
  rw [observed]
  dsimp only
  have top := ok.fits
  have retained := ok.retained
  simp only [not_or, not_not] at checks
  have inside := inside_of_generation checks.2.1
  have total := retainedTotal_set inside (observedEntry
    (entryAt ledger.entries write.identity.payloadIndex)
    (directSlotPhysicalRetainedBytes slot))
  change _ = _ + directSlotPhysicalRetainedBytes slot at total
  refine ⟨idle, idle, ⟨?_, ?_⟩, rfl⟩
  · dsimp only
    omega
  · dsimp only
    omega

/-- The lease that an object of the world holds. -/
def CapacityWorld.heldBy (world : CapacityWorld) : Holder → Option LeaseHeld
  | .lease name => world.leases name
  | .staged name => (world.staged name).bind (·.lease)
  | .local => none

def CapacityWorld.view (world : CapacityWorld) (events : List LeaseEvent) :
    LeaseView :=
  { ledger := world.ledger, heldBy := world.heldBy, events := events }

theorem heldBy_leases (name : Nat) (value : Option LeaseHeld) :
    CapacityWorld.heldBy
        { world with leases := update world.leases name value } =
      update world.heldBy (.lease name) value := by
  funext holder
  cases holder with
  | lease other =>
      by_cases same : other = name
      · subst same
        rw [update_self]
        exact update_self _ _ _
      · rw [update_of_ne (fun equal => same (Holder.lease.inj equal))]
        exact update_of_ne same _ _
  | staged other =>
      rw [update_of_ne Holder.noConfusion]
      rfl
  | «local» =>
      rw [update_of_ne Holder.noConfusion]
      rfl

theorem heldBy_staged (name : Nat) (value : Option StagedDirectSlot) :
    CapacityWorld.heldBy
        { world with staged := update world.staged name value } =
      update world.heldBy (.staged name) (value.bind (·.lease)) := by
  funext holder
  cases holder with
  | staged other =>
      by_cases same : other = name
      · subst same
        rw [update_self]
        unfold CapacityWorld.heldBy
        dsimp only
        rw [update_self]
      · rw [update_of_ne (fun equal => same (Holder.staged.inj equal))]
        unfold CapacityWorld.heldBy
        dsimp only
        rw [update_of_ne same]
  | lease other =>
      rw [update_of_ne Holder.noConfusion]
      rfl
  | «local» =>
      rw [update_of_ne Holder.noConfusion]
      rfl

theorem HeldOk.settles (held : HeldOk ledger lease) :
    lease.state.settles lease.ticket = true := by
  rw [settles_iff, held.state]
  exact ⟨held.valid, rfl, held.generation⟩

theorem HeldOk.rollback_accepted (held : HeldOk ledger lease) :
    (lease.state.rollback 0 lease.ticket).accepted = true := by
  have staged : lease.state.stagedBytes ≠ 0 := by
    rw [held.state]
    exact held.staged
  unfold DirectSlotCapacityLeaseState.rollback
  rw [if_neg]
  rw [held.settles]
  rintro (some | none | refused)
  · exact some rfl
  · exact staged none
  · exact nomatch refused

theorem release_held (held : HeldOk world.ledger lease) :
    world.release (some lease) =
      { world :=
          { world with
            ledger := world.ledger.settle lease.index
              (lease.state.rollback 0 lease.ticket).next }
        events := [.rolledBack lease.ticket] } := by
  have accepted := held.rollback_accepted
  have inside := held.inside
  unfold CapacityWorld.release LeaseHeld.rollbackLedger
    reduceDirectSlotCapacityLease
  dsimp only
  rw [accepted, if_neg]
  · rfl
  · rintro (refused | outside)
    · exact nomatch refused
    · omega

theorem release_holders (held : Option LeaseHeld) :
    (world.release held).world.leases = world.leases ∧
      (world.release held).world.staged = world.staged ∧
      (world.release held).world.heldBy = world.heldBy := by
  cases held with
  | none => exact ⟨rfl, rfl, rfl⟩
  | some lease => exact ⟨rfl, rfl, rfl⟩

/-- A commit that is not refused adopts what the object holds. -/
theorem adopt_some {staged : StagedDirectSlot} {adopted : CapacityWorld}
    {ticket : DirectSlotCapacityLeaseTicket}
    (commits : world.adopt staged = some (adopted, ticket)) :
    ∃ lease, staged.lease = some lease ∧ ticket = lease.ticket ∧
      (lease.state.adopt staged.retainedBytes lease.ticket).accepted = true ∧
      adopted.ledger = world.ledger.settle lease.index
        (lease.state.adopt staged.retainedBytes lease.ticket).next ∧
      adopted.leases = world.leases ∧ adopted.staged = world.staged := by
  unfold CapacityWorld.adopt at commits
  split at commits
  · rename_i lease destination isLease isDestination
    dsimp only at commits
    split at commits
    · exact nomatch commits
    · rename_i checks
      rw [not_or, Bool.not_eq_false, Bool.not_eq_false] at checks
      rw [Option.some.injEq, Prod.mk.injEq] at commits
      obtain ⟨rfl, rfl⟩ := commits
      exact ⟨lease, isLease, rfl, checks.2, rfl, rfl, rfl⟩
  · exact nomatch commits

/-- Calls that touch neither the ledger nor a lease. -/
theorem changes_of_view {outcome : CapacityOutcome}
    (ledgerSame : outcome.world.ledger = world.ledger)
    (heldSame : outcome.world.heldBy = world.heldBy)
    (silent : outcome.events = []) :
    Relation.ReflTransGen LeaseChange (world.view events)
      (outcome.world.view (events ++ outcome.events)) := by
  have same : outcome.world.view (events ++ outcome.events) =
      world.view events := by
    unfold CapacityWorld.view
    rw [ledgerSame, heldSame, silent, List.append_nil]
  rw [same]

/-- A lease object that an acquisition fills. -/
theorem changes_hold {name : Nat}
    {acquired : DirectSlotCapacityLeaseLedger × Option LeaseHeld}
    (vacant : world.leases name = none)
    (acquires : acquired.2 = none ∧
        (acquired.1 = world.ledger ∨ Adjusts world.ledger acquired.1) ∨
      ∃ lease middle, acquired.2 = some lease ∧
        Adjusts world.ledger middle ∧ Grants middle lease acquired.1) :
    Relation.ReflTransGen LeaseChange (world.view events)
      ((world.hold name acquired).world.view
        (events ++ (world.hold name acquired).events)) := by
  have vacantHolder : world.heldBy (.lease name) = none := vacant
  unfold CapacityWorld.hold CapacityWorld.view
  dsimp only
  have holders : CapacityWorld.heldBy
      { world with
        ledger := acquired.1
        leases := update world.leases name acquired.2 } =
      update world.heldBy (.lease name) acquired.2 :=
    @heldBy_leases { world with ledger := acquired.1 } name acquired.2
  rw [holders]
  have stays : update world.heldBy (.lease name) none = world.heldBy := by
    rw [← vacantHolder, update_eq_self]
  rcases acquires with ⟨none, same⟩ | ⟨lease, middle, some, adjusts, grants⟩
  · rw [none, stays]
    change Relation.ReflTransGen LeaseChange _
      { ledger := acquired.1, heldBy := world.heldBy, events := events ++ [] }
    rw [List.append_nil]
    rcases same with same | adjusts
    · rw [same]
    · exact Relation.ReflTransGen.single
        (LeaseChange.adjust (world.view events) acquired.1 adjusts)
  · rw [some]
    exact (Relation.ReflTransGen.single (LeaseChange.adjust
      (world.view events) middle adjusts)).tail (LeaseChange.grant
        { world.view events with ledger := middle } (.lease name) lease
        acquired.1 vacantHolder grants)

/-- The end of an object that may hold a lease. -/
theorem changes_release (ok : (world.view events).Ok) (holder : Holder)
    {ended : CapacityWorld}
    (ledgerEnds : ended.ledger =
      (world.release (world.heldBy holder)).world.ledger)
    (heldEnds : ended.heldBy = update world.heldBy holder none) :
    Relation.ReflTransGen LeaseChange (world.view events)
      (ended.view (events ++
        (world.release (world.heldBy holder)).events)) := by
  cases isHeld : world.heldBy holder with
  | none =>
      have stays : update world.heldBy holder none = world.heldBy := by
        rw [← isHeld, update_eq_self]
      rw [isHeld] at ledgerEnds
      rw [stays] at heldEnds
      have same : ended.view (events ++ (world.release none).events) =
          world.view events := by
        unfold CapacityWorld.view
        rw [ledgerEnds, heldEnds]
        unfold CapacityWorld.release CapacityWorld.unchanged
        dsimp only
        rw [List.append_nil]
      rw [same]
  | some lease =>
      have held : HeldOk world.ledger lease := ok.held holder lease isHeld
      rw [isHeld, release_held held] at ledgerEnds
      rw [release_held held]
      have same : ended.view (events ++ [.rolledBack lease.ticket]) =
          { ledger := world.ledger.settle lease.index
              (lease.state.rollback 0 lease.ticket).next
            heldBy := update world.heldBy holder none
            events := events ++ [.rolledBack lease.ticket] } := by
        unfold CapacityWorld.view
        rw [ledgerEnds, heldEnds]
      rw [same]
      exact Relation.ReflTransGen.single (LeaseChange.rollback
        (world.view events) holder lease isHeld held.rollback_accepted)

theorem changes_move {outcome : CapacityOutcome} {source target : Holder}
    (vacant : world.heldBy target = none)
    (ledgerSame : outcome.world.ledger = world.ledger)
    (heldMoves : outcome.world.heldBy =
      update (update world.heldBy target (world.heldBy source)) source none)
    (silent : outcome.events = []) :
    Relation.ReflTransGen LeaseChange (world.view events)
      (outcome.world.view (events ++ outcome.events)) := by
  have moved : outcome.world.view (events ++ outcome.events) =
      { world.view events with
        heldBy := update (update world.heldBy target
          (world.heldBy source)) source none } := by
    unfold CapacityWorld.view
    rw [ledgerSame, heldMoves, silent, List.append_nil]
  rw [moved]
  exact Relation.ReflTransGen.single
    (LeaseChange.move (world.view events) source target vacant)

theorem changes_commit (name : Nat) {staged : StagedDirectSlot}
    (isStaged : world.staged name = some staged) :
    Relation.ReflTransGen LeaseChange (world.view events)
      ((world.commit name staged).world.view
        (events ++ (world.commit name staged).events)) := by
  unfold CapacityWorld.commit
  cases commits : world.adopt staged with
  | none => exact changes_of_view rfl rfl rfl
  | some committed =>
      obtain ⟨adopted, ticket⟩ := committed
      obtain ⟨lease, isLease, rfl, accepted, isLedger, isLeases, isAll⟩ :=
        adopt_some commits
      have isHeld : world.heldBy (.staged name) = some lease := by
        change (world.staged name).bind (·.lease) = some lease
        rw [isStaged]
        exact isLease
      have sameHolders : adopted.heldBy = world.heldBy := by
        funext holder
        cases holder with
        | lease other => exact congrFun isLeases other
        | staged other =>
            exact congrArg (Option.bind · (·.lease)) (congrFun isAll other)
        | «local» => rfl
      dsimp only
      unfold CapacityWorld.view
      rw [← isAll, heldBy_staged, sameHolders, isLedger]
      exact Relation.ReflTransGen.single (LeaseChange.commit
        (world.view events) (.staged name) lease staged.retainedBytes isHeld
        accepted)

/-- A lease that lives within one recovery is settled within it. -/
theorem changes_recover (ok : (world.view events).Ok)
    (payload index : Nat) (exact : ExactPlan) (reusable restored : Bool)
    (provisioned : Option Nat) :
    Relation.ReflTransGen LeaseChange (world.view events)
      ((world.recoverDirectSlotExactCapacity payload index exact reusable
          restored provisioned).world.view
        (events ++ (world.recoverDirectSlotExactCapacity payload index exact
          reusable restored provisioned).events)) := by
  unfold CapacityWorld.recoverDirectSlotExactCapacity
  dsimp only
  split
  · exact changes_of_view rfl rfl rfl
  split
  · split
    · exact changes_of_view rfl rfl rfl
    · exact changes_of_view rfl rfl rfl
  have ledgerOk : LedgerOk world.ledger := ok.ledger
  rcases tryAcquireExact_cases ledgerOk payload (world.payloads payload)
    index exact with none | ⟨lease, next, some, grants, -⟩
  · rw [none]
    exact changes_of_view rfl rfl rfl
  · rw [some]
    dsimp only
    have granted := LeaseChange.grant (world.view events) .local lease next
      rfl grants
    have isHeld : update (world.view events).heldBy .local (Option.some lease)
        .local = Option.some lease := update_self _ _ _
    have stays : update (update (world.view events).heldBy .local
        (Option.some lease)) .local Option.none = world.heldBy := by
      rw [update_idem]
      exact update_eq_self _ _
    split
    · -- The local object is dropped: its lease is rolled back.
      have dropped := LeaseChange.rollback
        { ledger := next
          heldBy := update (world.view events).heldBy .local
            (Option.some lease)
          events := events ++ [.granted lease.ticket] } .local lease isHeld
        grants.held.rollback_accepted
      dsimp only at dropped
      rw [stays, List.append_assoc] at dropped
      have ended := @release_held lease { world with ledger := next }
        grants.held
      rw [ended]
      exact (Relation.ReflTransGen.single granted).tail dropped
    · rename_i adopted ticket commits
      obtain ⟨held, isLease, rfl, accepted, isLedger, isLeases, isAll⟩ :=
        adopt_some commits
      have same : held = lease := by
        unfold StagedDirectSlot.create at isLease
        split at isLease
        · exact (Option.some.inj isLease).symm
        · split at isLease
          · exact (Option.some.inj isLease).symm
          · exact (Option.some.inj isLease).symm
      subst same
      have committed := LeaseChange.commit
        { ledger := next
          heldBy := update (world.view events).heldBy .local (Option.some held)
          events := events ++ [.granted held.ticket] } .local held _ isHeld
        accepted
      dsimp only at committed
      rw [stays, List.append_assoc, ← isLedger] at committed
      have sameHolders : (adopted.withReceipt payload index).heldBy =
          world.heldBy := by
        funext holder
        cases holder with
        | lease other => exact congrFun isLeases other
        | staged other =>
            exact congrArg (Option.bind · (·.lease)) (congrFun isAll other)
        | «local» => rfl
      unfold CapacityWorld.view
      rw [sameHolders]
      exact (Relation.ReflTransGen.single granted).tail committed

theorem step_changes (ok : (world.view events).Ok)
    (operation : CapacityOperation) :
    Relation.ReflTransGen LeaseChange (world.view events)
      ((stepCapacity world operation).world.view
        (events ++ (stepCapacity world operation).events)) := by
  have ledgerOk : LedgerOk world.ledger := ok.ledger
  cases operation with
  | mutatePayload payload slot => exact changes_of_view rfl rfl rfl
  | tryAcquire name destination actual current limit requested =>
      unfold stepCapacity
      dsimp only
      split
      · exact changes_of_view rfl rfl rfl
      · rename_i vacant
        rw [Option.not_isSome_iff_eq_none] at vacant
        apply changes_hold vacant
        rcases tryAcquire_cases ledgerOk destination actual current limit
          requested with
          ⟨none, same | ⟨idle, same⟩⟩ | ⟨lease, some, idle, grants, -⟩
        · exact Or.inl ⟨none, Or.inl same⟩
        · refine Or.inl ⟨none, Or.inr ?_⟩
          rw [same]
          exact reconciledAll_adjusts ledgerOk idle actual current limit
        · exact Or.inr ⟨lease, _, some,
            reconciledAll_adjusts ledgerOk idle actual current limit, grants⟩
  | tryAcquireExact name destination index exact =>
      unfold stepCapacity
      dsimp only
      split
      · exact changes_of_view rfl rfl rfl
      · rename_i vacant
        rw [Option.not_isSome_iff_eq_none] at vacant
        apply changes_hold vacant
        rcases tryAcquireExact_cases ledgerOk destination
          (world.payloads destination) index exact with
          none | ⟨lease, next, some, grants, -⟩
        · rw [none]
          exact Or.inl ⟨rfl, Or.inl rfl⟩
        · rw [some]
          exact Or.inr ⟨lease, world.ledger, rfl,
            ⟨grants.idle, grants.idle, ledgerOk, rfl⟩, grants⟩
  | moveLease source target =>
      unfold stepCapacity
      dsimp only
      split
      · exact changes_of_view rfl rfl rfl
      · rename_i vacant
        rw [Option.not_isSome_iff_eq_none] at vacant
        have moves := (@heldBy_leases { world with
          leases := update world.leases target (world.leases source) }
          source none).trans (congrArg (update · (Holder.lease source) none)
            (heldBy_leases target (world.leases source)))
        exact @changes_move world events _ (.lease source) (.lease target)
          vacant rfl moves rfl
  | dropLease name =>
      obtain ⟨leasesStay, -, stays⟩ :=
        @release_holders world (world.leases name)
      have ended := @heldBy_leases
        (world.release (world.leases name)).world name none
      rw [stays, leasesStay] at ended
      unfold stepCapacity
      dsimp only
      exact changes_release ok (.lease name) rfl ended
  | createStaged lease staged provisioned =>
      unfold stepCapacity
      dsimp only
      split
      · exact changes_of_view rfl rfl rfl
      rename_i vacant
      rw [Option.not_isSome_iff_eq_none] at vacant
      have vacantHolder : world.heldBy (.staged staged) = none := by
        change (world.staged staged).bind (·.lease) = none
        rw [vacant]
        rfl
      have empty : CapacityWorld.heldBy { world with
          staged := update world.staged staged (some {}) } =
            world.heldBy := by
        rw [heldBy_staged]
        exact vacantHolder ▸ update_eq_self _ _
      split
      · exact changes_of_view rfl empty rfl
      rename_i held isLease
      split
      · exact changes_of_view rfl empty rfl
      have created : (StagedDirectSlot.create held
          (world.payloads held.destination) provisioned).lease =
            some held := by
        unfold StagedDirectSlot.create
        split
        · rfl
        · split
          · rfl
          · rfl
      have moves := @heldBy_leases { world with
        staged := update world.staged staged (some (.create held
          (world.payloads held.destination) provisioned)) } lease none
      rw [heldBy_staged, Option.bind_some, created, ← isLease] at moves
      exact @changes_move world events _ (.lease lease) (.staged staged)
        vacantHolder rfl moves rfl
  | moveStaged source target =>
      unfold stepCapacity
      dsimp only
      split
      · exact changes_of_view rfl rfl rfl
      · rename_i vacant
        rw [Option.not_isSome_iff_eq_none] at vacant
        have vacantHolder : world.heldBy (.staged target) = none := by
          change (world.staged target).bind (·.lease) = none
          rw [vacant]
          rfl
        have emptied : ((world.staged source).map
            fun _ => ({} : StagedDirectSlot)).bind (·.lease) = none := by
          cases world.staged source <;> rfl
        have moves := (@heldBy_staged { world with
          staged := update world.staged target (world.staged source) } source
          ((world.staged source).map fun _ => {})).trans
            (congrArg₂ (update · (Holder.staged source))
              (heldBy_staged target (world.staged source)) emptied)
        exact @changes_move world events _ (.staged source) (.staged target)
          vacantHolder rfl moves rfl
  | commitStaged name =>
      unfold stepCapacity
      dsimp only
      split
      · exact changes_of_view rfl rfl rfl
      · rename_i staged isStaged
        exact changes_commit name isStaged
  | dropStaged name =>
      obtain ⟨-, stagedStay, stays⟩ :=
        @release_holders world ((world.staged name).bind (·.lease))
      have ended := @heldBy_staged
        (world.release ((world.staged name).bind (·.lease))).world
        name none
      rw [stays, stagedStay] at ended
      unfold stepCapacity
      dsimp only
      exact changes_release ok (.staged name) rfl ended
  | acquireWrite write payload identity =>
      unfold stepCapacity
      dsimp only
      split
      · exact changes_of_view rfl rfl rfl
      · exact changes_of_view rfl rfl rfl
  | settleWrite write current =>
      unfold stepCapacity
      dsimp only
      split
      · exact changes_of_view rfl rfl rfl
      split
      · exact changes_of_view rfl rfl rfl
      · rename_i ledger receipt settles
        have adjusts := settleWrite_adjusts ledgerOk settles
        dsimp only
        rw [List.append_nil]
        exact Relation.ReflTransGen.single
          (LeaseChange.adjust (world.view events) ledger adjusts)
  | dropWrite write => exact changes_of_view rfl rfl rfl
  | recoverExact payload index exact reusable restored provisioned =>
      exact changes_recover ok payload index exact reusable restored
        provisioned

end Dxmt9.DirectSlot
