import Dxmt9.DirectSlot.CapacityOperations

/-!
# Credit of the capacity ledger

What each event of the reducer does to the credit, and that a reconciliation
keeps the retained bytes the sum of its entries.
-/

namespace Dxmt9.DirectSlot

variable {entries : List DirectSlotCapacityLeaseEntry}
  {state : DirectSlotCapacityLeaseState} {bytes index : Nat}
  {ticket : DirectSlotCapacityLeaseTicket}

theorem add_eq_some {left right sum : Nat} (added : add left right = some sum) :
    sum = left + right ∧ right ≤ maxUInt64 - left := by
  unfold add at added
  split at added
  · exact nomatch added
  · rename_i fits
    exact ⟨(Option.some.inj added).symm, Nat.le_of_not_lt fits⟩

theorem retainedTotal_set (inside : index < entries.length)
    (entry : DirectSlotCapacityLeaseEntry) :
    retainedTotal (entries.set index entry) +
        (entryAt entries index).retainedBytes =
      retainedTotal entries + entry.retainedBytes := by
  unfold retainedTotal entryAt
  induction entries generalizing index with
  | nil => exact nomatch inside
  | cons head tail induction =>
      cases index with
      | zero =>
          simp only [List.set_cons_zero, List.map_cons, List.sum_cons,
            List.getD_cons_zero]
          omega
      | succ index =>
          have rest := induction (Nat.lt_of_succ_lt_succ inside)
          simp only [List.set_cons_succ, List.map_cons, List.sum_cons,
            List.getD_cons_succ]
          omega

theorem retained_le_total (index : Nat) :
    (entryAt entries index).retainedBytes ≤ retainedTotal entries := by
  unfold retainedTotal entryAt
  induction entries generalizing index with
  | nil => exact Nat.zero_le _
  | cons head tail induction =>
      rw [List.map_cons, List.sum_cons]
      cases index with
      | zero => exact Nat.le_add_right _ _
      | succ index =>
          rw [List.getD_cons_succ]
          exact Nat.le_trans (induction index) (Nat.le_add_left _ _)

theorem entryAt_set_self (inside : index < entries.length)
    (entry : DirectSlotCapacityLeaseEntry) :
    entryAt (entries.set index entry) index = entry := by
  unfold entryAt
  rw [List.getD_eq_getElem?_getD, List.getElem?_set_self inside]
  rfl

theorem entryAt_set_of_ne {other : Nat} (different : index ≠ other)
    (entry : DirectSlotCapacityLeaseEntry) :
    entryAt (entries.set index entry) other = entryAt entries other := by
  unfold entryAt
  rw [List.getD_eq_getElem?_getD, List.getD_eq_getElem?_getD,
    List.getElem?_set_ne different]

theorem set_entryAt (index : Nat) :
    entries.set index (entryAt entries index) = entries := by
  by_cases inside : index < entries.length
  · unfold entryAt
    rw [List.getD_eq_getElem?_getD, List.getElem?_eq_getElem inside,
      Option.getD_some, List.set_getElem_self]
  · exact List.set_eq_of_length_le (Nat.le_of_not_lt inside)

/-- The entry that an observation leaves. -/
def observedEntry (entry : DirectSlotCapacityLeaseEntry) (bytes : Nat) :
    DirectSlotCapacityLeaseEntry :=
  { generation :=
      if entry.generation = 0 ∨ entry.retainedBytes ≠ bytes then
        nextDirectSlotCapacityGeneration entry.generation
      else entry.generation
    retainedBytes := bytes }

theorem observe_accepted (accepted : (state.observe bytes).accepted = true) :
    state.stagedBytes = 0 ∧
      state.entry.retainedBytes ≤ state.retainedBytes ∧
      bytes ≤ maxUInt64 - (state.retainedBytes - state.entry.retainedBytes) ∧
      (observedEntry state.entry bytes).generation ≠ 0 ∧
      (state.observe bytes).next =
        { state with
          entry := observedEntry state.entry bytes
          retainedBytes :=
            state.retainedBytes - state.entry.retainedBytes + bytes } := by
  unfold DirectSlotCapacityLeaseState.observe at accepted ⊢
  split at accepted
  · exact nomatch accepted
  rename_i idle
  rw [if_neg idle]
  simp only [not_or, not_not, Nat.not_lt] at idle
  cases added : add (state.retainedBytes - state.entry.retainedBytes)
      bytes with
  | none =>
      rw [added] at accepted
      exact nomatch accepted
  | some retained =>
      rw [added] at accepted
      obtain ⟨rfl, fits⟩ := add_eq_some added
      dsimp only at accepted ⊢
      split at accepted
      · exact nomatch accepted
      rename_i limit
      rw [if_neg limit]
      split at accepted
      · exact nomatch accepted
      rename_i generation
      rw [if_neg generation]
      refine ⟨idle.1, idle.2, fits, ?_, rfl⟩
      unfold observedEntry
      dsimp only
      split
      · rename_i advances
        exact fun zero => generation ⟨advances, zero⟩
      · rename_i stays
        push Not at stays
        exact stays.1

/-- What a stage charges. -/
structure Stages (state : DirectSlotCapacityLeaseState) (bytes : Nat)
    (transition : DirectSlotCapacityLeaseTransition) : Prop where
  idle : state.stagedBytes = 0
  some : bytes ≠ 0
  generation : state.entry.generation ≠ 0
  serial : state.nextTicketSerial ≠ 0
  fits : bytes ≤ maxUInt64 - state.retainedBytes
  ticket : transition.ticket =
    { generation := state.entry.generation
      serial := state.nextTicketSerial }
  next : transition.next =
    { state with
      stagedBytes := bytes
      stagedTicket := transition.ticket
      nextTicketSerial :=
        if state.nextTicketSerial = maxUInt64 then 0
        else state.nextTicketSerial + 1 }

theorem stage_accepted {optional : Bool}
    (accepted : (state.stage optional bytes ticket).accepted = true) :
    Stages state bytes (state.stage optional bytes ticket) ∧
      (optional = true → state.retainedBytes + bytes ≤ state.limitBytes) := by
  unfold DirectSlotCapacityLeaseState.stage at accepted ⊢
  dsimp only at accepted ⊢
  split at accepted
  · exact nomatch accepted
  rename_i checks
  rw [if_neg checks]
  simp only [not_or, not_not] at checks
  obtain ⟨some, -, idle, -, generation, serial, sum, limit⟩ := checks
  obtain ⟨transient, added⟩ := Option.ne_none_iff_exists'.mp sum
  obtain ⟨isSum, fits⟩ := add_eq_some added
  constructor
  · exact
      { idle := idle
        some := some
        generation := generation
        serial := serial
        fits := fits
        ticket := rfl
        next := rfl }
  · intro isOptional
    rw [added] at limit
    simp only [isOptional, Option.any_some, decide_eq_true_eq, true_and,
      Nat.not_lt] at limit
    rw [← isSum]
    exact limit

theorem adopt_accepted
    (accepted : (state.adopt bytes ticket).accepted = true) :
    bytes ≤ state.stagedBytes ∧ state.settles ticket = true ∧
      state.entry.retainedBytes ≤ state.retainedBytes ∧
      bytes ≤ maxUInt64 - (state.retainedBytes - state.entry.retainedBytes) ∧
      (state.adopt bytes ticket).next =
        { state with
          entry :=
            { generation := nextDirectSlotCapacityGeneration
                state.entry.generation
              retainedBytes := bytes }
          retainedBytes :=
            state.retainedBytes - state.entry.retainedBytes + bytes
          stagedBytes := 0
          stagedTicket := {} } := by
  unfold DirectSlotCapacityLeaseState.adopt at accepted ⊢
  split at accepted
  · exact nomatch accepted
  rename_i checks
  rw [if_neg checks]
  simp only [not_or, Nat.not_lt, Bool.not_eq_false] at checks
  obtain ⟨-, -, within, credit, settles⟩ := checks
  cases added : add (state.retainedBytes - state.entry.retainedBytes)
      bytes with
  | none =>
      rw [added] at accepted
      exact nomatch accepted
  | some retained =>
      rw [added] at accepted
      obtain ⟨rfl, fits⟩ := add_eq_some added
      dsimp only at accepted ⊢
      split at accepted
      · exact nomatch accepted
      rename_i generation
      rw [if_neg generation]
      exact ⟨within, settles, credit, fits, rfl⟩

theorem rollback_accepted
    (accepted : (state.rollback bytes ticket).accepted = true) :
    state.settles ticket = true ∧
      (state.rollback bytes ticket).next =
        { state with stagedBytes := 0, stagedTicket := {} } := by
  unfold DirectSlotCapacityLeaseState.rollback at accepted ⊢
  split at accepted
  · exact nomatch accepted
  rename_i checks
  rw [if_neg checks]
  simp only [not_or, Bool.not_eq_false] at checks
  exact ⟨checks.2.2, rfl⟩

theorem settles_iff : state.settles ticket = true ↔
    ticket.valid = true ∧ ticket = state.stagedTicket ∧
      ticket.generation = state.entry.generation := by
  unfold DirectSlotCapacityLeaseState.settles
  simp only [Bool.and_eq_true, beq_iff_eq, and_assoc]

/-! ## Reconciliation -/

variable {actual : List Nat}
  {result : DirectSlotCapacityLeaseReconciliation}

/-- A reconciliation under way: nothing is staged, the limit is left out, and
the retained bytes are the sum of the entries. -/
structure Observing (result : DirectSlotCapacityLeaseReconciliation)
    (serial count : Nat) : Prop where
  idle : result.state.stagedBytes = 0
  serial : result.state.nextTicketSerial = serial
  ticket : result.state.stagedTicket = {}
  retained : result.state.retainedBytes = retainedTotal result.entries
  fits : result.state.retainedBytes ≤ maxUInt64
  count : result.entries.length = count

/-- The reconciliation behind the look at one payload. -/
def lookedAt (actual : List Nat)
    (result : DirectSlotCapacityLeaseReconciliation) (index : Nat) :
    DirectSlotCapacityLeaseReconciliation :=
  let before := entryAt result.entries index
  let entry := observedEntry before (actual.getD index 0)
  let entries := result.entries.set index entry
  { result with
    state :=
      { result.state with
        entry := entry
        retainedBytes := retainedTotal entries }
    entries := entries
    generationAdvanced :=
      result.generationAdvanced || entry.generation != before.generation }

theorem observePayload_looked {serial count : Nat}
    (observing : Observing result serial count) (inside : index < count)
    (accepted : (observePayload actual result index).2 = true) :
    (observePayload actual result index).1 = lookedAt actual result index ∧
      Observing (lookedAt actual result index) serial count ∧
      (observedEntry (entryAt result.entries index)
        (actual.getD index 0)).generation ≠ 0 := by
  unfold observePayload at accepted ⊢
  dsimp only at accepted ⊢
  split at accepted
  · rename_i observed
    rw [if_pos observed]
    obtain ⟨idle, credit, fits, generation, next⟩ := observe_accepted observed
    dsimp only at idle credit fits generation next
    have total := retainedTotal_set (observing.count ▸ inside)
      (observedEntry (entryAt result.entries index) (actual.getD index 0))
    change _ = retainedTotal result.entries + actual.getD index 0 at total
    rw [← observing.retained] at total
    have sum : result.state.retainedBytes -
        (entryAt result.entries index).retainedBytes + actual.getD index 0 =
        retainedTotal (result.entries.set index (observedEntry
          (entryAt result.entries index) (actual.getD index 0))) := by
      omega
    refine ⟨?_, ?_, generation⟩
    · unfold reduceDirectSlotCapacityLease lookedAt
      dsimp only
      rw [next, sum]
    · exact
        { idle := observing.idle
          serial := observing.serial
          ticket := observing.ticket
          retained := rfl
          fits := by
            have top := observing.fits
            unfold lookedAt
            dsimp only
            omega
          count := by
            unfold lookedAt
            dsimp only
            rw [List.length_set]
            exact observing.count }
  · exact nomatch accepted

theorem observePayloads_looked {serial count : Nat} {order : List Nat}
    (observing : Observing result serial count)
    (inside : ∀ index ∈ order, index < count)
    (accepted : (observePayloads actual result order).2 = true) :
    (observePayloads actual result order).1 =
        order.foldl (lookedAt actual) result ∧
      Observing (order.foldl (lookedAt actual) result) serial count := by
  induction order generalizing result with
  | nil => exact ⟨rfl, observing⟩
  | cons index rest induction =>
      unfold observePayloads at accepted ⊢
      dsimp only at accepted ⊢
      split at accepted
      · rename_i one
        obtain ⟨same, next, -⟩ := observePayload_looked observing
          (inside index List.mem_cons_self) one
        rw [if_pos one]
        rw [same] at accepted ⊢
        exact induction next
          (fun other member => inside other (List.mem_cons_of_mem _ member))
          accepted
      · rename_i one
        exact absurd accepted one

theorem sumEntries_total {total : Nat} (fits : total ≤ maxUInt64)
    (summed : (sumEntries total entries).2 = true) :
    (sumEntries total entries).1 = total + retainedTotal entries ∧
      (sumEntries total entries).1 ≤ maxUInt64 := by
  unfold retainedTotal
  induction entries generalizing total with
  | nil => exact ⟨rfl, fits⟩
  | cons head tail induction =>
      unfold sumEntries at summed ⊢
      cases added : add total head.retainedBytes with
      | none =>
          rw [added] at summed
          exact nomatch summed
      | some next =>
          rw [added] at summed
          obtain ⟨rfl, room⟩ := add_eq_some added
          obtain ⟨sum, top⟩ := induction (by omega) summed
          rw [List.map_cons, List.sum_cons, ← Nat.add_assoc]
          exact ⟨sum, top⟩

theorem sumEntries_fits {total : Nat}
    (fits : total + retainedTotal entries ≤ maxUInt64) :
    (sumEntries total entries).2 = true := by
  unfold retainedTotal at fits
  induction entries generalizing total with
  | nil => rfl
  | cons head tail induction =>
      rw [List.map_cons, List.sum_cons] at fits
      have added : add total head.retainedBytes =
          some (total + head.retainedBytes) := by
        unfold add
        rw [if_neg (by omega)]
      unfold sumEntries
      rw [added]
      exact induction (by omega)

/-- Where a reconciliation begins. -/
def observationStart (entries : List DirectSlotCapacityLeaseEntry)
    (serial : Nat) : DirectSlotCapacityLeaseReconciliation :=
  { state :=
      { retainedBytes := retainedTotal entries, nextTicketSerial := serial }
    entries := entries }

/-- The reconciliation that an order of looks ends in. -/
def reconciliationEnd (order : List Nat)
    (entries : List DirectSlotCapacityLeaseEntry) (actual : List Nat)
    (current limit serial : Nat) : DirectSlotCapacityLeaseReconciliation :=
  let looked := order.foldl (lookedAt actual)
    (observationStart entries serial)
  { looked with
    state :=
      { looked.state with
        entry := entryAt looked.entries current
        limitBytes := limit }
    observed := true
    accepted := decide (looked.state.retainedBytes ≤ limit) }

/-- When an order of looks ends in a reconciliation. -/
structure Reconciles (order : List Nat)
    (entries : List DirectSlotCapacityLeaseEntry) (actual : List Nat)
    (current limit serial : Nat) : Prop where
  currentInside : current < entries.length
  limited : limit ≠ 0
  issues : serial ≠ 0
  observing : Observing (order.foldl (lookedAt actual)
    (observationStart entries serial)) serial entries.length

theorem observed_observePayloads (order : List Nat) :
    (observePayloads actual result order).1.observed = result.observed := by
  induction order generalizing result with
  | nil => rfl
  | cons index rest induction =>
      have one : (observePayload actual result index).1.observed =
          result.observed := by
        unfold observePayload
        dsimp only
        split
        · rfl
        · rfl
      unfold observePayloads
      dsimp only
      split
      · rw [induction, one]
      · exact one

theorem reconcileInOrder_observed {order : List Nat}
    {current limit serial : Nat}
    (inside : ∀ index ∈ order, index < entries.length)
    (observed : (reconcileInOrder order entries actual current limit
      serial).observed = true) :
    Reconciles order entries actual current limit serial ∧
      reconcileInOrder order entries actual current limit serial =
        reconciliationEnd order entries actual current limit serial := by
  unfold reconcileInOrder at observed ⊢
  split at observed
  · exact nomatch observed
  rename_i checks
  rw [if_neg checks]
  simp only [not_or, not_le] at checks
  dsimp only at observed ⊢
  split at observed
  · exact nomatch observed
  rename_i summed
  rw [if_neg summed]
  rw [Bool.not_eq_false] at summed
  obtain ⟨total, fits⟩ := sumEntries_total (Nat.zero_le _) summed
  rw [Nat.zero_add] at total
  rw [total] at fits
  split at observed
  · rw [observed_observePayloads] at observed
    exact nomatch observed
  rename_i looks
  rw [if_neg looks]
  rw [Bool.not_eq_false] at looks
  rw [total] at looks ⊢
  have begun : Observing (observationStart entries serial) serial
      entries.length := ⟨rfl, rfl, rfl, rfl, fits, rfl⟩
  obtain ⟨same, observing⟩ := observePayloads_looked begun inside looks
  refine ⟨⟨checks.1, checks.2.1, checks.2.2, observing⟩, ?_⟩
  unfold reconciliationEnd
  dsimp only
  rw [← same]
  rfl

/-- The ledger behind a reconciliation that could look at every payload. -/
theorem reconciled_eq {ledger : DirectSlotCapacityLeaseLedger}
    {order : List Nat} {current limit : Nat}
    (inside : ∀ index ∈ order, index < ledger.entries.length) :
    ledger.reconciled order actual current limit = ledger ∨
      Reconciles order ledger.entries actual current limit
          ledger.nextTicketSerial ∧
        ledger.reconciled order actual current limit =
          { entries := (order.foldl (lookedAt actual) (observationStart
              ledger.entries ledger.nextTicketSerial)).entries
            limitBytes := limit
            retainedBytes := retainedTotal (order.foldl (lookedAt actual)
              (observationStart ledger.entries
                ledger.nextTicketSerial)).entries
            stagedBytes := 0
            nextTicketSerial := ledger.nextTicketSerial } := by
  unfold DirectSlotCapacityLeaseLedger.reconciled
  dsimp only
  split
  · exact Or.inl rfl
  · rename_i observed
    rw [Bool.not_eq_false] at observed
    obtain ⟨reconciles, result⟩ := reconcileInOrder_observed inside observed
    refine Or.inr ⟨reconciles, ?_⟩
    rw [result]
    unfold reconciliationEnd
    dsimp only
    rw [set_entryAt, reconciles.observing.retained,
      reconciles.observing.idle, reconciles.observing.serial]

end Dxmt9.DirectSlot
