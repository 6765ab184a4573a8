import Dxmt9.DirectSlot.CapacityLeaseSound

/-!
# The order of a reconciliation

The payloads may be looked at in any order: an order that sees all of them
ends in the same ledger as another one.  An order is refused when its running
total wraps or a generation is used up; it then changes nothing.
-/

namespace Dxmt9.DirectSlot

variable {entries : List DirectSlotCapacityLeaseEntry} {actual : List Nat}
  {result : DirectSlotCapacityLeaseReconciliation} {order other : List Nat}
  {serial count index : Nat}

theorem length_looked (order : List Nat)
    (result : DirectSlotCapacityLeaseReconciliation) :
    (order.foldl (lookedAt actual) result).entries.length =
      result.entries.length := by
  induction order generalizing result with
  | nil => rfl
  | cons index rest induction =>
      rw [List.foldl_cons, induction]
      unfold lookedAt
      exact List.length_set

theorem entryAt_lookedAt_of_ne (different : index ≠ serial) :
    entryAt (lookedAt actual result index).entries serial =
      entryAt result.entries serial :=
  entryAt_set_of_ne different _

/-- Every payload of the order is observed once, the others stay. -/
theorem entryAt_looked (distinct : order.Nodup)
    (inside : ∀ index ∈ order, index < result.entries.length)
    (index : Nat) :
    entryAt (order.foldl (lookedAt actual) result).entries index =
      if index ∈ order then
        observedEntry (entryAt result.entries index) (actual.getD index 0)
      else entryAt result.entries index := by
  induction order generalizing result with
  | nil => rfl
  | cons head rest induction =>
      obtain ⟨absent, distinct⟩ := List.nodup_cons.mp distinct
      have headInside := inside head List.mem_cons_self
      have length : (lookedAt actual result head).entries.length =
          result.entries.length := length_looked [head] result
      rw [List.foldl_cons, induction distinct (by
        intro other member
        rw [length]
        exact inside other (List.mem_cons_of_mem _ member))]
      by_cases same : index = head
      · subst same
        rw [if_neg absent, if_pos List.mem_cons_self]
        exact entryAt_set_self headInside _
      · rw [entryAt_lookedAt_of_ne (Ne.symm same)]
        simp only [List.mem_cons, same, false_or]

theorem ext_entryAt {left right : List DirectSlotCapacityLeaseEntry}
    (length : left.length = right.length)
    (same : ∀ index, entryAt left index = entryAt right index) :
    left = right := by
  apply List.ext_getElem length
  intro index leftInside rightInside
  have here := same index
  unfold entryAt at here
  rw [List.getD_eq_getElem?_getD, List.getD_eq_getElem?_getD,
    List.getElem?_eq_getElem leftInside,
    List.getElem?_eq_getElem rightInside] at here
  exact here

/-- Two orders of the same payloads leave the same entries. -/
theorem looked_perm (perm : order.Perm other) (distinct : order.Nodup)
    (inside : ∀ index ∈ order, index < result.entries.length) :
    (order.foldl (lookedAt actual) result).entries =
      (other.foldl (lookedAt actual) result).entries := by
  have otherInside : ∀ index ∈ other, index < result.entries.length :=
    fun index member => inside index (perm.mem_iff.mpr member)
  apply ext_entryAt
  · rw [length_looked, length_looked]
  · intro index
    rw [entryAt_looked distinct inside,
      entryAt_looked (perm.nodup_iff.mp distinct) otherInside]
    simp only [perm.mem_iff]

theorem observe_accepts {state : DirectSlotCapacityLeaseState} {bytes : Nat}
    (idle : state.stagedBytes = 0) (unlimited : state.limitBytes = 0)
    (credit : state.entry.retainedBytes ≤ state.retainedBytes)
    (fits : state.retainedBytes + bytes ≤ maxUInt64)
    (generation : (observedEntry state.entry bytes).generation ≠ 0) :
    (state.observe bytes).accepted = true := by
  unfold DirectSlotCapacityLeaseState.observe
  have added : add (state.retainedBytes - state.entry.retainedBytes) bytes =
      some (state.retainedBytes - state.entry.retainedBytes + bytes) := by
    unfold add
    rw [if_neg (by omega)]
  rw [if_neg (by omega), added]
  dsimp only
  rw [if_neg (fun limited => limited.1 unlimited), if_neg]
  rintro ⟨advances, zero⟩
  unfold observedEntry at generation
  rw [if_pos advances] at generation
  exact generation zero

/-- The running total of the looks that are left. -/
def RoomFor (actual : List Nat)
    (result : DirectSlotCapacityLeaseReconciliation) (order : List Nat) :
    Prop :=
  retainedTotal result.entries +
    (order.map fun index => actual.getD index 0).sum ≤ maxUInt64

/-- No payload of the order needs a generation past the last one. -/
def GenerationsLeft (actual : List Nat)
    (entries : List DirectSlotCapacityLeaseEntry) (order : List Nat) : Prop :=
  ∀ index ∈ order,
    (observedEntry (entryAt entries index)
      (actual.getD index 0)).generation ≠ 0

theorem observePayloads_iff (observing : Observing result serial count)
    (unlimited : result.state.limitBytes = 0)
    (inside : ∀ index ∈ order, index < count) (distinct : order.Nodup)
    (room : RoomFor actual result order) :
    (observePayloads actual result order).2 = true ↔
      GenerationsLeft actual result.entries order := by
  induction order generalizing result with
  | nil => exact iff_of_true rfl fun _ member => nomatch member
  | cons index rest induction =>
      obtain ⟨absent, distinct⟩ := List.nodup_cons.mp distinct
      have here := inside index List.mem_cons_self
      have credit := @retained_le_total result.entries index
      unfold RoomFor at room
      rw [List.map_cons, List.sum_cons] at room
      by_cases generation : (observedEntry (entryAt result.entries index)
          (actual.getD index 0)).generation ≠ 0
      · have one : (observePayload actual result index).2 = true := by
          have accepted : (reduceDirectSlotCapacityLease
              { result.state with entry := entryAt result.entries index }
              (actual.getD index 0) {} .observe).accepted = true := by
            refine observe_accepts observing.idle unlimited ?_ ?_ generation
            · change _ ≤ result.state.retainedBytes
              rw [observing.retained]
              exact credit
            · change result.state.retainedBytes + _ ≤ _
              rw [observing.retained]
              omega
          unfold observePayload
          dsimp only
          rw [if_pos accepted]
        obtain ⟨same, next, -⟩ := observePayload_looked observing here one
        have total := retainedTotal_set (observing.count ▸ here)
          (observedEntry (entryAt result.entries index) (actual.getD index 0))
        unfold observePayloads
        dsimp only
        rw [if_pos one, same, induction next unlimited
          (fun later member => inside later (List.mem_cons_of_mem _ member))
          distinct (by
            change retainedTotal (result.entries.set index _) + _ ≤ _
            change _ = _ + actual.getD index 0 at total
            omega)]
        unfold GenerationsLeft
        rw [List.forall_mem_cons, and_iff_right generation]
        apply forall₂_congr
        intro later member
        have different : index ≠ later := by
          rintro rfl
          exact absent member
        rw [entryAt_lookedAt_of_ne different]
      · apply iff_of_false
        · intro accepted
          unfold observePayloads at accepted
          dsimp only at accepted
          split at accepted
          · rename_i one
            exact generation (observePayload_looked observing here one).2.2
          · rename_i one
            exact one accepted
        · intro left
          exact generation (left index List.mem_cons_self)

variable {ledger : DirectSlotCapacityLeaseLedger} {current limit : Nat}

/-- The reconciliation of an order saw every payload. -/
def Sees (ledger : DirectSlotCapacityLeaseLedger) (order actual : List Nat)
    (current limit : Nat) : Prop :=
  (reconcileInOrder order ledger.entries actual current limit
    ledger.nextTicketSerial).observed = true

theorem reconciled_of_not_sees
    (blind : ¬Sees ledger order actual current limit) :
    ledger.reconciled order actual current limit = ledger := by
  unfold DirectSlotCapacityLeaseLedger.reconciled
  exact if_pos ((Bool.not_eq_true _).mp blind)

section

variable (perm : order.Perm other) (distinct : order.Nodup)
  (inside : ∀ index ∈ order, index < ledger.entries.length)
include perm distinct inside

theorem reconciled_perm
    (sees : Sees ledger order actual current limit)
    (otherSees : Sees ledger other actual current limit) :
    ledger.reconciled order actual current limit =
      ledger.reconciled other actual current limit := by
  have otherInside : ∀ index ∈ other, index < ledger.entries.length :=
    fun index member => inside index (perm.mem_iff.mpr member)
  obtain ⟨first, firstEnd⟩ := reconcileInOrder_observed inside sees
  obtain ⟨second, secondEnd⟩ := reconcileInOrder_observed otherInside otherSees
  have same := @looked_perm actual (observationStart ledger.entries
    ledger.nextTicketSerial) _ _ perm distinct inside
  have firstCredit := first.observing
  have secondCredit := second.observing
  unfold DirectSlotCapacityLeaseLedger.reconciled
  rw [firstEnd, secondEnd]
  unfold reconciliationEnd
  dsimp only
  rw [if_neg Bool.noConfusion, if_neg Bool.noConfusion,
    firstCredit.retained, secondCredit.retained, firstCredit.idle,
    secondCredit.idle, firstCredit.serial, secondCredit.serial, same]

section

variable (room : retainedTotal ledger.entries + (order.map fun index =>
    actual.getD index 0).sum ≤ maxUInt64)
include room

/-- As long as what the payloads retained and what they retain now fits
together, every order sees the same. -/
theorem sees_perm
    (sees : Sees ledger order actual current limit) :
    Sees ledger other actual current limit := by
  have otherInside : ∀ index ∈ other, index < ledger.entries.length :=
    fun index member => inside index (perm.mem_iff.mpr member)
  have summed := @sumEntries_fits ledger.entries 0 (by omega)
  have begun : Observing (observationStart ledger.entries
      ledger.nextTicketSerial) ledger.nextTicketSerial
      ledger.entries.length :=
    ⟨rfl, rfl, rfl, rfl, by
      change retainedTotal ledger.entries ≤ _
      omega, rfl⟩
  have total := (sumEntries_total (Nat.zero_le _) summed).1
  rw [Nat.zero_add] at total
  unfold Sees reconcileInOrder at sees ⊢
  split at sees
  · exact nomatch sees
  rename_i checks
  rw [if_neg checks]
  dsimp only at sees ⊢
  rw [summed, if_neg Bool.noConfusion] at sees ⊢
  rw [total] at sees ⊢
  have roomOther : RoomFor actual (observationStart ledger.entries
      ledger.nextTicketSerial) other := by
    unfold RoomFor
    rw [← (perm.map _).sum_eq]
    exact room
  have first := @observePayloads_iff actual _ order _ _ begun rfl inside
    distinct room
  have second := @observePayloads_iff actual _ other _ _ begun rfl
    otherInside (perm.nodup_iff.mp distinct) roomOther
  have left : GenerationsLeft actual ledger.entries order ↔
      GenerationsLeft actual ledger.entries other := by
    unfold GenerationsLeft
    simp only [perm.mem_iff]
  split at sees
  · rw [observed_observePayloads] at sees
    exact nomatch sees
  · rename_i seen
    rw [Bool.not_eq_false] at seen
    rw [if_neg]
    rw [Bool.not_eq_false]
    exact second.mpr (left.mp (first.mp seen))

theorem reconciled_order :
    ledger.reconciled order actual current limit =
      ledger.reconciled other actual current limit := by
  by_cases sees : Sees ledger order actual current limit
  · exact reconciled_perm perm distinct inside sees
      (sees_perm perm distinct inside room sees)
  · have blind : ¬Sees ledger other actual current limit := by
      intro otherSees
      apply sees
      refine sees_perm perm.symm (perm.nodup_iff.mp distinct) ?_ ?_ otherSees
      · exact fun index member => inside index (perm.mem_iff.mpr member)
      · rw [← (perm.map _).sum_eq]
        exact room
    rw [reconciled_of_not_sees sees, reconciled_of_not_sees blind]

end

end

end Dxmt9.DirectSlot
