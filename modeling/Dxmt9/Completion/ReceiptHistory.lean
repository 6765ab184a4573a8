import Dxmt9.Completion.CompletionLedger
import Dxmt9.Queue.Ring
import Dxmt9.Transition.Run

/-!
# The history of every receipt

Along every run of the ledger, each activation goes its way once: it is
cancelled, or submitted, completed, settled and released in this order.  A
receipt of an earlier activation does not reach a later one of its slot.
-/

namespace Dxmt9.Completion

open Dxmt9.Queue PostEncodeCompletionLedger

/-! ## Turns -/

/-- The receipt names the activation that the entry holds. -/
structure Holds (entry : Entry) (receipt : PostEncodeCompletionReceipt) :
    Prop where
  seqId : entry.seqId = receipt.seqId
  generation : entry.generation = receipt.generation

/-- What an event does to the entry of its slot. -/
inductive Turn (old : Entry) : LedgerEvent → Entry → Prop where
  | activated (seqId slot : Nat) (hasPresent : Bool)
      (group : Option ArenaGroupIdentity)
      (nonzero : seqId ≠ 0) (free : old.state = .free) :
      Turn old
        { receipt :=
            { seqId := seqId
              generation := if old.generation = 0 then 1 else old.generation
              slot := slot }
          event := .activated group }
        { seqId := seqId
          generation := if old.generation = 0 then 1 else old.generation
          state := .active
          hasPresent := hasPresent
          group := group }
  | cancelled (receipt : PostEncodeCompletionReceipt)
      (holds : Holds old receipt) (active : old.state = .active) :
      Turn old { receipt := receipt, event := .cancelled }
        (releasedEntry old)
  | submitted (receipt : PostEncodeCompletionReceipt)
      (holds : Holds old receipt) (active : old.state = .active) :
      Turn old { receipt := receipt, event := .submitted }
        { old with state := .submitted }
  | completed (receipt : PostEncodeCompletionReceipt)
      (holds : Holds old receipt) (submitted : old.state = .submitted) :
      Turn old { receipt := receipt, event := .completed }
        { old with state := .completed }
  | taken (receipt : PostEncodeCompletionReceipt)
      (group : ArenaGroupIdentity) (holds : Holds old receipt)
      (completed : old.state = .completed) (untaken : old.group = some group) :
      Turn old { receipt := receipt, event := .taken group }
        { old with group := none }
  | released (receipt : PostEncodeCompletionReceipt)
      (holds : Holds old receipt) (completed : old.state = .completed)
      (settled : old.group = none) :
      Turn old { receipt := receipt, event := .released }
        (releasedEntry old)

/-- A call that succeeds is one turn of the slot of its receipt. -/
structure Performs (ledger : PostEncodeCompletionLedger)
    (event : LedgerEvent) (other : PostEncodeCompletionLedger) : Prop where
  inside : event.receipt.slot < kMaxPostEncodeCompletionReceipts
  turn : ∃ entry, Turn (ledger.entries event.receipt.slot) event entry ∧
    other.entries =
      Function.update ledger.entries event.receipt.slot entry ∧
    other.depth = ledger.depth + entry.busy.toNat -
      (ledger.entries event.receipt.slot).busy.toNat

theorem busy_of_state {entry : Entry} {state : PostEncodeReceiptState}
    (is : entry.state = state) : entry.busy = (state != .free) := by
  unfold Entry.busy
  rw [is]

variable {ledger other : PostEncodeCompletionLedger}

variable {receipt : PostEncodeCompletionReceipt}

theorem resolve_some {entry : Entry}
    (resolves : ledger.resolve receipt = some entry) :
    receipt.slot < kMaxPostEncodeCompletionReceipts ∧
      Holds (ledger.entries receipt.slot) receipt ∧
      entry = ledger.entries receipt.slot := by
  obtain ⟨⟨_, inside, seqId, generation⟩, same⟩ :=
    Option.ite_none_right_eq_some.mp resolves
  exact ⟨inside, ⟨seqId, generation⟩, (Option.some.inj same).symm⟩

theorem activate_cases (seqId : Nat) (hasPresent : Bool)
    (group : Option ArenaGroupIdentity) :
    perform ledger (.activate seqId hasPresent group) = (ledger, none) ∨
      ∃ event, (perform ledger (.activate seqId hasPresent group)).2 =
          some event ∧
        Performs ledger event
          (perform ledger (.activate seqId hasPresent group)).1 := by
  unfold perform activate
  simp only
  split
  · exact Or.inl rfl
  rename_i request
  split
  · left
    unfold eventIf
    split <;> simp_all
  rename_i free
  have free := not_not.mp free
  right
  refine ⟨_, rfl, slotOf_lt seqId, _, Turn.activated seqId (slotOf seqId)
    hasPresent group (fun zero => request (Or.inl zero)) free, rfl, ?_⟩
  change ledger.depth + 1 = ledger.depth + 1 -
    (ledger.entries (slotOf seqId)).busy.toNat
  rw [busy_of_state free]
  rfl

theorem cancel_cases (receipt : PostEncodeCompletionReceipt) :
    perform ledger (.cancel receipt) = (ledger, none) ∨
      (perform ledger (.cancel receipt)).2 =
          some { receipt := receipt, event := .cancelled } ∧
        Performs ledger { receipt := receipt, event := .cancelled }
          (perform ledger (.cancel receipt)).1 := by
  cases resolves : ledger.resolve receipt with
  | none =>
      left
      simp only [perform, cancelBeforeActivationEffects, resolves]
      rfl
  | some entry =>
      obtain ⟨inside, holds, rfl⟩ := resolve_some resolves
      simp only [perform, cancelBeforeActivationEffects, resolves]
      split
      · exact Or.inl rfl
      rename_i active
      have active := not_not.mp active
      right
      refine ⟨rfl, inside, _, Turn.cancelled receipt holds active, rfl, ?_⟩
      change ledger.depth - 1 = ledger.depth + 0 -
        (ledger.entries receipt.slot).busy.toNat
      rw [busy_of_state active]
      rfl

theorem markSubmitted_cases (receipt : PostEncodeCompletionReceipt)
    (hasPresent : Bool) :
    perform ledger (.markSubmitted receipt hasPresent) = (ledger, none) ∨
      (perform ledger (.markSubmitted receipt hasPresent)).2 =
          some { receipt := receipt, event := .submitted } ∧
        Performs ledger { receipt := receipt, event := .submitted }
          (perform ledger (.markSubmitted receipt hasPresent)).1 := by
  cases resolves : ledger.resolve receipt with
  | none =>
      left
      simp only [perform, markSubmitted, resolves]
      rfl
  | some entry =>
      obtain ⟨inside, holds, rfl⟩ := resolve_some resolves
      simp only [perform, markSubmitted, resolves]
      split
      · exact Or.inl rfl
      rename_i checks
      have active := not_not.mp (not_or.mp checks).1
      right
      refine ⟨rfl, inside, _, Turn.submitted receipt holds active, rfl, ?_⟩
      change ledger.depth = ledger.depth + 1 -
        (ledger.entries receipt.slot).busy.toNat
      rw [busy_of_state active]
      rfl

theorem markCompleted_cases (receipt : PostEncodeCompletionReceipt)
    (hasPresent : Bool) :
    perform ledger (.markCompleted receipt hasPresent) = (ledger, none) ∨
      (perform ledger (.markCompleted receipt hasPresent)).2 =
          some { receipt := receipt, event := .completed } ∧
        Performs ledger { receipt := receipt, event := .completed }
          (perform ledger (.markCompleted receipt hasPresent)).1 := by
  cases resolves : ledger.resolve receipt with
  | none =>
      left
      simp only [perform, markCompleted, resolves]
      rfl
  | some entry =>
      obtain ⟨inside, holds, rfl⟩ := resolve_some resolves
      simp only [perform, markCompleted, resolves]
      split
      · exact Or.inl rfl
      rename_i checks
      have submitted := not_not.mp (not_or.mp checks).1
      right
      refine ⟨rfl, inside, _, Turn.completed receipt holds submitted, rfl, ?_⟩
      change ledger.depth = ledger.depth + 1 -
        (ledger.entries receipt.slot).busy.toNat
      rw [busy_of_state submitted]
      rfl

/-- Taking a group that is not there changes nothing either. -/
theorem take_cases (receipt : PostEncodeCompletionReceipt) :
    perform ledger (.takeCompletedArenaGroup receipt) = (ledger, none) ∨
      ∃ group, (perform ledger (.takeCompletedArenaGroup receipt)).2 =
          some { receipt := receipt, event := .taken group } ∧
        Performs ledger { receipt := receipt, event := .taken group }
          (perform ledger (.takeCompletedArenaGroup receipt)).1 := by
  cases resolves : ledger.resolve receipt with
  | none =>
      left
      simp only [perform, takeCompletedArenaGroup, resolves]
      rfl
  | some entry =>
      obtain ⟨inside, holds, rfl⟩ := resolve_some resolves
      simp only [perform, takeCompletedArenaGroup, resolves]
      split
      · exact Or.inl rfl
      rename_i checks
      have completed := not_not.mp checks
      cases untaken : (ledger.entries receipt.slot).group with
      | none =>
          left
          have same : { ledger.entries receipt.slot with group := none } =
              ledger.entries receipt.slot := by
            rw [← untaken]
          rw [same]
          unfold setEntry
          rw [Function.update_eq_self]
          rfl
      | some group =>
          right
          refine ⟨group, rfl, inside, _,
            Turn.taken receipt group holds completed untaken, rfl, ?_⟩
          change ledger.depth = ledger.depth +
            (ledger.entries receipt.slot).busy.toNat -
              (ledger.entries receipt.slot).busy.toNat
          omega

theorem finish_cases (seqId : Nat) :
    perform ledger (.finishAndRelease seqId) = (ledger, none) ∨
      (perform ledger (.finishAndRelease seqId)).2 =
          some
            { receipt := ledger.receiptAt (slotOf seqId)
              event := .released } ∧
        Performs ledger
          { receipt := ledger.receiptAt (slotOf seqId), event := .released }
          (perform ledger (.finishAndRelease seqId)).1 := by
  unfold perform finishAndRelease
  simp only
  split
  · exact Or.inl rfl
  split
  · exact Or.inl rfl
  split
  · exact Or.inl rfl
  rename_i checks
  obtain ⟨completed, settled⟩ := not_or.mp checks
  have completed := not_not.mp completed
  have settled := Option.not_isSome_iff_eq_none.mp settled
  right
  refine ⟨rfl, slotOf_lt seqId, _, Turn.released _ ⟨rfl, rfl⟩ completed
    settled, rfl, ?_⟩
  change ledger.depth - 1 = ledger.depth + 0 -
    (ledger.entries (slotOf seqId)).busy.toNat
  rw [busy_of_state completed]
  rfl

/-- Every call is rejected and changes nothing, or is one turn. -/
theorem perform_cases (ledger : PostEncodeCompletionLedger)
    (call : LedgerCall) :
    perform ledger call = (ledger, none) ∨
      ∃ event, (perform ledger call).2 = some event ∧
        Performs ledger event (perform ledger call).1 := by
  cases call with
  | activate seqId hasPresent group =>
      exact activate_cases seqId hasPresent group
  | cancel receipt =>
      exact (cancel_cases receipt).imp_right fun done => ⟨_, done⟩
  | markSubmitted receipt hasPresent =>
      exact (markSubmitted_cases receipt hasPresent).imp_right
        fun done => ⟨_, done⟩
  | markCompleted receipt hasPresent =>
      exact (markCompleted_cases receipt hasPresent).imp_right
        fun done => ⟨_, done⟩
  | takeCompletedArenaGroup receipt =>
      exact (take_cases receipt).imp_right fun ⟨_, done⟩ => ⟨_, done⟩
  | finishAndRelease seqId =>
      exact (finish_cases seqId).imp_right fun done => ⟨_, done⟩

theorem perform_of_unresolved {call : LedgerCall}
    (names : call.receipt = some receipt)
    (unresolved : ledger.resolve receipt = none) :
    perform ledger call = (ledger, none) := by
  cases call with
  | activate => exact nomatch names
  | finishAndRelease => exact nomatch names
  | cancel named =>
      obtain rfl := Option.some.inj names
      simp only [perform, cancelBeforeActivationEffects, unresolved]
      rfl
  | markSubmitted named hasPresent =>
      obtain rfl := Option.some.inj names
      simp only [perform, markSubmitted, unresolved]
      rfl
  | markCompleted named hasPresent =>
      obtain rfl := Option.some.inj names
      simp only [perform, markCompleted, unresolved]
      rfl
  | takeCompletedArenaGroup named =>
      obtain rfl := Option.some.inj names
      simp only [perform, takeCompletedArenaGroup, unresolved]
      rfl

/-! ## Histories -/

/-- The events of one receipt, oldest first. -/
def history (log : List LedgerEvent)
    (receipt : PostEncodeCompletionReceipt) : List ReceiptEvent :=
  (log.filter (·.receipt = receipt)).map (·.event)

/-- The way of an activation that is not cancelled. -/
def lifecycle (group : Option ArenaGroupIdentity) : List ReceiptEvent :=
  [.activated group, .submitted, .completed] ++
    (group.map ReceiptEvent.taken).toList ++ [.released]

/-- An activation goes its way once, up to some event of it. -/
inductive Lawful : List ReceiptEvent → Prop where
  | never : Lawful []
  | cancelled (group : Option ArenaGroupIdentity) :
      Lawful [.activated group, .cancelled]
  | goes (group : Option ArenaGroupIdentity) (events : List ReceiptEvent)
      (onTheWay : events <+: lifecycle group) : Lawful events

/-- The history of a receipt whose activation is over. -/
inductive Closed : List ReceiptEvent → Prop where
  | never : Closed []
  | cancelled (group : Option ArenaGroupIdentity) :
      Closed [.activated group, .cancelled]
  | released (group : Option ArenaGroupIdentity) : Closed (lifecycle group)

/-- The history of the activation that an entry holds. -/
inductive Stage (entry : Entry) : List ReceiptEvent → Prop where
  | active (is : entry.state = .active) : Stage entry [.activated entry.group]
  | submitted (is : entry.state = .submitted) :
      Stage entry [.activated entry.group, .submitted]
  | completed (is : entry.state = .completed) :
      Stage entry [.activated entry.group, .submitted, .completed]
  | settled (group : ArenaGroupIdentity) (is : entry.state = .completed)
      (taken : entry.group = none) :
      Stage entry
        [.activated (some group), .submitted, .completed, .taken group]

variable {events : List ReceiptEvent}

theorem Closed.lawful (closed : Closed events) : Lawful events := by
  cases closed with
  | never => exact Lawful.never
  | cancelled group => exact Lawful.cancelled group
  | released group => exact Lawful.goes group _ (List.prefix_refl _)

theorem Stage.lawful {entry : Entry}
    (stage : Stage entry events) : Lawful events := by
  cases stage with
  | active is => exact Lawful.goes entry.group _ ⟨_, rfl⟩
  | submitted is => exact Lawful.goes entry.group _ ⟨_, rfl⟩
  | completed is =>
      apply Lawful.goes entry.group
      exact ⟨(entry.group.map ReceiptEvent.taken).toList ++ [.released], rfl⟩
  | settled group is taken => exact Lawful.goes (some group) _ ⟨_, rfl⟩

theorem Stage.turn {old entry : Entry} {event : LedgerEvent} (stage : Stage old events)
    (turn : Turn old event entry) :
    Stage entry (events ++ [event.event]) ∧ entry.state ≠ .free ∨
      Closed (events ++ [event.event]) ∧ entry.state = .free := by
  cases turn with
  | activated seqId slot hasPresent group nonzero free =>
      cases stage <;> simp_all
  | cancelled receipt holds active =>
      cases stage with
      | active => exact Or.inr ⟨Closed.cancelled _, rfl⟩
      | submitted is => exact nomatch active.symm.trans is
      | completed is => exact nomatch active.symm.trans is
      | settled group is => exact nomatch active.symm.trans is
  | submitted receipt holds active =>
      cases stage with
      | active => exact Or.inl ⟨Stage.submitted rfl, nofun⟩
      | submitted is => exact nomatch active.symm.trans is
      | completed is => exact nomatch active.symm.trans is
      | settled group is => exact nomatch active.symm.trans is
  | completed receipt holds submitted =>
      cases stage with
      | active is => exact nomatch submitted.symm.trans is
      | submitted => exact Or.inl ⟨Stage.completed rfl, nofun⟩
      | completed is => exact nomatch submitted.symm.trans is
      | settled group is => exact nomatch submitted.symm.trans is
  | taken receipt group holds completed untaken =>
      cases stage with
      | active is => exact nomatch completed.symm.trans is
      | submitted is => exact nomatch completed.symm.trans is
      | completed is =>
          left
          rw [untaken]
          exact ⟨Stage.settled group is rfl, fun free => by simp_all⟩
      | settled other is taken => exact nomatch taken.symm.trans untaken
  | released receipt holds completed settled =>
      cases stage with
      | active is => exact nomatch completed.symm.trans is
      | submitted is => exact nomatch completed.symm.trans is
      | completed is =>
          rw [settled]
          exact Or.inr ⟨Closed.released none, rfl⟩
      | settled group is taken =>
          exact Or.inr ⟨Closed.released (some group), rfl⟩

def ReceiptEvent.isActivation : ReceiptEvent → Bool
  | .activated _ => true
  | _ => false

/-- How often a slot has been activated. -/
def slotUses (log : List LedgerEvent) (slot : Nat) : Nat :=
  log.countP fun event =>
    event.event.isActivation && event.receipt.slot == slot

theorem slotUses_append (front back : List LedgerEvent) (slot : Nat) :
    slotUses (front ++ back) slot = slotUses front slot + slotUses back slot :=
  List.countP_append

theorem slotUses_singleton (event : LedgerEvent) (slot : Nat) :
    slotUses [event] slot =
      (event.event.isActivation && event.receipt.slot == slot).toNat := by
  unfold slotUses
  rw [List.countP_singleton]
  cases event.event.isActivation && event.receipt.slot == slot <;> rfl

theorem history_append (front back : List LedgerEvent)
    (receipt : PostEncodeCompletionReceipt) :
    history (front ++ back) receipt =
      history front receipt ++ history back receipt := by
  unfold history
  rw [List.filter_append, List.map_append]

theorem history_snoc (log : List LedgerEvent) (event : LedgerEvent) :
    history (log ++ [event]) event.receipt =
      history log event.receipt ++ [event.event] := by
  rw [history_append]
  unfold history
  rw [List.filter_singleton, decide_eq_true rfl]
  rfl

theorem history_snoc_of_ne (log : List LedgerEvent) {event : LedgerEvent} (other : event.receipt ≠ receipt) :
    history (log ++ [event]) receipt = history log receipt := by
  rw [history_append]
  unfold history
  rw [List.filter_singleton, decide_eq_false other]
  exact List.append_nil _

/-! ## Recorded runs -/

/-- A ledger with the events of its run. -/
structure Recorded where
  ledger : PostEncodeCompletionLedger := {}
  log : List LedgerEvent := []

def record (state : Recorded) (call : LedgerCall) : Recorded :=
  let done := perform state.ledger call
  { ledger := done.1, log := state.log ++ done.2.toList }

def runLedger (calls : List LedgerCall) : Recorded :=
  Transition.run record {} calls

/-- The generation of a slot tells how often it has been activated. -/
structure Numbered (log : List LedgerEvent) (slot : Nat) (entry : Entry) :
    Prop where
  busy : entry.state ≠ .free → entry.generation = slotUses log slot
  free : entry.state = .free →
    (if entry.generation = 0 then 1 else entry.generation) =
      slotUses log slot + 1

/-- How far the activation of a receipt has come. -/
structure Progress (entry : Entry) (receipt : PostEncodeCompletionReceipt)
    (events : List ReceiptEvent) : Prop where
  current : entry.state ≠ .free → Holds entry receipt → Stage entry events
  past : (entry.state = .free ∨ ¬Holds entry receipt) → Closed events

/-- A receipt is of one of the activations so far. -/
def Issued (before : List LedgerEvent) (event : LedgerEvent) : Prop :=
  event.receipt.generation ≤
    slotUses (before ++ [event]) event.receipt.slot

structure Recorded.Ok (state : Recorded) : Prop where
  depth : state.ledger.depth =
    cellCount state.ledger.entries kMaxPostEncodeCompletionReceipts
      Entry.busy
  numbered : ∀ slot,
    Numbered state.log slot (state.ledger.entries slot)
  issued : Transition.Justified Issued state.log
  progress : ∀ receipt,
    Progress (state.ledger.entries receipt.slot) receipt
      (history state.log receipt)

theorem recorded_initial : ({} : Recorded).Ok where
  depth := by
    symm
    unfold cellCount
    rw [List.countP_eq_zero]
    intro slot _
    exact Bool.false_ne_true
  numbered := fun _ => ⟨fun busy => absurd rfl busy, fun _ => rfl⟩
  issued := Transition.justified_nil _
  progress := fun _ => ⟨fun busy => absurd rfl busy, fun _ => Closed.never⟩

theorem holds_unique {entry : Entry}
    {left right : PostEncodeCompletionReceipt}
    (first : Holds entry left) (second : Holds entry right)
    (slot : left.slot = right.slot) : left = right := by
  cases left with
  | mk leftSeqId leftGeneration leftSlot =>
      cases right with
      | mk rightSeqId rightGeneration rightSlot =>
          rw [PostEncodeCompletionReceipt.mk.injEq]
          exact ⟨first.seqId.symm.trans second.seqId,
            first.generation.symm.trans second.generation, slot⟩

namespace Turn

variable {old entry : Entry} {event : LedgerEvent}

section

variable (turn : Turn old event entry)
include turn

theorem before :
    event.event.isActivation = true ∧ old.state = .free ∧
        entry.state = .active ∧
        event.event = .activated entry.group ∧
        event.receipt.generation =
          (if old.generation = 0 then 1 else old.generation) ∨
      event.event.isActivation = false ∧ old.state ≠ .free ∧
        Holds old event.receipt := by
  cases turn with
  | activated seqId slot hasPresent group nonzero free =>
      exact Or.inl ⟨rfl, free, rfl, rfl, rfl⟩
  | cancelled receipt holds active =>
      exact Or.inr ⟨rfl, active.trans_ne nofun, holds⟩
  | submitted receipt holds active =>
      exact Or.inr ⟨rfl, active.trans_ne nofun, holds⟩
  | completed receipt holds submitted =>
      exact Or.inr ⟨rfl, submitted.trans_ne nofun, holds⟩
  | taken receipt group holds completed untaken =>
      exact Or.inr ⟨rfl, completed.trans_ne nofun, holds⟩
  | released receipt holds completed settled =>
      exact Or.inr ⟨rfl, completed.trans_ne nofun, holds⟩

theorem after :
    entry.state = .free ∧
        entry.generation = nextGeneration old.generation ∨
      entry.state ≠ .free ∧ Holds entry event.receipt := by
  cases turn with
  | activated seqId slot hasPresent group nonzero free =>
      exact Or.inr ⟨nofun, rfl, rfl⟩
  | cancelled receipt holds active => exact Or.inl ⟨rfl, rfl⟩
  | submitted receipt holds active =>
      exact Or.inr ⟨nofun, holds.seqId, holds.generation⟩
  | completed receipt holds submitted =>
      exact Or.inr ⟨nofun, holds.seqId, holds.generation⟩
  | taken receipt group holds completed untaken =>
      exact Or.inr ⟨completed.trans_ne nofun, holds.seqId, holds.generation⟩
  | released receipt holds completed settled => exact Or.inl ⟨rfl, rfl⟩

theorem numbered {log : List LedgerEvent}
    (few : slotUses (log ++ [event]) event.receipt.slot < maxUInt64)
    (numbered : Numbered log event.receipt.slot old) :
    event.receipt.generation = slotUses (log ++ [event]) event.receipt.slot ∧
      Numbered (log ++ [event]) event.receipt.slot entry := by
  have uses : slotUses (log ++ [event]) event.receipt.slot =
      slotUses log event.receipt.slot + event.event.isActivation.toNat := by
    rw [slotUses_append, slotUses_singleton, beq_self_eq_true, Bool.and_true]
  have generation : event.receipt.generation =
      slotUses (log ++ [event]) event.receipt.slot := by
    rw [uses]
    rcases turn.before with
      ⟨activates, free, _, _, opened⟩ | ⟨moves, busy, holds⟩
    · rw [opened, activates]
      exact numbered.free free
    · rw [← holds.generation, moves]
      exact numbered.busy busy
  refine ⟨generation, ?_⟩
  rcases turn.after with ⟨free, next⟩ | ⟨busy, holds⟩
  · refine ⟨fun busy => absurd free busy, fun _ => ?_⟩
    rcases turn.before with ⟨_, _, active, _⟩ | ⟨moves, busy, holds⟩
    · exact nomatch free.symm.trans active
    · rw [next, holds.generation, generation]
      unfold nextGeneration
      rw [if_neg few.ne, if_neg (Nat.succ_ne_zero _)]
  · refine ⟨fun _ => ?_, fun free => absurd free busy⟩
    rw [holds.generation]
    exact generation

end

end Turn

variable {log : List LedgerEvent}

/-- A receipt that the next activation gets was never used. -/
theorem history_of_unused
    (issued : Transition.Justified Issued log)
    (unused : slotUses log receipt.slot < receipt.generation) :
    history log receipt = [] := by
  unfold history
  rw [List.map_eq_nil_iff, List.filter_eq_nil_iff]
  intro event member
  rw [decide_eq_true_eq]
  rintro rfl
  obtain ⟨before, after, rfl⟩ := List.append_of_mem member
  have bounded := issued before event after rfl
  unfold Issued at bounded
  rw [List.append_cons, slotUses_append] at unused
  omega

theorem Progress.turn {old entry : Entry} {event : LedgerEvent} (turn : Turn old event entry)
    (issued : Transition.Justified Issued log)
    (numbered : Numbered log event.receipt.slot old)
    (slot : receipt.slot = event.receipt.slot)
    (progress : Progress old receipt (history log receipt)) :
    Progress entry receipt (history (log ++ [event]) receipt) := by
  by_cases same : receipt = event.receipt
  · subst same
    rw [history_snoc]
    rcases turn.before with
      ⟨activates, free, active, isEvent, opened⟩ | ⟨_, busy, holds⟩
    · have unused : slotUses log event.receipt.slot <
          event.receipt.generation := by
        rw [opened, numbered.free free]
        exact Nat.lt_succ_self _
      rw [history_of_unused issued unused, isEvent]
      refine ⟨fun _ _ => Stage.active active, ?_⟩
      rintro (free | other)
      · exact nomatch free.symm.trans active
      · rcases turn.after with ⟨free, _⟩ | ⟨_, holds⟩
        · exact nomatch free.symm.trans active
        · exact absurd holds other
    · rcases (progress.current busy holds).turn turn with
        ⟨stage, busy⟩ | ⟨closed, free⟩
      · refine ⟨fun _ _ => stage, ?_⟩
        rintro (free | other)
        · exact absurd free busy
        · rcases turn.after with ⟨free, _⟩ | ⟨_, holds⟩
          · exact absurd free busy
          · exact absurd holds other
      · exact ⟨fun busy => absurd free busy, fun _ => closed⟩
  · rw [history_snoc_of_ne log (Ne.symm same)]
    have closed : Closed (history log receipt) := by
      apply progress.past
      rcases turn.before with ⟨_, free, _⟩ | ⟨_, _, holds⟩
      · exact Or.inl free
      · exact Or.inr fun other => same (holds_unique other holds slot)
    refine ⟨fun busy other => ?_, fun _ => closed⟩
    rcases turn.after with ⟨free, _⟩ | ⟨_, holds⟩
    · exact absurd free busy
    · exact absurd (holds_unique other holds slot) same

theorem Recorded.Ok.turn {event : LedgerEvent}
    (ok : Recorded.Ok { ledger := ledger, log := log })
    (performs : Performs ledger event other)
    (few : slotUses (log ++ [event]) event.receipt.slot < maxUInt64) :
    Recorded.Ok { ledger := other, log := log ++ [event] } := by
  obtain ⟨inside, entry, turn, entries, depth⟩ := performs
  obtain ⟨generation, numbered⟩ :=
    turn.numbered few (ok.numbered event.receipt.slot)
  exact
    { depth := by
        have counted := @cellCount_update _ ledger.entries
          kMaxPostEncodeCompletionReceipts Entry.busy _ inside entry
        have before : ledger.depth = cellCount ledger.entries
          kMaxPostEncodeCompletionReceipts Entry.busy := ok.depth
        change other.depth = cellCount other.entries _ Entry.busy
        rw [depth, entries, before]
        omega
      numbered := by
        intro slot
        change Numbered _ slot (other.entries slot)
        rw [entries]
        by_cases here : slot = event.receipt.slot
        · rw [here, Function.update_self]
          exact numbered
        · rw [Function.update_of_ne here]
          have uses : slotUses (log ++ [event]) slot = slotUses log slot := by
            rw [slotUses_append, slotUses_singleton,
              beq_false_of_ne (Ne.symm here), Bool.and_false]
            rfl
          have kept := ok.numbered slot
          exact ⟨uses ▸ kept.busy, uses ▸ kept.free⟩
      issued := ok.issued.snoc generation.le
      progress := by
        intro receipt
        change Progress (other.entries receipt.slot) receipt _
        rw [entries]
        by_cases here : receipt.slot = event.receipt.slot
        · rw [here, Function.update_self]
          apply Progress.turn turn ok.issued (ok.numbered _) here
          rw [← here]
          exact ok.progress receipt
        · rw [Function.update_of_ne here, history_snoc_of_ne]
          · exact ok.progress receipt
          · intro same
            exact here (congrArg _ same.symm) }

/-- Recorded ledgers stay sound as long as no generation wraps. -/
theorem record_ok (state : Recorded) (call : LedgerCall)
    (ok : (∀ slot, slotUses state.log slot < maxUInt64) → state.Ok)
    (few : ∀ slot, slotUses (record state call).log slot < maxUInt64) :
    (record state call).Ok := by
  have before : ∀ slot, slotUses state.log slot < maxUInt64 := by
    intro slot
    have after := few slot
    unfold record at after
    rw [slotUses_append] at after
    omega
  unfold record at few ⊢
  rcases perform_cases state.ledger call with
    rejected | ⟨event, succeeds, performs⟩
  · rw [rejected]
    change Recorded.Ok { ledger := state.ledger, log := state.log ++ [] }
    rw [List.append_nil]
    exact ok before
  · simp only [succeeds, Option.toList_some] at few ⊢
    exact (ok before).turn performs (few _)

theorem runLedger_ok {calls : List LedgerCall}
    (few : ∀ slot, slotUses (runLedger calls).log slot < maxUInt64) :
    (runLedger calls).Ok :=
  @Transition.run_invariant _ _ record
    (fun state => (∀ slot, slotUses state.log slot < maxUInt64) → state.Ok)
    record_ok {} (fun _ => recorded_initial) calls few

theorem lawful_of_progress {entry : Entry}
    (progress : Progress entry receipt events) : Lawful events := by
  by_cases past : entry.state = .free ∨ ¬Holds entry receipt
  · exact (progress.past past).lawful
  · obtain ⟨busy, holds⟩ := not_or.mp past
    exact (progress.current busy (not_not.mp holds)).lawful

theorem unresolved_of_older {state : Recorded} (ok : state.Ok)
    {before between after : List LedgerEvent}
    {older newer : LedgerEvent}
    (order : state.log = before ++ older :: between ++ newer :: after)
    (activates : newer.event.isActivation = true)
    (slot : newer.receipt.slot = older.receipt.slot) :
    state.ledger.resolve older.receipt = none := by
  have issued := ok.issued before older (between ++ newer :: after)
    (by rw [order, List.append_assoc, List.cons_append])
  have split : state.log =
      before ++ [older] ++ (between ++ ([newer] ++ after)) := by
    rw [order]
    simp only [List.append_assoc, List.cons_append, List.nil_append]
  have numbered := ok.numbered older.receipt.slot
  have uses : slotUses (before ++ [older]) older.receipt.slot <
      slotUses state.log older.receipt.slot := by
    rw [split, slotUses_append (before ++ [older]), slotUses_append between,
      slotUses_append [newer], slotUses_singleton newer, activates, slot,
      beq_self_eq_true]
    simp only [Bool.and_self, Bool.toNat_true]
    omega
  unfold Issued at issued
  by_contra resolves
  obtain ⟨entry, isEntry⟩ := Option.ne_none_iff_exists'.mp resolves
  obtain ⟨_, holds, _⟩ := resolve_some isEntry
  have generation := holds.generation
  by_cases free : (state.ledger.entries older.receipt.slot).state = .free
  · have next := numbered.free free
    split at next <;> omega
  · have same := numbered.busy free
    omega

/-- Along every run of the ledger with fewer than `2 ^ 64 - 1` activations
of each slot, every activation goes its way once, the depth counts the entries
that are not free, a rejected call changes nothing, and the receipt of an
activation reaches no later one of its slot. -/
theorem ledger_exactly_once (calls : List LedgerCall)
    (few : ∀ slot, slotUses (runLedger calls).log slot < maxUInt64) :
    (∀ receipt, Lawful (history (runLedger calls).log receipt)) ∧
      (runLedger calls).ledger.depth =
        cellCount (runLedger calls).ledger.entries
          kMaxPostEncodeCompletionReceipts Entry.busy ∧
      (∀ call, (perform (runLedger calls).ledger call).2 = none →
        (perform (runLedger calls).ledger call).1 =
          (runLedger calls).ledger) ∧
      ∀ before older between newer after,
        (runLedger calls).log =
          before ++ older :: between ++ newer :: after →
        newer.event.isActivation = true →
        newer.receipt.slot = older.receipt.slot →
        ∀ call, call.receipt = some older.receipt →
          perform (runLedger calls).ledger call =
            ((runLedger calls).ledger, none) := by
  have ok := runLedger_ok few
  refine ⟨fun receipt => lawful_of_progress (ok.progress receipt), ok.depth,
    ?_, ?_⟩
  · intro call rejected
    rcases perform_cases (runLedger calls).ledger call with
      same | ⟨event, succeeds, _⟩
    · rw [same]
    · rw [succeeds] at rejected
      contradiction
  · intro before older between newer after order activates slot call names
    exact perform_of_unresolved names
      (unresolved_of_older ok order activates slot)

/-- A slot that is used twice, and stale calls in between. -/
def reusedSlot : List LedgerCall :=
  let group : ArenaGroupIdentity :=
    { rawOrdinal := 1
      buildGeneration := 1
      firstSourceOrdinal := 1
      tailSeqId := 5
      sourceCount := 1 }
  let first : PostEncodeCompletionReceipt :=
    { seqId := 5, generation := 1, slot := 5 }
  [.activate 5 false (some group), .markSubmitted first false,
    .markCompleted first false, .finishAndRelease 5,
    .takeCompletedArenaGroup first, .finishAndRelease 5,
    .activate 1029 true none, .cancel first]

theorem ledger_exactly_once_reusedSlot :
    (runLedger reusedSlot).log.length = 6 ∧
      (runLedger reusedSlot).ledger.depth =
        cellCount (runLedger reusedSlot).ledger.entries
          kMaxPostEncodeCompletionReceipts Entry.busy := by
  have events : (runLedger reusedSlot).log.length = 6 := by decide
  refine ⟨events, (ledger_exactly_once reusedSlot ?_).2.1⟩
  intro slot
  have most := List.countP_le_length (l := (runLedger reusedSlot).log)
    (p := fun event =>
      event.event.isActivation && event.receipt.slot == slot)
  rw [events] at most
  exact Nat.lt_of_le_of_lt most (by decide)

end Dxmt9.Completion
