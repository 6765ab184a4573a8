import Mathlib.Logic.Relation
import Dxmt9.DirectSlot.ReconciliationOrder
import Dxmt9.DirectSlot.CapacityOperations

/-!
# Changes of the capacity ledger

What an operation does to the ledger, to the leases that are held and to their
tickets comes down to five changes.  Each keeps the credit of the ledger and
the history of the tickets in order.
-/

namespace Dxmt9.DirectSlot

open Function

def LeaseEvent.grantedTicket : LeaseEvent → Option DirectSlotCapacityLeaseTicket
  | .granted ticket => some ticket
  | _ => none

def LeaseEvent.settledTicket : LeaseEvent → Option DirectSlotCapacityLeaseTicket
  | .granted _ => none
  | .committed ticket => some ticket
  | .rolledBack ticket => some ticket

/-- The tickets that were handed out, in their order. -/
def grantedTickets (events : List LeaseEvent) :
    List DirectSlotCapacityLeaseTicket :=
  events.filterMap LeaseEvent.grantedTicket

/-- The tickets that were committed or rolled back, in their order. -/
def settledTickets (events : List LeaseEvent) :
    List DirectSlotCapacityLeaseTicket :=
  events.filterMap LeaseEvent.settledTicket

/-- What may hold a lease; a local object lives within one call. -/
inductive Holder where
  | lease (name : Nat)
  | staged (name : Nat)
  | «local»
deriving DecidableEq

/-- The ledger, the leases that are held and what happened to them. -/
structure LeaseView where
  ledger : DirectSlotCapacityLeaseLedger
  heldBy : Holder → Option LeaseHeld
  events : List LeaseEvent

/-- The retained bytes are those of the entries, without a wrap. -/
structure LedgerOk (ledger : DirectSlotCapacityLeaseLedger) : Prop where
  retained : ledger.retainedBytes = retainedTotal ledger.entries
  fits : ledger.retainedBytes ≤ maxUInt64

/-- The state of a lease is that of the ledger. -/
structure HeldOk (ledger : DirectSlotCapacityLeaseLedger)
    (lease : LeaseHeld) : Prop where
  inside : lease.index < ledger.entries.length
  state : lease.state =
    { limitBytes := ledger.limitBytes
      retainedBytes := ledger.retainedBytes
      stagedBytes := ledger.stagedBytes
      nextTicketSerial := ledger.nextTicketSerial
      entry := entryAt ledger.entries lease.index
      stagedTicket := lease.ticket }
  staged : ledger.stagedBytes ≠ 0
  fits : ledger.retainedBytes + ledger.stagedBytes ≤ maxUInt64
  generation : lease.ticket.generation =
    (entryAt ledger.entries lease.index).generation
  valid : lease.ticket.valid = true

/-- What holds of the view of every run. -/
structure LeaseView.Ok (view : LeaseView) : Prop where
  ledger : LedgerOk view.ledger
  single : ∀ first second firstLease secondLease,
    view.heldBy first = some firstLease →
    view.heldBy second = some secondLease → first = second
  held : ∀ holder lease, view.heldBy holder = some lease →
    HeldOk view.ledger lease
  charged : view.ledger.stagedBytes ≠ 0 →
    ∃ holder lease, view.heldBy holder = some lease
  settled : (∀ holder, view.heldBy holder = none) →
    grantedTickets view.events = settledTickets view.events
  outstanding : ∀ holder lease, view.heldBy holder = some lease →
    grantedTickets view.events =
      settledTickets view.events ++ [lease.ticket]
  ascending : (grantedTickets view.events).Pairwise
    fun earlier later => earlier.serial < later.serial
  issued : ∀ ticket ∈ grantedTickets view.events,
    view.ledger.nextTicketSerial ≠ 0 →
      ticket.serial < view.ledger.nextTicketSerial

/-- The ledger changes while nothing is staged, and issues nothing. -/
structure Adjusts (ledger next : DirectSlotCapacityLeaseLedger) : Prop where
  idle : ledger.stagedBytes = 0
  stays : next.stagedBytes = 0
  ok : LedgerOk next
  serial : next.nextTicketSerial = ledger.nextTicketSerial

/-- An acquisition that succeeds. -/
structure Grants (ledger : DirectSlotCapacityLeaseLedger)
    (lease : LeaseHeld) (next : DirectSlotCapacityLeaseLedger) : Prop where
  idle : ledger.stagedBytes = 0
  ok : LedgerOk next
  held : HeldOk next lease
  serial : lease.ticket.serial = ledger.nextTicketSerial
  issues : ledger.nextTicketSerial ≠ 0
  next : next.nextTicketSerial =
    if ledger.nextTicketSerial = maxUInt64 then 0
    else ledger.nextTicketSerial + 1

inductive LeaseChange : LeaseView → LeaseView → Prop where
  | adjust (view : LeaseView) (next : DirectSlotCapacityLeaseLedger)
      (adjusts : Adjusts view.ledger next) :
      LeaseChange view { view with ledger := next }
  | move (view : LeaseView) (source target : Holder)
      (vacant : view.heldBy target = none) :
      LeaseChange view
        { view with
          heldBy := update (update view.heldBy target (view.heldBy source))
            source none }
  | grant (view : LeaseView) (holder : Holder) (lease : LeaseHeld)
      (next : DirectSlotCapacityLeaseLedger)
      (vacant : view.heldBy holder = none)
      (grants : Grants view.ledger lease next) :
      LeaseChange view
        { ledger := next
          heldBy := update view.heldBy holder (some lease)
          events := view.events ++ [.granted lease.ticket] }
  | commit (view : LeaseView) (holder : Holder) (lease : LeaseHeld)
      (bytes : Nat) (isHeld : view.heldBy holder = some lease)
      (accepted : (lease.state.adopt bytes lease.ticket).accepted = true) :
      LeaseChange view
        { ledger := view.ledger.settle lease.index
            (lease.state.adopt bytes lease.ticket).next
          heldBy := update view.heldBy holder none
          events := view.events ++ [.committed lease.ticket] }
  | rollback (view : LeaseView) (holder : Holder) (lease : LeaseHeld)
      (isHeld : view.heldBy holder = some lease)
      (accepted : (lease.state.rollback 0 lease.ticket).accepted = true) :
      LeaseChange view
        { ledger := view.ledger.settle lease.index
            (lease.state.rollback 0 lease.ticket).next
          heldBy := update view.heldBy holder none
          events := view.events ++ [.rolledBack lease.ticket] }

/-! ## Changes keep the credit -/

variable {view next : LeaseView} {ledger : DirectSlotCapacityLeaseLedger}
  {lease : LeaseHeld} {holder : Holder}

theorem grantedTickets_append (front back : List LeaseEvent) :
    grantedTickets (front ++ back) =
      grantedTickets front ++ grantedTickets back := List.filterMap_append

theorem settledTickets_append (front back : List LeaseEvent) :
    settledTickets (front ++ back) =
      settledTickets front ++ settledTickets back := List.filterMap_append

/-- Nothing is held while nothing is staged. -/
theorem LeaseView.Ok.none_held (ok : view.Ok)
    (idle : view.ledger.stagedBytes = 0) (holder : Holder) :
    view.heldBy holder = none := by
  cases isHeld : view.heldBy holder with
  | none => rfl
  | some lease => exact absurd idle (ok.held holder lease isHeld).staged

theorem LeaseView.Ok.adjust (ok : view.Ok)
    (adjusts : Adjusts view.ledger ledger) :
    LeaseView.Ok { view with ledger := ledger } where
  ledger := adjusts.ok
  single := ok.single
  held := by
    intro holder lease isHeld
    exact nomatch (ok.none_held adjusts.idle holder).symm.trans isHeld
  charged := fun staged => absurd adjusts.stays staged
  settled := ok.settled
  outstanding := ok.outstanding
  ascending := ok.ascending
  issued := by
    intro ticket member
    dsimp only
    rw [adjusts.serial]
    exact ok.issued ticket member

variable {heldBy : Holder → Option LeaseHeld} {source target : Holder}

/-- A holder behind a move, and the one before it. -/
theorem moved_cases
    {holder : Holder} {lease : LeaseHeld}
    (isHeld : update (update heldBy target (heldBy source)) source none
      holder = some lease) :
    holder = target ∧ heldBy source = some lease ∨
      holder ≠ target ∧ holder ≠ source ∧ heldBy holder = some lease := by
  by_cases isSource : holder = source
  · subst isSource
    rw [update_self] at isHeld
    exact nomatch isHeld
  · rw [update_of_ne isSource] at isHeld
    by_cases isTarget : holder = target
    · subst isTarget
      rw [update_self] at isHeld
      exact Or.inl ⟨rfl, isHeld⟩
    · rw [update_of_ne isTarget] at isHeld
      exact Or.inr ⟨isTarget, isSource, isHeld⟩

theorem moved_held
    {holder : Holder} {lease : LeaseHeld}
    (vacant : heldBy target = none) (isHeld : heldBy holder = some lease) :
    ∃ other, update (update heldBy target (heldBy source)) source none
      other = some lease := by
  by_cases isSource : holder = source
  · subst isSource
    have different : target ≠ holder := by
      rintro rfl
      exact nomatch vacant.symm.trans isHeld
    refine ⟨target, ?_⟩
    rw [update_of_ne different, update_self]
    exact isHeld
  · have different : holder ≠ target := by
      rintro rfl
      exact nomatch vacant.symm.trans isHeld
    refine ⟨holder, ?_⟩
    rw [update_of_ne isSource, update_of_ne different]
    exact isHeld

theorem LeaseView.Ok.move (ok : view.Ok)
    (vacant : view.heldBy target = none) :
    LeaseView.Ok
      { view with
        heldBy := update (update view.heldBy target (view.heldBy source))
          source none } where
  ledger := ok.ledger
  single := by
    intro first second firstLease secondLease firstHeld secondHeld
    rcases moved_cases firstHeld with
      ⟨firstTarget, firstBefore⟩ | ⟨-, firstOther, firstBefore⟩
    · rcases moved_cases secondHeld with
        ⟨secondTarget, -⟩ | ⟨-, secondOther, secondBefore⟩
      · rw [firstTarget, secondTarget]
      · exact absurd (ok.single _ _ _ _ secondBefore firstBefore) secondOther
    · rcases moved_cases secondHeld with
        ⟨-, secondBefore⟩ | ⟨-, -, secondBefore⟩
      · exact absurd (ok.single _ _ _ _ firstBefore secondBefore) firstOther
      · exact ok.single _ _ _ _ firstBefore secondBefore
  held := by
    intro holder lease isHeld
    rcases moved_cases isHeld with ⟨-, isHeld⟩ | ⟨-, -, isHeld⟩
    · exact ok.held _ _ isHeld
    · exact ok.held _ _ isHeld
  charged := by
    intro staged
    obtain ⟨holder, lease, isHeld⟩ := ok.charged staged
    obtain ⟨other, held⟩ := moved_held vacant isHeld
    exact ⟨other, lease, held⟩
  settled := by
    intro none
    apply ok.settled
    intro holder
    cases isHeld : view.heldBy holder with
    | none => rfl
    | some lease =>
        obtain ⟨other, held⟩ := moved_held vacant isHeld
        exact nomatch (none other).symm.trans held
  outstanding := by
    intro holder lease isHeld
    rcases moved_cases isHeld with ⟨-, isHeld⟩ | ⟨-, -, isHeld⟩
    · exact ok.outstanding _ _ isHeld
    · exact ok.outstanding _ _ isHeld
  ascending := ok.ascending
  issued := ok.issued

theorem update_cases
    {holder other : Holder} {value : Option LeaseHeld} {lease : LeaseHeld}
    (isHeld : update heldBy holder value other = some lease) :
    other = holder ∧ value = some lease ∨
      other ≠ holder ∧ heldBy other = some lease := by
  by_cases same : other = holder
  · subst same
    rw [update_self] at isHeld
    exact Or.inl ⟨rfl, isHeld⟩
  · rw [update_of_ne same] at isHeld
    exact Or.inr ⟨same, isHeld⟩

theorem LeaseView.Ok.grant (ok : view.Ok)
    (grants : Grants view.ledger lease ledger) :
    LeaseView.Ok
      { ledger := ledger
        heldBy := update view.heldBy holder (some lease)
        events := view.events ++ [.granted lease.ticket] } := by
  have none := ok.none_held grants.idle
  have only : ∀ other otherLease,
      update view.heldBy holder (some lease) other = some otherLease →
        other = holder ∧ otherLease = lease := by
    intro other otherLease isHeld
    rcases update_cases isHeld with ⟨same, isLease⟩ | ⟨-, isHeld⟩
    · exact ⟨same, (Option.some.inj isLease).symm⟩
    · exact nomatch (none other).symm.trans isHeld
  have granted : grantedTickets (view.events ++ [.granted lease.ticket]) =
      grantedTickets view.events ++ [lease.ticket] :=
    grantedTickets_append _ _
  have settled : settledTickets (view.events ++ [.granted lease.ticket]) =
      settledTickets view.events := by
    rw [settledTickets_append]
    exact List.append_nil _
  constructor
  case ledger => exact grants.ok
  case single =>
    intro first second firstLease secondLease firstHeld secondHeld
    rw [(only _ _ firstHeld).1, (only _ _ secondHeld).1]
  case held =>
    intro other otherLease isHeld
    rw [(only _ _ isHeld).2]
    exact grants.held
  case charged =>
    intro _
    exact ⟨holder, lease, update_self _ _ _⟩
  case settled =>
    intro empty
    have here := empty holder
    dsimp only at here
    rw [update_self] at here
    exact nomatch here
  case outstanding =>
    intro other otherLease isHeld
    rw [(only _ _ isHeld).2]
    dsimp only
    rw [granted, settled, ok.settled none]
  case ascending =>
    dsimp only
    rw [granted, List.pairwise_append]
    refine ⟨ok.ascending, List.pairwise_singleton _ _, ?_⟩
    intro earlier member later isLater
    rw [List.mem_singleton.mp isLater, grants.serial]
    exact ok.issued earlier member grants.issues
  case issued =>
    intro ticket member issues
    dsimp only at member issues ⊢
    rw [grants.next] at issues ⊢
    split at issues
    · exact absurd rfl issues
    · rename_i last
      rw [if_neg last]
      rw [granted] at member
      rcases List.mem_append.mp member with older | newest
      · exact Nat.lt_succ_of_lt (ok.issued ticket older grants.issues)
      · rw [List.mem_singleton.mp newest, grants.serial]
        exact Nat.lt_succ_self _

theorem LeaseView.Ok.settle (ok : view.Ok)
    (isHeld : view.heldBy holder = some lease)
    (ledgerOk : LedgerOk ledger) (idle : ledger.stagedBytes = 0)
    (serial : ledger.nextTicketSerial = view.ledger.nextTicketSerial)
    {event : LeaseEvent} (settles : event.settledTicket = some lease.ticket)
    (grantsNone : event.grantedTicket = none) :
    LeaseView.Ok
      { ledger := ledger
        heldBy := update view.heldBy holder none
        events := view.events ++ [event] } := by
  have vacant : ∀ other, update view.heldBy holder none other = none := by
    intro other
    cases still : update view.heldBy holder none other with
    | none => rfl
    | some otherLease =>
        rcases update_cases still with ⟨-, isNone⟩ | ⟨different, otherHeld⟩
        · exact nomatch isNone
        · exact absurd (ok.single _ _ _ _ otherHeld isHeld) different
  have granted : grantedTickets (view.events ++ [event]) =
      grantedTickets view.events := by
    rw [grantedTickets_append]
    unfold grantedTickets
    rw [List.filterMap_cons_none grantsNone]
    exact List.append_nil _
  have settled : settledTickets (view.events ++ [event]) =
      settledTickets view.events ++ [lease.ticket] := by
    rw [settledTickets_append]
    unfold settledTickets
    rw [List.filterMap_cons_some settles]
    rfl
  constructor
  case ledger => exact ledgerOk
  case single =>
    intro first _ _ _ firstHeld
    exact nomatch (vacant first).symm.trans firstHeld
  case held =>
    intro other _ otherHeld
    exact nomatch (vacant other).symm.trans otherHeld
  case charged => exact fun staged => absurd idle staged
  case settled =>
    intro _
    dsimp only
    rw [granted, settled]
    exact ok.outstanding holder lease isHeld
  case outstanding =>
    intro other _ otherHeld
    exact nomatch (vacant other).symm.trans otherHeld
  case ascending =>
    dsimp only
    rw [granted]
    exact ok.ascending
  case issued =>
    dsimp only
    rw [granted, serial]
    exact ok.issued

theorem HeldOk.adopt (held : HeldOk ledger lease) (ok : LedgerOk ledger)
    {bytes : Nat}
    (accepted : (lease.state.adopt bytes lease.ticket).accepted = true) :
    LedgerOk (ledger.settle lease.index
        (lease.state.adopt bytes lease.ticket).next) ∧
      (lease.state.adopt bytes lease.ticket).next.stagedBytes = 0 ∧
      (lease.state.adopt bytes lease.ticket).next.nextTicketSerial =
        ledger.nextTicketSerial := by
  obtain ⟨within, -, credit, -, next⟩ := adopt_accepted accepted
  have total := retainedTotal_set held.inside
    { generation := nextDirectSlotCapacityGeneration
        (entryAt ledger.entries lease.index).generation
      retainedBytes := bytes }
  have retained := ok.retained
  have fits := held.fits
  rw [next]
  rw [held.state] at within credit ⊢
  dsimp only at within credit total ⊢
  refine ⟨⟨?_, ?_⟩, rfl, rfl⟩
  · unfold DirectSlotCapacityLeaseLedger.settle
    dsimp only
    omega
  · unfold DirectSlotCapacityLeaseLedger.settle
    dsimp only
    omega

/-- Rolling back leaves every entry as it was. -/
theorem HeldOk.rollback (held : HeldOk ledger lease)
    (accepted : (lease.state.rollback 0 lease.ticket).accepted = true) :
    ledger.settle lease.index
        (lease.state.rollback 0 lease.ticket).next =
      { ledger with stagedBytes := 0 } := by
  obtain ⟨-, next⟩ := rollback_accepted accepted
  rw [next, held.state]
  unfold DirectSlotCapacityLeaseLedger.settle
  dsimp only
  rw [set_entryAt]

theorem LeaseView.Ok.change (ok : view.Ok) (change : LeaseChange view next) :
    next.Ok := by
  cases change with
  | adjust ledger adjusts => exact ok.adjust adjusts
  | move source target vacant => exact ok.move vacant
  | grant holder lease ledger vacant grants => exact ok.grant grants
  | commit holder lease bytes isHeld accepted =>
      obtain ⟨ledgerOk, idle, serial⟩ :=
        (ok.held holder lease isHeld).adopt ok.ledger accepted
      exact ok.settle isHeld ledgerOk idle serial rfl rfl
  | rollback holder lease isHeld accepted =>
      rw [(ok.held holder lease isHeld).rollback accepted]
      exact @LeaseView.Ok.settle view { view.ledger with stagedBytes := 0 }
        lease holder ok isHeld ⟨ok.ledger.retained, ok.ledger.fits⟩ rfl rfl
        (.rolledBack lease.ticket) rfl rfl

theorem LeaseView.Ok.changes (ok : view.Ok)
    (changes : Relation.ReflTransGen LeaseChange view next) : next.Ok := by
  induction changes with
  | refl => exact ok
  | tail _ change induction => exact induction.change change

end Dxmt9.DirectSlot
