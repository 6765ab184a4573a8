import Mathlib.Algebra.Ring.Nat
import Mathlib.Algebra.BigOperators.Group.List.Basic

/-!
# Capacity leases of direct slots

The physical payloads that direct replay writes into retain storage.  A ledger
holds what each of them retains; new capacity is staged against it, and is
either adopted or rolled back with the ticket of its stage.
-/

namespace Dxmt9.DirectSlot

def maxUInt64 : Nat := 0xffffffffffffffff

structure DirectSlotCapacityLeaseEntry where
  generation : Nat := 0
  retainedBytes : Nat := 0
deriving DecidableEq

/-- Settles one stage: the serial tells it from an earlier stage of the same
generation. -/
structure DirectSlotCapacityLeaseTicket where
  generation : Nat := 0
  serial : Nat := 0
deriving DecidableEq

def DirectSlotCapacityLeaseTicket.valid
    (ticket : DirectSlotCapacityLeaseTicket) : Bool :=
  ticket.generation != 0 && ticket.serial != 0

structure DirectSlotCapacityLeaseState where
  limitBytes : Nat := 0
  retainedBytes : Nat := 0
  stagedBytes : Nat := 0
  nextTicketSerial : Nat := 1
  entry : DirectSlotCapacityLeaseEntry := {}
  stagedTicket : DirectSlotCapacityLeaseTicket := {}
deriving DecidableEq

inductive DirectSlotCapacityLeaseEvent where
  | observe
  | stage
  | adopt
  | rollback
  | stageExact
deriving DecidableEq

structure DirectSlotCapacityLeaseTransition where
  next : DirectSlotCapacityLeaseState := {}
  accepted : Bool := false
  ticket : DirectSlotCapacityLeaseTicket := {}
deriving DecidableEq

def nextDirectSlotCapacityGeneration (generation : Nat) : Nat :=
  if generation = maxUInt64 then 0 else generation + 1

/-- A sum that does not wrap. -/
def add (left right : Nat) : Option Nat :=
  if maxUInt64 - left < right then none else some (left + right)

namespace DirectSlotCapacityLeaseState

def reject (state : DirectSlotCapacityLeaseState) :
    DirectSlotCapacityLeaseTransition :=
  { next := state }

/-- Binds the retained credit to what the payload really retains. -/
def observe (state : DirectSlotCapacityLeaseState) (bytes : Nat) :
    DirectSlotCapacityLeaseTransition :=
  if state.stagedBytes ≠ 0 ∨
      state.retainedBytes < state.entry.retainedBytes then state.reject
  else
    match add (state.retainedBytes - state.entry.retainedBytes) bytes with
    | none => state.reject
    | some retained =>
        if state.limitBytes ≠ 0 ∧ state.limitBytes < retained then
          state.reject
        else
          let advances := state.entry.generation = 0 ∨
            state.entry.retainedBytes ≠ bytes
          let generation := nextDirectSlotCapacityGeneration
            state.entry.generation
          if advances ∧ generation = 0 then state.reject
          else
            { next :=
                { state with
                  entry :=
                    { generation :=
                        if advances then generation
                        else state.entry.generation
                      retainedBytes := bytes }
                  retainedBytes := retained }
              accepted := true }

/-- Charges new capacity and keeps the old one; an optional stage keeps to
the limit. -/
def stage (state : DirectSlotCapacityLeaseState) (optional : Bool)
    (bytes : Nat) (ticket : DirectSlotCapacityLeaseTicket) :
    DirectSlotCapacityLeaseTransition :=
  let transient := add state.retainedBytes bytes
  if bytes = 0 ∨ state.limitBytes = 0 ∨ state.stagedBytes ≠ 0 ∨
      ticket.valid ∨ state.entry.generation = 0 ∨
      state.nextTicketSerial = 0 ∨ transient = none ∨
      optional ∧ transient.any (state.limitBytes < ·) then state.reject
  else
    let staged : DirectSlotCapacityLeaseTicket :=
      { generation := state.entry.generation
        serial := state.nextTicketSerial }
    { next :=
        { state with
          stagedBytes := bytes
          stagedTicket := staged
          nextTicketSerial :=
            if state.nextTicketSerial = maxUInt64 then 0
            else state.nextTicketSerial + 1 }
      accepted := true
      ticket := staged }

/-- Whether a ticket may settle the stage. -/
def settles (state : DirectSlotCapacityLeaseState)
    (ticket : DirectSlotCapacityLeaseTicket) : Bool :=
  ticket.valid && ticket == state.stagedTicket &&
    ticket.generation == state.entry.generation

/-- Replaces the old capacity by the staged one. -/
def adopt (state : DirectSlotCapacityLeaseState) (bytes : Nat)
    (ticket : DirectSlotCapacityLeaseTicket) :
    DirectSlotCapacityLeaseTransition :=
  if state.stagedBytes = 0 ∨ bytes = 0 ∨ state.stagedBytes < bytes ∨
      state.retainedBytes < state.entry.retainedBytes ∨
      state.settles ticket = false then state.reject
  else
    match add (state.retainedBytes - state.entry.retainedBytes) bytes with
    | none => state.reject
    | some retained =>
        let generation := nextDirectSlotCapacityGeneration
          state.entry.generation
        if generation = 0 then state.reject
        else
          { next :=
              { state with
                entry := { generation := generation, retainedBytes := bytes }
                retainedBytes := retained
                stagedBytes := 0
                stagedTicket := {} }
            accepted := true }

/-- Releases only the staged credit. -/
def rollback (state : DirectSlotCapacityLeaseState) (bytes : Nat)
    (ticket : DirectSlotCapacityLeaseTicket) :
    DirectSlotCapacityLeaseTransition :=
  if bytes ≠ 0 ∨ state.stagedBytes = 0 ∨ state.settles ticket = false then
    state.reject
  else
    { next := { state with stagedBytes := 0, stagedTicket := {} }
      accepted := true }

end DirectSlotCapacityLeaseState

def reduceDirectSlotCapacityLease (state : DirectSlotCapacityLeaseState)
    (bytes : Nat) (ticket : DirectSlotCapacityLeaseTicket) :
    DirectSlotCapacityLeaseEvent → DirectSlotCapacityLeaseTransition
  | .observe => state.observe bytes
  | .stage => state.stage true bytes ticket
  | .stageExact => state.stage false bytes ticket
  | .adopt => state.adopt bytes ticket
  | .rollback => state.rollback bytes ticket

/-! ## The ledger -/

def kDirectSlotCapacityPayloadCount : Nat := 64

/-- What every physical payload retains, and what is staged. -/
structure DirectSlotCapacityLeaseLedger where
  entries : List DirectSlotCapacityLeaseEntry :=
    List.replicate kDirectSlotCapacityPayloadCount {}
  limitBytes : Nat := 0
  retainedBytes : Nat := 0
  stagedBytes : Nat := 0
  nextTicketSerial : Nat := 1
deriving DecidableEq

def entryAt (entries : List DirectSlotCapacityLeaseEntry) (index : Nat) :
    DirectSlotCapacityLeaseEntry :=
  entries.getD index {}

/-- The retained bytes of all entries. -/
def retainedTotal (entries : List DirectSlotCapacityLeaseEntry) : Nat :=
  (entries.map (·.retainedBytes)).sum

structure DirectSlotCapacityLeaseReconciliation where
  state : DirectSlotCapacityLeaseState := {}
  entries : List DirectSlotCapacityLeaseEntry := []
  accepted : Bool := false
  observed : Bool := false
  generationAdvanced : Bool := false
deriving DecidableEq

/-- Observes the payload of one index. -/
def observePayload (actualRetainedBytes : List Nat)
    (result : DirectSlotCapacityLeaseReconciliation) (index : Nat) :
    DirectSlotCapacityLeaseReconciliation × Bool :=
  let state := { result.state with entry := entryAt result.entries index }
  let observed := reduceDirectSlotCapacityLease state
    (actualRetainedBytes.getD index 0) {} .observe
  if observed.accepted then
    ({ result with
        state := observed.next
        entries := result.entries.set index observed.next.entry
        generationAdvanced := result.generationAdvanced ||
          observed.next.entry.generation != state.entry.generation }, true)
  else ({ result with state := state }, false)

/-- Observes payloads one after another, and stops at one that cannot be. -/
def observePayloads (actualRetainedBytes : List Nat) :
    DirectSlotCapacityLeaseReconciliation → List Nat →
      DirectSlotCapacityLeaseReconciliation × Bool
  | result, [] => (result, true)
  | result, index :: rest =>
      let next := observePayload actualRetainedBytes result index
      if next.2 then observePayloads actualRetainedBytes next.1 rest
      else next

/-- The sum of the entries, up to one that would make it wrap. -/
def sumEntries : Nat → List DirectSlotCapacityLeaseEntry → Nat × Bool
  | total, [] => (total, true)
  | total, entry :: rest =>
      match add total entry.retainedBytes with
      | none => (total, false)
      | some next => sumEntries next rest

/-- The reconciliation that looks at the payloads in an order.  The limit is
left out while they are looked at. -/
def reconcileInOrder (order : List Nat)
    (entries : List DirectSlotCapacityLeaseEntry)
    (actualRetainedBytes : List Nat)
    (currentIndex limitBytes nextTicketSerial : Nat) :
    DirectSlotCapacityLeaseReconciliation :=
  if entries.length ≤ currentIndex ∨ limitBytes = 0 ∨
      nextTicketSerial = 0 then { entries := entries }
  else
    let total := sumEntries 0 entries
    let started : DirectSlotCapacityLeaseReconciliation :=
      { state :=
          { retainedBytes := total.1, nextTicketSerial := nextTicketSerial }
        entries := entries }
    if total.2 = false then started
    else
      let observed := observePayloads actualRetainedBytes started order
      if observed.2 = false then observed.1
      else
        { observed.1 with
          state :=
            { observed.1.state with
              entry := entryAt observed.1.entries currentIndex
              limitBytes := limitBytes }
          observed := true
          accepted := decide (observed.1.state.retainedBytes ≤ limitBytes) }

/-- The reconciliation looks at the payloads by index. -/
def reconcileDirectSlotCapacityLease
    (entries : List DirectSlotCapacityLeaseEntry)
    (actualRetainedBytes : List Nat)
    (currentIndex limitBytes nextTicketSerial : Nat) :
    DirectSlotCapacityLeaseReconciliation :=
  reconcileInOrder (List.range entries.length) entries actualRetainedBytes
    currentIndex limitBytes nextTicketSerial

/-- The ledger behind a reconciliation; one that could not look at every
payload changes nothing. -/
def DirectSlotCapacityLeaseLedger.reconciled
    (ledger : DirectSlotCapacityLeaseLedger) (order : List Nat)
    (actualRetainedBytes : List Nat) (currentIndex limitBytes : Nat) :
    DirectSlotCapacityLeaseLedger :=
  let reconciliation := reconcileInOrder order ledger.entries
    actualRetainedBytes currentIndex limitBytes ledger.nextTicketSerial
  if reconciliation.observed = false then ledger
  else
    { entries := reconciliation.entries.set currentIndex
        reconciliation.state.entry
      limitBytes := reconciliation.state.limitBytes
      retainedBytes := reconciliation.state.retainedBytes
      stagedBytes := reconciliation.state.stagedBytes
      nextTicketSerial := reconciliation.state.nextTicketSerial }

end Dxmt9.DirectSlot
