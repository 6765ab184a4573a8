import Mathlib.Logic.Function.Basic

/-!
# The post-encode completion ledger

A ring of receipts.  The sequence number of a source selects its slot, and the
generation of the slot tells the receipts of one slot apart.
-/

namespace Dxmt9.Completion

def maxUInt32 : Nat := 0xffffffff

def maxUInt64 : Nat := 0xffffffffffffffff

def kMaxPostEncodeCompletionReceipts : Nat := 1024

/-- The identity of one strict publication group. -/
structure ArenaGroupIdentity where
  rawOrdinal : Nat := 0
  buildGeneration : Nat := 0
  firstSourceOrdinal : Nat := 0
  tailSeqId : Nat := 0
  sourceCount : Nat := 0
  hasPresent : Bool := false
deriving DecidableEq

def ArenaGroupIdentity.valid (group : ArenaGroupIdentity) : Bool :=
  group.rawOrdinal != 0 && group.buildGeneration != 0 &&
    group.firstSourceOrdinal != 0 && group.tailSeqId != 0 &&
    group.sourceCount != 0

structure PostEncodeCompletionReceipt where
  seqId : Nat := 0
  generation : Nat := 0
  slot : Nat := maxUInt32
deriving DecidableEq

def PostEncodeCompletionReceipt.valid
    (receipt : PostEncodeCompletionReceipt) : Bool :=
  receipt.seqId != 0 && receipt.generation != 0 &&
    receipt.slot != maxUInt32

inductive PostEncodeReceiptState where
  | free
  | active
  | submitted
  | completed
deriving DecidableEq

inductive PostEncodeReceiptResult where
  | succeeded
  | invalid
  | duplicate
  | capacity
  | stale
  | wrongState
deriving DecidableEq

structure Entry where
  seqId : Nat := 0
  generation : Nat := 0
  state : PostEncodeReceiptState := .free
  hasPresent : Bool := false
  group : Option ArenaGroupIdentity := none
deriving DecidableEq

def Entry.busy (entry : Entry) : Bool := entry.state != .free

structure PostEncodeCompletionLedger where
  entries : Nat → Entry := fun _ => {}
  depth : Nat := 0
  peak : Nat := 0

structure Activation where
  result : PostEncodeReceiptResult := .invalid
  receipt : PostEncodeCompletionReceipt := {}
deriving DecidableEq

/-- Zero is the generation of a slot that was never used. -/
def nextGeneration (generation : Nat) : Nat :=
  if generation = maxUInt64 then 1 else generation + 1

namespace PostEncodeCompletionLedger

def slotOf (seqId : Nat) : Nat := seqId % kMaxPostEncodeCompletionReceipts

theorem slotOf_lt (seqId : Nat) :
    slotOf seqId < kMaxPostEncodeCompletionReceipts :=
  Nat.mod_lt _ (Nat.succ_pos _)

/-- A group of one source, which is this one. -/
def groupMatches (seqId : Nat) (hasPresent : Bool)
    (group : ArenaGroupIdentity) : Bool :=
  group.valid && group.sourceCount == 1 && group.tailSeqId == seqId &&
    group.hasPresent == hasPresent

def setEntry (ledger : PostEncodeCompletionLedger) (slot : Nat)
    (entry : Entry) : PostEncodeCompletionLedger :=
  { ledger with entries := Function.update ledger.entries slot entry }

def activate (ledger : PostEncodeCompletionLedger) (seqId : Nat)
    (hasPresent : Bool) (group : Option ArenaGroupIdentity) :
    PostEncodeCompletionLedger × Activation :=
  if seqId = 0 ∨ group.any (fun group =>
      !groupMatches seqId hasPresent group) = true then (ledger, {})
  else
    let slot := slotOf seqId
    let entry := ledger.entries slot
    if entry.state ≠ .free then
      (ledger,
        { result := if entry.seqId = seqId then .duplicate else .capacity })
    else
      let generation := if entry.generation = 0 then 1 else entry.generation
      let depth := ledger.depth + 1
      ({ ledger.setEntry slot
          { seqId := seqId
            generation := generation
            state := .active
            hasPresent := hasPresent
            group := group } with
          depth := depth
          peak := max ledger.peak depth },
        { result := .succeeded
          receipt :=
            { seqId := seqId, generation := generation, slot := slot } })

def resolve (ledger : PostEncodeCompletionLedger)
    (receipt : PostEncodeCompletionReceipt) : Option Entry :=
  let entry := ledger.entries receipt.slot
  if receipt.valid = true ∧
      receipt.slot < kMaxPostEncodeCompletionReceipts ∧
      entry.seqId = receipt.seqId ∧
      entry.generation = receipt.generation then some entry
  else none

def releasedEntry (entry : Entry) : Entry :=
  { generation := nextGeneration entry.generation }

def release (ledger : PostEncodeCompletionLedger) (slot : Nat) :
    PostEncodeCompletionLedger :=
  { ledger.setEntry slot (releasedEntry (ledger.entries slot)) with
    depth := ledger.depth - 1 }

def cancelBeforeActivationEffects (ledger : PostEncodeCompletionLedger)
    (receipt : PostEncodeCompletionReceipt) :
    PostEncodeCompletionLedger × PostEncodeReceiptResult :=
  match ledger.resolve receipt with
  | none => (ledger, .stale)
  | some entry =>
      if entry.state ≠ .active then (ledger, .wrongState)
      else (ledger.release receipt.slot, .succeeded)

def markSubmitted (ledger : PostEncodeCompletionLedger)
    (receipt : PostEncodeCompletionReceipt) (hasPresent : Bool) :
    PostEncodeCompletionLedger × PostEncodeReceiptResult :=
  match ledger.resolve receipt with
  | none => (ledger, .stale)
  | some entry =>
      if entry.state ≠ .active ∨ entry.hasPresent ≠ hasPresent then
        (ledger, .wrongState)
      else
        (ledger.setEntry receipt.slot { entry with state := .submitted },
          .succeeded)

def markCompleted (ledger : PostEncodeCompletionLedger)
    (receipt : PostEncodeCompletionReceipt) (hasPresent : Bool) :
    PostEncodeCompletionLedger × PostEncodeReceiptResult :=
  match ledger.resolve receipt with
  | none => (ledger, .stale)
  | some entry =>
      if entry.state ≠ .submitted ∨ entry.hasPresent ≠ hasPresent then
        (ledger, .wrongState)
      else
        (ledger.setEntry receipt.slot { entry with state := .completed },
          .succeeded)

/-- The one call that names a source and not a receipt. -/
def finishAndRelease (ledger : PostEncodeCompletionLedger) (seqId : Nat) :
    PostEncodeCompletionLedger × PostEncodeReceiptResult :=
  if seqId = 0 then (ledger, .invalid)
  else
    let entry := ledger.entries (slotOf seqId)
    if entry.seqId ≠ seqId then (ledger, .stale)
    else if entry.state ≠ .completed ∨ entry.group.isSome = true then
      (ledger, .wrongState)
    else (ledger.release (slotOf seqId), .succeeded)

def takeCompletedArenaGroup (ledger : PostEncodeCompletionLedger)
    (receipt : PostEncodeCompletionReceipt) :
    PostEncodeCompletionLedger × Option ArenaGroupIdentity :=
  match ledger.resolve receipt with
  | none => (ledger, none)
  | some entry =>
      if entry.state ≠ .completed then (ledger, none)
      else
        (ledger.setEntry receipt.slot { entry with group := none },
          entry.group)

/-- The receipt of the source that a slot holds. -/
def receiptAt (ledger : PostEncodeCompletionLedger) (slot : Nat) :
    PostEncodeCompletionReceipt :=
  { seqId := (ledger.entries slot).seqId
    generation := (ledger.entries slot).generation
    slot := slot }

def receiptFor (ledger : PostEncodeCompletionLedger) (seqId : Nat)
    (state : PostEncodeReceiptState) :
    Option PostEncodeCompletionReceipt :=
  if seqId = 0 then none
  else
    let slot := slotOf seqId
    let entry := ledger.entries slot
    if entry.seqId ≠ seqId ∨ entry.state ≠ state then none
    else some (ledger.receiptAt slot)

end PostEncodeCompletionLedger

inductive LedgerCall where
  | activate (seqId : Nat) (hasPresent : Bool)
      (group : Option ArenaGroupIdentity)
  | cancel (receipt : PostEncodeCompletionReceipt)
  | markSubmitted (receipt : PostEncodeCompletionReceipt)
      (hasPresent : Bool)
  | markCompleted (receipt : PostEncodeCompletionReceipt)
      (hasPresent : Bool)
  | takeCompletedArenaGroup (receipt : PostEncodeCompletionReceipt)
  | finishAndRelease (seqId : Nat)
deriving DecidableEq

/-- The receipt that a call is made with. -/
def LedgerCall.receipt : LedgerCall → Option PostEncodeCompletionReceipt
  | .activate .. => none
  | .cancel receipt => some receipt
  | .markSubmitted receipt _ => some receipt
  | .markCompleted receipt _ => some receipt
  | .takeCompletedArenaGroup receipt => some receipt
  | .finishAndRelease _ => none

/-- What happens to an activation. -/
inductive ReceiptEvent where
  | activated (group : Option ArenaGroupIdentity)
  | cancelled
  | submitted
  | completed
  | taken (group : ArenaGroupIdentity)
  | released
deriving DecidableEq

structure LedgerEvent where
  receipt : PostEncodeCompletionReceipt
  event : ReceiptEvent
deriving DecidableEq

/-- The event of a call that succeeds. -/
def eventIf (result : PostEncodeReceiptResult)
    (receipt : PostEncodeCompletionReceipt) (event : ReceiptEvent) :
    Option LedgerEvent :=
  if result = .succeeded then some { receipt := receipt, event := event }
  else none

/-- The ledger after a call, and what the call has done to which
activation; a rejected call has done nothing. -/
def perform (ledger : PostEncodeCompletionLedger) :
    LedgerCall → PostEncodeCompletionLedger × Option LedgerEvent
  | .activate seqId hasPresent group =>
      let done := ledger.activate seqId hasPresent group
      (done.1, eventIf done.2.result done.2.receipt (.activated group))
  | .cancel receipt =>
      let done := ledger.cancelBeforeActivationEffects receipt
      (done.1, eventIf done.2 receipt .cancelled)
  | .markSubmitted receipt hasPresent =>
      let done := ledger.markSubmitted receipt hasPresent
      (done.1, eventIf done.2 receipt .submitted)
  | .markCompleted receipt hasPresent =>
      let done := ledger.markCompleted receipt hasPresent
      (done.1, eventIf done.2 receipt .completed)
  | .takeCompletedArenaGroup receipt =>
      let done := ledger.takeCompletedArenaGroup receipt
      (done.1, done.2.map fun group =>
        { receipt := receipt, event := .taken group })
  | .finishAndRelease seqId =>
      let done := ledger.finishAndRelease seqId
      (done.1, eventIf done.2
        (ledger.receiptAt (PostEncodeCompletionLedger.slotOf seqId))
        .released)

end Dxmt9.Completion
