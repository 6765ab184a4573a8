import Mathlib.Algebra.Ring.Nat
import Mathlib.Logic.Function.Basic

/-!
# The ledger of replay drains

The ledger numbers what the replay queue adopts.  For each target it keeps the
highest number that was queued and the highest that was replayed; a reader of
the target has caught up when the second has reached the first.
-/

namespace Dxmt9.ReplayOffload

structure ReplayDrainTarget where
  lastQueuedSeq : Nat := 0
  lastReplayedSeq : Nat := 0
deriving DecidableEq

inductive ReplayDrainResult where
  | caughtUp
  | stopped
  | poisoned
deriving DecidableEq

inductive ReplayTerminalState where
  | running
  | stopped
  | failed
deriving DecidableEq

inductive ReplayReceiptState where
  | pending
  | ready
  | superseded
  | failed
deriving DecidableEq

/-- Targets are named by the addresses of their wrappers. -/
abbrev TargetId := Nat

structure ReplayDrainReceipt where
  target : Option TargetId := none
  capturedSequence : Nat := 0
deriving DecidableEq

/-- A canonical chunk, with what the queue and the ledger read of it. -/
structure RawCommandChunk where
  recordBytes : UInt32 := 0
  ledgerTargets : List (Option TargetId) := []
  replaySeq : Nat := 0
  nextQueuedRawOrdinalHint : Nat := 0
  cpuReadyTapePlanningEnabled : Bool := false
deriving DecidableEq

structure BufferMutationTask where
  ledgerTarget : Option TargetId := none
  replaySeq : Nat := 0
deriving DecidableEq

structure StateBlockApplyTask where
  replaySeq : Nat := 0
deriving DecidableEq

/-! ## The ledger -/

structure ReplayDrainLedger where
  nextSeq : Nat := 1
  accepting : Bool := true
  stopping : Bool := false
  poisoned : Bool := false
  terminalState : ReplayTerminalState := .running
  targets : TargetId → ReplayDrainTarget := fun _ => {}

/-- A receipt fixes the sequence it was captured at: a newer admission
supersedes it. -/
def classifyReplayReceipt (captured admitted replayed : Nat)
    (terminal : Bool) : ReplayReceiptState :=
  if terminal = true ∨ admitted < captured ∨ admitted < replayed then .failed
  else if captured ≠ admitted then .superseded
  else if captured ≤ replayed then .ready
  else .pending

namespace ReplayDrainLedger

def terminal (ledger : ReplayDrainLedger) : Bool :=
  ledger.terminalState != .running

/-- What a push or a reservation asks of the ledger. -/
def admits (ledger : ReplayDrainLedger) : Bool :=
  ledger.accepting && !ledger.terminal

def updateTarget (ledger : ReplayDrainLedger)
    (update : ReplayDrainTarget → ReplayDrainTarget) :
    Option TargetId → ReplayDrainLedger
  | none => ledger
  | some target =>
      { ledger with
        targets := Function.update ledger.targets target
          (update (ledger.targets target)) }

/-- A chunk takes the next number, which is higher than all before it. -/
def publishAcceptedLocked (ledger : ReplayDrainLedger)
    (chunk : RawCommandChunk) : ReplayDrainLedger × RawCommandChunk :=
  let seq := ledger.nextSeq
  (chunk.ledgerTargets.foldl
      (fun current => current.updateTarget fun target =>
        { target with lastQueuedSeq := seq })
      { ledger with nextSeq := seq + 1 },
    { chunk with replaySeq := seq })

/-- The number of a mutation is that of its reservation, which later chunks
may have overtaken. -/
def publishMutationAcceptedLocked (ledger : ReplayDrainLedger)
    (task : BufferMutationTask) : ReplayDrainLedger :=
  ledger.updateTarget
    (fun target =>
      { target with lastQueuedSeq := max target.lastQueuedSeq task.replaySeq })
    task.ledgerTarget

def publishStateBlockApplyAcceptedLocked (ledger : ReplayDrainLedger)
    (task : StateBlockApplyTask) :
    ReplayDrainLedger × StateBlockApplyTask :=
  ({ ledger with nextSeq := ledger.nextSeq + 1 },
    { task with replaySeq := ledger.nextSeq })

def replayedThrough (seq : Nat) (target : ReplayDrainTarget) :
    ReplayDrainTarget :=
  { target with lastReplayedSeq := max target.lastReplayedSeq seq }

def publishMutationReplayed (ledger : ReplayDrainLedger)
    (task : BufferMutationTask) : ReplayDrainLedger :=
  ledger.updateTarget (replayedThrough task.replaySeq) task.ledgerTarget

def publishReplayed (ledger : ReplayDrainLedger)
    (chunk : RawCommandChunk) : ReplayDrainLedger :=
  chunk.ledgerTargets.foldl
    (fun current => current.updateTarget (replayedThrough chunk.replaySeq))
    ledger

def pending (ledger : ReplayDrainLedger) (target : TargetId) : Bool :=
  (ledger.targets target).lastReplayedSeq <
    (ledger.targets target).lastQueuedSeq

/-- What a wait returns in this state; without a result it goes on waiting. -/
def wait (ledger : ReplayDrainLedger) (target : TargetId) :
    Option ReplayDrainResult :=
  if ledger.poisoned then some .poisoned
  else if ledger.stopping then some .stopped
  else if ledger.pending target then none
  else some .caughtUp

def captureReceipt (ledger : ReplayDrainLedger)
    (target : Option TargetId) : ReplayDrainReceipt :=
  match target with
  | none => {}
  | some named =>
      { target := some named
        capturedSequence := (ledger.targets named).lastQueuedSeq }

def classifyReceiptLocked (ledger : ReplayDrainLedger)
    (receipt : ReplayDrainReceipt) : ReplayReceiptState :=
  match receipt.target with
  | none => .failed
  | some target =>
      classifyReplayReceipt receipt.capturedSequence
        (ledger.targets target).lastQueuedSeq
        (ledger.targets target).lastReplayedSeq ledger.terminal

/-! ### Terminal states

The terminal state is stored outside the mutex, before the flags that the
waits read: each of the two stores is a step of its own. -/

/-- The first store of a stop; it leaves a failure alone. -/
def markStopped (ledger : ReplayDrainLedger) : ReplayDrainLedger :=
  if ledger.terminalState = .running then
    { ledger with terminalState := .stopped }
  else ledger

def latchStopped (ledger : ReplayDrainLedger) : ReplayDrainLedger :=
  { ledger with accepting := false, stopping := true }

def stop (ledger : ReplayDrainLedger) : ReplayDrainLedger :=
  ledger.markStopped.latchStopped

def publishFailure (ledger : ReplayDrainLedger) : ReplayDrainLedger :=
  { ledger with terminalState := .failed }

def latchPoisoned (ledger : ReplayDrainLedger) : ReplayDrainLedger :=
  { ledger with accepting := false, poisoned := true }

def poison (ledger : ReplayDrainLedger) : ReplayDrainLedger :=
  ledger.publishFailure.latchPoisoned

end ReplayDrainLedger

end Dxmt9.ReplayOffload

/-!
## The replay offload queue

A FIFO of chunks, state block applies and buffer mutations.  A mutation is
reserved first: its place holder stands in the queue, charged and numbered,
until the reservation is committed or released.
-/

namespace Dxmt9.ReplayOffload

/-- What an element of the queue holds. -/
inductive ReplayQueuePayload where
  | placeholder (reservationId : Nat)
  | mutation (task : BufferMutationTask)
  | stateBlockApply (task : StateBlockApplyTask)
  | chunk (chunk : RawCommandChunk)
deriving DecidableEq

structure ReplayQueueItem where
  payload : ReplayQueuePayload
  chargedBytes : UInt64 := 0
deriving DecidableEq

namespace ReplayQueueItem

def placeholder (item : ReplayQueueItem) : Bool :=
  match item.payload with
  | .placeholder _ => true
  | _ => false

def reservationId (item : ReplayQueueItem) : Nat :=
  match item.payload with
  | .placeholder id => id
  | _ => 0

end ReplayQueueItem

structure ReplayQueueMutationReservation where
  id : Nat := 0
  replaySeq : Nat := 0
deriving DecidableEq

def ReplayQueueMutationReservation.valid
    (reservation : ReplayQueueMutationReservation) : Bool :=
  reservation.id != 0

inductive ReplayQueuePushDisposition where
  | accepted
  | rejectedPreEffect
  | effectUnknown
deriving DecidableEq

inductive ReplayQueueFailurePoint where
  | none
  | beforeAdoption
  | afterAdoption
deriving DecidableEq

structure ReplayOffloadQueue where
  maxChunks : UInt64
  maxBytes : UInt64
  queue : List ReplayQueueItem := []
  nextReservationId : Nat := 1
  queuedBytes : UInt64 := 0
  inFlight : Bool := false
  stopped : Bool := false
  testOnlyFailurePoint : ReplayQueueFailurePoint := .none

/-- The queue and the ledger after a push, with what the caller still owns. -/
structure PushResult (ε : Type) where
  queue : ReplayOffloadQueue
  ledger : ReplayDrainLedger
  caller : Option ε
  disposition : ReplayQueuePushDisposition

namespace ReplayOffloadQueue

def sizeRoom (queue : ReplayOffloadQueue) : Bool :=
  queue.queue.length < queue.maxChunks.toNat

/-- A charge above the byte bound is still admitted to an empty queue. -/
def admissible (queue : ReplayOffloadQueue) (bytes : UInt64) : Bool :=
  queue.stopped || (queue.sizeRoom &&
    (queue.queue.isEmpty || queue.queuedBytes + bytes ≤ queue.maxBytes))

/-- An element at the end of the queue, with its charge. -/
def adopt (queue : ReplayOffloadQueue) (item : ReplayQueueItem) :
    ReplayOffloadQueue :=
  { queue with
    queue := queue.queue ++ [item]
    queuedBytes := queue.queuedBytes + item.chargedBytes }

/-- What is left to do once an element is adopted. -/
def settleAdoption (queue : ReplayOffloadQueue) :
    ReplayOffloadQueue × ReplayQueuePushDisposition :=
  if queue.testOnlyFailurePoint = .afterAdoption then
    ({ queue with testOnlyFailurePoint := .none, stopped := true },
      .effectUnknown)
  else (queue, .accepted)

variable {ε : Type}

/-- A rejected push leaves its caller what it brought. -/
def reject (queue : ReplayOffloadQueue) (ledger : ReplayDrainLedger)
    (caller : Option ε) : PushResult ε :=
  { queue := queue
    ledger := ledger
    caller := caller
    disposition := .rejectedPreEffect }

def accept (queue : ReplayOffloadQueue) (ledger : ReplayDrainLedger) :
    PushResult ε :=
  let settled := queue.settleAdoption
  { queue := settled.1
    ledger := ledger
    caller := none
    disposition := settled.2 }

/-- Without a result the producer waits for space.  `tracked` says whether
the push names the ledger, `allocates` whether the queue can grow. -/
def pushWithDisposition (queue : ReplayOffloadQueue)
    (ledger : ReplayDrainLedger) (chunk : RawCommandChunk)
    (tracked allocates : Bool) : Option (PushResult RawCommandChunk) :=
  let charged : UInt64 := chunk.recordBytes.toUInt64
  if queue.admissible charged = false then none
  else if queue.stopped then some (queue.reject ledger (some chunk))
  else if queue.testOnlyFailurePoint = .beforeAdoption then
    some ({ queue with testOnlyFailurePoint := .none }.reject ledger
      (some chunk))
  else if tracked = true then
    if ledger.admits = false then some (queue.reject ledger (some chunk))
    else if allocates = false then
      some (queue.reject ledger (some chunk))
    else
      let published := ledger.publishAcceptedLocked chunk
      some ((queue.adopt ⟨.chunk published.2, charged⟩).accept published.1)
  else if allocates = false then some (queue.reject ledger (some chunk))
  else some ((queue.adopt ⟨.chunk chunk, charged⟩).accept ledger)

/-- A state block apply is not charged. -/
def pushStateBlockApply (queue : ReplayOffloadQueue)
    (ledger : ReplayDrainLedger) (task : Option StateBlockApplyTask)
    (tracked allocates : Bool) : Option (PushResult StateBlockApplyTask) :=
  match task with
  | none => some (queue.reject ledger none)
  | some apply =>
      if (queue.stopped || queue.sizeRoom) = false then none
      else if queue.stopped then some (queue.reject ledger (some apply))
      else if queue.testOnlyFailurePoint = .beforeAdoption then
        some ({ queue with testOnlyFailurePoint := .none }.reject ledger
          (some apply))
      else if tracked = true then
        if ledger.admits = false then some (queue.reject ledger (some apply))
        else if allocates = false then
          some (queue.reject ledger (some apply))
        else
          let published := ledger.publishStateBlockApplyAcceptedLocked apply
          some ((queue.adopt ⟨.stateBlockApply published.2, 0⟩).accept
            published.1)
      else if allocates = false then some (queue.reject ledger (some apply))
      else some ((queue.adopt ⟨.stateBlockApply apply, 0⟩).accept ledger)

/-- An invalid reservation rejects; without a result the producer waits. -/
def reserveMutation (queue : ReplayOffloadQueue)
    (ledger : ReplayDrainLedger) (bytes : UInt64) (allocates : Bool) :
    Option (ReplayOffloadQueue × ReplayDrainLedger ×
      ReplayQueueMutationReservation) :=
  if queue.admissible bytes = false then none
  else if queue.stopped then some (queue, ledger, {})
  else if ledger.admits = false then some (queue, ledger, {})
  else if allocates = false then some (queue, ledger, {})
  else
    some ({ queue.adopt ⟨.placeholder queue.nextReservationId, bytes⟩ with
          nextReservationId := queue.nextReservationId + 1 },
      { ledger with nextSeq := ledger.nextSeq + 1 },
      { id := queue.nextReservationId, replaySeq := ledger.nextSeq })

/-- The first element that holds the place of a reservation is filled. -/
def fillReservation (id : Nat) (task : BufferMutationTask) :
    List ReplayQueueItem → Option (List ReplayQueueItem)
  | [] => none
  | item :: rest =>
      if item.reservationId = id then
        some ({ item with payload := .mutation task } :: rest)
      else (fillReservation id task rest).map (item :: ·)

/-- The first element that holds the place of a reservation, and the queue
without it. -/
def eraseReservation (id : Nat) :
    List ReplayQueueItem → Option (ReplayQueueItem × List ReplayQueueItem)
  | [] => none
  | item :: rest =>
      if item.reservationId = id then some (item, rest)
      else (eraseReservation id rest).map fun erased =>
        (erased.1, item :: erased.2)

/-- A reservation that is gone drops its task. -/
def commitMutation (queue : ReplayOffloadQueue)
    (ledger : ReplayDrainLedger)
    (reservation : ReplayQueueMutationReservation)
    (task : Option BufferMutationTask) :
    ReplayOffloadQueue × ReplayDrainLedger × Bool :=
  match task with
  | none => (queue, ledger, false)
  | some staged =>
      if reservation.valid = false then (queue, ledger, false)
      else
        let numbered := { staged with replaySeq := reservation.replaySeq }
        match fillReservation reservation.id numbered queue.queue with
        | none => (queue, ledger, false)
        | some items =>
            ({ queue with queue := items },
              ledger.publishMutationAcceptedLocked numbered, true)

def releaseMutation (queue : ReplayOffloadQueue)
    (reservation : ReplayQueueMutationReservation) : ReplayOffloadQueue :=
  if reservation.valid = false then queue
  else
    match eraseReservation reservation.id queue.queue with
    | none => queue
    | some (item, items) =>
        { queue with
          queue := items
          queuedBytes := queue.queuedBytes - item.chargedBytes }

/-- The number of the next element, if it is a planned chunk too. -/
def rawOrdinalHint (item : ReplayQueueItem) (rest : List ReplayQueueItem) :
    ReplayQueueItem :=
  match item.payload, rest with
  | .chunk chunk, { payload := .chunk next, .. } :: _ =>
      if chunk.cpuReadyTapePlanningEnabled &&
          next.cpuReadyTapePlanningEnabled then
        { item with
          payload := .chunk
            { chunk with nextQueuedRawOrdinalHint := next.replaySeq } }
      else item
  | _, _ => item

inductive PopResult where
  | waits
  | ended
  | popped (item : ReplayQueueItem) (queue : ReplayOffloadQueue)

/-- The head, unless it is a place holder: the consumer waits for it, and
ends at it once the queue is stopped. -/
def pop (queue : ReplayOffloadQueue) : PopResult :=
  match queue.queue with
  | [] => if queue.stopped then .ended else .waits
  | head :: rest =>
      if head.placeholder then
        if queue.stopped then .ended else .waits
      else
        .popped (rawOrdinalHint head rest)
          { queue with
            queue := rest
            queuedBytes := queue.queuedBytes - head.chargedBytes
            inFlight := true }

/-- Every committed element, in order; place holders are dropped. -/
def drainRemaining (queue : ReplayOffloadQueue) :
    ReplayOffloadQueue × List ReplayQueueItem :=
  ({ queue with queue := [], queuedBytes := 0 },
    queue.queue.filter fun item => !item.placeholder)

def markReplayDone (queue : ReplayOffloadQueue) : ReplayOffloadQueue :=
  { queue with inFlight := false }

def stop (queue : ReplayOffloadQueue) : ReplayOffloadQueue :=
  { queue with stopped := true }

def failNextPushForTest (queue : ReplayOffloadQueue)
    (point : ReplayQueueFailurePoint) : ReplayOffloadQueue :=
  { queue with testOnlyFailurePoint := point }

end ReplayOffloadQueue

end Dxmt9.ReplayOffload
