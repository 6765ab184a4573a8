import Dxmt9.ReplayOffload.QueueHistory

/-!
# The replay worker

Producers push through the ledger, and reserve, commit and release mutations;
the worker pops one item at a time, applies it, and only then publishes it as
replayed.  When an item fails the worker poisons the ledger, stops the queue
and leaves; what is left in the queue is drained and never applied.
-/

namespace Dxmt9.ReplayOffload

open Dxmt9.Queue Dxmt9.Transition

namespace ReplayQueuePayload

def seq : ReplayQueuePayload → Nat
  | .placeholder _ => 0
  | .mutation task => task.replaySeq
  | .stateBlockApply task => task.replaySeq
  | .chunk raw => raw.replaySeq

/-- The item is to be waited for by readers of the target. -/
def Names (payload : ReplayQueuePayload) (target : TargetId) : Prop :=
  match payload with
  | .mutation task => task.ledgerTarget = some target
  | .chunk raw => some target ∈ raw.ledgerTargets
  | _ => False

/-- What the worker publishes once the item is applied. -/
def replayed : ReplayQueuePayload → Option LedgerCall
  | .mutation task => some (.publishMutationReplayed task)
  | .chunk raw => some (.publishReplayed raw)
  | _ => none

end ReplayQueuePayload

/-! ## The worker -/

/-- What the worker is about; at the end it has calls left to make. -/
inductive ReplayWorker where
  | idle
  | popped (payload : ReplayQueuePayload)
  | applied (payload : ReplayQueuePayload)
  | published
  | closing (calls : List QueueCall)

/-- The worker still takes items. -/
def ReplayWorker.Live : ReplayWorker → Prop
  | .closing _ => False
  | _ => True

/-- What the worker does about an item that failed. -/
def failStop : List QueueCall :=
  [.ledger .publishFailure, .ledger .latchPoisoned, .stop, .markReplayDone]

/-- What producers, and whoever stops or fails the device, may call. -/
inductive ProducerCall where
  | push (chunk : RawCommandChunk) (allocates : Bool)
  | pushStateBlockApply (task : Option StateBlockApplyTask)
      (allocates : Bool)
  | reserveMutation (bytes : UInt64) (allocates : Bool)
  | commitMutation (id : Nat) (task : Option BufferMutationTask)
  | releaseMutation (id : Nat)
  | stop
  | failNextPushForTest (point : ReplayQueueFailurePoint)
  | markStopped
  | latchStopped
  | publishFailure
  | latchPoisoned

def ProducerCall.queueCall : ProducerCall → QueueCall
  | .push chunk allocates => .push chunk true allocates
  | .pushStateBlockApply task allocates =>
      .pushStateBlockApply task true allocates
  | .reserveMutation bytes allocates => .reserveMutation bytes allocates
  | .commitMutation id task => .commitMutation id task
  | .releaseMutation id => .releaseMutation id
  | .stop => .stop
  | .failNextPushForTest point => .failNextPushForTest point
  | .markStopped => .ledger .markStopped
  | .latchStopped => .ledger .latchStopped
  | .publishFailure => .ledger .publishFailure
  | .latchPoisoned => .ledger .latchPoisoned

inductive ReplayCall where
  | producer (call : ProducerCall)
  | pop
  | apply (succeeds : Bool)
  | publish
  | markDone
  | close
  | drain

/-- A queue with its worker, the numbers of the items that were applied, and
the items that were given up. -/
structure ReplayWorld where
  base : QueueWorld
  worker : ReplayWorker := .idle
  applied : List Nat := []
  discarded : List ReplayQueuePayload := []

namespace ReplayWorld

def ledger (world : ReplayWorld) : ReplayDrainLedger := world.base.ledger

/-- A pop that ends sends the worker to its drain. -/
def workerPop (world : ReplayWorld) : ReplayWorld :=
  match world.base.queue.pop with
  | .popped item _ =>
      { world with
        base := world.base.step .pop
        worker := .popped item.payload }
  | .ended => { world with worker := .closing [] }
  | .waits => world

def workerApply (world : ReplayWorld) (payload : ReplayQueuePayload)
    (succeeds : Bool) : ReplayWorld :=
  if succeeds then
    { world with
      worker := .applied payload
      applied := world.applied ++ [payload.seq] }
  else
    { world with
      worker := .closing failStop
      discarded := world.discarded ++ [payload] }

def workerPublish (world : ReplayWorld) (payload : ReplayQueuePayload) :
    ReplayWorld :=
  match payload.replayed with
  | none => { world with worker := .published }
  | some call =>
      { world with
        base := world.base.step (.ledger call)
        worker := .published }

/-- Only a worker that has made all its calls has left; then what remains in
the queue is drained. -/
def drain (world : ReplayWorld) : ReplayWorld :=
  { world with
    base := world.base.step .drainRemaining
    discarded := world.discarded ++
      world.base.queue.drainRemaining.2.map (·.payload) }

/-- A call that is not due does nothing. -/
def step (world : ReplayWorld) : ReplayCall → ReplayWorld
  | .producer call =>
      { world with base := world.base.step call.queueCall }
  | .pop =>
      match world.worker with
      | .idle => world.workerPop
      | _ => world
  | .apply succeeds =>
      match world.worker with
      | .popped payload => world.workerApply payload succeeds
      | _ => world
  | .publish =>
      match world.worker with
      | .applied payload => world.workerPublish payload
      | _ => world
  | .markDone =>
      match world.worker with
      | .published =>
          { world with
            base := world.base.step .markReplayDone
            worker := .idle }
      | _ => world
  | .close =>
      match world.worker with
      | .closing (call :: rest) =>
          { world with
            base := world.base.step call
            worker := .closing rest }
      | _ => world
  | .drain =>
      match world.worker with
      | .closing [] => world.drain
      | _ => world

end ReplayWorld

/-- The device after calls. -/
def runReplay (maxChunks maxBytes : UInt64) (calls : List ReplayCall) :
    ReplayWorld :=
  run ReplayWorld.step
    { base := { queue := { maxChunks := maxChunks, maxBytes := maxBytes } } }
    calls

theorem targets_updateTarget (ledger : ReplayDrainLedger)
    (update : ReplayDrainTarget → ReplayDrainTarget)
    (target : TargetId) :
    ∀ named : Option TargetId,
      (ledger.updateTarget update named).targets target =
        if named = some target then update (ledger.targets target)
        else ledger.targets target
  | none => by
      rw [if_neg nofun]
      rfl
  | some named => by
      change Function.update ledger.targets named _ target = _
      by_cases same : target = named
      · rw [same, Function.update_self, if_pos rfl]
      · rw [Function.update_of_ne same, if_neg]
        exact fun equal => same (Option.some.inj equal).symm

/-- An update that is made twice is made once. -/
theorem targets_updateTargets (ledger : ReplayDrainLedger)
    {update : ReplayDrainTarget → ReplayDrainTarget}
    (idempotent : ∀ state, update (update state) = update state)
    (target : TargetId) (named : List (Option TargetId)) :
    (named.foldl (fun current => current.updateTarget update)
        ledger).targets target =
      if some target ∈ named then update (ledger.targets target)
      else ledger.targets target := by
  induction named generalizing ledger with
  | nil => rfl
  | cons head rest induction =>
      rw [List.foldl_cons, induction, targets_updateTarget]
      by_cases first : head = some target
      · rw [if_pos first, if_pos (List.mem_cons.mpr (Or.inl first.symm)),
          idempotent, ite_self]
      · rw [if_neg first]
        apply if_congr _ rfl rfl
        rw [List.mem_cons]
        exact ⟨Or.inr, fun member =>
          member.resolve_left fun equal => first equal.symm⟩

theorem replayedThrough_idempotent (seq : Nat)
    (state : ReplayDrainTarget) :
    ReplayDrainLedger.replayedThrough seq
        (ReplayDrainLedger.replayedThrough seq state) =
      ReplayDrainLedger.replayedThrough seq state := by
  unfold ReplayDrainLedger.replayedThrough
  simp only [max_assoc, max_self]

theorem targets_replayed {payload : ReplayQueuePayload} {call : LedgerCall}
    (publishes : payload.replayed = some call) (ledger : ReplayDrainLedger)
    (target : TargetId) [Decidable (payload.Names target)] :
    (ledger.perform call).targets target =
      if payload.Names target then
        ReplayDrainLedger.replayedThrough payload.seq (ledger.targets target)
      else ledger.targets target := by
  cases payload with
  | placeholder id => contradiction
  | stateBlockApply task => contradiction
  | mutation task =>
      obtain rfl := Option.some.inj publishes
      change (ledger.publishMutationReplayed task).targets target = _
      unfold ReplayDrainLedger.publishMutationReplayed
      rw [targets_updateTarget]
      exact if_congr Iff.rfl rfl rfl
  | chunk chunk =>
      obtain rfl := Option.some.inj publishes
      change (ledger.publishReplayed chunk).targets target = _
      unfold ReplayDrainLedger.publishReplayed
      rw [targets_updateTargets ledger (replayedThrough_idempotent _)]
      exact if_congr Iff.rfl rfl rfl

end Dxmt9.ReplayOffload
