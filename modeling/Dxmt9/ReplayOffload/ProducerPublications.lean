import Dxmt9.ReplayOffload.Replay

/-!
# What producers publish

A producer's call publishes as queued what it accepts, under a fresh number or
that of its reservation, and publishes nothing as replayed.
-/

namespace Dxmt9.ReplayOffload

open Dxmt9.Queue Dxmt9.Transition

variable {world next : QueueWorld}

/-! ## What producers publish -/

/-- A step of a producer publishes what it accepts as queued, and nothing as
replayed.  A payload has a fresh number, or that of its place. -/
structure Publishes (world next : QueueWorld) : Prop where
  joined : ∃ payloads, next.accepted = world.accepted ++ payloads ∧
    ∀ payload ∈ payloads,
      (world.ledger.nextSeq ≤ payload.seq ∨
        ∃ place ∈ world.queue.queue,
          place.ordinal world.issued = some payload.seq) ∧
      ∀ target, payload.Names target →
        payload.seq ≤ (next.ledger.targets target).lastQueuedSeq
  grows : ∀ target, (world.ledger.targets target).lastQueuedSeq ≤
    (next.ledger.targets target).lastQueuedSeq
  below : ∀ target,
    (next.ledger.targets target).lastQueuedSeq < next.ledger.nextSeq
  replayed : ∀ target, (next.ledger.targets target).lastReplayedSeq =
    (world.ledger.targets target).lastReplayedSeq

/-- The numbers that were queued have been drawn. -/
def QueuedBelow (world : QueueWorld) : Prop :=
  ∀ target, (world.ledger.targets target).lastQueuedSeq <
    world.ledger.nextSeq

theorem publishes_nothing (below : QueuedBelow world)
    (accepted : next.accepted = world.accepted)
    (targets : next.ledger.targets = world.ledger.targets)
    (numbers : world.ledger.nextSeq ≤ next.ledger.nextSeq) :
    Publishes world next where
  joined := ⟨[], by rw [accepted, List.append_nil],
    fun _ member => absurd member List.not_mem_nil⟩
  grows target := by rw [targets]
  below target := by
    rw [targets]
    exact (below target).trans_le numbers
  replayed target := by rw [targets]

theorem publishes_rejected {ε : Type} {brought : Option ε}
    {result : PushResult ε} (below : QueuedBelow world)
    (rejected : Rejected world.queue world.ledger brought result) :
    Publishes world (world.pushed (some result)) := by
  apply publishes_nothing below
  · change world.accepted ++ result.adopted = world.accepted
    unfold PushResult.adopted
    rw [if_pos rejected.disposition, List.append_nil]
  · change result.ledger.targets = _
    rw [rejected.ledger]
  · change _ ≤ result.ledger.nextSeq
    rw [rejected.ledger]

theorem adopted_payload {ε : Type} {item : ReplayQueueItem}
    {result : PushResult ε}
    (adopted : Adopted world.queue item result) :
    result.adopted = [item.payload] := by
  unfold PushResult.adopted
  rw [if_neg adopted.disposition, adopted.items, List.getLast?_concat]
  rfl

theorem targets_publishAccepted (ledger : ReplayDrainLedger)
    (chunk : RawCommandChunk) (target : TargetId) :
    (ledger.publishAcceptedLocked chunk).1.targets target =
      if some target ∈ chunk.ledgerTargets then
        { ledger.targets target with lastQueuedSeq := ledger.nextSeq }
      else ledger.targets target := by
  have idempotent : ∀ state : ReplayDrainTarget,
      ({ ({ state with lastQueuedSeq := ledger.nextSeq } :
          ReplayDrainTarget) with lastQueuedSeq := ledger.nextSeq } :
        ReplayDrainTarget) =
      { state with lastQueuedSeq := ledger.nextSeq } := fun _ => rfl
  exact targets_updateTargets _ idempotent target _

section

variable (below : QueuedBelow world)
include below

theorem publishes_push (chunk : RawCommandChunk)
    (allocates : Bool) :
    Publishes world (world.step (.push chunk true allocates)) := by
  change Publishes world (world.pushed _)
  cases done : world.queue.pushWithDisposition world.ledger
      { chunk with replaySeq := 0 } true allocates with
  | none => exact publishes_nothing below rfl rfl le_rfl
  | some result =>
      rcases push_cases done with rejected | ⟨_, adopted, ledger⟩ |
        ⟨untracked, _, _⟩
      · exact publishes_rejected below rejected
      · have named := targets_publishAccepted world.ledger
          { chunk with replaySeq := 0 }
        have numbers := @nextSeq_publishAccepted world.ledger
          { chunk with replaySeq := 0 }
        rw [← ledger] at named numbers
        constructor
        · refine ⟨_, congrArg _ (adopted_payload adopted), ?_⟩
          intro payload member
          rw [List.mem_singleton] at member
          rw [member]
          refine ⟨Or.inl le_rfl, fun target names => ?_⟩
          change some target ∈ chunk.ledgerTargets at names
          change world.ledger.nextSeq ≤
            (result.ledger.targets target).lastQueuedSeq
          rw [named, if_pos names]
        · intro target
          change _ ≤ (result.ledger.targets target).lastQueuedSeq
          rw [named]
          split
          · exact (below target).le
          · exact le_rfl
        · intro target
          change (result.ledger.targets target).lastQueuedSeq <
            result.ledger.nextSeq
          rw [named, numbers]
          split
          · exact Nat.lt_succ_self _
          · exact (below target).trans (Nat.lt_succ_self _)
        · intro target
          change (result.ledger.targets target).lastReplayedSeq = _
          rw [named]
          split <;> rfl
      · contradiction

theorem publishes_pushStateBlockApply
    (task : Option StateBlockApplyTask) (allocates : Bool) :
    Publishes world
      (world.step (.pushStateBlockApply task true allocates)) := by
  change Publishes world (world.pushed _)
  cases done : world.queue.pushStateBlockApply world.ledger
      (task.map fun _ => {}) true allocates with
  | none => exact publishes_nothing below rfl rfl le_rfl
  | some result =>
      rcases pushStateBlockApply_cases done with rejected |
        ⟨apply, _, ⟨_, adopted, ledger⟩ | ⟨untracked, _, _⟩⟩
      · exact publishes_rejected below rejected
      · constructor
        · refine ⟨_, congrArg _ (adopted_payload adopted), ?_⟩
          intro payload member
          rw [List.mem_singleton] at member
          rw [member]
          exact ⟨Or.inl le_rfl, fun _ names => names.elim⟩
        · intro target
          change _ ≤ (result.ledger.targets target).lastQueuedSeq
          rw [ledger]
          exact le_rfl
        · intro target
          change (result.ledger.targets target).lastQueuedSeq <
            result.ledger.nextSeq
          rw [ledger]
          exact (below target).trans (Nat.lt_succ_self _)
        · intro target
          change (result.ledger.targets target).lastReplayedSeq = _
          rw [ledger]
          rfl
      · contradiction

theorem publishes_reserve (bytes : UInt64)
    (allocates : Bool) :
    Publishes world (world.step (.reserveMutation bytes allocates)) := by
  change Publishes world (world.reserved _)
  cases done : world.queue.reserveMutation world.ledger bytes allocates with
  | none => exact publishes_nothing below rfl rfl le_rfl
  | some result =>
      rcases reserve_cases done with rfl | ⟨_, rfl⟩
      · exact publishes_nothing below rfl rfl le_rfl
      · exact publishes_nothing below rfl rfl (Nat.le_succ _)

end

theorem publishes_commit (invariant : QueueInvariant world)
    (below : QueuedBelow world) (id : Nat)
    (task : Option BufferMutationTask) :
    Publishes world (world.step (.commitMutation id task)) := by
  cases issued : world.issued id with
  | none =>
      simp only [QueueWorld.step, issued]
      exact publishes_nothing below rfl rfl le_rfl
  | some seq =>
      simp only [QueueWorld.step, issued, QueueWorld.commit]
      rcases commit_cases world.queue world.ledger
          { id := id, replaySeq := seq } task with dropped |
        ⟨staged, front, place, back, brought, before, named, empty, done⟩
      · rw [dropped]
        exact publishes_nothing below (List.append_nil _) rfl le_rfl
      · rw [done, brought]
        have member : place ∈ world.queue.queue := by rw [before]; simp
        have number : place.ordinal world.issued = some seq := by
          unfold ReplayQueueItem.ordinal
          rw [ReplayQueueItem.exists_of_placeholder empty, named]
          exact issued
        have drawn : seq < world.ledger.nextSeq :=
          invariant.numbered.below place
            (List.mem_append_right _ member) seq number
        have targets := targets_updateTarget world.ledger
          (fun target => { target with
            lastQueuedSeq := max target.lastQueuedSeq seq })
        have numbers := @nextSeq_publishMutationAccepted world.ledger
          { staged with replaySeq := seq }
        constructor
        · refine ⟨_, rfl, ?_⟩
          intro payload found
          obtain rfl := List.mem_singleton.mp found
          refine ⟨Or.inr ⟨place, member, number⟩, fun target names => ?_⟩
          change staged.ledgerTarget = some target at names
          change seq ≤ ((world.ledger.updateTarget _ _).targets
            target).lastQueuedSeq
          rw [targets, if_pos names]
          exact le_max_right _ _
        · intro target
          change _ ≤ ((world.ledger.updateTarget _ _).targets
            target).lastQueuedSeq
          rw [targets]
          split
          · exact le_max_left _ _
          · exact le_rfl
        · intro target
          change ((world.ledger.updateTarget _ _).targets
            target).lastQueuedSeq <
              (world.ledger.publishMutationAcceptedLocked _).nextSeq
          rw [targets, numbers]
          split
          · exact max_lt (below target) drawn
          · exact below target
        · intro target
          change ((world.ledger.updateTarget _ _).targets
            target).lastReplayedSeq = _
          rw [targets]
          split <;> rfl

theorem publishes_release (below : QueuedBelow world) (id : Nat) :
    Publishes world (world.step (.releaseMutation id)) := by
  cases issued : world.issued id with
  | none =>
      simp only [QueueWorld.step, issued]
      exact publishes_nothing below rfl rfl le_rfl
  | some seq =>
      simp only [QueueWorld.step, issued]
      exact publishes_nothing below rfl rfl le_rfl

theorem publishes_producer (invariant : QueueInvariant world)
    (below : QueuedBelow world) (call : ProducerCall) :
    Publishes world (world.step call.queueCall) := by
  cases call with
  | push chunk allocates => exact publishes_push below _ _
  | pushStateBlockApply task allocates =>
      exact publishes_pushStateBlockApply below _ _
  | reserveMutation bytes allocates => exact publishes_reserve below _ _
  | commitMutation id task => exact publishes_commit invariant below _ _
  | releaseMutation id => exact publishes_release below _
  | stop => exact publishes_nothing below rfl rfl le_rfl
  | failNextPushForTest point => exact publishes_nothing below rfl rfl le_rfl
  | markStopped =>
      apply publishes_nothing below
      · rfl
      · change world.ledger.markStopped.targets = _
        unfold ReplayDrainLedger.markStopped
        split <;> rfl
      · change _ ≤ world.ledger.markStopped.nextSeq
        unfold ReplayDrainLedger.markStopped
        split <;> exact le_rfl
  | latchStopped => exact publishes_nothing below rfl rfl le_rfl
  | publishFailure => exact publishes_nothing below rfl rfl le_rfl
  | latchPoisoned => exact publishes_nothing below rfl rfl le_rfl

theorem taken_producer (call : ProducerCall) :
    (world.step call.queueCall).taken = world.taken := by
  cases call with
  | push chunk allocates =>
      change (world.pushed _).taken = _
      unfold QueueWorld.pushed
      split <;> rfl
  | pushStateBlockApply task allocates =>
      change (world.pushed _).taken = _
      unfold QueueWorld.pushed
      split <;> rfl
  | reserveMutation bytes allocates =>
      change (world.reserved _).taken = _
      unfold QueueWorld.reserved
      split <;> rfl
  | commitMutation id task =>
      cases issued : world.issued id with
      | none => simp only [ProducerCall.queueCall, QueueWorld.step, issued]
      | some seq =>
          simp only [ProducerCall.queueCall, QueueWorld.step, issued]
          rfl
  | releaseMutation id =>
      cases issued : world.issued id with
      | none => simp only [ProducerCall.queueCall, QueueWorld.step, issued]
      | some seq =>
          simp only [ProducerCall.queueCall, QueueWorld.step, issued]
  | _ => rfl

end Dxmt9.ReplayOffload
