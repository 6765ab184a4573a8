import Dxmt9.ReplayOffload.DrainInvariant

/-!
# Soundness of the replay drains

A target is never reported as caught up while an item that names it and was
accepted is still to be applied; its two numbers never go back; and nothing
that was given up is ever reported as done.
-/

namespace Dxmt9.ReplayOffload

open Dxmt9.Queue Dxmt9.Transition

variable {device : ReplayWorld} {world : QueueWorld}

/-! ## Steps of the ledger -/

theorem base_step (device : ReplayWorld) (call : ReplayCall) :
    (device.step call).base = device.base ∨
      ∃ made, (device.step call).base = device.base.step made := by
  cases call with
  | producer call => exact Or.inr ⟨call.queueCall, rfl⟩
  | pop =>
      simp only [ReplayWorld.step]
      split
      · unfold ReplayWorld.workerPop
        split
        · exact Or.inr ⟨.pop, rfl⟩
        · exact Or.inl rfl
        · exact Or.inl rfl
      · exact Or.inl rfl
  | apply succeeds =>
      simp only [ReplayWorld.step]
      split
      · unfold ReplayWorld.workerApply
        split <;> exact Or.inl rfl
      · exact Or.inl rfl
  | publish =>
      simp only [ReplayWorld.step]
      split
      · unfold ReplayWorld.workerPublish
        split
        · exact Or.inl rfl
        · rename_i call _
          exact Or.inr ⟨.ledger call, rfl⟩
      · exact Or.inl rfl
  | markDone =>
      simp only [ReplayWorld.step]
      split
      · exact Or.inr ⟨.markReplayDone, rfl⟩
      · exact Or.inl rfl
  | close =>
      simp only [ReplayWorld.step]
      split
      · rename_i call _ _
        exact Or.inr ⟨call, rfl⟩
      · exact Or.inl rfl
  | drain =>
      simp only [ReplayWorld.step]
      split
      · exact Or.inr ⟨.drainRemaining, rfl⟩
      · exact Or.inl rfl

/-- What has ended stays so. -/
structure StaysEnded (ledger next : ReplayDrainLedger) : Prop where
  poisoned : ledger.poisoned = true → next.poisoned = true
  stopping : ledger.stopping = true → next.stopping = true
  terminal : ledger.terminal = true → next.terminal = true

theorem staysEnded_refl (ledger : ReplayDrainLedger) :
    StaysEnded ledger ledger := ⟨id, id, id⟩

theorem StaysEnded.trans {first second third : ReplayDrainLedger}
    (front : StaysEnded first second) (back : StaysEnded second third) :
    StaysEnded first third where
  poisoned ended := back.poisoned (front.poisoned ended)
  stopping ended := back.stopping (front.stopping ended)
  terminal ended := back.terminal (front.terminal ended)

section

variable (ledger : ReplayDrainLedger)
include ledger

section

variable (update : ReplayDrainTarget → ReplayDrainTarget)
include update

theorem staysEnded_updateTarget
    (target : Option TargetId) :
    StaysEnded ledger (ledger.updateTarget update target) := by
  cases target <;> exact ⟨id, id, id⟩

theorem staysEnded_updateTargets
    (targets : List (Option TargetId)) :
    StaysEnded ledger
      (targets.foldl (fun current => current.updateTarget update)
        ledger) := by
  induction targets generalizing ledger with
  | nil => exact staysEnded_refl ledger
  | cons target rest induction =>
      exact (staysEnded_updateTarget ledger update target).trans (induction _)

end

theorem staysEnded_publishAccepted
    (chunk : RawCommandChunk) :
    StaysEnded ledger (ledger.publishAcceptedLocked chunk).1 := by
  have drawn : StaysEnded ledger
      { ledger with nextSeq := ledger.nextSeq + 1 } := ⟨id, id, id⟩
  unfold ReplayDrainLedger.publishAcceptedLocked
  exact drawn.trans (staysEnded_updateTargets _ _ _)

theorem staysEnded_publishMutationAccepted
    (task : BufferMutationTask) :
    StaysEnded ledger (ledger.publishMutationAcceptedLocked task) := by
  unfold ReplayDrainLedger.publishMutationAcceptedLocked
  exact staysEnded_updateTarget _ _ _

end

theorem staysEnded_pushed {ε : Type} {result : PushResult ε}
    (stays : StaysEnded world.ledger result.ledger) :
    StaysEnded world.ledger (world.pushed (some result)).ledger := stays

theorem staysEnded_perform (ledger : ReplayDrainLedger) (call : LedgerCall) :
    StaysEnded ledger (ledger.perform call) := by
  cases call with
  | markStopped =>
      change StaysEnded ledger ledger.markStopped
      unfold ReplayDrainLedger.markStopped
      split
      · rename_i running
        refine ⟨id, id, fun _ => rfl⟩
      · exact staysEnded_refl ledger
  | latchStopped => exact ⟨id, fun _ => rfl, id⟩
  | publishFailure => exact ⟨id, id, fun _ => rfl⟩
  | latchPoisoned => exact ⟨fun _ => rfl, id, id⟩
  | publishReplayed chunk => exact staysEnded_updateTargets _ _ _
  | publishMutationReplayed task => exact staysEnded_updateTarget _ _ _

theorem staysEnded_step (world : QueueWorld) (call : QueueCall) :
    StaysEnded world.ledger (world.step call).ledger := by
  cases call with
  | push chunk tracked allocates =>
      change StaysEnded world.ledger (world.pushed _).ledger
      cases done : world.queue.pushWithDisposition world.ledger
          { chunk with replaySeq := 0 } tracked allocates with
      | none => exact staysEnded_refl _
      | some result =>
          apply staysEnded_pushed
          rcases push_cases done with rejected | ⟨_, _, ledger⟩ |
            ⟨_, _, ledger⟩
          · rw [rejected.ledger]
            exact staysEnded_refl _
          · rw [ledger]
            exact staysEnded_publishAccepted _ _
          · rw [ledger]
            exact staysEnded_refl _
  | pushStateBlockApply task tracked allocates =>
      change StaysEnded world.ledger (world.pushed _).ledger
      cases done : world.queue.pushStateBlockApply world.ledger
          (task.map fun _ => {}) tracked allocates with
      | none => exact staysEnded_refl _
      | some result =>
          apply staysEnded_pushed
          rcases pushStateBlockApply_cases done with rejected |
            ⟨_, _, ⟨_, _, ledger⟩ | ⟨_, _, ledger⟩⟩
          · rw [rejected.ledger]
            exact staysEnded_refl _
          · rw [ledger]
            exact ⟨id, id, id⟩
          · rw [ledger]
            exact staysEnded_refl _
  | reserveMutation bytes allocates =>
      change StaysEnded world.ledger (world.reserved _).ledger
      cases done : world.queue.reserveMutation world.ledger bytes
          allocates with
      | none => exact staysEnded_refl _
      | some result =>
          rcases reserve_cases done with rfl | ⟨_, rfl⟩
          · exact staysEnded_refl _
          · exact ⟨id, id, id⟩
  | commitMutation id task =>
      cases issued : world.issued id with
      | none =>
          simp only [QueueWorld.step, issued]
          exact staysEnded_refl _
      | some seq =>
          simp only [QueueWorld.step, issued, QueueWorld.commit]
          rcases commit_cases world.queue world.ledger
              { id := id, replaySeq := seq } task with dropped |
            ⟨staged, front, place, back, _, _, _, _, done⟩
          · rw [dropped]
            exact staysEnded_refl _
          · rw [done]
            exact staysEnded_publishMutationAccepted _ _
  | releaseMutation id =>
      cases issued : world.issued id with
      | none =>
          simp only [QueueWorld.step, issued]
          exact staysEnded_refl _
      | some seq =>
          simp only [QueueWorld.step, issued]
          exact staysEnded_refl _
  | pop =>
      change StaysEnded world.ledger world.popHead.ledger
      unfold QueueWorld.popHead
      split <;> exact staysEnded_refl _
  | drainRemaining => exact staysEnded_refl _
  | markReplayDone => exact staysEnded_refl _
  | stop => exact staysEnded_refl _
  | failNextPushForTest point => exact staysEnded_refl _
  | ledger call => exact staysEnded_perform _ call

/-- Neither number of a target goes back. -/
def Grows (before after : QueueWorld) : Prop :=
  ∀ target, before.queuedSeq target ≤ after.queuedSeq target ∧
    before.replayedSeq target ≤ after.replayedSeq target

theorem grows_refl (world : QueueWorld) : Grows world world :=
  fun _ => ⟨le_rfl, le_rfl⟩

theorem Publishes.toGrows {next : QueueWorld}
    (publishes : Publishes world next) : Grows world next :=
  fun target => ⟨publishes.grows target, (publishes.replayed target).ge⟩

theorem DrainInvariant.grows (invariant : DrainInvariant device)
    (call : ReplayCall) : Grows device.base (device.step call).base := by
  have below := invariant.ledger.queuedBelow
  cases call with
  | producer call =>
      exact (publishes_producer invariant.ledger.queue below call).toGrows
  | pop =>
      simp only [ReplayWorld.step]
      split
      · unfold ReplayWorld.workerPop
        split
        · change Grows device.base device.base.popHead
          unfold QueueWorld.popHead
          split <;> exact grows_refl _
        · exact grows_refl _
        · exact grows_refl _
      · exact grows_refl _
  | apply succeeds =>
      simp only [ReplayWorld.step]
      split
      · unfold ReplayWorld.workerApply
        split <;> exact grows_refl _
      · exact grows_refl _
  | publish =>
      simp only [ReplayWorld.step]
      split
      · unfold ReplayWorld.workerPublish
        split
        · exact grows_refl _
        · rename_i call publishes
          intro target
          obtain ⟨queued, raised⟩ :=
            @replayed_cases device.base _ _ publishes target
          refine ⟨queued.ge, ?_⟩
          rcases raised with same | ⟨_, higher⟩
          · exact same.ge
          · exact (le_max_left _ _).trans_eq higher.symm
      · exact grows_refl _
  | markDone =>
      simp only [ReplayWorld.step]
      split <;> exact grows_refl _
  | close =>
      simp only [ReplayWorld.step]
      split
      · rename_i call rest about
        exact (publishes_failStop below
          (invariant.closing _ about call List.mem_cons_self)).1.toGrows
      · exact grows_refl _
  | drain =>
      simp only [ReplayWorld.step]
      split <;> exact grows_refl _

/-! ## Runs -/

theorem runReplay_concat (maxChunks maxBytes : UInt64)
    (calls : List ReplayCall) (call : ReplayCall) :
    runReplay maxChunks maxBytes (calls ++ [call]) =
      (runReplay maxChunks maxBytes calls).step call :=
  run_append _ _ _ _

theorem runReplay_grows (maxChunks maxBytes : UInt64)
    (front back : List ReplayCall) :
    Grows (runReplay maxChunks maxBytes front).base
        (runReplay maxChunks maxBytes (front ++ back)).base ∧
      StaysEnded (runReplay maxChunks maxBytes front).ledger
        (runReplay maxChunks maxBytes (front ++ back)).ledger := by
  induction back using List.reverseRecOn with
  | nil =>
      rw [List.append_nil]
      exact ⟨grows_refl _, staysEnded_refl _⟩
  | append_singleton back call induction =>
      rw [← List.append_assoc, runReplay_concat]
      have invariant := runReplay_invariant maxChunks maxBytes (front ++ back)
      constructor
      · intro target
        have before := induction.1 target
        have after := invariant.grows call target
        exact ⟨before.1.trans after.1, before.2.trans after.2⟩
      · apply induction.2.trans
        unfold ReplayWorld.ledger
        rcases base_step (runReplay maxChunks maxBytes (front ++ back))
            call with same | ⟨made, stepped⟩
        · rw [same]
          exact staysEnded_refl _
        · rw [stepped]
          exact staysEnded_step _ made

/-- Every item that was accepted and names the target has been applied. -/
def ReplayWorld.CaughtUp (device : ReplayWorld) (target : TargetId) : Prop :=
  ∀ payload ∈ device.base.accepted, payload.Names target →
    payload.seq ∈ device.applied

/-- Nothing reports the target as caught up. -/
structure ReplayWorld.NoSuccess (device : ReplayWorld) (target : TargetId) :
    Prop where
  pending : device.ledger.pending target = true
  wait : device.ledger.wait target ≠ some .caughtUp
  receipt : ∀ receipt : ReplayDrainReceipt, receipt.target = some target →
    device.ledger.classifyReceiptLocked receipt ≠ .ready

variable {ledger : ReplayDrainLedger} {target : TargetId}

theorem pending_of_caughtUp
    (returns : ledger.wait target = some .caughtUp) :
    ledger.poisoned = false ∧ ledger.stopping = false ∧
      ledger.pending target = false := by
  unfold ReplayDrainLedger.wait at returns
  split at returns
  · contradiction
  rename_i healthy
  split at returns
  · contradiction
  rename_i running
  split at returns
  · contradiction
  rename_i done
  exact ⟨Bool.eq_false_of_not_eq_true healthy,
    Bool.eq_false_of_not_eq_true running,
    Bool.eq_false_of_not_eq_true done⟩

theorem pending_of_ready
    {receipt : ReplayDrainReceipt} (named : receipt.target = some target)
    (ready : ledger.classifyReceiptLocked receipt = .ready) :
    ledger.terminal = false ∧ ledger.pending target = false := by
  unfold ReplayDrainLedger.classifyReceiptLocked at ready
  rw [named] at ready
  simp only at ready
  unfold classifyReplayReceipt at ready
  split at ready
  · contradiction
  rename_i sane
  split at ready
  · contradiction
  rename_i current
  split at ready
  · rename_i reached
    rw [not_or, Bool.not_eq_true] at sane
    refine ⟨sane.1, ?_⟩
    unfold ReplayDrainLedger.pending
    rw [decide_eq_false_iff_not, not_lt]
    rw [not_ne_iff] at current
    rw [← current]
    exact reached
  · contradiction

theorem DrainInvariant.caughtUp (invariant : DrainInvariant device) (done : device.ledger.pending target = false) :
    device.CaughtUp target := by
  unfold ReplayDrainLedger.pending at done
  rw [decide_eq_false_iff_not, not_lt] at done
  intro payload member names
  have queued := invariant.ledger.queued payload member target names
  rcases invariant.ledger.unreplayed payload member target names with
    applied | before
  · exact applied
  · exact absurd before (queued.trans done).not_gt

theorem noSuccess_of_pending
    (pending : device.ledger.pending target = true) :
    device.NoSuccess target where
  pending := pending
  wait returns := by
    rw [(pending_of_caughtUp returns).2.2] at pending
    contradiction
  receipt receipt named ready := by
    rw [(pending_of_ready named ready).2] at pending
    contradiction

/-- What a run of the device keeps about its drains. -/
structure DrainsSound (maxChunks maxBytes : UInt64)
    (calls : List ReplayCall) : Prop where
  pending : ∀ target,
    (runReplay maxChunks maxBytes calls).ledger.pending target = false →
      (runReplay maxChunks maxBytes calls).CaughtUp target
  wait : ∀ target,
    (runReplay maxChunks maxBytes calls).ledger.wait target =
        some .caughtUp →
      (runReplay maxChunks maxBytes calls).CaughtUp target
  /-- Whenever it was captured, a receipt that is ready has caught up. -/
  receipt : ∀ receipt target, receipt.target = some target →
    (runReplay maxChunks maxBytes calls).ledger.classifyReceiptLocked
        receipt = .ready →
      (runReplay maxChunks maxBytes calls).CaughtUp target
  monotone : ∀ front back, calls = front ++ back →
    Grows (runReplay maxChunks maxBytes front).base
      (runReplay maxChunks maxBytes calls).base
  /-- Nothing succeeds for a target of an item that was given up. -/
  discarded : ∀ payload ∈ (runReplay maxChunks maxBytes calls).discarded,
    ∀ target, payload.Names target →
      (runReplay maxChunks maxBytes calls).NoSuccess target
  /-- After a poison or a stop no wait succeeds, and after a failure or a
  stop no receipt. -/
  ended : ∀ front back, calls = front ++ back →
    ((runReplay maxChunks maxBytes front).ledger.poisoned = true ∨
        (runReplay maxChunks maxBytes front).ledger.stopping = true →
      ∀ target, (runReplay maxChunks maxBytes calls).ledger.wait target ≠
        some .caughtUp) ∧
    ((runReplay maxChunks maxBytes front).ledger.terminal = true →
      ∀ receipt,
        (runReplay maxChunks maxBytes calls).ledger.classifyReceiptLocked
          receipt ≠ .ready)

/-- In any order of producers, worker, stop and failure, the ledger reports a
target as caught up only when all that was accepted for it is applied. -/
theorem drains_sound (maxChunks maxBytes : UInt64)
    (calls : List ReplayCall) : DrainsSound maxChunks maxBytes calls where
  pending _ done :=
    (runReplay_invariant maxChunks maxBytes calls).caughtUp done
  wait _ returns :=
    (runReplay_invariant maxChunks maxBytes calls).caughtUp
      (pending_of_caughtUp returns).2.2
  receipt _ _ named ready :=
    (runReplay_invariant maxChunks maxBytes calls).caughtUp
      (pending_of_ready named ready).2
  monotone := by
    rintro front back rfl
    exact (runReplay_grows maxChunks maxBytes front back).1
  discarded payload member target names := by
    apply noSuccess_of_pending
    obtain ⟨replayed, queued⟩ :=
      (runReplay_invariant maxChunks maxBytes calls).discarded payload member
        target names
    unfold ReplayDrainLedger.pending
    rw [decide_eq_true_eq]
    exact replayed.trans_le queued
  ended := by
    rintro front back rfl
    have stays := (runReplay_grows maxChunks maxBytes front back).2
    constructor
    · intro ended target returns
      obtain ⟨healthy, running, _⟩ := pending_of_caughtUp returns
      rcases ended with poisoned | stopping
      · rw [stays.poisoned poisoned] at healthy
        contradiction
      · rw [stays.stopping stopping] at running
        contradiction
    · intro ended receipt ready
      cases named : receipt.target with
      | none =>
          unfold ReplayDrainLedger.classifyReceiptLocked at ready
          rw [named] at ready
          contradiction
      | some target =>
          have running := (pending_of_ready named ready).1
          rw [stays.terminal ended] at running
          contradiction

end Dxmt9.ReplayOffload
