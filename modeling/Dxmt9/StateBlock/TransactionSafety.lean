import Dxmt9.StateBlock.StagedReferences
import Dxmt9.Transition.Run

/-!
# Ownership in state block transactions

What staging retains is released once or taken once; a transaction that has
failed or ended holds no reference; and a capability writes only into the
recording that it was issued in.
-/

namespace Dxmt9.StateBlock

open Dxmt9.Transition PeStateBlockTransactionState

variable {state : PeStateBlockTransactionState}

/-! ## What a phase may hold -/

/-- A phase holds references only where it may. -/
structure Sound (state : PeStateBlockTransactionState) : Prop where
  candidate : state.phase.holdsCandidate = false →
    state.recorded.forEachOwnedComRef = []
  staged : state.phase.holdsStaged = false → state.preparedRefs = []

theorem initial_sound : Sound {} where
  candidate _ := rfl
  staged _ := preparedRefs_of_none rfl

/-- Entering a phase that may hold as much. -/
theorem Sound.move (sound : Sound state) {phase : PeStateBlockPhase}
    (candidate : phase.holdsCandidate = false →
      state.phase.holdsCandidate = false)
    (staged : phase.holdsStaged = false → state.phase.holdsStaged = false) :
    Sound { state with phase := phase } where
  candidate free := sound.candidate (candidate free)
  staged free := sound.staged (staged free)

/-- An event that keeps the phase keeps what it may hold. -/
theorem Sound.stay (sound : Sound state) {phase : PeStateBlockPhase}
    (same : phase = state.phase) : Sound { state with phase := phase } := by
  apply sound.move
  · rw [same]
    exact id
  · rw [same]
    exact id

theorem Sound.invalidate (sound : Sound state) :
    Sound state.invalidateRecorderCapabilities.1 := by
  unfold invalidateRecorderCapabilities
  split
  · exact sound
  · exact ⟨sound.candidate, sound.staged⟩

theorem phase_invalidate :
    state.invalidateRecorderCapabilities.1.phase = state.phase := by
  unfold invalidateRecorderCapabilities
  split
  · rfl
  · rfl

theorem Sound.candidate_discarded (sound : Sound state)
    (event : PeStateBlockEvent)
    (left : (state.transition event).next.holdsCandidate = false) :
    (state.discardCandidateOf
      (state.transition event)).1.recorded.forEachOwnedComRef = [] := by
  unfold discardCandidateOf
  split
  · exact forEachOwnedComRef_clear _
  · rename_i kept
    cases held : state.phase.holdsCandidate with
    | false => exact sound.candidate held
    | true => exact absurd (plan_discards held left) kept

theorem staged_discardCandidateOf (plan : PeStateBlockTransitionPlan) :
    (state.discardCandidateOf plan).1.preparedRefs = state.preparedRefs := by
  unfold discardCandidateOf
  split
  · rfl
  · rfl

theorem recorded_releaseStagedOf (plan : PeStateBlockTransitionPlan) :
    (state.releaseStagedOf plan).1.recorded = state.recorded := by
  unfold releaseStagedOf
  split
  · rfl
  · rfl

theorem staged_released {plan : PeStateBlockTransitionPlan}
    (releases : plan.stagedRefEffect = .release) :
    (state.releaseStagedOf plan).1.preparedRefs = [] := by
  unfold releaseStagedOf
  rw [if_pos releases]
  exact preparedRefs_empty state

theorem Sound.discardOf (sound : Sound state) {event : PeStateBlockEvent}
    (releases : (state.transition event).stagedRefEffect = .release) :
    Sound (enter (state.discardOf (state.transition event))
      (state.transition event).next).1 where
  candidate left := by
    change (((state.discardCandidateOf (state.transition event)).1
      ).releaseStagedOf (state.transition event)).1.recorded.forEachOwnedComRef
        = []
    rw [recorded_releaseStagedOf]
    exact sound.candidate_discarded event left
  staged _ := staged_released releases

/-- The effect on the candidate alone: no staged reference may be left where
it may not be. -/
theorem Sound.discardCandidateOf (sound : Sound state)
    {event : PeStateBlockEvent}
    (staged : (state.transition event).next.holdsStaged = false →
      state.preparedRefs = []) :
    Sound (enter (state.discardCandidateOf (state.transition event))
      (state.transition event).next).1 where
  candidate left := sound.candidate_discarded event left
  staged left := (staged_discardCandidateOf _).trans (staged left)

/-- The effect on the staged references alone: no candidate may be left where
it may not be. -/
theorem Sound.releaseStagedOf (sound : Sound state)
    {plan : PeStateBlockTransitionPlan}
    (releases : plan.stagedRefEffect = .release)
    (empty : state.phase.holdsCandidate = false) :
    Sound (enter (state.releaseStagedOf plan) plan.next).1 where
  candidate _ := by
    change (state.releaseStagedOf plan).1.recorded.forEachOwnedComRef = []
    rw [recorded_releaseStagedOf]
    exact sound.candidate empty
  staged _ := staged_released releases

/-! ## Calls keep it -/

theorem poison_transition :
    (state.transition .poisonRequested).valid = true →
      (state.transition .poisonRequested).stagedRefEffect = .release := by
  unfold transition
  cases state.phase <;> decide

theorem teardown_transition :
    (state.transition .teardown).valid = true →
      (state.transition .teardown).stagedRefEffect = .release := by
  unfold transition
  cases state.phase <;> decide

section

variable (sound : Sound state)
include sound

theorem Sound.poison : Sound state.poison.1 := by
  unfold PeStateBlockTransactionState.poison
  simp only
  split
  · exact sound
  · rename_i valid
    rw [Bool.not_eq_false] at valid
    have same : state.transition .poisonRequested =
        state.invalidateRecorderCapabilities.1.transition .poisonRequested := by
      unfold transition
      rw [phase_invalidate]
    rw [same] at valid ⊢
    exact sound.invalidate.discardOf (poison_transition valid)

theorem Sound.discardAll : Sound state.discardAll.1 := by
  unfold PeStateBlockTransactionState.discardAll
  simp only
  split
  · exact sound
  · rename_i valid
    rw [Bool.not_eq_false] at valid
    have same : state.transition .teardown =
        state.invalidateRecorderCapabilities.1.transition .teardown := by
      unfold transition
      rw [phase_invalidate]
    rw [same] at valid ⊢
    exact sound.invalidate.discardOf (teardown_transition valid)

theorem Sound.beginAccepted
    (settled : state.phase = .idle → state.hasPreparedApply = false) :
    Sound state.beginAccepted.1.1 := by
  unfold PeStateBlockTransactionState.beginAccepted
  simp only
  split
  · exact sound
  · rename_i valid
    rw [Bool.not_eq_false] at valid
    split
    · exact sound.poison
    · have idle : state.phase = .idle := by
        unfold transition at valid
        cases phase : state.phase <;> rw [phase] at valid <;>
          first | rfl | contradiction
      have next := @Sound.discardCandidateOf _ sound .beginAccepted
        fun _ => preparedRefs_of_none (settled idle)
      exact ⟨next.candidate, next.staged⟩

/-- The calls that only discard a candidate leave staged references where
they may be. -/
theorem Sound.discardCandidateBy
    {event : PeStateBlockEvent}
    (keeps : (state.transition event).next.holdsStaged = false →
      state.phase.holdsStaged = false) :
    Sound (state.discardCandidateBy event).1 := by
  unfold PeStateBlockTransactionState.discardCandidateBy
  simp only
  split
  · exact sound
  · exact sound.discardCandidateOf fun left => sound.staged (keeps left)

theorem Sound.failPreparedApply : Sound state.failPreparedApply.1 := by
  unfold PeStateBlockTransactionState.failPreparedApply
  simp only
  split
  · exact sound
  · rename_i valid
    apply sound.releaseStagedOf
    · unfold transition at valid ⊢
      cases phase : state.phase <;> rw [phase] at valid <;>
        first | rfl | exact absurd rfl valid
    · unfold transition at valid
      cases phase : state.phase <;> rw [phase] at valid <;>
        first | rfl | exact absurd rfl valid

theorem Sound.resetSucceeded : Sound state.resetSucceeded.1 := by
  unfold PeStateBlockTransactionState.resetSucceeded
  simp only
  split
  · exact sound
  · rename_i valid
    apply sound.invalidate.releaseStagedOf
    · unfold transition at valid ⊢
      cases phase : state.phase <;> rw [phase] at valid <;>
        first | rfl | exact absurd rfl valid
    · rw [phase_invalidate]
      unfold transition at valid
      cases phase : state.phase <;> rw [phase] at valid <;>
        first | rfl | exact absurd rfl valid

theorem Sound.enterEndPublication : Sound state.enterEndPublication := by
  unfold PeStateBlockTransactionState.enterEndPublication
  simp only
  split
  · apply sound.move
    · unfold transition
      cases state.phase <;> decide
    · unfold transition
      cases state.phase <;> decide
  · exact sound

theorem Sound.markApplyPrepared : Sound state.markApplyPrepared := by
  unfold PeStateBlockTransactionState.markApplyPrepared
  simp only
  split
  · apply sound.move
    · unfold transition
      cases state.phase <;> decide
    · unfold transition
      cases state.phase <;> decide
  · exact sound

theorem Sound.finishPreparedApply : Sound state.finishPreparedApply := by
  unfold PeStateBlockTransactionState.finishPreparedApply
  simp only
  split
  · apply sound.move
    · unfold transition
      cases state.phase <;> decide
    · unfold transition
      cases state.phase <;> decide
  · exact sound

theorem Sound.stage (category : StagedCategory)
    (slot : Nat) (value : StateBlockValue) :
    Sound (state.stage category slot value).1.1 := by
  unfold PeStateBlockTransactionState.stage
  split
  · exact sound
  · rename_i idle
    rw [not_not] at idle
    split
    · exact sound
    · constructor
      · exact sound.candidate
      · intro left
        change state.phase.holdsStaged = false at left
        rw [idle] at left
        contradiction

theorem Sound.take (category : StagedCategory)
    (slot : Nat) : Sound (state.take category slot).1.1 := by
  unfold PeStateBlockTransactionState.take
  split
  · exact sound
  · rename_i checks
    rw [not_or, not_not] at checks
    constructor
    · exact sound.candidate
    · intro left
      change state.phase.holdsStaged = false at left
      rw [checks.1] at left
      contradiction

theorem Sound.withWriter
    (capability : RecordingCapability)
    (write : StateBlockRecorded → StateBlockRecorded) :
    Sound (state.withWriter capability write).1 := by
  unfold PeStateBlockTransactionState.withWriter
  split
  · exact sound
  · rename_i permitted
    constructor
    · intro free
      change state.phase.holdsCandidate = false at free
      unfold PeStateBlockPhase.holdsCandidate at free
      simp only [permits, Bool.not_eq_false, Bool.and_eq_true] at permitted
      rw [permitted.1.2, Bool.true_or] at free
      contradiction
    · exact sound.staged

end

/-- A recording begins with nothing staged: what a preparation that failed
had staged was discarded, and of one that was finished every reference was
taken. -/
def Settled (state : PeStateBlockTransactionState) :
    TransactionCall → Prop
  | .beginAccepted => state.phase = .idle → state.hasPreparedApply = false
  | _ => True

theorem Sound.perform (sound : Sound state) {call : TransactionCall}
    (settled : Settled state call) :
    Sound (Dxmt9.StateBlock.perform state call).1 := by
  cases call with
  | beginAccepted => exact sound.beginAccepted settled
  | beginFailed =>
      apply sound.stay
      unfold transition
      cases state.phase <;> rfl
  | endPreEffectFailed =>
      apply sound.stay
      unfold transition
      cases state.phase <;> rfl
  | abandonRecording =>
      apply sound.discardCandidateBy
      unfold transition
      cases state.phase <;> decide
  | failEnd =>
      apply sound.discardCandidateBy
      unfold transition
      cases state.phase <;> decide
  | enterEndPublication => exact sound.enterEndPublication
  | finishEndPublication published =>
      apply sound.discardCandidateBy
      unfold transition
      cases published <;> cases state.phase <;> decide
  | poison => exact sound.poison
  | markApplyPrepared => exact sound.markApplyPrepared
  | failPreparedApply => exact sound.failPreparedApply
  | finishPreparedApply => exact sound.finishPreparedApply
  | resetSucceeded => exact sound.resetSucceeded
  | resetFailed =>
      apply sound.stay
      unfold transition
      cases state.phase <;> rfl
  | discardAll => exact sound.discardAll
  | discardPrepared => exact ⟨sound.candidate, fun _ => preparedRefs_empty _⟩
  | invalidateRecorderCapabilities => exact sound.invalidate
  | withWriter capability write => exact sound.withWriter capability write
  | stageTexture slot raw => exact sound.stage _ _ _
  | stageStream slot value => exact sound.stage _ _ _
  | stageVertexShader raw => exact sound.stage _ _ _
  | stagePixelShader raw => exact sound.stage _ _ _
  | stageIndexBuffer raw => exact sound.stage _ _ _
  | stageRenderTarget slot raw => exact sound.stage _ _ _
  | stageDepthStencil raw => exact sound.stage _ _ _
  | takeTexture slot => exact sound.take _ _
  | takeStream slot => exact sound.take _ _
  | takeVertexShader => exact sound.take _ _
  | takePixelShader => exact sound.take _ _
  | takeIndexBuffer => exact sound.take _ _
  | takeRenderTarget slot => exact sound.take _ _
  | takeDepthStencil => exact sound.take _ _

/-! ## Epochs -/

theorem epoch_le_invalidate : state.recordingEpoch ≤
    state.invalidateRecorderCapabilities.1.recordingEpoch := by
  unfold invalidateRecorderCapabilities peStateBlockNextRecordingEpoch
  split
  · exact le_refl _
  · rename_i found
    split at found
    · contradiction
    · rw [← Option.some.inj found]
      exact Nat.le_succ _

section

variable (plan : PeStateBlockTransitionPlan)
include plan

theorem epoch_discardCandidateOf :
    (state.discardCandidateOf plan).1.recordingEpoch =
      state.recordingEpoch := by
  unfold discardCandidateOf
  split <;> rfl

theorem epoch_releaseStagedOf :
    (state.releaseStagedOf plan).1.recordingEpoch = state.recordingEpoch := by
  unfold releaseStagedOf
  split <;> rfl

theorem epoch_discardOf :
    (state.discardOf plan).1.recordingEpoch = state.recordingEpoch :=
  (epoch_releaseStagedOf plan).trans (epoch_discardCandidateOf plan)

end

theorem epoch_le_poison :
    state.recordingEpoch ≤ state.poison.1.recordingEpoch := by
  unfold poison
  simp only
  split
  · exact le_refl _
  · exact epoch_le_invalidate.trans_eq (epoch_discardOf _).symm

theorem epoch_discardCandidateBy (event : PeStateBlockEvent) :
    (state.discardCandidateBy event).1.recordingEpoch =
      state.recordingEpoch := by
  unfold discardCandidateBy
  simp only
  split
  · rfl
  · exact epoch_discardCandidateOf _

theorem epoch_lt_beginAccepted (accepted : state.beginAccepted.2 = true) :
    state.recordingEpoch < state.beginAccepted.1.1.recordingEpoch := by
  unfold beginAccepted at accepted ⊢
  simp only at accepted ⊢
  split at accepted
  · contradiction
  · rename_i valid
    rw [if_neg valid]
    unfold peStateBlockNextRecordingEpoch at accepted ⊢
    split at accepted
    · contradiction
    · rename_i epoch found
      split at found
      · contradiction
      · exact (Nat.lt_succ_self _).trans_eq (Option.some.inj found)

theorem epoch_le_beginAccepted :
    state.recordingEpoch ≤ state.beginAccepted.1.1.recordingEpoch := by
  cases accepted : state.beginAccepted.2 with
  | true => exact (epoch_lt_beginAccepted accepted).le
  | false =>
      unfold beginAccepted at accepted ⊢
      simp only at accepted ⊢
      split
      · exact le_refl _
      · rename_i valid
        rw [if_neg valid] at accepted
        split
        · exact epoch_le_poison
        · rename_i found
          rw [found] at accepted
          contradiction

theorem epoch_stage (category : StagedCategory) (slot : Nat)
    (value : StateBlockValue) :
    (state.stage category slot value).1.1.recordingEpoch =
      state.recordingEpoch := by
  unfold stage
  split
  · rfl
  · split <;> rfl

theorem epoch_take (category : StagedCategory) (slot : Nat) :
    (state.take category slot).1.1.recordingEpoch = state.recordingEpoch := by
  unfold take
  split <;> rfl

/-- Epochs never go back. -/
theorem epoch_le_perform (call : TransactionCall) :
    state.recordingEpoch ≤ (perform state call).1.recordingEpoch := by
  cases call with
  | beginAccepted => exact epoch_le_beginAccepted
  | beginFailed => exact le_refl _
  | endPreEffectFailed => exact le_refl _
  | abandonRecording => exact (epoch_discardCandidateBy _).ge
  | failEnd => exact (epoch_discardCandidateBy _).ge
  | enterEndPublication =>
      change _ ≤ state.enterEndPublication.recordingEpoch
      unfold enterEndPublication
      simp only
      split <;> exact le_refl _
  | finishEndPublication published =>
      exact (epoch_discardCandidateBy _).ge
  | poison => exact epoch_le_poison
  | markApplyPrepared =>
      change _ ≤ state.markApplyPrepared.recordingEpoch
      unfold markApplyPrepared
      simp only
      split <;> exact le_refl _
  | failPreparedApply =>
      change _ ≤ state.failPreparedApply.1.recordingEpoch
      unfold failPreparedApply
      simp only
      split
      · exact le_refl _
      · exact (epoch_releaseStagedOf _).ge
  | finishPreparedApply =>
      change _ ≤ state.finishPreparedApply.recordingEpoch
      unfold finishPreparedApply
      simp only
      split <;> exact le_refl _
  | resetSucceeded =>
      change _ ≤ state.resetSucceeded.1.recordingEpoch
      unfold resetSucceeded
      simp only
      split
      · exact le_refl _
      · exact epoch_le_invalidate.trans_eq (epoch_releaseStagedOf _).symm
  | resetFailed => exact le_refl _
  | discardAll =>
      change _ ≤ state.discardAll.1.recordingEpoch
      unfold discardAll
      simp only
      split
      · exact le_refl _
      · exact epoch_le_invalidate.trans_eq (epoch_discardOf _).symm
  | discardPrepared => exact le_refl _
  | invalidateRecorderCapabilities => exact epoch_le_invalidate
  | withWriter capability write =>
      change _ ≤ (state.withWriter capability write).1.recordingEpoch
      unfold withWriter
      split <;> exact le_refl _
  | stageTexture slot raw => exact (epoch_stage _ _ _).ge
  | stageStream slot value => exact (epoch_stage _ _ _).ge
  | stageVertexShader raw => exact (epoch_stage _ _ _).ge
  | stagePixelShader raw => exact (epoch_stage _ _ _).ge
  | stageIndexBuffer raw => exact (epoch_stage _ _ _).ge
  | stageRenderTarget slot raw => exact (epoch_stage _ _ _).ge
  | stageDepthStencil raw => exact (epoch_stage _ _ _).ge
  | takeTexture slot => exact (epoch_take _ _).ge
  | takeStream slot => exact (epoch_take _ _).ge
  | takeVertexShader => exact (epoch_take _ _).ge
  | takePixelShader => exact (epoch_take _ _).ge
  | takeIndexBuffer => exact (epoch_take _ _).ge
  | takeRenderTarget slot => exact (epoch_take _ _).ge
  | takeDepthStencil => exact (epoch_take _ _).ge

/-- A lifecycle call whose event has no row changes nothing. -/
theorem perform_of_invalid {call : TransactionCall}
    {event : PeStateBlockEvent}
    (raises : call.event state.phase = some event)
    (invalid : (state.transition event).valid = false) :
    perform state call = (state, []) := by
  have stays := plan_of_invalid invalid
  have same : { state with
      phase := (state.transition event).next } = state := by
    rw [show (state.transition event).next = state.phase from stays]
  cases call <;>
    first
      | contradiction
      | obtain rfl := Option.some.inj raises
  case beginAccepted =>
    change state.beginAccepted.1 = _
    unfold beginAccepted
    simp only [invalid, if_true]
  case beginFailed =>
    change (state.beginFailed, []) = _
    unfold beginFailed
    rw [same]
  case endPreEffectFailed =>
    change (state.endPreEffectFailed, []) = _
    unfold endPreEffectFailed
    rw [same]
  case resetFailed =>
    change (state.resetFailed, []) = _
    unfold PeStateBlockTransactionState.resetFailed
    rw [same]
  case abandonRecording =>
    change state.abandonRecording = _
    unfold abandonRecording discardCandidateBy
    simp only [invalid, if_true]
  case failEnd =>
    change state.failEnd = _
    unfold failEnd discardCandidateBy
    simp only [invalid, if_true]
  case finishEndPublication published =>
    change state.finishEndPublication published = _
    unfold finishEndPublication discardCandidateBy
    simp only [invalid, if_true]
  case poison =>
    change state.poison = _
    unfold poison
    simp only [invalid, if_true]
  case discardAll =>
    change state.discardAll = _
    unfold discardAll
    simp only [invalid, if_true]
  case failPreparedApply =>
    change state.failPreparedApply = _
    unfold failPreparedApply
    simp only [invalid, if_true]
  case resetSucceeded =>
    change state.resetSucceeded = _
    unfold resetSucceeded
    simp only [invalid, if_true]
  case enterEndPublication =>
    change (state.enterEndPublication, []) = _
    unfold enterEndPublication
    simp only [invalid, Bool.false_eq_true, if_false]
  case markApplyPrepared =>
    change (state.markApplyPrepared, []) = _
    unfold markApplyPrepared
    simp only [invalid, Bool.false_and, Bool.false_eq_true, if_false]
  case finishPreparedApply =>
    change (state.finishPreparedApply, []) = _
    unfold finishPreparedApply
    simp only [invalid, Bool.false_and, Bool.false_eq_true, if_false]

/-! ## Runs -/

/-- The transaction after calls. -/
def runTransaction (calls : List TransactionCall) : TransactionRun :=
  run TransactionRun.step { state := .initial } calls

/-- Every recording of a run begins with nothing staged. -/
def Disciplined (calls : List TransactionCall) : Prop :=
  ∀ before call after, calls = before ++ call :: after →
    Settled (runTransaction before).state call

theorem runTransaction_append (before after : List TransactionCall) :
    runTransaction (before ++ after) =
      run TransactionRun.step (runTransaction before) after :=
  run_append _ _ _ _

theorem runTransaction_concat (calls : List TransactionCall)
    (call : TransactionCall) :
    runTransaction (calls ++ [call]) = (runTransaction calls).step call :=
  run_append _ _ _ _

theorem Disciplined.front {before after : List TransactionCall}
    (disciplined : Disciplined (before ++ after)) : Disciplined before := by
  intro front call back split
  apply disciplined front call (back ++ after)
  rw [split, List.append_assoc, List.cons_append]

theorem runTransaction_sound {calls : List TransactionCall}
    (disciplined : Disciplined calls) :
    Sound (runTransaction calls).state := by
  induction calls using List.reverseRecOn with
  | nil => exact initial_sound
  | append_singleton front call induction =>
      rw [runTransaction_concat]
      exact (induction disciplined.front).perform
        (disciplined front call [] rfl)

theorem runTransaction_settles (calls : List TransactionCall)
    (reference : ComRef) :
    (runTransaction calls).log.count (.retained reference) =
      (runTransaction calls).log.count (.released reference) +
        (runTransaction calls).log.count (.taken reference) +
        (runTransaction calls).state.preparedRefs.count reference := by
  induction calls using List.reverseRecOn with
  | nil => rfl
  | append_singleton front call induction =>
      rw [runTransaction_concat]
      have settles := @settles_perform (runTransaction front).state call
        reference
      unfold TransactionRun.step
      simp only [List.count_append]
      omega

theorem epoch_le_run (run : TransactionRun) (calls : List TransactionCall) :
    run.state.recordingEpoch ≤
      (Transition.run TransactionRun.step run calls).state.recordingEpoch := by
  induction calls generalizing run with
  | nil => exact le_refl _
  | cons call rest induction =>
      exact (epoch_le_perform call).trans (induction (run.step call))

/-- A capability that is permitted later was issued in the recording that is
still open: the epoch is the same and no recording began in between. -/
theorem permits_same_recording (issued later : List TransactionCall)
    (permitted : (runTransaction (issued ++ later)).state.permits
      (runTransaction issued).state.recordingCapability = true) :
    (runTransaction issued).state.phase = .recording ∧
      (runTransaction (issued ++ later)).state.phase = .recording ∧
      (runTransaction (issued ++ later)).state.recordingEpoch =
        (runTransaction issued).state.recordingEpoch ∧
      ∀ front back, later = front ++ .beginAccepted :: back →
        (runTransaction (issued ++ front)).state.beginAccepted.2 = false := by
  simp only [permits, recordingCapability, Bool.and_eq_true,
    beq_iff_eq] at permitted
  obtain ⟨⟨opened, phase⟩, epoch⟩ := permitted
  refine ⟨opened, phase, epoch, ?_⟩
  rintro front back rfl
  by_contra accepted
  rw [Bool.not_eq_false] at accepted
  have first := epoch_le_run (runTransaction issued) front
  rw [← runTransaction_append] at first
  have begun := epoch_lt_beginAccepted accepted
  have last := epoch_le_run
    ((runTransaction (issued ++ front)).step .beginAccepted) back
  have joined : run TransactionRun.step
      ((runTransaction (issued ++ front)).step .beginAccepted) back =
        runTransaction (issued ++ (front ++ .beginAccepted :: back)) := by
    rw [← runTransaction_concat, ← runTransaction_append]
    simp only [List.append_assoc, List.singleton_append]
  rw [joined, epoch] at last
  exact absurd (first.trans_lt (begun.trans_le last)) (lt_irrefl _)

/-- How a run owns references. -/
structure Owned (calls : List TransactionCall) : Prop where
  /-- Each reference that was retained is released or taken, once, or it is
  still staged. -/
  once : ∀ reference,
    (runTransaction calls).log.count (.retained reference) =
      (runTransaction calls).log.count (.released reference) +
        (runTransaction calls).log.count (.taken reference) +
        (runTransaction calls).state.preparedRefs.count reference
  failed : (runTransaction calls).state.phase = .poisoned ∨
      (runTransaction calls).state.phase = .terminal →
    (runTransaction calls).state.preparedRefs = [] ∧
      (runTransaction calls).state.recorded.forEachOwnedComRef = []
  /-- A capability issued earlier writes only into its own recording. -/
  capability : ∀ issued later write, calls = issued ++ later →
    let written := (runTransaction calls).state.withWriter
      (runTransaction issued).state.recordingCapability write
    (written.2 = false → written.1 = (runTransaction calls).state) ∧
      (written.2 = true →
        (runTransaction issued).state.phase = .recording ∧
          (runTransaction calls).state.phase = .recording ∧
          (runTransaction calls).state.recordingEpoch =
            (runTransaction issued).state.recordingEpoch ∧
          ∀ front back, later = front ++ .beginAccepted :: back →
            (runTransaction (issued ++ front)).state.beginAccepted.2 = false)
  rowless : ∀ call event,
    TransactionCall.event (runTransaction calls).state.phase call =
        some event →
      ((runTransaction calls).state.transition event).valid = false →
      perform (runTransaction calls).state call =
        ((runTransaction calls).state, [])

/-- Whatever its calls, a transaction settles each reference that it retains
once, holds none when it has failed or ended, and lets a capability write only
into the recording it was issued in. -/
theorem transaction_owned (calls : List TransactionCall)
    (disciplined : Disciplined calls) : Owned calls where
  once := runTransaction_settles calls
  failed ended := by
    have sound := runTransaction_sound disciplined
    constructor
    · apply sound.staged
      rcases ended with phase | phase <;> rw [phase] <;> rfl
    · apply sound.candidate
      rcases ended with phase | phase <;> rw [phase] <;> rfl
  capability := by
    rintro issued later write rfl
    unfold withWriter
    simp only
    split
    · exact ⟨fun _ => rfl, nofun⟩
    · rename_i permitted
      rw [Bool.not_eq_false] at permitted
      exact ⟨nofun, fun _ => permits_same_recording issued later permitted⟩
  rowless _ _ raises invalid := perform_of_invalid raises invalid

/-- An apply that is finished, and a recording whose end fails. -/
theorem transaction_owned_failedEnd :
    Disciplined [.stageTexture 0 5, .markApplyPrepared, .takeTexture 0,
        .finishPreparedApply, .beginAccepted, .failEnd] ∧
      Owned [.stageTexture 0 5, .markApplyPrepared, .takeTexture 0,
        .finishPreparedApply, .beginAccepted, .failEnd] := by
  have disciplined : Disciplined [.stageTexture 0 5, .markApplyPrepared,
      .takeTexture 0, .finishPreparedApply, .beginAccepted, .failEnd] := by
    intro before call after split
    cases call with
    | beginAccepted =>
        intro _
        match before, split with
        | [], split => cases split
        | [_], split => cases split
        | [_, _], split => cases split
        | [_, _, _], split => cases split
        | [_, _, _, _], split => cases split; rfl
        | [_, _, _, _, _], split => cases split
        | _ :: _ :: _ :: _ :: _ :: _ :: rest, split =>
            cases rest <;> cases split
    | _ => trivial
  exact ⟨disciplined, transaction_owned _ disciplined⟩

end Dxmt9.StateBlock
