/-!
# The transitions of a state block transaction

A row for every event that is legal in a phase, with its effects on the
recorded candidate and on the references staged for an apply.
-/

namespace Dxmt9.StateBlock

inductive PeStateBlockPhase where
  | idle
  | recording
  | endPublication
  | applyPrepared
  | poisoned
  | terminal
deriving DecidableEq

inductive PeStateBlockEvent where
  | poisonRequested
  | beginFailed
  | beginAccepted
  | endPreEffectFailed
  | endBackendFailed
  | endBackendAccepted
  | endWrapperFailed
  | endPublished
  | capturePreEffectFailed
  | captureBackendFailed
  | capturePublished
  | applyPrepareFailed
  | applyPrepared
  | applyBackendFailed
  | applyBackendAccepted
  | resetStarted
  | resetFailed
  | resetAccepted
  | teardown
deriving DecidableEq

inductive PeStateBlockAction where
  | preserve
  | beginRecording
  | enterEndPublication
  | publishEnd
  | failStop
  | publishCapture
  | retainApplyRefs
  | transferApplyRefs
  | abandonForReset
  | recoverReset
  | teardown
deriving DecidableEq

inductive PeStateBlockCandidateEffect where
  | preserve
  | discard
deriving DecidableEq

inductive PeStateBlockStagedRefEffect where
  | preserve
  | retain
  | release
  | transfer
deriving DecidableEq

inductive PeStateBlockCaptureEffect where
  | preserve
  | publish
deriving DecidableEq

structure PeStateBlockTransitionPlan where
  next : PeStateBlockPhase
  action : PeStateBlockAction := .preserve
  candidateEffect : PeStateBlockCandidateEffect := .preserve
  stagedRefEffect : PeStateBlockStagedRefEffect := .preserve
  captureEffect : PeStateBlockCaptureEffect := .preserve
  valid : Bool
deriving DecidableEq

structure PeStateBlockTransitionRow where
  phase : PeStateBlockPhase
  event : PeStateBlockEvent
  next : PeStateBlockPhase
  action : PeStateBlockAction
  candidateEffect : PeStateBlockCandidateEffect
  stagedRefEffect : PeStateBlockStagedRefEffect
  captureEffect : PeStateBlockCaptureEffect
deriving DecidableEq

def kPeStateBlockTransitionTable : List PeStateBlockTransitionRow :=
  [⟨.idle, .poisonRequested, .poisoned, .failStop,
      .discard, .release, .preserve⟩,
    ⟨.recording, .poisonRequested, .poisoned, .failStop,
      .discard, .release, .preserve⟩,
    ⟨.endPublication, .poisonRequested, .poisoned, .failStop,
      .discard, .release, .preserve⟩,
    ⟨.applyPrepared, .poisonRequested, .poisoned, .failStop,
      .discard, .release, .preserve⟩,
    ⟨.poisoned, .poisonRequested, .poisoned, .failStop,
      .discard, .release, .preserve⟩,
    ⟨.idle, .beginFailed, .idle, .preserve,
      .preserve, .preserve, .preserve⟩,
    ⟨.idle, .beginAccepted, .recording, .beginRecording,
      .discard, .preserve, .preserve⟩,
    ⟨.recording, .endPreEffectFailed, .recording, .preserve,
      .preserve, .preserve, .preserve⟩,
    ⟨.recording, .endBackendFailed, .poisoned, .failStop,
      .discard, .preserve, .preserve⟩,
    ⟨.recording, .endBackendAccepted, .endPublication, .enterEndPublication,
      .preserve, .preserve, .preserve⟩,
    ⟨.endPublication, .endWrapperFailed, .poisoned, .failStop,
      .discard, .preserve, .preserve⟩,
    ⟨.endPublication, .endPublished, .idle, .publishEnd,
      .discard, .preserve, .preserve⟩,
    ⟨.idle, .capturePreEffectFailed, .idle, .preserve,
      .preserve, .preserve, .preserve⟩,
    ⟨.idle, .captureBackendFailed, .poisoned, .failStop,
      .preserve, .preserve, .preserve⟩,
    ⟨.idle, .capturePublished, .idle, .publishCapture,
      .preserve, .preserve, .publish⟩,
    ⟨.idle, .applyPrepareFailed, .idle, .preserve,
      .preserve, .preserve, .preserve⟩,
    ⟨.idle, .applyPrepared, .applyPrepared, .retainApplyRefs,
      .preserve, .retain, .preserve⟩,
    ⟨.applyPrepared, .applyBackendFailed, .poisoned, .failStop,
      .preserve, .release, .preserve⟩,
    ⟨.applyPrepared, .applyBackendAccepted, .idle, .transferApplyRefs,
      .preserve, .transfer, .preserve⟩,
    ⟨.idle, .resetStarted, .idle, .abandonForReset,
      .discard, .preserve, .preserve⟩,
    ⟨.recording, .resetStarted, .idle, .abandonForReset,
      .discard, .preserve, .preserve⟩,
    ⟨.poisoned, .resetStarted, .poisoned, .abandonForReset,
      .discard, .preserve, .preserve⟩,
    ⟨.idle, .resetFailed, .idle, .preserve,
      .preserve, .preserve, .preserve⟩,
    ⟨.poisoned, .resetFailed, .poisoned, .preserve,
      .preserve, .preserve, .preserve⟩,
    ⟨.idle, .resetAccepted, .idle, .recoverReset,
      .discard, .release, .preserve⟩,
    ⟨.poisoned, .resetAccepted, .idle, .recoverReset,
      .discard, .release, .preserve⟩,
    ⟨.idle, .teardown, .terminal, .teardown,
      .discard, .release, .preserve⟩,
    ⟨.recording, .teardown, .terminal, .teardown,
      .discard, .release, .preserve⟩,
    ⟨.endPublication, .teardown, .terminal, .teardown,
      .discard, .release, .preserve⟩,
    ⟨.applyPrepared, .teardown, .terminal, .teardown,
      .discard, .release, .preserve⟩,
    ⟨.poisoned, .teardown, .terminal, .teardown,
      .discard, .release, .preserve⟩]

/-- The first row of the phase and the event; without one nothing moves. -/
def planPeStateBlockTransition (phase : PeStateBlockPhase)
    (event : PeStateBlockEvent) : PeStateBlockTransitionPlan :=
  match kPeStateBlockTransitionTable.find? fun row =>
      row.phase == phase && row.event == event with
  | some row =>
      { next := row.next
        action := row.action
        candidateEffect := row.candidateEffect
        stagedRefEffect := row.stagedRefEffect
        captureEffect := row.captureEffect
        valid := true }
  | none => { next := phase, valid := false }

/-- A phase in which a candidate is recorded or published. -/
def PeStateBlockPhase.holdsCandidate (phase : PeStateBlockPhase) : Bool :=
  phase == .recording || phase == .endPublication

/-- A phase in which references may be staged. -/
def PeStateBlockPhase.holdsStaged (phase : PeStateBlockPhase) : Bool :=
  phase == .idle || phase == .applyPrepared

variable {phase : PeStateBlockPhase} {event : PeStateBlockEvent}

theorem plan_of_invalid
    (invalid : (planPeStateBlockTransition phase event).valid = false) :
    (planPeStateBlockTransition phase event).next = phase := by
  unfold planPeStateBlockTransition at *
  split at invalid
  · contradiction
  · rfl

theorem plan_discards
    (held : phase.holdsCandidate = true)
    (left : (planPeStateBlockTransition phase event).next.holdsCandidate =
      false) :
    (planPeStateBlockTransition phase event).candidateEffect = .discard := by
  cases phase <;> cases event <;> first | rfl | contradiction

end Dxmt9.StateBlock
