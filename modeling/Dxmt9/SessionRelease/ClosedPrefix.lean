import Dxmt9.SessionRelease.SessionReleaseState

/-!
# Closed prefixes

An acknowledged observation leaves a witness that no pass is active behind it.
While the encoder stays untouched, the next observation of the same prefix may
be acknowledged by the witness alone.
-/

namespace Dxmt9.SessionRelease

inductive SessionReleaseWriter where
  | publish
  | retainQueryRange
deriving DecidableEq

def retainWriterForSessionRelease (writer : SessionReleaseWriter)
    (rangesEnabled : Bool) (reason : SessionReleaseReason)
    (action : SessionReleaseAction) : Bool :=
  rangesEnabled && writer == .retainQueryRange &&
    reason == .directObservation && action == .closePass

structure ClosedPrefixContext where
  queue : UInt64 := 0
  epoch : UInt64 := 0
  encoderWorkGeneration : UInt64 := 0
  publishedSequence : UInt64 := 0
  encoderQuiescent : Bool := false
  stopped : Bool := false
deriving DecidableEq

def ClosedPrefixContext.valid (context : ClosedPrefixContext) : Bool :=
  context.queue != 0 && context.epoch != 0 &&
    context.encoderWorkGeneration != 0 && context.encoderQuiescent &&
    !context.stopped

inductive ClosedPrefixOutcome where
  | noActivePass
  | closed
  | invalid
deriving DecidableEq

/-- Only an ordered observation that closes a pass is eligible. -/
def eligible (snapshot : SessionReleaseSnapshot) : Bool :=
  snapshot.valid && snapshot.origin == .ordered &&
    snapshot.generation == 1 &&
    snapshot.event.reason == .directObservation &&
    snapshot.event.action == .closePass

/-- The event closes a pass at a sequence. -/
structure ClosesAt (event : SessionReleaseEvent) (sequence : UInt64) :
    Prop where
  reason : event.reason = .directObservation
  action : event.action = .closePass
  fence : event.fenceSeqId = sequence

theorem closesAt_of_eligible {snapshot : SessionReleaseSnapshot}
    (isEligible : eligible snapshot = true) :
    ClosesAt snapshot.event snapshot.event.fenceSeqId := by
  unfold eligible at isEligible
  simp only [Bool.and_eq_true, beq_iff_eq] at isEligible
  exact ⟨isEligible.1.2, isEligible.2, rfl⟩

/-- A witness is of an observation that closed the published prefix of its
context. -/
structure ClosedPrefixWitness where
  context : ClosedPrefixContext
  acknowledged : SessionReleaseEvent
  closes : ClosesAt acknowledged context.publishedSequence
deriving DecidableEq

namespace ClosedPrefixWitness

/-- Acknowledges the only pending event, and certifies that it did. -/
def acknowledgeAndCertify (transport : SessionReleaseState)
    (acknowledged : SessionReleaseSnapshot) (context : ClosedPrefixContext)
    (outcome : ClosedPrefixOutcome)
    (coveredRawOrdinal coveredSequence : UInt64) :
    SessionReleaseState × Option ClosedPrefixWitness :=
  if checks : context.valid = true ∧ eligible acknowledged = true ∧
      (outcome = .closed ∨ outcome = .noActivePass) ∧
      transport.terminalRequested = false ∧ transport.orderedCount = 1 ∧
      transport.peekNext = some acknowledged ∧
      context.publishedSequence = coveredSequence ∧
      acknowledged.event.fenceSeqId = coveredSequence then
    let done := transport.acknowledge acknowledged .passClosed
      coveredRawOrdinal coveredSequence
    if done.1 = .acknowledged then
      (done.2, some
        { context := context
          acknowledged := acknowledged.event
          closes := by
            obtain ⟨_, isEligible, _, _, _, _, published, fence⟩ := checks
            rw [published, ← fence]
            exact closesAt_of_eligible isEligible })
    else (done.2, none)
  else (transport, none)

def permits (witness : ClosedPrefixWitness)
    (transport : SessionReleaseState) (next : SessionReleaseSnapshot)
    (context : ClosedPrefixContext) (writer : SessionReleaseWriter)
    (rangesEnabled : Bool) : Bool :=
  context.valid && context.queue == witness.context.queue &&
    context.epoch == witness.context.epoch &&
    context.encoderWorkGeneration ==
      witness.context.encoderWorkGeneration &&
    context.publishedSequence == witness.context.publishedSequence &&
    retainWriterForSessionRelease writer rangesEnabled next.event.reason
      next.event.action &&
    eligible next && !transport.terminalRequested &&
    transport.orderedCount == 1 && transport.peekNext == some next &&
    transport.acknowledgedOrdinal == witness.acknowledged.ordinal &&
    decide (witness.acknowledged.ordinal < next.event.ordinal) &&
    next.event.ordinal - witness.acknowledged.ordinal == 1 &&
    decide (witness.acknowledged.fenceRawOrdinal ≤
      next.event.fenceRawOrdinal) &&
    next.event.fenceSeqId == witness.context.publishedSequence

end ClosedPrefixWitness

structure ClosedPrefixCoordinator where
  context : ClosedPrefixContext
  witness : Option ClosedPrefixWitness := none
deriving DecidableEq

namespace ClosedPrefixCoordinator

def create (queue : UInt64) : ClosedPrefixCoordinator :=
  { context :=
      { queue := queue, epoch := 1, encoderWorkGeneration := 1 } }

/-- A generation that cannot advance stops the coordinator. -/
def beginMutation (coordinator : ClosedPrefixCoordinator) :
    ClosedPrefixCoordinator :=
  let context :=
    { coordinator.context with encoderQuiescent := false }
  { witness := none
    context :=
      if context.encoderWorkGeneration = maxUInt64 then
        { context with stopped := true }
      else
        { context with
          encoderWorkGeneration := context.encoderWorkGeneration + 1 } }

def stop (coordinator : ClosedPrefixCoordinator) :
    ClosedPrefixCoordinator :=
  let mutated := coordinator.beginMutation
  { mutated with
    context :=
      { mutated.context with
        stopped := true
        epoch :=
          if mutated.context.epoch ≠ maxUInt64 then
            mutated.context.epoch + 1
          else mutated.context.epoch } }

/-- The acknowledgement behind a run of the helper, certified if it can
be. -/
def acknowledgeClose (coordinator : ClosedPrefixCoordinator)
    (transport : SessionReleaseState) (snapshot : SessionReleaseSnapshot)
    (outcome : ClosedPrefixOutcome)
    (rawCoverage sequenceCoverage publishedSequence : UInt64) :
    SessionReleaseAckResult × SessionReleaseState ×
      ClosedPrefixCoordinator :=
  let context :=
    { coordinator.context with
      publishedSequence := publishedSequence
      encoderQuiescent := !coordinator.context.stopped }
  let certified := ClosedPrefixWitness.acknowledgeAndCertify transport
    snapshot context outcome rawCoverage sequenceCoverage
  match certified.2 with
  | some witness =>
      (.acknowledged, certified.1,
        { context := context, witness := some witness })
  | none =>
      let done := certified.1.acknowledge snapshot .passClosed rawCoverage
        sequenceCoverage
      (done.1, done.2,
        { context := { context with encoderQuiescent := false }
          witness := none })

/-- What an attempt to reuse a closed prefix leaves behind. -/
structure Reuse where
  succeeded : Bool
  transport : SessionReleaseState
  coordinator : ClosedPrefixCoordinator
  rawCoverage : UInt64

def tryAcknowledgeReuse (coordinator : ClosedPrefixCoordinator)
    (transport : SessionReleaseState) (snapshot : SessionReleaseSnapshot)
    (writer : SessionReleaseWriter) (rangesEnabled : Bool)
    (publishedSequence sequenceCoverage : UInt64)
    (contextSideEffectsAbsent : Bool) (rawCoverage : UInt64) : Reuse :=
  let failed : Reuse :=
    { succeeded := false
      transport := transport
      coordinator := coordinator
      rawCoverage := rawCoverage }
  match coordinator.witness with
  | none => failed
  | some witness =>
      if contextSideEffectsAbsent = false ∨
          publishedSequence ≠ coordinator.context.publishedSequence ∨
          sequenceCoverage ≠ coordinator.context.publishedSequence ∨
          witness.permits transport snapshot coordinator.context writer
            rangesEnabled = false then failed
      else
        let nextRawCoverage :=
          max rawCoverage snapshot.event.fenceRawOrdinal
        let renewed := ClosedPrefixWitness.acknowledgeAndCertify transport
          snapshot coordinator.context .noActivePass nextRawCoverage
          sequenceCoverage
        match renewed.2 with
        | none => { failed with transport := renewed.1 }
        | some witness =>
            { succeeded := true
              transport := renewed.1
              coordinator := { coordinator with witness := some witness }
              rawCoverage := nextRawCoverage }

end ClosedPrefixCoordinator

/-- What happened to the prefix: a change of the encoder, or the
acknowledgement of an event by the transport alone, behind a certified run of
the helper, or by reuse. -/
inductive PrefixEvent where
  | mutated
  | acknowledged (event : SessionReleaseEvent)
  | certified (event : SessionReleaseEvent) (publishedSequence : UInt64)
  | reused (event : SessionReleaseEvent)
deriving DecidableEq

/-- One coordinator, one transport, and what happened so far. -/
structure ClosedPrefixQueue where
  transport : Transport := {}
  coordinator : ClosedPrefixCoordinator
  journal : List PrefixEvent := []

inductive PrefixCall where
  | transport (call : Call)
  | beginMutation
  | stop
  | acknowledgeClose (snapshot : SessionReleaseSnapshot)
      (outcome : ClosedPrefixOutcome)
      (rawCoverage sequenceCoverage publishedSequence : UInt64)
  | tryAcknowledgeReuse (snapshot : SessionReleaseSnapshot)
      (writer : SessionReleaseWriter) (rangesEnabled : Bool)
      (publishedSequence sequenceCoverage : UInt64)
      (contextSideEffectsAbsent : Bool) (rawCoverage : UInt64)
deriving DecidableEq

/-- The event that a call of the transport acknowledges. -/
def Call.acknowledges (state : SessionReleaseState) :
    Call → Option SessionReleaseEvent
  | .acknowledge snapshot completion coveredRawOrdinal coveredSeqId =>
      if (state.acknowledge snapshot completion coveredRawOrdinal
        coveredSeqId).1 = .acknowledged then some snapshot.event else none
  | _ => none

namespace ClosedPrefixQueue

def acknowledge (queue : ClosedPrefixQueue) (state : SessionReleaseState)
    (coordinator : ClosedPrefixCoordinator)
    (snapshot : SessionReleaseSnapshot) (rawCoverage sequenceCoverage : UInt64)
    (event : PrefixEvent) : ClosedPrefixQueue :=
  { transport :=
      { state := state
        log := queue.transport.log ++
          [.acknowledged snapshot .passClosed rawCoverage
            sequenceCoverage] }
    coordinator := coordinator
    journal := queue.journal ++ [event] }

def step (queue : ClosedPrefixQueue) : PrefixCall → ClosedPrefixQueue
  | .transport call =>
      { queue with
        transport := queue.transport.step call
        journal := queue.journal ++
          ((call.acknowledges queue.transport.state).map
            PrefixEvent.acknowledged).toList }
  | .beginMutation =>
      { queue with
        coordinator := queue.coordinator.beginMutation
        journal := queue.journal ++ [.mutated] }
  | .stop =>
      { queue with
        coordinator := queue.coordinator.stop
        journal := queue.journal ++ [.mutated] }
  | .acknowledgeClose snapshot outcome rawCoverage sequenceCoverage
      publishedSequence =>
      let done := queue.coordinator.acknowledgeClose queue.transport.state
        snapshot outcome rawCoverage sequenceCoverage publishedSequence
      if done.1 ≠ .acknowledged then
        { queue with
          transport := { queue.transport with state := done.2.1 }
          coordinator := done.2.2 }
      else
        queue.acknowledge done.2.1 done.2.2 snapshot rawCoverage
          sequenceCoverage
          (if done.2.2.witness.isSome then
            .certified snapshot.event publishedSequence
          else .acknowledged snapshot.event)
  | .tryAcknowledgeReuse snapshot writer rangesEnabled publishedSequence
      sequenceCoverage contextSideEffectsAbsent rawCoverage =>
      let done := queue.coordinator.tryAcknowledgeReuse queue.transport.state
        snapshot writer rangesEnabled publishedSequence sequenceCoverage
        contextSideEffectsAbsent rawCoverage
      if done.succeeded then
        queue.acknowledge done.transport done.coordinator snapshot
          done.rawCoverage sequenceCoverage (.reused snapshot.event)
      else
        { queue with
          transport := { queue.transport with state := done.transport }
          coordinator := done.coordinator }

/-- The queue after calls on a new coordinator and a new transport. -/
def runPrefix (identity : UInt64) (calls : List PrefixCall) :
    ClosedPrefixQueue :=
  Transition.run step
    { coordinator := ClosedPrefixCoordinator.create identity } calls

end ClosedPrefixQueue

end Dxmt9.SessionRelease
