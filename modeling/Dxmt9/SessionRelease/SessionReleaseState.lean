import Dxmt9.Queue.Ring
import Dxmt9.Transition.Run

/-!
# The session release transport

Ordered release events wait in a fixed ring; terminal events share one
coalescing latch.  Both take their ordinals from one counter and their fences
from one waterline.
-/

namespace Dxmt9.SessionRelease

def kMaxOrderedSessionReleaseEvents : Nat := 32

def maxUInt64 : UInt64 := 0xFFFFFFFFFFFFFFFF

inductive SessionReleaseReason where
  | present
  | explicitFlush
  | directObservation
  | producerSequenceWait
  | sessionCap
  | independentSubmission
  | initializerWait
  | shutdown
  | deviceLoss
deriving DecidableEq

inductive SessionReleaseAction where
  | closePass
  | submitSession
  | submitAndWait
deriving DecidableEq

structure SessionReleaseEvent where
  ordinal : UInt64 := 0
  reason : SessionReleaseReason := .present
  action : SessionReleaseAction := .closePass
  fenceRawOrdinal : UInt64 := 0
  fenceSeqId : UInt64 := 0
deriving DecidableEq

instance : Inhabited SessionReleaseEvent := ⟨{}⟩

def SessionReleaseEvent.valid (event : SessionReleaseEvent) : Bool :=
  event.ordinal != 0

inductive SessionReleaseOrigin where
  | ordered
  | terminal
deriving DecidableEq

structure SessionReleaseSnapshot where
  origin : SessionReleaseOrigin := .ordered
  event : SessionReleaseEvent := {}
  generation : UInt64 := 0
deriving DecidableEq

def SessionReleaseSnapshot.valid (snapshot : SessionReleaseSnapshot) :
    Bool :=
  snapshot.event.valid && snapshot.generation != 0

inductive SessionReleasePostStatus where
  | posted
  | advanced
  | full
  | invalid
  | stopped
  | exhausted
deriving DecidableEq

structure SessionReleasePostResult where
  status : SessionReleasePostStatus := .invalid
  snapshot : SessionReleaseSnapshot := {}
deriving DecidableEq

def SessionReleasePostResult.accepted (result : SessionReleasePostResult) :
    Bool :=
  result.status == .posted || result.status == .advanced

inductive SessionReleaseCompletion where
  | passClosed
  | sessionSubmitted
deriving DecidableEq

inductive SessionReleaseAckResult where
  | acknowledged
  | invalid
  | notNext
  | stale
  | fenceNotCovered
  | actionNotCompleted
deriving DecidableEq

def sessionReleaseFenceCovered (event : SessionReleaseEvent)
    (coveredRawOrdinal coveredSeqId : UInt64) : Bool :=
  event.valid &&
    (event.fenceRawOrdinal == 0 ||
      event.fenceRawOrdinal ≤ coveredRawOrdinal) &&
    (event.fenceSeqId == 0 || event.fenceSeqId ≤ coveredSeqId)

/-- Waiting for the GPU is not part of the acknowledgement. -/
def sessionReleaseCompletionSatisfies (action : SessionReleaseAction)
    (completion : SessionReleaseCompletion) : Bool :=
  match action with
  | .closePass =>
      completion == .passClosed || completion == .sessionSubmitted
  | .submitSession => completion == .sessionSubmitted
  | .submitAndWait => completion == .sessionSubmitted

structure Latch where
  event : SessionReleaseEvent := {}
  generation : UInt64 := 0
  active : Bool := false
deriving DecidableEq

structure SessionReleaseState where
  ordered : List SessionReleaseEvent :=
    List.replicate kMaxOrderedSessionReleaseEvents {}
  orderedHead : Nat := 0
  orderedTail : Nat := 0
  orderedCount : Nat := 0
  terminal : Latch := {}
  nextOrdinal : UInt64 := 1
  acknowledgedOrdinal : UInt64 := 0
  lastFenceRawOrdinal : UInt64 := 0
  lastFenceSeqId : UInt64 := 0
  terminalRequested : Bool := false
deriving DecidableEq

namespace SessionReleaseState

def nextIndex (index : Nat) : Nat :=
  (index + 1) % kMaxOrderedSessionReleaseEvents

def orderedEmpty (state : SessionReleaseState) : Bool :=
  state.orderedCount == 0

def orderedFull (state : SessionReleaseState) : Bool :=
  state.orderedCount == state.ordered.length

def terminalReason (reason : SessionReleaseReason) : Bool :=
  reason == .shutdown || reason == .deviceLoss

def ordinaryReason (reason : SessionReleaseReason) : Bool :=
  match reason with
  | .shutdown => false
  | .deviceLoss => false
  | _ => true

def fenceNotBefore
    (rawOrdinal seqId priorRawOrdinal priorSeqId : UInt64) : Bool :=
  priorRawOrdinal ≤ rawOrdinal && priorSeqId ≤ seqId

/-- The next ordinal, zero once they are exhausted. -/
def allocateOrdinal (state : SessionReleaseState) :
    UInt64 × SessionReleaseState :=
  if state.nextOrdinal == 0 || state.nextOrdinal == maxUInt64 then
    (0, state)
  else
    (state.nextOrdinal, { state with nextOrdinal := state.nextOrdinal + 1 })

def snapshotFor (latch : Latch) (origin : SessionReleaseOrigin) :
    SessionReleaseSnapshot :=
  if latch.active then
    { origin := origin, event := latch.event, generation := latch.generation }
  else {}

def postQueued (state : SessionReleaseState) (reason : SessionReleaseReason)
    (action : SessionReleaseAction) (fenceRawOrdinal fenceSeqId : UInt64) :
    SessionReleasePostResult × SessionReleaseState :=
  if state.orderedFull then ({ status := .full }, state)
  else
    let allocated := state.allocateOrdinal
    if allocated.1 = 0 then ({ status := .exhausted }, state)
    else
      let event : SessionReleaseEvent :=
        { ordinal := allocated.1
          reason := reason
          action := action
          fenceRawOrdinal := fenceRawOrdinal
          fenceSeqId := fenceSeqId }
      ({ status := .posted
         snapshot := { origin := .ordered, event := event, generation := 1 } },
        { allocated.2 with
          ordered := state.ordered.set state.orderedTail event
          orderedTail := nextIndex state.orderedTail
          orderedCount := state.orderedCount + 1
          lastFenceRawOrdinal := fenceRawOrdinal
          lastFenceSeqId := fenceSeqId })

def tryPostOrdered (state : SessionReleaseState)
    (reason : SessionReleaseReason) (action : SessionReleaseAction)
    (fenceRawOrdinal fenceSeqId : UInt64) :
    SessionReleasePostResult × SessionReleaseState :=
  if state.terminalRequested then ({ status := .stopped }, state)
  else if !ordinaryReason reason ||
      !fenceNotBefore fenceRawOrdinal fenceSeqId
        state.lastFenceRawOrdinal state.lastFenceSeqId then
    ({ status := .invalid }, state)
  else state.postQueued reason action fenceRawOrdinal fenceSeqId

/-- The terminal latch is the only latch.  An active one keeps its ordinal,
its action and a device loss. -/
def postOrAdvanceLatch (state : SessionReleaseState)
    (origin : SessionReleaseOrigin) (reason : SessionReleaseReason)
    (action : SessionReleaseAction) (fenceRawOrdinal fenceSeqId : UInt64) :
    SessionReleasePostResult × SessionReleaseState :=
  if !fenceNotBefore fenceRawOrdinal fenceSeqId
      state.lastFenceRawOrdinal state.lastFenceSeqId then
    ({ status := .invalid }, state)
  else if state.terminal.active then
    if state.terminal.generation == maxUInt64 then
      ({ status := .exhausted }, state)
    else
      let latch : Latch :=
        { event :=
            { state.terminal.event with
              fenceRawOrdinal :=
                max state.terminal.event.fenceRawOrdinal fenceRawOrdinal
              fenceSeqId := max state.terminal.event.fenceSeqId fenceSeqId
              reason :=
                if reason = .deviceLoss then reason
                else state.terminal.event.reason }
          generation := state.terminal.generation + 1
          active := true }
      ({ status := .advanced, snapshot := snapshotFor latch origin },
        { state with
          terminal := latch
          lastFenceRawOrdinal := fenceRawOrdinal
          lastFenceSeqId := fenceSeqId })
  else
    let allocated := state.allocateOrdinal
    if allocated.1 = 0 then ({ status := .exhausted }, state)
    else
      let latch : Latch :=
        { event :=
            { ordinal := allocated.1
              reason := reason
              action := action
              fenceRawOrdinal := fenceRawOrdinal
              fenceSeqId := fenceSeqId }
          generation := 1
          active := true }
      ({ status := .posted, snapshot := snapshotFor latch origin },
        { allocated.2 with
          terminal := latch
          lastFenceRawOrdinal := fenceRawOrdinal
          lastFenceSeqId := fenceSeqId })

/-- Unknown and stale fences inherit the waterline. -/
def requestTerminal (state : SessionReleaseState)
    (reason : SessionReleaseReason) (fenceRawOrdinal fenceSeqId : UInt64) :
    SessionReleasePostResult × SessionReleaseState :=
  if !terminalReason reason then ({ status := .invalid }, state)
  else if state.terminalRequested && !state.terminal.active then
    ({ status := .stopped }, state)
  else
    let result := state.postOrAdvanceLatch .terminal reason .submitSession
      (max fenceRawOrdinal state.lastFenceRawOrdinal)
      (max fenceSeqId state.lastFenceSeqId)
    if result.1.accepted then
      (result.1, { result.2 with terminalRequested := true })
    else result

/-- The valid candidate with the lower ordinal. -/
def consider (next : Option SessionReleaseSnapshot)
    (candidate : SessionReleaseSnapshot) : Option SessionReleaseSnapshot :=
  if !candidate.valid then next
  else
    match next with
    | none => some candidate
    | some found =>
        if candidate.event.ordinal < found.event.ordinal then some candidate
        else some found

def orderedSnapshot (event : SessionReleaseEvent) : SessionReleaseSnapshot :=
  { origin := .ordered, event := event, generation := 1 }

def peekNext (state : SessionReleaseState) : Option SessionReleaseSnapshot :=
  let next :=
    if state.orderedEmpty then none
    else
      consider none
        (orderedSnapshot (state.ordered.getD state.orderedHead default))
  consider next (snapshotFor state.terminal .terminal)

def acknowledge (state : SessionReleaseState)
    (snapshot : SessionReleaseSnapshot)
    (completion : SessionReleaseCompletion)
    (coveredRawOrdinal coveredSeqId : UInt64) :
    SessionReleaseAckResult × SessionReleaseState :=
  if !snapshot.valid then (.invalid, state)
  else
    match state.peekNext with
    | none => (.notNext, state)
    | some next =>
        if next.origin ≠ snapshot.origin ||
            next.event.ordinal != snapshot.event.ordinal then
          (.notNext, state)
        else if next.generation != snapshot.generation ||
            next.event ≠ snapshot.event then (.stale, state)
        else if !sessionReleaseFenceCovered next.event coveredRawOrdinal
            coveredSeqId then (.fenceNotCovered, state)
        else if !sessionReleaseCompletionSatisfies next.event.action
            completion then (.actionNotCompleted, state)
        else
          match next.origin with
          | .ordered =>
              (.acknowledged,
                { state with
                  ordered := state.ordered.set state.orderedHead {}
                  orderedHead := nextIndex state.orderedHead
                  orderedCount := state.orderedCount - 1
                  acknowledgedOrdinal := next.event.ordinal })
          | .terminal =>
              (.acknowledged,
                { state with
                  terminal := {}
                  acknowledgedOrdinal := next.event.ordinal })

end SessionReleaseState

/-- What a call accepted: a post, an advance of the latch, or the
acknowledgement of an event. -/
inductive Effect where
  | posted (snapshot : SessionReleaseSnapshot)
  | advanced (snapshot : SessionReleaseSnapshot)
  | acknowledged (snapshot : SessionReleaseSnapshot)
      (completion : SessionReleaseCompletion)
      (coveredRawOrdinal coveredSeqId : UInt64)
deriving DecidableEq

/-- The transport and what its calls accepted so far. -/
structure Transport where
  state : SessionReleaseState := {}
  log : List Effect := []
deriving DecidableEq

inductive Call where
  | tryPostOrdered (reason : SessionReleaseReason)
      (action : SessionReleaseAction) (fenceRawOrdinal fenceSeqId : UInt64)
  | requestTerminal (reason : SessionReleaseReason)
      (fenceRawOrdinal fenceSeqId : UInt64)
  | peekNext
  | acknowledge (snapshot : SessionReleaseSnapshot)
      (completion : SessionReleaseCompletion)
      (coveredRawOrdinal coveredSeqId : UInt64)
deriving DecidableEq

/-- What the log records of a post. -/
def postEffects (result : SessionReleasePostResult) : List Effect :=
  match result.status with
  | .posted => [.posted result.snapshot]
  | .advanced => [.advanced result.snapshot]
  | _ => []

/-- Whether the call was accepted. -/
def Call.accepted (state : SessionReleaseState) : Call → Bool
  | .tryPostOrdered reason action fenceRawOrdinal fenceSeqId =>
      (state.tryPostOrdered reason action fenceRawOrdinal
        fenceSeqId).1.accepted
  | .requestTerminal reason fenceRawOrdinal fenceSeqId =>
      (state.requestTerminal reason fenceRawOrdinal fenceSeqId).1.accepted
  | .peekNext => state.peekNext.isSome
  | .acknowledge snapshot completion coveredRawOrdinal coveredSeqId =>
      (state.acknowledge snapshot completion coveredRawOrdinal
        coveredSeqId).1 == .acknowledged

def Transport.step (transport : Transport) : Call → Transport
  | .tryPostOrdered reason action fenceRawOrdinal fenceSeqId =>
      let result := transport.state.tryPostOrdered reason action
        fenceRawOrdinal fenceSeqId
      { state := result.2, log := transport.log ++ postEffects result.1 }
  | .requestTerminal reason fenceRawOrdinal fenceSeqId =>
      let result := transport.state.requestTerminal reason fenceRawOrdinal
        fenceSeqId
      { state := result.2, log := transport.log ++ postEffects result.1 }
  | .peekNext => transport
  | .acknowledge snapshot completion coveredRawOrdinal coveredSeqId =>
      let result := transport.state.acknowledge snapshot completion
        coveredRawOrdinal coveredSeqId
      { state := result.2
        log :=
          if result.1 = .acknowledged then
            transport.log ++
              [.acknowledged snapshot completion coveredRawOrdinal
                coveredSeqId]
          else transport.log }

end Dxmt9.SessionRelease
