import Dxmt9.Transition.Run

/-!
# Admission of sources to an encode session

A session takes consecutive sources as long as its totals stay within the
limits.  The preflight of a window of several sources appends them to a copy
of the session.
-/

namespace Dxmt9.Admission

/-! ## Summaries and candidates -/

inductive SourceEntryEncoderKind where
  | empty
  | render
  | blit
  | present
  | invalid
deriving DecidableEq

def sourceSemanticSealed : UInt32 := 1
def sourceSemanticHasPresent : UInt32 := 2
def sourceSemanticGlobalObservation : UInt32 := 4
def sourceSemanticCaptureIsolation : UInt32 := 8
def sourceSemanticInitializerRequirement : UInt32 := 16
def sourceSemanticInvalid : UInt32 := 64
def sourceSemanticFinalPresentTail : UInt32 := 128

/-- What admission reads of the semantic summary of a source. -/
structure SourceSemanticSummary where
  drawCount : UInt32 := 0
  pageCount : UInt32 := 0
  entryKind : SourceEntryEncoderKind := .empty
  flags : UInt32 := 0
deriving DecidableEq

namespace SourceSemanticSummary

def hasFlag (summary : SourceSemanticSummary) (flag : UInt32) : Bool :=
  summary.flags &&& flag != 0

def valid (summary : SourceSemanticSummary) : Bool :=
  summary.hasFlag sourceSemanticSealed &&
    !summary.hasFlag sourceSemanticInvalid

def hasPresent (summary : SourceSemanticSummary) : Bool :=
  summary.hasFlag sourceSemanticHasPresent

def hasFinalPresentTail (summary : SourceSemanticSummary) : Bool :=
  summary.hasFlag sourceSemanticFinalPresentTail

def requiresIsolation (summary : SourceSemanticSummary) : Bool :=
  summary.hasFlag
    (sourceSemanticGlobalObservation ||| sourceSemanticCaptureIsolation)

end SourceSemanticSummary

inductive EncodeQueueLane where
  | invalid
  | cpuReadySerial
deriving DecidableEq

inductive EncodeCaptureMode where
  | disabled
  | isolated
deriving DecidableEq

inductive EncodeCompletionMode where
  | metal
  | testNullCommandBuffer
deriving DecidableEq

structure SessionAdmissionKey where
  queueLifetimeEpoch : UInt64 := 1
  allocatorPolicyEpoch : UInt64 := 1
  lane : EncodeQueueLane := .cpuReadySerial
  captureMode : EncodeCaptureMode := .disabled
  completionMode : EncodeCompletionMode := .metal
deriving DecidableEq

def SessionAdmissionKey.valid (key : SessionAdmissionKey) : Bool :=
  key.queueLifetimeEpoch != 0 && key.allocatorPolicyEpoch != 0 &&
    key.lane != .invalid

structure EncodeSessionLimits where
  maxSources : UInt32 := 32
  maxPages : UInt32 := 0xFFFFFFFF
  maxBytes : UInt64 := 0xFFFFFFFFFFFFFFFF
  maxDraws : UInt32 := 0xFFFFFFFF
  maxCommandBuffers : UInt32 := 0xFFFFFFFF
deriving DecidableEq

def EncodeSessionLimits.valid (limits : EncodeSessionLimits) : Bool :=
  limits.maxSources != 0 && limits.maxPages != 0 && limits.maxBytes != 0 &&
    limits.maxDraws != 0 && limits.maxCommandBuffers != 0

structure EncodeSessionAdmissionState where
  key : SessionAdmissionKey := {}
  lastRawOrdinal : UInt64 := 0
  lastSourceOrdinal : UInt64 := 0
  lastSeqId : UInt64 := 0
  residencyBytes : UInt64 := 0
  sources : UInt32 := 0
  residentSources : UInt32 := 0
  pages : UInt32 := 0
  draws : UInt32 := 0
  commandBuffers : UInt32 := 0
  flags : UInt32 := 0
deriving DecidableEq

def encodeSessionAdmissionValid : UInt32 := 1
def encodeSessionAdmissionHasPresent : UInt32 := 2

namespace EncodeSessionAdmissionState

def valid (session : EncodeSessionAdmissionState) : Bool :=
  session.flags &&& encodeSessionAdmissionValid != 0

def hasPresent (session : EncodeSessionAdmissionState) : Bool :=
  session.flags &&& encodeSessionAdmissionHasPresent != 0

end EncodeSessionAdmissionState

structure SessionAdmissionCandidate where
  key : SessionAdmissionKey := {}
  semantic : SourceSemanticSummary := {}
  residencyBytes : UInt64 := 0
  rawOrdinal : UInt64 := 0
  sourceOrdinal : UInt64 := 0
  seqId : UInt64 := 0
  predictedCommandBuffers : UInt32 := 1
  reservationPages : UInt32 := 0
  payloadBlocks : UInt32 := 1
  retentionEntries : UInt32 := 1
  allocatorTickets : UInt32 := 1
deriving DecidableEq

def sessionAdmissionCandidateIdentityValid
    (candidate : SessionAdmissionCandidate) : Bool :=
  candidate.key.valid && candidate.semantic.valid &&
    candidate.residencyBytes != 0 && candidate.sourceOrdinal != 0 &&
    candidate.seqId != 0 && candidate.predictedCommandBuffers != 0 &&
    candidate.payloadBlocks != 0 && candidate.retentionEntries != 0 &&
    candidate.allocatorTickets != 0

def addWithin32 (lhs rhs limit : UInt32) : Bool :=
  rhs ≤ limit && lhs ≤ limit - rhs

def addWithin64 (lhs rhs limit : UInt64) : Bool :=
  rhs ≤ limit && lhs ≤ limit - rhs

def candidatePageFootprint (candidate : SessionAdmissionCandidate) : UInt32 :=
  if candidate.reservationPages ≠ 0 then candidate.reservationPages
  else candidate.semantic.pageCount

def candidateFits (session : EncodeSessionAdmissionState)
    (candidate : SessionAdmissionCandidate) (limits : EncodeSessionLimits) :
    Bool :=
  addWithin32 session.sources 1 limits.maxSources &&
    addWithin32 session.pages (candidatePageFootprint candidate)
      limits.maxPages &&
    addWithin64 session.residencyBytes candidate.residencyBytes
      limits.maxBytes &&
    addWithin32 session.draws candidate.semantic.drawCount limits.maxDraws &&
    addWithin32 session.commandBuffers candidate.predictedCommandBuffers
      limits.maxCommandBuffers

def candidateMustBeIsolated (candidate : SessionAdmissionCandidate) : Bool :=
  candidate.semantic.requiresIsolation ||
    candidate.key.captureMode == .isolated ||
    candidate.semantic.entryKind == .empty

inductive SessionAdmissionDecision where
  | admitted
  | submitPrefixBeforeCandidate
  | processCandidateIsolated
  | rejectInvalid
deriving DecidableEq

def classifySessionAdmission (session : EncodeSessionAdmissionState)
    (candidate : SessionAdmissionCandidate) (limits : EncodeSessionLimits) :
    SessionAdmissionDecision :=
  if !limits.valid || !sessionAdmissionCandidateIdentityValid candidate then
    .rejectInvalid
  else if !session.valid then
    if candidateMustBeIsolated candidate || candidate.semantic.hasPresent ||
        !candidateFits {} candidate limits then
      .processCandidateIsolated
    else .admitted
  else if !session.key.valid || session.sources == 0 ||
      session.lastSourceOrdinal == 0 || session.lastSeqId == 0 then
    .rejectInvalid
  else if candidate.sourceOrdinal ≤ session.lastSourceOrdinal ||
      candidate.seqId ≤ session.lastSeqId ||
      (candidate.rawOrdinal != 0 && session.lastRawOrdinal != 0 &&
        candidate.rawOrdinal ≤ session.lastRawOrdinal) then
    .rejectInvalid
  else if candidateMustBeIsolated candidate || session.hasPresent ||
      (candidate.semantic.hasPresent &&
        !candidate.semantic.hasFinalPresentTail) ||
      candidate.key != session.key ||
      candidate.sourceOrdinal != session.lastSourceOrdinal + 1 ||
      candidate.seqId != session.lastSeqId + 1 ||
      !candidateFits session candidate limits then
    .submitPrefixBeforeCandidate
  else .admitted

/-- The session after an admitted candidate. -/
def afterAdmission (session : EncodeSessionAdmissionState)
    (candidate : SessionAdmissionCandidate) : EncodeSessionAdmissionState :=
  if !session.valid then
    { key := candidate.key
      lastRawOrdinal := candidate.rawOrdinal
      lastSourceOrdinal := candidate.sourceOrdinal
      lastSeqId := candidate.seqId
      residencyBytes := candidate.residencyBytes
      sources := 1
      residentSources := 1
      pages := candidatePageFootprint candidate
      draws := candidate.semantic.drawCount
      commandBuffers := candidate.predictedCommandBuffers
      flags := encodeSessionAdmissionValid |||
        (if candidate.semantic.hasPresent then
          encodeSessionAdmissionHasPresent else 0) }
  else
    { session with
      lastRawOrdinal :=
        if candidate.rawOrdinal ≠ 0 then candidate.rawOrdinal
        else session.lastRawOrdinal
      lastSourceOrdinal := candidate.sourceOrdinal
      lastSeqId := candidate.seqId
      residencyBytes := session.residencyBytes + candidate.residencyBytes
      sources := session.sources + 1
      residentSources := session.residentSources + 1
      pages := session.pages + candidatePageFootprint candidate
      draws := session.draws + candidate.semantic.drawCount
      commandBuffers :=
        session.commandBuffers + candidate.predictedCommandBuffers
      flags :=
        if candidate.semantic.hasPresent then
          session.flags ||| encodeSessionAdmissionHasPresent
        else session.flags }

def appendSessionAdmission (session : EncodeSessionAdmissionState)
    (candidate : SessionAdmissionCandidate) (limits : EncodeSessionLimits) :
    Bool × EncodeSessionAdmissionState :=
  if classifySessionAdmission session candidate limits ≠ .admitted then
    (false, session)
  else (true, afterAdmission session candidate)

def retireSessionAdmissionResidency (session : EncodeSessionAdmissionState)
    (candidate : SessionAdmissionCandidate) :
    Bool × EncodeSessionAdmissionState :=
  let pages := candidatePageFootprint candidate
  if !session.valid || session.residentSources == 0 ||
      session.pages < pages ||
      session.residencyBytes < candidate.residencyBytes then
    (false, session)
  else
    (true,
      { session with
        residentSources := session.residentSources - 1
        pages := session.pages - pages
        residencyBytes := session.residencyBytes - candidate.residencyBytes })

/-! ## The preflight of a window -/

inductive PreflightReason where
  | eligible
  | noPendingSession
  | sourceCount
  | activeRenderIncomplete
  | captureBoundary
  | initializerBoundary
  | orderedReleaseBoundary
  | invalidCandidate
  | presentBoundary
  | isolationBoundary
  | initializerSemanticBoundary
  | nonConsecutiveIdentity
  | admissionRejected
deriving DecidableEq

inductive WindowFrontier where
  | freshClean
  | cleanClosed
  | activeRenderComplete
  | unsupported
deriving DecidableEq

def kMaxMultiSourceSessionWindowSources : Nat := 8

/-- The last identity that the preflight has seen. -/
structure PriorIdentity where
  rawOrdinal : UInt64
  sourceOrdinal : UInt64
  seqId : UInt64
  hasPrior : Bool
deriving DecidableEq

def nonConsecutive (prior : PriorIdentity)
    (candidate : SessionAdmissionCandidate) : Bool :=
  prior.hasPrior &&
    (prior.sourceOrdinal == 0xFFFFFFFFFFFFFFFF ||
      prior.seqId == 0xFFFFFFFFFFFFFFFF ||
      candidate.sourceOrdinal != prior.sourceOrdinal + 1 ||
      candidate.seqId != prior.seqId + 1 ||
      (prior.rawOrdinal != 0 && candidate.rawOrdinal != 0 &&
        candidate.rawOrdinal ≤ prior.rawOrdinal))

def PriorIdentity.after (prior : PriorIdentity)
    (candidate : SessionAdmissionCandidate) : PriorIdentity :=
  { rawOrdinal :=
      if candidate.rawOrdinal ≠ 0 then candidate.rawOrdinal
      else prior.rawOrdinal
    sourceOrdinal := candidate.sourceOrdinal
    seqId := candidate.seqId
    hasPrior := true }

/-- Why a candidate stops the window before it is appended. -/
def candidateObstacle (prior : PriorIdentity)
    (candidate : SessionAdmissionCandidate) : PreflightReason :=
  if !sessionAdmissionCandidateIdentityValid candidate then .invalidCandidate
  else if candidate.semantic.hasPresent then .presentBoundary
  else if candidate.semantic.requiresIsolation then .isolationBoundary
  else if candidate.semantic.hasFlag sourceSemanticInitializerRequirement then
    .initializerSemanticBoundary
  else if nonConsecutive prior candidate then .nonConsecutiveIdentity
  else .eligible

/-- The loop over the candidates: the staged session and why it stopped. -/
def preflightCandidates (limits : EncodeSessionLimits) :
    EncodeSessionAdmissionState → PriorIdentity →
      List SessionAdmissionCandidate →
      EncodeSessionAdmissionState × PreflightReason
  | staged, _, [] => (staged, .eligible)
  | staged, prior, candidate :: rest =>
      if candidateObstacle prior candidate ≠ .eligible then
        (staged, candidateObstacle prior candidate)
      else
        let result := appendSessionAdmission staged candidate limits
        if result.1 then
          preflightCandidates limits result.2 (prior.after candidate) rest
        else (result.2, .admissionRejected)

/-- Why a window stops before its candidates are looked at. -/
def windowObstacle (pending : EncodeSessionAdmissionState)
    (candidates : List SessionAdmissionCandidate) (frontier : WindowFrontier)
    (captureBoundary initializerBoundary orderedReleaseBoundary : Bool) :
    PreflightReason :=
  let fresh := frontier == .freshClean
  let carried := frontier == .cleanClosed || frontier == .activeRenderComplete
  if (!fresh && !carried) || (fresh && pending.valid) ||
      (carried && !pending.valid) then .noPendingSession
  else if candidates.length < 2 ||
      kMaxMultiSourceSessionWindowSources < candidates.length then .sourceCount
  else if captureBoundary then .captureBoundary
  else if initializerBoundary then .initializerBoundary
  else if orderedReleaseBoundary then .orderedReleaseBoundary
  else .eligible

def preflightMultiSourceSessionWindow (pending : EncodeSessionAdmissionState)
    (candidates : List SessionAdmissionCandidate)
    (limits : EncodeSessionLimits) (frontier : WindowFrontier)
    (captureBoundary initializerBoundary orderedReleaseBoundary : Bool) :
    EncodeSessionAdmissionState × PreflightReason :=
  let obstacle := windowObstacle pending candidates frontier captureBoundary
    initializerBoundary orderedReleaseBoundary
  if obstacle ≠ .eligible then (pending, obstacle)
  else
    preflightCandidates limits pending
      { rawOrdinal := pending.lastRawOrdinal
        sourceOrdinal := pending.lastSourceOrdinal
        seqId := pending.lastSeqId
        hasPrior := pending.valid }
      candidates

end Dxmt9.Admission
