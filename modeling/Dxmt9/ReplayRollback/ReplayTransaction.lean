import Dxmt9.ReplayRollback.JournalCaptures

/-!
# Replay transactions

A transaction advances through its phases by events; an event that is not
allowed changes nothing.  It owns the journal, and a rollback restores the
state and the progress of the device.
-/

namespace Dxmt9.ReplayRollback

variable {T : StateTypes}

/-! ## Phases -/

structure ReplaySourceIdentity where
  frame : UInt64 := 0
  source : UInt64 := 0
  lastSource : UInt64 := 0
  sequence : UInt64 := 0
deriving DecidableEq

def ReplaySourceIdentity.valid (identity : ReplaySourceIdentity) : Bool :=
  decide (identity.sequence ≠ 0 ∧ identity.source ≠ 0 ∧
    identity.source ≤ identity.lastSource)

inductive ReplayTransactionPhase where
  | created
  | projecting
  | staged
  | effectStarted
  | destinationReceived
  | committed
  | rolledBack
  | failedStop
deriving DecidableEq

structure ReplayStateProjection where
  stateGeneration : UInt64 := 0
  source : UInt64 := 0
  recordOrdinal : UInt32 := 0
deriving DecidableEq

structure ReplayStagedEmission where
  commandCount : UInt32 := 0
  byteCount : UInt32 := 0
deriving DecidableEq

inductive ReplayDestinationKind where
  | compatibility
  | directChunkSlot
  | arena
deriving DecidableEq

structure ReplayDestinationReceipt where
  kind : ReplayDestinationKind := .compatibility
  identity : ReplaySourceIdentity := {}
  queueSequence : UInt64 := 0
  buildGeneration : UInt64 := 0
  sourceGeneration : UInt64 := 0
  storageGeneration : UInt64 := 0
  controlIndex : UInt32 := 0xffffffff
  commandCount : UInt32 := 0
deriving DecidableEq

def ReplayDestinationReceipt.valid (receipt : ReplayDestinationReceipt) :
    Bool :=
  if receipt.identity.valid = false ∨ receipt.queueSequence = 0 then false
  else if receipt.kind = .compatibility then true
  else
    decide (receipt.buildGeneration ≠ 0 ∧ receipt.sourceGeneration ≠ 0 ∧
      receipt.storageGeneration ≠ 0 ∧ receipt.controlIndex ≠ 0xffffffff)

structure ReplayTransactionState where
  identity : ReplaySourceIdentity := {}
  phase : ReplayTransactionPhase := .created
  nextRecordOrdinal : UInt32 := 0
  stateGeneration : UInt64 := 0
  currentSource : UInt64 := 0
  stagedCommandCount : UInt32 := 0
  stagedByteCount : UInt32 := 0
  destination : ReplayDestinationReceipt := {}
deriving DecidableEq

def ReplayTransactionPhase.irreversible (phase : ReplayTransactionPhase) :
    Bool :=
  decide (phase = .effectStarted ∨ phase = .destinationReceived ∨
    phase = .committed)

def ReplayTransactionPhase.terminal (phase : ReplayTransactionPhase) : Bool :=
  decide (phase = .committed ∨ phase = .rolledBack ∨ phase = .failedStop)

inductive ReplayTransactionEvent where
  | projectState
  | stageEmission
  | startIrreversibleEffect
  | receiveDestination
  | commit
  | rollback
  | failStop
deriving DecidableEq

structure ReplayTransactionTransition where
  state : ReplayTransactionState
  accepted : Bool := false
deriving DecidableEq

/-- Whether an event is allowed. -/
def replayEventAllowed (current : ReplayTransactionState)
    (projection : ReplayStateProjection) (emission : ReplayStagedEmission)
    (destination : ReplayDestinationReceipt) :
    ReplayTransactionEvent → Bool
  | .projectState =>
      decide (current.phase ≠ .destinationReceived ∧
        current.identity.valid = true ∧ projection.stateGeneration ≠ 0 ∧
        (current.stateGeneration = 0 ∨
          current.stateGeneration = projection.stateGeneration) ∧
        current.identity.source ≤ projection.source ∧
        projection.source ≤ current.identity.lastSource ∧
        (current.currentSource = 0 ∨
          current.currentSource ≤ projection.source) ∧
        projection.recordOrdinal = current.nextRecordOrdinal)
  | .stageEmission =>
      decide ((current.phase = .projecting ∨ current.phase = .staged ∨
          current.phase = .effectStarted) ∧
        emission.commandCount ≠ 0 ∧
        emission.commandCount ≤ 0xffffffff - current.stagedCommandCount ∧
        emission.byteCount ≤ 0xffffffff - current.stagedByteCount)
  | .startIrreversibleEffect =>
      decide (current.phase = .effectStarted ∨ current.phase = .created ∨
        current.phase = .projecting ∨ current.phase = .staged)
  | .receiveDestination =>
      decide ((current.phase = .created ∨ current.phase = .projecting ∨
          current.phase = .staged ∨ current.phase = .effectStarted) ∧
        destination.valid = true ∧
        destination.identity = current.identity ∧
        destination.commandCount = current.stagedCommandCount)
  | .commit => decide (current.phase = .destinationReceived)
  | .rollback => !current.phase.irreversible
  | .failStop => true

/-- The state behind an event that is allowed. -/
def replayEventApplied (current : ReplayTransactionState)
    (projection : ReplayStateProjection) (emission : ReplayStagedEmission)
    (destination : ReplayDestinationReceipt) :
    ReplayTransactionEvent → ReplayTransactionState
  | .projectState =>
      { current with
        phase :=
          if current.phase = .effectStarted then .effectStarted
          else .projecting
        nextRecordOrdinal := projection.recordOrdinal + 1
        stateGeneration := projection.stateGeneration
        currentSource := projection.source }
  | .stageEmission =>
      { current with
        phase :=
          if current.phase = .effectStarted then .effectStarted else .staged
        stagedCommandCount :=
          current.stagedCommandCount + emission.commandCount
        stagedByteCount := current.stagedByteCount + emission.byteCount }
  | .startIrreversibleEffect => { current with phase := .effectStarted }
  | .receiveDestination =>
      { current with
        phase := .destinationReceived
        destination := destination }
  | .commit => { current with phase := .committed }
  | .rollback => { current with phase := .rolledBack }
  | .failStop => { current with phase := .failedStop }

/-- An event that is not allowed leaves the state. -/
def advanceReplayTransaction (current : ReplayTransactionState)
    (event : ReplayTransactionEvent) (projection : ReplayStateProjection)
    (emission : ReplayStagedEmission)
    (destination : ReplayDestinationReceipt) : ReplayTransactionTransition :=
  if current.phase.terminal then { state := current }
  else if replayEventAllowed current projection emission destination event
  then
    { state := replayEventApplied current projection emission destination
        event
      accepted := true }
  else { state := current }

/-! ## Transactions -/

/-- The progress of a device that is kept outside its state. -/
structure ReplayProgressCheckpoint where
  submittedSequenceId : UInt64
  activeOcclusionCount : UInt64
deriving DecidableEq

structure Device (T : StateTypes) where
  state : DeviceState T
  submittedSequenceId : UInt64
  activeOcclusionCount : UInt64

def Device.replayProgressCheckpoint (device : Device T) :
    ReplayProgressCheckpoint :=
  { submittedSequenceId := device.submittedSequenceId
    activeOcclusionCount := device.activeOcclusionCount }

def Device.restoreReplayProgress (device : Device T)
    (checkpoint : ReplayProgressCheckpoint) : Device T :=
  { device with
    submittedSequenceId := checkpoint.submittedSequenceId
    activeOcclusionCount := checkpoint.activeOcclusionCount }

structure ReplayTransaction (T : StateTypes) where
  state : ReplayTransactionState := {}
  journal : DeviceStateUndoJournal T := {}
  progress : Option ReplayProgressCheckpoint := none

namespace ReplayTransaction

/-- Begins a transaction, over a device if there is one. -/
def begin (transaction : ReplayTransaction T)
    (identity : ReplaySourceIdentity) (device : Option (Device T))
    (firstRecordOrdinal : UInt32) : ReplayTransaction T :=
  { state :=
      { identity := identity, nextRecordOrdinal := firstRecordOrdinal }
    journal := transaction.journal.clear
    progress := device.map (·.replayProgressCheckpoint) }

def advance (transaction : ReplayTransaction T)
    (event : ReplayTransactionEvent) (projection : ReplayStateProjection)
    (emission : ReplayStagedEmission)
    (destination : ReplayDestinationReceipt) : ReplayTransaction T × Bool :=
  let result := advanceReplayTransaction transaction.state event projection
    emission destination
  if result.accepted = false then (transaction, false)
  else ({ transaction with state := result.state }, true)

def project (transaction : ReplayTransaction T)
    (projection : ReplayStateProjection) : ReplayTransaction T × Bool :=
  transaction.advance .projectState projection {} {}

def stage (transaction : ReplayTransaction T)
    (emission : ReplayStagedEmission) : ReplayTransaction T × Bool :=
  transaction.advance .stageEmission {} emission {}

def startIrreversibleEffect (transaction : ReplayTransaction T) :
    ReplayTransaction T × Bool :=
  transaction.advance .startIrreversibleEffect {} {} {}

def receiveDestination (transaction : ReplayTransaction T)
    (receipt : ReplayDestinationReceipt) : ReplayTransaction T × Bool :=
  transaction.advance .receiveDestination {} {} receipt

/-- Forgets what could be rolled back. -/
def settled (transaction : ReplayTransaction T) : ReplayTransaction T :=
  { transaction with
    journal := transaction.journal.clear
    progress := none }

def commit (transaction : ReplayTransaction T) :
    ReplayTransaction T × Bool :=
  let advanced := transaction.advance .commit {} {} {}
  if advanced.2 = false then advanced else (advanced.1.settled, true)

def rollback (transaction : ReplayTransaction T) (device : Device T) :
    ReplayTransaction T × Device T × Bool :=
  let advanced := transaction.advance .rollback {} {} {}
  if advanced.2 = false then (advanced.1, device, false)
  else
    let restored : Device T :=
      { device with state := advanced.1.journal.restore device.state }
    (advanced.1.settled,
      match advanced.1.progress with
      | some checkpoint => restored.restoreReplayProgress checkpoint
      | none => restored,
      true)

def failStop (transaction : ReplayTransaction T) :
    ReplayTransaction T × Bool :=
  let advanced := transaction.advance .failStop {} {} {}
  if advanced.2 = false then advanced else (advanced.1.settled, true)

end ReplayTransaction

inductive ReplayCall where
  | project (projection : ReplayStateProjection)
  | stage (emission : ReplayStagedEmission)
  | startIrreversibleEffect
  | receiveDestination (receipt : ReplayDestinationReceipt)
  | commit
  | rollback
  | failStop
deriving DecidableEq

/-- A transaction with its device and the calls that it accepted. -/
structure ReplaySession (T : StateTypes) where
  transaction : ReplayTransaction T
  device : Device T
  accepted : List ReplayCall := []

/-- The session behind a call that may be refused. -/
def ReplaySession.settle (session : ReplaySession T) (call : ReplayCall)
    (result : ReplayTransaction T × Device T × Bool) :
    ReplaySession T × Bool :=
  ({ transaction := result.1
     device := result.2.1
     accepted :=
       if result.2.2 then session.accepted ++ [call]
       else session.accepted }, result.2.2)

def ReplaySession.call (session : ReplaySession T) (call : ReplayCall) :
    ReplaySession T × Bool :=
  let keepsDevice (result : ReplayTransaction T × Bool) :
      ReplayTransaction T × Device T × Bool :=
    (result.1, session.device, result.2)
  session.settle call
    (match call with
    | .project projection =>
        keepsDevice (session.transaction.project projection)
    | .stage emission => keepsDevice (session.transaction.stage emission)
    | .startIrreversibleEffect =>
        keepsDevice session.transaction.startIrreversibleEffect
    | .receiveDestination receipt =>
        keepsDevice (session.transaction.receiveDestination receipt)
    | .commit => keepsDevice session.transaction.commit
    | .rollback => session.transaction.rollback session.device
    | .failStop => keepsDevice session.transaction.failStop)

/-- A capture into the journal of the session. -/
def ReplaySession.capture (session : ReplaySession T) (call : CaptureCall) :
    ReplaySession T :=
  { session with
    transaction :=
      { session.transaction with
        journal := (session.transaction.journal.capture
          session.device.state call).1 } }

/-- One step: a capture, a change of what is captured, progress of the
device, or a call of the transaction. -/
inductive ReplayStep : ReplaySession T → ReplaySession T → Prop where
  | capture (session : ReplaySession T) (call : CaptureCall) :
      ReplayStep session (session.capture call)
  | mutate (session : ReplaySession T) (changed : DeviceState T)
      (only : Memory.ChangesOnly session.transaction.journal.saved
        session.device.state.component changed.component) :
      ReplayStep session
        { session with device := { session.device with state := changed } }
  | progress (session : ReplaySession T)
      (submittedSequenceId activeOcclusionCount : UInt64) :
      ReplayStep session
        { session with
          device :=
            { state := session.device.state
              submittedSequenceId := submittedSequenceId
              activeOcclusionCount := activeOcclusionCount } }
  | call (session : ReplaySession T) (call : ReplayCall) :
      ReplayStep session (session.call call).1

end Dxmt9.ReplayRollback
