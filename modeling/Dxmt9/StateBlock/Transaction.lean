import Mathlib.Logic.Function.Basic
import Dxmt9.StateBlock.TransitionTable

/-!
# State block transactions

One owner holds the phase, the candidate that is recorded, and the references
that are staged for an apply.  A reference is retained when it is staged; it
is released with the others, or taken.
-/

namespace Dxmt9.StateBlock

def kPeTextureSlots : Nat := 20

def kDrawPacketMaxStreams : Nat := 16

def kDrawPacketMaxRenderTargets : Nat := 4

def maxUInt64 : Nat := 0xffffffffffffffff

/-! ## References -/

inductive StagedCategory where
  | texture
  | stream
  | vertexShader
  | pixelShader
  | indexBuffer
  | renderTarget
  | depthStencil
deriving DecidableEq

def StagedCategory.slots : StagedCategory → Nat
  | .texture => kPeTextureSlots
  | .stream => kDrawPacketMaxStreams
  | .renderTarget => kDrawPacketMaxRenderTargets
  | .vertexShader | .pixelShader | .indexBuffer | .depthStencil => 1

/-- The order in which staged references are released. -/
def stagedCategories : List StagedCategory :=
  [.texture, .stream, .vertexShader, .pixelShader, .indexBuffer,
    .renderTarget, .depthStencil]

/-- A candidate also owns its vertex declaration, which is never staged. -/
inductive OwnedCategory where
  | staged (category : StagedCategory)
  | vertexDeclaration
deriving DecidableEq

def OwnedCategory.slots : OwnedCategory → Nat
  | .staged category => category.slots
  | .vertexDeclaration => 1

def ownedCategories : List OwnedCategory :=
  [.staged .texture, .staged .stream, .staged .vertexShader,
    .staged .pixelShader, .vertexDeclaration, .staged .indexBuffer,
    .staged .renderTarget, .staged .depthStencil]

/-- A reference, zero if there is none; only streams have an offset and a
stride. -/
structure StateBlockValue where
  raw : Nat := 0
  offset : Nat := 0
  stride : Nat := 0
deriving DecidableEq

instance : Inhabited StateBlockValue := ⟨{}⟩

structure ComRef where
  category : OwnedCategory
  raw : Nat
deriving DecidableEq

/-- The tracked values of one category. -/
structure FixedTrackedState where
  values : Nat → StateBlockValue := fun _ => {}
  occupied : Nat → Bool := fun _ => false

structure StateBlockRecorded where
  categories : OwnedCategory → FixedTrackedState := fun _ => {}
  vertexDeclarationRecorded : Bool := false

namespace StateBlockRecorded

def clear (recorded : StateBlockRecorded) : StateBlockRecorded :=
  { categories := fun category =>
      { recorded.categories category with occupied := fun _ => false }
    vertexDeclarationRecorded := false }

/-- The references that a candidate owns, in the order of its categories. -/
def forEachOwnedComRef (recorded : StateBlockRecorded) : List ComRef :=
  ownedCategories.flatMap fun category =>
    ((List.range category.slots).filter
      (recorded.categories category).occupied).map fun slot =>
        { category := category
          raw := ((recorded.categories category).values slot).raw }

end StateBlockRecorded

/-- The staged values of one category; a slot that is not occupied holds
nothing. -/
structure StagedSlots where
  values : Nat → StateBlockValue := fun _ => default
  occupied : Nat → Bool := fun _ => false
  vacant : ∀ slot, occupied slot = false → values slot = default := by
    intro slot _
    rfl

namespace StagedSlots

/-- An occupied slot rejects a value. -/
def stage (staged : StagedSlots) (slots slot : Nat)
    (value : StateBlockValue) : Option StagedSlots :=
  if ¬slot < slots ∨ staged.occupied slot = true then none
  else some
    { values := Function.update staged.values slot value
      occupied := Function.update staged.occupied slot true
      vacant := by
        intro other free
        by_cases here : other = slot
        · rw [here, Function.update_self] at free
          contradiction
        · rw [Function.update_of_ne here] at free ⊢
          exact staged.vacant other free }

def take (staged : StagedSlots) (slot : Nat) :
    StagedSlots × StateBlockValue :=
  ({ values := Function.update staged.values slot default
     occupied := Function.update staged.occupied slot false
     vacant := by
       intro other free
       by_cases here : other = slot
       · rw [here, Function.update_self]
       · rw [Function.update_of_ne here] at free ⊢
         exact staged.vacant other free },
    staged.values slot)

/-- The values that are held, slot by slot. -/
def held (staged : StagedSlots) (slots : Nat) : List StateBlockValue :=
  ((List.range slots).filter staged.occupied).map staged.values

end StagedSlots

/-- What happens to a reference: staging retains it; it is released as a
staged one or with the candidate that owns it; or it is taken. -/
inductive RefEvent where
  | retained (reference : ComRef)
  | released (reference : ComRef)
  | discarded (reference : ComRef)
  | taken (reference : ComRef)
deriving DecidableEq

structure PeStateBlockTransactionState where
  phase : PeStateBlockPhase := .idle
  recordingEpoch : Nat := 0
  recorded : StateBlockRecorded := {}
  staged : StagedCategory → StagedSlots := fun _ => {}

/-- A device begins with nothing recorded or staged. -/
def PeStateBlockTransactionState.initial : PeStateBlockTransactionState := {}

/-- A capability of the recording in which it was issued. -/
structure RecordingCapability where
  epoch : Nat := 0
  valid : Bool := false
deriving DecidableEq

/-- A state and what a call has done to references. -/
abbrev Effect := PeStateBlockTransactionState × List RefEvent

/-- The epoch never wraps. -/
def peStateBlockNextRecordingEpoch (current : Nat) : Option Nat :=
  if current = maxUInt64 then none else some (current + 1)

namespace PeStateBlockTransactionState

def transition (state : PeStateBlockTransactionState)
    (event : PeStateBlockEvent) : PeStateBlockTransitionPlan :=
  planPeStateBlockTransition state.phase event

def recordingCapability (state : PeStateBlockTransactionState) :
    RecordingCapability :=
  { epoch := state.recordingEpoch, valid := state.phase == .recording }

/-- Whether a capability lets its holder write now. -/
def permits (state : PeStateBlockTransactionState)
    (capability : RecordingCapability) : Bool :=
  capability.valid && state.phase == .recording &&
    state.recordingEpoch == capability.epoch

/-- A write changes the candidate in any way. -/
def withWriter (state : PeStateBlockTransactionState)
    (capability : RecordingCapability)
    (write : StateBlockRecorded → StateBlockRecorded) :
    PeStateBlockTransactionState × Bool :=
  if state.permits capability = false then (state, false)
  else ({ state with recorded := write state.recorded }, true)

def invalidateRecorderCapabilities (state : PeStateBlockTransactionState) :
    PeStateBlockTransactionState × Bool :=
  match peStateBlockNextRecordingEpoch state.recordingEpoch with
  | none => (state, false)
  | some epoch => ({ state with recordingEpoch := epoch }, true)

def discardRecorded (state : PeStateBlockTransactionState) : Effect :=
  ({ state with recorded := state.recorded.clear },
    state.recorded.forEachOwnedComRef.map RefEvent.discarded)

/-- The references that are staged. -/
def preparedRefs (state : PeStateBlockTransactionState) : List ComRef :=
  stagedCategories.flatMap fun category =>
    ((state.staged category).held category.slots).map fun value =>
      { category := .staged category, raw := value.raw }

def hasPreparedApply (state : PeStateBlockTransactionState) : Bool :=
  stagedCategories.any fun category =>
    (List.range category.slots).any (state.staged category).occupied

def discardPrepared (state : PeStateBlockTransactionState) : Effect :=
  ({ state with staged := fun _ => {} },
    state.preparedRefs.map RefEvent.released)

def discardCandidateOf (state : PeStateBlockTransactionState)
    (plan : PeStateBlockTransitionPlan) : Effect :=
  if plan.candidateEffect = .discard then state.discardRecorded
  else (state, [])

def releaseStagedOf (state : PeStateBlockTransactionState)
    (plan : PeStateBlockTransitionPlan) : Effect :=
  if plan.stagedRefEffect = .release then state.discardPrepared
  else (state, [])

/-- Both effects of a plan, the candidate first. -/
def discardOf (state : PeStateBlockTransactionState)
    (plan : PeStateBlockTransitionPlan) : Effect :=
  let candidate := state.discardCandidateOf plan
  let staged := candidate.1.releaseStagedOf plan
  (staged.1, candidate.2 ++ staged.2)

def enter (effect : Effect) (phase : PeStateBlockPhase) : Effect :=
  ({ effect.1 with phase := phase }, effect.2)

/-! ### Lifecycle calls -/

def poison (state : PeStateBlockTransactionState) : Effect :=
  let plan := state.transition .poisonRequested
  if plan.valid = false then (state, [])
  else
    enter (state.invalidateRecorderCapabilities.1.discardOf plan) plan.next

/-- A begin without a fresh epoch poisons the transaction. -/
def beginAccepted (state : PeStateBlockTransactionState) : Effect × Bool :=
  let plan := state.transition .beginAccepted
  if plan.valid = false then ((state, []), false)
  else
    match peStateBlockNextRecordingEpoch state.recordingEpoch with
    | none => (state.poison, false)
    | some epoch =>
        let discarded := state.discardCandidateOf plan
        (enter ({ discarded.1 with recordingEpoch := epoch }, discarded.2)
          plan.next, true)

def beginFailed (state : PeStateBlockTransactionState) :
    PeStateBlockTransactionState :=
  { state with phase := (state.transition .beginFailed).next }

def endPreEffectFailed (state : PeStateBlockTransactionState) :
    PeStateBlockTransactionState :=
  { state with phase := (state.transition .endPreEffectFailed).next }

/-- The calls whose only effect is on the candidate. -/
def discardCandidateBy (state : PeStateBlockTransactionState)
    (event : PeStateBlockEvent) : Effect :=
  let plan := state.transition event
  if plan.valid = false then (state, [])
  else enter (state.discardCandidateOf plan) plan.next

def abandonRecording (state : PeStateBlockTransactionState) : Effect :=
  state.discardCandidateBy .resetStarted

def failEnd (state : PeStateBlockTransactionState) : Effect :=
  state.discardCandidateBy
    (if state.phase = .endPublication then .endWrapperFailed
    else .endBackendFailed)

def finishEndPublication (state : PeStateBlockTransactionState)
    (published : Bool) : Effect :=
  state.discardCandidateBy
    (if published then .endPublished else .endWrapperFailed)

def enterEndPublication (state : PeStateBlockTransactionState) :
    PeStateBlockTransactionState :=
  let plan := state.transition .endBackendAccepted
  if plan.valid then { state with phase := plan.next } else state

def markApplyPrepared (state : PeStateBlockTransactionState) :
    PeStateBlockTransactionState :=
  let plan := state.transition .applyPrepared
  if plan.valid && plan.stagedRefEffect == .retain then
    { state with phase := plan.next }
  else state

def failPreparedApply (state : PeStateBlockTransactionState) : Effect :=
  let plan := state.transition .applyBackendFailed
  if plan.valid = false then (state, [])
  else enter (state.releaseStagedOf plan) plan.next

def finishPreparedApply (state : PeStateBlockTransactionState) :
    PeStateBlockTransactionState :=
  let plan := state.transition .applyBackendAccepted
  if plan.valid && plan.stagedRefEffect == .transfer then
    { state with phase := plan.next }
  else state

def resetSucceeded (state : PeStateBlockTransactionState) : Effect :=
  let plan := state.transition .resetAccepted
  if plan.valid = false then (state, [])
  else
    enter (state.invalidateRecorderCapabilities.1.releaseStagedOf plan)
      plan.next

def resetFailed (state : PeStateBlockTransactionState) :
    PeStateBlockTransactionState :=
  { state with phase := (state.transition .resetFailed).next }

def discardAll (state : PeStateBlockTransactionState) : Effect :=
  let plan := state.transition .teardown
  if plan.valid = false then (state, [])
  else
    enter (state.invalidateRecorderCapabilities.1.discardOf plan) plan.next

/-! ### Staging and taking -/

def setStaged (state : PeStateBlockTransactionState)
    (category : StagedCategory) (slots : StagedSlots) :
    PeStateBlockTransactionState :=
  { state with staged := Function.update state.staged category slots }

/-- The stage calls, one for each category. -/
def stage (state : PeStateBlockTransactionState)
    (category : StagedCategory) (slot : Nat) (value : StateBlockValue) :
    Effect × Bool :=
  if state.phase ≠ .idle then ((state, []), false)
  else
    match (state.staged category).stage category.slots slot value with
    | none => ((state, []), false)
    | some slots =>
        ((state.setStaged category slots,
          [.retained { category := .staged category, raw := value.raw }]),
          true)

def stageTexture (state : PeStateBlockTransactionState) (slot raw : Nat) :
    Effect × Bool :=
  state.stage .texture slot { raw := raw }

def stageStream (state : PeStateBlockTransactionState) (slot : Nat)
    (value : StateBlockValue) : Effect × Bool :=
  state.stage .stream slot value

def stageVertexShader (state : PeStateBlockTransactionState) (raw : Nat) :
    Effect × Bool :=
  state.stage .vertexShader 0 { raw := raw }

def stagePixelShader (state : PeStateBlockTransactionState) (raw : Nat) :
    Effect × Bool :=
  state.stage .pixelShader 0 { raw := raw }

def stageIndexBuffer (state : PeStateBlockTransactionState) (raw : Nat) :
    Effect × Bool :=
  state.stage .indexBuffer 0 { raw := raw }

def stageRenderTarget (state : PeStateBlockTransactionState)
    (slot raw : Nat) : Effect × Bool :=
  state.stage .renderTarget slot { raw := raw }

def stageDepthStencil (state : PeStateBlockTransactionState) (raw : Nat) :
    Effect × Bool :=
  state.stage .depthStencil 0 { raw := raw }

/-- The take calls; what is taken of a slot that holds nothing is nothing. -/
def take (state : PeStateBlockTransactionState)
    (category : StagedCategory) (slot : Nat) : Effect × StateBlockValue :=
  if state.phase ≠ .applyPrepared ∨ ¬slot < category.slots then
    ((state, []), {})
  else
    let taken := (state.staged category).take slot
    ((state.setStaged category taken.1,
      if (state.staged category).occupied slot then
        [.taken { category := .staged category, raw := taken.2.raw }]
      else []), taken.2)

def takeTexture (state : PeStateBlockTransactionState) (slot : Nat) :
    Effect × StateBlockValue := state.take .texture slot

def takeStream (state : PeStateBlockTransactionState) (slot : Nat) :
    Effect × StateBlockValue := state.take .stream slot

def takeVertexShader (state : PeStateBlockTransactionState) :
    Effect × StateBlockValue := state.take .vertexShader 0

def takePixelShader (state : PeStateBlockTransactionState) :
    Effect × StateBlockValue := state.take .pixelShader 0

def takeIndexBuffer (state : PeStateBlockTransactionState) :
    Effect × StateBlockValue := state.take .indexBuffer 0

def takeRenderTarget (state : PeStateBlockTransactionState) (slot : Nat) :
    Effect × StateBlockValue := state.take .renderTarget slot

def takeDepthStencil (state : PeStateBlockTransactionState) :
    Effect × StateBlockValue := state.take .depthStencil 0

end PeStateBlockTransactionState

inductive TransactionCall where
  | beginAccepted
  | beginFailed
  | endPreEffectFailed
  | abandonRecording
  | failEnd
  | enterEndPublication
  | finishEndPublication (published : Bool)
  | poison
  | markApplyPrepared
  | failPreparedApply
  | finishPreparedApply
  | resetSucceeded
  | resetFailed
  | discardAll
  | discardPrepared
  | invalidateRecorderCapabilities
  | withWriter (capability : RecordingCapability)
      (write : StateBlockRecorded → StateBlockRecorded)
  | stageTexture (slot raw : Nat)
  | stageStream (slot : Nat) (value : StateBlockValue)
  | stageVertexShader (raw : Nat)
  | stagePixelShader (raw : Nat)
  | stageIndexBuffer (raw : Nat)
  | stageRenderTarget (slot raw : Nat)
  | stageDepthStencil (raw : Nat)
  | takeTexture (slot : Nat)
  | takeStream (slot : Nat)
  | takeVertexShader
  | takePixelShader
  | takeIndexBuffer
  | takeRenderTarget (slot : Nat)
  | takeDepthStencil

open PeStateBlockTransactionState in
/-- What a call does to the transaction and to references. -/
def perform (state : PeStateBlockTransactionState) :
    TransactionCall → Effect
  | .beginAccepted => state.beginAccepted.1
  | .beginFailed => (state.beginFailed, [])
  | .endPreEffectFailed => (state.endPreEffectFailed, [])
  | .abandonRecording => state.abandonRecording
  | .failEnd => state.failEnd
  | .enterEndPublication => (state.enterEndPublication, [])
  | .finishEndPublication published => state.finishEndPublication published
  | .poison => state.poison
  | .markApplyPrepared => (state.markApplyPrepared, [])
  | .failPreparedApply => state.failPreparedApply
  | .finishPreparedApply => (state.finishPreparedApply, [])
  | .resetSucceeded => state.resetSucceeded
  | .resetFailed => (state.resetFailed, [])
  | .discardAll => state.discardAll
  | .discardPrepared => state.discardPrepared
  | .invalidateRecorderCapabilities =>
      (state.invalidateRecorderCapabilities.1, [])
  | .withWriter capability write =>
      ((state.withWriter capability write).1, [])
  | .stageTexture slot raw => (state.stageTexture slot raw).1
  | .stageStream slot value => (state.stageStream slot value).1
  | .stageVertexShader raw => (state.stageVertexShader raw).1
  | .stagePixelShader raw => (state.stagePixelShader raw).1
  | .stageIndexBuffer raw => (state.stageIndexBuffer raw).1
  | .stageRenderTarget slot raw => (state.stageRenderTarget slot raw).1
  | .stageDepthStencil raw => (state.stageDepthStencil raw).1
  | .takeTexture slot => (state.takeTexture slot).1
  | .takeStream slot => (state.takeStream slot).1
  | .takeVertexShader => state.takeVertexShader.1
  | .takePixelShader => state.takePixelShader.1
  | .takeIndexBuffer => state.takeIndexBuffer.1
  | .takeRenderTarget slot => (state.takeRenderTarget slot).1
  | .takeDepthStencil => state.takeDepthStencil.1

/-- The event of a lifecycle call. -/
def TransactionCall.event (phase : PeStateBlockPhase) :
    TransactionCall → Option PeStateBlockEvent
  | .beginAccepted => some .beginAccepted
  | .beginFailed => some .beginFailed
  | .endPreEffectFailed => some .endPreEffectFailed
  | .abandonRecording => some .resetStarted
  | .failEnd =>
      some (if phase = .endPublication then .endWrapperFailed
        else .endBackendFailed)
  | .enterEndPublication => some .endBackendAccepted
  | .finishEndPublication published =>
      some (if published then .endPublished else .endWrapperFailed)
  | .poison => some .poisonRequested
  | .markApplyPrepared => some .applyPrepared
  | .failPreparedApply => some .applyBackendFailed
  | .finishPreparedApply => some .applyBackendAccepted
  | .resetSucceeded => some .resetAccepted
  | .resetFailed => some .resetFailed
  | .discardAll => some .teardown
  | _ => none

/-- A transaction and what it has done to references so far. -/
structure TransactionRun where
  state : PeStateBlockTransactionState := {}
  log : List RefEvent := []

def TransactionRun.step (run : TransactionRun) (call : TransactionCall) :
    TransactionRun :=
  let done := perform run.state call
  { state := done.1, log := run.log ++ done.2 }

end Dxmt9.StateBlock
