import Dxmt9.Dataflow.Liveness
import Dxmt9.Framegraph.Builder
import Dxmt9.Framegraph.EmissionOrder
import Dxmt9.Framegraph.BuiltGraph

/-!
# What the commands do to the surfaces

An abstract meaning of the recorded commands, one cell per surface.  A texture
consists of the surfaces that resolve to it.  Dead-pass elimination is
harmless when every interpretation of the commands shows the same presents,
readbacks and final contents with and without the commands of dead passes.
This holds exactly when no pass that satisfies the drop test owns a command
that surface-wise liveness needs.
-/

namespace Dxmt9.Framegraph

open Dxmt9.Dataflow
open Dxmt9.Order

/-! ## Surfaces of one command -/

/-- The surface is a subresource of the texture. -/
def subresource (resolver : ResourceAliasResolver)
    (texture surface : Handle) : Prop :=
  texture ≠ 0 ∧ surface ≠ 0 ∧ resolver.apply surface = texture

/-- The attachments that a draw updates. -/
def drawnSurfaces (hot : FlatDrawStateRecord) : List Handle :=
  (hot.colorAttachments.toList.map RenderTargetAttachment.handle ++
    [hot.depthStencil.handle]).filter (· ≠ 0)

def clearedColors (clear : ClearCommandView) : List Handle :=
  if clear.clearColor then
    (clear.colorAttachments.toList.map
      RenderTargetAttachment.handle).filter (· ≠ 0)
  else []

def clearedDepthStencil (clear : ClearCommandView) : List Handle :=
  if clear.clearDepth || clear.clearStencil then
    [clear.depthStencil.handle].filter (· ≠ 0)
  else []

/-- A rectangle or an aspect that is left out preserves old contents. -/
def preservedSurfaces (resolver : ResourceAliasResolver)
    (clear : ClearCommandView) : List Handle :=
  (if clear.rectCount = 0 then [] else clearedColors clear) ++
    (if clear.rectCount = 0 &&
        resolver.depthStencilClearCoversResource clear.depthStencil.handle
          clear.clearDepth clear.clearStencil then []
      else clearedDepthStencil clear)

/-- The source and destination of a copy-like command. -/
def SourceCommandView.transfer (command : SourceCommandView) :
    Option TransferDesc :=
  match command.kind with
  | .surfaceCopy => command.surfaceCopy
  | .stretchRect => command.stretchRect
  | .colorFill => command.colorFill.map fun dest => { destination := dest }
  | .depthResolve => command.depthResolve
  | _ => none

/-- The surfaces whose old contents a command uses. -/
def SourceCommandView.uses (resolver : ResourceAliasResolver)
    (command : SourceCommandView) (surface : Handle) : Prop :=
  match command.kind with
  | .drawRun => ∃ hot ∈ command.hot, surface ∈ drawnSurfaces hot ∨
      ∃ texture ∈ Builder.boundTextures hot,
        subresource resolver texture surface
  | .clear => ∃ clear ∈ command.clear,
      surface ∈ preservedSurfaces resolver clear
  | .generateMipmaps => ∃ texture ∈ command.generateMipmaps,
      subresource resolver texture surface
  | .readback => command.readback = some surface ∧ surface ≠ 0
  | .present => command.present = some surface ∧ surface ≠ 0
  -- A transfer may touch only a part of its destination.
  | _ => ∃ transfer ∈ command.transfer,
      surface ≠ 0 ∧ (surface = transfer.source ∨
        surface = transfer.destination)

/-- The surfaces whose contents a command replaces. -/
def SourceCommandView.updates (resolver : ResourceAliasResolver)
    (command : SourceCommandView) (surface : Handle) : Prop :=
  match command.kind with
  | .drawRun => ∃ hot ∈ command.hot, surface ∈ drawnSurfaces hot
  | .clear => ∃ clear ∈ command.clear,
      surface ∈ clearedColors clear ++ clearedDepthStencil clear
  | .generateMipmaps => ∃ texture ∈ command.generateMipmaps,
      subresource resolver texture surface
  | .readback => False
  | .present => False
  | _ => ∃ transfer ∈ command.transfer,
      surface ≠ 0 ∧ surface = transfer.destination

/-- The commands of a payload, followed by those of its successor. -/
def windowCommand (payload successor : SourcePayloadView) (index : Nat) :
    SourceCommandView :=
  if index < payload.commandCount then payload.commandAt index
  else successor.commandAt (index - payload.commandCount)

/-- Presents and readbacks of the payload are observed. -/
def surfaceFlow (payload successor : SourcePayloadView)
    (resolver : ResourceAliasResolver) : CellFlow Nat Handle where
  inputs index := (windowCommand payload successor index).uses resolver
  outputs index := (windowCommand payload successor index).updates resolver
  observes index := index < payload.commandCount ∧
    ((windowCommand payload successor index).kind = .present ∨
      (windowCommand payload successor index).kind = .readback)

/-- The commands of the successor. -/
def successorCommands (payload successor : SourcePayloadView) : List Nat :=
  (List.range successor.commandCount).map (payload.commandCount + ·)

/-- The command belongs to a dead pass. -/
def droppedCommand (graph : FrameGraph) (index : Nat) : Bool :=
  (List.range graph.passes.length).any fun q =>
    (graph.pass q).flags.dead && (graph.passCommands q).contains index

/--
Replaying without the dropped commands shows the same.

Whatever the commands compute, every present and readback of the payload sees
the same, and every surface has the same content once the successor has been
replayed too.
-/
def EliminationPreserves (payload successor : SourcePayloadView)
    (resolver : ResourceAliasResolver) (dropped : Nat → Bool)
    (order : List Nat) : Prop :=
  let flow := surfaceFlow payload successor resolver
  let next := successorCommands payload successor
  let live := order.filter fun index => !dropped index
  ∀ (ν : Type) (effect : Nat → (Handle → Option ν) → Handle → ν)
    (store : Handle → ν),
    flow.observed effect store live = flow.observed effect store order ∧
      ∀ surface, flow.exec effect store (live ++ next) surface =
        flow.exec effect store (order ++ next) surface

/-- The command matters to a present, a readback or a final content. -/
def NeededCommand (payload successor : SourcePayloadView)
    (resolver : ResourceAliasResolver) (index : Nat) (behind : List Nat) :
    Prop :=
  (surfaceFlow payload successor resolver).Useful (fun _ => True) index
    (behind ++ successorCommands payload successor)

theorem eliminationPreserves_iff {payload successor : SourcePayloadView}
    {resolver : ResourceAliasResolver} {dropped : Nat → Bool}
    {order : List Nat}
    (inside : ∀ index ∈ order, index < payload.commandCount) :
    EliminationPreserves payload successor resolver dropped order ↔
      ∀ before index behind, order = before ++ index :: behind →
        dropped index = true →
          ¬ NeededCommand payload successor resolver index behind := by
  let flow := surfaceFlow payload successor resolver
  let next := successorCommands payload successor
  let keep : Nat → Bool := fun index =>
    decide (payload.commandCount ≤ index) || !dropped index
  have outside : ∀ index ∈ next, payload.commandCount ≤ index := by
    intro index member
    rcases List.mem_map.mp member with ⟨offset, _, rfl⟩
    exact Nat.le_add_right _ _
  have filtered : (order ++ next).filter keep =
      order.filter (fun index => !dropped index) ++ next := by
    rw [List.filter_append]
    congr 1
    · apply List.filter_congr
      intro index member
      simp [keep, inside index member]
    · apply List.filter_eq_self.mpr
      intro index member
      simp [keep, outside index member]
  have silent : ∀ index ∈ next, ¬ flow.observes index := fun index member
      observed => absurd observed.1 (Nat.not_lt_of_le (outside index member))
  have preserves : EliminationPreserves payload successor resolver dropped
      order ↔ flow.Preserves (fun _ => True) keep (order ++ next) := by
    unfold EliminationPreserves CellFlow.Preserves
    simp only [filtered, CellFlow.observed_append, true_implies]
    simp only [flow, next] at silent ⊢
    simp only [CellFlow.observed_eq_nil _ _ silent, List.append_nil]
  rw [preserves, CellFlow.preserves_iff]
  constructor
  · rintro omits before index behind rfl isDropped
    have bound := inside index (List.mem_append_right _ List.mem_cons_self)
    refine omits before index (behind ++ next) (by simp) ?_
    simp [keep, isDropped, bound]
  · intro useless before index after split omitted
    simp only [keep, Bool.or_eq_false_iff, decide_eq_false_iff_not,
      Bool.not_eq_false'] at omitted
    -- The successor is kept, so the command stands in the payload.
    rcases List.append_eq_append_iff.mp split with
      ⟨tail, beforeEq, nextEq⟩ | ⟨tail, orderEq, behindEq⟩
    · have member : index ∈ next := by
        rw [nextEq]
        exact List.mem_append_right _ List.mem_cons_self
      exact absurd (outside index member) omitted.1
    · cases tail with
      | nil =>
          have member : index ∈ next := by
            rw [List.nil_append] at behindEq
            exact behindEq ▸ List.mem_cons_self
          exact absurd (outside index member) omitted.1
      | cons head behind =>
          simp only [List.cons_append, List.cons.injEq] at behindEq
          rcases behindEq with ⟨rfl, rfl⟩
          exact useless before index behind orderEq omitted.2

end Dxmt9.Framegraph

/-!
## When dead-pass elimination is harmless

The drop test counts a later draw to an attachment as a plain write, although
the draw loads what it does not cover, and it counts a clear of one surface as
a clear of its whole texture.  So a dropped pass may own commands that are
still needed.  Surface-wise liveness tells exactly when this happens.
-/

namespace Dxmt9.Framegraph

open Dxmt9.Dataflow

/-- The elimination proof that the successor provides. -/
def successorProof (successor : SourcePayloadView) (frameId : Nat)
    (resolver : ResourceAliasResolver) : DceLookaheadProof where
  fullyOverwrittenBeforeRead :=
    collectDceLookaheadFullOverwrites
      (buildFrameGraph successor frameId resolver)

theorem droppedCommand_iff (graph : FrameGraph) (index : Nat) :
    droppedCommand graph index = true ↔
      ∃ q < graph.passes.length, (graph.pass q).flags.dead = true ∧
        index ∈ graph.passCommands q := by
  simp [droppedCommand]

theorem optimize_droppedCommand_iff {graph : FrameGraph}
    (built : graph.Built) {options : OptimizerOptions}
    (dce : options.dce = true) (inputs : OptimizerInputs) (index : Nat) :
    droppedCommand (optimize graph options inputs) index = true ↔
      let received := (runBeforeDce graph options inputs).1
      ∃ q < received.passes.length,
        dceDecision received inputs.lookahead q (received.pass q) = .drop ∧
        index ∈ received.passCommands q := by
  rcases classifiedGraph_regrouped built.toWellFormed options
    inputs.observations with ⟨classes, regrouped⟩
  have formed := regrouped.wellFormed built.toWellFormed
  rw [droppedCommand_iff, runBeforeDce_fst, optimize_eq, if_pos dce]
  generalize classifiedGraph graph options inputs.observations = received
    at regrouped formed ⊢
  have fate : ∀ {q}, q < received.passes.length →
      (((eliminatedGraph received inputs.lookahead).pass q).flags.dead = true ↔
        dceDecision received inputs.lookahead q (received.pass q) =
          .drop) := by
    intro q bound
    rcases regrouped.exists_flags (FrameGraph.pass_mem bound) with
      ⟨old, member, flags⟩
    rw [eliminatedGraph_pass received _ bound, ← diesUnder, diesUnder_eq,
      flags, built.unflagged old member]
    simp
  have length : (eliminatedGraph received inputs.lookahead).passes.length =
      received.passes.length := by simp [eliminatedGraph]
  have final := exists_runAfterDce_pass
    (eliminatedGraph_edgesForward formed.toEdgesForward inputs.lookahead)
    options true
  constructor
  · rintro ⟨q, bound, dead, owned⟩
    rcases (final _).mp ⟨q, bound, dead, rfl⟩ with
      ⟨p, inside, isDead, commands⟩
    rw [length] at inside
    rw [eliminatedGraph_passCommands] at commands
    exact ⟨p, inside, (fate inside).mp isDead, commands ▸ owned⟩
  · rintro ⟨p, inside, dropped, owned⟩
    rcases (final _).mpr ⟨p, length.symm ▸ inside, (fate inside).mpr dropped,
      eliminatedGraph_passCommands received inputs.lookahead p⟩ with
      ⟨q, bound, dead, commands⟩
    exact ⟨q, bound, dead, commands ▸ owned⟩

/-- A draw that only has a depth attachment. -/
def depthDraw (depth : Handle) : SourceCommandView where
  kind := .drawRun
  hot := some { depthStencil := { handle := depth } }
  drawRunRecord := some { paramCount := 1 }
  drawParamCount := 1

/-- A draw that tests against a depth attachment. -/
def testedDraw (target depth : Handle) : SourceCommandView :=
  let draw := SourceCommandView.drawTo target
  { draw with
    hot := draw.hot.map fun hot =>
      { hot with depthStencil := { handle := depth } } }

def presentOf (source : Handle) : SourceCommandView where
  kind := .present
  present := some source

/-- A rectless clear of both aspects. -/
def depthClear (depth : Handle) : SourceCommandView where
  kind := .clear
  clear := some
    { depthStencil := { handle := depth }
      clearDepth := true
      clearStencil := true }

end Dxmt9.Framegraph
