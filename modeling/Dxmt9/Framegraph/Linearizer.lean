import Dxmt9.Framegraph.Dag
import Dxmt9.Framegraph.Optimizer

/-!
# Source payload views

The builder sees one immutable published payload through `commandCount` and
`commandAt`; both storage forms (legacy slot and arena) expose this view.
Only the fields of a command that the frame graph reads are kept.  A payload
record that is absent, for instance because an index is out of range, is
`none`.
-/

namespace Dxmt9.Framegraph

/-- `core::kMaxRenderTargets`. -/
abbrev kMaxRenderTargets : Nat := 4

/-- `core::kMaxTextures`: sixteen fragment and four vertex samplers. -/
abbrev kMaxTextures : Nat := 20

structure RenderTargetAttachment where
  handle : Handle := 0
  sampleCount : Nat := 1
deriving DecidableEq, Inhabited

/-- Hot draw state: the fields read by the graph builder. -/
structure FlatDrawStateRecord where
  textures : Vector Handle kMaxTextures := Vector.replicate _ 0
  /-- Bit `stage` is set when texture stage `stage` is bound. -/
  textureMask : Nat := 0
  colorAttachments : Vector RenderTargetAttachment kMaxRenderTargets :=
    Vector.replicate _ {}
  depthStencil : RenderTargetAttachment := {}
deriving DecidableEq

structure DrawRunCommandRecord where
  firstParam : Nat := 0
  paramCount : Nat := 0
  runStableBindingHash : Nat := 0
deriving DecidableEq

/-- A clear: its attachments, aspects and the number of rectangles. -/
structure ClearCommandView where
  colorAttachments : Vector RenderTargetAttachment kMaxRenderTargets :=
    Vector.replicate _ {}
  depthStencil : RenderTargetAttachment := {}
  clearColor : Bool := false
  clearDepth : Bool := false
  clearStencil : Bool := false
  rectCount : Nat := 0
deriving DecidableEq

/-- Source and destination of a copy-like command. -/
structure TransferDesc where
  source : Handle := 0
  destination : Handle := 0
deriving DecidableEq

/-- One command as `SourcePayloadView::commandAt` presents it. -/
structure SourceCommandView where
  kind : MetalCommandKind := .drawRun
  hot : Option FlatDrawStateRecord := none
  drawRunRecord : Option DrawRunCommandRecord := none
  /-- `drawRunDrawCount`, the number of draw parameters. -/
  drawParamCount : Nat := 0
  clear : Option ClearCommandView := none
  surfaceCopy : Option TransferDesc := none
  stretchRect : Option TransferDesc := none
  /-- Destination surface of a fill. -/
  colorFill : Option Handle := none
  /-- Multisampled depth source and INTZ destination. -/
  depthResolve : Option TransferDesc := none
  generateMipmaps : Option Handle := none
  /-- Source surface of a readback. -/
  readback : Option Handle := none
  /-- Presented source surface. -/
  present : Option Handle := none
deriving DecidableEq

instance : Inhabited SourceCommandView := ⟨{}⟩

/-- One draw with a single bound colour attachment. -/
def SourceCommandView.drawTo (target : Handle) : SourceCommandView where
  kind := .drawRun
  hot := some
    { colorAttachments := #v[{ handle := target }, {}, {}, {}] }
  drawRunRecord := some { paramCount := 1 }
  drawParamCount := 1

/-- The immutable command list of one published source. -/
structure SourcePayloadView where
  commands : List SourceCommandView := []
  /-- Some storage is bound. -/
  valid : Bool := true
deriving DecidableEq

namespace SourcePayloadView

def commandCount (payload : SourcePayloadView) : Nat :=
  payload.commands.length

def commandAt (payload : SourcePayloadView) (index : Nat) :
    SourceCommandView :=
  payload.commands.getD index default

end SourcePayloadView

/--
Retained-resource alias mapping.

Surfaces resolve to their owning texture; either callback may be absent.
-/
structure ResourceAliasResolver where
  resolve : Option (Handle → Handle) := none
  depthStencilClearCovers : Option (Handle → Bool → Bool → Bool) := none

namespace ResourceAliasResolver

/-- The canonical identity of a handle. -/
def apply (resolver : ResourceAliasResolver) (handle : Handle) : Handle :=
  match resolver.resolve with
  | some resolve => resolve handle
  | none => handle

/-- Does the clear cover every aspect present in the resource? -/
def depthStencilClearCoversResource (resolver : ResourceAliasResolver)
    (handle : Handle) (clearDepth clearStencil : Bool) : Bool :=
  match resolver.depthStencilClearCovers with
  | some covers => covers handle clearDepth clearStencil
  -- Without format evidence only both logical aspects are conclusive.
  | none => clearDepth && clearStencil

end ResourceAliasResolver

end Dxmt9.Framegraph

/-!
## Linearization plans

`planLinearization` of `fg_linearizer.cpp`: a render pass opens, emits its
draws in order and closes; a render pass without draws is a clear boundary
when one of its load actions is a clear and is skipped otherwise; presents
and blits are single operations.  Dead passes are left out.
-/

namespace Dxmt9.Framegraph

inductive LinearOpKind where
  | beginPass
  | emitDraw
  | emitClear
  | endPass
  | present
  | blit
deriving DecidableEq, Inhabited

/-- One operation; the fields a kind does not use keep their defaults. -/
structure LinearOp where
  kind : LinearOpKind := .beginPass
  passIndex : Nat := 0
  attachments : AttachmentSet := {}
  loadStore : LoadStorePolicy := {}
  passKind : PassKind := .render
  draw : DrawRef := {}
deriving DecidableEq

/-- Some attachment of the pass is cleared when it is loaded. -/
def passHasClearLoad (pass : PassNode) : Bool :=
  pass.loadStore.colorLoad.any (fun action => action == .clear) ||
    pass.loadStore.depthLoad == .clear

/-- The operations of one render pass. -/
def emitRenderPass (graph : FrameGraph) (passIndex : Nat) : List LinearOp :=
  let pass := graph.pass passIndex
  if pass.draws.count = 0 then
    if passHasClearLoad pass then
      [{ kind := .emitClear
         passIndex := passIndex
         attachments := pass.targets
         loadStore := pass.loadStore }]
    else []
  else
    -- The opening operation carries the first draw of the pass.
    [{ kind := .beginPass
       passIndex := passIndex
       attachments := pass.targets
       loadStore := pass.loadStore
       draw := graph.draws.getD pass.draws.first default }] ++
      (graph.drawsOf pass).map (fun draw =>
        { kind := .emitDraw, passIndex := passIndex, draw := draw }) ++
      [{ kind := .endPass, passIndex := passIndex }]

/-- The single operation of a present or blit pass. -/
def emitStandaloneOp (passIndex : Nat) (kind : PassKind) : LinearOp where
  kind := if kind = .present then .present else .blit
  passIndex := passIndex
  passKind := kind

/-- The operations of one pass. -/
def linearizePass (graph : FrameGraph) (passIndex : Nat) : List LinearOp :=
  let pass := graph.pass passIndex
  if pass.flags.dead then []
  else
    match pass.kind with
    | .render => emitRenderPass graph passIndex
    | .present => [emitStandaloneOp passIndex .present]
    | .blit => [emitStandaloneOp passIndex .blit]
    | .compute | .sync => []

/-- All operations in submission order. -/
def planLinearization (graph : FrameGraph) : List LinearOp :=
  (List.range graph.passes.length).flatMap (linearizePass graph)

end Dxmt9.Framegraph

/-!
## Replay plans

`planReplayCommands` of `fg_linearizer.cpp` flattens the live passes into the
order in which the source commands are replayed.  Every command has to be
owned by exactly one live or dead pass.  `planDceLookaheadReplayPrefix` of
`dce.cpp` predicts a prefix of that order before the real elimination proof
is known.
-/

namespace Dxmt9.Framegraph

structure ReplayCommandPlan where
  commandIndices : List Nat := []
  valid : Bool := false
  reordered : Bool := false
  dropped : Bool := false
deriving DecidableEq

/-- The plan so far and which commands it has met. -/
structure ReplayScan where
  plan : ReplayCommandPlan := {}
  accounted : List Bool := []
  omitted : List Bool := []
deriving DecidableEq

/-- Account for one reference; an error returns the unfinished plan. -/
def replayCommand (payload : SourcePayloadView) (dead : Bool)
    (scan : ReplayScan) (ref : CommandRef) :
    Except ReplayCommandPlan ReplayScan :=
  let index := ref.commandIndex
  if index ≥ payload.commandCount || scan.accounted.getD index false ||
      decide ((payload.commandAt index).kind ≠ ref.kind) then
    .error scan.plan
  else
    let accounted := { scan with accounted := scan.accounted.set index true }
    if dead then
      .ok
        { accounted with
          plan := { scan.plan with dropped := true }
          omitted := scan.omitted.set index true }
    else
      .ok
        { accounted with
          plan :=
            { scan.plan with
              commandIndices := scan.plan.commandIndices ++ [index] } }

/-- Account for every reference of one pass. -/
def replayPass (graph : FrameGraph) (payload : SourcePayloadView)
    (scan : ReplayScan) (pass : PassNode) :
    Except ReplayCommandPlan ReplayScan :=
  if !validCommandRange graph pass then .error scan.plan
  else
    (graph.commandsOf pass).foldlM (replayCommand payload pass.flags.dead)
      scan

/-- Skip the omitted positions from `natural` on. -/
def skipOmitted (omitted : List Bool) (natural : Nat) : Nat :=
  natural + ((omitted.drop natural).takeWhile id).length

/-- Does the order differ from the natural one without omitted commands? -/
def isReordered (omitted : List Bool) : Nat → List Nat → Bool
  | _, [] => false
  | natural, index :: rest =>
      let expected := skipOmitted omitted natural
      if index ≠ expected then true
      else isReordered omitted (expected + 1) rest

/-- The plan of a finished walk. -/
def finishReplay (scan : ReplayScan) : ReplayCommandPlan :=
  if scan.accounted.all id then
    { scan.plan with
      valid := true
      reordered := isReordered scan.omitted 0 scan.plan.commandIndices }
  else scan.plan

def planReplayCommands (graph : FrameGraph) (payload : SourcePayloadView) :
    ReplayCommandPlan :=
  let start : ReplayScan :=
    { accounted := List.replicate payload.commandCount false
      omitted := List.replicate payload.commandCount false }
  match graph.passes.foldlM (replayPass graph payload) start with
  | .error plan => plan
  | .ok scan => finishReplay scan

/-- The first pass alive without the hint and dead with it. -/
def boundaryPass (baseline predicted : FrameGraph) : Nat :=
  (List.range baseline.passes.length).findIdx fun p =>
    !(baseline.pass p).flags.dead && (predicted.pass p).flags.dead

/-- Append one predicted command; `none` when it is out of range or seen. -/
def prefixCommand (commandCount : Nat) (result : List Nat)
    (ref : CommandRef) : Option (List Nat) :=
  if ref.commandIndex ≥ commandCount || result.contains ref.commandIndex then
    none
  else some (result ++ [ref.commandIndex])

/-- Append the commands of one predicted pass unless it is dead. -/
def prefixPass (predicted : FrameGraph) (commandCount : Nat)
    (result : List Nat) (pass : PassNode) : Option (List Nat) :=
  if pass.flags.dead then some result
  else if (predicted.commandsOf pass).length < pass.commands.count then none
  else
    (predicted.commandsOf pass).foldlM (prefixCommand commandCount) result

/--
Commands that replay before the first pass whose fate depends on the hint.

The empty list means that no useful prefix exists.
-/
def planDceLookaheadReplayPrefix (graph : FrameGraph) (commandCount : Nat)
    (options : OptimizerOptions) (priorLookahead : DceLookaheadProof) :
    List Nat :=
  if priorLookahead.fullyOverwrittenBeforeRead.isEmpty ||
      commandCount = 0 then []
  else
    let activeOptions := { options with dce := true }
    let withoutLookahead := optimize graph activeOptions {}
    let withLookahead :=
      optimize graph activeOptions { lookahead := priorLookahead }
    if withoutLookahead.passes.length ≠ withLookahead.passes.length then []
    else
      let boundary := boundaryPass withoutLookahead withLookahead
      if boundary = 0 || boundary ≥ withoutLookahead.passes.length then []
      else
        ((withLookahead.passes.take boundary).foldlM
          (prefixPass withLookahead commandCount) []).getD []

end Dxmt9.Framegraph
