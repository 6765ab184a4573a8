import Dxmt9.Framegraph.Linearizer

/-!
# The frame-graph builder

One forward walk over a payload, as in `framegraph/fg_builder.cpp`.  A draw
continues the open render pass while its attachment set is unchanged; a clear
always opens a fresh render pass; copies, readbacks and presents are passes
of their own.  Every access is checked against the strictly prior access log
of its canonical resource, and the hazards found become dependency edges.
-/

namespace Dxmt9.Framegraph

/-- Bind color slot `slot`, keeping `colorCount` at the highest bound slot. -/
def bindColorAttachment
    (attachments : Vector RenderTargetAttachment kMaxRenderTargets)
    (set : AttachmentSet) (slot : Fin kMaxRenderTargets) : AttachmentSet :=
  let attachment := attachments[slot]
  { set with
    color := set.color.setIfInBounds slot attachment.handle
    sampleCount := max set.sampleCount attachment.sampleCount
    colorCount := if attachment.handle ≠ 0 then slot + 1 else set.colorCount }

/-- Bind the depth/stencil slot. -/
def bindDepthAttachment (attachment : RenderTargetAttachment)
    (set : AttachmentSet) : AttachmentSet :=
  { set with
    depth := attachment.handle
    sampleCount := max set.sampleCount attachment.sampleCount }

/-- The attachment identity of a draw. -/
def attachmentSetFromHot (hot : FlatDrawStateRecord) : AttachmentSet :=
  bindDepthAttachment hot.depthStencil
    ((List.finRange kMaxRenderTargets).foldl
      (bindColorAttachment hot.colorAttachments) {})

/-- The attachment identity of a clear: only the aspects it clears. -/
def attachmentSetFromClear (clear : ClearCommandView) : AttachmentSet :=
  let set : AttachmentSet :=
    if clear.clearColor then
      (List.finRange kMaxRenderTargets).foldl
        (bindColorAttachment clear.colorAttachments) {}
    else {}
  if clear.clearDepth || clear.clearStencil then
    bindDepthAttachment clear.depthStencil set
  else set

/-- Insert `src → dst` on `handle` unless it is a self or duplicate edge. -/
def addEdgeOnce (handle : Handle) (dst : Nat) (edges : List Edge)
    (src : Nat) : List Edge :=
  if src = dst then edges
  else if hasEdge edges src dst handle then edges
  else edges ++ [{ srcPass := src, dstPass := dst, resource := handle }]

/-- Split a log at its most recent write: that write and what follows it. -/
def sinceLastWrite : List AccessLog → Option AccessLog × List AccessLog
  | [] => (none, [])
  | access :: rest =>
      match sinceLastWrite rest with
      | (some write, tail) => (some write, tail)
      | (none, tail) =>
          if access.writes then (some access, tail)
          else (none, access :: tail)

/--
Hazards of a new access against the strictly prior log.

A read depends on the last write.  A write depends on the last write and on
every read after it, or on every read when nothing was written.
-/
def hazardSources (log : List AccessLog) (kind : AccessKind) : List Nat :=
  let (lastWrite, later) := sinceLastWrite log
  let writer := lastWrite.toList.map AccessLog.passIndex
  let readers := (later.filter AccessLog.reads).map AccessLog.passIndex
  (if accessReads kind then writer else []) ++
    (if accessWrites kind then writer ++ readers else [])

def addDependencyEdges (edges : List Edge) (node : ResourceNode)
    (pass : Nat) (kind : AccessKind) (handle : Handle) : List Edge :=
  (hazardSources node.accesses kind).foldl (addEdgeOnce handle pass) edges

structure Builder where
  graph : FrameGraph := {}
  currentPass : Nat := 0
  /-- A render pass is open and accepts draws. -/
  openRenderPass : Bool := false

namespace Builder

/-- The node of `handle`, created on first use. -/
def resourceFor (builder : Builder) (handle : Handle) : ResourceNode :=
  (builder.graph.resources.find? fun node => node.handle == handle).getD
    { handle := handle
      firstUsePass := builder.currentPass
      lastUsePass := builder.currentPass }

/-- Store back the node of its handle, appending it when it is new. -/
def storeResource (resources : List ResourceNode) (node : ResourceNode) :
    List ResourceNode :=
  match resources with
  | [] => [node]
  | head :: tail =>
      if head.handle = node.handle then node :: tail
      else head :: storeResource tail node

/-- Log one access of a canonical, nonnull handle with its hazard edges. -/
def noteCanonicalAccess (builder : Builder) (handle : Handle)
    (passIndex : Nat) (kind : AccessKind) (stage : AccessStage) : Builder :=
  let node := builder.resourceFor handle
  let edges :=
    addDependencyEdges builder.graph.edges node passIndex kind handle
  let logged := recordAccess node passIndex kind stage
  let spanned :=
    { logged with
      firstUsePass := min logged.firstUsePass passIndex
      lastUsePass := max logged.lastUsePass passIndex }
  { builder with
    graph :=
      { builder.graph with
        edges := edges
        resources := storeResource builder.graph.resources spanned } }

def noteAccess (builder : Builder) (resolver : ResourceAliasResolver)
    (handle : Handle) (passIndex : Nat) (kind : AccessKind)
    (stage : AccessStage) (resolveAlias : Bool) : Builder :=
  if handle = 0 then builder
  else
    let canonical := if resolveAlias then resolver.apply handle else handle
    if canonical = 0 then builder
    else builder.noteCanonicalAccess canonical passIndex kind stage

def finalizeCurrentPass (builder : Builder) : Builder :=
  { builder with openRenderPass := false }

/-- Append `pass` with empty ranges at the end of both arrays. -/
def pushPass (graph : FrameGraph) (pass : PassNode) : FrameGraph :=
  { graph with
    passes := graph.passes ++
      [{ pass with
        draws := { first := graph.draws.length, count := 0 }
        commands := { first := graph.commands.length, count := 0 } }] }

/-- Grow the command range of the last pass by one reference. -/
def pushCommand (graph : FrameGraph) (command : CommandRef)
    (pass : Nat) : FrameGraph :=
  { graph with
    commands := graph.commands ++ [command]
    passes := graph.passes.modify pass fun node =>
      { node with
        commands := { node.commands with count := node.commands.count + 1 } } }

/-- Grow the draw range of a pass by one reference. -/
def pushDraw (graph : FrameGraph) (draw : DrawRef) (pass : Nat) :
    FrameGraph :=
  { graph with
    draws := graph.draws ++ [draw]
    passes := graph.passes.modify pass fun node =>
      { node with
        draws := { node.draws with count := node.draws.count + 1 } } }

/-- Open a fresh render pass with the given attachment set. -/
def openPass (builder : Builder) (targets : AttachmentSet)
    (stateProfile : Nat) : Builder :=
  { graph :=
      pushPass builder.graph
        { kind := .render, targets := targets, stateProfile := stateProfile }
    currentPass := builder.graph.passes.length
    openRenderPass := true }

/-- Emit a self-contained pass that owns exactly one command. -/
def emitStandalonePass (builder : Builder) (kind : PassKind)
    (commandIndex : Nat) (commandKind : MetalCommandKind) :
    Builder × Nat :=
  let passIndex := builder.graph.passes.length
  ({ builder.finalizeCurrentPass with
      graph :=
        pushCommand (pushPass builder.graph { kind := kind })
          { commandIndex := commandIndex, kind := commandKind } passIndex },
    passIndex)

/-! ### Command handlers -/

/-- Note one access of every handle in a list, in order. -/
def noteAccesses (resolver : ResourceAliasResolver) (passIndex : Nat)
    (kind : AccessKind) (stage : AccessStage) (resolveAlias : Bool)
    (handles : List Handle) (builder : Builder) : Builder :=
  handles.foldl
    (fun current handle =>
      current.noteAccess resolver handle passIndex kind stage resolveAlias)
    builder

/-- The color attachments inside `colorCount`. -/
def boundColors (targets : AttachmentSet) : List Handle :=
  targets.color.toList.take targets.colorCount

def recordAttachmentWrites (builder : Builder)
    (resolver : ResourceAliasResolver) (targets : AttachmentSet)
    (passIndex : Nat) : Builder :=
  builder
    |> noteAccesses resolver passIndex .write .fragment true
        (boundColors targets)
    |> noteAccesses resolver passIndex .write .fragment true
        [targets.depth]

/-- The texture handles whose stage bit is set. -/
def boundTextures (hot : FlatDrawStateRecord) : List Handle :=
  ((List.finRange kMaxTextures).filter fun stage =>
    hot.textureMask.testBit stage.val).map fun stage => hot.textures[stage]

/-- Shader reads already name the owning texture: no alias resolution. -/
def recordTextureReads (builder : Builder)
    (resolver : ResourceAliasResolver) (hot : FlatDrawStateRecord)
    (passIndex : Nat) : Builder :=
  noteAccesses resolver passIndex .read .fragment false
    (boundTextures hot) builder

/-- The pass a draw lands in: the open one, or a fresh one. -/
def enterDrawPass (builder : Builder) (resolver : ResourceAliasResolver)
    (targets : AttachmentSet) (stateProfile : Nat) : Builder :=
  if !builder.openRenderPass ||
      (builder.graph.pass builder.currentPass).targets ≠ targets then
    let opened := builder.openPass targets stateProfile
    opened.recordAttachmentWrites resolver targets opened.currentPass
  else if
      (builder.graph.pass builder.currentPass).stateProfile = 0 then
    { builder with
      graph :=
        { builder.graph with
          passes := builder.graph.passes.modify builder.currentPass
            fun node => { node with stateProfile := stateProfile } } }
  else builder

def handleDrawRun (builder : Builder) (resolver : ResourceAliasResolver)
    (commandIndex : Nat) (command : SourceCommandView) : Builder :=
  match command.hot with
  -- Malformed draw state: the whole command is skipped.
  | none => builder
  | some hot =>
      let stateProfile :=
        (command.drawRunRecord.map
          DrawRunCommandRecord.runStableBindingHash).getD 0
      let entered :=
        builder.enterDrawPass resolver (attachmentSetFromHot hot) stateProfile
      let read := entered.recordTextureReads resolver hot entered.currentPass
      let draw : DrawRef :=
        { commandIndex := commandIndex
          paramFirst :=
            (command.drawRunRecord.map
              DrawRunCommandRecord.firstParam).getD 0
          paramCount :=
            (command.drawRunRecord.map
              DrawRunCommandRecord.paramCount).getD command.drawParamCount }
      { read with
        graph :=
          pushCommand (pushDraw read.graph draw read.currentPass)
            { commandIndex := commandIndex, kind := .drawRun }
            read.currentPass }

/-- A rectangular color clear keeps the pixels outside its rectangles. -/
def clearColorAccess (clear : ClearCommandView) : AccessKind :=
  if clear.rectCount = 0 then .clear else .readWrite

/-- A depth/stencil clear overwrites only when it covers every aspect. -/
def clearDepthStencilAccess (resolver : ResourceAliasResolver)
    (clear : ClearCommandView) : AccessKind :=
  if clear.rectCount = 0 &&
      resolver.depthStencilClearCoversResource clear.depthStencil.handle
        clear.clearDepth clear.clearStencil then
    .clear
  else .readWrite

def handleClear (builder : Builder) (resolver : ResourceAliasResolver)
    (commandIndex : Nat) (command : SourceCommandView) : Builder :=
  match command.clear with
  | none => builder
  | some clear =>
      let targets := attachmentSetFromClear clear
      let opened := builder.finalizeCurrentPass.openPass targets 0
      let pushed :=
        { opened with
          graph :=
            pushCommand opened.graph
              { commandIndex := commandIndex, kind := .clear }
              opened.currentPass }
      pushed
        |> noteAccesses resolver pushed.currentPass
            (clearColorAccess clear) .fragment true (boundColors targets)
        |> noteAccesses resolver pushed.currentPass
            (clearDepthStencilAccess resolver clear) .fragment true
            [targets.depth]

def handlePresent (builder : Builder) (resolver : ResourceAliasResolver)
    (commandIndex : Nat) (command : SourceCommandView) : Builder :=
  let (emitted, passIndex) :=
    builder.emitStandalonePass .present commandIndex command.kind
  let source := command.present.getD 0
  let observed :=
    if source ≠ 0 then
      { emitted with currentPass := passIndex }.noteAccess resolver source
        passIndex .read .copy true
    else emitted
  { observed with
    graph := { observed.graph with flushBoundary := true } }

/-- Emit a copy pass that reads `source` and writes `dest`. -/
def emitBlit (builder : Builder) (resolver : ResourceAliasResolver)
    (commandIndex : Nat) (kind : MetalCommandKind)
    (source dest : Handle) : Builder :=
  let (emitted, passIndex) :=
    builder.emitStandalonePass .blit commandIndex kind
  let reading :=
    { emitted with currentPass := passIndex }.noteAccess resolver source
      passIndex .read .copy true
  reading.noteAccess resolver dest passIndex .write .copy true

/-- A copy-like command; an absent record skips the command. -/
def handleTransfer (builder : Builder) (resolver : ResourceAliasResolver)
    (commandIndex : Nat) (kind : MetalCommandKind) :
    Option TransferDesc → Builder
  | none => builder
  | some transfer =>
      builder.emitBlit resolver commandIndex kind transfer.source
        transfer.destination

def handleSurfaceCopy (builder : Builder)
    (resolver : ResourceAliasResolver) (commandIndex : Nat)
    (command : SourceCommandView) : Builder :=
  builder.handleTransfer resolver commandIndex command.kind
    command.surfaceCopy

def handleStretchRect (builder : Builder)
    (resolver : ResourceAliasResolver) (commandIndex : Nat)
    (command : SourceCommandView) : Builder :=
  builder.handleTransfer resolver commandIndex command.kind
    command.stretchRect

/-- A fill has no source. -/
def handleColorFill (builder : Builder) (resolver : ResourceAliasResolver)
    (commandIndex : Nat) (command : SourceCommandView) : Builder :=
  builder.handleTransfer resolver commandIndex command.kind
    (command.colorFill.map fun dest => { destination := dest })

def handleDepthResolve (builder : Builder)
    (resolver : ResourceAliasResolver) (commandIndex : Nat)
    (command : SourceCommandView) : Builder :=
  builder.handleTransfer resolver commandIndex command.kind
    command.depthResolve

def handleGenerateMipmaps (builder : Builder)
    (resolver : ResourceAliasResolver) (commandIndex : Nat)
    (command : SourceCommandView) : Builder :=
  match command.generateMipmaps with
  | none => builder
  | some texture =>
      let (emitted, passIndex) :=
        builder.emitStandalonePass .blit commandIndex command.kind
      { emitted with currentPass := passIndex }.noteAccess resolver texture
        passIndex .readWrite .copy false

/-- Mark the CPU readback on the node of the raw source handle. -/
def markReadback (builder : Builder) (source : Handle) : Builder :=
  let node := builder.resourceFor source
  { builder with
    graph :=
      { builder.graph with
        resources := storeResource builder.graph.resources
          { node with
            classifierFlags :=
              { node.classifierFlags with readbackSeen := true } } } }

def handleReadback (builder : Builder) (resolver : ResourceAliasResolver)
    (commandIndex : Nat) (command : SourceCommandView) : Builder :=
  match command.readback with
  | none => builder
  | some source =>
      let (emitted, passIndex) :=
        builder.emitStandalonePass .blit commandIndex command.kind
      let observed :=
        { emitted with currentPass := passIndex }.noteAccess resolver source
          passIndex .read .copy true
      if source ≠ 0 then observed.markReadback source else observed

/-- Dispatch one source command. -/
def handleCommand (resolver : ResourceAliasResolver) (builder : Builder)
    (commandIndex : Nat) (command : SourceCommandView) : Builder :=
  match command.kind with
  | .drawRun => builder.handleDrawRun resolver commandIndex command
  | .clear => builder.handleClear resolver commandIndex command
  | .present => builder.handlePresent resolver commandIndex command
  | .surfaceCopy => builder.handleSurfaceCopy resolver commandIndex command
  | .stretchRect => builder.handleStretchRect resolver commandIndex command
  | .colorFill => builder.handleColorFill resolver commandIndex command
  | .depthResolve => builder.handleDepthResolve resolver commandIndex command
  | .generateMipmaps =>
      builder.handleGenerateMipmaps resolver commandIndex command
  | .readback => builder.handleReadback resolver commandIndex command

/-- Walk the commands from position `index`. -/
def runFrom (resolver : ResourceAliasResolver) (builder : Builder)
    (index : Nat) : List SourceCommandView → Builder
  | [] => builder
  | command :: rest =>
      runFrom resolver (builder.handleCommand resolver index command)
        (index + 1) rest

end Builder

/-- Build the frame graph of one immutable payload. -/
def buildFrameGraph (payload : SourcePayloadView) (frameId : Nat)
    (resolver : ResourceAliasResolver) : FrameGraph :=
  (Builder.runFrom resolver { graph := { frameId := frameId } } 0
    payload.commands).finalizeCurrentPass.graph

end Dxmt9.Framegraph
