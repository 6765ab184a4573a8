import Dxmt9.Framegraph.Dag
import Dxmt9.Framegraph.PassCoalesce

/-!
# The optimizer

The passes that may drop or reorder passes, and the order they run in.

## Dependency-respecting reorder

The topological sort of `fg_optimizer/reorder.cpp`.  Among the passes without
unfinished producers the one with the cheapest transition from the previous
pass is emitted; ties go to the smallest index.  A cycle leaves the graph
unchanged.
-/

namespace Dxmt9.Framegraph

/-- Integer cost of emitting `target` right after `source`. -/
def transitionCost (source target : PassNode) : Nat :=
  (if source.kind ≠ target.kind then 10 else 0) +
    (if source.targets ≠ target.targets then 100 else 0)

/-- Edges that constrain the sort: no self edges, both ends in range. -/
def sortEdges (graph : FrameGraph) : List Edge :=
  graph.edges.filter fun edge =>
    decide (edge.srcPass ≠ edge.dstPass) &&
      decide (edge.srcPass < graph.passes.length) &&
      decide (edge.dstPass < graph.passes.length)

structure ReorderState where
  inDegree : List Nat := []
  newOrder : List Nat := []
deriving DecidableEq

/-- In-degrees before anything is emitted. -/
def initialReorderState (graph : FrameGraph) : ReorderState where
  inDegree := (List.range graph.passes.length).map fun p =>
    (sortEdges graph).countP fun edge => edge.dstPass == p

/-- The cost of `p` after the most recently emitted pass. -/
def emissionCost (graph : FrameGraph) (state : ReorderState) (p : Nat) :
    Nat :=
  match state.newOrder.getLast? with
  | none => 0
  | some last => transitionCost (graph.pass last) (graph.pass p)

/-- Keep the cheaper candidate; the earlier one wins a tie. -/
def cheaper (graph : FrameGraph) (state : ReorderState)
    (best : Option Nat) (p : Nat) : Option Nat :=
  match best with
  | none => some p
  | some current =>
      if emissionCost graph state p < emissionCost graph state current then
        some p
      else some current

/-- Not yet emitted and without unfinished producers. -/
def ready (state : ReorderState) (p : Nat) : Bool :=
  !state.newOrder.contains p && decide (state.inDegree.getD p 0 = 0)

/-- The next pass to emit, if any is ready. -/
def selectReady (graph : FrameGraph) (state : ReorderState) : Option Nat :=
  ((List.range graph.passes.length).filter (ready state)).foldl
    (cheaper graph state) none

/-- Emit `best` and release its consumers. -/
def emitPass (graph : FrameGraph) (state : ReorderState) (best : Nat) :
    ReorderState where
  inDegree :=
    (((sortEdges graph).filter fun edge => edge.srcPass == best).map
      Edge.dstPass).foldl (fun degrees p => degrees.modify p (· - 1))
        state.inDegree
  newOrder := state.newOrder ++ [best]

/-- Emit `steps` passes; `none` on a cycle. -/
def reorderSteps (graph : FrameGraph) :
    Nat → ReorderState → Option ReorderState
  | 0, state => some state
  | steps + 1, state =>
      match selectReady graph state with
      | none => none
      | some best => reorderSteps graph steps (emitPass graph state best)

/-- First and last pass of an access log. -/
def lifetimeSpan (first : AccessLog) (rest : List AccessLog) : Nat × Nat :=
  rest.foldl
    (fun span access =>
      (min span.1 access.passIndex, max span.2 access.passIndex))
    (first.passIndex, first.passIndex)

/-- Renumber every pass index along an emission order. -/
def applyOrder (graph : FrameGraph) (order : List Nat) : FrameGraph :=
  let count := graph.passes.length
  let remap (old : Nat) : Nat :=
    if old < count then order.idxOf old else old
  { graph with
    passes := order.map graph.pass
    resources := graph.resources.map fun node =>
      let accesses := node.accesses.map fun access =>
        { access with passIndex := remap access.passIndex }
      match accesses with
      | [] => node
      | first :: rest =>
          let span := lifetimeSpan first rest
          { node with
            accesses := accesses
            firstUsePass := span.1
            lastUsePass := span.2 }
    edges := graph.edges.map fun edge =>
      { edge with
        srcPass := remap edge.srcPass
        dstPass := remap edge.dstPass } }

def runReorder (graph : FrameGraph) : FrameGraph :=
  if graph.passes.length < 2 then graph
  else
    match reorderSteps graph graph.passes.length
        (initialReorderState graph) with
    | none => graph
    | some final => applyOrder graph final.newOrder

end Dxmt9.Framegraph

/-!
## Dead-pass elimination

The chunk-conservative rule of `fg_optimizer/dce.cpp`.  A pass dies only when
every resource it writes is unread afterwards, never read back, and either
memoryless, cleared by a later pass, or overwritten first by the successor.
Dead passes are marked in place; nothing is renumbered.
-/

namespace Dxmt9.Framegraph

/-- Some access reads the resource in a pass after `writePass`. -/
def readAfterWriteInChunk (node : ResourceNode) (writePass : Nat) : Bool :=
  node.accesses.any fun access =>
    access.reads && decide (access.passIndex > writePass)

/-- A pass after `writePass` clears the resource. -/
def fullyOverwrittenLaterInChunk (node : ResourceNode) (writePass : Nat) :
    Bool :=
  node.accesses.any fun access =>
    decide (access.accessKind = .clear) &&
      decide (access.passIndex > writePass)

/-- Resources whose first access in the next chunk is a full overwrite. -/
structure DceLookaheadProof where
  fullyOverwrittenBeforeRead : List Handle := []
deriving DecidableEq

def DceLookaheadProof.contains (lookahead : DceLookaheadProof)
    (handle : Handle) : Bool :=
  lookahead.fullyOverwrittenBeforeRead.contains handle

/-- Nonnull, neither locked nor read back, and cleared first. -/
def overwrittenFirst (node : ResourceNode) : Bool :=
  decide (node.handle ≠ 0) && !node.classifierFlags.lockSeen &&
    !node.classifierFlags.readbackSeen &&
    match node.accesses with
    | [] => false
    | first :: _ => decide (first.accessKind = .clear)

def collectDceLookaheadFullOverwrites (lookahead : FrameGraph) :
    List Handle :=
  (lookahead.resources.filter overwrittenFirst).map ResourceNode.handle

/-- Passes that are never candidates, whatever they write. -/
def dceProtected (pass : PassNode) : Bool :=
  decide (pass.kind = .present) || pass.flags.containsOcclusionQuery ||
    pass.flags.containsEventQuery || pass.flags.containsLock ||
    pass.flags.debugMarker

/-- Did the pass write the resource? -/
def passWrote (node : ResourceNode) (passIndex : Nat) : Bool :=
  node.accesses.any fun access =>
    decide (access.passIndex = passIndex) && access.writes

/-- The content written by `passIndex` survives in a later chunk unread. -/
def crossChunkSafe (lookahead : DceLookaheadProof) (node : ResourceNode)
    (passIndex : Nat) : Bool :=
  decide (node.residency = .memoryless) ||
    fullyOverwrittenLaterInChunk node passIndex ||
    lookahead.contains node.handle

/-- The resources a pass writes. -/
def writtenResources (graph : FrameGraph) (passIndex : Nat) :
    List ResourceNode :=
  graph.resources.filter fun node => passWrote node passIndex

/-- The outcome of one iteration of the elimination loop. -/
inductive DceDecision where
  | skip
  | drop
  | preserve
deriving DecidableEq

/-- Every written resource is unread, not read back and overwritten. -/
def dceDroppable (graph : FrameGraph) (lookahead : DceLookaheadProof)
    (passIndex : Nat) : Bool :=
  (writtenResources graph passIndex).all fun node =>
    !readAfterWriteInChunk node passIndex &&
      !node.classifierFlags.readbackSeen &&
      crossChunkSafe lookahead node passIndex

def dceDecision (graph : FrameGraph) (lookahead : DceLookaheadProof)
    (passIndex : Nat) (pass : PassNode) : DceDecision :=
  if dceProtected pass || pass.flags.dead then .skip
  -- An unmerged active-render seed is planning-only.
  else if pass.flags.activeRenderSeed && pass.commands.count = 0 then .skip
  else if pass.kind = .present || pass.kind = .sync then .skip
  else if (writtenResources graph passIndex).isEmpty then .skip
  else if dceDroppable graph lookahead passIndex then .drop
  else .preserve

/-- Mark the pass dead when the decision drops it. -/
def dcePass (graph : FrameGraph) (lookahead : DceLookaheadProof)
    (passIndex : Nat) (pass : PassNode) : PassNode :=
  if dceDecision graph lookahead passIndex pass = .drop then
    { pass with flags := { pass.flags with dead := true } }
  else pass

/-- Count one decision. -/
def countDce (stats : OptimizerStats) : DceDecision → OptimizerStats
  | .skip => stats
  | .drop => { stats with dceDropped := stats.dceDropped + 1 }
  | .preserve =>
      { stats with
        dcePreservedUnprovable := stats.dcePreservedUnprovable + 1 }

/-- Each iteration reads the log and changes only its own pass. -/
def runDce (graph : FrameGraph) (stats : Option OptimizerStats)
    (lookahead : DceLookaheadProof) :
    FrameGraph × Option OptimizerStats :=
  ({ graph with passes := graph.passes.mapIdx (dcePass graph lookahead) },
    stats.map fun stats =>
      (graph.passes.mapIdx (dceDecision graph lookahead)).foldl countDce
        stats)

end Dxmt9.Framegraph

/-!
## The optimizer pipeline

`fg_optimizer.cpp` runs its passes in a fixed order: lifetime, coalescing,
memoryless classification, dead-pass elimination, reorder, load/store
selection.  The first and the last always run; the others are gated.
-/

namespace Dxmt9.Framegraph

/-- First and last use from the access log; `0` without accesses. -/
def recomputeLifetime (node : ResourceNode) : ResourceNode :=
  match node.accesses with
  | [] => { node with firstUsePass := 0, lastUsePass := 0 }
  | first :: rest =>
      let span := lifetimeSpan first rest
      { node with firstUsePass := span.1, lastUsePass := span.2 }

def runLifetime (graph : FrameGraph) : FrameGraph :=
  { graph with resources := graph.resources.map recomputeLifetime }

/-- Used in a single pass. -/
def resourceIsTransient (node : ResourceNode) : Bool :=
  decide (node.firstUsePass = node.lastUsePass)

/-- Merge to a fixpoint, then recompute the lifetimes. -/
def runPassCoalesce (queries : FrameGraph → Nat → Nat → Bool)
    (graph : FrameGraph) (report : OptimizerReport)
    (collectReturnDiagnostics : Bool) : FrameGraph × OptimizerReport :=
  let tracker :=
    if collectReturnDiagnostics && report.stats.isSome then
      some (ReturnDiagnosticTracker.initial graph)
    else none
  let (merged, final) :=
    coalesceFixpoint queries graph.passes.length graph
      { stats := report.stats
        tracker := tracker
        witnesses := report.witnesses }
  (runLifetime merged,
    { stats := final.stats, witnesses := final.witnesses })

structure MemorylessObservation where
  handle : Handle := 0
  observationFrames : Nat := 0
  boundAsBackbuffer : Bool := false
deriving DecidableEq

def findObservation (observations : List MemorylessObservation)
    (handle : Handle) : Option MemorylessObservation :=
  observations.find? fun observation => observation.handle == handle

/-- The last producing pass of the chunk. -/
def producerPass (node : ResourceNode) : Option Nat :=
  ((node.accesses.filter AccessLog.writes).getLast?).map
    AccessLog.passIndex

/-- No lock, no readback and no read outside the producing pass. -/
def currentChunkClean (node : ResourceNode) : Bool :=
  !node.classifierFlags.lockSeen && !node.classifierFlags.readbackSeen &&
    match producerPass node with
    | none => true
    | some producer =>
        node.accesses.all fun access =>
          !(access.reads && decide (access.passIndex ≠ producer))

/-- The decision for one resource, with its counter update. -/
def classifyMemoryless (observations : List MemorylessObservation)
    (observationThreshold : Nat) (node : ResourceNode) :
    ResourceNode × (OptimizerStats → OptimizerStats) :=
  if !resourceIsTransient node then (node, id)
  else if node.classifierFlags.lockSeen then
    (node, fun stats =>
      { stats with
        memorylessDroppedViaLock := stats.memorylessDroppedViaLock + 1 })
  else if node.classifierFlags.readbackSeen then
    (node, fun stats =>
      { stats with
        memorylessDroppedViaReadback :=
          stats.memorylessDroppedViaReadback + 1 })
  else if !currentChunkClean node then (node, id)
  else
    let observation := findObservation observations node.handle
    if (observation.map MemorylessObservation.boundAsBackbuffer).getD false
    then (node, id)
    else if (observation.map MemorylessObservation.observationFrames).getD 0
        < observationThreshold then
      (node, fun stats =>
        { stats with
          memorylessBlockedObservation :=
            stats.memorylessBlockedObservation + 1 })
    else
      ({ node with residency := .memoryless }, fun stats =>
        { stats with memorylessPromoted := stats.memorylessPromoted + 1 })

def markMemorylessCandidates (graph : FrameGraph)
    (observations : List MemorylessObservation)
    (observationThreshold : Nat) (stats : Option OptimizerStats) :
    FrameGraph × Option OptimizerStats :=
  let decided :=
    graph.resources.map (classifyMemoryless observations observationThreshold)
  ({ graph with resources := decided.map Prod.fst },
    stats.map fun stats =>
      decided.foldl (fun current decision => decision.2 current) stats)

/-- The first access of the pass is a clear. -/
def clearedFirstInPass (node : ResourceNode) (passIndex : Nat) : Bool :=
  match node.accesses.find? fun access => access.passIndex == passIndex with
  | none => false
  | some access => decide (access.accessKind = .clear)

def colorLoadFor (graph : FrameGraph) (handle : Handle)
    (passIndex : Nat) : LoadAction :=
  if handle = 0 then .dontCare
  else
    match graph.resources.find? fun node => node.handle == handle with
    | none => .load
    | some node =>
        if clearedFirstInPass node passIndex then .clear else .load

def colorStoreFor (graph : FrameGraph) (handle : Handle)
    (passIndex : Nat) : StoreAction :=
  if handle = 0 then .dontCare
  else
    match graph.resources.find? fun node => node.handle == handle with
    | none => .store
    | some node =>
        -- Only the last use of memoryless content may be discarded.
        if node.residency = .memoryless && node.lastUsePass = passIndex then
          .dontCare
        else .store

def loadStoreFor (graph : FrameGraph) (passIndex : Nat)
    (targets : AttachmentSet) : LoadStorePolicy where
  colorLoad := targets.color.map fun handle =>
    colorLoadFor graph handle passIndex
  colorStore := targets.color.map fun handle =>
    colorStoreFor graph handle passIndex
  depthLoad := colorLoadFor graph targets.depth passIndex
  depthStore := colorStoreFor graph targets.depth passIndex

def runLoadStore (graph : FrameGraph) : FrameGraph :=
  { graph with
    passes := graph.passes.mapIdx fun passIndex pass =>
      if pass.kind = .render then
        { pass with loadStore := loadStoreFor graph passIndex pass.targets }
      else pass }

structure OptimizerOptions where
  passcoalesce : Bool := false
  memoryless : Bool := false
  dce : Bool := false
  reorder : Bool := false
  collectPasscoalesceReturnDiagnostics : Bool := false
  memorylessObservationFrames : Nat := 8
deriving DecidableEq

/--
Everything `runOptimizer` receives beside the graph.

`observations` is empty when the caller passes none.
-/
structure OptimizerInputs where
  observations : List MemorylessObservation := []
  report : OptimizerReport := {}
  lookahead : DceLookaheadProof := {}

/-- Passes one to three: what dead-pass elimination receives. -/
def runBeforeDce (graph : FrameGraph) (options : OptimizerOptions)
    (inputs : OptimizerInputs) : FrameGraph × OptimizerReport :=
  let lifetime := runLifetime graph
  let (coalesced, report) :=
    if options.passcoalesce then
      runPassCoalesce GraphQueries.reaches lifetime inputs.report
        options.collectPasscoalesceReturnDiagnostics
    else (lifetime, inputs.report)
  if options.memoryless then
    let (marked, stats) :=
      markMemorylessCandidates coalesced inputs.observations
        options.memorylessObservationFrames report.stats
    (marked, { report with stats := stats })
  else (coalesced, report)

/-- Passes five and six. -/
def runAfterDce (graph : FrameGraph) (options : OptimizerOptions) :
    FrameGraph :=
  runLoadStore (if options.reorder then runReorder graph else graph)

/-- Run the enabled passes in their fixed order. -/
def runOptimizer (graph : FrameGraph) (options : OptimizerOptions)
    (inputs : OptimizerInputs) : FrameGraph × OptimizerReport :=
  let (classified, report) := runBeforeDce graph options inputs
  let (eliminated, report) :=
    if options.dce then
      let (eliminated, stats) :=
        runDce classified report.stats inputs.lookahead
      (eliminated, { report with stats := stats })
    else (classified, report)
  (runAfterDce eliminated options, report)

/-- The graph that an optimizer run leaves. -/
def optimize (graph : FrameGraph) (options : OptimizerOptions)
    (inputs : OptimizerInputs) : FrameGraph :=
  (runOptimizer graph options inputs).1

end Dxmt9.Framegraph
