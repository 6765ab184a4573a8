import Dxmt9.Framegraph.Dag
import Dxmt9.Order.Worklist

/-!
# Pass coalescing

The transformation of `fg_optimizer/passcoalesce.cpp`.  Two render passes
with equal attachment sets merge when every pass between them can move in
front of the first or behind the second without breaking a dependency path.
Pairs are scanned in ascending order, the first admissible pair is merged,
and the scan restarts until nothing merges.

Counters, return diagnostics and merge witnesses travel in a report beside
the graph; no decision reads them.
-/

namespace Dxmt9.Framegraph

open Dxmt9.Order

/-- Destinations of the edges that leave `pass`, in edge order. -/
def successors (edges : List Edge) (pass : Nat) : List Nat :=
  (edges.filter fun edge => edge.srcPass == pass).map Edge.dstPass

/-- The reference traversal: stop as soon as `target` is met. -/
def reaches (graph : FrameGraph) (source target : Nat) : Bool :=
  if source = target then true
  else
    (Worklist.search (successors graph.edges)
      (fun pass => decide (pass < graph.passes.length))
      (fun pass => pass == target)
      graph.passes.length (Worklist.start source)).isNone

/-- Edges with both ends in range, as the cached rows keep them. -/
def boundedEdges (graph : FrameGraph) : List Edge :=
  graph.edges.filter fun edge =>
    decide (edge.srcPass < graph.passes.length) &&
      decide (edge.dstPass < graph.passes.length)

/-- The bit row of `source`: every pass reachable from it. -/
def reachableRow (graph : FrameGraph) (source : Nat) : List Nat :=
  ((Worklist.search (successors (boundedEdges graph))
    (fun _ => true) (fun _ => false)
    graph.passes.length (Worklist.start source)).map Worklist.seen).getD []

namespace GraphQueries

/-- Rows are kept only for graphs inside the scratch bounds. -/
def enabled (graph : FrameGraph) : Bool :=
  decide (graph.passes.length ≤ 4096) &&
    decide (graph.edges.length ≤ 65536)

/-- Answer from the row when rows are kept, else by the traversal. -/
def reaches (graph : FrameGraph) (source target : Nat) : Bool :=
  if enabled graph then (reachableRow graph source).contains target
  else Framegraph.reaches graph source target

end GraphQueries

/-! ## Counters and diagnostics -/

structure OptimizerStats where
  dceDropped : Nat := 0
  dcePreservedUnprovable : Nat := 0
  passCoalescedCount : Nat := 0
  passCoalesceReorderDistanceMax : Nat := 0
  passCoalesceBlockedCycle : Nat := 0
  passCoalesceSecondNonDraw : Nat := 0
  passCoalesceReturnCandidates : Nat := 0
  passCoalesceReturnMerged : Nat := 0
  passCoalesceReturnBlockedCycle : Nat := 0
  passCoalesceReturnSecondNonDraw : Nat := 0
  passCoalesceReturnNonRenderIntervener : Nat := 0
  passCoalesceReturnMissingInvariant : Nat := 0
  passCoalesceReturnDependencyKept : Nat := 0
  passCoalesceReturnMoveBefore : Nat := 0
  passCoalesceReturnMoveAfter : Nat := 0
  passCoalesceReturnNonDrawIntervener : Nat := 0
  passCoalesceReturnSemanticIntervener : Nat := 0
  passCoalesceReturnCommandlessIntervener : Nat := 0
  passCoalesceReturnCommandless : Nat := 0
  passCoalesceActiveSeedMergeCount : Nat := 0
  passCoalesceActiveSeedMergeDistanceTotal : Nat := 0
  passCoalesceActiveSeedMergeDistanceMax : Nat := 0
  passCoalesceActiveSeedCommandBefore : Nat := 0
  passCoalesceActiveSeedCommandAfter : Nat := 0
  passCoalesceActiveSeedEmptyIntervening : Nat := 0
  memorylessPromoted : Nat := 0
  memorylessBlockedObservation : Nat := 0
  memorylessDroppedViaLock : Nat := 0
  memorylessDroppedViaReadback : Nat := 0
deriving DecidableEq, Inhabited

/-- Identity of a pass that survives index changes. -/
structure PassIdentity where
  incarnation : Nat := 0
  sourceOwned : Bool := false
deriving DecidableEq

/-- Candidate windows already counted, by the identities they span. -/
structure ReturnDiagnosticTracker where
  passIdentities : List PassIdentity := []
  seenCandidates : List (List Nat) := []
  nextIdentity : Nat := 1
deriving DecidableEq

namespace ReturnDiagnosticTracker

/-- Initial passes get consecutive identities; the seed is not owned. -/
def initial (graph : FrameGraph) : ReturnDiagnosticTracker where
  passIdentities := graph.passes.mapIdx fun index pass =>
    { incarnation := index + 1, sourceOwned := !pass.flags.activeRenderSeed }
  nextIdentity := graph.passes.length + 1

/-- Is the window `[a, b]` owned by the source and not yet counted? -/
def beginCandidate (tracker : ReturnDiagnosticTracker) (a b : Nat) :
    Bool × ReturnDiagnosticTracker :=
  if a > b || b ≥ tracker.passIdentities.length ||
      !((tracker.passIdentities[a]?.map PassIdentity.sourceOwned).getD
        false) then
    (false, tracker)
  else
    let identity :=
      ((tracker.passIdentities.drop a).take (b - a + 1)).map
        PassIdentity.incarnation
    if tracker.seenCandidates.contains identity then (false, tracker)
    else
      (true,
        { tracker with
          seenCandidates := tracker.seenCandidates ++ [identity] })

/-- Relocated passes keep their identity; the merged pass gets a new one. -/
def rebuild (tracker : ReturnDiagnosticTracker)
    (sources : List (Option Nat)) (a b : Nat) : ReturnDiagnosticTracker :=
  let owned (index : Nat) : Bool :=
    (tracker.passIdentities[index]?.map PassIdentity.sourceOwned).getD false
  let inRange :=
    decide (a < tracker.passIdentities.length) &&
      decide (b < tracker.passIdentities.length)
  let merged : PassIdentity :=
    { incarnation := tracker.nextIdentity
      sourceOwned := inRange && (owned a || owned b) }
  { tracker with
    passIdentities := sources.filterMap fun source =>
      match source with
      | none => some merged
      | some index => tracker.passIdentities[index]?
    nextIdentity := tracker.nextIdentity + sources.count none }

end ReturnDiagnosticTracker

structure ActiveSeedMergeCommandWitness where
  flattenedCommandIndex : Nat := 0
  mergeOrdinal : Nat := 0
  mergeDistance : Nat := 0
deriving DecidableEq

/-- Caller-sized sink filled at successful active-seed merges. -/
structure ActiveSeedMergeWitnessSink where
  capacity : Nat := 0
  storage : List ActiveSeedMergeCommandWitness := []
  attempted : Nat := 0
  overflow : Bool := false
deriving DecidableEq

namespace ActiveSeedMergeWitnessSink

def record (sink : ActiveSeedMergeWitnessSink)
    (flattenedCommandIndex mergeDistance : Nat) :
    ActiveSeedMergeWitnessSink :=
  let mergeOrdinal := sink.attempted
  let attempted := { sink with attempted := sink.attempted + 1 }
  if sink.storage.length ≥ sink.capacity ||
      mergeOrdinal > 2 ^ 32 - 1 then
    { attempted with overflow := true }
  else
    { attempted with
      storage := sink.storage ++
        [{ flattenedCommandIndex := flattenedCommandIndex
           mergeOrdinal := mergeOrdinal
           mergeDistance := mergeDistance }] }

def rejectUnrepresentable (sink : ActiveSeedMergeWitnessSink) :
    ActiveSeedMergeWitnessSink :=
  { sink with attempted := sink.attempted + 1, overflow := true }

end ActiveSeedMergeWitnessSink

/-- Optional outputs of the optimizer; `none` is a null pointer. -/
structure OptimizerReport where
  stats : Option OptimizerStats := none
  witnesses : Option ActiveSeedMergeWitnessSink := none
deriving DecidableEq

/-- The report together with the tracker of one fixpoint run. -/
structure CoalesceReport where
  stats : Option OptimizerStats := none
  tracker : Option ReturnDiagnosticTracker := none
  witnesses : Option ActiveSeedMergeWitnessSink := none

namespace CoalesceReport

/-- Update the counters when they are collected. -/
def count (report : CoalesceReport)
    (update : OptimizerStats → OptimizerStats) : CoalesceReport :=
  { report with stats := report.stats.map update }

end CoalesceReport

/-! ## Candidate pairs -/

inductive Move where
  | before
  | after
  | blocked
deriving DecidableEq

def validCommandRange (graph : FrameGraph) (pass : PassNode) : Bool :=
  decide (pass.commands.first ≤ graph.commands.length) &&
    decide (pass.commands.count ≤
      graph.commands.length - pass.commands.first)

def validDrawRange (graph : FrameGraph) (pass : PassNode) : Bool :=
  decide (pass.draws.first ≤ graph.draws.length) &&
    decide (pass.draws.count ≤ graph.draws.length - pass.draws.first)

def hasNonDrawCommand (graph : FrameGraph) (pass : PassNode) : Bool :=
  (graph.commandsOf pass).any fun command =>
    decide (command.kind ≠ .drawRun)

def hasSemanticFlag (pass : PassNode) : Bool :=
  pass.flags.containsLock || pass.flags.containsOcclusionQuery ||
    pass.flags.containsEventQuery || pass.flags.debugMarker

/-- Both ranges of a pass lie inside their arrays. -/
def validRanges (graph : FrameGraph) (pass : PassNode) : Bool :=
  validCommandRange graph pass && validDrawRange graph pass

def drawOnly (graph : FrameGraph) (pass : PassNode) : Bool :=
  validRanges graph pass && !hasNonDrawCommand graph pass

/-- The number of passes in front of `index` that nothing may cross. -/
def hardBoundaries (graph : FrameGraph) (index : Nat) : Nat :=
  (graph.passes.take index).countP fun pass =>
    decide (pass.kind ≠ .render) || pass.flags.dead ||
      !validRanges graph pass

/-- A live render pass. -/
def mergeable (pass : PassNode) : Bool :=
  decide (pass.kind = .render) && !pass.flags.dead

/-- Where pass `x`, strictly between `a` and `b`, may be moved. -/
def classifyIntervening (reach : Nat → Nat → Bool) (a b x : Nat) : Move :=
  let pairFeeds := reach a x || reach b x
  let feedsPair := reach x a || reach x b
  if pairFeeds && feedsPair then .blocked
  else if !feedsPair then .after
  else .before

inductive InterveningFailure where
  | nonRender
  | missingInvariant
  | blockedCycle
deriving DecidableEq

/-- Movers and mechanism counts gathered between the two passes. -/
structure InterveningScan where
  before : List Nat := []
  after : List Nat := []
  dependencyKept : Nat := 0
  moveBefore : Nat := 0
  moveAfter : Nat := 0
  nonDrawIntervener : Nat := 0
  semanticIntervener : Nat := 0
  commandlessIntervener : Nat := 0
  failure : Option InterveningFailure := none
deriving DecidableEq

namespace InterveningScan

/-- Count the shape of one intervener; only for counted candidates. -/
def tally (scan : InterveningScan) (graph : FrameGraph) (collect : Bool)
    (pass : PassNode) : InterveningScan :=
  if collect then
    let commandless := decide (pass.commands.count = 0)
    { scan with
      commandlessIntervener :=
        scan.commandlessIntervener + commandless.toNat
      nonDrawIntervener :=
        scan.nonDrawIntervener +
          (!commandless && !drawOnly graph pass).toNat
      semanticIntervener :=
        scan.semanticIntervener + (hasSemanticFlag pass).toNat }
  else scan

def pushBefore (scan : InterveningScan) (collect : Bool) (pass : PassNode)
    (x : Nat) : InterveningScan :=
  { scan with
    before := scan.before ++ [x]
    moveBefore := scan.moveBefore + collect.toNat
    dependencyKept :=
      scan.dependencyKept +
        (collect && decide (pass.commands.count ≠ 0)).toNat }

def pushAfter (scan : InterveningScan) (collect : Bool) (x : Nat) :
    InterveningScan :=
  { scan with
    after := scan.after ++ [x]
    moveAfter := scan.moveAfter + collect.toNat }

def fail (scan : InterveningScan) (failure : InterveningFailure) :
    InterveningScan :=
  { scan with failure := some failure }

end InterveningScan

/-- Classify the interveners in order; stop at the first failure. -/
def scanIntervening (reach : Nat → Nat → Bool) (graph : FrameGraph)
    (collect : Bool) (a b : Nat) :
    InterveningScan → List Nat → InterveningScan
  | scan, [] => scan
  | scan, x :: rest =>
      let pass := graph.pass x
      if pass.kind ≠ .render then scan.fail .nonRender
      else if pass.flags.dead || !validRanges graph pass then
        scan.fail .missingInvariant
      else
        let tallied := scan.tally graph collect pass
        match classifyIntervening reach a b x with
        | .blocked => tallied.fail .blockedCycle
        | .before =>
            scanIntervening reach graph collect a b
              (tallied.pushBefore collect pass x) rest
        | .after =>
            scanIntervening reach graph collect a b
              (tallied.pushAfter collect x) rest

/-- The passes strictly between `a` and `b`. -/
def interveners (a b : Nat) : List Nat :=
  List.range' (a + 1) (b - (a + 1))

/-! ## The merge -/

/--
What stands in place of old pass `p`; `none` marks the merged pass.

The before-movers and the merged pass take the place of `a`, the after-movers
the place of `b`.
-/
def newPassEntry (a b : Nat) (before after : List Nat) (p : Nat) :
    List (Option Nat) :=
  if p = a then before.map some ++ [none]
  else if p = b then after.map some
  else if decide (a < p) && decide (p < b) &&
      (before.contains p || after.contains p) then []
  else [some p]

def newPassSources (count a b : Nat) (before after : List Nat) :
    List (Option Nat) :=
  (List.range count).flatMap (newPassEntry a b before after)

/-- Passes with freshly compacted draw and command arrays. -/
structure Materialized where
  passes : List PassNode := []
  draws : List DrawRef := []
  commands : List CommandRef := []

/-- Append one pass together with the references it owns. -/
def Materialized.push (built : Materialized) (pass : PassNode)
    (draws : List DrawRef) (commands : List CommandRef) : Materialized where
  passes := built.passes ++
    [{ pass with
      draws := { first := built.draws.length, count := draws.length }
      commands :=
        { first := built.commands.length, count := commands.length } }]
  draws := built.draws ++ draws
  commands := built.commands ++ commands

/-- Copy a pass, or build the merged one from the attachments of `a`. -/
def materializeSource (graph : FrameGraph) (a b : Nat)
    (built : Materialized) : Option Nat → Materialized
  | none =>
      built.push (graph.pass a)
        (graph.drawsOf (graph.pass a) ++ graph.drawsOf (graph.pass b))
        (graph.commandsOf (graph.pass a) ++ graph.commandsOf (graph.pass b))
  | some source =>
      built.push (graph.pass source) (graph.drawsOf (graph.pass source))
        (graph.commandsOf (graph.pass source))

/-- The new position of an old pass; `none` when it has none. -/
def oldToNew (sources : List (Option Nat)) (a b old : Nat) : Option Nat :=
  if old = a || old = b then sources.idxOf? none
  else sources.idxOf? (some old)

/-- Renumber one access. -/
def remapAccess (remap : Nat → Option Nat) (access : AccessLog) :
    AccessLog :=
  { access with
    passIndex := (remap access.passIndex).getD access.passIndex }

/-- Renumber one edge and keep it unless it is a self or duplicate edge. -/
def remapEdge (count : Nat) (remap : Nat → Option Nat)
    (edges : List Edge) (edge : Edge) : List Edge :=
  if edge.srcPass ≥ count || edge.dstPass ≥ count then edges
  else
    match remap edge.srcPass, remap edge.dstPass with
    | some source, some target =>
        if source = target then edges
        else if hasEdge edges source target edge.resource then edges
        else edges ++
          [{ srcPass := source, dstPass := target,
             resource := edge.resource }]
    | _, _ => edges

/-- Merge `b` into `a` and relocate the movers. -/
def mergePair (graph : FrameGraph) (a b : Nat) (before after : List Nat) :
    FrameGraph :=
  let count := graph.passes.length
  let sources := newPassSources count a b before after
  let built := sources.foldl (materializeSource graph a b) {}
  let remap (old : Nat) : Option Nat :=
    if old < count then oldToNew sources a b old else none
  { graph with
    passes := built.passes
    draws := built.draws
    commands := built.commands
    resources := graph.resources.map fun node =>
      { node with accesses := node.accesses.map (remapAccess remap) }
    edges := graph.edges.foldl (remapEdge count remap) [] }

/-! ## One scan for a mergeable pair -/

/-- Counters of a counted candidate whose interveners were scanned. -/
def countInterveners (scan : InterveningScan) (stats : OptimizerStats) :
    OptimizerStats :=
  { stats with
    passCoalesceReturnDependencyKept :=
      stats.passCoalesceReturnDependencyKept + scan.dependencyKept
    passCoalesceReturnMoveBefore :=
      stats.passCoalesceReturnMoveBefore + scan.moveBefore
    passCoalesceReturnMoveAfter :=
      stats.passCoalesceReturnMoveAfter + scan.moveAfter
    passCoalesceReturnNonDrawIntervener :=
      stats.passCoalesceReturnNonDrawIntervener + scan.nonDrawIntervener
    passCoalesceReturnSemanticIntervener :=
      stats.passCoalesceReturnSemanticIntervener + scan.semanticIntervener
    passCoalesceReturnCommandlessIntervener :=
      stats.passCoalesceReturnCommandlessIntervener +
        scan.commandlessIntervener }

/-- Terminal bucket of a counted candidate that failed. -/
def countFailure : InterveningFailure → OptimizerStats → OptimizerStats
  | .missingInvariant, stats =>
      { stats with
        passCoalesceReturnMissingInvariant :=
          stats.passCoalesceReturnMissingInvariant + 1 }
  | .nonRender, stats =>
      { stats with
        passCoalesceReturnNonRenderIntervener :=
          stats.passCoalesceReturnNonRenderIntervener + 1 }
  | .blockedCycle, stats =>
      { stats with
        passCoalesceReturnBlockedCycle :=
          stats.passCoalesceReturnBlockedCycle + 1 }

/-- Counters of a rejected scan. -/
def countRejected (collect activeSeed : Bool) (scan : InterveningScan)
    (failure : InterveningFailure) (stats : OptimizerStats) :
    OptimizerStats :=
  let collected :=
    if collect then countFailure failure (countInterveners scan stats)
    else stats
  if decide (failure = .blockedCycle) && activeSeed then
    { collected with
      passCoalesceBlockedCycle := collected.passCoalesceBlockedCycle + 1 }
  else collected

/-- Counters of a successful merge. -/
def countMerged (graph : FrameGraph) (collect activeSeed : Bool)
    (distance : Nat) (scan : InterveningScan) (stats : OptimizerStats) :
    OptimizerStats :=
  let merged :=
    { stats with passCoalescedCount := stats.passCoalescedCount + 1 }
  let collected :=
    if collect then
      countInterveners scan
        { merged with
          passCoalesceReturnMerged := merged.passCoalesceReturnMerged + 1 }
    else merged
  let measured :=
    { collected with
      passCoalesceReorderDistanceMax :=
        max collected.passCoalesceReorderDistanceMax distance }
  let empty (movers : List Nat) : Nat :=
    movers.countP fun x => decide ((graph.pass x).commands.count = 0)
  let bearing (movers : List Nat) : Nat :=
    movers.countP fun x => decide ((graph.pass x).commands.count ≠ 0)
  if activeSeed then
    { measured with
      passCoalesceActiveSeedMergeCount :=
        measured.passCoalesceActiveSeedMergeCount + 1
      passCoalesceActiveSeedMergeDistanceTotal :=
        measured.passCoalesceActiveSeedMergeDistanceTotal + distance
      passCoalesceActiveSeedMergeDistanceMax :=
        max measured.passCoalesceActiveSeedMergeDistanceMax distance
      passCoalesceActiveSeedCommandBefore :=
        measured.passCoalesceActiveSeedCommandBefore + bearing scan.before
      passCoalesceActiveSeedCommandAfter :=
        measured.passCoalesceActiveSeedCommandAfter + bearing scan.after
      passCoalesceActiveSeedEmptyIntervening :=
        measured.passCoalesceActiveSeedEmptyIntervening +
          empty scan.before + empty scan.after }
  else measured

/-- The witness of an active-seed merge: the head command of `b`. -/
def recordWitness (graph : FrameGraph) (b distance : Nat)
    (sink : ActiveSeedMergeWitnessSink) : ActiveSeedMergeWitnessSink :=
  let commands := (graph.pass b).commands
  if commands.count ≠ 0 && decide (commands.first < graph.commands.length) &&
      decide (commands.count ≤ graph.commands.length - commands.first) then
    sink.record (graph.commands.getD commands.first default).commandIndex
      distance
  else sink.rejectUnrepresentable

/-- Decide whether a new window is counted, and count it. -/
def beginReturnCandidate (report : CoalesceReport) (a b : Nat) :
    Bool × CoalesceReport :=
  match report.stats, report.tracker with
  | some stats, some tracker =>
      if b > a + 1 then
        let (fresh, tracker) := tracker.beginCandidate a b
        let counted :=
          if fresh then
            { stats with
              passCoalesceReturnCandidates :=
                stats.passCoalesceReturnCandidates + 1 }
          else stats
        (fresh, { report with stats := some counted, tracker := some tracker })
      else (false, report)
  | _, _ => (false, report)

/-- Record the merge of `a` and `b` in every enabled output. -/
def reportMerge (graph : FrameGraph) (collect : Bool) (a b : Nat)
    (scan : InterveningScan) (report : CoalesceReport) : CoalesceReport :=
  let activeSeed := (graph.pass a).flags.activeRenderSeed
  let sources :=
    newPassSources graph.passes.length a b scan.before scan.after
  { stats :=
      report.stats.map
        (countMerged graph collect activeSeed (b - a) scan)
    tracker := report.tracker.map fun tracker => tracker.rebuild sources a b
    witnesses :=
      if activeSeed then
        report.witnesses.map (recordWitness graph b (b - a))
      else report.witnesses }

def countCommandless (stats : OptimizerStats) : OptimizerStats :=
  { stats with
    passCoalesceReturnCommandless := stats.passCoalesceReturnCommandless + 1 }

def countSecondNonDraw (collect activeSeed : Bool)
    (stats : OptimizerStats) : OptimizerStats :=
  { stats with
    passCoalesceReturnSecondNonDraw :=
      stats.passCoalesceReturnSecondNonDraw + collect.toNat
    passCoalesceSecondNonDraw :=
      stats.passCoalesceSecondNonDraw + activeSeed.toNat }

/-- Scan the interveners of an admissible pair and merge it. -/
def coalesceScanned (reach : Nat → Nat → Bool) (graph : FrameGraph)
    (collect : Bool) (a b : Nat) (report : CoalesceReport) :
    Option FrameGraph × CoalesceReport :=
  let activeSeed := (graph.pass a).flags.activeRenderSeed
  -- Without diagnostics a hard boundary in between rejects at once.
  if report.tracker.isNone && !activeSeed &&
      decide (hardBoundaries graph b ≠ hardBoundaries graph (a + 1)) then
    (none, report)
  else
    let scan := scanIntervening reach graph collect a b {} (interveners a b)
    match scan.failure with
    | some failure =>
        (none, report.count (countRejected collect activeSeed scan failure))
    | none =>
        (some (mergePair graph a b scan.before scan.after),
          reportMerge graph collect a b scan report)

/-- Try one pair with equal attachments; `none` when it does not merge. -/
def coalesceMatching (reach : Nat → Nat → Bool) (graph : FrameGraph)
    (a b : Nat) (report : CoalesceReport) :
    Option FrameGraph × CoalesceReport :=
  let pa := graph.pass a
  let pb := graph.pass b
  let (collect, report) := beginReturnCandidate report a b
  if !validRanges graph pa || !validRanges graph pb then
    (none,
      if collect then report.count (countFailure .missingInvariant)
      else report)
  else
    let report :=
      if collect && decide (pb.commands.count = 0) then
        report.count countCommandless
      else report
    -- A clear or helper at the head of `b` is an encoder boundary.
    if !drawOnly graph pb then
      (none, report.count
        (countSecondNonDraw collect pa.flags.activeRenderSeed))
    else coalesceScanned reach graph collect a b report

/-- Try one pair; only live render passes with equal attachments qualify. -/
def coalescePair (reach : Nat → Nat → Bool) (graph : FrameGraph)
    (a b : Nat) (report : CoalesceReport) :
    Option FrameGraph × CoalesceReport :=
  let pa := graph.pass a
  let pb := graph.pass b
  if mergeable pa && mergeable pb && decide (pa.targets = pb.targets) then
    coalesceMatching reach graph a b report
  else (none, report)

/-- Try pairs in order and stop at the first merge. -/
def coalesceFirst (reach : Nat → Nat → Bool) (graph : FrameGraph) :
    List (Nat × Nat) → CoalesceReport → Option FrameGraph × CoalesceReport
  | [], report => (none, report)
  | (a, b) :: rest, report =>
      match coalescePair reach graph a b report with
      | (some merged, report) => (some merged, report)
      | (none, report) => coalesceFirst reach graph rest report

/-- All pairs `a < b` in ascending order. -/
def candidatePairs (count : Nat) : List (Nat × Nat) :=
  (List.range count).flatMap fun a =>
    (List.range' (a + 1) (count - (a + 1))).map fun b => (a, b)

/-- Merge the first admissible pair, if there is one. -/
def coalesceOnce (queries : FrameGraph → Nat → Nat → Bool)
    (graph : FrameGraph) (report : CoalesceReport) :
    Option FrameGraph × CoalesceReport :=
  coalesceFirst (queries graph) graph (candidatePairs graph.passes.length)
    report

/-- Repeat until nothing merges; `guard` bounds the merges. -/
def coalesceFixpoint (queries : FrameGraph → Nat → Nat → Bool) :
    Nat → FrameGraph → CoalesceReport → FrameGraph × CoalesceReport
  | 0, graph, report => (graph, report)
  | guard + 1, graph, report =>
      match coalesceOnce queries graph report with
      | (some merged, report) =>
          coalesceFixpoint queries guard merged report
      | (none, report) => (graph, report)

end Dxmt9.Framegraph
