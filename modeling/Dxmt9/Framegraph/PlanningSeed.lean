import Dxmt9.Framegraph.OrderSafety

/-!
# Active-render planning seeds

A render pass that is already open when planning starts is represented by a
virtual pass in front of the graph.  It owns no command; its known writes are
prepended to the access logs, and every access up to the next write of the
same resource depends on it.
-/

namespace Dxmt9.Framegraph

/-- The largest value of an unsigned 32-bit index. -/
abbrev u32Max : Nat := 2 ^ 32 - 1

/-- `kActiveRenderPlanningDependencyCapacity`. -/
abbrev kActiveRenderPlanningDependencyCapacity : Nat := kMaxRenderTargets + 1

/-- Bounded value snapshot of one open render pass. -/
structure ActiveRenderPlanningSeed where
  targets : AttachmentSet := {}
  writeDependencies :
    Vector Handle kActiveRenderPlanningDependencyCapacity :=
    Vector.replicate _ 0
  dependencyCount : Nat := 0
  complete : Bool := false
deriving DecidableEq

instance : Inhabited ActiveRenderPlanningSeed := ⟨{}⟩

inductive ActiveRenderPlanningSeedResult where
  | applied
  | invalid
  | incomplete
  | overflow
deriving DecidableEq

/--
Canonical handles of the written resources, each once.

A handle without a canonical identity makes the snapshot incomplete.
-/
def collectDependencies (resolver : ResourceAliasResolver) :
    List Handle → List Handle → Option (List Handle)
  | found, [] => some found
  | found, raw :: rest =>
      let handle := resolver.apply raw
      if handle = 0 then none
      else if found.contains handle then
        collectDependencies resolver found rest
      else collectDependencies resolver (found ++ [handle]) rest

/-- A null handle needs no dependency. -/
def containsDependency (resolver : ResourceAliasResolver)
    (dependencies : List Handle) (raw : Handle) : Bool :=
  decide (raw = 0) || dependencies.contains (resolver.apply raw)

/-- Some index of the graph has no successor in 32 bits. -/
def seedOverflows (graph : FrameGraph) : Bool :=
  decide (graph.passes.length ≥ u32Max) ||
    (graph.resources.any fun node =>
      node.accesses.any fun access => decide (access.passIndex = u32Max)) ||
    graph.edges.any fun edge =>
      decide (edge.srcPass = u32Max) || decide (edge.dstPass = u32Max)

/-- The same access, one pass later. -/
def AccessLog.shift (offset : Nat) (access : AccessLog) : AccessLog :=
  { access with passIndex := access.passIndex + offset }

/-- The same edge, one pass later. -/
def Edge.shift (offset : Nat) (edge : Edge) : Edge :=
  { edge with
    srcPass := edge.srcPass + offset
    dstPass := edge.dstPass + offset }

/-- The virtual predecessor: a render pass without commands. -/
def virtualPass (targets : AttachmentSet) : PassNode where
  kind := .render
  targets := targets
  flags := { activeRenderSeed := true }

/-- Renumber every index and put the virtual pass in front. -/
def insertVirtualPass (graph : FrameGraph) (targets : AttachmentSet) :
    FrameGraph :=
  { graph with
    passes := virtualPass targets :: graph.passes
    resources := graph.resources.map fun node =>
      { node with accesses := node.accesses.map (AccessLog.shift 1) }
    edges := graph.edges.map (Edge.shift 1) }

/-- The accesses up to and including the first write. -/
def untilFirstWrite : List AccessLog → List AccessLog
  | [] => []
  | access :: rest =>
      access :: if access.writes then [] else untilFirstWrite rest

/-- The edge from the virtual pass to one access. -/
def addSeedEdge (handle : Handle) (edges : List Edge)
    (access : AccessLog) : List Edge :=
  if access.reads || access.writes then
    addEdgeOnce handle access.passIndex edges 0
  else edges

/-- Edges from the virtual pass to the accesses its write reaches. -/
def addSeedEdges (edges : List Edge) (handle : Handle)
    (log : List AccessLog) : List Edge :=
  (untilFirstWrite log).foldl (addSeedEdge handle) edges

/-- The write of the virtual pass. -/
def seedAccess : AccessLog where
  passIndex := 0
  accessKind := .write
  stage := .fragment

/-- Add the edges of one dependency and prepend the write to its log. -/
def seedDependency (graph : FrameGraph) (handle : Handle) : FrameGraph :=
  let node :=
    (graph.resources.find? fun node => node.handle == handle).getD
      { handle := handle }
  { graph with
    edges := addSeedEdges graph.edges handle node.accesses
    resources :=
      Builder.storeResource graph.resources
        { node with accesses := seedAccess :: node.accesses } }

/-- The seeded graph, or the reason why the graph stays as it is. -/
def applyActiveRenderPlanningSeed (graph : FrameGraph)
    (seed : ActiveRenderPlanningSeed) (resolver : ResourceAliasResolver) :
    ActiveRenderPlanningSeedResult × FrameGraph :=
  if !seed.complete then (.incomplete, graph)
  else if seed.dependencyCount > kActiveRenderPlanningDependencyCapacity then
    (.overflow, graph)
  else if seed.targets.colorCount > 8 ||
      decide (seed.targets.sampleCount = 0) ||
      decide (seed.dependencyCount = 0) ||
      (decide (seed.targets.colorCount = 0) &&
        decide (seed.targets.depth = 0)) then
    (.invalid, graph)
  else
    match collectDependencies resolver []
        (seed.writeDependencies.toList.take seed.dependencyCount) with
    | none => (.incomplete, graph)
    | some dependencies =>
        if !((Builder.boundColors seed.targets).all
              (containsDependency resolver dependencies)) ||
            !containsDependency resolver dependencies seed.targets.depth then
          (.incomplete, graph)
        else if seedOverflows graph then (.overflow, graph)
        else
          (.applied,
            dependencies.foldl seedDependency
              (insertVirtualPass graph seed.targets))

/-- A live render pass that stands for the seed and owns some command. -/
def carriesSeed (graph : FrameGraph) (pass : PassNode) : Bool :=
  pass.flags.activeRenderSeed && !pass.flags.dead &&
    decide (pass.kind = .render) && decide (pass.commands.count ≠ 0) &&
    decide (pass.commands.first < graph.commands.length) &&
    decide (pass.commands.count ≤
      graph.commands.length - pass.commands.first)

/-- Does the pass that absorbed the seed start with this command? -/
def activeRenderPlanningSeedProvesReplayHead (graph : FrameGraph)
    (replayHeadCommand : Nat) : Bool :=
  match graph.passes.find? (carriesSeed graph) with
  | none => false
  | some pass =>
      decide ((graph.commands.getD pass.commands.first default).commandIndex =
        replayHeadCommand)

variable {graph : FrameGraph}

theorem insertVirtualPass_prefixed
    (built : graph.Built) (targets : AttachmentSet) :
    graph.Prefixed 1 (insertVirtualPass graph targets) where
  wellFormed :=
    { forward := by
        intro edge member
        obtain ⟨old, oldMember, rfl⟩ := List.mem_map.mp member
        exact Nat.succ_lt_succ (built.forward old oldMember)
      inside := by
        intro edge member
        obtain ⟨old, oldMember, rfl⟩ := List.mem_map.mp member
        exact Nat.succ_lt_succ (built.inside old oldMember)
      ranges := by
        intro pass member
        rcases List.mem_cons.mp member with rfl | old
        · simp [validRanges, validCommandRange, validDrawRange, virtualPass]
        · exact built.ranges pass old
      accesses := by
        intro node member access logged
        obtain ⟨old, oldMember, rfl⟩ := List.mem_map.mp member
        obtain ⟨before, beforeLogged, rfl⟩ := List.mem_map.mp logged
        exact Nat.succ_lt_succ
          (built.accesses old oldMember before beforeLogged) }
  length := rfl
  head index bound := by
    have first : index = 0 := by omega
    subst first
    simp [FrameGraph.passCommands, FrameGraph.commandsOf, FrameGraph.pass,
      insertVirtualPass, virtualPass]
  tail index := rfl
  depends := by
    rintro source target ⟨edge, member, rfl, rfl⟩
    exact ⟨edge.shift 1, List.mem_map_of_mem member, rfl, rfl⟩
  live pass member := by
    rcases List.mem_cons.mp member with rfl | old
    · rfl
    · rw [built.unflagged pass old]
  seeded index bound flagged := by
    cases index with
    | zero => exact Nat.zero_lt_one
    | succ index =>
        have inside : index < graph.passes.length := Nat.lt_of_succ_lt_succ bound
        have same : (insertVirtualPass graph targets).pass (index + 1) =
            graph.pass index := rfl
        rw [same, built.unflagged _ (FrameGraph.pass_mem inside)] at flagged
        contradiction

variable {edges : List Edge} {handle : Handle} {edge : Edge}

theorem mem_addSeedEdge
    {access : AccessLog}
    (member : edge ∈ addSeedEdge handle edges access) :
    edge ∈ edges ∨
      (edge.srcPass < edge.dstPass ∧ access.passIndex = edge.dstPass) := by
  unfold addSeedEdge at member
  split at member
  · rcases mem_addEdgeOnce member with old | ⟨source, target, differ⟩
    · exact Or.inl old
    · exact Or.inr ⟨by omega, target.symm⟩
  · exact Or.inl member

theorem untilFirstWrite_subset (log : List AccessLog) :
    untilFirstWrite log ⊆ log := by
  induction log with
  | nil => exact List.Subset.refl _
  | cons access rest induction =>
      unfold untilFirstWrite
      split
      · simp
      · exact List.cons_subset_cons access induction

variable {log : List AccessLog}

theorem mem_addSeedEdges
    (member : edge ∈ addSeedEdges edges handle log) :
    edge ∈ edges ∨ (edge.srcPass < edge.dstPass ∧
      ∃ access ∈ log, access.passIndex = edge.dstPass) := by
  have reached := untilFirstWrite_subset log
  unfold addSeedEdges at member
  generalize untilFirstWrite log = accesses at member reached
  induction accesses generalizing edges with
  | nil => exact Or.inl member
  | cons access rest induction =>
      rw [List.cons_subset] at reached
      rcases induction member reached.2 with early | later
      · rcases mem_addSeedEdge early with old | ⟨forward, target⟩
        · exact Or.inl old
        · exact Or.inr ⟨forward, access, reached.1, target⟩
      · exact Or.inr later

theorem addSeedEdges_mono (member : edge ∈ edges) :
    edge ∈ addSeedEdges edges handle log := by
  unfold addSeedEdges
  generalize untilFirstWrite log = accesses
  induction accesses generalizing edges with
  | nil => exact member
  | cons access rest induction =>
      apply induction
      unfold addSeedEdge addEdgeOnce
      repeat' split
      · exact member
      · exact member
      · exact List.mem_append_left _ member
      · exact member

theorem FrameGraph.Prefixed.seedDependency {origin : FrameGraph}
    {offset : Nat} (prefixed : origin.Prefixed offset graph)
    (distinct : (graph.resources.map ResourceNode.handle).Nodup)
    (nonempty : 0 < graph.passes.length) (handle : Handle) :
    origin.Prefixed offset (seedDependency graph handle) := by
  have known : ∀ access ∈
      ((graph.resources.find? fun node => node.handle == handle).getD
        { handle := handle }).accesses,
      access.passIndex < graph.passes.length := by
    intro access logged
    cases found : graph.resources.find? fun node =>
        node.handle == handle with
    | none =>
        rw [found] at logged
        contradiction
    | some node =>
        rw [found] at logged
        exact prefixed.wellFormed.accesses node
          (List.mem_of_find?_eq_some found) access logged
  exact
    { wellFormed :=
        { forward := by
            intro edge member
            rcases mem_addSeedEdges member with old | ⟨forward, _⟩
            · exact prefixed.wellFormed.forward edge old
            · exact forward
          inside := by
            intro edge member
            rcases mem_addSeedEdges member with
              old | ⟨_, access, logged, target⟩
            · exact prefixed.wellFormed.inside edge old
            · exact target ▸ known access logged
          ranges := prefixed.wellFormed.ranges
          accesses := by
            intro node member access logged
            rcases Builder.mem_storeResource distinct member with
              rfl | ⟨old, _⟩
            · rcases List.mem_cons.mp logged with rfl | later
              · exact nonempty
              · exact known access later
            · exact prefixed.wellFormed.accesses node old access logged }
      length := prefixed.length
      head := prefixed.head
      tail := prefixed.tail
      depends := by
        intro source target step
        obtain ⟨edge, member, rest⟩ := prefixed.depends step
        exact ⟨edge, addSeedEdges_mono member, rest⟩
      live := prefixed.live
      seeded := prefixed.seeded }

theorem applyActiveRenderPlanningSeed_prefixed {seeded : FrameGraph}
    (built : graph.Built) {seed : ActiveRenderPlanningSeed}
    {resolver : ResourceAliasResolver}
    (applied : applyActiveRenderPlanningSeed graph seed resolver =
      (.applied, seeded)) :
    graph.Prefixed 1 seeded := by
  have fold : ∀ (handles : List Handle) (current : FrameGraph),
      graph.Prefixed 1 current →
      (current.resources.map ResourceNode.handle).Nodup →
      graph.Prefixed 1 (handles.foldl seedDependency current) := by
    intro handles
    induction handles with
    | nil => exact fun _ prefixed _ => prefixed
    | cons handle rest induction =>
        intro current prefixed distinct
        have nonempty : 0 < current.passes.length := by
          rw [prefixed.length]
          exact Nat.succ_pos _
        exact induction _ (prefixed.seedDependency distinct nonempty handle)
          (Builder.storeResource_nodup _ distinct)
  unfold applyActiveRenderPlanningSeed at applied
  repeat' split at applied
  all_goals simp only [Prod.mk.injEq, reduceCtorEq, false_and, true_and]
    at applied
  subst applied
  refine fold _ _ (insertVirtualPass_prefixed built seed.targets) ?_
  simpa [insertVirtualPass, Function.comp_def] using built.handles

end Dxmt9.Framegraph

/-!
## Combined frame graphs

The graphs of several sources are concatenated with rebased indices, and all
hazards are inferred again from the concatenated access logs.  The combined
graph satisfies everything that the builder guarantees of a single graph.
-/

namespace Dxmt9.Framegraph

open Relation

/-- The last write met, the accesses behind it, and the edges so far. -/
structure HazardScan where
  lastWrite : Option AccessLog := none
  since : List AccessLog := []
  edges : List Edge := []

/-- Account for the next access of the log. -/
def HazardScan.next (handle : Handle) (scan : HazardScan)
    (access : AccessLog) : HazardScan :=
  let addEdges := List.foldl (addEdgeOnce handle access.passIndex)
  let writer := scan.lastWrite.toList.map AccessLog.passIndex
  let readers := (scan.since.filter AccessLog.reads).map AccessLog.passIndex
  let edges :=
    if access.reads then addEdges scan.edges writer else scan.edges
  if access.writes then
    { lastWrite := some access
      since := []
      edges := addEdges (addEdges edges writer) readers }
  else
    { lastWrite := scan.lastWrite
      since := scan.since ++ [access]
      edges := edges }

/-- Add the hazards of one resource. -/
def inferResourceHazards (edges : List Edge) (node : ResourceNode) :
    List Edge :=
  (node.accesses.foldl (HazardScan.next node.handle)
    { edges := edges }).edges

/-- Replace all edges by the hazards of the access logs. -/
def inferCombinedHazards (graph : FrameGraph) : FrameGraph :=
  { graph with edges := graph.resources.foldl inferResourceHazards [] }

def ResourceClassifierFlags.union (left right : ResourceClassifierFlags) :
    ResourceClassifierFlags where
  lockSeen := left.lockSeen || right.lockSeen
  readbackSeen := left.readbackSeen || right.readbackSeen
  crossFrameSeen := left.crossFrameSeen || right.crossFrameSeen

/-- Append the log of one source resource to the node of its handle. -/
def appendSourceResource (passBase : Nat) (resources : List ResourceNode)
    (source : ResourceNode) : List ResourceNode :=
  let node :=
    (resources.find? fun node => node.handle == source.handle).getD
      { handle := source.handle }
  Builder.storeResource resources
    { node with
      classifierFlags := node.classifierFlags.union source.classifierFlags
      accesses :=
        node.accesses ++ source.accesses.map (AccessLog.shift passBase) }

/-- The sum of an index and a base leaves 32 bits. -/
def rebaseOverflows (base index : Nat) : Bool :=
  decide (index > u32Max - base)

/-- Some index of the source does not fit when it is rebased. -/
def appendOverflows (combined source : FrameGraph) (commandBase : Nat) :
    Bool :=
  decide (combined.passes.length > u32Max) ||
    decide (combined.draws.length > u32Max) ||
    decide (combined.commands.length > u32Max) ||
    (source.draws.any fun draw =>
      rebaseOverflows commandBase draw.commandIndex) ||
    (source.commands.any fun command =>
      rebaseOverflows commandBase command.commandIndex) ||
    (source.passes.any fun pass =>
      rebaseOverflows combined.draws.length pass.draws.first ||
        rebaseOverflows combined.commands.length pass.commands.first) ||
    source.resources.any fun node =>
      node.accesses.any fun access =>
        rebaseOverflows combined.passes.length access.passIndex

/-- Rebase the ranges of a pass. -/
def PassNode.rebase (drawBase commandBase : Nat) (pass : PassNode) :
    PassNode :=
  { pass with
    draws := { pass.draws with first := pass.draws.first + drawBase }
    commands :=
      { pass.commands with first := pass.commands.first + commandBase } }

/-- The rows of both graphs, those of the source with rebased indices. -/
def concatenated (combined source : FrameGraph) (commandBase : Nat) :
    FrameGraph :=
  { combined with
    draws := combined.draws ++ source.draws.map fun draw =>
      { draw with commandIndex := draw.commandIndex + commandBase }
    commands := combined.commands ++ source.commands.map fun command =>
      { command with commandIndex := command.commandIndex + commandBase }
    passes := combined.passes ++ source.passes.map
      (PassNode.rebase combined.draws.length combined.commands.length)
    resources :=
      source.resources.foldl (appendSourceResource combined.passes.length)
        combined.resources
    flushBoundary := combined.flushBoundary || source.flushBoundary }

/-- Concatenate a source graph; `none` when an index does not fit. -/
def appendSourceGraph (combined source : FrameGraph) (commandBase : Nat) :
    Option FrameGraph :=
  if appendOverflows combined source commandBase then none
  else some (concatenated combined source commandBase)

theorem sinceLastWrite_append (log : List AccessLog) (access : AccessLog) :
    sinceLastWrite (log ++ [access]) =
      if access.writes then (some access, [])
      else ((sinceLastWrite log).1, (sinceLastWrite log).2 ++ [access]) := by
  induction log with
  | nil => by_cases isWrite : access.writes <;> simp [sinceLastWrite, isWrite]
  | cons head rest induction =>
      rw [List.cons_append, sinceLastWrite, induction]
      by_cases isWrite : access.writes
      · simp [isWrite]
      · simp only [isWrite, Bool.false_eq_true, if_false]
        rw [sinceLastWrite]
        cases found : sinceLastWrite rest with
        | mk lastWrite later =>
            cases lastWrite with
            | some write => rfl
            | none =>
                simp only
                split
                · rfl
                · rfl

/-- What a scan knows of the log. -/
def HazardScan.known (scan : HazardScan) :
    Option AccessLog × List AccessLog :=
  (scan.lastWrite, scan.since)

theorem HazardScan.next_known (handle : Handle) (scan : HazardScan)
    (access : AccessLog) :
    (scan.next handle access).known =
      if access.writes then (some access, [])
      else (scan.lastWrite, scan.since ++ [access]) := by
  unfold HazardScan.next HazardScan.known
  cases access.writes <;> rfl

theorem HazardScan.foldl_known (handle : Handle) (edges : List Edge)
    (log : List AccessLog) :
    (log.foldl (HazardScan.next handle) { edges := edges }).known =
      sinceLastWrite log := by
  induction log using List.reverseRecOn with
  | nil => rfl
  | append_singleton log access induction =>
      rw [sinceLastWrite_append, ← induction, List.foldl_append,
        List.foldl_cons, List.foldl_nil, HazardScan.next_known]
      rfl

theorem HazardScan.next_edges (handle : Handle) (edges : List Edge)
    (log : List AccessLog) (access : AccessLog) :
    ((log ++ [access]).foldl (HazardScan.next handle)
        { edges := edges }).edges =
      (hazardSources log access.accessKind).foldl
        (addEdgeOnce handle access.passIndex)
        (log.foldl (HazardScan.next handle) { edges := edges }).edges := by
  have known := HazardScan.foldl_known handle edges log
  rw [List.foldl_append, List.foldl_cons, List.foldl_nil]
  generalize log.foldl (HazardScan.next handle) { edges := edges } = scan
    at known
  simp only [hazardSources, ← known, HazardScan.known, HazardScan.next,
    AccessLog.reads, AccessLog.writes]
  by_cases reads : accessReads access.accessKind = true <;>
    by_cases writes : accessWrites access.accessKind = true <;>
      simp [reads, writes]

end Dxmt9.Framegraph
