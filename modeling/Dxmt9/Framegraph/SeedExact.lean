import Dxmt9.Framegraph.MultiSourceSound

/-!
# What a seed adds to a graph

An applied seed keeps every row of the graph, one pass later, and adds the
write of the virtual pass in front of the log of each dependency.  Its edges
reach the accesses up to the first write; the hazards that were inferred
before reach all the others.
-/

namespace Dxmt9.Framegraph

open Relation

section

variable {resources : List ResourceNode} {node : ResourceNode}

theorem find?_of_mem
    (distinct : (resources.map ResourceNode.handle).Nodup)
    (member : node ∈ resources) :
    (resources.find? fun other => other.handle == node.handle) =
      some node := by
  induction resources with
  | nil => contradiction
  | cons head tail induction =>
      rw [List.map_cons, List.nodup_cons] at distinct
      rw [List.find?_cons]
      rcases List.mem_cons.mp member with rfl | behind
      · rw [beq_self_eq_true]
      · have different : head.handle ≠ node.handle := by
          intro same
          exact distinct.1 (same ▸ List.mem_map_of_mem behind)
        rw [beq_eq_false_iff_ne.mpr different]
        exact induction distinct.2 behind

theorem find?_of_absent {handle : Handle}
    (absent : handle ∉ resources.map ResourceNode.handle) :
    (resources.find? fun other => other.handle == handle) = none := by
  rw [List.find?_eq_none]
  intro other member same
  exact absent (beq_iff_eq.mp same ▸ List.mem_map_of_mem member)

/-- A node with a known handle takes the place of the old one. -/
theorem storeResource_of_mem
    (distinct : (resources.map ResourceNode.handle).Nodup)
    (known : node.handle ∈ resources.map ResourceNode.handle) :
    Builder.storeResource resources node =
      resources.map fun other =>
        if other.handle = node.handle then node else other := by
  induction resources with
  | nil => contradiction
  | cons head tail induction =>
      rw [List.map_cons, List.nodup_cons] at distinct
      unfold Builder.storeResource
      rw [List.map_cons]
      by_cases same : head.handle = node.handle
      · have kept : (tail.map fun other =>
            if other.handle = node.handle then node else other) = tail := by
          refine Eq.trans (List.map_congr_left ?_) (List.map_id tail)
          intro other member
          apply if_neg
          intro equal
          apply distinct.1
          rw [same, ← equal]
          exact List.mem_map_of_mem member
        rw [if_pos same, if_pos same, kept]
      · rw [List.map_cons, List.mem_cons] at known
        have behind := known.resolve_left fun equal => same equal.symm
        rw [if_neg same, if_neg same, induction distinct.2 behind]

theorem storeResource_of_absent
    (absent : node.handle ∉ resources.map ResourceNode.handle) :
    Builder.storeResource resources node = resources ++ [node] := by
  induction resources with
  | nil => rfl
  | cons head tail induction =>
      rw [List.map_cons, List.mem_cons, not_or] at absent
      unfold Builder.storeResource
      rw [if_neg fun same => absent.1 same.symm, induction absent.2]
      rfl

end

/-! ## Seeded rows -/

/-- A node one pass later, behind the write of the virtual pass if the node is
a dependency. -/
def seedNode (dependencies : List Handle) (node : ResourceNode) :
    ResourceNode :=
  { node with
    accesses := (if node.handle ∈ dependencies then [seedAccess] else []) ++
      node.accesses.map (AccessLog.shift 1) }

/-- The node of a dependency that the graph does not know. -/
def freshNode (handle : Handle) : ResourceNode :=
  { handle := handle, accesses := [seedAccess] }

def seedResources (graph : FrameGraph) (dependencies : List Handle) :
    List ResourceNode :=
  graph.resources.map (seedNode dependencies) ++
    (dependencies.filter fun handle =>
      handle ∉ graph.resources.map ResourceNode.handle).map freshNode

variable {done : List Handle} {handle : Handle} {node : ResourceNode}

theorem seedNode_snoc_of_ne (different : node.handle ≠ handle) :
    seedNode (done ++ [handle]) node = seedNode done node := by
  have same : node.handle ∈ done ++ [handle] ↔ node.handle ∈ done := by
    rw [List.mem_append, List.mem_singleton]
    exact or_iff_left different
  unfold seedNode
  simp only [same]

theorem seedNode_snoc_self
    (fresh : node.handle ∉ done) :
    seedNode (done ++ [node.handle]) node =
      { seedNode done node with
        accesses := seedAccess :: (seedNode done node).accesses } := by
  unfold seedNode
  rw [if_neg fresh,
    if_pos (List.mem_append_right _ (List.mem_singleton.mpr rfl))]
  rfl

theorem handles_seedNode (resources : List ResourceNode)
    (done : List Handle) :
    (resources.map (seedNode done)).map ResourceNode.handle =
      resources.map ResourceNode.handle := by
  rw [List.map_map]
  rfl

theorem handles_freshNode (handles : List Handle) :
    (handles.map freshNode).map ResourceNode.handle = handles := by
  rw [List.map_map]
  exact List.map_id handles

theorem handles_seedResources (graph : FrameGraph) (done : List Handle) :
    (seedResources graph done).map ResourceNode.handle =
      graph.resources.map ResourceNode.handle ++ done.filter fun handle =>
        handle ∉ graph.resources.map ResourceNode.handle := by
  unfold seedResources
  rw [List.map_append, handles_seedNode, handles_freshNode]

variable {graph : FrameGraph}

theorem seedResources_nodup
    (distinct : (graph.resources.map ResourceNode.handle).Nodup)
    (once : done.Nodup) :
    ((seedResources graph done).map ResourceNode.handle).Nodup := by
  rw [handles_seedResources, List.nodup_append]
  refine ⟨distinct, once.filter _, ?_⟩
  intro handle known other listed same
  rw [List.mem_filter, decide_eq_true_iff] at listed
  exact listed.2 (same ▸ known)

section

variable {graph : FrameGraph} {done : List Handle} {handle : Handle}

variable {node : ResourceNode}

theorem find?_seedResources_of_mem
    (distinct : (graph.resources.map ResourceNode.handle).Nodup)
    (once : done.Nodup) (member : node ∈ graph.resources) :
    ((seedResources graph done).find? fun other =>
      other.handle == node.handle) = some (seedNode done node) := by
  have listed : seedNode done node ∈ seedResources graph done :=
    List.mem_append_left _ (List.mem_map_of_mem member)
  exact find?_of_mem (seedResources_nodup distinct once) listed

theorem notMem_seedResources
    (absent : handle ∉ graph.resources.map ResourceNode.handle)
    (fresh : handle ∉ done) :
    handle ∉ (seedResources graph done).map ResourceNode.handle := by
  rw [handles_seedResources, List.mem_append, not_or]
  refine ⟨absent, ?_⟩
  intro listed
  exact fresh (List.mem_filter.mp listed).1

theorem seedResources_snoc_of_mem
    (distinct : (graph.resources.map ResourceNode.handle).Nodup)
    (once : done.Nodup) (member : node ∈ graph.resources)
    (fresh : node.handle ∉ done) :
    Builder.storeResource (seedResources graph done)
        { seedNode done node with
          accesses := seedAccess :: (seedNode done node).accesses } =
      seedResources graph (done ++ [node.handle]) := by
  have known : node.handle ∈ graph.resources.map ResourceNode.handle :=
    List.mem_map_of_mem member
  have stored : (seedNode done node).handle ∈
      (seedResources graph done).map ResourceNode.handle := by
    rw [handles_seedResources]
    exact List.mem_append_left _ known
  refine Eq.trans (storeResource_of_mem
    (seedResources_nodup distinct once) stored) ?_
  unfold seedResources
  rw [List.map_append, List.filter_append, List.map_map]
  congr 1
  · apply List.map_congr_left
    intro other listed
    by_cases same : other.handle = node.handle
    · -- Handles are distinct, so this is the stored node.
      have equal : other = node := by
        have left := find?_of_mem distinct listed
        rw [same, find?_of_mem distinct member] at left
        exact (Option.some.inj left).symm
      rw [equal, seedNode_snoc_self fresh]
      exact if_pos rfl
    · rw [seedNode_snoc_of_ne same]
      exact if_neg same
  · have dropped : ([node.handle].filter fun handle =>
        handle ∉ graph.resources.map ResourceNode.handle) = [] := by
      rw [List.filter_eq_nil_iff]
      intro other single
      rw [List.mem_singleton.mp single, decide_eq_true_iff]
      exact fun absent => absent known
    rw [dropped, List.append_nil, List.map_map]
    apply List.map_congr_left
    intro other listed
    apply if_neg
    intro same
    have absent := (List.mem_filter.mp listed).2
    rw [decide_eq_true_iff] at absent
    apply absent
    have equal : other = node.handle := same
    rw [equal]
    exact known

theorem seedResources_snoc_of_absent
    (absent : handle ∉ graph.resources.map ResourceNode.handle)
    (fresh : handle ∉ done) :
    Builder.storeResource (seedResources graph done) (freshNode handle) =
      seedResources graph (done ++ [handle]) := by
  have unknown : (freshNode handle).handle ∉
      (seedResources graph done).map ResourceNode.handle :=
    notMem_seedResources absent fresh
  have kept : ([handle].filter fun handle =>
      handle ∉ graph.resources.map ResourceNode.handle) = [handle] := by
    rw [List.filter_eq_self]
    intro other single
    rw [List.mem_singleton.mp single, decide_eq_true_iff]
    exact absent
  rw [storeResource_of_absent unknown]
  unfold seedResources
  rw [List.filter_append, kept, List.map_append, ← List.append_assoc]
  congr 2
  apply List.map_congr_left
  intro node member
  symm
  apply seedNode_snoc_of_ne
  rintro rfl
  exact absent (List.mem_map_of_mem member)

end

theorem untilFirstWrite_shift (log : List AccessLog) :
    untilFirstWrite (log.map (AccessLog.shift 1)) =
      (untilFirstWrite log).map (AccessLog.shift 1) := by
  induction log with
  | nil => rfl
  | cons access rest induction =>
      rw [List.map_cons, untilFirstWrite, untilFirstWrite, List.map_cons,
        induction]
      change _ :: (if access.writes then _ else _) = _
      cases access.writes with
      | true => rfl
      | false => rfl

theorem addSeedEdges_eq (edges : List Edge) (handle : Handle)
    (log : List AccessLog) :
    ∃ added, addSeedEdges edges handle log = edges ++ added ∧
      ∀ edge ∈ added, edge.srcPass = 0 ∧ 0 < edge.dstPass ∧
        edge.resource = handle := by
  unfold addSeedEdges
  induction untilFirstWrite log generalizing edges with
  | nil => exact ⟨[], (List.append_nil _).symm, nofun⟩
  | cons access rest induction =>
      have first : ∃ added, addSeedEdge handle edges access =
          edges ++ added ∧ ∀ edge ∈ added, edge.srcPass = 0 ∧
            0 < edge.dstPass ∧ edge.resource = handle := by
        have none : ∃ added : List Edge, edges = edges ++ added ∧
            ∀ edge ∈ added, edge.srcPass = 0 ∧ 0 < edge.dstPass ∧
              edge.resource = handle :=
          ⟨[], (List.append_nil _).symm, nofun⟩
        unfold addSeedEdge addEdgeOnce
        split
        · split
          · exact none
          · rename_i different
            split
            · exact none
            · refine ⟨_, rfl, ?_⟩
              intro edge single
              rw [List.mem_singleton.mp single]
              exact ⟨rfl, Nat.pos_of_ne_zero fun zero =>
                different zero.symm, rfl⟩
        · exact none
      obtain ⟨added, equal, leaves⟩ := first
      obtain ⟨more, later, others⟩ :=
        induction (addSeedEdge handle edges access)
      refine ⟨added ++ more, ?_, ?_⟩
      · rw [List.foldl_cons, later, equal, List.append_assoc]
      · intro edge member
        rcases List.mem_append.mp member with early | late
        · exact leaves edge early
        · exact others edge late

variable {edges : List Edge} {log : List AccessLog} {access : AccessLog}

theorem connects_addSeedEdges
    (member : access ∈ untilFirstWrite log) (touches : access.Touches)
    (later : access.passIndex ≠ 0) :
    Connects (addSeedEdges edges handle log) 0 access.passIndex := by
  unfold addSeedEdges
  generalize untilFirstWrite log = accesses at member
  induction accesses generalizing edges with
  | nil => exact absurd member List.not_mem_nil
  | cons head rest induction =>
      rcases List.mem_cons.mp member with rfl | behind
      · have added : Connects (addSeedEdge handle edges access) 0
            access.passIndex := by
          unfold addSeedEdge
          rw [if_pos (Bool.or_eq_true_iff.mpr touches), connects_addEdgeOnce]
          exact Or.inr ⟨later.symm, rfl, rfl⟩
        -- The later accesses only add edges.
        have grows : ∀ (accesses : List AccessLog) (current : List Edge),
            Connects current 0 access.passIndex →
              Connects (accesses.foldl (addSeedEdge handle) current) 0
                access.passIndex := by
          intro accesses
          induction accesses with
          | nil => exact fun _ connects => connects
          | cons other others keeps =>
              intro current connects
              apply keeps
              unfold addSeedEdge
              split
              · exact connects_addEdgeOnce.mpr (Or.inl connects)
              · exact connects
        exact grows rest _ added
      · exact induction behind

/-- The graph after some dependencies. -/
structure Seeding (graph : FrameGraph) (targets : AttachmentSet)
    (done : List Handle) (current : FrameGraph) : Prop where
  rows : current =
    { insertVirtualPass graph targets with
      edges := current.edges
      resources := seedResources graph done }
  edges : ∃ added, current.edges = graph.edges.map (Edge.shift 1) ++ added ∧
    ∀ edge ∈ added, edge.srcPass = 0 ∧ 0 < edge.dstPass ∧
      edge.resource ∈ done
  reached : ∀ node ∈ graph.resources, node.handle ∈ done →
    ∀ access ∈ untilFirstWrite node.accesses, access.Touches →
      Connects current.edges 0 (access.passIndex + 1)

theorem seeding_start (graph : FrameGraph) (targets : AttachmentSet) :
    Seeding graph targets [] (insertVirtualPass graph targets) where
  rows := by
    have resources : seedResources graph [] =
        (insertVirtualPass graph targets).resources := by
      unfold seedResources
      rw [List.filter_nil, List.map_nil, List.append_nil]
      rfl
    rw [resources]
  edges := ⟨[], (List.append_nil _).symm, nofun⟩
  reached := fun _ _ listed => absurd listed List.not_mem_nil

variable {added : List Edge} {start stop : Nat}

theorem Connects.mono
    (connects : Connects edges start stop) :
    Connects (edges ++ added) start stop := by
  obtain ⟨edge, member, ends⟩ := connects
  exact ⟨edge, List.mem_append_left _ member, ends⟩

variable {current : FrameGraph} {targets : AttachmentSet}

section

variable (seeding : Seeding graph targets done current)
  (distinct : (graph.resources.map ResourceNode.handle).Nodup)
include seeding distinct

/-- One more dependency. -/
theorem Seeding.step
    (once : done.Nodup) (fresh : handle ∉ done) :
    Seeding graph targets (done ++ [handle])
      (seedDependency current handle) := by
  have resources : current.resources = seedResources graph done :=
    congrArg FrameGraph.resources seeding.rows
  obtain ⟨before, old, leave⟩ := seeding.edges
  -- What the source finds and stores for the handle.
  have found : ∃ log, seedDependency current handle =
      { current with
        edges := addSeedEdges current.edges handle log
        resources := seedResources graph (done ++ [handle]) } ∧
      ∀ node ∈ graph.resources, node.handle = handle →
        log = node.accesses.map (AccessLog.shift 1) := by
    by_cases known : handle ∈ graph.resources.map ResourceNode.handle
    · obtain ⟨node, member, rfl⟩ := List.mem_map.mp known
      have find := find?_seedResources_of_mem distinct once member
      refine ⟨(seedNode done node).accesses, ?_, ?_⟩
      · unfold seedDependency
        rw [resources, find]
        simp only [Option.getD_some]
        rw [seedResources_snoc_of_mem distinct once member fresh]
      · intro other listed same
        have left := find?_of_mem distinct listed
        rw [same, find?_of_mem distinct member] at left
        rw [← Option.some.inj left]
        unfold seedNode
        rw [if_neg fresh, List.nil_append]
    · have find := find?_of_absent (notMem_seedResources known fresh)
      refine ⟨[], ?_, ?_⟩
      · unfold seedDependency
        rw [resources, find]
        simp only [Option.getD_none]
        have stored := seedResources_snoc_of_absent known fresh
        unfold freshNode at stored
        rw [stored]
      · rintro other listed rfl
        exact absurd (List.mem_map_of_mem listed) known
  obtain ⟨log, equal, logged⟩ := found
  obtain ⟨added, grown, leaves⟩ := addSeedEdges_eq current.edges handle log
  rw [equal]
  refine ⟨?_, ?_, ?_⟩
  · have rows := seeding.rows
    rw [rows]
  · refine ⟨before ++ added, ?_, ?_⟩
    · change addSeedEdges current.edges handle log = _
      rw [grown, old, List.append_assoc]
    · intro edge member
      rcases List.mem_append.mp member with early | late
      · obtain ⟨source, target, resource⟩ := leave edge early
        exact ⟨source, target, List.mem_append_left _ resource⟩
      · obtain ⟨source, target, resource⟩ := leaves edge late
        exact ⟨source, target, List.mem_append_right _
          (List.mem_singleton.mpr resource)⟩
  · intro node member listed access reached touches
    change Connects (addSeedEdges current.edges handle log) 0 _
    rcases List.mem_append.mp listed with early | single
    · rw [grown]
      exact (seeding.reached node member early access reached touches).mono
    · have same := List.mem_singleton.mp single
      have shifted : AccessLog.shift 1 access ∈ untilFirstWrite log := by
        rw [logged node member same, untilFirstWrite_shift]
        exact List.mem_map_of_mem reached
      exact connects_addSeedEdges shifted touches (Nat.succ_ne_zero _)

theorem Seeding.all
    {rest : List Handle} (once : (done ++ rest).Nodup) :
    Seeding graph targets (done ++ rest)
      (rest.foldl seedDependency current) := by
  induction rest generalizing done current with
  | nil =>
      rw [List.append_nil]
      exact seeding
  | cons handle rest induction =>
      have parts := List.nodup_append.mp once
      have fresh : handle ∉ done := by
        intro listed
        exact parts.2.2 handle listed handle List.mem_cons_self rfl
      have split : done ++ handle :: rest = done ++ [handle] ++ rest := by
        rw [List.append_assoc]
        rfl
      rw [split] at once ⊢
      exact induction (seeding.step distinct parts.1 fresh) once

end

/-- The canonical handles of the dependencies of a seed. -/
def canonicalDependencies (seed : ActiveRenderPlanningSeed)
    (resolver : ResourceAliasResolver) : List Handle :=
  (seed.writeDependencies.toList.take seed.dependencyCount).map
    resolver.apply

theorem collectDependencies_spec {resolver : ResourceAliasResolver}
    {found raws dependencies : List Handle} (once : found.Nodup)
    (collected : collectDependencies resolver found raws = some dependencies) :
    dependencies.Nodup ∧ ∀ handle, handle ∈ dependencies ↔
      handle ∈ found ∨ handle ∈ raws.map resolver.apply := by
  induction raws generalizing found with
  | nil =>
      unfold collectDependencies at collected
      rw [← Option.some.inj collected]
      refine ⟨once, fun handle => ?_⟩
      rw [List.map_nil]
      exact (or_iff_left List.not_mem_nil).symm
  | cons raw rest induction =>
      unfold collectDependencies at collected
      simp only at collected
      split at collected
      · contradiction
      · split at collected
        · rename_i listed
          rw [List.contains_iff_mem] at listed
          obtain ⟨nodup, members⟩ := induction once collected
          refine ⟨nodup, fun handle => ?_⟩
          rw [members, List.map_cons, List.mem_cons]
          constructor
          · rintro (old | later)
            · exact Or.inl old
            · exact Or.inr (Or.inr later)
          · rintro (old | rfl | later)
            · exact Or.inl old
            · exact Or.inl listed
            · exact Or.inr later
        · rename_i fresh
          rw [List.contains_iff_mem] at fresh
          have grown : (found ++ [resolver.apply raw]).Nodup := by
            rw [List.nodup_append]
            refine ⟨once, List.nodup_singleton _, ?_⟩
            intro handle member other single same
            rw [List.mem_singleton.mp single] at same
            exact fresh (same ▸ member)
          obtain ⟨nodup, members⟩ := induction grown collected
          refine ⟨nodup, fun handle => ?_⟩
          rw [members, List.map_cons, List.mem_cons, List.mem_append,
            List.mem_singleton, or_assoc]

theorem untilFirstWrite_or_behind
    (member : access ∈ log) :
    access ∈ untilFirstWrite log ∨
      ∃ before write after, log = before ++ write :: after ∧
        write.writes = true ∧ write ∈ untilFirstWrite log ∧
          access ∈ after := by
  induction log with
  | nil => contradiction
  | cons head rest induction =>
      unfold untilFirstWrite
      rcases List.mem_cons.mp member with rfl | behind
      · exact Or.inl List.mem_cons_self
      · by_cases isWrite : head.writes = true
        · exact Or.inr ⟨[], head, rest, rfl, isWrite, List.mem_cons_self,
            behind⟩
        · rw [if_neg isWrite]
          rcases induction behind with early |
            ⟨before, write, after, split, writes, first, late⟩
          · exact Or.inl (List.mem_cons_of_mem _ early)
          · refine Or.inr ⟨head :: before, write, after, ?_, writes,
              List.mem_cons_of_mem _ first, late⟩
            rw [split]
            rfl

/-- The paths of the graph, one pass later. -/
theorem path_shift
    (path : ReflTransGen (Connects edges) start stop) :
    ReflTransGen (Connects (edges.map (Edge.shift 1) ++ added))
      (start + 1) (stop + 1) := by
  refine ReflTransGen.lift (· + 1) ?_ _ _ path
  rintro source target ⟨edge, member, rfl, rfl⟩
  exact ⟨edge.shift 1,
    List.mem_append_left _ (List.mem_map_of_mem member), rfl, rfl⟩

/-- Every access of a dependency is behind the virtual pass. -/
theorem Seeding.path (seeding : Seeding graph targets done current)
    (built : graph.Built)
    (member : node ∈ graph.resources) (listed : node.handle ∈ done) (logged : access ∈ node.accesses) :
    ReflTransGen (Connects current.edges) 0 (access.passIndex + 1) := by
  have touches := built.touches node member
  obtain ⟨added, edges, -⟩ := seeding.edges
  rcases untilFirstWrite_or_behind logged with early |
    ⟨before, write, after, split, writes, first, late⟩
  · exact .single (seeding.reached node member listed access early
      (touches access logged))
  · have writeLogged : write ∈ node.accesses := by
      rw [split]
      exact List.mem_append_right _ List.mem_cons_self
    have toWrite := seeding.reached node member listed write first
      (touches write writeLogged)
    have covered := built.covered node member
    unfold Covered at covered
    rw [split, List.pairwise_append] at covered
    have path := (List.pairwise_cons.mp covered.2.1).1 access late
      (Or.inl writes)
    refine ReflTransGen.head toWrite ?_
    rw [edges]
    exact path_shift path

/-- The graphs that are built from one payload or from several. -/
inductive FromPayloads : FrameGraph → Prop
  | single (payload : SourcePayloadView) (frameId : Nat)
      (resolver : ResourceAliasResolver) :
      FromPayloads (buildFrameGraph payload frameId resolver)
  | combined {resolver : ResourceAliasResolver}
      {sources : List MultiSourcePlanningSource} {appended : FrameGraph}
      (equal : appendSources resolver sources 0 0 {} = some appended) :
      FromPayloads (inferCombinedHazards appended)

theorem FromPayloads.built
    (fromPayloads : FromPayloads graph) : graph.Built := by
  cases fromPayloads with
  | single payload frameId resolver =>
      exact buildFrameGraph_built payload frameId resolver
  | combined equal =>
      exact (appendSources_spec _ FrameGraph.Assembled.empty
        (fun _ member => absurd member List.not_mem_nil) equal).1.built

/-- The old graph one pass later behind a pass without commands, with the
write and the edges of these dependencies. -/
structure SeededExactly (graph seeded : FrameGraph)
    (targets : AttachmentSet) (dependencies : List Handle) : Prop where
  passes : seeded.passes = virtualPass targets :: graph.passes
  commandless : seeded.passCommands 0 = []
  commands : seeded.commands = graph.commands
  draws : seeded.draws = graph.draws
  frame : seeded.frameId = graph.frameId
  boundary : seeded.flushBoundary = graph.flushBoundary
  resources : seeded.resources = seedResources graph dependencies
  edges : ∃ added, seeded.edges = graph.edges.map (Edge.shift 1) ++ added ∧
    ∀ edge ∈ added, edge.srcPass = 0
  forward : ∀ edge ∈ seeded.edges, edge.srcPass < edge.dstPass
  reached : ∀ node ∈ seeded.resources, node.handle ∈ dependencies →
    ∀ access ∈ node.accesses, access.Touches →
      ReflTransGen (Connects seeded.edges) 0 access.passIndex
  bare : ∀ edge ∈ seeded.edges, edge.srcPass = 0 →
    edge.resource ∈ dependencies

theorem Seeding.exact (seeding : Seeding graph targets done current)
    (built : graph.Built) : SeededExactly graph current targets done := by
  have rows := seeding.rows
  obtain ⟨added, edges, leave⟩ := seeding.edges
  have resources : current.resources = seedResources graph done :=
    congrArg FrameGraph.resources rows
  constructor
  case passes => exact congrArg FrameGraph.passes rows
  case commandless =>
    have first : current.pass 0 = virtualPass targets :=
      congrArg (fun graph => graph.pass 0) rows
    unfold FrameGraph.passCommands FrameGraph.commandsOf
    rw [first]
    rfl
  case commands => exact (congrArg FrameGraph.commands rows).trans rfl
  case draws => exact (congrArg FrameGraph.draws rows).trans rfl
  case frame => exact (congrArg FrameGraph.frameId rows).trans rfl
  case boundary => exact (congrArg FrameGraph.flushBoundary rows).trans rfl
  case resources => exact resources
  case edges => exact ⟨added, edges, fun edge member => (leave edge member).1⟩
  case forward =>
    intro edge member
    rw [edges] at member
    rcases List.mem_append.mp member with old | new
    · obtain ⟨before, listed, rfl⟩ := List.mem_map.mp old
      exact Nat.succ_lt_succ (built.forward before listed)
    · rw [(leave edge new).1]
      exact (leave edge new).2.1
  case reached =>
    intro node member listed access logged touches
    rw [resources] at member
    rcases List.mem_append.mp member with old | fresh
    · obtain ⟨before, known, rfl⟩ := List.mem_map.mp old
      rcases List.mem_append.mp logged with seed | later
      · have dependency : before.handle ∈ done := listed
        rw [if_pos dependency, List.mem_singleton] at seed
        rw [seed]
        exact .refl
      · obtain ⟨earlier, found, rfl⟩ := List.mem_map.mp later
        exact seeding.path built known listed found
    · obtain ⟨handle, -, rfl⟩ := List.mem_map.mp fresh
      rw [List.mem_singleton.mp logged]
      exact .refl
  case bare =>
    intro edge member source
    rw [edges] at member
    rcases List.mem_append.mp member with old | new
    · obtain ⟨before, -, rfl⟩ := List.mem_map.mp old
      exact absurd source (Nat.succ_ne_zero _)
    · exact (leave edge new).2.2

/-- A seed that is not applied changes nothing; an applied seed adds exactly
the virtual pass with the writes of its canonical dependencies. -/
theorem applyActiveRenderPlanningSeed_exact (graph : FrameGraph)
    (fromPayloads : FromPayloads graph) (seed : ActiveRenderPlanningSeed)
    (resolver : ResourceAliasResolver) :
    let outcome := applyActiveRenderPlanningSeed graph seed resolver
    (outcome.1 ≠ .applied → outcome.2 = graph) ∧
      (outcome.1 = .applied → ∃ dependencies : List Handle,
        dependencies.Nodup ∧
          (∀ handle, handle ∈ dependencies ↔
            handle ∈ canonicalDependencies seed resolver) ∧
          SeededExactly graph outcome.2 seed.targets dependencies) := by
  have built := fromPayloads.built
  unfold applyActiveRenderPlanningSeed
  split
  · exact ⟨fun _ => rfl, nofun⟩
  · split
    · exact ⟨fun _ => rfl, nofun⟩
    · split
      · exact ⟨fun _ => rfl, nofun⟩
      · split
        · exact ⟨fun _ => rfl, nofun⟩
        · rename_i dependencies collected
          split
          · exact ⟨fun _ => rfl, nofun⟩
          · split
            · exact ⟨fun _ => rfl, nofun⟩
            · refine ⟨fun refused => absurd rfl refused, fun _ => ?_⟩
              obtain ⟨once, members⟩ :=
                collectDependencies_spec List.nodup_nil collected
              refine ⟨dependencies, once, ?_, ?_⟩
              · intro handle
                rw [members]
                exact or_iff_right List.not_mem_nil
              · exact ((seeding_start graph seed.targets).all built.handles
                  once).exact built

/-- A seed of one open target in front of a draw to it. -/
theorem applyActiveRenderPlanningSeed_exact_draw :
    let payload : SourcePayloadView :=
      { commands := [SourceCommandView.drawTo 5] }
    let seed : ActiveRenderPlanningSeed :=
      { targets := { color := #v[5, 0, 0, 0, 0, 0, 0, 0], colorCount := 1 }
        writeDependencies := #v[5, 0, 0, 0, 0]
        dependencyCount := 1
        complete := true }
    let graph := buildFrameGraph payload 0 {}
    let outcome := applyActiveRenderPlanningSeed graph seed {}
    (outcome.1 ≠ .applied → outcome.2 = graph) ∧
      (outcome.1 = .applied → ∃ dependencies : List Handle,
        dependencies.Nodup ∧
          (∀ handle, handle ∈ dependencies ↔
            handle ∈ canonicalDependencies seed {}) ∧
          SeededExactly graph outcome.2 seed.targets dependencies) :=
  applyActiveRenderPlanningSeed_exact _ (.single _ 0 {}) _ {}

end Dxmt9.Framegraph
