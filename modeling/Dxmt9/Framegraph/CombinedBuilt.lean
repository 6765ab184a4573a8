import Dxmt9.Framegraph.PlanningSeed

/-!
# Combined graphs are built graphs

Concatenating built graphs keeps everything but the edges; inferring the
hazards again restores the coverage of every log.  Each source graph stays
recognisable in the combined one at its own offset.
-/

namespace Dxmt9.Framegraph

open Relation

/-! ## Coverage after the inference -/

variable {handle : Handle} {start stop : Nat}

theorem HazardScan.foldl_connects (edges : List Edge) (log : List AccessLog)
    (connected : Connects edges start stop) :
    Connects (log.foldl (HazardScan.next handle) { edges := edges }).edges
      start stop := by
  induction log using List.reverseRecOn with
  | nil => exact connected
  | append_singleton log access induction =>
      rw [HazardScan.next_edges, connects_foldl_addEdgeOnce]
      exact Or.inl induction

variable {edges : List Edge} {log : List AccessLog} {edge : Edge}

/-- Edges of a chronological log lead forward to its own passes. -/
theorem HazardScan.mem_foldl
    (chronological : log.Pairwise
      fun earlier later => earlier.passIndex ≤ later.passIndex)
    (member : edge ∈
      (log.foldl (HazardScan.next handle) { edges := edges }).edges) :
    edge ∈ edges ∨ (edge.srcPass < edge.dstPass ∧
      ∃ access ∈ log, access.passIndex = edge.dstPass) := by
  induction log using List.reverseRecOn with
  | nil => exact Or.inl member
  | append_singleton log access induction =>
      rw [List.pairwise_append] at chronological
      obtain ⟨earlier, _, across⟩ := chronological
      rw [HazardScan.next_edges] at member
      rcases mem_foldl_addEdgeOnce _ member with
        known | ⟨source, target, different⟩
      · rcases induction earlier known with old | ⟨forward, other, logged, at'⟩
        · exact Or.inl old
        · exact Or.inr ⟨forward, other, List.mem_append_left _ logged, at'⟩
      · obtain ⟨other, logged, passEq⟩ := hazardSources_logged source
        have ordered := across other logged access List.mem_cons_self
        refine Or.inr ⟨?_, access, by simp, target.symm⟩
        rw [target, ← passEq]
        exact Nat.lt_of_le_of_ne ordered (passEq ▸ different)

/-- The inference covers a log of reads and writes. -/
theorem HazardScan.foldl_covered (edges : List Edge) (touches : ∀ access ∈ log, access.Touches) :
    Covered (log.foldl (HazardScan.next handle) { edges := edges }).edges
      log := by
  induction log using List.reverseRecOn with
  | nil => exact List.Pairwise.nil
  | append_singleton log access induction =>
      have logTouches : ∀ other ∈ log, other.Touches := fun other logged =>
        touches other (List.mem_append_left _ logged)
      rw [HazardScan.next_edges]
      have grown : Covered ((hazardSources log access.accessKind).foldl
            (addEdgeOnce handle access.passIndex)
            (log.foldl (HazardScan.next handle) { edges := edges }).edges)
          log :=
        (induction logTouches).mono fun step =>
          (connects_foldl_addEdgeOnce _).mpr (Or.inl step)
      refine List.pairwise_append.mpr ⟨grown, List.pairwise_singleton _ _, ?_⟩
      intro earlier logged later single conflict
      rw [List.mem_singleton] at single
      subst single
      refine grown.path_to_new logTouches ?_ logged conflict
        (touches later (by simp))
      intro source listed
      by_cases self : source = later.passIndex
      · exact Or.inl self
      · exact Or.inr ((connects_foldl_addEdgeOnce _).mpr
          (Or.inr ⟨listed, self, rfl⟩))

/-- What holds of a graph independently of its edges. -/
structure FrameGraph.Assembled (graph : FrameGraph) : Prop where
  ranges : ∀ pass ∈ graph.passes, validRanges graph pass = true
  accesses : ∀ node ∈ graph.resources, ∀ access ∈ node.accesses,
    access.passIndex < graph.passes.length
  unflagged : ∀ pass ∈ graph.passes, pass.flags = {}
  tiled : (List.range graph.passes.length).flatMap graph.passCommands =
    graph.commands.map CommandRef.commandIndex
  increasing :
    (graph.commands.map CommandRef.commandIndex).Pairwise (· < ·)
  chronological : ∀ node ∈ graph.resources, node.accesses.Pairwise
    fun earlier later => earlier.passIndex ≤ later.passIndex
  touches : ∀ node ∈ graph.resources, ∀ access ∈ node.accesses,
    access.Touches
  handles : (graph.resources.map ResourceNode.handle).Nodup

variable {graph : FrameGraph}

theorem FrameGraph.Built.assembled
    (built : graph.Built) : graph.Assembled :=
  { built with }

theorem FrameGraph.Assembled.empty : FrameGraph.Assembled {} where
  ranges _ member := absurd member List.not_mem_nil
  accesses _ member := absurd member List.not_mem_nil
  unflagged _ member := absurd member List.not_mem_nil
  tiled := rfl
  increasing := List.Pairwise.nil
  chronological _ member := absurd member List.not_mem_nil
  touches _ member := absurd member List.not_mem_nil
  handles := List.nodup_nil

variable {resources : List ResourceNode}

theorem mem_foldl_inferResourceHazards
    (chronological : ∀ node ∈ resources, node.accesses.Pairwise
      fun earlier later => earlier.passIndex ≤ later.passIndex)
    (member : edge ∈ resources.foldl inferResourceHazards edges) :
    edge ∈ edges ∨ (edge.srcPass < edge.dstPass ∧ ∃ node ∈ resources,
      ∃ access ∈ node.accesses, access.passIndex = edge.dstPass) := by
  induction resources generalizing edges with
  | nil => exact Or.inl member
  | cons node rest induction =>
      rcases induction (fun other listed => chronological other
          (List.mem_cons_of_mem node listed)) member with
        early | ⟨forward, other, listed, reached⟩
      · rcases HazardScan.mem_foldl
            (chronological node List.mem_cons_self) early with
          old | ⟨forward, reached⟩
        · exact Or.inl old
        · exact Or.inr ⟨forward, node, List.mem_cons_self, reached⟩
      · exact Or.inr
          ⟨forward, other, List.mem_cons_of_mem node listed, reached⟩

theorem foldl_inferResourceHazards_connects
    (resources : List ResourceNode)
    (connected : Connects edges start stop) :
    Connects (resources.foldl inferResourceHazards edges) start stop := by
  induction resources generalizing edges with
  | nil => exact connected
  | cons node rest induction =>
      exact induction (HazardScan.foldl_connects edges _ connected)

theorem foldl_inferResourceHazards_covered
    (edges : List Edge)
    (touches : ∀ node ∈ resources, ∀ access ∈ node.accesses, access.Touches) :
    ∀ node ∈ resources,
      Covered (resources.foldl inferResourceHazards edges)
        node.accesses := by
  induction resources generalizing edges with
  | nil => exact fun node member => absurd member List.not_mem_nil
  | cons head rest induction =>
      intro node member
      rcases List.mem_cons.mp member with rfl | behind
      · exact (HazardScan.foldl_covered edges
          (touches node List.mem_cons_self)).mono fun step =>
            foldl_inferResourceHazards_connects rest step
      · exact induction _ (fun other listed => touches other
          (List.mem_cons_of_mem head listed)) node behind

theorem FrameGraph.Assembled.built
    (assembled : graph.Assembled) : (inferCombinedHazards graph).Built :=
  { assembled with
    forward := by
      intro edge member
      rcases mem_foldl_inferResourceHazards assembled.chronological member
        with old | ⟨forward, _⟩
      · exact absurd old List.not_mem_nil
      · exact forward
    inside := by
      intro edge member
      rcases mem_foldl_inferResourceHazards assembled.chronological member
        with old | ⟨_, node, listed, access, logged, target⟩
      · exact absurd old List.not_mem_nil
      · exact target ▸ assembled.accesses node listed access logged
    covered := foldl_inferResourceHazards_covered [] assembled.touches }

/-- The log of `node` is an old log followed by a rebased new one. -/
def AppendedLog (old new : List ResourceNode) (passBase : Nat)
    (node : ResourceNode) : Prop :=
  ∃ before after,
    node.accesses = before ++ after.map (AccessLog.shift passBase) ∧
    (before = [] ∨ ∃ first ∈ old,
      first.handle = node.handle ∧ first.accesses = before) ∧
    (after = [] ∨ ∃ second ∈ new,
      second.handle = node.handle ∧ second.accesses = after)

theorem appendTarget_spec (resources : List ResourceNode)
    (handle : Handle) :
    let node :=
      (resources.find? fun node => node.handle == handle).getD
        { handle := handle }
    node.handle = handle ∧ (node ∈ resources ∨ node.accesses = []) := by
  intro node
  cases found : resources.find? fun node => node.handle == handle with
  | none => simp [node, found]
  | some known =>
      have named : known.handle = handle := by
        simpa using List.find?_some found
      simp [node, found, named, List.mem_of_find?_eq_some found]

theorem appendSourceResource_nodup
    (passBase : Nat) (source : ResourceNode)
    (distinct : (resources.map ResourceNode.handle).Nodup) :
    ((appendSourceResource passBase resources source).map
      ResourceNode.handle).Nodup :=
  Builder.storeResource_nodup _ distinct

theorem foldl_appendSourceResource_nodup
    (passBase : Nat) (sources : List ResourceNode)
    (distinct : (resources.map ResourceNode.handle).Nodup) :
    ((sources.foldl (appendSourceResource passBase) resources).map
      ResourceNode.handle).Nodup := by
  induction sources generalizing resources with
  | nil => exact distinct
  | cons source rest induction =>
      exact induction (appendSourceResource_nodup passBase source distinct)

theorem appendedLog_of_mem {old new : List ResourceNode} {passBase : Nat}
    (oldDistinct : (old.map ResourceNode.handle).Nodup)
    (newDistinct : (new.map ResourceNode.handle).Nodup) :
    ∀ node ∈ new.foldl (appendSourceResource passBase) old,
      AppendedLog old new passBase node := by
  induction new using List.reverseRecOn with
  | nil =>
      intro node member
      exact ⟨node.accesses, [], by simp, Or.inr ⟨node, member, rfl, rfl⟩,
        Or.inl rfl⟩
  | append_singleton new source induction =>
      rw [List.map_append, List.nodup_append] at newDistinct
      obtain ⟨initDistinct, _, fresh⟩ := newDistinct
      have earlier := induction initDistinct
      have distinct := foldl_appendSourceResource_nodup passBase new
        oldDistinct
      have grow : ∀ {node}, AppendedLog old new passBase node →
          AppendedLog old (new ++ [source]) passBase node := by
        rintro node ⟨before, after, equal, first, second⟩
        refine ⟨before, after, equal, first, second.imp id ?_⟩
        rintro ⟨other, listed, same⟩
        exact ⟨other, List.mem_append_left _ listed, same⟩
      intro node member
      rw [List.foldl_append, List.foldl_cons, List.foldl_nil] at member
      have target := appendTarget_spec
        (new.foldl (appendSourceResource passBase) old) source.handle
      rcases Builder.mem_storeResource distinct member with
        rfl | ⟨kept, _⟩
      · obtain ⟨named, known⟩ := target
        refine ⟨_, source.accesses, rfl, ?_,
          Or.inr ⟨source, by simp, named.symm, rfl⟩⟩
        rcases known with listed | empty
        · obtain ⟨before, after, equal, first, second⟩ := earlier _ listed
          -- The handle of `source` has not been appended before.
          rcases second with rfl | ⟨other, otherListed, same, _⟩
          · rw [List.map_nil, List.append_nil] at equal
            exact equal ▸ first
          · exact absurd (same.trans named)
              (fresh _ (List.mem_map_of_mem otherListed) _
                (List.mem_singleton_self _))
        · exact Or.inl empty
      · exact grow (earlier node kept)

/-- Some node of the list has this handle and at least these accesses. -/
def Logs (resources : List ResourceNode) (handle : Handle)
    (accesses : List AccessLog) : Prop :=
  ∃ node ∈ resources, node.handle = handle ∧ accesses ⊆ node.accesses

section

variable (distinct : (resources.map ResourceNode.handle).Nodup)
  (passBase : Nat)
include distinct passBase

/-- An append forgets nothing and logs the rebased accesses. -/
theorem appendSourceResource_logs (source : ResourceNode) :
    (∀ {handle accesses}, Logs resources handle accesses →
      Logs (appendSourceResource passBase resources source) handle
        accesses) ∧
    Logs (appendSourceResource passBase resources source) source.handle
      (source.accesses.map (AccessLog.shift passBase)) := by
  have target := appendTarget_spec resources source.handle
  constructor
  · rintro handle accesses ⟨node, member, named, within⟩
    by_cases same : node.handle = source.handle
    · refine ⟨_, Builder.mem_storeResource_self _ _, ?_, ?_⟩
      · exact target.1.trans (same.symm.trans named)
      · have found : (resources.find? fun other =>
            other.handle == source.handle) = some node := by
          rw [List.find?_eq_some_iff_append]
          obtain ⟨front, back, rfl⟩ := List.append_of_mem member
          refine ⟨by simpa using same, front, back, rfl, ?_⟩
          intro other listed
          rw [List.map_append, List.nodup_append] at distinct
          have apart := distinct.2.2 _ (List.mem_map_of_mem listed)
            node.handle (by simp)
          simpa [← same] using apart
        rw [found]
        exact fun access logged =>
          List.mem_append_left _ (within logged)
    · refine ⟨node, Builder.mem_storeResource_of_ne member ?_, named, within⟩
      exact fun equal => same (equal.trans target.1)
  · exact ⟨_, Builder.mem_storeResource_self _ _, target.1,
      List.subset_append_right _ _⟩

theorem foldl_appendSourceResource_logs (sources : List ResourceNode) :
    (∀ {handle accesses}, Logs resources handle accesses →
      Logs (sources.foldl (appendSourceResource passBase) resources) handle
        accesses) ∧
    ∀ source ∈ sources,
      Logs (sources.foldl (appendSourceResource passBase) resources)
        source.handle
        (source.accesses.map (AccessLog.shift passBase)) := by
  induction sources generalizing resources with
  | nil => exact ⟨fun known => known, fun _ member =>
      absurd member List.not_mem_nil⟩
  | cons head rest induction =>
      obtain ⟨keeps, logsHead⟩ :=
        appendSourceResource_logs distinct passBase head
      obtain ⟨keepsRest, logsRest⟩ := induction
        (appendSourceResource_nodup passBase head distinct)
      refine ⟨fun known => keepsRest (keeps known), ?_⟩
      intro source member
      rcases List.mem_cons.mp member with rfl | behind
      · exact keepsRest logsHead
      · exact logsRest source behind

end

/-! ## Concatenated passes -/

/--
`part` occurs in `whole` from pass `offset` on.

Its command indices are raised by `commandBase`, and the log of each of its
resources is part of the log of the same handle.
-/
structure FrameGraph.Placed (part : FrameGraph) (offset commandBase : Nat)
    (whole : FrameGraph) : Prop where
  passCommands : ∀ index < part.passes.length,
    whole.passCommands (index + offset) =
      (part.passCommands index).map (· + commandBase)
  logs : ∀ node ∈ part.resources,
    Logs whole.resources node.handle
      (node.accesses.map (AccessLog.shift offset))
  inside : part.passes.length + offset ≤ whole.passes.length

theorem AccessLog.shift_zero (access : AccessLog) :
    access.shift 0 = access := rfl

/-- A graph placed inside a longer concatenation stays placed. -/
theorem FrameGraph.Placed.trans {part middle whole : FrameGraph}
    {offset commandBase : Nat} (inner : part.Placed offset commandBase middle)
    (outer : middle.Placed 0 0 whole) :
    part.Placed offset commandBase whole where
  passCommands index bound := by
    have within : index + offset < middle.passes.length := by
      have inside := inner.inside
      omega
    rw [← inner.passCommands index bound]
    simpa using outer.passCommands _ within
  logs node member := by
    obtain ⟨mid, midMember, midNamed, midWithin⟩ := inner.logs node member
    obtain ⟨last, lastMember, lastNamed, lastWithin⟩ :=
      outer.logs mid midMember
    refine ⟨last, lastMember, lastNamed.trans midNamed, ?_⟩
    intro access logged
    apply lastWithin
    simpa [AccessLog.shift_zero] using midWithin logged
  inside := by
    have first := inner.inside
    have second := outer.inside
    omega

theorem validRanges_iff {pass : PassNode} :
    validRanges graph pass = true ↔
      pass.commands.first + pass.commands.count ≤ graph.commands.length ∧
        pass.draws.first + pass.draws.count ≤ graph.draws.length := by
  simp only [validRanges, validCommandRange, validDrawRange,
    Bool.and_eq_true, decide_eq_true_eq]
  omega

section Concatenated

variable {combined source : FrameGraph} {commandBase : Nat}

theorem concatenated_length :
    (concatenated combined source commandBase).passes.length =
      combined.passes.length + source.passes.length := by
  simp [concatenated]

variable {index : Nat}

theorem concatenated_pass_left
    (bound : index < combined.passes.length) :
    (concatenated combined source commandBase).pass index =
      combined.pass index := by
  simp [concatenated, FrameGraph.pass, bound, List.getElem?_append_left]

theorem concatenated_pass_right
    (bound : index < source.passes.length) :
    (concatenated combined source commandBase).pass
        (index + combined.passes.length) =
      (source.pass index).rebase combined.draws.length
        combined.commands.length := by
  simp [concatenated, FrameGraph.pass, bound, List.getElem?_append_right]

theorem concatenated_commands :
    (concatenated combined source commandBase).commands.map
        CommandRef.commandIndex =
      combined.commands.map CommandRef.commandIndex ++
        (source.commands.map CommandRef.commandIndex).map
          (· + commandBase) := by
  simp [concatenated, Function.comp_def]

theorem concatenated_passCommands_left (assembled : combined.Assembled) (bound : index < combined.passes.length) :
    (concatenated combined source commandBase).passCommands index =
      combined.passCommands index := by
  have range := (validRanges_iff.mp (assembled.ranges _
    (FrameGraph.pass_mem bound))).1
  unfold FrameGraph.passCommands FrameGraph.commandsOf
  rw [concatenated_pass_left bound, concatenated,
    List.drop_append_of_le_length (by omega),
    List.take_append_of_le_length (by simp; omega)]

theorem concatenated_passCommands_right
    (bound : index < source.passes.length) :
    (concatenated combined source commandBase).passCommands
        (index + combined.passes.length) =
      (source.passCommands index).map (· + commandBase) := by
  unfold FrameGraph.passCommands FrameGraph.commandsOf
  rw [concatenated_pass_right bound]
  simp only [concatenated, PassNode.rebase]
  rw [Nat.add_comm, ← List.drop_drop, List.drop_left]
  simp [List.map_take, List.map_drop, Function.comp_def]

section

variable (assembled : combined.Assembled)
include assembled

theorem placed_left :
    combined.Placed 0 0 (concatenated combined source commandBase) where
  passCommands index bound := by
    simpa using concatenated_passCommands_left assembled bound
  logs node member := by
    apply (foldl_appendSourceResource_logs assembled.handles _ _).1
    exact ⟨node, member, rfl, by
      rw [show AccessLog.shift 0 = id from rfl, List.map_id]
      exact List.Subset.refl _⟩
  inside := by
    rw [concatenated_length]
    omega

theorem placed_right :
    source.Placed combined.passes.length commandBase
      (concatenated combined source commandBase) where
  passCommands _ bound := concatenated_passCommands_right bound
  logs := (foldl_appendSourceResource_logs assembled.handles _ _).2
  inside := by
    rw [concatenated_length]
    omega

/-- Appending an assembled graph behind all commands keeps the assembly. -/
theorem concatenated_assembled
    (sourceAssembled : source.Assembled)
    (consumed : ∀ command ∈ combined.commands,
      command.commandIndex < commandBase) :
    (concatenated combined source commandBase).Assembled := by
  have appended : ∀ node ∈
      (concatenated combined source commandBase).resources,
      AppendedLog combined.resources source.resources
        combined.passes.length node :=
    appendedLog_of_mem assembled.handles sourceAssembled.handles
  have oldInside : ∀ {node : ResourceNode} {before : List AccessLog},
      (before = [] ∨ ∃ first ∈ combined.resources,
        first.handle = node.handle ∧ first.accesses = before) →
      ∀ access ∈ before, access.passIndex < combined.passes.length := by
    rintro node before (rfl | ⟨first, listed, _, rfl⟩) access logged
    · contradiction
    · exact assembled.accesses first listed access logged
  refine
    { ranges := ?_
      accesses := ?_
      unflagged := ?_
      tiled := ?_
      increasing := ?_
      chronological := ?_
      touches := ?_
      handles := foldl_appendSourceResource_nodup _ _ assembled.handles }
  · intro pass member
    rw [validRanges_iff]
    rcases List.mem_append.mp member with old | new
    · have range := validRanges_iff.mp (assembled.ranges pass old)
      simp only [concatenated, List.length_append, List.length_map]
      omega
    · obtain ⟨pass, listed, rfl⟩ := List.mem_map.mp new
      have range := validRanges_iff.mp (sourceAssembled.ranges pass listed)
      simp only [concatenated, PassNode.rebase, List.length_append,
        List.length_map]
      omega
  · intro node member access logged
    rw [concatenated_length]
    obtain ⟨before, after, equal, first, second⟩ := appended node member
    rw [equal] at logged
    rcases List.mem_append.mp logged with old | new
    · exact Nat.lt_add_right _ (oldInside first access old)
    · obtain ⟨other, otherLogged, rfl⟩ := List.mem_map.mp new
      rcases second with rfl | ⟨sourceNode, listed, _, rfl⟩
      · contradiction
      · have bound := sourceAssembled.accesses sourceNode listed other
          otherLogged
        simp only [AccessLog.shift]
        omega
  · intro pass member
    rcases List.mem_append.mp member with old | new
    · exact assembled.unflagged pass old
    · obtain ⟨pass, listed, rfl⟩ := List.mem_map.mp new
      exact sourceAssembled.unflagged pass listed
  · rw [concatenated_length, List.range_add, List.flatMap_append,
      concatenated_commands, ← assembled.tiled, ← sourceAssembled.tiled,
      List.flatMap_map, List.map_flatMap]
    congr 1
    · exact List.flatMap_congr fun index member =>
        concatenated_passCommands_left assembled (List.mem_range.mp member)
    · refine List.flatMap_congr fun index member => ?_
      rw [Nat.add_comm]
      exact concatenated_passCommands_right (List.mem_range.mp member)
  · rw [concatenated_commands, List.pairwise_append]
    refine ⟨assembled.increasing, ?_, ?_⟩
    · rw [List.pairwise_map]
      exact sourceAssembled.increasing.imp fun ordered =>
        Nat.add_lt_add_right ordered commandBase
    · intro first firstMember second secondMember
      obtain ⟨command, listed, rfl⟩ := List.mem_map.mp firstMember
      obtain ⟨index, _, rfl⟩ := List.mem_map.mp secondMember
      exact (consumed command listed).trans_le (Nat.le_add_left _ index)
  · intro node member
    obtain ⟨before, after, equal, first, second⟩ := appended node member
    rw [equal, List.pairwise_append]
    refine ⟨?_, ?_, ?_⟩
    · rcases first with rfl | ⟨old, listed, _, rfl⟩
      · exact List.Pairwise.nil
      · exact assembled.chronological old listed
    · rw [List.pairwise_map]
      rcases second with rfl | ⟨new, listed, _, rfl⟩
      · exact List.Pairwise.nil
      · exact (sourceAssembled.chronological new listed).imp
          fun ordered => Nat.add_le_add_right ordered _
    · intro earlier earlierLogged later laterLogged
      obtain ⟨other, _, rfl⟩ := List.mem_map.mp laterLogged
      have bound := oldInside first earlier earlierLogged
      simp only [AccessLog.shift]
      omega
  · intro node member access logged
    obtain ⟨before, after, equal, first, second⟩ := appended node member
    rw [equal] at logged
    rcases List.mem_append.mp logged with old | new
    · rcases first with rfl | ⟨oldNode, listed, _, rfl⟩
      · contradiction
      · exact assembled.touches oldNode listed access old
    · obtain ⟨other, otherLogged, rfl⟩ := List.mem_map.mp new
      rcases second with rfl | ⟨newNode, listed, _, rfl⟩
      · contradiction
      · exact sourceAssembled.touches newNode listed other otherLogged

end

end Concatenated

end Dxmt9.Framegraph
