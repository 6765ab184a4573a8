import Dxmt9.Framegraph.PassCoalesce
import Mathlib.Data.Finset.Range
import Dxmt9.Order.Regrouping

/-!
# Dependency paths

Both reachability queries of the coalescer decide the same relation: the
existence of a path of dependency edges.
-/

namespace Dxmt9.Framegraph

open Relation
open Dxmt9.Order

/-- Every edge leads forward to a pass of the graph. -/
structure FrameGraph.EdgesForward (graph : FrameGraph) : Prop where
  forward : ∀ edge ∈ graph.edges, edge.srcPass < edge.dstPass
  inside : ∀ edge ∈ graph.edges, edge.dstPass < graph.passes.length

variable {source target : Nat}

variable {graph : FrameGraph}

section

variable (edges : graph.EdgesForward) (step : graph.DependsStep source target)
include edges step

theorem FrameGraph.EdgesForward.step_forward : source < target := by
  obtain ⟨edge, member, rfl, rfl⟩ := step
  exact edges.forward edge member

theorem FrameGraph.EdgesForward.step_inside :
    target < graph.passes.length := by
  obtain ⟨edge, member, rfl, rfl⟩ := step
  exact edges.inside edge member

end

theorem mem_successors {edges : List Edge} :
    target ∈ successors edges source ↔
      ∃ edge ∈ edges, edge.srcPass = source ∧ edge.dstPass = target := by
  simp [successors, and_assoc]

/-- With edges in range the bounded adjacency drops nothing. -/
theorem boundedEdges_eq (edges : graph.EdgesForward) :
    boundedEdges graph = graph.edges := by
  unfold boundedEdges
  rw [List.filter_eq_self]
  intro edge member
  have forward := edges.forward edge member
  have inside := edges.inside edge member
  simp only [Bool.and_eq_true, decide_eq_true_eq]
  exact ⟨forward.trans inside, inside⟩

theorem admissible_eq (graph : FrameGraph) (admits : Nat → Bool)
    (admitted : ∀ {source target}, graph.DependsStep source target →
      admits target = true) :
    Worklist.Admissible (successors graph.edges) admits =
      graph.DependsStep := by
  funext source target
  simp only [Worklist.Admissible, mem_successors, eq_iff_iff]
  exact ⟨fun step => step.1, fun step => ⟨step, admitted step⟩⟩

section

variable (edges : graph.EdgesForward) (inside : source < graph.passes.length)
include edges inside

/-- Starting from a pass, one expansion for each pass is enough. -/
theorem search_passes
    (admits stop : Nat → Bool) :
    Worklist.Settled (successors graph.edges) admits stop source
      (Worklist.search (successors graph.edges) admits stop
        graph.passes.length (Worklist.start source)) := by
  refine Worklist.search_settled (Finset.range graph.passes.length) ?_
    graph.passes.length (Worklist.start source)
    (Worklist.explored_start source) ?_
  · intro node next successor _
    exact Finset.mem_range.mpr
      (edges.step_inside (mem_successors.mp successor))
  · have bound := Worklist.pending_start_le (Finset.mem_range.mpr inside)
    rwa [Finset.card_range] at bound

/-- The reference traversal finds exactly the passes on a path. -/
theorem reaches_iff (target : Nat) :
    reaches graph source target = true ↔
      ReflTransGen graph.DependsStep source target := by
  unfold reaches
  split <;> rename_i distinct
  · simp only [true_iff]
    exact distinct ▸ ReflTransGen.refl
  · have spec := search_passes edges inside
      (fun pass => decide (pass < graph.passes.length))
      (fun pass => pass == target)
    have sameStep := admissible_eq graph
      (fun pass => decide (pass < graph.passes.length))
      (fun step => decide_eq_true (edges.step_inside step))
    cases outcome : Worklist.search (successors graph.edges)
        (fun pass => decide (pass < graph.passes.length))
        (fun pass => pass == target)
        graph.passes.length (Worklist.start source) with
    | some final =>
        rw [outcome] at spec
        simp only [Option.isNone_some, Bool.false_eq_true, false_iff]
        intro path
        -- The last edge of a path would leave an expanded pass.
        rcases ReflTransGen.cases_tail path with
          equal | ⟨last, reached, step⟩
        · exact distinct equal.symm
        · have seen := spec.1.reachable_seen spec.2 (sameStep.symm ▸ reached)
          rcases spec.1.expanded last seen with waiting | done
          · simp [spec.2] at waiting
          · have clear := (done target (mem_successors.mpr step)).1
            simp at clear
    | none =>
        rw [outcome] at spec
        simp only [Option.isNone_none, true_iff]
        obtain ⟨node, met, path, successor, isTarget⟩ := spec
        have equal : met = target := by simpa using isTarget
        subst equal
        exact (sameStep ▸ path).tail (mem_successors.mp successor)

/-- The cached row of a pass lists exactly the passes on a path. -/
theorem mem_reachableRow_iff (target : Nat) :
    target ∈ reachableRow graph source ↔
      ReflTransGen graph.DependsStep source target := by
  unfold reachableRow
  rw [boundedEdges_eq edges]
  have spec := search_passes edges inside (fun _ => true) (fun _ => false)
  have sameStep := admissible_eq graph (fun _ => true) (fun _ => rfl)
  cases outcome : Worklist.search (successors graph.edges)
      (fun _ => true) (fun _ => false)
      graph.passes.length (Worklist.start source) with
  | some final =>
      rw [outcome] at spec
      simp only [Option.map_some, Option.getD_some]
      constructor
      · intro member
        exact sameStep ▸ spec.1.reachable target member
      · intro path
        exact spec.1.reachable_seen spec.2 (sameStep.symm ▸ path)
  | none =>
      rw [outcome] at spec
      obtain ⟨_, _, _, _, stops⟩ := spec
      contradiction

end

/-- A query answers for the path relation of its graph. -/
def AnswersPaths (queries : FrameGraph → Nat → Nat → Bool) : Prop :=
  ∀ graph : FrameGraph, graph.EdgesForward →
    ∀ source < graph.passes.length, ∀ target,
      queries graph source target = true ↔
        ReflTransGen graph.DependsStep source target

/-- Whether rows are kept changes no answer. -/
theorem graphQueries_answersPaths : AnswersPaths GraphQueries.reaches := by
  intro graph edges source inside target
  unfold GraphQueries.reaches
  split
  · rw [List.contains_iff_mem]
    exact mem_reachableRow_iff edges inside target
  · exact reaches_iff edges inside target

end Dxmt9.Framegraph

/-!
## Regrouped frame graphs

Every order-changing optimizer pass turns a graph into a regrouping of it:
each new pass concatenates the commands of a class of old passes, keeps the
header of the first of them, and the log and the edges are renumbered along
the classes.
-/

namespace Dxmt9.Framegraph

open Relation
open Dxmt9.Order

/-- Everything of a pass except its ranges and its load/store policy. -/
def PassNode.header (pass : PassNode) : PassNode :=
  { pass with draws := {}, commands := {}, loadStore := {} }

/-- What two passes must agree on before they may be merged. -/
def PassNode.mergeKey (pass : PassNode) : PassKind × AttachmentSet × Bool :=
  (pass.kind, pass.targets, pass.flags.dead)

theorem PassNode.mergeKey_of_header {left right : PassNode}
    (same : left.header = right.header) : left.mergeKey = right.mergeKey :=
  congrArg (fun pass => pass.mergeKey) same

/-- The log of a resource with renumbered passes, without derived fields. -/
def ResourceNode.relabel (label : Nat → Nat) (node : ResourceNode) :
    ResourceNode :=
  { node with
    accesses := node.accesses.map fun access =>
      { access with passIndex := label access.passIndex }
    firstUsePass := 0
    lastUsePass := 0
    residency := .persistent }

/-- Ranges, edges and accesses all name existing entries. -/
structure FrameGraph.WellFormed (graph : FrameGraph) : Prop
    extends graph.EdgesForward where
  ranges : ∀ pass ∈ graph.passes, validRanges graph pass = true
  accesses : ∀ node ∈ graph.resources, ∀ access ∈ node.accesses,
    access.passIndex < graph.passes.length

/-- `graph` regroups `origin` along `classes`. -/
structure FrameGraph.Regrouped (origin : FrameGraph)
    (classes : List (List Nat)) (graph : FrameGraph) : Prop where
  regrouping :
    Regrouping classes origin.passes.length origin.DependsStep
  length : graph.passes.length = classes.length
  depends : ∀ source target, graph.DependsStep source target ↔
    Relabelled classes origin.DependsStep source target
  commands : ∀ index < classes.length,
    graph.commandsOf (graph.pass index) =
      (classAt classes index).flatMap fun old =>
        origin.commandsOf (origin.pass old)
  leader : ∀ index < classes.length, ∃ first rest,
    classAt classes index = first :: rest ∧
      (graph.pass index).header = (origin.pass first).header
  uniform : ∀ index < classes.length, ∀ old ∈ classAt classes index,
    (origin.pass old).mergeKey = (graph.pass index).mergeKey
  resources : graph.resources.map (ResourceNode.relabel id) =
    origin.resources.map (ResourceNode.relabel (classOf classes))
  ranges : ∀ pass ∈ graph.passes, validRanges graph pass = true

variable {graph : FrameGraph}

theorem FrameGraph.EdgesForward.within
    (edges : graph.EdgesForward) :
    Within graph.passes.length graph.DependsStep := fun _ _ step =>
  ⟨(edges.step_forward step).trans (edges.step_inside step),
    edges.step_inside step⟩

theorem ResourceNode.relabel_relabel (outer inner : Nat → Nat)
    (node : ResourceNode) :
    (node.relabel inner).relabel outer =
      node.relabel fun old => outer (inner old) := by
  simp [ResourceNode.relabel]

theorem ResourceNode.relabel_congr {left right : Nat → Nat}
    {node : ResourceNode}
    (agree : ∀ access ∈ node.accesses,
      left access.passIndex = right access.passIndex) :
    node.relabel left = node.relabel right := by
  unfold ResourceNode.relabel
  congr 1
  exact List.map_congr_left fun access member => by rw [agree access member]

namespace FrameGraph.Regrouped

variable {origin middle graph : FrameGraph}
  {classes inner outer : List (List Nat)}

section

variable (regrouped : origin.Regrouped classes graph)
include regrouped

/-- Relabelling the logs of both sides again keeps them equal. -/
theorem relabel_resources
    (label : Nat → Nat) :
    graph.resources.map (ResourceNode.relabel label) =
      origin.resources.map
        (ResourceNode.relabel fun old => label (classOf classes old)) := by
  have equal := congrArg (List.map (ResourceNode.relabel label))
    regrouped.resources
  simpa [Function.comp_def, ResourceNode.relabel_relabel] using equal

theorem exists_origin
    {node : ResourceNode} (member : node ∈ graph.resources) :
    ∃ old ∈ origin.resources,
      node.relabel id = old.relabel (classOf classes) := by
  have listed : node.relabel id ∈
      origin.resources.map (ResourceNode.relabel (classOf classes)) :=
    regrouped.resources ▸ List.mem_map_of_mem member
  obtain ⟨old, oldMember, equal⟩ := List.mem_map.mp listed
  exact ⟨old, oldMember, equal.symm⟩

theorem wellFormed
    (wellFormed : origin.WellFormed) : graph.WellFormed where
  forward edge member := by
    have step : graph.DependsStep edge.srcPass edge.dstPass :=
      ⟨edge, member, rfl, rfl⟩
    exact regrouped.regrouping.relabelled_lt wellFormed.within
      ((regrouped.depends _ _).mp step)
  inside edge member := by
    have step : graph.DependsStep edge.srcPass edge.dstPass :=
      ⟨edge, member, rfl, rfl⟩
    rw [regrouped.length]
    exact (regrouped.regrouping.relabelled_within wellFormed.within _ _
      ((regrouped.depends _ _).mp step)).2
  ranges := regrouped.ranges
  accesses node member access logged := by
    obtain ⟨old, oldMember, equal⟩ := regrouped.exists_origin member
    have logs := congrArg ResourceNode.accesses equal
    simp only [ResourceNode.relabel, id_eq, List.map_id'] at logs
    rw [logs] at logged
    obtain ⟨oldAccess, oldLogged, rfl⟩ := List.mem_map.mp logged
    rw [regrouped.length]
    exact regrouped.regrouping.classOf_lt
      (wellFormed.accesses old oldMember oldAccess oldLogged)

theorem depends_eq :
    graph.DependsStep = Relabelled classes origin.DependsStep := by
  funext source target
  exact propext (regrouped.depends source target)

end

theorem comp (first : origin.Regrouped inner middle)
    (second : middle.Regrouped outer graph)
    (wellFormed : origin.WellFormed) :
    origin.Regrouped (expand outer inner) graph := by
  have outerGroups : Regrouping outer inner.length
        (Relabelled inner origin.DependsStep) := by
    rw [← first.length, ← first.depends_eq]
    exact second.regrouping
  have expandLength : (expand outer inner).length = outer.length := by
    simp [expand]
  have expandAt : ∀ index, classAt (expand outer inner) index =
      (classAt outer index).flatMap (classAt inner) := by
    intro index
    by_cases bound : index < outer.length <;>
      simp [classAt, expand, bound]
  have middleInside : ∀ index, ∀ position ∈ classAt outer index,
      position < inner.length := fun index position member =>
    outerGroups.lt_of_mem member
  refine
    { regrouping := first.regrouping.comp outerGroups
      length := second.length.trans expandLength.symm
      depends := ?_
      commands := ?_
      leader := ?_
      uniform := ?_
      resources := ?_
      ranges := second.ranges }
  · intro source target
    rw [second.depends, first.depends_eq]
    exact Regrouping.relabelled_expand first.regrouping outerGroups
      wellFormed.within source target
  · intro index bound
    rw [second.commands index (expandLength ▸ bound), expandAt,
      List.flatMap_assoc]
    refine List.flatMap_congr fun position member => ?_
    exact first.commands position (middleInside index position member)
  · intro index bound
    obtain ⟨position, others, listed, header⟩ :=
      second.leader index (expandLength ▸ bound)
    have inside : position < inner.length :=
      middleInside index position (listed ▸ List.mem_cons_self)
    obtain ⟨leading, rest, innerListed, innerHeader⟩ :=
      first.leader position inside
    refine ⟨leading, rest ++ others.flatMap (classAt inner), ?_,
      header.trans innerHeader⟩
    rw [expandAt, listed, List.flatMap_cons, innerListed, List.cons_append]
  · intro index bound old member
    rw [expandAt, List.mem_flatMap] at member
    rcases member with ⟨position, listed, owned⟩
    rw [first.uniform position (middleInside index position listed) old owned]
    exact second.uniform index (expandLength ▸ bound) position listed
  · rw [second.resources, first.relabel_resources]
    refine List.map_congr_left fun node member => ?_
    refine ResourceNode.relabel_congr fun access logged => ?_
    exact (Regrouping.classOf_expand first.regrouping outerGroups
      (wellFormed.accesses node member access logged)).symm

end FrameGraph.Regrouped

/-- Two graphs that differ only in derived fields of passes and resources. -/
structure FrameGraph.SameShape (origin graph : FrameGraph) : Prop where
  passes : ∀ index, (graph.pass index).header = (origin.pass index).header
  length : graph.passes.length = origin.passes.length
  commandRange : ∀ index,
    (graph.pass index).commands = (origin.pass index).commands
  drawRange : ∀ index,
    (graph.pass index).draws = (origin.pass index).draws
  resources : graph.resources.map (ResourceNode.relabel id) =
    origin.resources.map (ResourceNode.relabel id)
  edges : graph.edges = origin.edges
  draws : graph.draws = origin.draws
  commands : graph.commands = origin.commands

variable {pass : PassNode}

theorem FrameGraph.exists_pass_eq
    (member : pass ∈ graph.passes) :
    ∃ index < graph.passes.length, pass = graph.pass index := by
  obtain ⟨index, bound, equal⟩ := List.mem_iff_getElem.mp member
  exact ⟨index, bound, by simp [FrameGraph.pass, bound, equal]⟩

theorem FrameGraph.pass_mem {index : Nat}
    (bound : index < graph.passes.length) :
    graph.pass index ∈ graph.passes := by
  simp [FrameGraph.pass, bound]

theorem FrameGraph.map_pass_range (graph : FrameGraph) :
    (List.range graph.passes.length).map graph.pass = graph.passes := by
  apply List.ext_getElem (by simp)
  intro index _ bound
  simp [FrameGraph.pass, bound]

variable {origin : FrameGraph}

/-- An order-neutral pass regroups along singletons. -/
theorem FrameGraph.SameShape.regrouped
    (same : origin.SameShape graph) (wellFormed : origin.WellFormed) :
    origin.Regrouped (singletons origin.passes.length) graph := by
  have groups : Regrouping (singletons origin.passes.length)
      origin.passes.length origin.DependsStep :=
    Regrouping.identity wellFormed.step_forward
  have classLabel : ∀ {position}, position < origin.passes.length →
      classOf (singletons origin.passes.length) position = position :=
    fun inside => groups.classOf_eq
      (classAt_singletons inside ▸ List.mem_singleton_self _)
  refine
    { regrouping := groups
      length := by rw [same.length]; simp [singletons]
      depends := ?_
      commands := ?_
      leader := ?_
      uniform := ?_
      resources := ?_
      ranges := ?_ }
  · intro source target
    have sameStep : graph.DependsStep = origin.DependsStep := by
      funext first second
      simp only [FrameGraph.DependsStep, same.edges]
    rw [sameStep]
    constructor
    · intro step
      obtain ⟨sourceInside, targetInside⟩ := wellFormed.within _ _ step
      exact ⟨(wellFormed.step_forward step).ne, source, target, step,
        classLabel sourceInside, classLabel targetInside⟩
    · rintro ⟨_, oldSource, oldTarget, step, rfl, rfl⟩
      obtain ⟨sourceInside, targetInside⟩ := wellFormed.within _ _ step
      rwa [classLabel sourceInside, classLabel targetInside]
  · intro index bound
    have inside : index < origin.passes.length := by
      simpa [singletons] using bound
    rw [classAt_singletons inside]
    simp [FrameGraph.commandsOf, same.commandRange, same.commands]
  · intro index bound
    have inside : index < origin.passes.length := by
      simpa [singletons] using bound
    exact ⟨index, [], classAt_singletons inside, same.passes index⟩
  · intro index bound old member
    have inside : index < origin.passes.length := by
      simpa [singletons] using bound
    rw [classAt_singletons inside, List.mem_singleton] at member
    exact member ▸ (PassNode.mergeKey_of_header (same.passes index)).symm
  · rw [same.resources]
    refine List.map_congr_left fun node member => ?_
    refine ResourceNode.relabel_congr fun access logged => ?_
    exact (classLabel (wellFormed.accesses node member access logged)).symm
  · intro pass member
    obtain ⟨index, bound, rfl⟩ := FrameGraph.exists_pass_eq member
    have valid := wellFormed.ranges (origin.pass index)
      (FrameGraph.pass_mem (same.length ▸ bound))
    simpa [validRanges, validCommandRange, validDrawRange,
      same.commandRange, same.drawRange, same.commands, same.draws]
      using valid

theorem FrameGraph.WellFormed.regrouped_self
    (wellFormed : graph.WellFormed) :
    graph.Regrouped (singletons graph.passes.length) graph :=
  FrameGraph.SameShape.regrouped
    ⟨fun _ => rfl, rfl, fun _ => rfl, fun _ => rfl, rfl, rfl, rfl, rfl⟩
    wellFormed

theorem FrameGraph.Regrouped.exists_flags {classes : List (List Nat)}
    (regrouped : origin.Regrouped classes graph)
    (member : pass ∈ graph.passes) :
    ∃ old ∈ origin.passes, pass.flags = old.flags := by
  obtain ⟨index, bound, rfl⟩ := FrameGraph.exists_pass_eq member
  rw [regrouped.length] at bound
  obtain ⟨first, rest, listed, header⟩ := regrouped.leader index bound
  have inside : first < origin.passes.length :=
    regrouped.regrouping.lt_of_mem (listed ▸ List.mem_cons_self)
  exact ⟨origin.pass first, FrameGraph.pass_mem inside,
    congrArg (fun pass => pass.flags) header⟩

end Dxmt9.Framegraph
