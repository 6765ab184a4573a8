import Dxmt9.Framegraph.CoalesceSound
import Dxmt9.Framegraph.ReorderSound

/-!
# The pipeline regroups the graph

The resulting graph of every stage is described without its counters.  Up to
dead-pass elimination, and again after it, the pipeline regroups its input.
-/

namespace Dxmt9.Framegraph

open Dxmt9.Order

theorem FrameGraph.SameShape.refl (graph : FrameGraph) :
    graph.SameShape graph where
  passes _ := rfl
  length := rfl
  commandRange _ := rfl
  drawRange _ := rfl
  resources := rfl
  edges := rfl
  draws := rfl
  commands := rfl

theorem sameShape_of_resources (graph : FrameGraph)
    (update : ResourceNode → ResourceNode)
    (derived : ∀ node, (update node).relabel id = node.relabel id) :
    graph.SameShape
      { graph with resources := graph.resources.map update } :=
  { FrameGraph.SameShape.refl graph with
    resources := by simp [Function.comp_def, derived] }

theorem runLifetime_sameShape (graph : FrameGraph) :
    graph.SameShape (runLifetime graph) := by
  refine sameShape_of_resources graph recomputeLifetime fun node => ?_
  unfold recomputeLifetime ResourceNode.relabel
  split <;> rfl

theorem classifyMemoryless_relabel
    (observations : List MemorylessObservation) (threshold : Nat)
    (node : ResourceNode) :
    (classifyMemoryless observations threshold node).1.relabel id =
      node.relabel id := by
  unfold classifyMemoryless
  simp only
  repeat' split
  all_goals rfl

variable {index : Nat}

theorem pass_mapIdx (graph : FrameGraph) (update : Nat → PassNode → PassNode)
    (bound : index < graph.passes.length) :
    ({ graph with passes := graph.passes.mapIdx update } :
      FrameGraph).pass index = update index (graph.pass index) := by
  simp [FrameGraph.pass, bound]

variable {graph : FrameGraph}

theorem pass_of_le
    (outside : graph.passes.length ≤ index) :
    graph.pass index = default := by
  simp [FrameGraph.pass, outside]

theorem runLoadStore_sameShape (graph : FrameGraph) :
    graph.SameShape (runLoadStore graph) := by
  have eachPass : ∀ index, ∃ policy, (runLoadStore graph).pass index =
        { graph.pass index with loadStore := policy } := by
    intro index
    by_cases bound : index < graph.passes.length
    · rw [runLoadStore, pass_mapIdx graph _ bound]
      split
      · exact ⟨_, rfl⟩
      · exact ⟨_, rfl⟩
    · have outside := Nat.le_of_not_lt bound
      have updatedOutside : (runLoadStore graph).passes.length ≤ index := by
        simpa [runLoadStore] using outside
      rw [pass_of_le outside, pass_of_le updatedOutside]
      exact ⟨_, rfl⟩
  refine
    { FrameGraph.SameShape.refl graph with
      passes := ?_
      length := by simp [runLoadStore]
      commandRange := ?_
      drawRange := ?_ }
  · intro index
    obtain ⟨policy, equal⟩ := eachPass index
    rw [equal]
    rfl
  · intro index
    obtain ⟨policy, equal⟩ := eachPass index
    rw [equal]
  · intro index
    obtain ⟨policy, equal⟩ := eachPass index
    rw [equal]

/-- The graph after the coalescing stage. -/
def coalescedGraph (graph : FrameGraph) (passcoalesce : Bool) :
    FrameGraph :=
  if passcoalesce then
    runLifetime
      (mergeFixpoint GraphQueries.reaches
        (runLifetime graph).passes.length (runLifetime graph))
  else runLifetime graph

/-- The graph that dead-pass elimination receives. -/
def classifiedGraph (graph : FrameGraph) (options : OptimizerOptions)
    (observations : List MemorylessObservation) : FrameGraph :=
  let coalesced := coalescedGraph graph options.passcoalesce
  if options.memoryless then
    { coalesced with
      resources := coalesced.resources.map fun node =>
        (classifyMemoryless observations
          options.memorylessObservationFrames node).1 }
  else coalesced

/-- The graph after dead passes are marked. -/
def eliminatedGraph (graph : FrameGraph) (lookahead : DceLookaheadProof) :
    FrameGraph :=
  { graph with passes := graph.passes.mapIdx (dcePass graph lookahead) }

theorem runPassCoalesce_fst (queries : FrameGraph → Nat → Nat → Bool)
    (graph : FrameGraph) (report : OptimizerReport) (collect : Bool) :
    (runPassCoalesce queries graph report collect).1 =
      runLifetime (mergeFixpoint queries graph.passes.length graph) :=
  congrArg runLifetime (coalesceFixpoint_fst queries _ graph _)

/-- No counter, tracker or witness influences the classified graph. -/
theorem runBeforeDce_fst (graph : FrameGraph) (options : OptimizerOptions)
    (inputs : OptimizerInputs) :
    (runBeforeDce graph options inputs).1 =
      classifiedGraph graph options inputs.observations := by
  have coalesced : (if options.passcoalesce then
        runPassCoalesce GraphQueries.reaches (runLifetime graph)
          inputs.report options.collectPasscoalesceReturnDiagnostics
      else (runLifetime graph, inputs.report)).1 =
        coalescedGraph graph options.passcoalesce := by
    unfold coalescedGraph
    split
    · exact runPassCoalesce_fst _ _ _ _
    · rfl
  unfold runBeforeDce classifiedGraph
  simp only
  rw [← coalesced]
  split
  · simp [markMemorylessCandidates, Function.comp_def]
  · rfl

theorem optimize_eq (graph : FrameGraph) (options : OptimizerOptions)
    (inputs : OptimizerInputs) :
    optimize graph options inputs =
      runAfterDce
        (if options.dce then
          eliminatedGraph
            (classifiedGraph graph options inputs.observations)
            inputs.lookahead
        else classifiedGraph graph options inputs.observations)
        options := by
  unfold optimize runOptimizer
  simp only
  rw [← runBeforeDce_fst]
  split
  · rfl
  · rfl

section

variable (wellFormed : graph.WellFormed)
include wellFormed

theorem coalescedGraph_regrouped (passcoalesce : Bool) :
    ∃ classes,
      graph.Regrouped classes (coalescedGraph graph passcoalesce) := by
  have lifetime := (runLifetime_sameShape graph).regrouped wellFormed
  have lifetimeFormed := lifetime.wellFormed wellFormed
  unfold coalescedGraph
  split
  · obtain ⟨classes, merged⟩ :=
      mergeFixpoint_regrouped graphQueries_answersPaths
        (runLifetime graph).passes.length (runLifetime graph)
        lifetimeFormed
    have mergedFormed := merged.wellFormed lifetimeFormed
    have spans := (runLifetime_sameShape _).regrouped mergedFormed
    exact ⟨_, lifetime.comp (merged.comp spans lifetimeFormed) wellFormed⟩
  · exact ⟨_, lifetime⟩

section

variable (options : OptimizerOptions)
include options

theorem classifiedGraph_regrouped
    (observations : List MemorylessObservation) :
    ∃ classes, graph.Regrouped classes
      (classifiedGraph graph options observations) := by
  obtain ⟨classes, coalesced⟩ :=
    coalescedGraph_regrouped wellFormed options.passcoalesce
  unfold classifiedGraph
  simp only
  split
  · have marked := (sameShape_of_resources _
      (fun node => (classifyMemoryless observations
        options.memorylessObservationFrames node).1)
      (classifyMemoryless_relabel observations _)).regrouped
        (coalesced.wellFormed wellFormed)
    exact ⟨_, coalesced.comp marked wellFormed⟩
  · exact ⟨_, coalesced⟩

theorem runAfterDce_regrouped :
    ∃ classes, graph.Regrouped classes (runAfterDce graph options) := by
  have reordered : ∃ classes, graph.Regrouped classes
      (if options.reorder then runReorder graph else graph) := by
    split
    · exact runReorder_regrouped wellFormed
    · exact ⟨_, wellFormed.regrouped_self⟩
  obtain ⟨classes, reordered⟩ := reordered
  have policies := (runLoadStore_sameShape _).regrouped
    (reordered.wellFormed wellFormed)
  exact ⟨_, reordered.comp policies wellFormed⟩

/-- Without dead-pass elimination the whole pipeline regroups its input. -/
theorem optimize_regrouped
    (inputs : OptimizerInputs) (noDce : options.dce = false) :
    ∃ classes,
      graph.Regrouped classes (optimize graph options inputs) := by
  rw [optimize_eq, noDce]
  obtain ⟨classes, classified⟩ :=
    classifiedGraph_regrouped wellFormed options inputs.observations
  obtain ⟨order, after⟩ :=
    runAfterDce_regrouped (classified.wellFormed wellFormed) options
  exact ⟨_, classified.comp after wellFormed⟩

end

end

end Dxmt9.Framegraph
