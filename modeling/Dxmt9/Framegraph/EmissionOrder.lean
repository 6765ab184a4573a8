import Dxmt9.Framegraph.OptimizerSound

/-!
# Where the passes go after elimination

Reorder and load/store selection never look at the fate of a pass.  They
permute the passes along an emission order that is determined by kinds,
targets and edges alone, and they rewrite nothing of a pass but its load/store
policy.
-/

namespace Dxmt9.Framegraph

open Dxmt9.Order

/-- The order in which reorder emits the passes. -/
def emissionOrder (graph : FrameGraph) (reorder : Bool) : List Nat :=
  if reorder = false ∨ graph.passes.length < 2 then
    List.range graph.passes.length
  else
    match reorderSteps graph graph.passes.length
        (initialReorderState graph) with
    | none => List.range graph.passes.length
    | some final => final.newOrder

variable {graph : FrameGraph}

theorem reorderSteps_inside (steps : Nat)
    {state final : ReorderState}
    (finished : reorderSteps graph steps state = some final)
    (inside : ∀ p ∈ state.newOrder, p < graph.passes.length) :
    ∀ p ∈ final.newOrder, p < graph.passes.length := by
  induction steps generalizing state with
  | zero =>
      simp only [reorderSteps, Option.some.injEq] at finished
      exact finished ▸ inside
  | succ steps induction =>
      unfold reorderSteps at finished
      split at finished
      · contradiction
      · rename_i best selected
        apply induction finished
        intro p member
        rcases List.mem_append.mp member with old | new
        · exact inside p old
        · exact List.mem_singleton.mp new ▸ (selectReady_ready selected).1

theorem emissionOrder_inside (graph : FrameGraph) (reorder : Bool) :
    ∀ p ∈ emissionOrder graph reorder, p < graph.passes.length := by
  unfold emissionOrder
  split
  · exact fun p member => List.mem_range.mp member
  · split
    · exact fun p member => List.mem_range.mp member
    · rename_i final finished
      apply reorderSteps_inside _ finished
      simp [initialReorderState]

/-- The order lists every pass once. -/
theorem emissionOrder_perm
    (edges : graph.EdgesForward) (reorder : Bool) :
    (emissionOrder graph reorder).Perm
      (List.range graph.passes.length) := by
  unfold emissionOrder
  split
  · exact List.Perm.refl _
  · split
    · exact List.Perm.refl _
    · rename_i final finished
      have complete := (reorder_regrouping edges finished).complete
      rwa [flatten_alone] at complete

/-- The passes before load/store selection stand in emission order. -/
theorem reordered_passes (graph : FrameGraph) (reorder : Bool) :
    (if reorder then runReorder graph else graph).passes =
      (emissionOrder graph reorder).map graph.pass := by
  unfold emissionOrder
  cases reorder with
  | false => simp [graph.map_pass_range]
  | true =>
      simp only [if_true, runReorder]
      by_cases small : graph.passes.length < 2
      · simp [small, graph.map_pass_range]
      · simp only [small, if_false, or_false, Bool.true_eq_false]
        cases reorderSteps graph graph.passes.length
            (initialReorderState graph) with
        | none => exact (graph.map_pass_range).symm
        | some final => rfl

theorem reordered_commands (graph : FrameGraph) (reorder : Bool) :
    (if reorder then runReorder graph else graph).commands =
      graph.commands := by
  cases reorder with
  | false => rfl
  | true =>
      simp only [if_true, runReorder]
      split
      · rfl
      · split <;> rfl

theorem runAfterDce_passes (graph : FrameGraph)
    (options : OptimizerOptions) :
    ∃ policy : Nat → LoadStorePolicy,
      (runAfterDce graph options).passes =
        (emissionOrder graph options.reorder).mapIdx fun index old =>
          { graph.pass old with loadStore := policy index } := by
  have before := reordered_passes graph options.reorder
  unfold runAfterDce runLoadStore
  generalize (if options.reorder then runReorder graph else graph) =
    reordered at before ⊢
  refine ⟨fun index =>
    if (reordered.pass index).kind = .render then
      loadStoreFor reordered index (reordered.pass index).targets
    else (reordered.pass index).loadStore, ?_⟩
  apply List.ext_getElem
  · simp [before]
  · intro index left right
    have inside : index < reordered.passes.length := by simpa using left
    have ordered : index < (emissionOrder graph options.reorder).length := by
      simpa using right
    have equal : reordered.pass index =
        graph.pass (emissionOrder graph options.reorder)[index] := by
      simp [FrameGraph.pass, before, ordered]
    have atIndex : reordered.passes[index] = reordered.pass index := by
      simp [FrameGraph.pass, inside]
    simp only [List.getElem_mapIdx, atIndex]
    split <;> rw [← equal]

theorem runAfterDce_read {α : Type*} (graph : FrameGraph)
    (options : OptimizerOptions) (read : PassNode → α)
    (blind : ∀ pass policy,
      read { pass with loadStore := policy } = read pass) :
    (runAfterDce graph options).passes.map read =
      (emissionOrder graph options.reorder).map fun p =>
        read (graph.pass p) := by
  rcases runAfterDce_passes graph options with ⟨policy, passes⟩
  rw [passes]
  apply List.ext_getElem
  · simp
  · intro index _ _
    simp only [List.getElem_map, List.getElem_mapIdx, blind]

theorem runAfterDce_commands (graph : FrameGraph)
    (options : OptimizerOptions) :
    (runAfterDce graph options).commands = graph.commands :=
  reordered_commands graph options.reorder

/-- Graphs that the sort cannot tell apart. -/
structure FrameGraph.SameSort (left right : FrameGraph) : Prop where
  length : left.passes.length = right.passes.length
  edges : left.edges = right.edges
  kind : ∀ p, (left.pass p).kind = (right.pass p).kind
  targets : ∀ p, (left.pass p).targets = (right.pass p).targets

namespace FrameGraph.SameSort

variable {left right : FrameGraph}

section

variable (same : left.SameSort right)
include same

theorem sortEdges : sortEdges left = sortEdges right := by
  simp only [Framegraph.sortEdges, same.length, same.edges]

theorem selectReady (state : ReorderState) :
    selectReady left state = selectReady right state := by
  have cost : emissionCost left state = emissionCost right state := by
    funext p
    unfold emissionCost
    split
    · rfl
    · simp only [transitionCost, same.kind, same.targets]
  have choice : cheaper left state = cheaper right state := by
    funext best p
    simp only [cheaper, cost]
  simp only [Framegraph.selectReady, same.length, choice]

theorem reorderSteps (steps : Nat)
    (state : ReorderState) :
    reorderSteps left steps state = reorderSteps right steps state := by
  induction steps generalizing state with
  | zero => rfl
  | succ steps induction =>
      simp only [Framegraph.reorderSteps, same.selectReady state,
        emitPass, same.sortEdges, induction]

theorem emissionOrder (reorder : Bool) :
    emissionOrder left reorder = emissionOrder right reorder := by
  have start : initialReorderState left = initialReorderState right := by
    simp only [initialReorderState, same.length, same.sortEdges]
  simp only [Framegraph.emissionOrder, same.length, start, same.reorderSteps]

end

end FrameGraph.SameSort

/-! ## Fates -/

/-- Is the pass dead once elimination has run? -/
def diesUnder (graph : FrameGraph) (lookahead : DceLookaheadProof)
    (p : Nat) : Bool :=
  (dcePass graph lookahead p (graph.pass p)).flags.dead

/-- Elimination changes nothing of a pass but its fate. -/
theorem dcePass_eq (graph : FrameGraph) (lookahead : DceLookaheadProof)
    (p : Nat) (pass : PassNode) :
    ∃ dead, dcePass graph lookahead p pass =
      { pass with flags := { pass.flags with dead := dead } } := by
  unfold dcePass
  split
  · exact ⟨true, rfl⟩
  · exact ⟨pass.flags.dead, rfl⟩

@[simp] theorem dcePass_kind (graph : FrameGraph)
    (lookahead : DceLookaheadProof) (p : Nat) (pass : PassNode) :
    (dcePass graph lookahead p pass).kind = pass.kind := by
  rcases dcePass_eq graph lookahead p pass with ⟨_, equal⟩
  rw [equal]

@[simp] theorem dcePass_targets (graph : FrameGraph)
    (lookahead : DceLookaheadProof) (p : Nat) (pass : PassNode) :
    (dcePass graph lookahead p pass).targets = pass.targets := by
  rcases dcePass_eq graph lookahead p pass with ⟨_, equal⟩
  rw [equal]

@[simp] theorem dcePass_commands (graph : FrameGraph)
    (lookahead : DceLookaheadProof) (p : Nat) (pass : PassNode) :
    (dcePass graph lookahead p pass).commands = pass.commands := by
  rcases dcePass_eq graph lookahead p pass with ⟨_, equal⟩
  rw [equal]

theorem eliminatedGraph_pass (graph : FrameGraph)
    (lookahead : DceLookaheadProof) {p : Nat}
    (inside : p < graph.passes.length) :
    (eliminatedGraph graph lookahead).pass p =
      dcePass graph lookahead p (graph.pass p) :=
  pass_mapIdx graph _ inside

/-- Elimination kills exactly the passes that its decision drops. -/
theorem diesUnder_eq (graph : FrameGraph) (lookahead : DceLookaheadProof)
    (p : Nat) :
    diesUnder graph lookahead p =
      ((graph.pass p).flags.dead ||
        decide (dceDecision graph lookahead p (graph.pass p) = .drop)) := by
  unfold diesUnder dcePass
  split
  · rename_i dropped
    simp [dropped]
  · rename_i kept
    simp [kept]

theorem eliminatedGraph_passCommands (graph : FrameGraph)
    (lookahead : DceLookaheadProof) (q : Nat) :
    (eliminatedGraph graph lookahead).passCommands q =
      graph.passCommands q := by
  by_cases inside : q < graph.passes.length
  · simp only [FrameGraph.passCommands, FrameGraph.commandsOf]
    rw [eliminatedGraph_pass graph lookahead inside, dcePass_commands]
    rfl
  · have outside := Nat.le_of_not_lt inside
    simp only [FrameGraph.passCommands, FrameGraph.commandsOf]
    rw [pass_of_le outside, pass_of_le
      (by simpa [eliminatedGraph] using outside)]
    rfl

theorem eliminatedGraph_edgesForward
    (edges : graph.EdgesForward) (lookahead : DceLookaheadProof) :
    (eliminatedGraph graph lookahead).EdgesForward where
  forward := edges.forward
  inside edge member := by
    simpa [eliminatedGraph] using edges.inside edge member

theorem eliminatedGraph_sameSort (graph : FrameGraph)
    (lookahead : DceLookaheadProof) :
    (eliminatedGraph graph lookahead).SameSort graph where
  length := by simp [eliminatedGraph]
  edges := rfl
  kind p := by
    by_cases inside : p < graph.passes.length
    · rw [eliminatedGraph_pass graph lookahead inside, dcePass_kind]
    · rw [pass_of_le (Nat.le_of_not_lt inside), pass_of_le (by
        simpa [eliminatedGraph] using Nat.le_of_not_lt inside)]
  targets p := by
    by_cases inside : p < graph.passes.length
    · rw [eliminatedGraph_pass graph lookahead inside, dcePass_targets]
    · rw [pass_of_le (Nat.le_of_not_lt inside), pass_of_le (by
        simpa [eliminatedGraph] using Nat.le_of_not_lt inside)]

/-- The same with the fates that elimination decides. -/
theorem runAfterDce_map {α : Type*} (graph : FrameGraph)
    (options : OptimizerOptions) (lookahead : DceLookaheadProof)
    (read : PassNode → α)
    (blind : ∀ pass policy,
      read { pass with loadStore := policy } = read pass) :
    (runAfterDce (eliminatedGraph graph lookahead) options).passes.map
        read =
      (emissionOrder graph options.reorder).map fun p =>
        read (dcePass graph lookahead p (graph.pass p)) := by
  rw [runAfterDce_read _ _ read blind,
    (eliminatedGraph_sameSort graph lookahead).emissionOrder]
  apply List.map_congr_left
  intro p listed
  rw [eliminatedGraph_pass graph lookahead
    (emissionOrder_inside graph options.reorder p listed)]

section

variable (edges : graph.EdgesForward) (options : OptimizerOptions)
include edges options

theorem runAfterDce_perm {α : Type*}
    (read : PassNode → α)
    (blind : ∀ pass policy,
      read { pass with loadStore := policy } = read pass) :
    ((runAfterDce graph options).passes.map read).Perm
      (graph.passes.map read) := by
  rw [runAfterDce_read graph options read blind]
  have listed := (emissionOrder_perm edges options.reorder).map fun p =>
    read (graph.pass p)
  refine listed.trans (List.Perm.of_eq ?_)
  conv_rhs => rw [← graph.map_pass_range]
  rw [List.map_map]
  rfl

/-- The final passes have the fates and the commands of the old ones. -/
theorem exists_runAfterDce_pass (dead : Bool)
    (commands : List Nat) :
    (∃ q < (runAfterDce graph options).passes.length,
        ((runAfterDce graph options).pass q).flags.dead = dead ∧
          (runAfterDce graph options).passCommands q = commands) ↔
      ∃ p < graph.passes.length, (graph.pass p).flags.dead = dead ∧
        graph.passCommands p = commands := by
  have permuted := runAfterDce_perm edges options
    (fun pass => (pass.flags.dead,
      (graph.commandsOf pass).map CommandRef.commandIndex))
    fun _ _ => rfl
  have same := permuted.mem_iff (a := (dead, commands))
  have entries : ∀ other : FrameGraph, other.commands = graph.commands →
      ((dead, commands) ∈ other.passes.map (fun pass => (pass.flags.dead,
          (graph.commandsOf pass).map CommandRef.commandIndex)) ↔
        ∃ p < other.passes.length, (other.pass p).flags.dead = dead ∧
          other.passCommands p = commands) := by
    intro other shared
    rw [List.mem_map]
    simp only [Prod.mk.injEq, FrameGraph.passCommands,
      FrameGraph.commandsOf, shared]
    constructor
    · rintro ⟨pass, member, equal⟩
      rcases FrameGraph.exists_pass_eq member with ⟨p, bound, rfl⟩
      exact ⟨p, bound, equal⟩
    · rintro ⟨p, bound, equal⟩
      exact ⟨other.pass p, FrameGraph.pass_mem bound, equal⟩
  rw [← entries _ (runAfterDce_commands graph options), same,
    entries graph rfl]

end

end Dxmt9.Framegraph
