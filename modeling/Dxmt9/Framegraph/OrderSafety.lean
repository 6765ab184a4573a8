import Dxmt9.Framegraph.BuiltGraph
import Dxmt9.Framegraph.OptimizerSound
import Dxmt9.Framegraph.ReplayPlan
import Dxmt9.Order.Precedes

/-!
# Order safety of the optimizer

Without dead-pass elimination a valid replay plan lists every source command
once, keeps the commands of one built pass in source order and keeps the
commands of two conflicting passes in source order.
-/

namespace Dxmt9.Framegraph

open Relation
open Dxmt9.Order

variable {graph : FrameGraph}

theorem liveIndices_of_live
    (live : ∀ pass ∈ graph.passes, pass.flags.dead = false) :
    liveIndices (ownedReferences graph) =
      (List.range graph.passes.length).flatMap graph.passCommands := by
  rw [liveIndices_owned]
  conv_lhs => rw [← graph.map_pass_range]
  rw [List.flatMap_map]
  apply List.flatMap_congr
  intro index member
  have inside := FrameGraph.pass_mem (List.mem_range.mp member)
  simp [liveCommands, live _ inside, FrameGraph.passCommands]

variable {origin : FrameGraph} {classes : List (List Nat)}

theorem FrameGraph.Regrouped.flatMap_passCommands
    (regrouped : origin.Regrouped classes graph) :
    (List.range graph.passes.length).flatMap graph.passCommands =
      classes.flatten.flatMap origin.passCommands := by
  rw [regrouped.length, ← flatMap_classAt, List.flatMap_assoc]
  refine List.flatMap_congr fun index member => ?_
  have bound := List.mem_range.mp member
  simp only [FrameGraph.passCommands, regrouped.commands index bound,
    List.map_flatMap]
  rfl

theorem replay_of_regrouped {payload : SourcePayloadView}
    (built : origin.Built) (regrouped : origin.Regrouped classes graph)
    (valid : (planReplayCommands graph payload).valid = true) :
    (planReplayCommands graph payload).commandIndices =
        classes.flatten.flatMap origin.passCommands ∧
      (planReplayCommands graph payload).commandIndices.Perm
        (List.range payload.commandCount) := by
  have live : ∀ pass ∈ graph.passes, pass.flags.dead = false := by
    intro pass member
    obtain ⟨old, oldMember, flags⟩ := regrouped.exists_flags member
    rw [flags, built.unflagged old oldMember]
  have once := planReplayCommands_valid valid
  have listed := once.indices
  rw [liveIndices_of_live live, regrouped.flatMap_passCommands] at listed
  refine ⟨listed, ?_⟩
  have all : liveIndices (ownedReferences graph) =
      (ownedReferences graph).map fun reference =>
        reference.2.commandIndex := by
    rw [liveIndices, List.filter_eq_self.mpr]
    intro reference member
    obtain ⟨pass, inGraph, owned⟩ := List.mem_flatMap.mp member
    obtain ⟨ref, _, rfl⟩ := List.mem_map.mp owned
    simp [live pass inGraph]
  rw [once.indices, all]
  exact once.complete

/--
`graph` has `offset` additional passes in front of `origin`.

They own no commands, and every other pass keeps its commands and its
dependencies.
-/
structure FrameGraph.Prefixed (origin : FrameGraph) (offset : Nat)
    (graph : FrameGraph) : Prop where
  wellFormed : graph.WellFormed
  length : graph.passes.length = origin.passes.length + offset
  head : ∀ index < offset, graph.passCommands index = []
  tail : ∀ index, graph.passCommands (index + offset) =
    origin.passCommands index
  depends : ∀ {source target}, origin.DependsStep source target →
    graph.DependsStep (source + offset) (target + offset)
  live : ∀ pass ∈ graph.passes, pass.flags.dead = false
  seeded : ∀ index < graph.passes.length,
    (graph.pass index).flags.activeRenderSeed = true → index < offset

theorem FrameGraph.Built.prefixed
    (built : graph.Built) : graph.Prefixed 0 graph where
  wellFormed := built.toWellFormed
  length := rfl
  head _ bound := absurd bound (Nat.not_lt_zero _)
  tail _ := rfl
  depends step := step
  live pass member := by rw [built.unflagged pass member]
  seeded index bound flagged := by
    rw [built.unflagged _ (FrameGraph.pass_mem bound)] at flagged
    contradiction

namespace FrameGraph.Prefixed

variable {origin graph : FrameGraph} {offset : Nat}
  {classes : List (List Nat)}

variable {pass : Nat}

theorem mem_flatten (prefixed : origin.Prefixed offset graph)
    (regrouping : Regrouping classes graph.passes.length graph.DependsStep) (inside : pass < origin.passes.length) :
    pass + offset ∈ classes.flatten := by
  apply regrouping.complete.mem_iff.mpr
  rw [List.mem_range, prefixed.length]
  exact Nat.add_lt_add_right inside offset

variable {first second : Nat}

section

variable (prefixed : origin.Prefixed offset graph)
include prefixed

theorem pass_precedes
    (built : origin.Built)
    (regrouping : Regrouping classes graph.passes.length graph.DependsStep) (firstOwned : first ∈ origin.passCommands pass)
    (secondOwned : second ∈ origin.passCommands pass)
    (ordered : first < second) :
    Precedes (classes.flatten.flatMap graph.passCommands) first second := by
  have inOrder : Precedes (graph.passCommands (pass + offset)) first
      second := by
    rw [prefixed.tail]
    exact precedes_of_pairwise
      ((built.passCommands_increasing pass).imp Nat.lt_asymm)
      firstOwned secondOwned ordered.ne ordered
  exact inOrder.mono (sublist_flatMap_of_mem (prefixed.mem_flatten
    regrouping (FrameGraph.lt_of_mem_passCommands firstOwned)))

theorem path
    {source target : Nat}
    (path : ReflTransGen origin.DependsStep source target) :
    ReflTransGen graph.DependsStep (source + offset) (target + offset) :=
  ReflTransGen.lift (· + offset) (fun _ _ step => prefixed.depends step)
    _ _ path

theorem conflict_precedes
    (built : origin.Built)
    (regrouping : Regrouping classes graph.passes.length graph.DependsStep)
    {firstPass secondPass : Nat}
    (different : firstPass ≠ secondPass)
    (conflict : origin.Conflict firstPass secondPass)
    (firstOwned : first ∈ origin.passCommands firstPass)
    (secondOwned : second ∈ origin.passCommands secondPass)
    (ordered : first < second) :
    Precedes (classes.flatten.flatMap graph.passCommands) first second := by
  have passOrder := built.pass_lt firstOwned secondOwned different ordered
  have firstInside := FrameGraph.lt_of_mem_passCommands firstOwned
  have secondInside := FrameGraph.lt_of_mem_passCommands secondOwned
  have kept := regrouping.keeps_conflicts prefixed.wellFormed.within
    (fun left right => ∃ source target, left = source + offset ∧
      right = target + offset ∧ source < target ∧
        origin.Conflict source target)
    (by
      rintro left right _ _ _ ⟨source, target, rfl, rfl, forward, related⟩
      exact prefixed.path (built.path_of_conflict forward related))
  have passes : Precedes classes.flatten (firstPass + offset)
      (secondPass + offset) :=
    precedes_of_pairwise kept (prefixed.mem_flatten regrouping firstInside)
      (prefixed.mem_flatten regrouping secondInside)
      (Nat.add_lt_add_right passOrder offset).ne
      ⟨firstPass, secondPass, rfl, rfl, passOrder, conflict⟩
  refine passes.flatMap ?_ ?_
  · rw [prefixed.tail]
    exact firstOwned
  · rw [prefixed.tail]
    exact secondOwned

end

end FrameGraph.Prefixed

/--
The optimizer never reverses dependent commands.

A valid plan of the optimized graph is a permutation of the source commands.
Commands of one built pass, and commands of two built passes whose access logs
conflict, stand in it in source order.
-/
theorem replay_keeps_conflicting_commands (payload : SourcePayloadView)
    (frameId : Nat) (resolver : ResourceAliasResolver)
    (options : OptimizerOptions) (inputs : OptimizerInputs)
    (noDce : options.dce = false) :
    let graph := buildFrameGraph payload frameId resolver
    let plan := planReplayCommands (optimize graph options inputs) payload
    plan.valid = true →
      plan.commandIndices.Perm (List.range payload.commandCount) ∧
      (∀ pass, ∀ first ∈ graph.passCommands pass,
        ∀ second ∈ graph.passCommands pass, first < second →
          Precedes plan.commandIndices first second) ∧
      ∀ firstPass secondPass, firstPass ≠ secondPass →
        graph.Conflict firstPass secondPass →
        ∀ first ∈ graph.passCommands firstPass,
          ∀ second ∈ graph.passCommands secondPass, first < second →
            Precedes plan.commandIndices first second := by
  intro graph plan valid
  have built : graph.Built :=
    buildFrameGraph_built payload frameId resolver
  obtain ⟨classes, regrouped⟩ :=
    optimize_regrouped built.toWellFormed options inputs noDce
  obtain ⟨listed, permutation⟩ := replay_of_regrouped built regrouped valid
  have listed : plan.commandIndices =
      classes.flatten.flatMap graph.passCommands := listed
  refine ⟨permutation, ?_, ?_⟩
  · intro pass first firstOwned second secondOwned ordered
    rw [listed]
    exact built.prefixed.pass_precedes built regrouped.regrouping
      firstOwned secondOwned ordered
  · intro firstPass secondPass different conflict first firstOwned second
      secondOwned ordered
    rw [listed]
    exact built.prefixed.conflict_precedes built regrouped.regrouping
      different conflict firstOwned secondOwned ordered

/-- The two draws to one target are brought together and keep their order. -/
theorem replay_keeps_interleaved_draws :
    let payload : SourcePayloadView :=
      { commands := [.drawTo 1, .drawTo 2, .drawTo 1] }
    let graph := buildFrameGraph payload 0 {}
    let plan := planReplayCommands
      (optimize graph { passcoalesce := true } {}) payload
    plan.commandIndices = [0, 2, 1] ∧
      plan.commandIndices.Perm (List.range 3) ∧
      Precedes plan.commandIndices 0 2 := by
  intro payload graph plan
  obtain ⟨permutation, _, ordered⟩ := replay_keeps_conflicting_commands
    payload 0 {} { passcoalesce := true } {} rfl (by decide)
  exact ⟨by decide, permutation, ordered 0 2 (by decide) (by decide)
    0 (by decide) 2 (by decide) (by decide)⟩

end Dxmt9.Framegraph
