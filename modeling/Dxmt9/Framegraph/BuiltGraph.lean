import Dxmt9.Framegraph.BuilderInvariant
import Dxmt9.Framegraph.Regrouped

/-!
# Built graphs

The builder invariant, read off a finished graph.  A built graph is
well-formed, all of its passes are live, its passes own the source commands in
source order, and conflicting accesses of two passes are covered by a
dependency path.
-/

namespace Dxmt9.Framegraph

open Relation
open Dxmt9.Order

/--
The access logs of two passes conflict.

Both log the same resource and at least one of the two accesses writes it.
-/
def FrameGraph.Conflict (graph : FrameGraph) (first second : Nat) : Prop :=
  ∃ node ∈ graph.resources, ∃ left ∈ node.accesses,
    ∃ right ∈ node.accesses, left.passIndex = first ∧
      right.passIndex = second ∧ left.Conflicts right

instance (graph : FrameGraph) (first second : Nat) :
    Decidable (graph.Conflict first second) :=
  inferInstanceAs (Decidable (∃ node ∈ graph.resources,
    ∃ left ∈ node.accesses, ∃ right ∈ node.accesses, _ ∧ _ ∧ _))

/-- What the builder guarantees about a graph. -/
structure FrameGraph.Built (graph : FrameGraph) : Prop
    extends graph.WellFormed where
  unflagged : ∀ pass ∈ graph.passes, pass.flags = {}
  tiled : (List.range graph.passes.length).flatMap graph.passCommands =
    graph.commands.map CommandRef.commandIndex
  increasing :
    (graph.commands.map CommandRef.commandIndex).Pairwise (· < ·)
  chronological : ∀ node ∈ graph.resources, node.accesses.Pairwise
    fun earlier later => earlier.passIndex ≤ later.passIndex
  touches : ∀ node ∈ graph.resources, ∀ access ∈ node.accesses,
    access.Touches
  covered : ∀ node ∈ graph.resources, Covered graph.edges node.accesses
  handles : (graph.resources.map ResourceNode.handle).Nodup

theorem Builder.Invariant.empty (kindOf : Nat → MetalCommandKind)
    (frameId : Nat) :
    Builder.Invariant kindOf 0 { graph := { frameId := frameId } } where
  logs := LogInvariant.empty
  ranges := RangeInvariant.empty kindOf
  lastOpen opened := by simp at opened

theorem buildFrameGraph_invariant (payload : SourcePayloadView)
    (frameId : Nat) (resolver : ResourceAliasResolver) :
    ∃ builder : Builder,
      buildFrameGraph payload frameId resolver = builder.graph ∧
        builder.Invariant (fun index => (payload.commandAt index).kind)
          payload.commandCount := by
  refine ⟨_, rfl, ?_⟩
  have invariant := Builder.Invariant.runFrom resolver payload.commands 0
    (Builder.Invariant.empty
      (fun index => (payload.commandAt index).kind) frameId)
    (fun offset bound => by
      simp [SourcePayloadView.commandAt, bound])
  rw [Nat.zero_add] at invariant
  exact
    { logs := invariant.logs
      ranges := invariant.ranges
      lastOpen := fun opened => by
        simp [Builder.finalizeCurrentPass] at opened }

theorem FrameGraph.lt_of_mem_passCommands {graph : FrameGraph}
    {pass command : Nat} (owned : command ∈ graph.passCommands pass) :
    pass < graph.passes.length := by
  by_contra outside
  have absent : graph.pass pass = default := by
    simp [FrameGraph.pass, Nat.le_of_not_lt outside]
  simp [FrameGraph.passCommands, FrameGraph.commandsOf, absent,
    show (default : PassNode).commands.count = 0 from rfl] at owned

theorem flatMap_passCommands (graph : FrameGraph) :
    (List.range graph.passes.length).flatMap graph.passCommands =
      ((graph.passes.map PassNode.commands).flatMap fun range =>
        (graph.commands.drop range.first).take range.count).map
          CommandRef.commandIndex := by
  conv_rhs => rw [← graph.map_pass_range]
  simp only [List.flatMap_map, List.map_flatMap]
  rfl

theorem buildFrameGraph_built (payload : SourcePayloadView)
    (frameId : Nat) (resolver : ResourceAliasResolver) :
    (buildFrameGraph payload frameId resolver).Built := by
  obtain ⟨builder, equal, invariant⟩ :=
    buildFrameGraph_invariant payload frameId resolver
  rw [equal]
  obtain ⟨logs, ranges, _⟩ := invariant
  exact
    { forward := logs.forward
      inside := logs.inside
      ranges := by
        intro pass member
        have commandBound := ranges.tiled.bound pass.commands
          (List.mem_map_of_mem member)
        have drawBound := ranges.drawBound pass member
        simp only [validRanges, validCommandRange, validDrawRange,
          Bool.and_eq_true, decide_eq_true_eq]
        omega
      accesses := logs.accessInside
      unflagged := ranges.unflagged
      tiled := by
        rw [flatMap_passCommands, ranges.tiled.flatMap]
        simp
      increasing := ranges.increasing
      chronological := logs.chronological
      touches := logs.touches
      covered := logs.covered
      handles := logs.handles }

namespace FrameGraph.Built

variable {graph : FrameGraph}

variable {first second : Nat}

section

variable (built : graph.Built)
include built

/-- Conflicting passes are connected in pass order. -/
theorem path_of_conflict
    (ordered : first < second) (conflict : graph.Conflict first second) :
    ReflTransGen graph.DependsStep first second := by
  obtain ⟨node, member, left, leftLogged, right, rightLogged, rfl, rfl,
    conflicts⟩ := conflict
  have covered := built.covered node member
  have chronological := built.chronological node member
  obtain ⟨i, iBound, rfl⟩ := List.mem_iff_getElem.mp leftLogged
  obtain ⟨j, jBound, rfl⟩ := List.mem_iff_getElem.mp rightLogged
  rcases Nat.lt_trichotomy i j with before | same | after
  · exact List.pairwise_iff_getElem.mp covered i j iBound jBound before
      conflicts
  · subst same
    exact absurd ordered (Nat.lt_irrefl _)
  · have reversed := List.pairwise_iff_getElem.mp chronological j i jBound
      iBound after
    exact absurd ordered (Nat.not_lt_of_le reversed)

theorem passCommands_increasing (pass : Nat) :
    (graph.passCommands pass).Pairwise (· < ·) := by
  unfold FrameGraph.passCommands FrameGraph.commandsOf
  exact built.increasing.sublist
    (((List.take_sublist _ _).trans (List.drop_sublist _ _)).map _)

/-- Every command of a pass comes before every command of a later one. -/
theorem commands_across {front behind : Nat} (firstOwned : first ∈ graph.passCommands front)
    (secondOwned : second ∈ graph.passCommands behind)
    (ordered : front < behind) : first < second := by
  have increasing := built.increasing
  rw [← built.tiled, List.pairwise_flatMap] at increasing
  have across := List.pairwise_iff_getElem.mp increasing.2 front behind
    (by simpa using lt_of_mem_passCommands firstOwned)
    (by simpa using lt_of_mem_passCommands secondOwned) ordered
  simp only [List.getElem_range] at across
  exact across first firstOwned second secondOwned

theorem owner_unique {left right command : Nat}
    (leftOwned : command ∈ graph.passCommands left)
    (rightOwned : command ∈ graph.passCommands right) : left = right := by
  rcases Nat.lt_trichotomy left right with before | same | after
  · exact absurd (built.commands_across leftOwned rightOwned before)
      (Nat.lt_irrefl _)
  · exact same
  · exact absurd (built.commands_across rightOwned leftOwned after)
      (Nat.lt_irrefl _)

theorem pass_lt {firstPass secondPass : Nat} (firstOwned : first ∈ graph.passCommands firstPass)
    (secondOwned : second ∈ graph.passCommands secondPass)
    (different : firstPass ≠ secondPass) (ordered : first < second) :
    firstPass < secondPass := by
  rcases Nat.lt_or_gt_of_ne different with before | after
  · exact before
  · exact absurd (built.commands_across secondOwned firstOwned after)
      (Nat.lt_asymm ordered)

end

end FrameGraph.Built

end Dxmt9.Framegraph
