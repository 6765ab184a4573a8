import Dxmt9.Framegraph.HazardLog
import Dxmt9.Framegraph.Regrouped

/-!
# The builder invariant

Every command handler keeps one invariant.  Its log half says that resources
have distinct handles, logs are in pass order and conflicts are covered by
forward paths.  Its range half says that the passes tile the command array
with strictly increasing source indices.
-/

namespace Dxmt9.Framegraph

open Relation

/-! ## Logs and edges -/

/-- Resources and edges of a graph with `count` passes. -/
structure LogInvariant (count : Nat) (resources : List ResourceNode)
    (edges : List Edge) : Prop where
  forward : ∀ edge ∈ edges, edge.srcPass < edge.dstPass
  inside : ∀ edge ∈ edges, edge.dstPass < count
  accessInside : ∀ node ∈ resources, ∀ access ∈ node.accesses,
    access.passIndex < count
  chronological : ∀ node ∈ resources, node.accesses.Pairwise
    fun earlier later => earlier.passIndex ≤ later.passIndex
  touches : ∀ node ∈ resources, ∀ access ∈ node.accesses, access.Touches
  covered : ∀ node ∈ resources, Covered edges node.accesses
  handles : (resources.map ResourceNode.handle).Nodup

theorem LogInvariant.empty : LogInvariant 0 [] [] where
  forward _ member := absurd member List.not_mem_nil
  inside _ member := absurd member List.not_mem_nil
  accessInside _ member := absurd member List.not_mem_nil
  chronological _ member := absurd member List.not_mem_nil
  touches _ member := absurd member List.not_mem_nil
  covered _ member := absurd member List.not_mem_nil
  handles := List.nodup_nil

theorem LogInvariant.grow {count more : Nat}
    {resources : List ResourceNode} {edges : List Edge}
    (logs : LogInvariant count resources edges) (grows : count ≤ more) :
    LogInvariant more resources edges :=
  { logs with
    inside := fun edge member =>
      (logs.inside edge member).trans_le grows
    accessInside := fun node member access logged =>
      (logs.accessInside node member access logged).trans_le grows }

namespace Builder

variable {node member : ResourceNode}

variable {resources : List ResourceNode}

theorem mem_storeResource
    (distinct : (resources.map ResourceNode.handle).Nodup)
    (listed : member ∈ storeResource resources node) :
    member = node ∨
      (member ∈ resources ∧ member.handle ≠ node.handle) := by
  induction resources with
  | nil =>
      simp only [storeResource, List.mem_singleton] at listed
      exact Or.inl listed
  | cons head tail induction =>
      rw [List.map_cons, List.nodup_cons] at distinct
      unfold storeResource at listed
      split at listed
      · rename_i same
        rcases List.mem_cons.mp listed with rfl | behind
        · exact Or.inl rfl
        · refine Or.inr ⟨List.mem_cons_of_mem _ behind, fun equal => ?_⟩
          exact distinct.1 (List.mem_map.mpr
            ⟨member, behind, equal.trans same.symm⟩)
      · rename_i different
        rcases List.mem_cons.mp listed with rfl | behind
        · exact Or.inr ⟨List.mem_cons_self, different⟩
        · rcases induction distinct.2 behind with equal | ⟨old, other⟩
          · exact Or.inl equal
          · exact Or.inr ⟨List.mem_cons_of_mem _ old, other⟩

theorem mem_storeResource_self (resources : List ResourceNode)
    (node : ResourceNode) : node ∈ storeResource resources node := by
  induction resources with
  | nil => exact List.mem_cons_self
  | cons head tail induction =>
      unfold storeResource
      split
      · exact List.mem_cons_self
      · exact List.mem_cons_of_mem head induction

theorem mem_storeResource_of_ne (listed : member ∈ resources)
    (different : member.handle ≠ node.handle) :
    member ∈ storeResource resources node := by
  induction resources with
  | nil => contradiction
  | cons head tail induction =>
      unfold storeResource
      rcases List.mem_cons.mp listed with rfl | behind
      · rw [if_neg different]
        exact List.mem_cons_self
      · split
        · exact List.mem_cons_of_mem node behind
        · exact List.mem_cons_of_mem head (induction behind)

theorem storeResource_handles (resources : List ResourceNode)
    (node : ResourceNode) :
    (storeResource resources node).map ResourceNode.handle =
      if node.handle ∈ resources.map ResourceNode.handle then
        resources.map ResourceNode.handle
      else resources.map ResourceNode.handle ++ [node.handle] := by
  induction resources with
  | nil => simp [storeResource]
  | cons head tail induction =>
      unfold storeResource
      by_cases same : head.handle = node.handle
      · simp [same]
      · rw [if_neg same, List.map_cons, induction]
        by_cases present : node.handle ∈ tail.map ResourceNode.handle
        · simp only [present, if_true, List.map_cons, List.mem_cons, or_true]
        · simp only [present, if_false, List.map_cons, List.mem_cons,
            or_false, Ne.symm same, List.cons_append]

theorem storeResource_nodup
    (node : ResourceNode)
    (distinct : (resources.map ResourceNode.handle).Nodup) :
    ((storeResource resources node).map ResourceNode.handle).Nodup := by
  rw [storeResource_handles]
  split
  · exact distinct
  · rename_i absent
    exact List.nodup_append.mpr ⟨distinct, List.nodup_singleton _, by
      intro handle member other single equal
      rw [List.mem_singleton] at single
      exact absent (single ▸ equal ▸ member)⟩

/-- The node of a handle is an old node, or a new one with an empty log. -/
theorem resourceFor_spec (builder : Builder) (handle : Handle) :
    (builder.resourceFor handle).handle = handle ∧
      (builder.resourceFor handle ∈ builder.graph.resources ∨
        (builder.resourceFor handle).accesses = []) := by
  unfold resourceFor
  cases found : builder.graph.resources.find? fun node =>
      node.handle == handle with
  | none => exact ⟨rfl, Or.inr rfl⟩
  | some node =>
      have named := List.find?_some found
      exact ⟨by simpa using named, Or.inl (List.mem_of_find?_eq_some found)⟩

end Builder

namespace LogInvariant

variable {resources : List ResourceNode} {edges : List Edge} {count : Nat}

variable {node : ResourceNode}

/-- Storing a node whose log is acceptable keeps the invariant. -/
theorem store (logs : LogInvariant count resources edges)
    (accessInside : ∀ access ∈ node.accesses, access.passIndex < count)
    (chronological : node.accesses.Pairwise
      fun earlier later => earlier.passIndex ≤ later.passIndex)
    (touches : ∀ access ∈ node.accesses, access.Touches)
    (covered : Covered edges node.accesses) :
    LogInvariant count (Builder.storeResource resources node) edges where
  forward := logs.forward
  inside := logs.inside
  accessInside member listed := by
    rcases Builder.mem_storeResource logs.handles listed with
      rfl | ⟨old, _⟩
    · exact accessInside
    · exact logs.accessInside member old
  chronological member listed := by
    rcases Builder.mem_storeResource logs.handles listed with
      rfl | ⟨old, _⟩
    · exact chronological
    · exact logs.chronological member old
  touches member listed := by
    rcases Builder.mem_storeResource logs.handles listed with
      rfl | ⟨old, _⟩
    · exact touches
    · exact logs.touches member old
  covered member listed := by
    rcases Builder.mem_storeResource logs.handles listed with
      rfl | ⟨old, _⟩
    · exact covered
    · exact logs.covered member old
  handles := Builder.storeResource_nodup node logs.handles

variable {pass : Nat}

section

variable (logs : LogInvariant (pass + 1) resources edges)
include logs

theorem addEdges {sources : List Nat} (handle : Handle)
    (bounded : ∀ source ∈ sources, source ≤ pass) :
    LogInvariant (pass + 1) resources
      (sources.foldl (addEdgeOnce handle pass) edges) := by
  have added : ∀ edge ∈ sources.foldl (addEdgeOnce handle pass) edges,
      edge ∈ edges ∨ (edge.srcPass < pass ∧ edge.dstPass = pass) := by
    intro edge member
    rcases mem_foldl_addEdgeOnce sources member with
      old | ⟨listed, target, different⟩
    · exact Or.inl old
    · exact Or.inr ⟨Nat.lt_of_le_of_ne (bounded _ listed) different, target⟩
  exact
    { logs with
      forward := by
        intro edge member
        rcases added edge member with old | ⟨sourceLt, targetEq⟩
        · exact logs.forward edge old
        · omega
      inside := by
        intro edge member
        rcases added edge member with old | ⟨_, targetEq⟩
        · exact logs.inside edge old
        · omega
      covered := fun node member =>
        (logs.covered node member).mono fun step =>
          (connects_foldl_addEdgeOnce sources).mpr (Or.inl step) }

/-- Logging an access of the last pass keeps the invariant. -/
theorem access {kind : AccessKind}
    (known : node ∈ resources ∨ node.accesses = [])
    (touchesNew : accessReads kind = true ∨ accessWrites kind = true)
    (stored : ResourceNode) (stage : AccessStage)
    (appended : stored.accesses = node.accesses ++
      [{ passIndex := pass, accessKind := kind, stage := stage }])
    (handle : Handle) :
    LogInvariant (pass + 1) (Builder.storeResource resources stored)
      (addDependencyEdges edges node pass kind handle) := by
  have nodeInside : ∀ access ∈ node.accesses, access.passIndex ≤ pass := by
    intro access logged
    rcases known with member | empty
    · exact Nat.le_of_lt_succ (logs.accessInside node member access logged)
    · rw [empty] at logged
      contradiction
  have nodeTouches : ∀ access ∈ node.accesses, access.Touches := by
    intro access logged
    rcases known with member | empty
    · exact logs.touches node member access logged
    · rw [empty] at logged
      contradiction
  have nodeOrdered : node.accesses.Pairwise
      fun earlier later => earlier.passIndex ≤ later.passIndex := by
    rcases known with member | empty
    · exact logs.chronological node member
    · rw [empty]
      exact List.Pairwise.nil
  have sourceBound : ∀ source ∈ hazardSources node.accesses kind,
      source ≤ pass := by
    intro source listed
    obtain ⟨access, logged, rfl⟩ := hazardSources_logged listed
    exact nodeInside access logged
  have grown := logs.addEdges handle sourceBound
  have nodeCovered : Covered (addDependencyEdges edges node pass kind handle)
        node.accesses := by
    rcases known with member | empty
    · exact grown.covered node member
    · rw [empty]
      exact List.Pairwise.nil
  refine grown.store ?_ ?_ ?_ ?_ <;> rw [appended]
  · intro access logged
    rcases List.mem_append.mp logged with old | new
    · exact Nat.lt_succ_of_le (nodeInside access old)
    · rw [List.mem_singleton] at new
      exact new ▸ Nat.lt_succ_self pass
  · refine List.pairwise_append.mpr
      ⟨nodeOrdered, List.pairwise_singleton _ _, ?_⟩
    intro earlier logged later single
    rw [List.mem_singleton] at single
    exact single ▸ nodeInside earlier logged
  · intro access logged
    rcases List.mem_append.mp logged with old | new
    · exact nodeTouches access old
    · rw [List.mem_singleton] at new
      exact new ▸ touchesNew
  · refine List.pairwise_append.mpr
      ⟨nodeCovered, List.pairwise_singleton _ _, ?_⟩
    intro earlier logged later single conflict
    rw [List.mem_singleton] at single
    subst single
    refine nodeCovered.path_to_new nodeTouches ?_ logged conflict touchesNew
    intro source listed
    by_cases self : source = pass
    · exact Or.inl self
    · exact Or.inr ((connects_foldl_addEdgeOnce _).mpr
        (Or.inr ⟨listed, self, rfl⟩))

end

end LogInvariant

/-! ## Ranges -/

/-- Consecutive ranges from `start` to `stop`. -/
def Tiles (start : Nat) : List CommandRange → Nat → Prop
  | [], stop => start = stop
  | range :: rest, stop =>
      range.first = start ∧ Tiles (start + range.count) rest stop

variable {start stop : Nat} {ranges : List CommandRange}

theorem tiles_append
    {last : CommandRange} :
    Tiles start (ranges ++ [last]) stop ↔
      Tiles start ranges last.first ∧ last.first + last.count = stop := by
  induction ranges generalizing start with
  | nil =>
      simp only [List.nil_append, Tiles]
      constructor
      · rintro ⟨first, sum⟩
        exact ⟨first.symm, first ▸ sum⟩
      · rintro ⟨first, sum⟩
        exact ⟨first.symm, first ▸ sum⟩
  | cons range rest induction =>
      rw [List.cons_append, Tiles, Tiles, induction, and_assoc]

section

variable (tiles : Tiles start ranges stop)
include tiles

theorem Tiles.le : start ≤ stop := by
  induction ranges generalizing start with
  | nil => exact Nat.le_of_eq tiles
  | cons range rest induction =>
      have bound := induction tiles.2
      omega

theorem Tiles.bound :
    ∀ range ∈ ranges, range.first + range.count ≤ stop := by
  induction ranges generalizing start with
  | nil => simp
  | cons range rest induction =>
      intro other member
      rcases List.mem_cons.mp member with rfl | behind
      · have bound := tiles.2.le
        have first := tiles.1
        omega
      · exact induction tiles.2 other behind

/-- The slices of consecutive ranges concatenate to the whole stretch. -/
theorem Tiles.flatMap {α : Type*}
    (items : List α) :
    (ranges.flatMap fun range =>
        (items.drop range.first).take range.count) =
      (items.drop start).take (stop - start) := by
  induction ranges generalizing start with
  | nil =>
      have equal : start = stop := tiles
      simp [equal]
  | cons range rest induction =>
      obtain ⟨first, others⟩ := tiles
      have bound := others.le
      rw [List.flatMap_cons, induction others, first]
      have split : stop - start =
          range.count + (stop - (start + range.count)) := by omega
      rw [split, List.take_add, List.drop_drop]

end

/-- Passes, draws and commands after `next` source commands. -/
structure RangeInvariant (kindOf : Nat → MetalCommandKind) (next : Nat)
    (passes : List PassNode) (draws : List DrawRef)
    (commands : List CommandRef) : Prop where
  tiled : Tiles 0 (passes.map PassNode.commands) commands.length
  drawBound : ∀ pass ∈ passes,
    pass.draws.first + pass.draws.count ≤ draws.length
  increasing :
    (commands.map CommandRef.commandIndex).Pairwise (· < ·)
  consumed : ∀ ref ∈ commands, ref.commandIndex < next
  kinds : ∀ ref ∈ commands, kindOf ref.commandIndex = ref.kind
  unflagged : ∀ pass ∈ passes, pass.flags = {}

theorem RangeInvariant.empty (kindOf : Nat → MetalCommandKind) :
    RangeInvariant kindOf 0 [] [] [] where
  tiled := rfl
  drawBound _ member := absurd member List.not_mem_nil
  increasing := List.Pairwise.nil
  consumed _ member := absurd member List.not_mem_nil
  kinds _ member := absurd member List.not_mem_nil
  unflagged _ member := absurd member List.not_mem_nil

/-- The last element is the one that grows. -/
theorem modify_last {α : Type*} (init : List α) (last : α)
    (update : α → α) :
    (init ++ [last]).modify init.length update = init ++ [update last] := by
  induction init with
  | nil => rfl
  | cons head tail induction => simpa using induction

theorem exists_init_last {α : Type*} {items : List α} {index : Nat}
    (last : index + 1 = items.length) :
    ∃ init final, items = init ++ [final] ∧ init.length = index := by
  rcases List.eq_nil_or_concat items with rfl | ⟨init, final, rfl⟩
  · simp at last
  · refine ⟨init, final, List.concat_eq_append, ?_⟩
    simp only [List.length_concat, Nat.add_right_cancel_iff] at last
    exact last.symm

namespace RangeInvariant

variable {kindOf : Nat → MetalCommandKind} {next : Nat}
  {graph : FrameGraph}

theorem skip
    (ranges : RangeInvariant kindOf next graph.passes graph.draws
      graph.commands) :
    RangeInvariant kindOf (next + 1) graph.passes graph.draws
      graph.commands :=
  { ranges with
    consumed := fun ref member =>
      (ranges.consumed ref member).trans (Nat.lt_succ_self next) }

theorem pushPass
    (ranges : RangeInvariant kindOf next graph.passes graph.draws
      graph.commands) (pass : PassNode) (unflagged : pass.flags = {}) :
    RangeInvariant kindOf next (Builder.pushPass graph pass).passes
      (Builder.pushPass graph pass).draws
      (Builder.pushPass graph pass).commands where
  tiled := by
    simp only [Builder.pushPass, List.map_append, List.map_cons, List.map_nil]
    exact tiles_append.mpr ⟨ranges.tiled, rfl⟩
  drawBound pass' member := by
    simp only [Builder.pushPass] at member ⊢
    rcases List.mem_append.mp member with old | new
    · exact ranges.drawBound pass' old
    · rw [List.mem_singleton] at new
      exact Nat.le_of_eq (by simp [new])
  increasing := ranges.increasing
  consumed := ranges.consumed
  kinds := ranges.kinds
  unflagged pass' member := by
    simp only [Builder.pushPass] at member
    rcases List.mem_append.mp member with old | new
    · exact ranges.unflagged pass' old
    · rw [List.mem_singleton] at new
      simp [new, unflagged]

variable {pass : Nat}

theorem pushCommand
    (ranges : RangeInvariant kindOf next graph.passes graph.draws
      graph.commands)
    (last : pass + 1 = graph.passes.length) :
    RangeInvariant kindOf (next + 1)
      (Builder.pushCommand graph
        { commandIndex := next, kind := kindOf next } pass).passes
      (Builder.pushCommand graph
        { commandIndex := next, kind := kindOf next } pass).draws
      (Builder.pushCommand graph
        { commandIndex := next, kind := kindOf next } pass).commands := by
  obtain ⟨init, final, passesEq, rfl⟩ := exists_init_last last
  have tiled := ranges.tiled
  have drawBound := ranges.drawBound
  have unflagged := ranges.unflagged
  simp only [Builder.pushCommand, passesEq, modify_last]
  rw [passesEq] at tiled drawBound unflagged
  rw [List.map_append, List.map_singleton, tiles_append] at tiled
  obtain ⟨tiles, sum⟩ := tiled
  refine
    { tiled := ?_
      drawBound := ?_
      increasing := ?_
      consumed := ?_
      kinds := ?_
      unflagged := ?_ }
  · rw [List.map_append, List.map_singleton, tiles_append]
    refine ⟨tiles, ?_⟩
    simp only [List.length_append, List.length_singleton]
    omega
  · intro pass member
    rcases List.mem_append.mp member with old | new
    · exact drawBound pass (List.mem_append_left _ old)
    · rw [List.mem_singleton] at new
      subst new
      exact drawBound final (List.mem_append_right _ List.mem_cons_self)
  · rw [List.map_append, List.pairwise_append]
    refine ⟨ranges.increasing, List.pairwise_singleton _ _, ?_⟩
    intro index member other single
    obtain ⟨ref, listed, rfl⟩ := List.mem_map.mp member
    simp only [List.map_cons, List.map_nil, List.mem_singleton] at single
    exact single ▸ ranges.consumed ref listed
  · intro ref member
    rcases List.mem_append.mp member with old | new
    · exact (ranges.consumed ref old).trans (Nat.lt_succ_self next)
    · rw [List.mem_singleton] at new
      exact new ▸ Nat.lt_succ_self next
  · intro ref member
    rcases List.mem_append.mp member with old | new
    · exact ranges.kinds ref old
    · rw [List.mem_singleton] at new
      exact new ▸ rfl
  · intro pass member
    rcases List.mem_append.mp member with old | new
    · exact unflagged pass (List.mem_append_left _ old)
    · rw [List.mem_singleton] at new
      subst new
      exact unflagged final (List.mem_append_right _ List.mem_cons_self)

theorem pushDraw
    (ranges : RangeInvariant kindOf next graph.passes graph.draws
      graph.commands) (draw : DrawRef)
    (last : pass + 1 = graph.passes.length) :
    RangeInvariant kindOf next (Builder.pushDraw graph draw pass).passes
      (Builder.pushDraw graph draw pass).draws
      (Builder.pushDraw graph draw pass).commands := by
  obtain ⟨init, final, passesEq, rfl⟩ := exists_init_last last
  have tiled := ranges.tiled
  have drawBound := ranges.drawBound
  have unflagged := ranges.unflagged
  simp only [Builder.pushDraw, passesEq, modify_last]
  rw [passesEq] at tiled drawBound unflagged
  refine
    { tiled := by simpa using tiled
      drawBound := ?_
      increasing := ranges.increasing
      consumed := ranges.consumed
      kinds := ranges.kinds
      unflagged := ?_ }
  · intro pass member
    rw [List.length_append, List.length_singleton]
    rcases List.mem_append.mp member with old | new
    · have bound := drawBound pass (List.mem_append_left _ old)
      omega
    · rw [List.mem_singleton] at new
      subst new
      have bound := drawBound final
        (List.mem_append_right _ List.mem_cons_self)
      simp only
      omega
  · intro pass member
    rcases List.mem_append.mp member with old | new
    · exact unflagged pass (List.mem_append_left _ old)
    · rw [List.mem_singleton] at new
      subst new
      exact unflagged final (List.mem_append_right _ List.mem_cons_self)

theorem setStateProfile
    (ranges : RangeInvariant kindOf next graph.passes graph.draws
      graph.commands) (pass stateProfile : Nat) :
    RangeInvariant kindOf next
      (graph.passes.modify pass fun node =>
        { node with stateProfile := stateProfile })
      graph.draws graph.commands := by
  have same : ∀ node ∈ graph.passes.modify pass (fun node =>
      { node with stateProfile := stateProfile }),
      ∃ old ∈ graph.passes, node.commands = old.commands ∧
        node.draws = old.draws ∧ node.flags = old.flags := by
    intro node member
    rw [List.mem_iff_getElem] at member
    obtain ⟨index, bound, rfl⟩ := member
    rw [List.length_modify] at bound
    refine ⟨graph.passes[index], List.getElem_mem bound, ?_⟩
    rw [List.getElem_modify]
    split <;> exact ⟨rfl, rfl, rfl⟩
  refine
    { ranges with
      tiled := ?_
      drawBound := ?_
      unflagged := ?_ }
  · have equal : (graph.passes.modify pass fun node =>
        { node with stateProfile := stateProfile }).map
          PassNode.commands = graph.passes.map PassNode.commands := by
      apply List.ext_getElem
      · simp
      · intro index left right
        simp only [List.getElem_map, List.getElem_modify]
        split <;> rfl
    rw [equal]
    exact ranges.tiled
  · intro node member
    obtain ⟨old, listed, _, drawsEq, _⟩ := same node member
    rw [drawsEq]
    exact ranges.drawBound old listed
  · intro node member
    obtain ⟨old, listed, _, _, flagsEq⟩ := same node member
    rw [flagsEq]
    exact ranges.unflagged old listed

end RangeInvariant

/-! ## Command handlers -/

namespace Builder

/-- Everything that logging an access leaves alone. -/
structure SamePasses (before after : Builder) : Prop where
  passes : after.graph.passes = before.graph.passes
  draws : after.graph.draws = before.graph.draws
  commands : after.graph.commands = before.graph.commands
  currentPass : after.currentPass = before.currentPass
  openRenderPass : after.openRenderPass = before.openRenderPass

theorem SamePasses.refl (builder : Builder) : builder.SamePasses builder :=
  ⟨rfl, rfl, rfl, rfl, rfl⟩

theorem SamePasses.trans {first second third : Builder}
    (left : first.SamePasses second) (right : second.SamePasses third) :
    first.SamePasses third where
  passes := right.passes.trans left.passes
  draws := right.draws.trans left.draws
  commands := right.commands.trans left.commands
  currentPass := right.currentPass.trans left.currentPass
  openRenderPass := right.openRenderPass.trans left.openRenderPass

/-- The builder invariant after `next` source commands. -/
structure Invariant (kindOf : Nat → MetalCommandKind) (next : Nat)
    (builder : Builder) : Prop where
  logs : LogInvariant builder.graph.passes.length builder.graph.resources
    builder.graph.edges
  ranges : RangeInvariant kindOf next builder.graph.passes
    builder.graph.draws builder.graph.commands
  lastOpen : builder.openRenderPass = true →
    builder.currentPass + 1 = builder.graph.passes.length

variable {kindOf : Nat → MetalCommandKind} {next : Nat}
  {builder : Builder} (resolver : ResourceAliasResolver)

variable {pass : Nat}

theorem noteAccess_spec (invariant : builder.Invariant kindOf next) (last : pass + 1 = builder.graph.passes.length)
    (kind : AccessKind)
    (touches : accessReads kind = true ∨ accessWrites kind = true)
    (handle : Handle) (stage : AccessStage) (resolveAlias : Bool) :
    (builder.noteAccess resolver handle pass kind stage
        resolveAlias).Invariant kindOf next ∧
      builder.SamePasses (builder.noteAccess resolver handle pass kind
        stage resolveAlias) := by
  unfold noteAccess
  split
  · exact ⟨invariant, .refl builder⟩
  · simp only
    generalize (if resolveAlias = true then resolver.apply handle
      else handle) = canonical
    split
    · exact ⟨invariant, .refl builder⟩
    · refine ⟨?_, ⟨rfl, rfl, rfl, rfl, rfl⟩⟩
      obtain ⟨named, known⟩ := resourceFor_spec builder canonical
      have logs := invariant.logs
      rw [← last] at logs
      refine
        { logs := ?_
          ranges := invariant.ranges
          lastOpen := invariant.lastOpen }
      have logged := logs.access known touches
        { recordAccess (builder.resourceFor canonical) pass kind stage with
          firstUsePass := min
            (recordAccess (builder.resourceFor canonical) pass kind
              stage).firstUsePass pass
          lastUsePass := max
            (recordAccess (builder.resourceFor canonical) pass kind
              stage).lastUsePass pass }
        stage rfl canonical
      rw [last] at logged
      exact logged

theorem noteAccesses_spec (kind : AccessKind)
    (touches : accessReads kind = true ∨ accessWrites kind = true)
    (stage : AccessStage) (resolveAlias : Bool) (handles : List Handle)
    {builder : Builder} (invariant : builder.Invariant kindOf next)
    (last : pass + 1 = builder.graph.passes.length) :
    (noteAccesses resolver pass kind stage resolveAlias handles
        builder).Invariant kindOf next ∧
      builder.SamePasses (noteAccesses resolver pass kind stage
        resolveAlias handles builder) := by
  induction handles generalizing builder with
  | nil => exact ⟨invariant, .refl builder⟩
  | cons handle rest induction =>
      obtain ⟨noted, same⟩ := noteAccess_spec resolver invariant last
        kind touches handle stage resolveAlias
      obtain ⟨others, sameOthers⟩ := induction noted (same.passes ▸ last)
      exact ⟨others, same.trans sameOthers⟩

section

variable (invariant : builder.Invariant kindOf next)
include invariant

theorem Invariant.skip : builder.Invariant kindOf (next + 1) :=
  { invariant with ranges := invariant.ranges.skip }

theorem Invariant.openPass
    (targets : AttachmentSet) (stateProfile : Nat) :
    (builder.openPass targets stateProfile).Invariant kindOf next ∧
      (builder.openPass targets stateProfile).currentPass + 1 =
        (builder.openPass targets stateProfile).graph.passes.length := by
  have last : (builder.openPass targets stateProfile).currentPass + 1 =
      (builder.openPass targets stateProfile).graph.passes.length := by
    simp [Builder.openPass, Builder.pushPass]
  refine ⟨⟨?_, ?_, fun _ => last⟩, last⟩
  · refine invariant.logs.grow ?_
    simp [Builder.openPass, Builder.pushPass]
  · exact invariant.ranges.pushPass _ rfl

theorem Invariant.emitStandalonePass (kind : PassKind) :
    (builder.emitStandalonePass kind next (kindOf next)).1.Invariant
        kindOf (next + 1) ∧
      (builder.emitStandalonePass kind next (kindOf next)).2 + 1 =
        (builder.emitStandalonePass kind next
          (kindOf next)).1.graph.passes.length := by
  have pushed := invariant.ranges.pushPass { kind := kind } rfl
  have last : builder.graph.passes.length + 1 =
      (Builder.pushPass builder.graph { kind := kind }).passes.length := by
    simp [Builder.pushPass]
  refine ⟨⟨?_, pushed.pushCommand last, fun opened => ?_⟩, ?_⟩
  · refine invariant.logs.grow ?_
    simp [Builder.emitStandalonePass, Builder.pushPass, Builder.pushCommand]
  · simp [Builder.emitStandalonePass, Builder.finalizeCurrentPass] at opened
  · simp [Builder.emitStandalonePass, Builder.pushPass, Builder.pushCommand]

theorem Invariant.atPass (last : pass + 1 = builder.graph.passes.length) :
    ({ builder with currentPass := pass } : Builder).Invariant kindOf
      next :=
  { invariant with lastOpen := fun _ => last }

theorem Invariant.enterDrawPass
    (targets : AttachmentSet) (stateProfile : Nat) :
    (builder.enterDrawPass resolver targets stateProfile).Invariant kindOf
        next ∧
      (builder.enterDrawPass resolver targets stateProfile).currentPass + 1 =
        (builder.enterDrawPass resolver targets
          stateProfile).graph.passes.length := by
  unfold Builder.enterDrawPass
  split
  · obtain ⟨opened, last⟩ := invariant.openPass targets stateProfile
    obtain ⟨colors, sameColors⟩ := noteAccesses_spec
      resolver .write (Or.inr rfl) .fragment true
      (boundColors targets) opened last
    obtain ⟨depth, sameDepth⟩ := noteAccesses_spec
      resolver .write (Or.inr rfl) .fragment true
      [targets.depth] colors (sameColors.passes ▸ last)
    refine ⟨depth, ?_⟩
    have same := sameColors.trans sameDepth
    simp only [Builder.recordAttachmentWrites]
    rw [same.currentPass, same.passes]
    exact last
  · rename_i keeps
    have opened : builder.openRenderPass = true := by
      simp only [Bool.or_eq_true, Bool.not_eq_true', not_or,
        Bool.not_eq_false] at keeps
      exact keeps.1
    have last := invariant.lastOpen opened
    split
    · refine ⟨⟨?_, ?_, fun _ => ?_⟩, ?_⟩
      · simpa using invariant.logs
      · exact invariant.ranges.setStateProfile builder.currentPass stateProfile
      · simpa using last
      · simpa using last
    · exact ⟨invariant, last⟩

theorem Invariant.handleDrawRun
    (command : SourceCommandView) (kind : kindOf next = .drawRun) :
    (builder.handleDrawRun resolver next command).Invariant kindOf
      (next + 1) := by
  unfold Builder.handleDrawRun
  split
  · exact invariant.skip
  · rename_i hot _
    simp only
    obtain ⟨entered, last⟩ := invariant.enterDrawPass
      resolver (attachmentSetFromHot hot)
      ((command.drawRunRecord.map
        DrawRunCommandRecord.runStableBindingHash).getD 0)
    obtain ⟨read, same⟩ := noteAccesses_spec resolver
      .read (Or.inl rfl) .fragment false (boundTextures hot)
      entered last
    simp only [Builder.recordTextureReads]
    generalize builder.enterDrawPass resolver (attachmentSetFromHot hot)
      ((command.drawRunRecord.map
        DrawRunCommandRecord.runStableBindingHash).getD 0) = drawPass
      at entered last read same
    generalize noteAccesses resolver drawPass.currentPass .read .fragment
      false (boundTextures hot) drawPass = reading at read same
    have readingLast :
        reading.currentPass + 1 = reading.graph.passes.length := by
      rw [same.currentPass, same.passes]
      exact last
    have drawn := fun draw => read.ranges.pushDraw draw readingLast
    refine ⟨?_, ?_, fun _ => ?_⟩
    · simpa [Builder.pushCommand, Builder.pushDraw] using read.logs
    · rw [← kind]
      exact (drawn _).pushCommand (by simpa [Builder.pushDraw] using
        readingLast)
    · simpa [Builder.pushCommand, Builder.pushDraw] using readingLast

end

theorem clearAccess_touches (resolver : ResourceAliasResolver)
    (clear : ClearCommandView) :
    (accessReads (clearColorAccess clear) = true ∨
        accessWrites (clearColorAccess clear) = true) ∧
      (accessReads (clearDepthStencilAccess resolver clear) = true ∨
        accessWrites (clearDepthStencilAccess resolver clear) = true) := by
  unfold clearColorAccess clearDepthStencilAccess
  constructor <;> split <;> simp [accessReads, accessWrites]

section

variable (invariant : builder.Invariant kindOf next)
include invariant

theorem Invariant.handleClear
    (command : SourceCommandView) (kind : kindOf next = .clear) :
    (builder.handleClear resolver next command).Invariant kindOf
      (next + 1) := by
  unfold Builder.handleClear
  split
  · exact invariant.skip
  · rename_i clear _
    simp only
    have closed : builder.finalizeCurrentPass.Invariant kindOf next :=
      { invariant with
        lastOpen := fun opened => by
          simp [Builder.finalizeCurrentPass] at opened }
    obtain ⟨opened, last⟩ := closed.openPass (attachmentSetFromClear clear) 0
    generalize builder.finalizeCurrentPass.openPass
      (attachmentSetFromClear clear) 0 = clearPass at opened last
    have pushed : ({ clearPass with
        graph := Builder.pushCommand clearPass.graph
          { commandIndex := next, kind := .clear }
          clearPass.currentPass } : Builder).Invariant kindOf
          (next + 1) := by
      refine ⟨?_, ?_, fun _ => ?_⟩
      · simpa [Builder.pushCommand] using opened.logs
      · rw [← kind]
        exact opened.ranges.pushCommand last
      · simpa [Builder.pushCommand] using last
    obtain ⟨colorTouches, depthTouches⟩ := clearAccess_touches resolver clear
    have pushedLast : clearPass.currentPass + 1 =
        (Builder.pushCommand clearPass.graph
          { commandIndex := next, kind := .clear }
          clearPass.currentPass).passes.length := by
      simpa [Builder.pushCommand] using last
    obtain ⟨colors, sameColors⟩ := noteAccesses_spec
      resolver _ colorTouches .fragment true
      (boundColors (attachmentSetFromClear clear)) pushed pushedLast
    exact (noteAccesses_spec resolver _ depthTouches .fragment true
      [(attachmentSetFromClear clear).depth] colors
      (sameColors.passes ▸ pushedLast)).1

theorem Invariant.standaloneAccess (passKind : PassKind) (kind : AccessKind)
    (touches : accessReads kind = true ∨ accessWrites kind = true)
    (handle : Handle) (stage : AccessStage) (resolveAlias : Bool)
    (emitted : Builder × Nat)
    (isEmitted : emitted =
      builder.emitStandalonePass passKind next (kindOf next)) :
    (({ emitted.1 with currentPass := emitted.2 } : Builder).noteAccess
        resolver handle emitted.2 kind stage resolveAlias).Invariant kindOf
        (next + 1) ∧
      emitted.2 + 1 =
        (({ emitted.1 with currentPass := emitted.2 } :
          Builder).noteAccess resolver handle emitted.2 kind stage
            resolveAlias).graph.passes.length := by
  subst isEmitted
  obtain ⟨standalone, last⟩ := invariant.emitStandalonePass passKind
  obtain ⟨noted, same⟩ := noteAccess_spec resolver
    (standalone.atPass last) last kind touches handle stage resolveAlias
  exact ⟨noted, same.passes ▸ last⟩

theorem Invariant.handlePresent
    (command : SourceCommandView) (kind : kindOf next = command.kind) :
    (builder.handlePresent resolver next command).Invariant kindOf
      (next + 1) := by
  unfold Builder.handlePresent
  simp only
  rw [← kind]
  have observed : (if command.present.getD 0 ≠ 0 then
      ({ (builder.emitStandalonePass .present next (kindOf next)).1 with
        currentPass :=
          (builder.emitStandalonePass .present next (kindOf next)).2 } :
        Builder).noteAccess resolver (command.present.getD 0)
          (builder.emitStandalonePass .present next (kindOf next)).2
          .read .copy true
      else (builder.emitStandalonePass .present next
        (kindOf next)).1).Invariant kindOf (next + 1) := by
    split
    · exact (invariant.standaloneAccess resolver .present
        .read (Or.inl rfl) _ .copy true _ rfl).1
    · exact (invariant.emitStandalonePass .present).1
  exact ⟨observed.logs, observed.ranges, observed.lastOpen⟩

theorem Invariant.handleTransfer
    (transfer : Option TransferDesc) :
    (builder.handleTransfer resolver next (kindOf next)
      transfer).Invariant kindOf (next + 1) := by
  cases transfer with
  | none => exact invariant.skip
  | some transfer =>
      obtain ⟨reading, last⟩ := invariant.standaloneAccess
        resolver .blit .read (Or.inl rfl)
        transfer.source .copy true _ rfl
      exact (noteAccess_spec resolver reading last
        .write (Or.inr rfl) transfer.destination .copy true).1

theorem Invariant.handleGenerateMipmaps
    (command : SourceCommandView) (kind : kindOf next = command.kind) :
    (builder.handleGenerateMipmaps resolver next command).Invariant kindOf
      (next + 1) := by
  unfold Builder.handleGenerateMipmaps
  split
  · exact invariant.skip
  · rw [← kind]
    exact (invariant.standaloneAccess resolver .blit
      .readWrite (Or.inl rfl) _ .copy false _ rfl).1

theorem Invariant.markReadback
    (source : Handle) :
    (builder.markReadback source).Invariant kindOf next := by
  refine ⟨?_, invariant.ranges, invariant.lastOpen⟩
  have logs := invariant.logs
  obtain ⟨_, known⟩ := resourceFor_spec builder source
  refine logs.store ?_ ?_ ?_ ?_
  all_goals rcases known with member | empty
  · exact logs.accessInside (builder.resourceFor source) member
  · simp [empty]
  · exact logs.chronological (builder.resourceFor source) member
  · simp [empty]
  · exact logs.touches (builder.resourceFor source) member
  · simp [empty]
  · exact logs.covered (builder.resourceFor source) member
  · simp [Covered, empty]

section

variable (command : SourceCommandView) (kind : kindOf next = command.kind)
include command kind

theorem Invariant.handleReadback :
    (builder.handleReadback resolver next command).Invariant kindOf
      (next + 1) := by
  unfold Builder.handleReadback
  split
  · exact invariant.skip
  · rename_i source _
    rw [← kind]
    have observed := (invariant.standaloneAccess resolver
      .blit .read (Or.inl rfl) source .copy true _ rfl).1
    simp only
    split
    · exact observed.markReadback source
    · exact observed

theorem Invariant.handleCommand :
    (Builder.handleCommand resolver builder next command).Invariant kindOf
      (next + 1) := by
  unfold Builder.handleCommand
  split <;> rename_i isKind
  · exact invariant.handleDrawRun resolver command (kind.trans isKind)
  · exact invariant.handleClear resolver command (kind.trans isKind)
  · exact invariant.handlePresent resolver command kind
  · rw [handleSurfaceCopy, ← kind]
    exact invariant.handleTransfer resolver command.surfaceCopy
  · rw [handleStretchRect, ← kind]
    exact invariant.handleTransfer resolver command.stretchRect
  · rw [handleColorFill, ← kind]
    exact invariant.handleTransfer resolver _
  · rw [handleDepthResolve, ← kind]
    exact invariant.handleTransfer resolver command.depthResolve
  · exact invariant.handleGenerateMipmaps resolver command kind
  · exact invariant.handleReadback resolver command kind

end

end

/-- The whole walk keeps the invariant. -/
theorem Invariant.runFrom (commands : List SourceCommandView)
    {builder : Builder} (index : Nat)
    (invariant : builder.Invariant kindOf index)
    (kinds : ∀ offset (bound : offset < commands.length),
      kindOf (index + offset) = commands[offset].kind) :
    (Builder.runFrom resolver builder index commands).Invariant kindOf
      (index + commands.length) := by
  induction commands generalizing builder index with
  | nil => exact invariant
  | cons command rest induction =>
      have head : kindOf index = command.kind := kinds 0 (Nat.zero_lt_succ _)
      have step := invariant.handleCommand resolver command head
      have others := induction (index + 1) step (by
        intro offset bound
        have shifted := kinds (offset + 1) (Nat.succ_lt_succ bound)
        rw [Nat.add_right_comm, Nat.add_assoc]
        simpa using shifted)
      rw [List.length_cons, Nat.add_comm rest.length 1, ← Nat.add_assoc]
      exact others

end Builder

end Dxmt9.Framegraph
