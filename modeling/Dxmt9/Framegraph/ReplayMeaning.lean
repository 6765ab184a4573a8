import Dxmt9.Dataflow.Reordering
import Dxmt9.Framegraph.DeferredSuffixSound
import Dxmt9.Framegraph.EncodedPrefix
import Dxmt9.Framegraph.MultiSourceSound
import Dxmt9.Framegraph.OrderSafety
import Dxmt9.Framegraph.SurfaceAccesses

/-!
# What a reordered replay computes

Commands that depend on each other belong to one pass or to conflicting
passes, and no plan reverses those.  Whatever the commands compute, a planned
replay therefore computes what the replay in source order does.
-/

namespace Dxmt9.Framegraph

open Dxmt9.Dataflow
open Dxmt9.Order

/-- What commands do to surfaces; presents and readbacks are observed. -/
def commandFlow {ι : Type} (resolver : ResourceAliasResolver)
    (commandOf : ι → SourceCommandView) : CellFlow ι Handle where
  inputs i := (commandOf i).uses resolver
  outputs i := (commandOf i).updates resolver
  observes i := (commandOf i).kind = .present ∨
    (commandOf i).kind = .readback

/-- Surfaces of the pool resolve to the textures that they alias, if any. -/
def makeResourceAliasResolver (aliasTexture : Handle → Handle)
    (clearCovers : Handle → Bool → Bool → Bool) : ResourceAliasResolver where
  resolve := some fun handle =>
    if aliasTexture handle ≠ 0 then aliasTexture handle else handle
  depthStencilClearCovers := some clearCovers

theorem makeResourceAliasResolver_named {aliasTexture : Handle → Handle}
    {clearCovers : Handle → Bool → Bool → Bool} (surface : Handle)
    (bound : surface ≠ 0) :
    (makeResourceAliasResolver aliasTexture clearCovers).apply surface ≠
      0 := by
  unfold makeResourceAliasResolver ResourceAliasResolver.apply
  dsimp only
  split <;> assumption

/-- Passes of two graphs log a handle, and one of them writes it. -/
def LogsClash (left right : FrameGraph) (first second : Nat) : Prop :=
  ∃ handle, ∃ firstKind ∈ left.accessesIn handle first,
    ∃ secondKind ∈ right.accessesIn handle second,
      accessWrites firstKind = true ∨ accessWrites secondKind = true

theorem mem_accessesIn {graph : FrameGraph} {handle : Handle} {pass : Nat}
    {kind : AccessKind} (logged : kind ∈ graph.accessesIn handle pass) :
    ∃ node, graph.resources.find? (fun node => node.handle == handle) =
        some node ∧ node.handle = handle ∧
      ∃ access ∈ node.accesses, access.passIndex = pass ∧
        access.accessKind = kind := by
  unfold FrameGraph.accessesIn at logged
  cases found : graph.resources.find? fun node => node.handle == handle with
  | none =>
      rw [found] at logged
      contradiction
  | some node =>
      rw [found] at logged
      obtain ⟨access, member, is⟩ := List.mem_map.mp logged
      obtain ⟨member, pass⟩ := List.mem_filter.mp member
      exact ⟨node, rfl, by simpa using List.find?_some found, access, member,
        beq_iff_eq.mp pass, is⟩

variable {left right graph : FrameGraph} {firstPass secondPass : Nat}

theorem LogsClash.across
    (clash : LogsClash left right firstPass secondPass) :
    ConflictAcross left right firstPass secondPass := by
  obtain ⟨handle, _, first, _, second, writes⟩ := clash
  obtain ⟨node, found, named, access, member, pass, rfl⟩ :=
    mem_accessesIn first
  obtain ⟨node', found', named', access', member', pass', rfl⟩ :=
    mem_accessesIn second
  exact ⟨node, List.mem_of_find?_eq_some found, node',
    List.mem_of_find?_eq_some found', named.trans named'.symm, access, member,
    access', member', pass, pass', writes⟩

theorem LogsClash.conflict
    (clash : LogsClash graph graph firstPass secondPass) :
    graph.Conflict firstPass secondPass := by
  obtain ⟨handle, _, first, _, second, writes⟩ := clash
  obtain ⟨node, found, _, access, member, pass, rfl⟩ := mem_accessesIn first
  obtain ⟨_, found', _, access', member', pass', rfl⟩ :=
    mem_accessesIn second
  cases found.symm.trans found'
  exact ⟨node, List.mem_of_find?_eq_some found, access, member, access',
    member', pass, pass', writes⟩

section

variable {resolver : ResourceAliasResolver}
  (named : ∀ surface, surface ≠ 0 → resolver.apply surface ≠ 0)
include named

theorem buildFrameGraph_logs (payload : SourcePayloadView) (frameId : Nat)
    {index : Nat} (inside : index < payload.commandCount) :
    let graph := buildFrameGraph payload frameId resolver
    passEffect resolver (payload.commandAt index) = .skipped ∨
      ∃ pass accesses, index ∈ graph.passCommands pass ∧
        LogsSurfaces resolver accesses (payload.commandAt index) ∧
        ∀ handle kind, (handle, kind) ∈ accesses →
          kind ∈ graph.accessesIn handle pass := by
  intro graph
  have shows := buildFrameGraph_shows payload frameId resolver
  have present : payload.commands[index]? =
      some (payload.commandAt index) := by
    unfold SourcePayloadView.commandAt
    rw [List.getD_eq_getElem _ _ inside, List.getElem?_eq_getElem inside]
  have start : OpenAttached resolver none := fun _ absent => by cases absent
  have logged : _ ∨ ∃ pass ∈ passesFrom resolver none 0 payload.commands, _ :=
    passesFrom_logs named start present
  refine logged.imp_right ?_
  rintro ⟨outline, member, ⟨reference, owned, is⟩, logs⟩
  obtain ⟨pass, bound, rfl⟩ := List.getElem_of_mem member
  have within : pass < graph.passes.length := shows.length ▸ bound
  have shown := (List.forall₂_iff_get.mp shows.passes).2 pass within bound
  refine ⟨pass, _, ?_, logs, fun handle kind logged => ?_⟩
  · unfold FrameGraph.passCommands FrameGraph.pass
    rw [List.getD_eq_getElem _ _ within]
    refine List.mem_map.mpr ⟨reference, ?_, is.trans (Nat.zero_add index)⟩
    exact shown.commands ▸ owned
  · rw [shows.log, List.getD_eq_getElem _ _ bound]
    exact mem_accessesOf.mpr logged

variable {ι : Type} {commandOf : ι → SourceCommandView} {i j : ι}

/-- Dependent commands belong to passes whose logs clash. -/
theorem clash_of_dependent
    (dependent : (commandFlow resolver commandOf).Dependent i j)
    {front behind : SourcePayloadView} {firstIndex secondIndex : Nat}
    (first : commandOf i = front.commandAt firstIndex)
    (second : commandOf j = behind.commandAt secondIndex)
    (firstInside : firstIndex < front.commandCount)
    (secondInside : secondIndex < behind.commandCount) (frame frame' : Nat) :
    let left := buildFrameGraph front frame resolver
    let right := buildFrameGraph behind frame' resolver
    ∃ firstPass secondPass, firstIndex ∈ left.passCommands firstPass ∧
      secondIndex ∈ right.passCommands secondPass ∧
        LogsClash left right firstPass secondPass := by
  intro left right
  obtain ⟨surface, touched⟩ := dependent
  simp only [commandFlow, first, second] at touched
  have covers := passEffect_covers named (front.commandAt firstIndex)
  have covers' := passEffect_covers named (behind.commandAt secondIndex)
  rcases buildFrameGraph_logs named front frame firstInside with
    skipped | ⟨p, accesses, owned, logs, within⟩
  · rw [skipped] at covers
    have := covers surface
    tauto
  rcases buildFrameGraph_logs named behind frame' secondInside with
    skipped | ⟨q, accesses', owned', logs', within'⟩
  · rw [skipped] at covers'
    have := covers' surface
    tauto
  refine ⟨p, q, owned, owned', resolver.apply surface, ?_⟩
  rcases touched with ⟨updated, used | updated'⟩ | ⟨updated', used⟩
  · obtain ⟨kind, writes, logged⟩ := logs.updates surface updated
    obtain ⟨kind', logged'⟩ := logs'.uses surface used
    exact ⟨kind, within _ _ logged, kind', within' _ _ logged', Or.inl writes⟩
  · obtain ⟨kind, writes, logged⟩ := logs.updates surface updated
    obtain ⟨kind', _, logged'⟩ := logs'.updates surface updated'
    exact ⟨kind, within _ _ logged, kind', within' _ _ logged', Or.inl writes⟩
  · obtain ⟨kind, logged⟩ := logs.uses surface used
    obtain ⟨kind', writes, logged'⟩ := logs'.updates surface updated'
    exact ⟨kind, within _ _ logged, kind', within' _ _ logged', Or.inr writes⟩

end

/-- Without elimination the classified passes replay in emission order. -/
theorem emissionOrder_commands (wellFormed : graph.WellFormed)
    (options : OptimizerOptions) (inputs : OptimizerInputs) :
    let classified := classifiedGraph graph options inputs.observations
    ∃ classes,
      Regrouping classes graph.passes.length graph.DependsStep ∧
        (emissionOrder classified options.reorder).flatMap
            classified.passCommands =
          classes.flatten.flatMap graph.passCommands := by
  intro classified
  obtain ⟨classes, regrouped⟩ := optimize_regrouped wellFormed
    { options with dce := false } inputs rfl
  refine ⟨classes, regrouped.regrouping, ?_⟩
  rw [← regrouped.flatMap_passCommands, optimize_eq]
  change _ = (List.range
    (runAfterDce classified options).passes.length).flatMap
      (runAfterDce classified options).passCommands
  have commands := runAfterDce_commands classified options
  have passes := runAfterDce_read classified options
    (fun pass => (classified.commandsOf pass).map CommandRef.commandIndex)
    fun _ _ => rfl
  rw [List.flatMap_def, List.flatMap_def]
  refine congrArg List.flatten (passes.symm.trans ?_)
  conv_lhs => rw [← (runAfterDce classified options).map_pass_range]
  rw [List.map_map]
  apply List.map_congr_left
  intro index _
  simp only [Function.comp, FrameGraph.passCommands, FrameGraph.commandsOf,
    commands]

/-- The commands of live passes are a part of those of all passes. -/
theorem fatedCommands_sublist (dies : Nat → Bool) (order : List Nat) :
    (order.flatMap (fatedCommands graph dies)).Sublist
      (order.flatMap graph.passCommands) := by
  refine List.Sublist.flatMap_right order fun p _ => ?_
  unfold fatedCommands
  split
  · exact List.nil_sublist _
  · exact List.Sublist.refl _

section

variable (built : graph.Built) (options : OptimizerOptions)
  (inputs : OptimizerInputs)
include built options inputs

/-- What is left of the passes is a part of them in a regrouped order. -/
theorem replay_sublist {payload : SourcePayloadView}
    (valid : (planReplayCommands (optimize graph options inputs)
      payload).valid = true) :
    ∃ classes,
      Regrouping classes graph.passes.length graph.DependsStep ∧
        (planReplayCommands (optimize graph options inputs)
          payload).commandIndices.Sublist
            (classes.flatten.flatMap graph.passCommands) := by
  cases dce : options.dce with
  | false =>
      obtain ⟨classes, regrouped⟩ :=
        optimize_regrouped built.toWellFormed options inputs dce
      refine ⟨classes, regrouped.regrouping, ?_⟩
      rw [(replay_of_regrouped built regrouped valid).1]
  | true =>
      obtain ⟨classes, regrouping, listed⟩ :=
        emissionOrder_commands built.toWellFormed options inputs
      refine ⟨classes, regrouping, ?_⟩
      have live := runAfterDce_liveCommands
        (classifiedGraph graph options inputs.observations) options
        inputs.lookahead (optimize graph options inputs).passes.length
      have same : optimize graph options inputs = runAfterDce (eliminatedGraph
          (classifiedGraph graph options inputs.observations)
          inputs.lookahead) options := by
        rw [optimize_eq, if_pos dce]
      rw [← same] at live
      dsimp only at live
      rw [List.take_length] at live
      rw [(planReplayCommands_valid valid).indices, liveIndices_owned, live,
        ← listed]
      exact ((List.take_sublist _ _).flatMap _).trans
        (fatedCommands_sublist _ _)

theorem deadCommands_optimize
    (noDce : options.dce = false) :
    deadCommands (optimize graph options inputs) = [] := by
  obtain ⟨classes, regrouped⟩ :=
    optimize_regrouped built.toWellFormed options inputs noDce
  refine List.flatMap_eq_nil_iff.mpr fun pass member => ?_
  obtain ⟨old, oldMember, flags⟩ := regrouped.exists_flags member
  rw [flags, built.unflagged old oldMember]
  rfl

end

/--
The optimized replay computes what its commands compute in source order.

Whatever the commands do to the surfaces that they touch, the replay of a
valid plan leaves every surface as the commands of the live passes would in
source order, and each of its presents and readbacks sees the same.
-/
theorem optimized_replay_preserves (payload : SourcePayloadView)
    (frameId : Nat) (resolver : ResourceAliasResolver)
    (options : OptimizerOptions) (inputs : OptimizerInputs)
    (named : ∀ surface, surface ≠ 0 → resolver.apply surface ≠ 0) :
    let final :=
      optimize (buildFrameGraph payload frameId resolver) options inputs
    let plan := planReplayCommands final payload
    let live := (List.range payload.commandCount).filter fun index =>
      index ∉ deadCommands final
    let flow := commandFlow resolver payload.commandAt
    plan.valid = true →
      (options.dce = false → live = List.range payload.commandCount) ∧
      ∀ (ν : Type) (effect : Nat → (Handle → Option ν) → Handle → ν)
        (store : Handle → ν),
        flow.exec effect store plan.commandIndices =
            flow.exec effect store live ∧
          (flow.observed effect store plan.commandIndices).Perm
            (flow.observed effect store live) := by
  intro final plan live flow valid
  have built := buildFrameGraph_built payload frameId resolver
  have once := planReplayCommands_valid valid
  have parts : (plan.commandIndices ++ deadCommands final).Perm
      (List.range payload.commandCount) := by
    rw [once.indices]
    exact (live_dead_perm final).trans once.complete
  have distinct := parts.nodup_iff.mpr List.nodup_range
  have apart : ∀ index ∈ plan.commandIndices, index ∉ deadCommands final :=
    fun index member => List.disjoint_of_nodup_append distinct member
  have perm : plan.commandIndices.Perm live := by
    have kept := parts.filter fun index => index ∉ deadCommands final
    rw [List.filter_append, List.filter_eq_self.mpr fun index member =>
        decide_eq_true (apart index member),
      List.filter_eq_nil_iff.mpr (by simp), List.append_nil] at kept
    exact kept
  refine ⟨fun noDce => List.filter_eq_self.mpr fun index _ => ?_,
    fun ν effect store => flow.exec_of_perm effect perm
      (List.nodup_range.filter _) fun first second dependent ordered => ?_⟩
  · rw [deadCommands_optimize built options inputs noDce]
    rfl
  have increasing : first < second := List.rel_of_pairwise_cons
    ((List.pairwise_lt_range.filter _).sublist ordered) List.mem_cons_self
  have inside : ∀ index ∈ live, index < payload.commandCount :=
    fun index member => List.mem_range.mp (List.mem_filter.mp member).1
  obtain ⟨p, q, firstOwned, secondOwned, clash⟩ :=
    clash_of_dependent named dependent rfl rfl (inside _ ordered.mem.1)
      (inside _ ordered.mem.2) frameId frameId
  obtain ⟨classes, regrouping, part⟩ :=
    replay_sublist built options inputs valid
  -- every command of the built graph stands once in the regrouped order
  have single : (classes.flatten.flatMap (buildFrameGraph payload frameId
      resolver).passCommands).Nodup := by
    refine (regrouping.complete.flatMap_right _).nodup_iff.mpr ?_
    rw [built.tiled]
    exact built.increasing.imp Nat.ne_of_lt
  refine Precedes.within ?_ single part (perm.mem_iff.mpr ordered.mem.1)
    (perm.mem_iff.mpr ordered.mem.2)
  by_cases same : p = q
  · subst same
    exact built.prefixed.pass_precedes built regrouping firstOwned
      secondOwned increasing
  · exact built.prefixed.conflict_precedes built regrouping same
      clash.conflict firstOwned secondOwned increasing

/-- One of four draws is overwritten and dies; the three that are left are
reordered, and compute what they compute in source order. -/
theorem optimized_replay_preserves_draws :
    let payload : SourcePayloadView :=
      { commands := [.drawTo 1, .drawTo 2, .drawTo 3, .drawTo 1] }
    let plan := planReplayCommands
      (optimize (buildFrameGraph payload 0 {})
        { dce := true, passcoalesce := true }
        { lookahead := { fullyOverwrittenBeforeRead := [2] } }) payload
    let flow := commandFlow {} payload.commandAt
    plan.commandIndices = [0, 3, 2] ∧
      ∀ (effect : Nat → (Handle → Option Nat) → Handle → Nat)
        (store : Handle → Nat),
        flow.exec effect store [0, 3, 2] =
          flow.exec effect store [0, 2, 3] := by
  intro payload plan flow
  have order : plan.commandIndices = [0, 3, 2] := by decide
  have live : (List.range payload.commandCount).filter (fun index =>
      index ∉ deadCommands (optimize (buildFrameGraph payload 0 {})
        { dce := true, passcoalesce := true }
        { lookahead := { fullyOverwrittenBeforeRead := [2] } })) =
      [0, 2, 3] := by decide
  refine ⟨order, fun effect store => ?_⟩
  have same := (optimized_replay_preserves payload 0 {}
    { dce := true, passcoalesce := true }
    { lookahead := { fullyOverwrittenBeforeRead := [2] } }
    (fun _ bound => bound) (by decide)).2 Nat effect store
  rw [← order, ← live]
  exact same.1

variable {sources : List MultiSourcePlanningSource}

section

variable (acceptable : (validateSources sources).isSome = true)
  (activeRenderSeed : Option ActiveRenderPlanningSeed)
include acceptable activeRenderSeed

/-- A plan orders the whole window, and keeps the conflicts of passes. -/
theorem planMultiSource_keeps
    (resolver : ResourceAliasResolver) (collectWitnesses : Bool) :
    let plan := planMultiSourcePassCoalesceReplay sources activeRenderSeed
      resolver collectWitnesses
    ReplayPermutation sources plan.commands ∧
      KeepsConflicts resolver sources plan.commands := by
  intro plan
  rcases planMultiSource_cases acceptable activeRenderSeed resolver
      collectWitnesses with
    ⟨natural, _⟩ | ⟨appended, prepared, equal, prepares, published⟩
  · have natural : plan.commands = naturalPlan sources := natural
    rw [natural]
    exact ⟨naturalPlan_permutation sources,
      naturalPlan_keepsConflicts resolver sources⟩
  · have published : Published sources (naturalPlan sources) _ _ plan :=
      published
    have built := (appendSources_spec sources FrameGraph.Assembled.empty
      (fun _ member => absurd member List.not_mem_nil) equal).1.built
    obtain ⟨offset, small, prefixed⟩ := prepared_prefixed built prepares
    obtain ⟨classes, regrouped⟩ := optimize_regrouped prefixed.wellFormed
      { passcoalesce := true } (planningInputs prepared
        (collectWitnesses && activeRenderSeed.isSome)) rfl
    refine ⟨(validateMultiSourceReplayPermutation_eq_valid.mp
      published.validated).2, ?_⟩
    rw [flattenGraph_eq published.flattened]
    exact regrouped_keepsConflicts equal prefixed regrouped

/--
A replay planned over several sources computes what they compute in turn.

Whatever the commands do to the surfaces that they touch, the planned order
leaves every surface as the sources would one after the other, and each
present and readback sees the same.
-/
theorem planned_replay_preserves
    (resolver : ResourceAliasResolver) (collectWitnesses : Bool)
    (named : ∀ surface, surface ≠ 0 → resolver.apply surface ≠ 0)
    (ν : Type) (effect : RetainedSourceCommandLocator →
      (Handle → Option ν) → Handle → ν) (store : Handle → ν) :
    let plan := planMultiSourcePassCoalesceReplay sources activeRenderSeed
      resolver collectWitnesses
    let flow := commandFlow resolver (commandAt sources)
    flow.exec effect store plan.commands =
        flow.exec effect store (naturalPlan sources) ∧
      (flow.observed effect store plan.commands).Perm
        (flow.observed effect store (naturalPlan sources)) := by
  intro plan flow
  obtain ⟨permutation, keeps⟩ := planMultiSource_keeps acceptable
    activeRenderSeed resolver collectWitnesses
  have distinct := naturalPlan_nodup sources
  have perm : plan.commands.Perm (naturalPlan sources) :=
    (List.perm_ext_iff_of_nodup permutation.nodup distinct).mpr
      fun locator => (permutation.complete locator).trans mem_naturalPlan.symm
  refine flow.exec_of_perm effect perm distinct
    fun first second dependent ordered => ?_
  have before : NaturallyBefore first second := List.rel_of_pairwise_cons
    ((naturalPlan_pairwise sources).sublist ordered) List.mem_cons_self
  have inside : ∀ locator ∈ naturalPlan sources, locator.commandIndex <
      (sources.getD locator.retainedSourceIndex
        default).payload.commandCount := by
    intro locator member
    obtain ⟨source, present, bound⟩ := mem_naturalPlan.mp member
    rw [List.getD_eq_getElem?_getD, present]
    exact bound
  obtain ⟨p, q, firstOwned, secondOwned, clash⟩ :=
    clash_of_dependent named dependent rfl rfl (inside _ ordered.mem.1)
      (inside _ ordered.mem.2) first.retainedSourceIndex
      second.retainedSourceIndex
  exact keeps first second before p q firstOwned secondOwned clash.across

end

/-- A draw of the second source continues the open pass and moves ahead; its
surface aliases a texture of the pool. -/
theorem planned_replay_preserves_moved :
    let sources : List MultiSourcePlanningSource :=
      [{ payload := { commands := [.drawTo 2] } },
        { payload := { commands := [.drawTo 1, .drawTo 2] } }]
    let resolver := makeResourceAliasResolver
      (fun surface => if surface = 1 then 7 else 0)
      fun _ clearDepth clearStencil => clearDepth && clearStencil
    let seed : ActiveRenderPlanningSeed :=
      { targets := attachmentSetFromHot
          { colorAttachments := #v[{ handle := 1 }, {}, {}, {}] }
        writeDependencies := #v[1, 0, 0, 0, 0]
        dependencyCount := 1
        complete := true }
    let plan :=
      planMultiSourcePassCoalesceReplay sources (some seed) resolver true
    let flow := commandFlow resolver (commandAt sources)
    plan.commands = [⟨1, 0⟩, ⟨0, 0⟩, ⟨1, 1⟩] ∧
      ∀ (effect : RetainedSourceCommandLocator → (Handle → Option Nat) →
          Handle → Nat) (store : Handle → Nat),
        flow.exec effect store plan.commands =
          flow.exec effect store (naturalPlan sources) := by
  intro sources resolver seed plan flow
  refine ⟨by decide, fun effect store => ?_⟩
  exact (planned_replay_preserves (by decide) (some seed) resolver true
    makeResourceAliasResolver_named Nat effect store).1

variable {resolver : ResourceAliasResolver}

theorem single_pass {command : SourceCommandView} {frame index pass : Nat}
    (owned : index ∈ (buildFrameGraph { commands := [command] } frame
      resolver).passCommands pass) : pass = 0 := by
  have shows := buildFrameGraph_shows { commands := [command] } frame resolver
  have bound := FrameGraph.lt_of_mem_passCommands owned
  have few : (passesFrom resolver none 0 [command]).length ≤ 1 := by
    cases effect : passEffect resolver command <;>
      simp [passesFrom, effect, continuedPass]
  exact Nat.lt_one_iff.mp ((shows.length ▸ bound).trans_le few)

theorem conflict_of_dependent {ι : Type} {commandOf : ι → SourceCommandView}
    (named : ∀ surface, surface ≠ 0 → resolver.apply surface ≠ 0) {i j : ι}
    (dependent : (commandFlow resolver commandOf).Dependent i j) :
    CommandsConflict resolver (commandOf i) (commandOf j) := by
  have alone : ∀ command : SourceCommandView, command =
      SourcePayloadView.commandAt { commands := [command] } 0 := fun _ => rfl
  obtain ⟨p, q, first, second, clash⟩ := clash_of_dependent named dependent
    (alone _) (alone _) Nat.one_pos Nat.one_pos 0 0
  cases single_pass first
  cases single_pass second
  exact clash

/--
The joined replay of a qualified plan computes what the natural replay does.

Whatever the commands do to the surfaces that they touch, moving the successor
in front of the suffix leaves every surface the same.
-/
theorem deferred_replay_preserves
    (current successor : DeferredTerminalSuffixPlanningSourceView)
    (activeRender : ActiveRenderPlanningSeed)
    (aliasResolver : ResourceAliasResolver)
    (named : ∀ surface, surface ≠ 0 → aliasResolver.apply surface ≠ 0)
    (qualified : (planDeferredTerminalSuffixReplay current successor
      activeRender aliasResolver).qualified = true)
    (ν : Type) (effect : RetainedSourceCommandLocator →
      (Handle → Option ν) → Handle → ν) (store : Handle → ν) :
    let proof := (planDeferredTerminalSuffixReplay current successor
      activeRender aliasResolver).proof
    let flow := commandFlow aliasResolver
      (commandAt [⟨current.payload⟩, ⟨successor.payload⟩])
    flow.exec effect store proof.joinedReplay.toList =
        flow.exec effect store proof.naturalReplay.toList ∧
      (flow.observed effect store proof.joinedReplay.toList).Perm
        (flow.observed effect store proof.naturalReplay.toList) := by
  intro proof flow
  obtain ⟨targetsA, targetsB, resourcesA, resourcesB, proofIs, checked⟩ :=
    planDeferredTerminalSuffixReplay_qualified qualified
  rw [show proof = _ from proofIs]
  refine flow.exec_of_perm effect
    (by decide : suffixJoinedReplay.toList.Perm suffixNaturalReplay.toList)
    (by decide : suffixNaturalReplay.toList.Nodup)
    fun first second dependent ordered => ?_
  have conflict := conflict_of_dependent named dependent
  rcases suffix_order first second with same | moved
  · exact same.mp ordered
  · simp only [List.mem_cons, Prod.mk.injEq, List.not_mem_nil,
      or_false] at moved
    rcases moved with ⟨rfl, rfl⟩ | ⟨rfl, rfl⟩ | ⟨rfl, rfl⟩ | ⟨rfl, rfl⟩
    · exact absurd conflict checked.clear_free
    · exact absurd conflict.symm checked.clear_free
    · exact absurd conflict checked.draw_free
    · exact absurd conflict.symm checked.draw_free

/-- The draw that returns to the first target may run before the clear. -/
theorem deferred_replay_preserves_twoTargets :
    let flow := commandFlow {}
      (commandAt [⟨twoTargetSource.payload⟩, ⟨returningSource.payload⟩])
    ∀ (effect : RetainedSourceCommandLocator → (Handle → Option Nat) →
        Handle → Nat) (store : Handle → Nat),
      flow.exec effect store [⟨0, 0⟩, ⟨1, 0⟩, ⟨0, 1⟩, ⟨0, 2⟩] =
        flow.exec effect store [⟨0, 0⟩, ⟨0, 1⟩, ⟨0, 2⟩, ⟨1, 0⟩] := by
  intro flow effect store
  have qualified : (planDeferredTerminalSuffixReplay twoTargetSource
      returningSource firstTargetSeed {}).qualified = true := by
    decide +kernel
  have same := (deferred_replay_preserves twoTargetSource returningSource
    firstTargetSeed {} (fun _ bound => bound) qualified Nat effect store).1
  obtain ⟨_, _, _, _, proofIs, _⟩ :=
    planDeferredTerminalSuffixReplay_qualified qualified
  rw [proofIs] at same
  exact same

end Dxmt9.Framegraph
