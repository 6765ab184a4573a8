import Dxmt9.Framegraph.CombinedBuilt
import Dxmt9.Framegraph.ReplayPermutation

/-!
# Soundness of the multi-source planner

Whatever the seed and the resolver are, the planner returns a permutation of
the window that moves only draws across sources and keeps the natural order
of commands whose passes conflict.  A moved head stands at the front of the
pass that absorbed the seed.
-/

namespace Dxmt9.Framegraph

open Relation
open Dxmt9.Order

variable {sources : List MultiSourcePlanningSource}

theorem naturalFallback_eq
    (acceptable : (validateSources sources).isSome = true) :
    naturalFallback sources =
      { commands := naturalPlan sources
        disposition := .naturalFifo
        validation := .valid } := by
  have accepted := validateMultiSourceReplayPermutation_eq_valid.mpr
    ⟨acceptable, naturalPlan_permutation sources⟩
  obtain ⟨total, counted⟩ := Option.isSome_iff_exists.mp acceptable
  unfold naturalFallback
  rw [counted]
  simp only [accepted, if_true]

/-- The frame graph of one source of the window. -/
def sourceGraph (resolver : ResourceAliasResolver)
    (sources : List MultiSourcePlanningSource) (index : Nat) : FrameGraph :=
  buildFrameGraph (sources.getD index default).payload index resolver

theorem buildFrameGraph_consumed (payload : SourcePayloadView)
    (frameId : Nat) (resolver : ResourceAliasResolver) :
    ∀ ref ∈ (buildFrameGraph payload frameId resolver).commands,
      ref.commandIndex < payload.commandCount := by
  obtain ⟨builder, equal, invariant⟩ :=
    buildFrameGraph_invariant payload frameId resolver
  rw [equal]
  exact invariant.ranges.consumed

variable {resolver : ResourceAliasResolver} {pass : Nat}

theorem lt_of_mem_buildFrameGraph {payload : SourcePayloadView}
    {frameId : Nat} {command : Nat}
    (owned : command ∈
      (buildFrameGraph payload frameId resolver).passCommands pass) :
    command < payload.commandCount := by
  obtain ⟨ref, listed, rfl⟩ := List.mem_map.mp owned
  exact buildFrameGraph_consumed payload frameId resolver ref
    (List.mem_of_mem_drop (List.mem_of_mem_take listed))

theorem inWindow_of_owned
    {locator : RetainedSourceCommandLocator}
    (owned : locator.commandIndex ∈
      (sourceGraph resolver sources
        locator.retainedSourceIndex).passCommands pass) :
    InWindow sources locator := by
  have bound := lt_of_mem_buildFrameGraph owned
  rw [List.getD_eq_getElem?_getD] at bound
  cases present : sources[locator.retainedSourceIndex]? with
  | some source =>
      rw [present] at bound
      exact ⟨source, present, bound⟩
  | none =>
      rw [present] at bound
      exact absurd bound (Nat.not_lt_zero _)

variable {commandBase : Nat} {combined : FrameGraph}

theorem appendSources_spec
    (sources : List MultiSourcePlanningSource) {sourceIndex : Nat}
    {final : FrameGraph} (assembled : combined.Assembled)
    (consumed : ∀ command ∈ combined.commands,
      command.commandIndex < commandBase)
    (appended : appendSources resolver sources sourceIndex commandBase
      combined = some final) :
    final.Assembled ∧ combined.Placed 0 0 final ∧
      ∀ index source, sources[index]? = some source →
        ∃ offset,
          (buildFrameGraph source.payload (sourceIndex + index)
            resolver).Placed offset (commandBase + sourceBase sources index)
              final := by
  induction sources generalizing sourceIndex commandBase combined with
  | nil =>
      obtain rfl := Option.some.inj appended
      refine ⟨assembled, ?_, by simp⟩
      exact
        { passCommands := fun _ _ => by simp
          logs := fun node member => ⟨node, member, rfl, by
            rw [show AccessLog.shift 0 = id from rfl, List.map_id]
            exact List.Subset.refl _⟩
          inside := Nat.le_refl _ }
  | cons head rest induction =>
      unfold appendSources at appended
      simp only at appended
      split at appended
      · contradiction
      rename_i next nextEq
      have headBuilt := buildFrameGraph_built head.payload sourceIndex resolver
      unfold appendSourceGraph at nextEq
      split at nextEq
      · contradiction
      obtain rfl := Option.some.inj nextEq
      have nextAssembled := concatenated_assembled assembled
        headBuilt.assembled consumed
      have nextConsumed : ∀ command ∈ (concatenated combined
          (buildFrameGraph head.payload sourceIndex resolver)
          commandBase).commands,
          command.commandIndex < commandBase + head.commandCount := by
        intro command member
        rcases List.mem_append.mp member with old | new
        · exact Nat.lt_add_right _ (consumed command old)
        · obtain ⟨ref, listed, rfl⟩ := List.mem_map.mp new
          have bound := buildFrameGraph_consumed head.payload sourceIndex
            resolver ref listed
          unfold MultiSourcePlanningSource.commandCount
          simp only
          omega
      obtain ⟨finalAssembled, placedNext, placedRest⟩ :=
        induction nextAssembled nextConsumed appended
      refine ⟨finalAssembled, (placed_left assembled).trans placedNext, ?_⟩
      intro index source present
      cases index with
      | zero =>
          obtain rfl := Option.some.inj present
          exact ⟨combined.passes.length,
            (placed_right assembled).trans placedNext⟩
      | succ index =>
          obtain ⟨offset, placed⟩ := placedRest index source present
          refine ⟨offset, ?_⟩
          have base : sourceBase (head :: rest) (index + 1) =
              head.commandCount + sourceBase rest index := by
            simp [sourceBase]
          rw [base, ← Nat.add_assoc commandBase,
            show sourceIndex + (index + 1) = sourceIndex + 1 + index by omega]
          exact placed

/--
Accesses of two passes of possibly different graphs conflict.

Both passes log the same canonical handle and one of them writes it.
-/
def ConflictAcross (left right : FrameGraph) (first second : Nat) : Prop :=
  ∃ leftNode ∈ left.resources, ∃ rightNode ∈ right.resources,
    leftNode.handle = rightNode.handle ∧
      ∃ leftAccess ∈ leftNode.accesses, ∃ rightAccess ∈ rightNode.accesses,
        leftAccess.passIndex = first ∧ rightAccess.passIndex = second ∧
          leftAccess.Conflicts rightAccess

instance (left right : FrameGraph) (first second : Nat) :
    Decidable (ConflictAcross left right first second) :=
  inferInstanceAs (Decidable (∃ leftNode ∈ left.resources,
    ∃ rightNode ∈ right.resources, _ ∧ ∃ leftAccess ∈ leftNode.accesses,
      ∃ rightAccess ∈ rightNode.accesses, _ ∧ _ ∧ _))

theorem FrameGraph.Placed.conflict {left right whole : FrameGraph}
    {leftOffset rightOffset leftBase rightBase first second : Nat}
    (leftPlaced : left.Placed leftOffset leftBase whole)
    (rightPlaced : right.Placed rightOffset rightBase whole)
    (distinct : (whole.resources.map ResourceNode.handle).Nodup)
    (conflict : ConflictAcross left right first second) :
    whole.Conflict (first + leftOffset) (second + rightOffset) := by
  obtain ⟨leftNode, leftMember, rightNode, rightMember, sameHandle,
    leftAccess, leftLogged, rightAccess, rightLogged, rfl, rfl,
    conflicts⟩ := conflict
  obtain ⟨node, member, named, within⟩ := leftPlaced.logs leftNode leftMember
  obtain ⟨other, otherMember, otherNamed, otherWithin⟩ :=
    rightPlaced.logs rightNode rightMember
  have same : node = other :=
    List.inj_on_of_nodup_map distinct member otherMember
      (named.trans (sameHandle.trans otherNamed.symm))
  subst same
  exact ⟨node, member, leftAccess.shift leftOffset,
    within (List.mem_map_of_mem leftLogged),
    rightAccess.shift rightOffset,
    otherWithin (List.mem_map_of_mem rightLogged), rfl, rfl, conflicts⟩

variable {scan next : FlattenScan}

theorem flattenCommand_commands {ref : CommandRef}
    (accepted : flattenCommand sources commandBase scan ref = some next) :
    next.commands =
      scan.commands ++ [locateFlattened sources ref.commandIndex] := by
  unfold flattenCommand at accepted
  split at accepted
  · contradiction
  · simp only at accepted
    split at accepted
    · contradiction
    · rw [← Option.some.inj accepted]

theorem foldlM_flattenCommand (refs : List CommandRef)
    (accepted : refs.foldlM (flattenCommand sources commandBase) scan =
      some next) :
    next.commands = scan.commands ++
      (refs.map CommandRef.commandIndex).map (locateFlattened sources) := by
  induction refs generalizing scan with
  | nil =>
      rw [← Option.some.inj accepted]
      simp
  | cons ref rest induction =>
      rw [List.foldlM_cons] at accepted
      cases step : flattenCommand sources commandBase scan ref with
      | none => simp [step] at accepted
      | some middle =>
          rw [step] at accepted
          rw [induction accepted, flattenCommand_commands step]
          simp

variable {graph : FrameGraph}

theorem foldlM_flattenPass (passes : List PassNode)
    (accepted : passes.foldlM (flattenPass sources commandBase graph) scan =
      some next) :
    next.commands = scan.commands ++
      (passes.flatMap fun pass =>
        (graph.commandsOf pass).map CommandRef.commandIndex).map
          (locateFlattened sources) := by
  induction passes generalizing scan with
  | nil =>
      rw [← Option.some.inj accepted]
      simp
  | cons pass rest induction =>
      rw [List.foldlM_cons] at accepted
      cases step : flattenPass sources commandBase graph scan pass with
      | none => simp [step] at accepted
      | some middle =>
          rw [step] at accepted
          unfold flattenPass at step
          split at step
          · contradiction
          · rw [induction accepted, foldlM_flattenCommand _ step]
            simp

theorem flattenGraph_eq
    {commands : List RetainedSourceCommandLocator}
    (flattened : flattenGraph sources commandBase graph = some commands) :
    commands = ((List.range graph.passes.length).flatMap
      graph.passCommands).map (locateFlattened sources) := by
  unfold flattenGraph at flattened
  split at flattened
  · contradiction
  · rename_i scan accepted
    split at flattened
    · rw [← Option.some.inj flattened, foldlM_flattenPass _ accepted]
      conv_lhs => rw [← graph.map_pass_range]
      rw [List.flatMap_map]
      rfl
    · contradiction

/-- Commands of conflicting built passes keep their natural order. -/
def KeepsConflicts (resolver : ResourceAliasResolver)
    (sources : List MultiSourcePlanningSource)
    (commands : List RetainedSourceCommandLocator) : Prop :=
  ∀ first second, NaturallyBefore first second →
    ∀ firstPass secondPass,
      first.commandIndex ∈
        (sourceGraph resolver sources
          first.retainedSourceIndex).passCommands firstPass →
      second.commandIndex ∈
        (sourceGraph resolver sources
          second.retainedSourceIndex).passCommands secondPass →
      ConflictAcross
        (sourceGraph resolver sources first.retainedSourceIndex)
        (sourceGraph resolver sources second.retainedSourceIndex)
        firstPass secondPass →
      Precedes commands first second

theorem naturalPlan_precedes
    {first second : RetainedSourceCommandLocator}
    (firstIn : InWindow sources first) (secondIn : InWindow sources second)
    (ordered : NaturallyBefore first second) :
    Precedes (naturalPlan sources) first second := by
  have antisymmetric : (naturalPlan sources).Pairwise
      fun earlier later => ¬ NaturallyBefore later earlier := by
    refine (naturalPlan_pairwise sources).imp fun before after => ?_
    unfold NaturallyBefore at before after
    omega
  exact precedes_of_pairwise antisymmetric (mem_naturalPlan.mpr firstIn)
    (mem_naturalPlan.mpr secondIn) ordered.ne ordered

theorem naturalPlan_keepsConflicts (resolver : ResourceAliasResolver)
    (sources : List MultiSourcePlanningSource) :
    KeepsConflicts resolver sources (naturalPlan sources) := by
  intro first second ordered firstPass secondPass firstOwned secondOwned _
  exact naturalPlan_precedes (inWindow_of_owned firstOwned)
    (inWindow_of_owned secondOwned) ordered

variable {prepared optimized : FrameGraph} {classes : List (List Nat)}

theorem regrouped_keepsConflicts
    {appended : FrameGraph} {offset : Nat}
    (equal : appendSources resolver sources 0 0 {} = some appended)
    (prefixed : (inferCombinedHazards appended).Prefixed offset prepared)
    (regrouped : prepared.Regrouped classes optimized) :
    KeepsConflicts resolver sources
      (((List.range optimized.passes.length).flatMap
        optimized.passCommands).map (locateFlattened sources)) := by
  obtain ⟨assembled, _, placed⟩ := appendSources_spec sources
    FrameGraph.Assembled.empty (fun _ member =>
      absurd member List.not_mem_nil) equal
  have built := assembled.built
  have owned : ∀ {locator : RetainedSourceCommandLocator} {pass},
      locator.commandIndex ∈ (sourceGraph resolver sources
        locator.retainedSourceIndex).passCommands pass →
      ∃ passBase,
        (sourceGraph resolver sources locator.retainedSourceIndex).Placed
          passBase (sourceBase sources locator.retainedSourceIndex) appended ∧
        naturalIndex sources locator ∈
          (inferCombinedHazards appended).passCommands
            (pass + passBase) := by
    intro locator pass owned
    obtain ⟨source, present, _⟩ := inWindow_of_owned owned
    obtain ⟨passBase, place⟩ := placed _ source present
    simp only [Nat.zero_add] at place
    have graph : sourceGraph resolver sources locator.retainedSourceIndex =
          buildFrameGraph source.payload locator.retainedSourceIndex
            resolver := by
      simp [sourceGraph, present]
    refine ⟨passBase, graph ▸ place, ?_⟩
    have located := place.passCommands pass
      (FrameGraph.lt_of_mem_passCommands (graph ▸ owned))
    rw [show (inferCombinedHazards appended).passCommands =
      appended.passCommands from rfl, located]
    refine List.mem_map.mpr ⟨locator.commandIndex, graph ▸ owned, ?_⟩
    exact Nat.add_comm _ _
  intro first second ordered firstPass secondPass firstOwned secondOwned
    conflict
  have firstIn := inWindow_of_owned firstOwned
  have secondIn := inWindow_of_owned secondOwned
  obtain ⟨firstBase, firstPlaced, firstListed⟩ := owned firstOwned
  obtain ⟨secondBase, secondPlaced, secondListed⟩ := owned secondOwned
  have increasing := (naturalIndex_lt_iff firstIn secondIn).mpr ordered
  rw [regrouped.flatMap_passCommands]
  have flattened : Precedes (classes.flatten.flatMap prepared.passCommands)
      (naturalIndex sources first) (naturalIndex sources second) := by
    by_cases same : firstPass + firstBase = secondPass + secondBase
    · exact prefixed.pass_precedes built regrouped.regrouping firstListed
        (same ▸ secondListed) increasing
    · exact prefixed.conflict_precedes built regrouped.regrouping same
        (firstPlaced.conflict secondPlaced assembled.handles conflict)
        firstListed secondListed increasing
  have located := flattened.map (locateFlattened sources)
  rwa [locateFlattened_naturalIndex firstIn,
    locateFlattened_naturalIndex secondIn] at located

/-- Pass `index` of `optimized` gathers the virtual pass of the seed. -/
def AbsorbedSeed (seeded optimized : FrameGraph) (index : Nat) : Prop :=
  (optimized.pass index).flags.activeRenderSeed = true ∧
    ∃ classes, seeded.Regrouped classes optimized ∧
      0 ∈ classAt classes index

theorem exists_pass_of_provesReplayHead {head : Nat}
    (proved : activeRenderPlanningSeedProvesReplayHead graph head = true) :
    ∃ index < graph.passes.length,
      (graph.pass index).flags.activeRenderSeed = true ∧
        (graph.passCommands index).head? = some head := by
  unfold activeRenderPlanningSeedProvesReplayHead at proved
  split at proved
  · contradiction
  · rename_i pass found
    have carries := List.find?_some found
    obtain ⟨index, bound, rfl⟩ :=
      FrameGraph.exists_pass_eq (List.mem_of_find?_eq_some found)
    simp only [carriesSeed, Bool.and_eq_true, decide_eq_true_eq] at carries
    obtain ⟨⟨⟨⟨⟨flagged, _⟩, _⟩, nonempty⟩, inside⟩, _⟩ := carries
    refine ⟨index, bound, flagged, ?_⟩
    have headEq := of_decide_eq_true proved
    rw [List.getD_eq_getElem _ _ inside] at headEq
    unfold FrameGraph.passCommands FrameGraph.commandsOf
    rw [List.head?_map, List.head?_take, if_neg nonempty, List.head?_drop,
      List.getElem?_eq_getElem inside, Option.map_some, headEq]

theorem absorbedSeed_of_flagged {origin seeded : FrameGraph} (prefixed : origin.Prefixed 1 seeded)
    (regrouped : seeded.Regrouped classes optimized) {index : Nat}
    (bound : index < optimized.passes.length)
    (flagged : (optimized.pass index).flags.activeRenderSeed = true) :
    AbsorbedSeed seeded optimized index := by
  rw [regrouped.length] at bound
  obtain ⟨first, rest, listed, header⟩ := regrouped.leader index bound
  have member : first ∈ classAt classes index := listed ▸ List.mem_cons_self
  have flags : (optimized.pass index).flags = (seeded.pass first).flags :=
    congrArg (fun pass => pass.flags) header
  rw [flags] at flagged
  have leading := prefixed.seeded first
    (regrouped.regrouping.lt_of_mem member) flagged
  have first0 : first = 0 := by omega
  exact ⟨flags ▸ flagged, classes, regrouped, first0 ▸ member⟩

/-- The command is the first of the pass that absorbed the seed. -/
def HeadsAbsorbingPass (resolver : ResourceAliasResolver)
    (sources : List MultiSourcePlanningSource)
    (seed : ActiveRenderPlanningSeed) (collectWitnesses : Bool)
    (head : RetainedSourceCommandLocator) : Prop :=
  ∃ appended seeded index,
    appendSources resolver sources 0 0 {} = some appended ∧
    applyActiveRenderPlanningSeed (inferCombinedHazards appended) seed
      resolver = (.applied, seeded) ∧
    let optimized := optimize seeded { passcoalesce := true }
      (planningInputs seeded collectWitnesses)
    AbsorbedSeed seeded optimized index ∧
      (optimized.passCommands index).head? =
        some (naturalIndex sources head)

/-! ## The planner -/

/-- A plan that is not the fallback passed every check. -/
structure Published (sources : List MultiSourcePlanningSource)
    (natural : List RetainedSourceCommandLocator) (optimized : FrameGraph)
    (seeded : Bool) (plan : MultiSourceReplayPlan) : Prop where
  planned : plan.disposition = .planned
  flattened : flattenGraph sources (sourceBase sources sources.length)
    optimized = some plan.commands
  validated : validateMultiSourceReplayPermutation sources plan.commands =
    .valid
  head : seeded = true →
    plan.commands.headD default ≠ natural.headD default →
      activeRenderPlanningSeedProvesReplayHead optimized
        (naturalIndex sources (plan.commands.headD default)) = true

theorem planPreparedGraph_cases (sources : List MultiSourcePlanningSource)
    (fallback : MultiSourceReplayPlan)
    (diagnostics : MultiSourceReplayDiagnostics) (graph : FrameGraph)
    (seeded collectWitnesses : Bool) :
    let plan := planPreparedGraph sources fallback diagnostics graph seeded
      collectWitnesses
    (plan.commands = fallback.commands ∧
        plan.disposition = fallback.disposition) ∨
      Published sources fallback.commands
        (optimize graph { passcoalesce := true }
          (planningInputs graph (collectWitnesses && seeded)))
        seeded plan := by
  intro plan
  unfold plan planPreparedGraph
  simp only
  split
  · exact Or.inl ⟨rfl, rfl⟩
  split
  · exact Or.inl ⟨rfl, rfl⟩
  rename_i commands flattened
  unfold publishPlan
  simp only
  split
  · exact Or.inl ⟨rfl, rfl⟩
  rename_i validated
  split
  · exact Or.inl ⟨rfl, rfl⟩
  split
  · exact Or.inl ⟨rfl, rfl⟩
  rename_i proved
  refine Or.inr ⟨rfl, flattened, not_not.mp validated, ?_⟩
  intro isSeeded moved
  subst isSeeded
  simp only [Bool.true_and, Bool.and_eq_true, decide_eq_true_eq,
    Bool.not_eq_true', not_and, Bool.not_eq_false] at proved
  exact proved moved

theorem Published.exists_head {plan : MultiSourceReplayPlan}
    (published : Published sources (naturalPlan sources) optimized true plan)
    (moved : plan.commands.head? ≠ (naturalPlan sources).head?) :
    ∃ head, plan.commands.head? = some head ∧
      ∃ index < optimized.passes.length,
        (optimized.pass index).flags.activeRenderSeed = true ∧
          (optimized.passCommands index).head? =
            some (naturalIndex sources head) := by
  have permutation := (validateMultiSourceReplayPermutation_eq_valid.mp
    published.validated).2.perm
  cases listed : plan.commands with
  | nil =>
      rw [listed] at permutation moved
      exact absurd (congrArg List.head? permutation.nil_eq) moved
  | cons head rest =>
      have movedHead : plan.commands.headD default ≠
          (naturalPlan sources).headD default := by
        have length := permutation.length_eq
        rw [listed] at moved length ⊢
        cases natural : naturalPlan sources with
        | nil => simp [natural] at length
        | cons first others =>
            rw [natural] at moved
            simpa using moved
      have proved := published.head rfl movedHead
      rw [listed, List.headD_cons] at proved
      exact ⟨head, rfl, exists_pass_of_provesReplayHead proved⟩

/-- The optimizer receives `prepared` for an applied or absent seed. -/
def Prepares (resolver : ResourceAliasResolver) (combined : FrameGraph) :
    Option ActiveRenderPlanningSeed → FrameGraph → Prop
  | none, prepared => prepared = combined
  | some seed, prepared =>
      applyActiveRenderPlanningSeed combined seed resolver =
        (.applied, prepared)

theorem planMultiSource_cases
    (acceptable : (validateSources sources).isSome = true)
    (activeRenderSeed : Option ActiveRenderPlanningSeed)
    (resolver : ResourceAliasResolver) (collectWitnesses : Bool) :
    let plan := planMultiSourcePassCoalesceReplay sources activeRenderSeed
      resolver collectWitnesses
    (plan.commands = naturalPlan sources ∧
        plan.disposition = .naturalFifo) ∨
      ∃ appended prepared,
        appendSources resolver sources 0 0 {} = some appended ∧
        Prepares resolver (inferCombinedHazards appended) activeRenderSeed
          prepared ∧
        Published sources (naturalPlan sources)
          (optimize prepared { passcoalesce := true }
            (planningInputs prepared
              (collectWitnesses && activeRenderSeed.isSome)))
          activeRenderSeed.isSome plan := by
  intro plan
  unfold plan planMultiSourcePassCoalesceReplay
  rw [naturalFallback_eq acceptable]
  simp only [MultiSourceReplayPlan.valid]
  rw [if_neg (by simp)]
  split
  · exact Or.inl ⟨rfl, rfl⟩
  rename_i appended equal
  cases activeRenderSeed with
  | none =>
      refine (planPreparedGraph_cases sources _ _ _ false
        collectWitnesses).imp id fun published => ?_
      exact ⟨appended, _, equal, rfl, published⟩
  | some seed =>
      simp only
      split
      · exact Or.inl ⟨rfl, rfl⟩
      · rename_i applied
        refine (planPreparedGraph_cases sources _ _ _ true
          collectWitnesses).imp id fun published => ?_
        exact ⟨appended, _, equal,
          Prod.ext (not_not.mp applied) rfl, published⟩

theorem prepared_prefixed
    {activeRenderSeed : Option ActiveRenderPlanningSeed} (built : combined.Built)
    (prepares : Prepares resolver combined activeRenderSeed prepared) :
    ∃ offset ≤ 1, combined.Prefixed offset prepared := by
  cases activeRenderSeed with
  | none => exact ⟨0, Nat.zero_le 1, prepares ▸ built.prefixed⟩
  | some seed =>
      exact ⟨1, Nat.le_refl 1,
        applyActiveRenderPlanningSeed_prefixed built prepares⟩

/-- Acceptable sources are accepted. -/
theorem validateSources_isSome
    (nonempty : sources ≠ [])
    (few : sources.length ≤ kMaxMultiSourcePlanningSources)
    (bound : ∀ source ∈ sources, source.payload.valid = true)
    (total : (sources.map MultiSourcePlanningSource.commandCount).sum ≤
      u32Max) :
    (validateSources sources).isSome = true := by
  have fold : ∀ (rest : List MultiSourcePlanningSource) (start : Nat),
      (∀ source ∈ rest, source.payload.valid = true) →
      start + (rest.map MultiSourcePlanningSource.commandCount).sum ≤ u32Max →
      (rest.foldlM validateSource start).isSome = true := by
    intro rest
    induction rest with
    | nil => exact fun _ _ _ => rfl
    | cons source rest induction =>
        intro start valid sum
        rw [List.map_cons, List.sum_cons] at sum
        have step : validateSource start source =
            some (start + source.commandCount) := by
          unfold validateSource
          rw [if_neg]
          simp only [valid source List.mem_cons_self, Bool.not_true,
            Bool.false_or, Bool.or_eq_true, decide_eq_true_eq, not_or]
          omega
        rw [List.foldlM_cons, step]
        apply induction
        · exact fun other listed =>
            valid other (List.mem_cons_of_mem source listed)
        · omega
  unfold validateSources
  rw [if_neg]
  · exact fold sources 0 bound (by omega)
  · simp only [List.isEmpty_iff, nonempty, Bool.or_eq_true,
      decide_eq_true_eq, false_or]
    omega

/--
Soundness of the multi-source planner.

The plan of one to eight valid sources is the natural order or a published
order.  Either lists every command of the window once, moves no command other
than a draw across sources, and keeps the natural order of commands whose
built passes conflict on a canonical resource.  With a seed, a moved head is
the first command of the pass that absorbed the seed.
-/
theorem planMultiSource_sound (sources : List MultiSourcePlanningSource)
    (activeRenderSeed : Option ActiveRenderPlanningSeed)
    (resolver : ResourceAliasResolver) (collectWitnesses : Bool)
    (nonempty : sources ≠ [])
    (few : sources.length ≤ kMaxMultiSourcePlanningSources)
    (valid : ∀ source ∈ sources, source.payload.valid = true)
    (total : (sources.map MultiSourcePlanningSource.commandCount).sum ≤
      u32Max) :
    let plan := planMultiSourcePassCoalesceReplay sources activeRenderSeed
      resolver collectWitnesses
    (plan.disposition = .naturalFifo ∧
        plan.commands = naturalPlan sources ∨
      plan.disposition = .planned) ∧
    plan.commands.Nodup ∧
    (∀ locator, locator ∈ plan.commands ↔ InWindow sources locator) ∧
    (∀ first second, InWindow sources first → InWindow sources second →
      first.retainedSourceIndex ≠ second.retainedSourceIndex →
      isNonDraw sources first = true ∨ isNonDraw sources second = true →
      NaturallyBefore first second →
        Precedes plan.commands first second) ∧
    KeepsConflicts resolver sources plan.commands ∧
    ∀ seed, activeRenderSeed = some seed →
      plan.commands.head? ≠ (naturalPlan sources).head? →
        ∃ head, plan.commands.head? = some head ∧
          HeadsAbsorbingPass resolver sources seed collectWitnesses
            head := by
  intro plan
  have acceptable := validateSources_isSome nonempty few valid total
  have nonDraws : ∀ commands, ReplayPermutation sources commands →
      ∀ first second, InWindow sources first → InWindow sources second →
        first.retainedSourceIndex ≠ second.retainedSourceIndex →
        isNonDraw sources first = true ∨ isNonDraw sources second = true →
        NaturallyBefore first second → Precedes commands first second :=
    fun _ permutation _ _ => permutation.nonDraw_precedes
  rcases planMultiSource_cases acceptable activeRenderSeed resolver
      collectWitnesses with
    ⟨natural, fifo⟩ | ⟨appended, prepared, equal, prepares, published⟩
  · have natural : plan.commands = naturalPlan sources := natural
    rw [natural]
    have permutation := naturalPlan_permutation sources
    refine ⟨Or.inl ⟨fifo, rfl⟩, permutation.nodup, permutation.complete,
      nonDraws _ permutation, naturalPlan_keepsConflicts resolver sources,
      ?_⟩
    exact fun _ _ moved => absurd rfl moved
  · have published : Published sources (naturalPlan sources) _ _ plan :=
      published
    have permutation :=
      (validateMultiSourceReplayPermutation_eq_valid.mp
        published.validated).2
    have built := (appendSources_spec sources FrameGraph.Assembled.empty
      (fun _ member => absurd member List.not_mem_nil) equal).1.built
    obtain ⟨offset, small, prefixed⟩ := prepared_prefixed built prepares
    obtain ⟨classes, regrouped⟩ := optimize_regrouped prefixed.wellFormed
      { passcoalesce := true } (planningInputs prepared
        (collectWitnesses && activeRenderSeed.isSome)) rfl
    refine ⟨Or.inr published.planned, permutation.nodup,
      permutation.complete, nonDraws _ permutation, ?_, ?_⟩
    · rw [flattenGraph_eq published.flattened]
      exact regrouped_keepsConflicts equal prefixed regrouped
    · rintro seed rfl moved
      have seededPrefix :=
        applyActiveRenderPlanningSeed_prefixed built prepares
      simp only [Option.isSome_some, Bool.and_true] at published regrouped
      obtain ⟨head, headed, index, bound, flagged, first⟩ :=
        published.exists_head moved
      exact ⟨head, headed, appended, prepared, index, equal, prepares,
        absorbedSeed_of_flagged seededPrefix regrouped bound flagged, first⟩

/-- A draw of the second source continues the open pass and moves ahead. -/
theorem planMultiSource_sound_moved_head :
    let clearDepth : SourceCommandView :=
      { kind := .clear
        clear := some { depthStencil := { handle := 3 }, clearDepth := true } }
    let sources : List MultiSourcePlanningSource :=
      [{ payload := { commands := [.drawTo 2] } },
        { payload := { commands := [.drawTo 1, clearDepth] } }]
    let seed : ActiveRenderPlanningSeed :=
      { targets := attachmentSetFromHot
          { colorAttachments := #v[{ handle := 1 }, {}, {}, {}] }
        writeDependencies := #v[1, 0, 0, 0, 0]
        dependencyCount := 1
        complete := true }
    let plan :=
      planMultiSourcePassCoalesceReplay sources (some seed) {} true
    plan.commands = [⟨1, 0⟩, ⟨0, 0⟩, ⟨1, 1⟩] ∧
      plan.commands.Nodup ∧
      Precedes plan.commands ⟨0, 0⟩ ⟨1, 1⟩ ∧
      ∃ head, plan.commands.head? = some head ∧
        HeadsAbsorbingPass {} sources seed true head := by
  intro clearDepth sources seed plan
  obtain ⟨_, nodup, _, ordered, _, head⟩ := planMultiSource_sound sources
    (some seed) {} true (by decide) (by decide) (by decide) (by decide)
  exact ⟨by decide, nodup,
    ordered ⟨0, 0⟩ ⟨1, 1⟩ ⟨_, rfl, by decide⟩ ⟨_, rfl, by decide⟩ (by decide)
      (by decide) (by decide),
    head seed rfl (by decide)⟩

end Dxmt9.Framegraph
