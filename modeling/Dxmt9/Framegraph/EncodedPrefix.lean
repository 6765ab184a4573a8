import Dxmt9.Framegraph.Builder
import Dxmt9.Framegraph.EmissionOrder
import Dxmt9.Framegraph.ReplayPlan

/-!
# Resuming behind an encoded prefix

`FrameGraphBackend::onSourceReadyImpl` may find that a predicted prefix of the
replay order is already encoded.  It revives every dead pass that touches the
prefix, plans again and gives up unless the prefix is a prefix of the new
plan.  Here it never gives up: whatever the hint and the later proof are, the
predicted commands come first again.
-/

namespace Dxmt9.Framegraph

open Dxmt9.Order

/-- The prefix lists source commands, each at most once. -/
def validEncodedPrefix (commandCount : Nat) (encoded : List Nat) : Bool :=
  (encoded.all fun index => decide (index < commandCount)) &&
    decide encoded.Nodup

/-- The pass owns an encoded command, or its range cannot be trusted. -/
def touchesEncodedPrefix (graph : FrameGraph) (commandCount : Nat)
    (encoded : List Nat) (pass : PassNode) : Bool :=
  decide ((graph.commandsOf pass).length < pass.commands.count) ||
    (graph.commandsOf pass).any fun ref =>
      decide (ref.commandIndex ≥ commandCount) ||
        encoded.contains ref.commandIndex

/-- A dead pass that already has commands in the encoder. -/
def revives (graph : FrameGraph) (commandCount : Nat) (encoded : List Nat)
    (pass : PassNode) : Bool :=
  pass.flags.dead && touchesEncodedPrefix graph commandCount encoded pass

/-- Clear the dead flag of every pass that touches the prefix. -/
def reviveEncoded (graph : FrameGraph) (commandCount : Nat)
    (encoded : List Nat) : FrameGraph :=
  { graph with
    passes := graph.passes.map fun pass =>
      if revives graph commandCount encoded pass then
        { pass with flags := { pass.flags with dead := false } }
      else pass }

/-- A revived pass counts as preserved instead of dropped. -/
def countRevived (graph : FrameGraph) (commandCount : Nat)
    (encoded : List Nat) (stats : OptimizerStats) : OptimizerStats :=
  let revived := graph.passes.countP (revives graph commandCount encoded)
  { stats with
    dceDropped := stats.dceDropped - revived
    dcePreservedUnprovable := stats.dcePreservedUnprovable + revived }

/-- How the backend leaves a source with a nonempty encoded prefix. -/
inductive ResumeOutcome where
  /-- "DCE lookahead supplied an invalid encoded replay prefix" -/
  | invalidPrefix
  /-- "DCE lookahead could not validate the already encoded optimized prefix" -/
  | unvalidated
  /-- "fresh DCE proof changed the already encoded optimized prefix" -/
  | changedPrefix
  /-- Encode the commands behind the prefix. -/
  | resumed (remaining : List Nat)
deriving DecidableEq

/-- Resume an optimized graph behind the encoded prefix. -/
def resumeEncoded (graph : FrameGraph) (payload : SourcePayloadView)
    (encoded : List Nat) : ResumeOutcome :=
  if !validEncodedPrefix payload.commandCount encoded then .invalidPrefix
  else
    let plan := planReplayCommands
      (reviveEncoded graph payload.commandCount encoded) payload
    if !plan.valid then .unvalidated
    else if !encoded.isPrefixOf plan.commandIndices then .changedPrefix
    else .resumed (plan.commandIndices.drop encoded.length)

variable {smaller larger : DceLookaheadProof} {p : Nat}

/-- A larger proof drops every pass that a smaller one drops. -/
theorem crossChunkSafe_mono
    (subset : ∀ handle, smaller.contains handle = true →
      larger.contains handle = true)
    {node : ResourceNode}
    (safe : crossChunkSafe smaller node p = true) :
    crossChunkSafe larger node p = true := by
  unfold crossChunkSafe at safe ⊢
  rw [Bool.or_eq_true] at safe ⊢
  exact safe.imp_right (subset node.handle)

variable {graph : FrameGraph}

theorem diesUnder_mono
    (subset : ∀ handle, smaller.contains handle = true →
      larger.contains handle = true) (dies : diesUnder graph smaller p = true) :
    diesUnder graph larger p = true := by
  have droppable : dceDroppable graph smaller p = true →
      dceDroppable graph larger p = true := by
    unfold dceDroppable
    simp only [List.all_eq_true, Bool.and_eq_true]
    intro all node member
    exact (all node member).imp_right (crossChunkSafe_mono subset)
  have dropped : dceDecision graph smaller p (graph.pass p) = .drop →
      dceDecision graph larger p (graph.pass p) = .drop := by
    unfold dceDecision
    repeat' split
    all_goals simp_all
  unfold diesUnder dcePass at dies ⊢
  by_cases before : dceDecision graph smaller p (graph.pass p) = .drop
  · rw [if_pos (dropped before)]
  · rw [if_neg before] at dies
    split
    · rfl
    · exact dies

/-- What is dead without any proof is dead under every proof. -/
theorem diesUnder_of_unproved
    (dies : diesUnder graph {} p = true) (lookahead : DceLookaheadProof) :
    diesUnder graph lookahead p = true :=
  diesUnder_mono (fun _ absent => by
    simp [DceLookaheadProof.contains] at absent) dies

variable {start final : List Nat}

variable {commandCount : Nat}

/-- A successful prediction appends the commands in order. -/
theorem prefixCommands_some (refs : List CommandRef)
    (found : refs.foldlM (prefixCommand commandCount) start = some final) :
    final = start ++ refs.map CommandRef.commandIndex := by
  induction refs generalizing start with
  | nil =>
      simp only [List.foldlM_nil, pure, Option.some.injEq] at found
      simp [found]
  | cons ref rest induction =>
      rw [List.foldlM_cons] at found
      unfold prefixCommand at found
      split at found
      · contradiction
      · have behind := induction found
        simpa using behind

theorem prefixPasses_some {predicted : FrameGraph}
    (passes : List PassNode)
    (found : passes.foldlM (prefixPass predicted commandCount) start =
      some final) :
    final = start ++ passes.flatMap (liveCommands predicted) := by
  induction passes generalizing start with
  | nil =>
      simp only [List.foldlM_nil, pure, Option.some.injEq] at found
      simp [found]
  | cons pass rest induction =>
      rw [List.foldlM_cons] at found
      cases first : prefixPass predicted commandCount start pass with
      | none => simp [first] at found
      | some middle =>
          rw [first] at found
          have behind : final = middle ++ rest.flatMap (liveCommands predicted) :=
            induction found
          have head : middle = start ++ liveCommands predicted pass := by
            unfold prefixPass at first
            unfold liveCommands
            cases dead : pass.flags.dead with
            | true =>
                simp only [dead, if_true, Option.some.injEq] at first
                simp [first]
            | false =>
                simp only [dead, Bool.false_eq_true, if_false] at first ⊢
                split at first
                · contradiction
                · exact prefixCommands_some _ first
          rw [behind, head]
          simp

theorem runAfterDce_dead (graph : FrameGraph) (options : OptimizerOptions)
    (lookahead : DceLookaheadProof) {index : Nat}
    (bound : index < (emissionOrder graph options.reorder).length) :
    ((runAfterDce (eliminatedGraph graph lookahead) options).pass
        index).flags.dead =
      diesUnder graph lookahead
        (emissionOrder graph options.reorder)[index] := by
  have fates := runAfterDce_map graph options lookahead
    (fun pass => pass.flags.dead) fun _ _ => rfl
  have lengths := congrArg List.length fates
  rw [List.length_map, List.length_map] at lengths
  have atIndex := congrArg (fun list => list[index]?) fates
  simp only [List.getElem?_map, List.getElem?_eq_getElem bound,
    List.getElem?_eq_getElem (lengths.symm ▸ bound), Option.map_some,
    Option.some.injEq] at atIndex
  rw [FrameGraph.pass, List.getD_eq_getElem _ _ (lengths.symm ▸ bound)]
  exact atIndex

/-- What the commands of a pass contribute under a fate. -/
def fatedCommands (graph : FrameGraph) (dies : Nat → Bool) (p : Nat) :
    List Nat :=
  if dies p then [] else graph.passCommands p

theorem runAfterDce_liveCommands (graph : FrameGraph)
    (options : OptimizerOptions) (lookahead : DceLookaheadProof)
    (count : Nat) :
    let final := runAfterDce (eliminatedGraph graph lookahead) options
    (final.passes.take count).flatMap (liveCommands final) =
      ((emissionOrder graph options.reorder).take count).flatMap
        (fatedCommands graph (diesUnder graph lookahead)) := by
  intro final
  have commands : final.commands = graph.commands :=
    runAfterDce_commands _ options
  have passes := runAfterDce_map graph options lookahead
    (liveCommands final) fun _ _ => rfl
  rw [List.flatMap_def, List.flatMap_def, List.map_take, List.map_take, passes]
  congr 2
  apply List.map_congr_left
  intro p _
  simp only [liveCommands, fatedCommands, diesUnder,
    FrameGraph.passCommands, FrameGraph.commandsOf, commands,
    dcePass_commands]
  rfl

theorem planDceLookaheadReplayPrefix_eq (graph : FrameGraph)
    (commandCount : Nat) (options : OptimizerOptions)
    (hint : DceLookaheadProof) :
    let classified := classifiedGraph graph options []
    let order := emissionOrder classified options.reorder
    planDceLookaheadReplayPrefix graph commandCount options hint = [] ∨
      ∃ boundary,
        (∀ p ∈ order.take boundary, diesUnder classified hint p = true →
            diesUnder classified {} p = true) ∧
        planDceLookaheadReplayPrefix graph commandCount options hint =
          (order.take boundary).flatMap
            (fatedCommands classified (diesUnder classified hint)) := by
  intro classified order
  have run : ∀ lookahead,
      optimize graph { options with dce := true }
          { lookahead := lookahead } =
        runAfterDce (eliminatedGraph classified lookahead) options := by
    intro lookahead
    rw [optimize_eq]
    rfl
  unfold planDceLookaheadReplayPrefix
  simp only [run]
  split
  · exact Or.inl rfl
  split
  · exact Or.inl rfl
  split
  · exact Or.inl rfl
  generalize isBoundary : boundaryPass
    (runAfterDce (eliminatedGraph classified {}) options)
    (runAfterDce (eliminatedGraph classified hint) options) = boundary
  cases planned : ((runAfterDce (eliminatedGraph classified hint)
      options).passes.take boundary).foldlM
        (prefixPass (runAfterDce (eliminatedGraph classified hint) options)
          commandCount) [] with
  | none => exact Or.inl rfl
  | some encoded =>
      refine Or.inr ⟨boundary, ?_, ?_⟩
      · intro p member dies
        rcases List.mem_take_iff_getElem.mp member with
          ⟨index, bound, rfl⟩
        have below : index < boundary ∧ index < order.length := by omega
        have spared := List.not_of_lt_findIdx
          (isBoundary.symm ▸ below.1 : index < boundaryPass _ _)
        simp only [List.getElem_range,
          runAfterDce_dead classified options _ below.2] at spared
        simpa [order, dies] using spared
      · have listed := prefixPasses_some _ planned
        rw [List.nil_append,
          runAfterDce_liveCommands classified options hint boundary]
          at listed
        exact listed

/-! ## Reviving -/

/-- A pass after the backend has looked at the prefix. -/
def revivedPass (graph : FrameGraph) (commandCount : Nat)
    (encoded : List Nat) (pass : PassNode) : PassNode :=
  if revives graph commandCount encoded pass then
    { pass with flags := { pass.flags with dead := false } }
  else pass

theorem revivedPass_commands (graph : FrameGraph) (commandCount : Nat)
    (encoded : List Nat) (pass : PassNode) :
    (revivedPass graph commandCount encoded pass).commands =
      pass.commands := by
  unfold revivedPass
  split <;> rfl

theorem revivedPass_dead (graph : FrameGraph) (commandCount : Nat)
    (encoded : List Nat) (pass : PassNode) :
    (revivedPass graph commandCount encoded pass).flags.dead =
      (pass.flags.dead &&
        !touchesEncodedPrefix graph commandCount encoded pass) := by
  unfold revivedPass revives
  cases dead : pass.flags.dead with
  | false => simp [dead]
  | true =>
      cases touches : touchesEncodedPrefix graph commandCount encoded pass
      · simp [dead]
      · simp

section Final

variable (graph : FrameGraph) (options : OptimizerOptions)
  (lookahead : DceLookaheadProof) (commandCount : Nat)
  (encoded : List Nat)

theorem reviveEncoded_liveCommands :
    let final := runAfterDce (eliminatedGraph graph lookahead) options
    let revived := reviveEncoded final commandCount encoded
    revived.passes.flatMap (liveCommands revived) =
      (emissionOrder graph options.reorder).flatMap
        (fatedCommands graph fun p =>
          diesUnder graph lookahead p &&
            !touchesEncodedPrefix graph commandCount encoded
              (graph.pass p)) := by
  intro final revived
  have commands : final.commands = graph.commands :=
    runAfterDce_commands _ options
  have passes := runAfterDce_map graph options lookahead
    (fun pass => liveCommands revived
      (revivedPass final commandCount encoded pass)) fun pass policy => by
        simp only [liveCommands, revivedPass_dead, FrameGraph.commandsOf,
          revivedPass_commands, touchesEncodedPrefix]
        rfl
  have listed : revived.passes =
      final.passes.map (revivedPass final commandCount encoded) := rfl
  rw [listed, List.flatMap_map, List.flatMap_def, passes, List.flatMap_def]
  congr 1
  apply List.map_congr_left
  intro p _
  simp only [liveCommands, fatedCommands, diesUnder, revivedPass_dead,
    FrameGraph.passCommands, FrameGraph.commandsOf, revivedPass_commands,
    touchesEncodedPrefix, dcePass_commands, commands]
  rw [show revived.commands = graph.commands from commands]
  rfl

/-- Live or dead, the revived graph owns the same commands. -/
theorem reviveEncoded_owned :
    let final := runAfterDce (eliminatedGraph graph lookahead) options
    ((ownedReferences (reviveEncoded final commandCount encoded)).map
        fun reference => reference.2.commandIndex) =
      (emissionOrder graph options.reorder).flatMap
        graph.passCommands := by
  intro final
  have commands : final.commands = graph.commands :=
    runAfterDce_commands _ options
  have passes := runAfterDce_map graph options lookahead
    (fun pass => (final.commandsOf pass).map CommandRef.commandIndex)
    fun _ _ => rfl
  have listed : (reviveEncoded final commandCount encoded).passes =
      final.passes.map (revivedPass final commandCount encoded) := rfl
  rw [ownedReferences_indices, listed, List.flatMap_map, List.flatMap_def,
    List.flatMap_def]
  congr 1
  calc
    _ = final.passes.map fun pass =>
          (final.commandsOf pass).map CommandRef.commandIndex := by
        apply List.map_congr_left
        intro pass _
        simp only [FrameGraph.commandsOf, revivedPass_commands]
        rfl
    _ = _ := by
        rw [passes]
        apply List.map_congr_left
        intro p _
        simp only [FrameGraph.passCommands, FrameGraph.commandsOf,
          dcePass_commands, commands]

theorem reviveEncoded_ranges :
    let final := runAfterDce (eliminatedGraph graph lookahead) options
    let revived := reviveEncoded final commandCount encoded
    (∀ pass ∈ revived.passes, validCommandRange revived pass = true) →
      ∀ p ∈ emissionOrder graph options.reorder,
        validCommandRange graph (graph.pass p) = true := by
  intro final revived valid p listed
  have commands : final.commands = graph.commands :=
    runAfterDce_commands _ options
  have passes := runAfterDce_map graph options lookahead
    PassNode.commands fun _ _ => rfl
  simp only [dcePass_commands] at passes
  have owned : (graph.pass p).commands ∈
      final.passes.map PassNode.commands :=
    passes.symm ▸ List.mem_map_of_mem listed
  rcases List.mem_map.mp owned with ⟨pass, member, equal⟩
  have checked := valid (revivedPass final commandCount encoded pass)
    (List.mem_map_of_mem member)
  simpa only [validCommandRange, revivedPass_commands, equal,
    show revived.commands = graph.commands from commands] using checked

end Final

/-- A checked range is owned completely. -/
theorem length_commandsOf {pass : PassNode}
    (valid : validCommandRange graph pass = true) :
    (graph.commandsOf pass).length = pass.commands.count := by
  simp only [validCommandRange, Bool.and_eq_true, decide_eq_true_eq] at valid
  simp only [FrameGraph.commandsOf, List.length_take, List.length_drop]
  omega

/--
The predicted prefix is a prefix of the revived plan.

Before the boundary a pass that the hint kills is dead under every proof and
shares no command with the prefix; every other pass is either alive or owns
commands of the prefix and is revived.
-/
theorem encoded_isPrefix {options : OptimizerOptions}
    {hint lookahead : DceLookaheadProof} {payload : SourcePayloadView}
    {boundary : Nat} {encoded : List Nat}
    (settled : ∀ p ∈ (emissionOrder graph options.reorder).take boundary,
      diesUnder graph hint p = true → diesUnder graph {} p = true)
    (planned : encoded =
      ((emissionOrder graph options.reorder).take boundary).flatMap
        (fatedCommands graph (diesUnder graph hint)))
    (valid : (planReplayCommands
      (reviveEncoded (runAfterDce (eliminatedGraph graph lookahead) options)
        payload.commandCount encoded) payload).valid = true) :
    encoded <+: (planReplayCommands
      (reviveEncoded (runAfterDce (eliminatedGraph graph lookahead) options)
        payload.commandCount encoded) payload).commandIndices := by
  have once := planReplayCommands_valid valid
  have indices := once.indices
  have complete := once.complete
  rw [liveIndices_owned, reviveEncoded_liveCommands] at indices
  rw [reviveEncoded_owned] at complete
  have nodup := complete.nodup_iff.mpr List.nodup_range
  generalize isOrder : emissionOrder graph options.reorder = order at *
  have ofTake : ∀ {p}, p ∈ order.take boundary → p ∈ order :=
    fun member => List.mem_of_mem_take member
  -- Every listed pass owns its whole range and only source commands.
  have inside : ∀ p ∈ order, ∀ index ∈ graph.passCommands p,
      index < payload.commandCount := by
    intro p listed index owned
    exact List.mem_range.mp (complete.mem_iff.mp
      (List.mem_flatMap.mpr ⟨p, listed, owned⟩))
  have whole : ∀ p ∈ order, (graph.commandsOf (graph.pass p)).length =
      (graph.pass p).commands.count := fun p listed =>
    length_commandsOf
      (reviveEncoded_ranges graph options lookahead payload.commandCount
        encoded once.ranges p (isOrder ▸ listed))
  have agree : ∀ p ∈ order.take boundary,
      fatedCommands graph (diesUnder graph hint) p =
        fatedCommands graph (fun p =>
          diesUnder graph lookahead p &&
            !touchesEncodedPrefix graph payload.commandCount encoded
              (graph.pass p)) p := by
    intro p member
    unfold fatedCommands
    cases hinted : diesUnder graph hint p with
    | true =>
        have dies := diesUnder_of_unproved (settled p member hinted) lookahead
        have untouched : touchesEncodedPrefix graph payload.commandCount
            encoded (graph.pass p) = false := by
          rw [touchesEncodedPrefix, Bool.or_eq_false_iff]
          refine ⟨by simp [whole p (ofTake member)], ?_⟩
          rw [List.any_eq_false]
          intro ref refMember
          have owned : ref.commandIndex ∈ graph.passCommands p :=
            List.mem_map_of_mem refMember
          have source := inside p (ofTake member) _ owned
          have absent : ref.commandIndex ∉ encoded := by
            intro replayed
            rw [planned] at replayed
            rcases List.mem_flatMap.mp replayed with
              ⟨other, otherMember, fated⟩
            unfold fatedCommands at fated
            split at fated
            · contradiction
            · rename_i spared
              have same := eq_of_nodup_flatMap nodup (ofTake member)
                (ofTake otherMember) owned fated
              exact spared (same ▸ hinted)
          simp only [Bool.or_eq_true, decide_eq_true_eq,
            List.contains_iff_mem, not_or]
          exact ⟨Nat.not_le_of_lt source, absent⟩
        simp [dies, untouched]
    | false =>
        cases dies : diesUnder graph lookahead p with
        | false => simp [dies]
        | true =>
            by_cases commandless : graph.passCommands p = []
            · simp [commandless]
            · rcases List.exists_mem_of_ne_nil _ commandless with
                ⟨index, owned⟩
              have replayed : index ∈ encoded := by
                rw [planned]
                refine List.mem_flatMap.mpr ⟨p, member, ?_⟩
                simpa [fatedCommands, hinted] using owned
              have touched : touchesEncodedPrefix graph
                  payload.commandCount encoded (graph.pass p) = true := by
                rcases List.mem_map.mp owned with ⟨ref, refMember, rfl⟩
                rw [touchesEncodedPrefix, Bool.or_eq_true]
                refine Or.inr (List.any_eq_true.mpr ⟨ref, refMember, ?_⟩)
                rw [Bool.or_eq_true, List.contains_iff_mem]
                exact Or.inr replayed
              simp [dies, touched]
  have shared := planned.trans (List.flatMap_congr agree)
  rw [indices]
  conv_rhs => rw [← List.take_append_drop boundary order]
  rw [List.flatMap_append, ← shared]
  exact List.prefix_append _ _

/--
An already encoded prefix is never invalidated.

The hint only decides where the prediction stops; the later proof, the report
and the number of commands the prediction was asked for are arbitrary.
-/
theorem encoded_prefix_survives (graph : FrameGraph)
    (payload : SourcePayloadView) (commandCount : Nat)
    (options : OptimizerOptions) (dce : options.dce = true)
    (hint lookahead : DceLookaheadProof) (report : OptimizerReport) :
    let encoded :=
      planDceLookaheadReplayPrefix graph commandCount options hint
    let final := optimize graph options
      { report := report, lookahead := lookahead }
    let plan := planReplayCommands
      (reviveEncoded final payload.commandCount encoded) payload
    (plan.valid = true → encoded <+: plan.commandIndices) ∧
      resumeEncoded final payload encoded ≠ .changedPrefix := by
  intro encoded final plan
  have ran : final = runAfterDce
      (eliminatedGraph (classifiedGraph graph options []) lookahead)
      options := by
    rw [show final = _ from optimize_eq graph options _, if_pos dce]
  have kept : plan.valid = true → encoded <+: plan.commandIndices := by
    intro valid
    rcases planDceLookaheadReplayPrefix_eq graph commandCount options hint
      with empty | ⟨boundary, settled, planned⟩
    · exact (show encoded = [] from empty) ▸ List.nil_prefix
    · simp only [plan, ran] at valid ⊢
      exact encoded_isPrefix settled planned valid
  refine ⟨kept, ?_⟩
  unfold resumeEncoded
  split
  · simp
  · change (if !plan.valid then ResumeOutcome.unvalidated
      else if !encoded.isPrefixOf plan.commandIndices then .changedPrefix
      else .resumed (plan.commandIndices.drop encoded.length)) ≠ _
    cases valid : plan.valid with
    | false => simp
    | true =>
        have isPrefix := List.isPrefixOf_iff_prefix.mpr (kept valid)
        simp [isPrefix]

/-- The proof kills the encoded pass; it is revived and comes first. -/
theorem encoded_prefix_survives_revival :
    let payload : SourcePayloadView := { commands := [.drawTo 1, .drawTo 2] }
    let graph := buildFrameGraph payload 0 {}
    let final := optimize graph { dce := true }
      { lookahead := { fullyOverwrittenBeforeRead := [1] } }
    let plan := planReplayCommands (reviveEncoded final 2 [0]) payload
    planDceLookaheadReplayPrefix graph 2 { dce := true }
        { fullyOverwrittenBeforeRead := [2] } = [0] ∧
      (final.pass 0).flags.dead = true ∧ [0] <+: plan.commandIndices := by
  intro payload graph final plan
  have survives := encoded_prefix_survives graph payload 2 { dce := true }
    rfl { fullyOverwrittenBeforeRead := [2] }
    { fullyOverwrittenBeforeRead := [1] } {}
  exact ⟨by decide, by decide, survives.1 (by decide)⟩

end Dxmt9.Framegraph
