import Dxmt9.Framegraph.Linearizer
import Mathlib.Data.List.GetD
import Mathlib.Data.List.Nodup
import Mathlib.Data.List.Perm.Subperm

/-!
# What a valid replay plan says

While the plan is built, the two flag arrays record exactly the references
met so far.  A plan that ends valid has met every source command once; its
order is the order of the live references.
-/

namespace Dxmt9.Framegraph

/-- Every owned reference with the fate of its pass, in pass order. -/
def ownedReferences (graph : FrameGraph) : List (Bool × CommandRef) :=
  graph.passes.flatMap fun pass =>
    (graph.commandsOf pass).map fun ref => (pass.flags.dead, ref)

/-- Source command indices of the live references. -/
def liveIndices (references : List (Bool × CommandRef)) : List Nat :=
  (references.filter fun reference => !reference.1).map fun reference =>
    reference.2.commandIndex

/-- Source commands that a pass replays. -/
def liveCommands (graph : FrameGraph) (pass : PassNode) : List Nat :=
  if pass.flags.dead then []
  else (graph.commandsOf pass).map CommandRef.commandIndex

theorem liveIndices_owned (graph : FrameGraph) :
    liveIndices (ownedReferences graph) =
      graph.passes.flatMap (liveCommands graph) := by
  unfold liveIndices ownedReferences
  rw [List.filter_flatMap, List.map_flatMap]
  apply List.flatMap_congr
  intro pass _
  unfold liveCommands
  cases pass.flags.dead with
  | true => simp
  | false =>
      rw [List.filter_eq_self.mpr (by simp)]
      simp

theorem ownedReferences_indices (graph : FrameGraph) :
    ((ownedReferences graph).map fun reference =>
        reference.2.commandIndex) =
      graph.passes.flatMap fun pass =>
        (graph.commandsOf pass).map CommandRef.commandIndex := by
  unfold ownedReferences
  rw [List.map_flatMap]
  apply List.flatMap_congr
  intro pass _
  simp

/-- The scan has met exactly these references. -/
structure Accounted (payload : SourcePayloadView) (scan : ReplayScan)
    (references : List (Bool × CommandRef)) : Prop where
  accountedLength : scan.accounted.length = payload.commandCount
  omittedLength : scan.omitted.length = payload.commandCount
  accounted : ∀ index, scan.accounted.getD index false = true ↔
    ∃ reference ∈ references, reference.2.commandIndex = index
  omitted : ∀ index, scan.omitted.getD index false = true ↔
    ∃ reference ∈ references,
      reference.1 = true ∧ reference.2.commandIndex = index
  indices : scan.plan.commandIndices = liveIndices references
  nodup : (references.map fun reference =>
    reference.2.commandIndex).Nodup
  inside : ∀ reference ∈ references,
    reference.2.commandIndex < payload.commandCount ∧
      (payload.commandAt reference.2.commandIndex).kind =
        reference.2.kind
  unfinished : scan.plan.valid = false
  dropped : scan.plan.dropped =
    references.any fun reference => reference.1

theorem getD_set_true {flags : List Bool} {index position : Nat}
    (inside : index < flags.length) :
    (flags.set index true).getD position false = true ↔
      flags.getD position false = true ∨ index = position := by
  by_cases same : index = position
  · subst same
    simp [inside]
  · simp [same]

theorem getD_replicate_false (count index : Nat) :
    (List.replicate count false).getD index false = false := by
  rw [List.getD_eq_getElem?_getD, List.getElem?_replicate]
  split <;> rfl

theorem accounted_start (payload : SourcePayloadView) :
    Accounted payload
      { accounted := List.replicate payload.commandCount false
        omitted := List.replicate payload.commandCount false } [] where
  accountedLength := List.length_replicate
  omittedLength := List.length_replicate
  accounted index := by rw [getD_replicate_false]; simp
  omitted index := by rw [getD_replicate_false]; simp
  indices := rfl
  nodup := List.nodup_nil
  inside _ member := absurd member List.not_mem_nil
  unfinished := rfl
  dropped := rfl

variable {payload : SourcePayloadView} {scan next : ReplayScan}
  {references : List (Bool × CommandRef)} {dead : Bool} {ref : CommandRef}

theorem Accounted.command
    (before : Accounted payload scan references)
    (accepted : replayCommand payload dead scan ref = .ok next) :
    Accounted payload next (references ++ [(dead, ref)]) := by
  unfold replayCommand at accepted
  simp only at accepted
  split at accepted
  · contradiction
  rename_i admitted
  simp only [Bool.or_eq_true, decide_eq_true_eq, not_or, ne_eq, not_not,
    Nat.not_le, ge_iff_le, Bool.not_eq_true] at admitted
  obtain ⟨⟨inside, fresh⟩, kind⟩ := admitted
  have insideFlags : ref.commandIndex < scan.accounted.length :=
    before.accountedLength.symm ▸ inside
  have insideOmitted : ref.commandIndex < scan.omitted.length :=
    before.omittedLength.symm ▸ inside
  have isNew : ∀ reference ∈ references,
      reference.2.commandIndex ≠ ref.commandIndex := by
    intro reference member equal
    have met := (before.accounted ref.commandIndex).mpr
      ⟨reference, member, equal⟩
    rw [fresh] at met
    contradiction
  have accountedNext : ∀ index,
      (scan.accounted.set ref.commandIndex true).getD index false = true ↔
        ∃ reference ∈ references ++ [(dead, ref)],
          reference.2.commandIndex = index := by
    intro index
    rw [getD_set_true insideFlags, before.accounted]
    simp [or_and_right, exists_or]
  have nodupNext : ((references ++ [(dead, ref)]).map fun reference =>
      reference.2.commandIndex).Nodup := by
    rw [List.map_append, List.nodup_append]
    refine ⟨before.nodup, List.nodup_singleton _, ?_⟩
    intro index listed other isLast
    obtain ⟨reference, member, rfl⟩ := List.mem_map.mp listed
    simp only [List.map_cons, List.map_nil, List.mem_singleton] at isLast
    exact isLast ▸ isNew reference member
  have insideNext : ∀ reference ∈ references ++ [(dead, ref)],
      reference.2.commandIndex < payload.commandCount ∧
        (payload.commandAt reference.2.commandIndex).kind =
          reference.2.kind := by
    intro reference member
    rcases List.mem_append.mp member with old | new
    · exact before.inside reference old
    · exact List.mem_singleton.mp new ▸ ⟨inside, kind⟩
  cases dead with
  | true =>
      simp only [if_true, Except.ok.injEq] at accepted
      subst accepted
      refine
        { accountedLength := by simpa using before.accountedLength
          omittedLength := by simpa using before.omittedLength
          accounted := accountedNext
          omitted := ?_
          indices := by simp [before.indices, liveIndices]
          nodup := nodupNext
          inside := insideNext
          unfinished := before.unfinished
          dropped := by simp }
      intro index
      rw [getD_set_true insideOmitted, before.omitted]
      simp [or_and_right, exists_or]
  | false =>
      simp only [Bool.false_eq_true, if_false, Except.ok.injEq] at accepted
      subst accepted
      refine
        { accountedLength := by simpa using before.accountedLength
          omittedLength := before.omittedLength
          accounted := accountedNext
          omitted := ?_
          indices := by simp [before.indices, liveIndices]
          nodup := nodupNext
          inside := insideNext
          unfinished := before.unfinished
          dropped := by simp [before.dropped] }
      intro index
      simp only [before.omitted, List.mem_append, List.mem_singleton,
        or_and_right, exists_or]
      simp

theorem Accounted.commands (refs : List CommandRef)
    (before : Accounted payload scan references)
    (accepted : refs.foldlM (replayCommand payload dead) scan = .ok next) :
    Accounted payload next
      (references ++ refs.map fun ref => (dead, ref)) := by
  induction refs generalizing scan references with
  | nil =>
      simp only [List.foldlM_nil, pure, Except.pure,
        Except.ok.injEq] at accepted
      simpa [accepted] using before
  | cons ref rest induction =>
      rw [List.foldlM_cons] at accepted
      cases first : replayCommand payload dead scan ref with
      | error plan => simp [first, bind, Except.bind] at accepted
      | ok middle =>
          simp only [first, bind, Except.bind] at accepted
          simpa using induction (before.command first) accepted

variable {graph : FrameGraph}

theorem Accounted.passes (passes : List PassNode)
    (before : Accounted payload scan references)
    (accepted : passes.foldlM (replayPass graph payload) scan = .ok next) :
    Accounted payload next
      (references ++ passes.flatMap fun pass =>
        (graph.commandsOf pass).map fun ref => (pass.flags.dead, ref)) := by
  induction passes generalizing scan references with
  | nil =>
      simp only [List.foldlM_nil, pure, Except.pure,
        Except.ok.injEq] at accepted
      simpa [accepted] using before
  | cons pass rest induction =>
      rw [List.foldlM_cons] at accepted
      cases first : replayPass graph payload scan pass with
      | error plan => simp [first, bind, Except.bind] at accepted
      | ok middle =>
          simp only [first, bind, Except.bind] at accepted
          unfold replayPass at first
          split at first
          · contradiction
          · simpa using
              induction (before.commands _ first) accepted

variable {plan : ReplayCommandPlan}

/-- An abandoned plan is never valid. -/
theorem replayCommand_error
    (failed : replayCommand payload dead scan ref = .error plan) :
    plan = scan.plan := by
  unfold replayCommand at failed
  simp only at failed
  split at failed
  · exact (Except.error.inj failed).symm
  · split at failed <;> contradiction

theorem replayCommands_error
    (refs : List CommandRef) (unfinished : scan.plan.valid = false)
    (failed : refs.foldlM (replayCommand payload dead) scan =
      .error plan) : plan.valid = false := by
  induction refs generalizing scan with
  | nil => simp [pure, Except.pure] at failed
  | cons ref rest induction =>
      rw [List.foldlM_cons] at failed
      cases first : replayCommand payload dead scan ref with
      | error early =>
          simp only [first, bind, Except.bind, Except.error.injEq] at failed
          rw [← failed, replayCommand_error first]
          exact unfinished
      | ok middle =>
          simp only [first, bind, Except.bind] at failed
          refine induction ?_ failed
          unfold replayCommand at first
          simp only at first
          split at first
          · contradiction
          · split at first <;>
              exact Except.ok.inj first ▸ unfinished

theorem replayPasses_error (passes : List PassNode)
    (before : Accounted payload scan references)
    (failed : passes.foldlM (replayPass graph payload) scan =
      .error plan) : plan.valid = false := by
  induction passes generalizing scan references with
  | nil => simp [pure, Except.pure] at failed
  | cons pass rest induction =>
      rw [List.foldlM_cons] at failed
      cases first : replayPass graph payload scan pass with
      | error early =>
          simp only [first, bind, Except.bind, Except.error.injEq] at failed
          subst failed
          unfold replayPass at first
          split at first
          · exact Except.error.inj first ▸ before.unfinished
          · exact replayCommands_error _ before.unfinished first
      | ok middle =>
          simp only [first, bind, Except.bind] at failed
          unfold replayPass at first
          split at first
          · contradiction
          · exact induction (before.commands _ first) failed

/-- A finished walk has checked every range. -/
theorem replayPasses_ranges (passes : List PassNode)
    (accepted : passes.foldlM (replayPass graph payload) scan = .ok next) :
    ∀ pass ∈ passes, validCommandRange graph pass = true := by
  induction passes generalizing scan with
  | nil => exact fun pass member => absurd member List.not_mem_nil
  | cons pass rest induction =>
      rw [List.foldlM_cons] at accepted
      cases first : replayPass graph payload scan pass with
      | error plan => simp [first, bind, Except.bind] at accepted
      | ok middle =>
          simp only [first, bind, Except.bind] at accepted
          intro other member
          rcases List.mem_cons.mp member with rfl | behind
          · unfold replayPass at first
            split at first
            · contradiction
            · rename_i valid
              simpa using valid
          · exact induction accepted other behind

/-- A valid plan accounts for every source command exactly once. -/
structure ReplayedOnce (graph : FrameGraph) (payload : SourcePayloadView)
    (plan : ReplayCommandPlan) : Prop where
  indices : plan.commandIndices = liveIndices (ownedReferences graph)
  complete : ((ownedReferences graph).map fun reference =>
    reference.2.commandIndex).Perm (List.range payload.commandCount)
  kinds : ∀ reference ∈ ownedReferences graph,
    (payload.commandAt reference.2.commandIndex).kind = reference.2.kind
  dropped : plan.dropped =
    (ownedReferences graph).any fun reference => reference.1
  ranges : ∀ pass ∈ graph.passes, validCommandRange graph pass = true

theorem planReplayCommands_valid
    (valid : (planReplayCommands graph payload).valid = true) :
    ReplayedOnce graph payload (planReplayCommands graph payload) := by
  unfold planReplayCommands at valid ⊢
  simp only at valid ⊢
  split at valid
  · rename_i plan failed
    have invalid :=
      replayPasses_error graph.passes (accounted_start payload) failed
    rw [invalid] at valid
    contradiction
  rename_i scan finished
  have met := (accounted_start payload).passes graph.passes finished
  change Accounted payload scan (ownedReferences graph) at met
  unfold finishReplay at valid ⊢
  split at valid
  swap
  · rw [met.unfinished] at valid
    contradiction
  rename_i all
  simp only [all, if_true]
  refine
    { indices := met.indices
      complete := ?_
      kinds := fun reference member => (met.inside reference member).2
      dropped := met.dropped
      ranges := replayPasses_ranges graph.passes finished }
  rw [List.perm_ext_iff_of_nodup met.nodup List.nodup_range]
  intro index
  rw [List.mem_range]
  constructor
  · intro listed
    obtain ⟨reference, member, rfl⟩ := List.mem_map.mp listed
    exact (met.inside reference member).1
  · intro inside
    rw [← met.accountedLength] at inside
    have flag : scan.accounted.getD index false = true := by
      rw [List.getD_eq_getElem _ _ inside]
      exact List.all_eq_true.mp all _ (List.getElem_mem inside)
    obtain ⟨reference, member, equal⟩ := (met.accounted index).mp flag
    exact List.mem_map.mpr ⟨reference, member, equal⟩

/-- The command ranges are in bounds, and own every source command once with
its kind. -/
structure CoversOnce (graph : FrameGraph) (payload : SourcePayloadView) :
    Prop where
  ranges : ∀ pass ∈ graph.passes, validCommandRange graph pass = true
  once : ((ownedReferences graph).map fun reference =>
    reference.2.commandIndex).Perm (List.range payload.commandCount)
  kinds : ∀ reference ∈ ownedReferences graph,
    (payload.commandAt reference.2.commandIndex).kind = reference.2.kind

theorem Accounted.accepts
    (met : Accounted payload scan references) (dead : Bool) (inside : ref.commandIndex < payload.commandCount)
    (fresh : ∀ reference ∈ references,
      reference.2.commandIndex ≠ ref.commandIndex)
    (kind : (payload.commandAt ref.commandIndex).kind = ref.kind) :
    ∃ next, replayCommand payload dead scan ref = .ok next := by
  have unmet : scan.accounted.getD ref.commandIndex false = false := by
    by_contra seen
    obtain ⟨reference, member, same⟩ :=
      (met.accounted ref.commandIndex).mp (eq_true_of_ne_false seen)
    exact fresh reference member same
  have admitted : ¬ (ref.commandIndex ≥ payload.commandCount ||
      scan.accounted.getD ref.commandIndex false ||
      decide ((payload.commandAt ref.commandIndex).kind ≠ ref.kind)) =
        true := by
    simp only [Bool.or_eq_true, decide_eq_true_eq, not_or, ne_eq, not_not]
    exact ⟨⟨Nat.not_le.mpr inside, by rw [unmet]; nofun⟩, kind⟩
  unfold replayCommand
  simp only [if_neg admitted]
  cases dead with
  | true => exact ⟨_, rfl⟩
  | false => exact ⟨_, rfl⟩

theorem Accounted.acceptsAll
    (refs : List CommandRef) (met : Accounted payload scan references)
    (inside : ∀ ref ∈ refs, ref.commandIndex < payload.commandCount ∧
      (payload.commandAt ref.commandIndex).kind = ref.kind)
    (once : ((references ++ refs.map fun ref => (dead, ref)).map
      fun reference => reference.2.commandIndex).Nodup) :
    ∃ next, refs.foldlM (replayCommand payload dead) scan = .ok next := by
  induction refs generalizing scan references with
  | nil => exact ⟨scan, rfl⟩
  | cons ref rest induction =>
      have here := inside ref List.mem_cons_self
      have fresh : ∀ reference ∈ references,
          reference.2.commandIndex ≠ ref.commandIndex := by
        intro reference member
        rw [List.map_append, List.nodup_append] at once
        exact once.2.2 _ (List.mem_map_of_mem member) _ (List.mem_cons_self)
      obtain ⟨middle, first⟩ := met.accepts dead here.1 fresh here.2
      rw [List.foldlM_cons, first]
      apply induction (met.command first)
      · intro other member
        exact inside other (List.mem_cons_of_mem _ member)
      · rw [List.append_assoc]
        exact once

theorem Accounted.acceptsPasses (passes : List PassNode)
    (met : Accounted payload scan references)
    (ranges : ∀ pass ∈ passes, validCommandRange graph pass = true)
    (inside : ∀ pass ∈ passes, ∀ ref ∈ graph.commandsOf pass,
      ref.commandIndex < payload.commandCount ∧
        (payload.commandAt ref.commandIndex).kind = ref.kind)
    (once : ((references ++ passes.flatMap fun pass =>
        (graph.commandsOf pass).map fun ref =>
          (pass.flags.dead, ref)).map
      fun reference => reference.2.commandIndex).Nodup) :
    ∃ next, passes.foldlM (replayPass graph payload) scan = .ok next := by
  induction passes generalizing scan references with
  | nil => exact ⟨scan, rfl⟩
  | cons pass rest induction =>
      rw [List.flatMap_cons, ← List.append_assoc] at once
      have front : ((references ++ (graph.commandsOf pass).map fun ref =>
          (pass.flags.dead, ref)).map
            fun reference => reference.2.commandIndex).Nodup := by
        rw [List.map_append] at once
        exact (List.nodup_append.mp once).1
      obtain ⟨middle, first⟩ := met.acceptsAll (graph.commandsOf pass)
        (inside pass List.mem_cons_self) front
      have stepped : replayPass graph payload scan pass = .ok middle := by
        unfold replayPass
        rw [ranges pass List.mem_cons_self]
        exact first
      rw [List.foldlM_cons, stepped]
      apply induction (met.commands _ first)
      · intro other member
        exact ranges other (List.mem_cons_of_mem _ member)
      · intro other member
        exact inside other (List.mem_cons_of_mem _ member)
      · exact once

theorem planReplayCommands_valid_iff (graph : FrameGraph)
    (payload : SourcePayloadView) :
    (planReplayCommands graph payload).valid = true ↔
      CoversOnce graph payload := by
  constructor
  · intro valid
    have replayed := planReplayCommands_valid valid
    exact ⟨replayed.ranges, replayed.complete, replayed.kinds⟩
  · intro covers
    have owned : ∀ pass ∈ graph.passes, ∀ ref ∈ graph.commandsOf pass,
        (pass.flags.dead, ref) ∈ ownedReferences graph := by
      intro pass member ref listed
      exact List.mem_flatMap.mpr ⟨pass, member, List.mem_map_of_mem listed⟩
    have inside : ∀ pass ∈ graph.passes, ∀ ref ∈ graph.commandsOf pass,
        ref.commandIndex < payload.commandCount ∧
          (payload.commandAt ref.commandIndex).kind = ref.kind := by
      intro pass member ref listed
      have reference := owned pass member ref listed
      constructor
      · apply List.mem_range.mp
        exact covers.once.mem_iff.mp (List.mem_map.mpr ⟨_, reference, rfl⟩)
      · exact covers.kinds _ reference
    have nodup := covers.once.nodup_iff.mpr List.nodup_range
    obtain ⟨scan, finished⟩ := (accounted_start payload).acceptsPasses
      graph.passes covers.ranges inside nodup
    have met := (accounted_start payload).passes graph.passes finished
    change Accounted payload scan (ownedReferences graph) at met
    have all : scan.accounted.all id = true := by
      rw [List.all_eq_true]
      intro flag member
      obtain ⟨index, bound, rfl⟩ := List.getElem_of_mem member
      have listed := covers.once.mem_iff.mpr
        (List.mem_range.mpr (met.accountedLength ▸ bound))
      obtain ⟨reference, found, same⟩ := List.mem_map.mp listed
      have flag := (met.accounted index).mpr ⟨reference, found, same⟩
      rw [List.getD_eq_getElem _ _ bound] at flag
      exact flag
    unfold planReplayCommands
    simp only [finished]
    unfold finishReplay
    rw [if_pos all]

/-- The commands from `natural` on that are not omitted. -/
def remaining (omitted : List Bool) (natural : Nat) : List Nat :=
  (List.range' natural (omitted.length - natural)).filter fun index =>
    !omitted.getD index false

variable {omitted : List Bool} {natural : Nat}

theorem remaining_of_length_le
    (behind : omitted.length ≤ natural) : remaining omitted natural = [] := by
  unfold remaining
  rw [Nat.sub_eq_zero_of_le behind]
  rfl

theorem remaining_step
    (inside : natural < omitted.length) :
    remaining omitted natural =
      if omitted[natural] then remaining omitted (natural + 1)
      else natural :: remaining omitted (natural + 1) := by
  have count : omitted.length - natural =
      omitted.length - (natural + 1) + 1 := by omega
  unfold remaining
  rw [count, List.range'_succ, List.filter_cons,
    List.getD_eq_getElem _ _ inside]
  cases omitted[natural] with
  | true => rfl
  | false => rfl

theorem skipOmitted_step
    (inside : natural < omitted.length) :
    skipOmitted omitted natural =
      if omitted[natural] then skipOmitted omitted (natural + 1)
      else natural := by
  unfold skipOmitted
  rw [List.drop_eq_getElem_cons inside, List.takeWhile_cons]
  cases omitted[natural] with
  | true =>
      change natural + (List.length _ + 1) = natural + 1 + _
      omega
  | false => rfl

/-- The cursor stops at the first command that remains. -/
theorem remaining_skip (omitted : List Bool) (natural : Nat) :
    remaining omitted natural =
      if skipOmitted omitted natural < omitted.length then
        skipOmitted omitted natural ::
          remaining omitted (skipOmitted omitted natural + 1)
      else [] := by
  by_cases inside : natural < omitted.length
  · have step := skipOmitted_step inside
    have list := remaining_step inside
    cases flag : omitted[natural] with
    | true =>
        rw [flag, if_pos rfl] at step list
        rw [list, step]
        exact remaining_skip omitted (natural + 1)
    | false =>
        rw [flag, if_neg nofun] at step list
        rw [list, step, if_pos inside]
  · have behind := Nat.not_lt.mp inside
    have stops : natural ≤ skipOmitted omitted natural := Nat.le_add_right _ _
    rw [remaining_of_length_le behind, if_neg (by omega)]
termination_by omitted.length - natural

/-- The pass with the cursor compares with what remains. -/
theorem isReordered_eq_false_iff
    {indices : List Nat}
    (inside : ∀ index ∈ indices, index < omitted.length) :
    isReordered omitted natural indices = false ↔
      indices <+: remaining omitted natural := by
  induction indices generalizing natural with
  | nil => exact iff_of_true rfl List.nil_prefix
  | cons index rest induction =>
      have here := inside index List.mem_cons_self
      have later := @induction (skipOmitted omitted natural + 1)
        fun other member => inside other (List.mem_cons_of_mem _ member)
      unfold isReordered
      rw [remaining_skip]
      by_cases same : index = skipOmitted omitted natural
      · rw [← same] at later ⊢
        simp only [ne_eq, not_true_eq_false, if_false, if_pos here]
        rw [later, List.cons_prefix_cons]
        exact (and_iff_right rfl).symm
      · simp only [ne_eq, same, not_false_eq_true, if_true]
        refine iff_of_false nofun ?_
        split
        · rw [List.cons_prefix_cons]
          exact fun starts => same starts.1
        · rw [List.prefix_nil]
          nofun

/-- The commands of the dead passes. -/
def deadCommands (graph : FrameGraph) : List Nat :=
  graph.passes.flatMap fun pass =>
    if pass.flags.dead then
      (graph.commandsOf pass).map CommandRef.commandIndex
    else []

theorem deadCommands_eq (graph : FrameGraph) :
    deadCommands graph =
      ((ownedReferences graph).filter fun reference => reference.1).map
        fun reference => reference.2.commandIndex := by
  unfold deadCommands ownedReferences
  rw [List.filter_flatMap, List.map_flatMap]
  apply List.flatMap_congr
  intro pass _
  cases pass.flags.dead with
  | true =>
      rw [List.filter_eq_self.mpr (by simp)]
      simp
  | false => simp

theorem live_dead_perm (graph : FrameGraph) :
    (liveIndices (ownedReferences graph) ++ deadCommands graph).Perm
      ((ownedReferences graph).map fun reference =>
        reference.2.commandIndex) := by
  rw [deadCommands_eq]
  unfold liveIndices
  rw [← List.map_append]
  apply List.Perm.map
  refine List.Perm.trans List.perm_append_comm ?_
  exact List.filter_append_perm _ _

theorem dropped_iff
    (ranges : ∀ pass ∈ graph.passes, validCommandRange graph pass = true) :
    ((ownedReferences graph).any fun reference => reference.1) = true ↔
      ∃ pass ∈ graph.passes, pass.flags.dead = true ∧
        pass.commands.count ≠ 0 := by
  have length : ∀ pass ∈ graph.passes,
      (graph.commandsOf pass).length = pass.commands.count := by
    intro pass member
    have range := ranges pass member
    simp only [validCommandRange, Bool.and_eq_true, decide_eq_true_eq] at range
    unfold FrameGraph.commandsOf
    rw [List.length_take, List.length_drop]
    omega
  rw [List.any_eq_true]
  constructor
  · rintro ⟨reference, member, dead⟩
    obtain ⟨pass, listed, inside⟩ := List.mem_flatMap.mp member
    obtain ⟨ref, found, rfl⟩ := List.mem_map.mp inside
    refine ⟨pass, listed, dead, ?_⟩
    rw [← length pass listed]
    intro empty
    exact List.ne_nil_of_mem found (List.eq_nil_of_length_eq_zero empty)
  · rintro ⟨pass, listed, dead, nonempty⟩
    rw [← length pass listed] at nonempty
    have owns : graph.commandsOf pass ≠ [] := by
      intro empty
      rw [empty] at nonempty
      exact nonempty rfl
    obtain ⟨ref, found⟩ := List.exists_mem_of_ne_nil _ owns
    refine ⟨(pass.flags.dead, ref), ?_, dead⟩
    exact List.mem_flatMap.mpr ⟨pass, listed, List.mem_map_of_mem found⟩

theorem planReplayCommands_reordered
    (valid : (planReplayCommands graph payload).valid = true) :
    ∃ omitted : List Bool, omitted.length = payload.commandCount ∧
      (∀ index, omitted.getD index false = true ↔ index ∈ deadCommands graph) ∧
      (planReplayCommands graph payload).reordered =
        isReordered omitted 0
          (planReplayCommands graph payload).commandIndices := by
  unfold planReplayCommands at valid ⊢
  simp only at valid ⊢
  split at valid
  · rename_i plan failed
    have invalid :=
      replayPasses_error graph.passes (accounted_start payload) failed
    rw [invalid] at valid
    contradiction
  rename_i scan finished
  have met := (accounted_start payload).passes graph.passes finished
  change Accounted payload scan (ownedReferences graph) at met
  unfold finishReplay at valid ⊢
  split at valid
  swap
  · rw [met.unfinished] at valid
    contradiction
  rename_i all
  refine ⟨scan.omitted, met.omittedLength, ?_, ?_⟩
  · intro index
    rw [met.omitted, deadCommands_eq, List.mem_map]
    simp only [List.mem_filter]
    constructor
    · rintro ⟨reference, member, dead, same⟩
      exact ⟨reference, ⟨member, dead⟩, same⟩
    · rintro ⟨reference, ⟨member, dead⟩, same⟩
      exact ⟨reference, member, dead, same⟩
  · simp only [all, if_true]

/-- A plan is valid exactly when the passes cover the source; a valid plan
partitions the source, knows whether it drops a command, and calls its order
natural exactly when it is that of the commands it keeps. -/
theorem planReplayCommands_classifies (graph : FrameGraph)
    (payload : SourcePayloadView) :
    let plan := planReplayCommands graph payload
    (plan.valid = true ↔ CoversOnce graph payload) ∧
      (plan.valid = true →
        (plan.commandIndices ++ deadCommands graph).Perm
            (List.range payload.commandCount) ∧
          (plan.dropped = true ↔ ∃ pass ∈ graph.passes,
            pass.flags.dead = true ∧ pass.commands.count ≠ 0) ∧
          (plan.reordered = false ↔ plan.commandIndices =
            (List.range payload.commandCount).filter fun index =>
              index ∉ deadCommands graph)) := by
  refine ⟨planReplayCommands_valid_iff graph payload, ?_⟩
  intro valid
  have replayed := planReplayCommands_valid valid
  have parts : ((planReplayCommands graph payload).commandIndices ++
      deadCommands graph).Perm (List.range payload.commandCount) := by
    rw [replayed.indices]
    exact (live_dead_perm graph).trans replayed.complete
  refine ⟨parts, ?_, ?_⟩
  · rw [replayed.dropped]
    exact dropped_iff replayed.ranges
  · obtain ⟨omitted, length, flags, reordered⟩ :=
      planReplayCommands_reordered valid
    have inside : ∀ index ∈
        (planReplayCommands graph payload).commandIndices,
        index < omitted.length := by
      intro index member
      rw [length]
      exact List.mem_range.mp
        (parts.mem_iff.mp (List.mem_append_left _ member))
    have kept : remaining omitted 0 =
        (List.range payload.commandCount).filter fun index =>
          index ∉ deadCommands graph := by
      unfold remaining
      rw [Nat.sub_zero, length, ← List.range_eq_range']
      apply List.filter_congr
      intro index _
      rw [Bool.eq_iff_iff, decide_eq_true_iff, ← flags, Bool.not_eq_true',
        Bool.not_eq_true]
    -- The plan keeps as many commands as remain, so a prefix is the whole.
    have sorted : (planReplayCommands graph payload).commandIndices.length =
        (remaining omitted 0).length := by
      have nodup := parts.nodup_iff.mpr List.nodup_range
      have disjoint := (List.nodup_append.mp nodup).2.2
      rw [kept]
      apply List.Perm.length_eq
      rw [List.perm_ext_iff_of_nodup (List.nodup_append.mp nodup).1
        (List.nodup_range.filter _)]
      intro index
      rw [List.mem_filter, decide_eq_true_iff]
      constructor
      · intro member
        refine ⟨parts.mem_iff.mp (List.mem_append_left _ member), ?_⟩
        exact fun dead => disjoint index member index dead rfl
      · rintro ⟨listed, live⟩
        exact (List.mem_append.mp (parts.mem_iff.mpr listed)).resolve_right
          live
    rw [reordered, isReordered_eq_false_iff inside, ← kept]
    constructor
    · exact fun starts => starts.eq_of_length sorted
    · exact fun same => same ▸ List.prefix_refl _

end Dxmt9.Framegraph
