import Dxmt9.Framegraph.MultiSource
import Dxmt9.Framegraph.ReplayPlan
import Dxmt9.Order.Precedes
import Mathlib.Data.List.Perm.Basic
import Mathlib.Data.List.Sublists

/-!
# What the permutation validator accepts

The validator accepts exactly the permutations of the window in which a
command that is no draw keeps its natural order against every command of
another source.  The natural order itself is accepted.
-/

namespace Dxmt9.Framegraph

open Dxmt9.Order

/-! ## The window -/

/-- The locator names a command of the window. -/
def InWindow (sources : List MultiSourcePlanningSource)
    (locator : RetainedSourceCommandLocator) : Prop :=
  ∃ source, sources[locator.retainedSourceIndex]? = some source ∧
    locator.commandIndex < source.commandCount

/-- The natural order of two locators: by source, then by command. -/
def NaturallyBefore (first second : RetainedSourceCommandLocator) : Prop :=
  first.retainedSourceIndex < second.retainedSourceIndex ∨
    first.retainedSourceIndex = second.retainedSourceIndex ∧
      first.commandIndex < second.commandIndex

instance (first second : RetainedSourceCommandLocator) :
    Decidable (NaturallyBefore first second) :=
  inferInstanceAs (Decidable (_ ∨ _ ∧ _))

section Window

variable {sources : List MultiSourcePlanningSource}

theorem sourceBase_succ {index : Nat} {source : MultiSourcePlanningSource}
    (present : sources[index]? = some source) :
    sourceBase sources (index + 1) =
      sourceBase sources index + source.commandCount := by
  simp [sourceBase, List.take_add_one, present]

theorem sourceBase_mono (sources : List MultiSourcePlanningSource)
    {first second : Nat} (ordered : first ≤ second) :
    sourceBase sources first ≤ sourceBase sources second := by
  obtain ⟨more, rfl⟩ := Nat.exists_eq_add_of_le ordered
  simp [sourceBase, List.take_add]

variable {locator : RetainedSourceCommandLocator}

/-- Natural indices of the window are below the total count. -/
theorem naturalIndex_lt
    (inWindow : InWindow sources locator) :
    naturalIndex sources locator < sourceBase sources sources.length := by
  obtain ⟨source, present, bound⟩ := inWindow
  have inside := (List.getElem?_eq_some_iff.mp present).1
  have step := sourceBase_succ present
  have rest := sourceBase_mono sources
    (show locator.retainedSourceIndex + 1 ≤ _ from inside)
  unfold naturalIndex
  omega

theorem naturalIndex_lt_iff {first second : RetainedSourceCommandLocator}
    (firstIn : InWindow sources first) (secondIn : InWindow sources second) :
    naturalIndex sources first < naturalIndex sources second ↔
      NaturallyBefore first second := by
  have later : ∀ {left right : RetainedSourceCommandLocator},
      InWindow sources left →
      left.retainedSourceIndex < right.retainedSourceIndex →
      naturalIndex sources left < naturalIndex sources right := by
    rintro left right ⟨source, present, bound⟩ ordered
    have step := sourceBase_succ present
    have rest := sourceBase_mono sources
      (show left.retainedSourceIndex + 1 ≤ _ from ordered)
    unfold naturalIndex
    omega
  unfold NaturallyBefore
  rcases Nat.lt_trichotomy first.retainedSourceIndex
      second.retainedSourceIndex with before | same | after
  · simp [before, later firstIn before]
  · simp [naturalIndex, same]
  · have reversed := later secondIn after
    constructor
    · intro ordered
      omega
    · rintro (before | ⟨same, _⟩)
      · omega
      · omega

theorem naturalIndex_injective {first second : RetainedSourceCommandLocator}
    (firstIn : InWindow sources first) (secondIn : InWindow sources second)
    (same : naturalIndex sources first = naturalIndex sources second) :
    first = second := by
  have notBefore := naturalIndex_lt_iff firstIn secondIn
  have notAfter := naturalIndex_lt_iff secondIn firstIn
  rw [same] at notBefore notAfter
  unfold NaturallyBefore at notBefore notAfter
  cases first
  cases second
  simp only [RetainedSourceCommandLocator.mk.injEq]
  simp only [Nat.lt_irrefl, false_iff] at notBefore notAfter
  omega

theorem locateFrom_spec (sourceIndex localIndex : Nat)
    (bound : localIndex < sourceBase sources sources.length) :
    ∃ index source, sources[index]? = some source ∧
      (locateFrom sourceIndex localIndex sources).retainedSourceIndex =
        sourceIndex + index ∧
      (locateFrom sourceIndex localIndex sources).commandIndex <
        source.commandCount ∧
      sourceBase sources index +
        (locateFrom sourceIndex localIndex sources).commandIndex =
          localIndex := by
  induction sources generalizing sourceIndex localIndex with
  | nil => simp [sourceBase] at bound
  | cons source rest induction =>
      unfold locateFrom
      by_cases here : localIndex < source.commandCount
      · rw [if_pos here]
        exact ⟨0, source, rfl, rfl, here, by simp [sourceBase]⟩
      · rw [if_neg here]
        have restBound : localIndex - source.commandCount <
            sourceBase rest rest.length := by
          simp only [sourceBase, List.take_length, List.map_cons,
            List.sum_cons] at bound ⊢
          omega
        obtain ⟨index, owner, present, at', inside, sum⟩ :=
          induction (sourceIndex + 1) _ restBound
        refine ⟨index + 1, owner, by simpa using present, by omega, inside, ?_⟩
        simp only [sourceBase, List.take_succ_cons, List.map_cons,
          List.sum_cons] at sum ⊢
        omega

theorem naturalIndex_locateFlattened {flattened : Nat}
    (bound : flattened < sourceBase sources sources.length) :
    InWindow sources (locateFlattened sources flattened) ∧
      naturalIndex sources (locateFlattened sources flattened) =
        flattened := by
  obtain ⟨index, source, present, at', inside, sum⟩ :=
    locateFrom_spec 0 flattened bound
  rw [Nat.zero_add] at at'
  unfold InWindow naturalIndex locateFlattened
  rw [at']
  exact ⟨⟨source, present, inside⟩, sum⟩

theorem locateFlattened_naturalIndex
    (inWindow : InWindow sources locator) :
    locateFlattened sources (naturalIndex sources locator) = locator := by
  obtain ⟨located, same⟩ :=
    naturalIndex_locateFlattened (naturalIndex_lt inWindow)
  exact naturalIndex_injective located inWindow same

theorem validateSources_total {totalCommands : Nat}
    (valid : validateSources sources = some totalCommands) :
    totalCommands = sourceBase sources sources.length ∧
      sources.length ≤ kMaxMultiSourcePlanningSources := by
  have count : ∀ (rest : List MultiSourcePlanningSource) (start : Nat),
      rest.foldlM validateSource start = some totalCommands →
      totalCommands =
        start + (rest.map MultiSourcePlanningSource.commandCount).sum := by
    intro rest
    induction rest with
    | nil =>
        intro start equal
        simpa using (Option.some.inj equal).symm
    | cons source rest induction =>
        intro start equal
        rw [List.foldlM_cons] at equal
        cases step : validateSource start source with
        | none => simp [step] at equal
        | some next =>
            rw [step] at equal
            have sum := induction next equal
            unfold validateSource at step
            split at step
            · contradiction
            · rw [List.map_cons, List.sum_cons]
              have nextEq := Option.some.inj step
              omega
  unfold validateSources at valid
  split at valid
  · contradiction
  · rename_i accepted
    simp only [Bool.or_eq_true, decide_eq_true_eq, not_or, Nat.not_lt]
      at accepted
    refine ⟨?_, accepted.2⟩
    have total := count sources 0 valid
    simpa [sourceBase] using total

theorem mem_naturalPlan :
    locator ∈ naturalPlan sources ↔ InWindow sources locator := by
  unfold naturalPlan InWindow
  simp only [List.mem_flatMap, List.mem_map, List.mem_range, Prod.exists,
    List.mem_zipIdx_iff_getElem?]
  constructor
  · rintro ⟨source, index, present, command, bound, rfl⟩
    exact ⟨source, present, bound⟩
  · rintro ⟨source, present, bound⟩
    exact ⟨source, locator.retainedSourceIndex, present,
      locator.commandIndex, bound, rfl⟩

theorem naturalPlan_pairwise (sources : List MultiSourcePlanningSource) :
    (naturalPlan sources).Pairwise NaturallyBefore := by
  unfold naturalPlan
  rw [List.pairwise_flatMap]
  constructor
  · rintro ⟨source, index⟩ _
    rw [List.pairwise_map]
    exact List.pairwise_lt_range.imp fun ordered => Or.inr ⟨rfl, ordered⟩
  · have increasing : sources.zipIdx.Pairwise fun left right =>
        left.2 < right.2 := by
      rw [List.pairwise_iff_getElem]
      intro i j iBound jBound ordered
      simpa using ordered
    refine increasing.imp fun ordered first firstMember second
      secondMember => ?_
    obtain ⟨_, _, rfl⟩ := List.mem_map.mp firstMember
    obtain ⟨_, _, rfl⟩ := List.mem_map.mp secondMember
    exact Or.inl ordered

theorem NaturallyBefore.ne {first second : RetainedSourceCommandLocator}
    (before : NaturallyBefore first second) : first ≠ second := by
  rintro rfl
  unfold NaturallyBefore at before
  omega

theorem naturalPlan_nodup (sources : List MultiSourcePlanningSource) :
    (naturalPlan sources).Nodup :=
  (naturalPlan_pairwise sources).imp NaturallyBefore.ne

theorem naturalPlan_length (sources : List MultiSourcePlanningSource) :
    (naturalPlan sources).length = sourceBase sources sources.length := by
  unfold naturalPlan sourceBase
  simp only [List.length_flatMap, List.length_map, List.length_range,
    List.take_length]
  congr 1
  apply List.ext_getElem (by simp)
  intro index _ _
  simp

end Window

section Movement

variable {sources : List MultiSourcePlanningSource}
  {exceeds : Nat → Nat → Bool} {extreme : Nat → Nat → Nat}

section

variable (combines : ∀ bound index target, exceeds (extreme bound index) target
    = (exceeds bound target || exceeds index target))
include combines

/-- The extreme recorded for a source after one more command. -/
theorem any_set_extreme
    (met : List (Option Nat)) {source : Nat} (index other target : Nat)
    (room : source < met.length) :
    let bound := ((met.getD source none).map
      fun bound => extreme bound index).getD index
    ((met.set source (some bound)).getD other none).any
        (fun bound => exceeds bound target) =
      ((met.getD other none).any (fun bound => exceeds bound target) ||
        (decide (other = source) && exceeds index target)) := by
  intro bound
  by_cases same : other = source
  · subst same
    have here : (met.set other (some bound)).getD other none = some bound := by
      simp [room]
    rw [here]
    simp only [Option.any_some, bound]
    cases met.getD other none with
    | none => simp
    | some old => simp [combines]
  · have elsewhere : (met.set source (some bound)).getD other none =
        met.getD other none := by
      simp [Ne.symm same]
    rw [elsewhere]
    simp [same]

theorem movementScan_eq_false
    (commands : List RetainedSourceCommandLocator)
    {met : List (Option Nat)} (room : sources.length ≤ met.length)
    (inside : ∀ locator ∈ commands,
      locator.retainedSourceIndex < sources.length) :
    movementScan sources exceeds extreme met commands = false ↔
      (∀ locator ∈ commands, isNonDraw sources locator = true →
        ∀ other < sources.length, other ≠ locator.retainedSourceIndex →
          (met.getD other none).any
            (fun bound => exceeds bound (naturalIndex sources locator)) =
              false) ∧
      commands.Pairwise fun earlier later =>
        isNonDraw sources later = true →
        earlier.retainedSourceIndex ≠ later.retainedSourceIndex →
          exceeds (naturalIndex sources earlier)
            (naturalIndex sources later) = false := by
  induction commands generalizing met with
  | nil => simp [movementScan]
  | cons head rest induction =>
      have headInside := inside head List.mem_cons_self
      have restInside : ∀ locator ∈ rest,
          locator.retainedSourceIndex < sources.length :=
        fun locator listed => inside locator (List.mem_cons_of_mem head listed)
      have step := fun other target => any_set_extreme combines met
        (naturalIndex sources head) other target (headInside.trans_le room)
      simp only at step
      unfold movementScan
      simp only
      rw [List.pairwise_cons, List.forall_mem_cons]
      split
      · rename_i crossed
        simp only [Bool.and_eq_true, List.any_eq_true, List.mem_range,
          decide_eq_true_eq] at crossed
        obtain ⟨nonDraw, other, bound, different, exceeded⟩ := crossed
        simp only [Bool.true_eq_false, false_iff]
        rintro ⟨⟨uncrossed, _⟩, _⟩
        rw [uncrossed nonDraw other bound different] at exceeded
        contradiction
      · rename_i uncrossed
        rw [induction (by simpa using room) restInside]
        simp only [step, Bool.or_eq_false_iff, Bool.and_eq_false_iff,
          decide_eq_false_iff_not]
        have headFree : isNonDraw sources head = true →
            ∀ other < sources.length, other ≠ head.retainedSourceIndex →
                (met.getD other none).any (fun bound =>
                  exceeds bound (naturalIndex sources head)) = false := by
          intro nonDraw other bound different
          by_contra exceeded
          rw [Bool.not_eq_false] at exceeded
          apply uncrossed
          simp only [Bool.and_eq_true, List.any_eq_true, List.mem_range,
            decide_eq_true_eq]
          exact ⟨nonDraw, other, bound, different, exceeded⟩
        constructor
        · rintro ⟨kept, ordered⟩
          refine ⟨⟨headFree, fun locator listed nonDraw other bound
            different => (kept locator listed nonDraw other bound
              different).1⟩, ?_, ordered⟩
          intro locator listed nonDraw different
          exact (kept locator listed nonDraw head.retainedSourceIndex
            headInside different).2.resolve_left (fun apart => apart rfl)
        · rintro ⟨⟨_, kept⟩, headKept, ordered⟩
          refine ⟨?_, ordered⟩
          intro locator listed nonDraw other bound different
          refine ⟨kept locator listed nonDraw other bound different, ?_⟩
          by_cases same : other = head.retainedSourceIndex
          · exact Or.inr (headKept locator listed nonDraw (same ▸ different))
          · exact Or.inl same

end

variable {commands : List RetainedSourceCommandLocator}

section

variable (few : sources.length ≤ kMaxMultiSourcePlanningSources)
  (inside : ∀ locator ∈ commands, locator.retainedSourceIndex < sources.length)
include few inside

theorem prefixMaxMoved_eq_false :
    prefixMaxMoved sources commands = false ↔
      commands.Pairwise fun earlier later =>
        isNonDraw sources later = true →
        earlier.retainedSourceIndex ≠ later.retainedSourceIndex →
          naturalIndex sources earlier ≤ naturalIndex sources later := by
  unfold prefixMaxMoved
  rw [movementScan_eq_false (by grind) commands (by simpa using few) inside]
  simp

theorem suffixMinMoved_eq_false :
    suffixMinMoved sources commands = false ↔
      commands.Pairwise fun earlier later =>
        isNonDraw sources earlier = true →
        later.retainedSourceIndex ≠ earlier.retainedSourceIndex →
          naturalIndex sources earlier ≤ naturalIndex sources later := by
  unfold suffixMinMoved
  rw [movementScan_eq_false (by grind) commands.reverse
    (by simpa using few) (by simpa using inside), List.pairwise_reverse]
  simp

end

end Movement

section Marking

variable {sources : List MultiSourcePlanningSource}

variable {seen next : List Bool}

theorem markLocator_eq_ok
    {locator : RetainedSourceCommandLocator} :
    markLocator sources seen locator = .ok next ↔
      InWindow sources locator ∧
        seen.getD (naturalIndex sources locator) false = false ∧
          seen.set (naturalIndex sources locator) true = next := by
  unfold markLocator InWindow
  cases present : sources[locator.retainedSourceIndex]? with
  | none => simp
  | some source =>
      simp only [Option.some.injEq, exists_eq_left']
      split
      · rename_i outside
        simp [Nat.not_lt.mpr outside]
      · rename_i inside
        rw [Nat.not_le] at inside
        cases seen.getD (naturalIndex sources locator) false <;>
          simp [inside]

section

variable (commands : List RetainedSourceCommandLocator)
include commands

theorem foldlM_markLocator_eq_ok
    (room : seen.length = sourceBase sources sources.length) :
    commands.foldlM (markLocator sources) seen = .ok next ↔
      (∀ locator ∈ commands, InWindow sources locator ∧
        seen.getD (naturalIndex sources locator) false = false) ∧
      commands.Nodup ∧
      commands.foldl
        (fun marked locator =>
          marked.set (naturalIndex sources locator) true) seen = next := by
  induction commands generalizing seen with
  | nil => simp [pure, Except.pure]
  | cons head rest induction =>
      rw [List.foldlM_cons, List.forall_mem_cons, List.nodup_cons,
        List.foldl_cons]
      have bind : (do
            let marked ← markLocator sources seen head
            rest.foldlM (markLocator sources) marked) = .ok next ↔
          ∃ marked, markLocator sources seen head = .ok marked ∧
            rest.foldlM (markLocator sources) marked = .ok next := by
        cases markLocator sources seen head with
        | error verdict => simp [Bind.bind, Except.bind]
        | ok marked => simp [Bind.bind, Except.bind]
      rw [bind]
      simp only [markLocator_eq_ok]
      -- A command counts as new when it differs from those marked before.
      have fresh : InWindow sources head → ∀ locator,
          InWindow sources locator →
          ((seen.set (naturalIndex sources head) true).getD
              (naturalIndex sources locator) false = false ↔
            seen.getD (naturalIndex sources locator) false = false ∧
              locator ≠ head) := by
        intro headIn locator locatorIn
        have inside : naturalIndex sources head < seen.length := by
          rw [room]
          exact naturalIndex_lt headIn
        have marked : (seen.set (naturalIndex sources head) true).getD
            (naturalIndex sources locator) false = true ↔
              seen.getD (naturalIndex sources locator) false = true ∨
                naturalIndex sources head = naturalIndex sources locator :=
          getD_set_true inside
        have same : naturalIndex sources head =
            naturalIndex sources locator ↔ locator = head :=
          ⟨fun equal =>
            (naturalIndex_injective headIn locatorIn equal).symm,
            fun equal => by rw [equal]⟩
        rw [same] at marked
        rw [← Bool.not_eq_true, marked, not_or, Bool.not_eq_true]
      constructor
      · rintro ⟨marked, ⟨headIn, headNew, rfl⟩, rest'⟩
        rw [induction (by simpa using room)] at rest'
        obtain ⟨restIn, distinct, equal⟩ := rest'
        have restFresh := fun locator listed =>
          (fresh headIn locator (restIn locator listed).1).mp
            (restIn locator listed).2
        refine ⟨⟨⟨headIn, headNew⟩, fun locator listed =>
          ⟨(restIn locator listed).1, (restFresh locator listed).1⟩⟩,
          ⟨fun listed => (restFresh head listed).2 rfl, distinct⟩, equal⟩
      · rintro ⟨⟨⟨headIn, headNew⟩, restIn⟩, ⟨absent, distinct⟩, equal⟩
        refine ⟨_, ⟨headIn, headNew, rfl⟩, ?_⟩
        rw [induction (by simpa using room)]
        refine ⟨fun locator listed => ⟨(restIn locator listed).1, ?_⟩,
          distinct, equal⟩
        exact (fresh headIn locator (restIn locator listed).1).mpr
          ⟨(restIn locator listed).2, fun same => absent (same ▸ listed)⟩

theorem foldlM_markLocator_ne_valid (seen : List Bool) :
    commands.foldlM (markLocator sources) seen ≠ .error .valid := by
  induction commands generalizing seen with
  | nil => simp [pure, Except.pure]
  | cons head rest induction =>
      rw [List.foldlM_cons]
      cases marked : markLocator sources seen head with
      | ok next => exact induction next
      | error verdict =>
          have rejected : verdict ≠ .valid := by
            rintro rfl
            unfold markLocator at marked
            repeat' split at marked
            all_goals simp at marked
          simpa [Bind.bind, Except.bind] using rejected

/-- After marking, exactly the natural indices of the commands are set. -/
theorem getD_foldl_mark
    (inside : ∀ locator ∈ commands,
      naturalIndex sources locator < seen.length) (index : Nat) :
    (commands.foldl
        (fun marked locator =>
          marked.set (naturalIndex sources locator) true)
        seen).getD index false = true ↔
      seen.getD index false = true ∨
        ∃ locator ∈ commands, naturalIndex sources locator = index := by
  induction commands generalizing seen with
  | nil => simp
  | cons head rest induction =>
      rw [List.foldl_cons, induction (fun locator listed => by
          simpa using inside locator (List.mem_cons_of_mem head listed)),
        getD_set_true (inside head List.mem_cons_self), or_assoc,
        List.exists_mem_cons_iff]

end

theorem length_foldl_mark (sources : List MultiSourcePlanningSource)
    (commands : List RetainedSourceCommandLocator) (seen : List Bool) :
    (commands.foldl
        (fun marked locator =>
          marked.set (naturalIndex sources locator) true)
        seen).length = seen.length := by
  induction commands generalizing seen with
  | nil => rfl
  | cons head rest induction =>
      rw [List.foldl_cons, induction, List.length_set]

end Marking

/-- A permutation of the window that moves only draws across sources. -/
structure ReplayPermutation (sources : List MultiSourcePlanningSource)
    (commands : List RetainedSourceCommandLocator) : Prop where
  nodup : commands.Nodup
  complete : ∀ locator, locator ∈ commands ↔ InWindow sources locator
  ordered : commands.Pairwise fun earlier later =>
    (isNonDraw sources earlier = true ∨ isNonDraw sources later = true) →
    earlier.retainedSourceIndex ≠ later.retainedSourceIndex →
      NaturallyBefore earlier later

theorem naturalPlan_permutation
    (sources : List MultiSourcePlanningSource) :
    ReplayPermutation sources (naturalPlan sources) where
  nodup := naturalPlan_nodup sources
  complete _ := mem_naturalPlan
  ordered := (naturalPlan_pairwise sources).imp fun before _ _ => before

variable {commands : List RetainedSourceCommandLocator}

variable {sources : List MultiSourcePlanningSource}

theorem ReplayPermutation.perm
    (permutation : ReplayPermutation sources commands) :
    commands.Perm (naturalPlan sources) :=
  (List.perm_ext_iff_of_nodup permutation.nodup
    (naturalPlan_nodup sources)).mpr fun locator =>
      (permutation.complete locator).trans mem_naturalPlan.symm

theorem inWindow_source_lt
    {locator : RetainedSourceCommandLocator}
    (inWindow : InWindow sources locator) :
    locator.retainedSourceIndex < sources.length := by
  obtain ⟨_, present, _⟩ := inWindow
  exact (List.getElem?_eq_some_iff.mp present).1

/-- A command that is no draw keeps its order against other sources. -/
theorem ReplayPermutation.nonDraw_precedes
    (permutation : ReplayPermutation sources commands)
    {first second : RetainedSourceCommandLocator}
    (firstIn : InWindow sources first) (secondIn : InWindow sources second)
    (different : first.retainedSourceIndex ≠ second.retainedSourceIndex)
    (nonDraw : isNonDraw sources first = true ∨
      isNonDraw sources second = true)
    (ordered : NaturallyBefore first second) :
    Precedes commands first second := by
  have kept : commands.Pairwise fun earlier later =>
      ¬ ((isNonDraw sources later = true ∨ isNonDraw sources earlier = true) ∧
        later.retainedSourceIndex ≠ earlier.retainedSourceIndex ∧
          NaturallyBefore later earlier) := by
    refine permutation.ordered.imp ?_
    rintro earlier later kept ⟨either, apart, reversed⟩
    have forward := kept either.symm apart.symm
    unfold NaturallyBefore at forward reversed
    omega
  exact precedes_of_pairwise kept ((permutation.complete first).mpr firstIn)
    ((permutation.complete second).mpr secondIn) ordered.ne
    ⟨nonDraw, different, ordered⟩

/-- Both movement scans together state the cross-source order. -/
theorem movement_iff_ordered
    (few : sources.length ≤ kMaxMultiSourcePlanningSources)
    (inWindow : ∀ locator ∈ commands, InWindow sources locator) :
    (prefixMaxMoved sources commands = false ∧
        suffixMinMoved sources commands = false) ↔
      commands.Pairwise fun earlier later =>
        (isNonDraw sources earlier = true ∨
            isNonDraw sources later = true) →
        earlier.retainedSourceIndex ≠ later.retainedSourceIndex →
          NaturallyBefore earlier later := by
  have inside : ∀ locator ∈ commands,
      locator.retainedSourceIndex < sources.length :=
    fun locator listed => inWindow_source_lt (inWindow locator listed)
  rw [prefixMaxMoved_eq_false few inside, suffixMinMoved_eq_false few inside,
    ← List.pairwise_and_iff]
  refine List.Pairwise.iff_of_mem fun {earlier later} first second => ?_
  have firstIn := inWindow earlier first
  have secondIn := inWindow later second
  have strict : earlier.retainedSourceIndex ≠ later.retainedSourceIndex →
      (naturalIndex sources earlier ≤ naturalIndex sources later ↔
        NaturallyBefore earlier later) := by
    intro different
    rw [← naturalIndex_lt_iff firstIn secondIn]
    constructor
    · intro ordered
      refine Nat.lt_of_le_of_ne ordered fun same => different ?_
      rw [naturalIndex_injective firstIn secondIn same]
    · exact Nat.le_of_lt
  constructor
  · rintro ⟨behind, front⟩ nonDraw different
    rw [← strict different]
    rcases nonDraw with firstNonDraw | secondNonDraw
    · exact front firstNonDraw different.symm
    · exact behind secondNonDraw different
  · intro ordered
    constructor
    · intro nonDraw different
      exact (strict different).mpr (ordered (Or.inr nonDraw) different)
    · intro nonDraw different
      exact (strict different.symm).mpr
        (ordered (Or.inl nonDraw) different.symm)

theorem validateMultiSourceReplayPermutation_eq_valid :
    validateMultiSourceReplayPermutation sources commands = .valid ↔
      (validateSources sources).isSome = true ∧
        ReplayPermutation sources commands := by
  unfold validateMultiSourceReplayPermutation
  cases counted : validateSources sources with
  | none => simp
  | some totalCommands =>
      obtain ⟨total, few⟩ := validateSources_total counted
      subst total
      simp only [Option.isSome_some, true_and]
      have room : (List.replicate (sourceBase sources sources.length)
          false).length = sourceBase sources sources.length :=
        List.length_replicate
      constructor
      · intro accepted
        split at accepted
        · contradiction
        split at accepted
        · contradiction
        split at accepted
        · rename_i verdict rejected
          exact absurd (accepted ▸ rejected)
            (foldlM_markLocator_ne_valid commands _)
        rename_i seen marking
        split at accepted
        · contradiction
        rename_i allSeen
        split at accepted
        · contradiction
        rename_i behind
        split at accepted
        · contradiction
        rename_i front
        rw [foldlM_markLocator_eq_ok commands room] at marking
        obtain ⟨window, distinct, rfl⟩ := marking
        have inWindow := fun locator listed => (window locator listed).1
        have inside : ∀ locator ∈ commands, naturalIndex sources locator <
            (List.replicate (sourceBase sources sources.length)
              false).length := by
          intro locator listed
          rw [room]
          exact naturalIndex_lt (inWindow locator listed)
        refine ⟨distinct, fun locator => ⟨inWindow locator, ?_⟩,
          (movement_iff_ordered few inWindow).mp
            ⟨by simpa using behind, by simpa using front⟩⟩
        intro locatorIn
        have bound := naturalIndex_lt locatorIn
        simp only [Bool.not_eq_true', Bool.not_eq_false, List.all_eq_true]
          at allSeen
        have marked : (commands.foldl
            (fun marked locator =>
              marked.set (naturalIndex sources locator) true)
            (List.replicate (sourceBase sources sources.length)
              false)).getD (naturalIndex sources locator) false = true := by
          have within := (length_foldl_mark sources commands _).trans room
          rw [← within] at bound
          rw [List.getD_eq_getElem _ _ bound]
          exact allSeen _ (List.getElem_mem bound)
        rw [getD_foldl_mark commands inside, getD_replicate_false] at marked
        simp only [Bool.false_eq_true, false_or] at marked
        obtain ⟨other, listed, same⟩ := marked
        exact naturalIndex_injective (inWindow other listed) locatorIn same
          ▸ listed
      · intro permutation
        have length := permutation.perm.length_eq.trans
          (naturalPlan_length sources)
        have inWindow := fun locator listed =>
          (permutation.complete locator).mp listed
        rw [if_neg (by omega), if_neg (by omega)]
        have marking := (foldlM_markLocator_eq_ok commands room).mpr
          ⟨fun locator listed =>
            ⟨inWindow locator listed, getD_replicate_false _ _⟩,
            permutation.nodup, rfl⟩
        rw [marking]
        have inside : ∀ locator ∈ commands, naturalIndex sources locator <
            (List.replicate (sourceBase sources sources.length)
              false).length := by
          intro locator listed
          rw [room]
          exact naturalIndex_lt (inWindow locator listed)
        have allSeen : (commands.foldl
            (fun marked locator =>
              marked.set (naturalIndex sources locator) true)
            (List.replicate (sourceBase sources sources.length)
              false)).all id = true := by
          rw [List.all_eq_true]
          intro flag member
          obtain ⟨index, bound, rfl⟩ := List.mem_iff_getElem.mp member
          rw [length_foldl_mark, room] at bound
          obtain ⟨located, same⟩ := naturalIndex_locateFlattened bound
          rw [← List.getD_eq_getElem _ false, id, getD_foldl_mark commands
            inside]
          exact Or.inr ⟨_, (permutation.complete _).mpr located, same⟩
        obtain ⟨behind, front⟩ := (movement_iff_ordered few inWindow).mpr
          permutation.ordered
        simp only [behind, front, allSeen, Bool.not_true,
          Bool.false_eq_true, if_false]

end Dxmt9.Framegraph
