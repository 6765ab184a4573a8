import Dxmt9.CpuReady.EmissionPlanSound

/-!
# The counts and marks of an emission plan

The numbers that a plan counts say which kinds of segments it has, and a span
with one Present is marked exactly when this is its last segment.
-/

namespace Dxmt9.CpuReady

open Fallible Queue

variable {imported : ImportedChunkView} {sizes : PayloadSizes}
  {room index : Nat} {pass result : EmissionPass}
  {plan next : ReplayEmissionPlan} {segment : EmissionSegment}

/-! ## Counts -/

/-- What the counts of a plan say about its segments. -/
structure SegmentCounts (plan : ReplayEmissionPlan) : Prop where
  controls : plan.orderedControlCount ≠ 0 →
    ∃ segment ∈ plan.segments, segment.kind = .orderedControlLocator
  compatibility : plan.compatibilityRecordCount ≠ 0 →
    ∃ segment ∈ plan.segments, segment.kind = .compatibilityRange
  islands : plan.islandCount = 0 →
    ∀ segment ∈ plan.segments, segment.kind ≠ .directIsland
  presents : plan.containsPresent = true ↔
    ∃ segment ∈ plan.segments, segment.locatesPresent = true

/-- How the counts move when a segment is added. -/
structure CountsSegment (plan next : ReplayEmissionPlan)
    (segment : EmissionSegment) : Prop where
  controls : next.orderedControlCount = plan.orderedControlCount ∨
    segment.kind = .orderedControlLocator
  compatibility :
    next.compatibilityRecordCount = plan.compatibilityRecordCount ∨
      segment.kind = .compatibilityRange
  islands : next.islandCount ≠ 0 ∨
    next.islandCount = plan.islandCount ∧ segment.kind ≠ .directIsland
  presents : next.containsPresent =
    (plan.containsPresent || segment.locatesPresent)

theorem SegmentCounts.append (counts : SegmentCounts plan)
    (segments : next.segments = plan.segments ++ [segment])
    (moved : CountsSegment plan next segment) : SegmentCounts next := by
  have kept : ∀ holds : EmissionSegment → Prop,
      (∃ found ∈ plan.segments, holds found) ∨ holds segment →
        ∃ found ∈ next.segments, holds found := by
    rintro holds (⟨found, member, held⟩ | held)
    · exact ⟨found, segments ▸ List.mem_append_left _ member, held⟩
    · exact ⟨segment, segments ▸ List.mem_append_right _
        (List.mem_singleton_self segment), held⟩
  constructor
  · intro counted
    apply kept
    rcases moved.controls with same | new
    · exact Or.inl (counts.controls (same ▸ counted))
    · exact Or.inr new
  · intro counted
    apply kept
    rcases moved.compatibility with same | new
    · exact Or.inl (counts.compatibility (same ▸ counted))
    · exact Or.inr new
  · intro none found member
    rcases moved.islands with some_ | ⟨same, plain⟩
    · exact absurd none some_
    · rw [segments] at member
      cases List.mem_append.mp member with
      | inl earlier => exact counts.islands (same ▸ none) found earlier
      | inr new => exact List.mem_singleton.mp new ▸ plain
  · rw [moved.presents, Bool.or_eq_true, counts.presents]
    constructor
    · exact kept _
    · rintro ⟨found, member, located⟩
      rw [segments] at member
      cases List.mem_append.mp member with
      | inl earlier => exact Or.inl ⟨found, earlier, located⟩
      | inr new => exact Or.inr (List.mem_singleton.mp new ▸ located)

theorem SegmentCounts.extend {front : List EmissionSegment}
    {previous longer : EmissionSegment} (counts : SegmentCounts plan)
    (before : plan.segments = front ++ [previous])
    (after : next.segments = front ++ [longer])
    (range : previous.kind = .compatibilityRange)
    (kind : longer.kind = previous.kind)
    (controls : next.orderedControlCount = plan.orderedControlCount)
    (islands : next.islandCount = plan.islandCount)
    (presents : next.containsPresent = plan.containsPresent) :
    SegmentCounts next := by
  have range' : longer.kind = .compatibilityRange := kind.trans range
  have front_ : ∀ holds : EmissionSegment → Prop, ¬holds previous →
      ¬holds longer →
        ((∃ found ∈ next.segments, holds found) ↔
          ∃ found ∈ plan.segments, holds found) := by
    intro holds plain plain'
    rw [before, after]
    simp [plain, plain', or_and_right, exists_or]
  have uncontrolled : ∀ found : EmissionSegment,
      found.kind = .compatibilityRange →
        ¬found.kind = .orderedControlLocator :=
    fun found same control => nomatch same.symm.trans control
  have unlocated : ∀ found : EmissionSegment,
      found.kind = .compatibilityRange → ¬found.locatesPresent = true := by
    intro found same
    unfold EmissionSegment.locatesPresent
    rw [same]
    exact nofun
  constructor
  · intro counted
    rw [front_ _ (uncontrolled previous range) (uncontrolled longer range')]
    exact counts.controls (controls ▸ counted)
  · intro counted
    exact ⟨longer, after ▸ List.mem_append_right _
      (List.mem_singleton_self longer), range'⟩
  · intro none found member
    rw [after] at member
    cases List.mem_append.mp member with
    | inl earlier =>
        exact counts.islands (islands ▸ none) found
          (before ▸ List.mem_append_left _ earlier)
    | inr new =>
        rw [List.mem_singleton.mp new, range']
        exact nofun
  · rw [front_ _ (unlocated previous range) (unlocated longer range'),
      presents]
    exact counts.presents

/-- The counts hold unless a segment found no room. -/
def Counted (pass : EmissionPass) : Prop :=
  pass.pushFailed = true ∨ SegmentCounts pass.plan

theorem Counted.push {f : EmissionPass → EmissionPass}
    {g : ReplayEmissionPlan → ReplayEmissionPlan} (counted : Counted pass)
    (failed : ∀ pass, (f pass).pushFailed = pass.pushFailed)
    (planned : ∀ pass, (f pass).plan = g pass.plan)
    (segments : ∀ plan, (g plan).segments = plan.segments)
    (moved : CountsSegment pass.plan
      (g { pass.plan with segments := pass.plan.segments ++ [segment] })
      segment) : Counted (f (pass.push room segment)) := by
  unfold EmissionPass.push
  split
  · exact Or.inl (failed _)
  · rcases counted with already | counts
    · exact Or.inl ((failed _).trans already)
    · apply Or.inr
      rw [planned]
      exact counts.append (segments _) moved

theorem Counted.closePending {fold : Bool} (counted : Counted pass)
    (closed : pass.closePending sizes room index fold = some result) :
    Counted result := by
  unfold EmissionPass.closePending at closed
  dsimp only at closed
  split at closed
  · exact Option.some.inj closed ▸ counted
  · split at closed
    · exact Option.some.inj closed ▸ counted
    · split at closed
      · split at closed
        · exact nomatch closed
        · rw [← Option.some.inj closed]
          exact counted.push
            (f := fun pass => (pass.countIsland _).clearPending)
            (g := fun plan =>
              { plan with
                islandCount := plan.islandCount + 1
                directIslandRecordCount := plan.directIslandRecordCount +
                  (index - EmissionPass.pendingFirstRecord _) })
            (fun _ => rfl) (fun _ => rfl) (fun _ => rfl)
            ⟨Or.inl rfl, Or.inl rfl, Or.inl (Nat.succ_ne_zero _),
              (Bool.or_false _).symm⟩
      · rw [← Option.some.inj closed]
        exact counted.push (f := fun pass => pass.countStateRun.clearPending)
          (g := fun plan =>
            { plan with stateOnlyRunCount := plan.stateOnlyRunCount + 1 })
          (fun _ => rfl) (fun _ => rfl) (fun _ => rfl)
          ⟨Or.inl rfl, Or.inl rfl, Or.inr ⟨rfl, nofun⟩, (Bool.or_false _).symm⟩

variable {record : ImportedRecordView}

section

variable (counted : Counted pass)
include counted

theorem Counted.appendIslandRecord
    (appended : pass.appendIslandRecord sizes index record = .ok result) :
    Counted result := by
  have opened : Counted (pass.openPending index) := by
    unfold EmissionPass.openPending
    split
    · exact counted
    · exact counted
  unfold EmissionPass.appendIslandRecord at appended
  dsimp only at appended
  split at appended
  · exact nomatch appended
  · exact nomatch appended
  · exact nomatch appended
  all_goals
    split at appended
    · cases appended
      exact opened
    · exact nomatch appended

theorem Counted.appendCoordinator
    (appended : pass.appendCoordinator sizes room index record =
      .ok result) : Counted result := by
  unfold EmissionPass.appendCoordinator at appended
  split at appended
  · exact nomatch appended
  · rename_i closed closing
    have settled : Counted closed := counted.closePending closing
    dsimp only at appended
    split at appended
    · exact nomatch appended
    · split at appended
      · rename_i locator aggregate _ _
        have applied : Counted
            { closed with
              aggregate := aggregate.1
              aggregateDrawCount := aggregate.2 } := settled
        rw [← Except.ok.inj appended]
        apply @Counted.push _ _ _
          (fun pass => pass.countCoordinator record.header.type)
          (fun plan =>
            if record.header.type = .present then
              { plan with
                coordinatorCount := plan.coordinatorCount + 1
                containsPresent := true
                presentCount := plan.presentCount + 1 }
            else
              { plan with coordinatorCount := plan.coordinatorCount + 1 })
          applied
        · exact fun _ => rfl
        · exact fun _ => rfl
        · intro plan
          split
          · rfl
          · rfl
        · by_cases present : record.header.type = .present
          · simp only [if_pos present]
            refine ⟨Or.inl rfl, Or.inl rfl, Or.inr ⟨rfl, nofun⟩, ?_⟩
            unfold EmissionSegment.locatesPresent locatorSegment
            rw [present]
            exact (Bool.or_true _).symm
          · simp only [if_neg present]
            refine ⟨Or.inl rfl, Or.inl rfl, Or.inr ⟨rfl, nofun⟩, ?_⟩
            unfold EmissionSegment.locatesPresent locatorSegment
            dsimp only
            rw [beq_false_of_ne present, Bool.and_false, Bool.or_false]
      · exact nomatch appended

theorem Counted.appendOrderedControl
    (appended : pass.appendOrderedControl sizes room index record =
      .ok result) : Counted result := by
  unfold EmissionPass.appendOrderedControl at appended
  split at appended
  · exact nomatch appended
  · rename_i closed closing
    rw [← Except.ok.inj appended]
    exact (counted.closePending closing).push
      (f := EmissionPass.countOrderedControl)
      (g := fun plan =>
        { plan with orderedControlCount := plan.orderedControlCount + 1 })
      (fun _ => rfl) (fun _ => rfl) (fun _ => rfl)
      ⟨Or.inr rfl, Or.inl rfl, Or.inr ⟨rfl, nofun⟩, (Bool.or_false _).symm⟩

theorem Counted.appendCompatibility {firstRecord recordCount : Nat} :
    Counted (pass.appendCompatibility room firstRecord recordCount) := by
  have fresh : Counted ((pass.push room (compatibilitySegment firstRecord
      recordCount)).countCompatibility 1 recordCount) :=
    counted.push (f := fun pass => pass.countCompatibility 1 recordCount)
      (g := fun plan =>
        { plan with
          compatibilityRangeCount := plan.compatibilityRangeCount + 1
          compatibilityRecordCount :=
            plan.compatibilityRecordCount + recordCount })
      (fun _ => rfl) (fun _ => rfl) (fun _ => rfl)
      ⟨Or.inl rfl, Or.inr rfl, Or.inr ⟨rfl, nofun⟩, (Bool.or_false _).symm⟩
  unfold EmissionPass.appendCompatibility
  dsimp only
  split
  · exact fresh
  · rename_i previous isLast
    split
    · rename_i continued
      rcases counted with already | counts
      · exact Or.inl already
      · obtain ⟨front, shape⟩ := List.getLast?_eq_some_iff.mp isLast
        have longer : ((pass.extendLast previous
            recordCount).countCompatibility 0 recordCount).plan.segments =
              front ++
                [{ previous with
                  recordCount :=
                    castU32 (previous.recordCount + castU32 recordCount) }] := by
          change pass.plan.segments.dropLast ++ _ = _
          rw [shape, List.dropLast_concat]
        exact Or.inr (counts.extend shape longer continued.1 rfl rfl rfl rfl)
    · exact fresh

theorem Counted.appendRecord
    (appended : pass.appendRecord sizes room imported index = .ok result) :
    Counted result := by
  unfold EmissionPass.appendRecord at appended
  dsimp only at appended
  split at appended
  · exact nomatch appended
  · exact counted.appendIslandRecord appended
  · exact counted.appendIslandRecord appended
  · exact counted.appendCoordinator appended
  · exact counted.appendOrderedControl appended
  · unfold EmissionPass.appendCompatibilityDraw at appended
    dsimp only at appended
    split at appended
    · exact nomatch appended
    · rename_i closed closing
      have settled : Counted closed := counted.closePending closing
      have cleared : Counted closed.clearPending := settled
      rw [← Except.ok.inj appended]
      exact cleared.appendCompatibility

end

theorem emissionSegments_counts {rawOrdinal : Nat}
    (planned : emissionSegments sizes room imported rawOrdinal =
      .ok pass) : SegmentCounts pass.plan := by
  have passed : Outcome (fun _ => True)
      (fun pass : EmissionPass => SegmentCounts pass.plan)
      ((List.range imported.records.length).foldlM
        (fun pass index => EmissionPass.step sizes room imported pass index)
        { plan := { rawOrdinal := rawOrdinal } }) := by
    apply outcome_foldlM
    · exact ⟨fun some_ => absurd rfl some_, fun some_ => absurd rfl some_,
        fun _ _ member => absurd member List.not_mem_nil, by simp⟩
    · intro index inside pass counts
      unfold EmissionPass.step
      split
      · exact trivial
      · split
        · exact trivial
        · rename_i appended reached
          have counted : Counted appended :=
            Counted.appendRecord (Or.inr counts) reached
          split
          · exact trivial
          · rename_i accepted
            exact counted.resolve_left accepted
  unfold emissionSegments at planned
  dsimp only at planned
  split at planned
  · exact nomatch planned
  · rename_i reached folded
    rw [folded] at passed
    split at planned
    · exact nomatch planned
    · rename_i closed closing
      have counted : Counted closed :=
        Counted.closePending (Or.inr passed) closing
      split at planned
      · exact nomatch planned
      · rename_i accepted
        rw [← Except.ok.inj planned]
        exact counted.resolve_left accepted

section

variable {segments front back : List EmissionSegment} {pageSize : Nat}
  {span ended : EmissionLeaseSpan} {spans : List EmissionLeaseSpan}

/-- A span with one Present is marked as ending in it when it does. -/
def MarksPresent (segments : List EmissionSegment)
    (span : EmissionLeaseSpan) : Prop :=
  span.presentCount = 1 ∧ span.segmentCount ≠ 0 →
    span.presentTrailingCoordinator = span.endsInPresent segments

variable {cut : EmissionSpanCut}

theorem finishSpan_marks
    (ending : finishSpan sizes imported pageSize segments span cut =
      some ended) : MarksPresent segments ended := by
  obtain ⟨capacity, plannedBytes, rfl⟩ := finishSpan_some ending
  intro one
  exact if_pos one

theorem finish_marks {pass finished : SpanPass}
    (marks : ∀ span ∈ pass.leaseSpans, MarksPresent segments span)
    (ending : pass.finish sizes imported pageSize segments cut =
      some finished) :
    ∀ span ∈ finished.leaseSpans, MarksPresent segments span := by
  unfold SpanPass.finish at ending
  split at ending
  · split at ending
    · exact nomatch ending
    · rename_i ended reserved
      rw [← Option.some.inj ending]
      intro span member
      cases List.mem_append.mp member with
      | inl earlier => exact marks span earlier
      | inr new =>
          rw [List.mem_singleton.mp new]
          exact finishSpan_marks reserved
  · exact Option.some.inj ending ▸ marks

theorem spansFrom_marks {rest : List EmissionSegment}
    {pass result : SpanPass}
    (marks : ∀ span ∈ pass.leaseSpans, MarksPresent segments span)
    (spanned : spansFrom sizes imported pageSize segments index rest pass =
      some result) :
    ∀ span ∈ result.leaseSpans, MarksPresent segments span := by
  induction rest generalizing index pass with
  | nil => exact finish_marks marks spanned
  | cons segment rest induction =>
      unfold spansFrom at spanned
      split at spanned
      · exact nomatch spanned
      · rename_i stepped reached
        apply induction _ spanned
        unfold SpanPass.step at reached
        split at reached
        · split at reached
          · exact nomatch reached
          · rename_i finished ending
            rw [← Option.some.inj reached]
            intro span member
            cases List.mem_append.mp member with
            | inl earlier => exact finish_marks marks ending span earlier
            | inr new =>
                rw [List.mem_singleton.mp new]
                exact fun one => nomatch one.1
        · rw [← Option.some.inj reached]
          exact marks

theorem deriveEmissionLeaseSpans_marks {reserved : Bool}
    (derived : deriveEmissionLeaseSpans sizes reserved imported pageSize
      segments = .ok spans) :
    ∀ span ∈ spans, MarksPresent segments span := by
  unfold deriveEmissionLeaseSpans at derived
  split at derived
  · exact nomatch derived
  · split at derived
    · exact nomatch derived
    · rename_i pass spanned
      dsimp only at derived
      split at derived
      · rw [← Except.ok.inj derived]
        have same : (markFinalLeaseSpan (assignLeaseOrdinals 0
            pass.leaseSpans)).map EmissionLeaseSpan.core =
              pass.leaseSpans.map EmissionLeaseSpan.core := by
          rw [markFinalLeaseSpan_core, assignLeaseOrdinals_core]
        intro span member
        have mapped := List.mem_map_of_mem (f := EmissionLeaseSpan.core) member
        rw [same] at mapped
        obtain ⟨origin, known, equal⟩ := List.mem_map.mp mapped
        have marked : MarksPresent segments origin.core :=
          spansFrom_marks (fun _ member => absurd member List.not_mem_nil)
            spanned origin known
        rw [equal] at marked
        exact marked
      · exact nomatch derived

section

variable (valid : StructurallyValid imported)
  (settled : Settles imported imported.records.length segments)
  (last : ∀ index < imported.records.length, imported.recordType index =
    .present → index + 1 = imported.records.length)
include valid settled last

theorem SegmentsSettled.nothing_behind
    (split : segments = front ++ segment :: back)
    (located : segment.locatesPresent = true) : back = [] := by
  have member : segment ∈ segments := by
    rw [split]
    exact List.mem_append_right _ (List.mem_cons_self ..)
  unfold EmissionSegment.locatesPresent at located
  rw [Bool.and_eq_true, beq_iff_eq, beq_iff_eq] at located
  have bounds := settled.bounds valid
  have begins := bounds.begins front segment back split
  have total : totalRecords segments = imported.records.length :=
    settled.partition.2
  rw [split, totalRecords_append, totalRecords_cons] at total
  cases settled.contents segment member with
  | island kind => exact nomatch kind.symm.trans located.1
  | stateRun kind => exact nomatch kind.symm.trans located.1
  | orderedControl kind => exact nomatch kind.symm.trans located.1
  | compatibility kind => exact nomatch kind.symm.trans located.1
  | coordinator kind single at_ typed counted =>
      have ends := last segment.firstRecordIndex (by omega)
        (typed.symm.trans located.2)
      cases back with
      | nil => rfl
      | cons next rest =>
          have positive := bounds.nonempty next (by
            rw [split]
            exact List.mem_append_right _
              (List.mem_cons_of_mem _ (List.mem_cons_self ..)))
          rw [totalRecords_cons] at total
          omega

/-- Where a Present can only be the last record, a lease emits it in its
place. -/
theorem SegmentsSettled.presentsInOrder
    (finished : ∀ span ∈ spans, FinishedSpan segments span)
    (marks : ∀ span ∈ spans, MarksPresent segments span) :
    presentsOutOfOrder spans = false := by
  apply List.any_eq_false.mpr
  intro span member unordered
  rw [Bool.and_eq_true, Bool.and_eq_true, bne_iff_ne, Bool.not_eq_true']
    at unordered
  obtain ⟨⟨owns, counted⟩, unmarked⟩ := unordered
  cases finished span member with
  | separator front back segment split place alone =>
      exact nomatch alone.owns.symm.trans owns
  | run front held back split place between =>
      rw [between.presents] at counted
      obtain ⟨segment, inside, located⟩ :=
        List.countP_pos_iff.mp (Nat.pos_of_ne_zero counted)
      obtain ⟨init, rest, shape⟩ := List.append_of_mem inside
      have around :
          segments = (front ++ init) ++ segment :: (rest ++ back) := by
        rw [split, shape, List.append_assoc, List.append_assoc]
        rfl
      have behind := settled.nothing_behind valid last around located
      obtain ⟨rfl, rfl⟩ := List.append_eq_nil_iff.mp behind
      have others : init.countP EmissionSegment.locatesPresent = 0 := by
        rw [List.countP_eq_zero]
        intro other known otherLocated
        obtain ⟨before, between_, shape'⟩ := List.append_of_mem known
        have otherAround : segments =
            (front ++ before) ++ other :: (between_ ++ [segment]) := by
          rw [split, shape, shape']
          simp
        have nothing :=
          settled.nothing_behind valid last otherAround otherLocated
        simp at nothing
      have one : span.presentCount = 1 := by
        rw [between.presents, shape, List.countP_append, others,
          List.countP_singleton, if_pos located]
      have nonempty : span.segmentCount ≠ 0 := by
        rw [place.segmentCount]
        exact fun none => place.nonempty (List.length_eq_zero_iff.mp none)
      have marked := marks span member ⟨one, nonempty⟩
      have ends : span.endsInPresent segments = true := by
        unfold EmissionLeaseSpan.endsInPresent
        rw [place.segmentIndex, place.segmentCount, split, shape]
        simp [located]
      rw [marked, ends] at unmarked
      exact nomatch unmarked

end

end

end Dxmt9.CpuReady
