import Dxmt9.CpuReady.CapacityFolds
import Dxmt9.CpuReady.EmissionRouter

/-!
# The capacity of a whole lease

A plan that one lease may own holds a single lease span, and the capacity
added up record by record is the one reserved for this span.
-/

namespace Dxmt9.CpuReady

open Fallible

variable {imported : ImportedChunkView} {sizes : PayloadSizes}
  {room index : Nat} {pass result : EmissionPass}

/-! ## What the pass adds up -/

theorem foldDeltas_succ (records : Nat → ImportedRecordView) (count : Nat) :
    foldDeltas sizes ((List.range (count + 1)).map records) =
      (foldDeltas sizes ((List.range count).map records)).bind fun total =>
        deltaStep sizes total (records count) := by
  unfold foldDeltas
  rw [List.range_succ, List.map_append, List.foldlM_append]
  cases ((List.range count).map records).foldlM (deltaStep sizes)
      (emptyCapacity, 0) with
  | none => rfl
  | some total =>
      change (deltaStep sizes total (records count)).bind some = _
      rw [Option.bind_some]
      exact Option.bind_fun_some _

variable {drawCount : Nat}

theorem applyRecordCapacityDelta_le {target : SourcePayloadCapacity} {delta : RecordCapacityDelta}
    {total : SourcePayloadCapacity × Nat}
    (applied : applyRecordCapacityDelta target drawCount delta =
      some total) : total.2 ≤ kMaxU32 := by
  unfold applyRecordCapacityDelta at applied
  split at applied
  · exact nomatch applied
  · split at applied
    · exact nomatch applied
    · rename_i few
      split at applied
      · rw [← Option.some.inj applied]
        push Not at few
        change drawCount + _ ≤ kMaxU32
        omega
      · exact nomatch applied

/-- A plan that leaves records to something else than a lease. -/
def LeavesRecords (plan : ReplayEmissionPlan) : Prop :=
  plan.orderedControlCount ≠ 0 ∨ plan.compatibilityRecordCount ≠ 0

variable (imported sizes) in
/-- Every record before the index was added up. -/
structure Gathered (index : Nat) (pass : EmissionPass) : Prop where
  folded : foldDeltas sizes ((List.range index).map imported.record) =
    some (pass.aggregate, pass.aggregateDrawCount)
  draws : (pass.plan.segments.map EmissionSegment.drawCount).sum +
    pass.pendingDrawCount = pass.aggregateDrawCount
  bounded : pass.aggregateDrawCount ≤ kMaxU32
  uncut : ∀ segment ∈ pass.plan.segments,
    cutForSegment segment.kind = .endOfRaw
  drawless : pass.pendingOpen = false → pass.pendingDrawCount = 0

variable (imported sizes) in
/-- Between two records, every earlier one was added up, unless one of them is
left to something else. -/
structure Gathers (index : Nat) (pass : EmissionPass) : Prop where
  begun : pass.pendingOpen = true → pass.pendingFirstRecord ≤ index
  gathered : pass.pushFailed = true ∨ LeavesRecords pass.plan ∨
    Gathered imported sizes index pass

variable {plan : ReplayEmissionPlan}

theorem Gathered.close (gathered : Gathered imported sizes index pass) {segment : EmissionSegment}
    (segments : plan.segments = pass.plan.segments ++ [segment])
    (drawn : segment.drawCount = pass.pendingDrawCount)
    (uncut : cutForSegment segment.kind = .endOfRaw) :
    Gathered imported sizes index
      { pass with
        plan := plan
        pendingCapacity := emptyCapacity
        pendingDrawCount := 0
        pendingOpen := false } where
  folded := gathered.folded
  draws := by
    change (plan.segments.map EmissionSegment.drawCount).sum + 0 = _
    rw [segments, List.map_append, List.sum_append, List.map_singleton,
      List.sum_singleton, drawn]
    exact gathered.draws
  bounded := gathered.bounded
  uncut := by
    intro found member
    have either : found ∈ pass.plan.segments ++ [segment] := segments ▸ member
    cases List.mem_append.mp either with
    | inl earlier => exact gathered.uncut found earlier
    | inr last =>
        rw [List.mem_singleton.mp last]
        exact uncut
  drawless := fun _ => rfl

theorem Gathered.pending_lt (gathered : Gathered imported sizes index pass) :
    pass.pendingDrawCount < 2 ^ 32 := by
  have draws := gathered.draws
  have bounded := gathered.bounded
  unfold kMaxU32 at bounded
  omega

variable {stop : Nat}

theorem Gathers.closePending {fold : Bool}
    (kept : Gathers imported sizes index pass)
    (closed : pass.closePending sizes room stop fold = some result) :
    Gathers imported sizes index result := by
  unfold EmissionPass.closePending at closed
  dsimp only at closed
  split at closed
  · exact Option.some.inj closed ▸ kept
  · split at closed
    · exact Option.some.inj closed ▸ kept
    · split at closed
      · split at closed
        · exact nomatch closed
        · rw [← Option.some.inj closed]
          refine ⟨nofun, ?_⟩
          unfold EmissionPass.push
          split
          · exact .inl rfl
          · rcases kept.gathered with failed | leaves | gathered
            · exact .inl failed
            · exact .inr (.inl leaves)
            · exact .inr (.inr (gathered.close rfl
                (castU32_of_lt gathered.pending_lt) rfl))
      · rename_i drawless
        rw [← Option.some.inj closed]
        refine ⟨nofun, ?_⟩
        unfold EmissionPass.push
        split
        · exact .inl rfl
        · rcases kept.gathered with failed | leaves | gathered
          · exact .inl failed
          · exact .inr (.inl leaves)
          · exact .inr (.inr (gathered.close rfl
              (not_not.mp drawless).symm rfl))

theorem Gathers.appendIslandRecord
    (kept : Gathers imported sizes index pass)
    (appended : pass.appendIslandRecord sizes index
      (imported.record index) = .ok result) :
    Gathers imported sizes (index + 1) result := by
  have opened : (pass.openPending index).pendingOpen = true ∧
      (pass.openPending index).pendingFirstRecord ≤ index ∧
      (pass.openPending index).aggregate = pass.aggregate ∧
      (pass.openPending index).aggregateDrawCount = pass.aggregateDrawCount ∧
      (pass.openPending index).pendingDrawCount = pass.pendingDrawCount ∧
      (pass.openPending index).plan = pass.plan ∧
      (pass.openPending index).pushFailed = pass.pushFailed := by
    unfold EmissionPass.openPending
    split
    · rename_i already
      exact ⟨already, kept.begun already, rfl, rfl, rfl, rfl, rfl⟩
    · exact ⟨rfl, Nat.le_refl _, rfl, rfl, rfl, rfl, rfl⟩
  obtain ⟨open_, first, aggregated, counted, pended, planned, failed⟩ := opened
  unfold EmissionPass.appendIslandRecord at appended
  dsimp only at appended
  split at appended
  · exact nomatch appended
  · exact nomatch appended
  · exact nomatch appended
  all_goals
    split at appended
    · rename_i pending aggregate pendingApplied aggregateApplied
      rw [← Except.ok.inj appended]
      refine ⟨fun _ => Nat.le_succ_of_le first, ?_⟩
      rcases kept.gathered with failed_ | leaves | gathered
      · exact .inl (failed.trans failed_)
      · exact .inr (.inl (planned ▸ leaves))
      · have pendingDraws := (applyRecordCapacityDelta_some pendingApplied).2
        have aggregateDraws :=
          (applyRecordCapacityDelta_some aggregateApplied).2
        exact .inr (.inr
          { folded := by
              rw [foldDeltas_succ, gathered.folded, Option.bind_some]
              unfold deltaStep
              rw [← aggregated, ← counted]
              exact aggregateApplied
            draws := by
              change (((pass.openPending index).plan.segments).map
                EmissionSegment.drawCount).sum + pending.2 = aggregate.2
              have draws := gathered.draws
              rw [planned, pendingDraws, aggregateDraws, pended, counted]
              omega
            bounded := applyRecordCapacityDelta_le aggregateApplied
            uncut := by
              intro segment member
              exact gathered.uncut segment (planned ▸ member)
            drawless := fun shut => nomatch open_.symm.trans shut })
    · exact nomatch appended

theorem countCoordinator_plan (pass : EmissionPass) (type : RecordType) :
    (pass.countCoordinator type).plan.segments = pass.plan.segments ∧
      (pass.countCoordinator type).plan.orderedControlCount =
        pass.plan.orderedControlCount ∧
      (pass.countCoordinator type).plan.compatibilityRecordCount =
        pass.plan.compatibilityRecordCount := by
  unfold EmissionPass.countCoordinator
  dsimp only
  split
  · exact ⟨rfl, rfl, rfl⟩
  · exact ⟨rfl, rfl, rfl⟩

theorem Gathers.appendCoordinator
    (kept : Gathers imported sizes index pass)
    (appended : pass.appendCoordinator sizes room index
      (imported.record index) = .ok result) :
    Gathers imported sizes (index + 1) result := by
  unfold EmissionPass.appendCoordinator at appended
  split at appended
  · exact nomatch appended
  · rename_i closed closing
    have settled := kept.closePending closing
    dsimp only at appended
    split at appended
    · exact nomatch appended
    · rename_i produced
      push Not at produced
      split at appended
      · rename_i locator aggregate _ applied
        have plans := countCoordinator_plan (EmissionPass.push room
            { closed with
              aggregate := aggregate.1
              aggregateDrawCount := aggregate.2 }
            (locatorSegment .coordinatorLocator index
              (imported.record index).header.type locator.1))
          (imported.record index).header.type
        rw [← Except.ok.inj appended]
        constructor
        · intro open_
          have still : closed.pendingOpen = true ∧
              closed.pendingFirstRecord ≤ index + 1 := by
            unfold EmissionPass.push at open_
            split at open_
            · exact ⟨open_, Nat.le_succ_of_le (settled.begun open_)⟩
            · exact ⟨open_, Nat.le_succ_of_le (settled.begun open_)⟩
          unfold EmissionPass.push
          split
          · exact still.2
          · exact still.2
        · unfold LeavesRecords
          rw [plans.2.1, plans.2.2]
          have draws := (applyRecordCapacityDelta_some applied).2
          rw [produced.2, Nat.add_zero] at draws
          by_cases full : closed.plan.segments.length = room
          · unfold EmissionPass.push
            rw [if_pos full]
            exact .inl rfl
          · have pushed : EmissionPass.push room
                { closed with
                  aggregate := aggregate.1
                  aggregateDrawCount := aggregate.2 }
                (locatorSegment .coordinatorLocator index
                  (imported.record index).header.type locator.1) =
                { closed with
                  aggregate := aggregate.1
                  aggregateDrawCount := aggregate.2
                  plan :=
                    { closed.plan with
                      segments := closed.plan.segments ++
                        [locatorSegment .coordinatorLocator index
                          (imported.record index).header.type
                          locator.1] } } := if_neg full
            rw [pushed] at plans ⊢
            rcases settled.gathered with failed | leaves | gathered
            · exact .inl failed
            · exact .inr (.inl leaves)
            · exact .inr (.inr
                { folded := by
                    rw [foldDeltas_succ, gathered.folded, Option.bind_some]
                    exact applied
                  draws := by
                    rw [plans.1]
                    change ((closed.plan.segments ++ _).map
                      EmissionSegment.drawCount).sum +
                        closed.pendingDrawCount = aggregate.2
                    rw [List.map_append, List.sum_append, draws]
                    exact gathered.draws
                  bounded := applyRecordCapacityDelta_le applied
                  uncut := by
                    intro segment member
                    rw [plans.1] at member
                    cases List.mem_append.mp member with
                    | inl earlier => exact gathered.uncut segment earlier
                    | inr last =>
                        rw [List.mem_singleton.mp last]
                        rfl
                  drawless := gathered.drawless })
      · exact nomatch appended

theorem Gathers.appendOrderedControl {record : ImportedRecordView}
    (kept : Gathers imported sizes index pass)
    (appended : pass.appendOrderedControl sizes room index record =
      .ok result) : Gathers imported sizes (index + 1) result := by
  unfold EmissionPass.appendOrderedControl at appended
  split at appended
  · exact nomatch appended
  · rename_i closed closing
    have settled := kept.closePending closing
    rw [← Except.ok.inj appended]
    refine ⟨?_, .inr (.inl (.inl (Nat.succ_ne_zero _)))⟩
    unfold EmissionPass.push
    split
    · exact fun open_ => Nat.le_succ_of_le (settled.begun open_)
    · exact fun open_ => Nat.le_succ_of_le (settled.begun open_)

theorem appendCompatibility_counts {firstRecord recordCount : Nat} :
    (pass.appendCompatibility room firstRecord
        recordCount).plan.compatibilityRecordCount =
      pass.plan.compatibilityRecordCount + recordCount ∧
      (pass.appendCompatibility room firstRecord recordCount).pendingOpen =
        pass.pendingOpen := by
  have fresh : ∀ segment, ((pass.push room segment).countCompatibility 1
      recordCount).plan.compatibilityRecordCount =
        pass.plan.compatibilityRecordCount + recordCount ∧
      ((pass.push room segment).countCompatibility 1
        recordCount).pendingOpen = pass.pendingOpen := by
    intro segment
    unfold EmissionPass.push
    split
    · exact ⟨rfl, rfl⟩
    · exact ⟨rfl, rfl⟩
  unfold EmissionPass.appendCompatibility
  dsimp only
  split
  · exact fresh _
  · split
    · exact ⟨rfl, rfl⟩
    · exact fresh _

theorem Gathers.appendCompatibilityDraw
    (kept : Gathers imported sizes index pass)
    (appended : pass.appendCompatibilityDraw sizes room index =
      .ok result) : Gathers imported sizes (index + 1) result := by
  unfold EmissionPass.appendCompatibilityDraw at appended
  dsimp only at appended
  split at appended
  · exact nomatch appended
  · rename_i closed closing
    rw [← Except.ok.inj appended]
    constructor
    · intro open_
      rw [appendCompatibility_counts.2] at open_
      exact nomatch open_
    · refine .inr (.inl (.inr ?_))
      rw [appendCompatibility_counts.1]
      have first : (if pass.pendingOpen = true ∧ pass.pendingDrawCount = 0
          then pass.pendingFirstRecord else index) ≤ index := by
        split
        · rename_i leading
          exact kept.begun leading.1
        · exact Nat.le_refl _
      omega

theorem Gathers.appendRecord (kept : Gathers imported sizes index pass)
    (appended : pass.appendRecord sizes room imported index = .ok result) :
    Gathers imported sizes (index + 1) result := by
  unfold EmissionPass.appendRecord at appended
  dsimp only at appended
  split at appended
  · exact nomatch appended
  · exact kept.appendIslandRecord appended
  · exact kept.appendIslandRecord appended
  · exact kept.appendCoordinator appended
  · exact kept.appendOrderedControl appended
  · exact kept.appendCompatibilityDraw appended

theorem closePending_shuts
    (closed : pass.closePending sizes room stop false = some result) :
    result.pendingOpen = false := by
  unfold EmissionPass.closePending at closed
  dsimp only at closed
  split at closed
  · rename_i shut
    rw [← Option.some.inj closed]
    exact Bool.not_eq_true' _ |>.mp shut
  · split at closed
    · rename_i folds
      exact nomatch folds.2
    · split at closed
      · split at closed
        · exact nomatch closed
        · rw [← Option.some.inj closed]
          rfl
      · rw [← Option.some.inj closed]
        rfl

/-- The pass adds every record up, unless it leaves one to something else. -/
theorem emissionSegments_gathers {rawOrdinal : Nat}
    (planned : emissionSegments sizes room imported rawOrdinal = .ok pass) :
    LeavesRecords pass.plan ∨
      Gathered imported sizes imported.records.length pass ∧
        pass.pendingDrawCount = 0 := by
  have passed : Outcome (fun _ => True)
      (fun pass : EmissionPass =>
        Gathers imported sizes imported.records.length pass)
      ((List.range imported.records.length).foldlM
        (fun pass index => EmissionPass.step sizes room imported pass index)
        { plan := { rawOrdinal := rawOrdinal } }) := by
    apply outcome_foldlM_range
    · exact
        { begun := nofun
          gathered := .inr (.inr
            { folded := rfl
              draws := rfl
              bounded := Nat.zero_le _
              uncut := fun _ member => nomatch member
              drawless := fun _ => rfl }) }
    · intro index pass inside kept
      unfold EmissionPass.step
      split
      · exact trivial
      · split
        · exact trivial
        · rename_i appended reached
          split
          · exact trivial
          · exact kept.appendRecord reached
  unfold emissionSegments at planned
  dsimp only at planned
  split at planned
  · exact nomatch planned
  · rename_i reached folded
    rw [folded] at passed
    split at planned
    · exact nomatch planned
    · rename_i closed closing
      have kept : Gathers imported sizes imported.records.length closed :=
        Gathers.closePending passed closing
      split at planned
      · exact nomatch planned
      · rename_i accepted
        rw [← Except.ok.inj planned]
        rcases kept.gathered with failed | leaves | gathered
        · exact absurd failed accepted
        · exact .inl leaves
        · exact .inr ⟨gathered, gathered.drawless (closePending_shuts closing)⟩

/-! ## The only span -/

variable {segments : List EmissionSegment} {pageSize : Nat}
  {spans : SpanPass} {final : SpanPass}

theorem spansFrom_uncut {rest : List EmissionSegment} {position : Nat}
    (uncut : ∀ segment ∈ rest, cutForSegment segment.kind = .endOfRaw)
    (alone : spans.leaseSpans = []) (opened : spans.currentOpen = true)
    (few : spans.current.drawCount +
      (rest.map EmissionSegment.drawCount).sum < 2 ^ 32)
    (spanned : spansFrom sizes imported pageSize segments position rest
      spans = some final) :
    ∃ span finished, finishSpan sizes imported pageSize segments span
        .endOfRaw = some finished ∧ final.leaseSpans = [finished] ∧
      span.drawCount = spans.current.drawCount +
        (rest.map EmissionSegment.drawCount).sum := by
  induction rest generalizing position spans with
  | nil =>
      unfold spansFrom SpanPass.finish at spanned
      rw [if_pos opened] at spanned
      split at spanned
      · cases spanned
      · rename_i finished ending
        rw [← Option.some.inj spanned, alone]
        exact ⟨_, finished, ending, rfl, rfl⟩
  | cons segment tail induction =>
      rw [List.map_cons, List.sum_cons] at few ⊢
      have stays : ¬cutForSegment segment.kind ≠ .endOfRaw :=
        not_not.mpr (uncut segment (List.mem_cons_self ..))
      unfold spansFrom SpanPass.step at spanned
      rw [if_neg stays, if_pos opened] at spanned
      dsimp only at spanned
      have added : (spans.current.addSegment segments.length position
          segment).drawCount = spans.current.drawCount + segment.drawCount :=
        castU32_of_lt (by omega)
      obtain ⟨span, finished, ending, only, draws⟩ := @induction
        { spans with
          current := spans.current.addSegment segments.length position segment
          currentOpen := true } _
        (fun other member => uncut other (List.mem_cons_of_mem _ member))
        alone rfl (by dsimp only; omega) spanned
      refine ⟨span, finished, ending, only, ?_⟩
      dsimp only at draws
      omega

theorem finishSpan_capacity {span finished : EmissionLeaseSpan}
    {cut : EmissionSpanCut}
    (ending : finishSpan sizes imported pageSize segments span cut =
      some finished) (drawn : span.drawCount ≠ 0) :
    finished.ownsLease = true ∧
      ∃ total, (List.range' finished.firstRecordIndex
          (finished.endRecordIndex - finished.firstRecordIndex)).foldlM
            (addSpanRecord sizes imported) (emptyCapacity, 0) = some total ∧
        addDerivedDrawCapacity sizes total.1 total.2 =
          some finished.capacity := by
  unfold finishSpan at ending
  dsimp only at ending
  have owns : (span.close segments cut).ownsLease = true :=
    bne_iff_ne.mpr drawn
  rw [if_pos owns] at ending
  unfold EmissionLeaseSpan.reserve at ending
  split at ending
  · exact nomatch ending
  · rename_i total drawCount folded
    split at ending
    · exact nomatch ending
    · split at ending
      · exact nomatch ending
      · rename_i capacity derived
        split at ending
        · exact nomatch ending
        · split at ending
          · exact nomatch ending
          · rw [← Option.some.inj ending]
            exact ⟨owns, (total, drawCount), folded, derived⟩

theorem deriveEmissionLeaseSpans_only {reserved : Bool}
    {derived : List EmissionLeaseSpan}
    (uncut : ∀ segment ∈ segments, cutForSegment segment.kind = .endOfRaw)
    (drawn : (segments.map EmissionSegment.drawCount).sum ≠ 0)
    (few : (segments.map EmissionSegment.drawCount).sum < 2 ^ 32)
    (short : imported.records.length < 2 ^ 32)
    (deriving_ : deriveEmissionLeaseSpans sizes reserved imported pageSize
      segments = .ok derived) :
    ∃ span total, derived = [span] ∧ span.ownsLease = true ∧
      (List.range imported.records.length).foldlM
        (addSpanRecord sizes imported) (emptyCapacity, 0) = some total ∧
      addDerivedDrawCapacity sizes total.1 total.2 = some span.capacity := by
  unfold deriveEmissionLeaseSpans at deriving_
  split at deriving_
  · cases deriving_
  · split at deriving_
    · cases deriving_
    · rename_i final spanned
      dsimp only at deriving_
      split at deriving_
      · rename_i covered
        cases segments with
        | nil => exact absurd rfl drawn
        | cons first rest =>
            rw [List.map_cons, List.sum_cons] at drawn few
            have stays : ¬cutForSegment first.kind ≠ .endOfRaw :=
              not_not.mpr (uncut first (List.mem_cons_self ..))
            unfold spansFrom SpanPass.step at spanned
            rw [if_neg stays] at spanned
            dsimp only at spanned
            rw [if_neg Bool.false_ne_true] at spanned
            have added : (({ firstRecordIndex := first.firstRecordIndex
                             firstSegmentIndex := 0 } :
                EmissionLeaseSpan).addSegment (first :: rest).length 0
                  first).drawCount = first.drawCount := by
              change castU32 (0 + first.drawCount) = _
              rw [Nat.zero_add]
              exact castU32_of_lt (by omega)
            obtain ⟨span, finished, ending, only, draws⟩ := spansFrom_uncut
              (fun other member =>
                uncut other (List.mem_cons_of_mem _ member))
              rfl rfl (by dsimp only; omega) spanned
            dsimp only at draws
            obtain ⟨owns, total, folded, reserved_⟩ :=
              finishSpan_capacity ending (by omega)
            have numbered : markFinalLeaseSpan
                (assignLeaseOrdinals 0 final.leaseSpans) =
                  [{ finished with
                    leaseOrdinal := 0
                    finalLeaseSpan := true }] := by
              rw [only]
              unfold assignLeaseOrdinals
              rw [if_pos owns]
              unfold assignLeaseOrdinals markFinalLeaseSpan
              exact if_pos (Bool.and_eq_true_iff.mpr ⟨owns, rfl⟩)
            rw [numbered] at covered deriving_
            unfold coveredBySpans at covered
            split at covered
            · cases covered
            · rename_i placed
              push Not at placed
              have counted : 0 + finished.recordCount =
                  imported.records.length :=
                (Prod.mk.inj (Option.some.inj covered)).1
              have begins : finished.firstRecordIndex = 0 := placed.2.2.1
              have ends : finished.endRecordIndex =
                  imported.records.length := by
                unfold EmissionLeaseSpan.endRecordIndex
                rw [begins, counted]
                exact castU32_of_lt short
              rw [begins, ends, Nat.sub_zero, ← List.range_eq_range'] at folded
              exact ⟨_, total, (Except.ok.inj deriving_).symm, owns, folded,
                reserved_⟩
      · cases deriving_

theorem foldlM_addSpanRecord (count : Nat) :
    (List.range count).foldlM (addSpanRecord sizes imported)
        (emptyCapacity, 0) =
      foldDirect sizes ((List.range count).map imported.record) := by
  unfold foldDirect
  rw [List.foldlM_map]
  rfl

/-- What the verdict for a whole lease publishes. -/
theorem decideLeaseBlock_none {aggregate : SourcePayloadCapacity} {decided : ReplayEmissionPlan}
    (deciding : decideLeaseBlock sizes pageSize aggregate drawCount plan =
      .ok decided) (unblocked : decided.leaseBlock = .none) :
    ¬LeavesRecords plan ∧ drawCount ≠ 0 ∧
      decided.leaseSpans = plan.leaseSpans ∧
      addDerivedDrawCapacity sizes aggregate drawCount =
        some decided.aggregateCapacity := by
  unfold decideLeaseBlock at deciding
  split at deciding
  · rw [← Except.ok.inj deciding] at unblocked
    exact nomatch unblocked
  · split at deciding
    · rw [← Except.ok.inj deciding] at unblocked
      exact nomatch unblocked
    · rename_i uncontrolled
      split at deciding
      · rw [← Except.ok.inj deciding] at unblocked
        exact nomatch unblocked
      · rename_i compatible
        split at deciding
        · rw [← Except.ok.inj deciding] at unblocked
          exact nomatch unblocked
        · rename_i drawn
          unfold leaseWholeRaw at deciding
          split at deciding
          · exact nomatch deciding
          · rename_i capacity derived
            split at deciding
            · exact nomatch deciding
            · split at deciding
              · exact nomatch deciding
              · dsimp only at deciding
                split at deciding
                · exact nomatch deciding
                · rw [← Except.ok.inj deciding]
                  exact ⟨fun leaves =>
                    leaves.elim uncontrolled compatible,
                    fun none => drawn (.inr none), rfl, derived⟩

/-- A plan that one lease may own has one span, whose capacity is the one
added up record by record. -/
theorem planReplayEmission_aggregate
    (snapshot : sizes.drawBindingSnapshot = drawBindingSnapshotLayout.size)
    (storage : EmissionStorage imported.records.length)
    (rawOrdinal pageSize : Nat)
    (unblocked : (planReplayEmission sizes imported storage rawOrdinal
      pageSize).leaseBlock = .none) :
    ∃ span, (planReplayEmission sizes imported storage rawOrdinal
        pageSize).leaseSpans = [span] ∧ span.ownsLease = true ∧
      (planReplayEmission sizes imported storage rawOrdinal
        pageSize).aggregateCapacity = span.capacity := by
  unfold planReplayEmission at unblocked ⊢
  by_cases malformed : rawOrdinal = 0 ∨ pageSize = 0 ∨
      imported.records.length ≠ imported.recordCount.toNat
  · rw [if_pos malformed] at unblocked
    exact nomatch unblocked
  · rw [if_neg malformed] at unblocked ⊢
    push Not at malformed
    have short : imported.records.length < 2 ^ 32 := by
      rw [malformed.2.2]
      exact imported.recordCount.toNat_lt
    split at unblocked
    · exact nomatch unblocked
    · rename_i room _
      split at unblocked
      · exact nomatch unblocked
      · rename_i pass planned
        split at unblocked
        · exact nomatch unblocked
        · rename_i plan completed
          unfold completeEmissionPlan at completed
          split at completed
          · exact nomatch completed
          · split at completed
            · exact nomatch completed
            · rename_i spans derived
              obtain ⟨stays, drawn, leased, published⟩ :=
                decideLeaseBlock_none completed unblocked
              obtain ⟨gathered, shut⟩ :=
                (emissionSegments_gathers planned).resolve_left stays
              have draws := gathered.draws
              rw [shut, Nat.add_zero] at draws
              have bounded := gathered.bounded
              unfold kMaxU32 at bounded
              obtain ⟨span, total, only, owns, folded, reserved⟩ :=
                deriveEmissionLeaseSpans_only gathered.uncut
                  (draws ▸ drawn) (by omega) short derived
              rw [foldlM_addSpanRecord,
                foldDirect_eq_foldDeltas snapshot, gathered.folded] at folded
              rw [← Option.some.inj folded] at reserved
              refine ⟨span, leased.trans only, owns, ?_⟩
              exact Option.some.inj (published.symm.trans reserved)

/-- The two accumulators agree on every list of records, and so do the two
capacities that a lease is planned with. -/
theorem capacityAccumulators_agree (sizes : PayloadSizes)
    (snapshot : sizes.drawBindingSnapshot =
      drawBindingSnapshotLayout.size) :
    (∀ records, foldDirect sizes records = foldDeltas sizes records) ∧
    ∀ (imported : ImportedChunkView)
      (storage : EmissionStorage imported.records.length)
      (rawOrdinal pageSize : Nat),
      (planReplayEmission sizes imported storage rawOrdinal
          pageSize).leaseBlock = .none →
        ∃ span, (planReplayEmission sizes imported storage rawOrdinal
            pageSize).leaseSpans = [span] ∧ span.ownsLease = true ∧
          (planReplayEmission sizes imported storage rawOrdinal
            pageSize).aggregateCapacity = span.capacity :=
  ⟨foldDirect_eq_foldDeltas snapshot,
    fun _ storage rawOrdinal pageSize =>
      planReplayEmission_aggregate snapshot storage rawOrdinal pageSize⟩

/-- The plain sizes with the binding snapshot of the source. -/
def snapshotSizes : PayloadSizes :=
  { plainSizes with drawBindingSnapshot := 832 }

theorem capacityAccumulators_agree_drawPresent :
    foldDirect snapshotSizes (List.replicate 3 (drawPresent.record 0)) =
        foldDeltas snapshotSizes (List.replicate 3 (drawPresent.record 0)) ∧
      ∃ span, (planReplayEmission snapshotSizes drawPresent
          ⟨some 2, by decide, true⟩ 1 4096).leaseSpans = [span] ∧
        span.ownsLease = true ∧
        (planReplayEmission snapshotSizes drawPresent
          ⟨some 2, by decide, true⟩ 1 4096).aggregateCapacity =
            span.capacity :=
  ⟨(capacityAccumulators_agree snapshotSizes (by decide)).1 _,
    (capacityAccumulators_agree snapshotSizes (by decide)).2 drawPresent
      ⟨some 2, by decide, true⟩ 1 4096 (by decide +kernel)⟩

end Dxmt9.CpuReady
