import Dxmt9.CpuReady.EmissionPassSound

/-!
# Each record keeps the invariant of the pass

One lemma for each role of a record, and the whole pass from them.
-/

namespace Dxmt9.CpuReady

open Fallible Queue

variable {imported : ImportedChunkView} {index room : Nat}
  {sizes : PayloadSizes} {pass result : EmissionPass}

/-- The only reason for which the pass over valid records stops. -/
abbrev Overflows (reason : EmissionPlanReason) : Prop := reason = .overflow

variable {drawCount : Nat}

theorem applyRecordCapacityDelta_some {target : SourcePayloadCapacity} {delta : RecordCapacityDelta}
    {total : SourcePayloadCapacity × Nat}
    (applied : applyRecordCapacityDelta target drawCount delta = some total) :
    total.1 = (fun region => target region + delta.capacity region) ∧
      total.2 = drawCount + delta.drawCount := by
  unfold applyRecordCapacityDelta at applied
  split at applied
  · exact nomatch applied
  · split at applied
    · exact nomatch applied
    · split at applied
      · rw [← Option.some.inj applied]
        exact ⟨rfl, rfl⟩
      · exact nomatch applied

theorem PassInvariant.openPending
    (invariant : PassInvariant imported index pass) :
    PendingRun imported index (pass.openPending index) := by
  cases invariant with
  | idle closed behind =>
      have opened : pass.openPending index =
          { pass with pendingFirstRecord := index, pendingOpen := true } := by
        unfold EmissionPass.openPending
        rw [closed.shut, if_neg (by decide)]
      rw [opened]
      refine ⟨rfl, Nat.le_refl index, ?_, behind, ?_, ?_, closed.settled,
        closed.accepted, closed.totals.headers, closed.totals.draws,
        closed.totals.controls, closed.totals.compatibility⟩
      · intro other from_ before
        exact absurd before (Nat.not_lt.mpr from_)
      · constructor
        · intro drawn
          exact absurd closed.drawless drawn
        · rintro ⟨other, from_, before, -⟩
          exact absurd before (Nat.not_lt.mpr from_)
      · change pass.pendingDrawCount ≤ index - index
        rw [closed.drawless]
        exact Nat.zero_le _
  | running run nonempty =>
      have opened : pass.openPending index = pass := by
        unfold EmissionPass.openPending
        rw [if_pos run.opened]
      rw [opened]
      exact run

/-- How many draws a record counts as. -/
def drawsOf (role : EmissionRecordRole) : Nat :=
  if role = .islandDraw then 1 else 0

variable {first : Nat}

theorem hasDraw_succ {role : Nat → EmissionRecordRole} {stop : Nat}
    (begun : first ≤ stop) :
    HasDraw role first (stop + 1) ↔
      HasDraw role first stop ∨ role stop = .islandDraw := by
  constructor
  · rintro ⟨index, from_, before, draw⟩
    cases Nat.lt_succ_iff_lt_or_eq.mp before with
    | inl earlier => exact Or.inl ⟨index, from_, earlier, draw⟩
    | inr same => exact Or.inr (same ▸ draw)
  · rintro (⟨index, from_, before, draw⟩ | draw)
    · exact ⟨index, from_, Nat.lt_succ_of_lt before, draw⟩
    · exact ⟨stop, begun, Nat.lt_succ_self stop, draw⟩

theorem PendingRun.extended (run : PendingRun imported index pass)
    (island : IsIsland imported index)
    (pendingCapacity aggregate : SourcePayloadCapacity)
    (header : aggregate .commandHeaders = pass.aggregate .commandHeaders +
        drawsOf (emissionRecordRole imported index)) :
    PassInvariant imported (index + 1)
      { pass with
        pendingCapacity := pendingCapacity
        pendingDrawCount := pass.pendingDrawCount +
          drawsOf (emissionRecordRole imported index)
        aggregate := aggregate
        aggregateDrawCount := pass.aggregateDrawCount +
          drawsOf (emissionRecordRole imported index) } := by
  have atMost : drawsOf (emissionRecordRole imported index) ≤ 1 := by
    unfold drawsOf
    split
    · exact Nat.le_refl 1
    · exact Nat.zero_le 1
  have drawn : drawsOf (emissionRecordRole imported index) ≠ 0 ↔
      emissionRecordRole imported index = .islandDraw := by
    unfold drawsOf
    split
    · exact iff_of_true Nat.one_ne_zero ‹_›
    · exact iff_of_false (fun different => different rfl) ‹_›
  refine .running ⟨run.opened, Nat.le_succ_of_le run.begun, ?_, run.opens,
    ?_, ?_, run.settled, run.accepted, ?_⟩ (Nat.lt_succ_of_le run.begun)
  · intro other from_ before
    cases Nat.lt_succ_iff_lt_or_eq.mp before with
    | inl earlier => exact run.island other from_ earlier
    | inr same => exact same ▸ island
  · rw [hasDraw_succ run.begun, ← run.draws, ← drawn]
    change pass.pendingDrawCount + _ ≠ 0 ↔ _
    omega
  · have few := run.few
    have begun := run.begun
    change pass.pendingDrawCount + _ ≤ index + 1 - pass.pendingFirstRecord
    omega
  · refine ⟨?_, ?_, run.totals.controls, run.totals.compatibility⟩
    · change aggregate .commandHeaders =
        pass.aggregateDrawCount + _ + pass.plan.coordinatorCount
      rw [header, run.totals.headers]
      omega
    · change pass.aggregateDrawCount + _ =
        (pass.plan.segments.map EmissionSegment.drawCount).sum +
          (pass.pendingDrawCount + _)
      rw [run.totals.draws]
      omega

variable (sizes) in
theorem StructurallyValid.island_delta (valid : StructurallyValid imported)
    (inside : index < imported.records.length)
    (island : IsIsland imported index) :
    (computeRecordCapacityDelta sizes (imported.record index)).result =
        .overflow ∨
      ((computeRecordCapacityDelta sizes (imported.record index)).result =
          .stateOnly ∨
        (computeRecordCapacityDelta sizes (imported.record index)).result =
          .gpuProducing) ∧
      (computeRecordCapacityDelta sizes
          (imported.record index)).capacity .commandHeaders =
        drawsOf (emissionRecordRole imported index) ∧
      (computeRecordCapacityDelta sizes (imported.record index)).drawCount =
        drawsOf (emissionRecordRole imported index) := by
  have typed := valid.typed inside
  unfold computeRecordCapacityDelta
  cases island with
  | inl draw =>
      have type := directDraw_of_role draw
      obtain ⟨large, decoded⟩ := valid.loadDrawHeader_eq inside type
      have primitive := valid.primitive index inside type
      rw [decoded] at primitive
      rw [islandDraw_delta typed draw, draw]
      rcases addDrawRecordCapacity_cases emptyCapacity sizes 0
        (imported.record index) with invalid | overflow | commands
      · exact absurd invalid
          (addDrawRecordCapacity_valid large primitive.1 primitive.2)
      · exact Or.inl overflow
      · exact Or.inr ⟨Or.inr commands.result, commands.header, commands.draws⟩
  | inr state =>
      rw [islandStateOnly_delta typed state, state]
      exact Or.inr ⟨Or.inl rfl, rfl, rfl⟩

theorem appendIslandRecord_outcome (valid : StructurallyValid imported)
    (inside : index < imported.records.length)
    (invariant : PassInvariant imported index pass)
    (island : IsIsland imported index) :
    Outcome Overflows (PassInvariant imported (index + 1))
      (pass.appendIslandRecord sizes index (imported.record index)) := by
  unfold EmissionPass.appendIslandRecord
  dsimp only
  rcases valid.island_delta sizes inside island with
    overflow | ⟨accepted, header, draws⟩
  · rw [overflow]
    exact rfl
  · cases pendingApplied : applyRecordCapacityDelta
        (pass.openPending index).pendingCapacity
        (pass.openPending index).pendingDrawCount
        (computeRecordCapacityDelta sizes (imported.record index)) with
    | none =>
        cases accepted with
        | inl state =>
            rw [state]
            exact rfl
        | inr command =>
            rw [command]
            exact rfl
    | some pending =>
        cases aggregateApplied : applyRecordCapacityDelta
            (pass.openPending index).aggregate
            (pass.openPending index).aggregateDrawCount
            (computeRecordCapacityDelta sizes (imported.record index)) with
        | none =>
            cases accepted with
            | inl state =>
                rw [state]
                exact rfl
            | inr command =>
                rw [command]
                exact rfl
        | some aggregate =>
            have pendingTotal := applyRecordCapacityDelta_some pendingApplied
            have aggregateTotal :=
              applyRecordCapacityDelta_some aggregateApplied
            have extended := invariant.openPending.extended island
              pending.1 aggregate.1
              (by rw [aggregateTotal.1, ← header])
            rw [← draws, ← pendingTotal.2, ← aggregateTotal.2] at extended
            cases accepted with
            | inl state =>
                rw [state]
                exact extended
            | inr command =>
                rw [command]
                exact extended

/-! ## Locators -/

theorem PassSettled.settles_locator (valid : StructurallyValid imported)
    (inside : index < imported.records.length)
    (settled : PassSettled imported index pass)
    {segment : EmissionSegment}
    (begins : segment.firstRecordIndex = castU32 index)
    (single : segment.recordCount = 1)
    (own : segment.kind ≠ .compatibilityRange)
    (contents : SegmentContents (emissionRecordRole imported)
      imported.recordType imported.records.length segment) :
    Settles imported (index + 1) (pass.plan.segments ++ [segment]) := by
  have small : castU32 index = index :=
    castU32_of_lt (Nat.lt_trans inside valid.length_lt)
  have pushed := settled.settled.push _ (begins.trans small)
    (by rw [single]; exact Nat.one_pos) contents
    (fun previous _ both => own both.2)
  rw [single] at pushed
  exact pushed

theorem PassSettled.short (roomy : imported.records.length ≤ room)
    (inside : index < imported.records.length)
    (settled : PassSettled imported index pass) :
    pass.plan.segments.length < room := by
  have few := settled.settled.partition.length_le
  omega

theorem behind_of_not_island (plain : ¬IsIsland imported index) :
    ∀ other, other + 1 = index + 1 → ¬IsIsland imported other := by
  intro other same
  rw [Nat.succ.inj same]
  exact plain

theorem not_island_of_role {role : EmissionRecordRole}
    (located : emissionRecordRole imported index = role)
    (plain : role ≠ .islandDraw ∧ role ≠ .islandStateOnly) :
    ¬IsIsland imported index := by
  intro island
  cases island with
  | inl draw => exact plain.1 (located.symm.trans draw)
  | inr state => exact plain.2 (located.symm.trans state)

theorem appendOrderedControl_outcome (valid : StructurallyValid imported)
    (roomy : imported.records.length ≤ room)
    (inside : index < imported.records.length)
    (invariant : PassInvariant imported index pass)
    (control : emissionRecordRole imported index = .orderedControl) :
    Outcome Overflows (PassInvariant imported (index + 1))
      (pass.appendOrderedControl sizes room index
        (imported.record index)) := by
  have plain := not_island_of_role control ⟨nofun, nofun⟩
  unfold EmissionPass.appendOrderedControl
  cases closing : pass.closePending sizes room index false with
  | none => exact rfl
  | some closed =>
      have settled := invariant.closed valid roomy (Nat.le_of_lt inside)
        (fun _ => plain)
        (fun _ _ _ draw => nomatch control.symm.trans draw)
        (fun _ _ => rfl) closing
      have small : castU32 index = index :=
        castU32_of_lt (Nat.lt_trans inside valid.length_lt)
      dsimp only
      rw [push_eq (settled.short roomy inside)]
      refine .idle ⟨settled.shut, settled.drawless,
        settled.settles_locator valid inside rfl rfl nofun ?_,
        settled.accepted, ?_⟩ (behind_of_not_island plain)
      · refine .orderedControl rfl rfl ?_ ?_ rfl
        · change emissionRecordRole imported (castU32 index) = _
          rw [small]
          exact control
        · change (imported.record index).header.type =
            imported.recordType (castU32 index)
          rw [small]
          exact valid.typed inside
      · refine ⟨settled.totals.headers, ?_, nofun, ?_⟩
        · change closed.aggregateDrawCount =
            ((closed.plan.segments ++ [_]).map _).sum + closed.pendingDrawCount
          rw [List.map_append, List.sum_append, List.map_singleton,
            List.sum_singleton]
          exact settled.totals.draws
        · intro none found member
          cases List.mem_append.mp member with
          | inl earlier =>
              exact settled.totals.compatibility none found earlier
          | inr new =>
              rw [List.mem_singleton.mp new]
              exact nofun

variable (sizes) in
theorem StructurallyValid.coordinator_delta
    (valid : StructurallyValid imported)
    (inside : index < imported.records.length)
    (coordinator : emissionRecordRole imported index = .coordinator) :
    (computeRecordCapacityDelta sizes (imported.record index)).result =
        .overflow ∨
      (computeRecordCapacityDelta sizes (imported.record index)).Commands
        emptyCapacity 0 0 := by
  have typed := valid.typed inside
  rcases CpuReady.coordinator_delta emptyCapacity sizes 0 typed
    coordinator with
    ⟨rule, known, small⟩ | delta
  · obtain ⟨rule', known', large⟩ := valid.fixedPayload index inside
    rw [typed, known'] at known
    rw [← Option.some.inj known] at small
    exact absurd small (Nat.not_lt.mpr large)
  · exact delta

theorem PassSettled.coordinated (valid : StructurallyValid imported)
    (inside : index < imported.records.length)
    (settled : PassSettled imported index pass)
    (coordinator : emissionRecordRole imported index = .coordinator)
    {aggregate capacity : SourcePayloadCapacity}
    (header : aggregate .commandHeaders = pass.aggregate .commandHeaders + 1)
    (drawn : drawCount = pass.aggregateDrawCount)
    (type : RecordType) (typed : type = imported.recordType index) :
    PassSettled imported (index + 1)
      (EmissionPass.countCoordinator
        { pass with
          aggregate := aggregate
          aggregateDrawCount := drawCount
          plan :=
            { pass.plan with
              segments := pass.plan.segments ++
                [locatorSegment .coordinatorLocator index type
                  capacity] } } type) := by
  have small : castU32 index = index :=
    castU32_of_lt (Nat.lt_trans inside valid.length_lt)
  have settles : Settles imported (index + 1) (pass.plan.segments ++
      [locatorSegment .coordinatorLocator index type capacity]) := by
    refine settled.settles_locator valid inside rfl rfl nofun ?_
    refine .coordinator rfl rfl ?_ ?_ rfl
    · change emissionRecordRole imported (castU32 index) = _
      rw [small]
      exact coordinator
    · change type = imported.recordType (castU32 index)
      rw [small]
      exact typed
  have totals : PassTotals
      { pass with
        aggregate := aggregate
        aggregateDrawCount := drawCount
        plan :=
          { pass.plan with
            coordinatorCount := pass.plan.coordinatorCount + 1
            segments := pass.plan.segments ++
              [locatorSegment .coordinatorLocator index type
                capacity] } } := by
    constructor
    · change aggregate .commandHeaders =
        drawCount + (pass.plan.coordinatorCount + 1)
      rw [header, settled.totals.headers, drawn, Nat.add_assoc]
    · change drawCount = ((pass.plan.segments ++ [_]).map _).sum +
        pass.pendingDrawCount
      rw [drawn, List.map_append, List.sum_append, List.map_singleton,
        List.sum_singleton]
      exact settled.totals.draws
    · intro none found member
      cases List.mem_append.mp member with
      | inl earlier => exact settled.totals.controls none found earlier
      | inr new =>
          rw [List.mem_singleton.mp new]
          exact nofun
    · intro none found member
      cases List.mem_append.mp member with
      | inl earlier => exact settled.totals.compatibility none found earlier
      | inr new =>
          rw [List.mem_singleton.mp new]
          exact nofun
  unfold EmissionPass.countCoordinator
  dsimp only
  split
  · exact ⟨settled.shut, settled.drawless, settles, settled.accepted,
      ⟨totals.headers, totals.draws, totals.controls, totals.compatibility⟩⟩
  · exact ⟨settled.shut, settled.drawless, settles, settled.accepted,
      ⟨totals.headers, totals.draws, totals.controls, totals.compatibility⟩⟩

theorem appendCoordinator_outcome (valid : StructurallyValid imported)
    (roomy : imported.records.length ≤ room)
    (inside : index < imported.records.length)
    (invariant : PassInvariant imported index pass)
    (coordinator : emissionRecordRole imported index = .coordinator) :
    Outcome Overflows (PassInvariant imported (index + 1))
      (pass.appendCoordinator sizes room index
        (imported.record index)) := by
  have plain := not_island_of_role coordinator ⟨nofun, nofun⟩
  unfold EmissionPass.appendCoordinator
  cases closing : pass.closePending sizes room index false with
  | none => exact rfl
  | some closed =>
      have settled := invariant.closed valid roomy (Nat.le_of_lt inside)
        (fun _ => plain)
        (fun _ _ _ draw => nomatch coordinator.symm.trans draw)
        (fun _ _ => rfl) closing
      dsimp only
      cases valid.coordinator_delta sizes inside coordinator with
      | inl overflow =>
          rw [overflow, if_pos (Or.inl nofun), if_pos rfl]
          exact rfl
      | inr commands =>
          have undrawn : (computeRecordCapacityDelta sizes
              (imported.record index)).drawCount = 0 := commands.draws
          rw [if_neg (by rw [commands.result, undrawn]; simp)]
          cases applyRecordCapacityDelta emptyCapacity 0
              (computeRecordCapacityDelta sizes (imported.record index)) with
          | none => exact rfl
          | some locator =>
              cases applied : applyRecordCapacityDelta closed.aggregate
                  closed.aggregateDrawCount
                  (computeRecordCapacityDelta sizes
                    (imported.record index)) with
              | none => exact rfl
              | some aggregate =>
                  have total := applyRecordCapacityDelta_some applied
                  have short := settled.short roomy inside
                  dsimp only
                  rw [push_eq]
                  · refine .idle (settled.coordinated valid inside
                      coordinator ?_ ?_ _ (valid.typed inside))
                      (behind_of_not_island plain)
                    · rw [total.1]
                      dsimp only
                      rw [commands.header]
                      rfl
                    · rw [total.2, undrawn, Nat.add_zero]
                  · exact short

theorem PassSettled.clearPending (settled : PassSettled imported index pass) :
    PassSettled imported index pass.clearPending where
  shut := rfl
  drawless := rfl
  settled := settled.settled
  accepted := settled.accepted
  totals := by
    refine ⟨settled.totals.headers, ?_, settled.totals.controls,
      settled.totals.compatibility⟩
    have draws := settled.totals.draws
    rw [settled.drawless] at draws
    exact draws

theorem PendingRun.abandoned (run : PendingRun imported index pass)
    (drawless : pass.pendingDrawCount = 0) :
    PassSettled imported pass.pendingFirstRecord pass.clearPending where
  shut := rfl
  drawless := rfl
  settled := run.settled
  accepted := run.accepted
  totals := by
    refine ⟨run.totals.headers, ?_, run.totals.controls,
      run.totals.compatibility⟩
    have draws := run.totals.draws
    rw [drawless] at draws
    exact draws

/-- Totals after a compatibility range has been added or made longer. -/
theorem PassTotals.compatible {segments : List EmissionSegment}
    {ranges records : Nat} (totals : PassTotals pass) (some_ : 0 < records)
    (draws : (segments.map EmissionSegment.drawCount).sum =
      (pass.plan.segments.map EmissionSegment.drawCount).sum)
    (controls : ∀ segment ∈ segments,
      segment.kind = .orderedControlLocator → segment ∈ pass.plan.segments) :
    PassTotals
      (EmissionPass.countCompatibility
        { pass with plan := { pass.plan with segments := segments } }
        ranges records) := by
  refine ⟨totals.headers, ?_, ?_, ?_⟩
  · change pass.aggregateDrawCount =
      (segments.map EmissionSegment.drawCount).sum + pass.pendingDrawCount
    rw [draws]
    exact totals.draws
  · intro none found member control
    exact totals.controls none found (controls found member control) control
  · intro none
    have counted : pass.plan.compatibilityRecordCount + records = 0 := none
    omega

theorem PassSettled.appendCompatibility
    (valid : StructurallyValid imported)
    (roomy : imported.records.length ≤ room)
    (settled : PassSettled imported first pass) (begun : first ≤ index)
    (inside : index < imported.records.length)
    (owned : ∀ other, first ≤ other → other < index + 1 →
      CompatibilityOwned (emissionRecordRole imported)
        imported.records.length other) :
    PassSettled imported (index + 1)
      (pass.appendCompatibility room first (index + 1 - first)) := by
  have small := valid.length_lt
  have castFirst : castU32 first = first := castU32_of_lt (by omega)
  have castCount : castU32 (index + 1 - first) = index + 1 - first :=
    castU32_of_lt (by omega)
  have ends : first + (index + 1 - first) = index + 1 := by omega
  have short : pass.plan.segments.length < room := by
    have few := settled.settled.partition.length_le
    omega
  have fresh : (∀ previous, pass.plan.segments.getLast? = some previous →
      previous.kind ≠ .compatibilityRange) →
      PassSettled imported (index + 1)
        ((pass.push room (compatibilitySegment first
          (index + 1 - first))).countCompatibility 1 (index + 1 - first)) := by
    intro behind
    rw [push_eq short]
    refine ⟨settled.shut, settled.drawless, ?_, settled.accepted, ?_⟩
    · have pushed := settled.settled.push
        (compatibilitySegment first (index + 1 - first))
        castFirst ?_ ?_
        (fun previous isLast both => behind previous isLast both.1)
      · rw [show (compatibilitySegment first
          (index + 1 - first)).recordCount = index + 1 - first from
            castCount, ends] at pushed
        exact pushed
      · change 0 < castU32 _
        rw [castCount]
        omega
      · refine .compatibility rfl ?_ rfl
        rintro other ⟨from_, before⟩
        change castU32 first ≤ other at from_
        change other < castU32 first + castU32 _ at before
        rw [castFirst] at from_ before
        rw [castCount, ends] at before
        exact owned other from_ before
    · apply settled.totals.compatible (by omega)
      · rw [List.map_append, List.sum_append, List.map_singleton,
          List.sum_singleton]
        rfl
      · intro found member control
        cases List.mem_append.mp member with
        | inl earlier => exact earlier
        | inr new =>
            rw [List.mem_singleton.mp new] at control
            exact nomatch control
  unfold EmissionPass.appendCompatibility
  dsimp only
  cases behind : pass.plan.segments.getLast? with
  | none =>
      apply fresh
      intro previous isLast
      exact nomatch behind.symm.trans isLast
  | some previous =>
      dsimp only
      by_cases kind : previous.kind = .compatibilityRange
      · obtain ⟨front, split⟩ := List.getLast?_eq_some_iff.mp behind
        have before := settled.settled
        rw [split] at before
        have meets : previous.firstRecordIndex + previous.recordCount =
            first := before.partition.last
        have castSum : castU32 (previous.recordCount +
            castU32 (index + 1 - first)) =
              previous.recordCount + (index + 1 - first) := by
          rw [castCount]
          exact castU32_of_lt (by omega)
        rw [if_pos ⟨kind, meets⟩]
        unfold EmissionPass.extendLast
        rw [split, List.dropLast_concat, castSum]
        have extended := before.extend (index + 1 - first) kind (by rwa [ends])
        rw [ends] at extended
        refine ⟨settled.shut, settled.drawless, extended, settled.accepted,
          settled.totals.compatible (by omega) ?_ ?_⟩
        · rw [split, List.map_append, List.map_append]
          rfl
        · intro found member control
          rw [split]
          cases List.mem_append.mp member with
          | inl earlier => exact List.mem_append_left _ earlier
          | inr new =>
              rw [List.mem_singleton.mp new] at control
              exact nomatch kind.symm.trans control
      · rw [if_neg (fun both => kind both.1)]
        apply fresh
        intro other isLast
        rw [← Option.some.inj (behind.symm.trans isLast)]
        exact kind

theorem appendCompatibilityDraw_outcome (valid : StructurallyValid imported)
    (roomy : imported.records.length ≤ room)
    (inside : index < imported.records.length)
    (invariant : PassInvariant imported index pass)
    (draw : emissionRecordRole imported index = .compatibilityDraw) :
    Outcome Overflows (PassInvariant imported (index + 1))
      (pass.appendCompatibilityDraw sizes room index) := by
  have plain := not_island_of_role draw ⟨nofun, nofun⟩
  unfold EmissionPass.appendCompatibilityDraw
  dsimp only
  by_cases folded : pass.pendingOpen = true ∧ pass.pendingDrawCount = 0
  · -- the run without a draw joins the range
    have kept : pass.closePending sizes room index true = some pass := by
      unfold EmissionPass.closePending
      dsimp only
      rw [folded.1, if_neg (by decide), if_pos ⟨folded.2, rfl⟩]
    rw [kept, if_pos folded]
    cases invariant with
    | idle settled behind => exact nomatch settled.shut.symm.trans folded.1
    | running run nonempty =>
        refine .idle ((run.abandoned folded.2).appendCompatibility valid
          roomy run.begun inside ?_) (behind_of_not_island plain)
        intro other from_ before
        cases Nat.lt_succ_iff_lt_or_eq.mp before with
        | inl earlier =>
            exact Or.inr ⟨pass.pendingFirstRecord, index,
              ⟨nonempty, Nat.le_of_lt inside, run.island, run.opens,
                fun _ => plain⟩,
              fun drawn => run.draws.mpr drawn folded.2, from_, earlier,
              inside, draw⟩
        | inr same => exact Or.inl (same ▸ draw)
  · rw [if_neg folded]
    cases closing : pass.closePending sizes room index true with
    | none => exact rfl
    | some closed =>
        have settled := invariant.closed valid roomy (Nat.le_of_lt inside)
          (fun _ => plain)
          (fun opened drawless => absurd ⟨opened, drawless⟩ folded)
          (fun opened drawless => absurd ⟨opened, drawless⟩ folded) closing
        refine .idle (settled.clearPending.appendCompatibility valid roomy
          (Nat.le_refl index) inside ?_) (behind_of_not_island plain)
        intro other from_ before
        have same : other = index := by omega
        exact Or.inl (same ▸ draw)

theorem StructurallyValid.role_known (valid : StructurallyValid imported)
    (inside : index < imported.records.length) :
    emissionRecordRole imported index ≠ .unknown := by
  intro unknown
  obtain ⟨rule, known, -⟩ := valid.fixedPayload index inside
  rw [emissionRecordRole_eq] at unknown
  cases type : imported.recordType index
  all_goals rw [type] at unknown known
  case other value => exact nomatch known
  case drawPrimitive =>
    dsimp only at unknown
    split at unknown
    · exact nomatch unknown
    · exact nomatch unknown
  case drawIndexedPrimitive =>
    dsimp only at unknown
    split at unknown
    · exact nomatch unknown
    · exact nomatch unknown
  all_goals exact nomatch unknown

theorem PassInvariant.accepted
    (invariant : PassInvariant imported index pass) :
    pass.pushFailed = false := by
  cases invariant with
  | idle closed behind => exact closed.accepted
  | running run nonempty => exact run.accepted

variable (sizes) in
theorem appendRecord_outcome (valid : StructurallyValid imported)
    (roomy : imported.records.length ≤ room)
    (inside : index < imported.records.length)
    (invariant : PassInvariant imported index pass) :
    Outcome Overflows (PassInvariant imported (index + 1))
      (pass.appendRecord sizes room imported index) := by
  unfold EmissionPass.appendRecord
  dsimp only
  cases role : emissionRecordRole imported index with
  | islandDraw =>
      exact appendIslandRecord_outcome valid inside invariant (Or.inl role)
  | islandStateOnly =>
      exact appendIslandRecord_outcome valid inside invariant (Or.inr role)
  | coordinator =>
      exact appendCoordinator_outcome valid roomy inside invariant role
  | orderedControl =>
      exact appendOrderedControl_outcome valid roomy inside invariant role
  | compatibilityDraw =>
      exact appendCompatibilityDraw_outcome valid roomy inside invariant role
  | unknown => exact absurd role (valid.role_known inside)

theorem step_outcome (valid : StructurallyValid imported)
    (roomy : imported.records.length ≤ room)
    (inside : index < imported.records.length)
    (invariant : PassInvariant imported index pass) :
    Outcome Overflows (PassInvariant imported (index + 1))
      (pass.step sizes room imported index) := by
  have appended := appendRecord_outcome sizes valid roomy inside invariant
  unfold EmissionPass.step
  rw [valid.agrees index inside, if_neg (by decide)]
  cases reached : pass.appendRecord sizes room imported index with
  | error reason =>
      rw [reached] at appended
      exact appended
  | ok next =>
      rw [reached] at appended
      have kept : PassInvariant imported (index + 1) next := appended
      dsimp only
      rw [kept.accepted, if_neg (by decide)]
      exact kept

theorem passInvariant_start (rawOrdinal : Nat) :
    PassInvariant imported 0 { plan := { rawOrdinal := rawOrdinal } } := by
  refine .idle ⟨rfl, rfl, segmentsSettled_nil, rfl, rfl, rfl, ?_, ?_⟩ nofun
  · intro none segment member
    exact absurd member List.not_mem_nil
  · intro none segment member
    exact absurd member List.not_mem_nil

variable (sizes) in
theorem emissionSegments_outcome (valid : StructurallyValid imported)
    (roomy : imported.records.length ≤ room) (rawOrdinal : Nat) :
    Outcome Overflows
      (PassSettled imported imported.records.length)
      (emissionSegments sizes room imported rawOrdinal) := by
  have passed : Outcome Overflows
      (PassInvariant imported imported.records.length)
      ((List.range imported.records.length).foldlM
        (fun pass index => EmissionPass.step sizes room imported pass index)
        { plan := { rawOrdinal := rawOrdinal } }) :=
    outcome_foldlM_range (passInvariant_start rawOrdinal)
      fun index pass inside invariant =>
        step_outcome valid roomy inside invariant
  unfold emissionSegments
  dsimp only
  cases reached : (List.range imported.records.length).foldlM
      (fun pass index => EmissionPass.step sizes room imported pass index)
      { plan := { rawOrdinal := rawOrdinal } } with
  | error reason =>
      rw [reached] at passed
      exact passed
  | ok pass =>
      rw [reached] at passed
      have invariant :
        PassInvariant imported imported.records.length pass := passed
      dsimp only
      cases closing : pass.closePending sizes room imported.records.length
          false with
      | none => exact rfl
      | some closed =>
          have settled := invariant.closed valid roomy (Nat.le_refl _)
            (fun inside => absurd inside (Nat.lt_irrefl _))
            (fun _ _ inside => absurd inside (Nat.lt_irrefl _))
            (fun _ _ => rfl) closing
          dsimp only
          rw [settled.accepted, if_neg (by decide)]
          exact settled

end Dxmt9.CpuReady
