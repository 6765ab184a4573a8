import Dxmt9.CpuReady.ChunkPassSound

/-!
# The CPU-ready plan is an exact bounded partition

The segments partition the records, with state records in the segment of the
command behind them, and the sources partition the segments.  Every segment
and the whole raw reserve what their records need.
-/

namespace Dxmt9.CpuReady

open Fallible Queue

variable (sizes : PayloadSizes) (options : CpuReadyPlanOptions)
  (imported : ImportedChunkView)

/-- State records belong to the segment of the next command, and those behind
the last command to the last segment. -/
structure StateFollows (segments : List CpuReadySegmentPlan) : Prop where
  following : ∀ segment ∈ segments, ∀ index command,
    segment.Holds index → index ≤ command →
    command < imported.records.length → CommandRecord imported command →
    (∀ between, index ≤ between → between < command →
      ¬CommandRecord imported between) →
    segment.Holds command
  trailing : ∀ segment ∈ segments, ∀ index, segment.Holds index →
    (∀ behind, index ≤ behind → behind < imported.records.length →
      ¬CommandRecord imported behind) →
    segments.getLast? = some segment

/-- The segments of a source. -/
def CpuReadySourcePlan.heldSegments (segments : List CpuReadySegmentPlan)
    (source : CpuReadySourcePlan) : List CpuReadySegmentPlan :=
  (segments.drop source.firstSegmentIndex).take source.segmentCount

/-- A source that packs its segments within its bounds. -/
structure SourceExact (segments : List CpuReadySegmentPlan)
    (source : CpuReadySourcePlan) : Prop where
  bounded : source.segmentCount ≤ options.maxSegmentsPerSource
  packed : makeArenaSourcePayloadLayout
      ((source.heldSegments segments).map CpuReadySegmentPlan.layout)
      options.pageSize options.sourcePages =
    some source.arenaLayout
  fits : source.arenaLayout.pageCount ≤ options.sourcePages
  jumbo : source.jumbo =
    (source.heldSegments segments).any CpuReadySegmentPlan.jumbo

/-- Segments that partition all the records. -/
structure SegmentsExact (segments : List CpuReadySegmentPlan) : Prop where
  partition : Partitions CpuReadySegmentPlan.firstRecordIndex
    CpuReadySegmentPlan.recordCount segments imported.records.length
  settled : ∀ segment ∈ segments,
    SegmentExact sizes options imported segment
  state : StateFollows imported segments

/-- Sources that partition some consecutive segments from the first on, and
the records of these. -/
structure SourcesExact (segments : List CpuReadySegmentPlan)
    (done : List CpuReadySegmentPlan) (sources : List CpuReadySourcePlan) :
    Prop where
  partition : Partitions CpuReadySourcePlan.firstSegmentIndex
    CpuReadySourcePlan.segmentCount sources done.length
  records : Partitions CpuReadySourcePlan.firstRecordIndex
    CpuReadySourcePlan.recordCount sources
    (totalExtent CpuReadySegmentPlan.recordCount done)
  settled : ∀ source ∈ sources, SourceExact options segments source
  bounded : sources.length ≤ options.maxSourcesPerChunk

/-- An exact bounded plan of a chunk. -/
structure PlanExact (plan : CpuReadyPlan) : Prop where
  segments : SegmentsExact sizes options imported plan.segments
  segmentCount : plan.segmentCount = plan.segments.length
  sources : SourcesExact options plan.segments plan.segments plan.sources
  sourceCount : plan.sourceCount = plan.sources.length
  capacity : ∃ total,
    recordTotals sizes imported 0 imported.records.length = some total ∧
      addDerivedDrawCapacity sizes total.1 total.2 = some plan.capacity

variable {sizes options imported} {plan : CpuReadyPlan} {pass : ChunkPass}
  {segments held done : List CpuReadySegmentPlan}
  {segment first last : CpuReadySegmentPlan} {rawOrdinal : Nat}

theorem stateFollows_of_ends
    (partition : Partitions CpuReadySegmentPlan.firstRecordIndex
      CpuReadySegmentPlan.recordCount segments imported.records.length)
    (ends : ∀ segment ∈ segments.dropLast, EndsInCommand imported segment) :
    StateFollows imported segments := by
  have last_or_ends : ∀ segment ∈ segments,
      (segments.getLast? = some segment ∧ segment.firstRecordIndex +
        segment.recordCount = imported.records.length) ∨
      EndsInCommand imported segment := by
    intro segment member
    cases segments using List.reverseRecOn with
    | nil => exact nomatch member
    | append_singleton front last =>
        rw [List.dropLast_concat] at ends
        cases List.mem_append.mp member with
        | inl earlier => exact Or.inr (ends segment earlier)
        | inr final =>
            cases List.mem_singleton.mp final
            exact Or.inl ⟨List.getLast?_concat, partition.last⟩
  constructor
  · rintro segment member index command ⟨begins, inside⟩ ordered bounded -
      silent
    refine ⟨begins.trans ordered, ?_⟩
    cases last_or_ends segment member with
    | inl last => exact last.2 ▸ bounded
    | inr ends =>
        by_contra outside
        exact silent (segment.firstRecordIndex + segment.recordCount - 1)
          (by omega) (by omega) ends
  · rintro segment member index ⟨begins, inside⟩ silent
    cases last_or_ends segment member with
    | inl last => exact last.1
    | inr ends =>
        have bounded := partition.le member
        exact absurd ends
          (silent (segment.firstRecordIndex + segment.recordCount - 1)
            (by omega) (by omega))

theorem SegmentExact.takeTail {size : Nat}
    (exact_ : SegmentExact sizes options imported segment)
    (behind : segment.firstRecordIndex + segment.recordCount ≤ size)
    (quiet : Quiet sizes imported
      (segment.firstRecordIndex + segment.recordCount) size) :
    SegmentExact sizes options imported
      { segment with recordCount := size - segment.firstRecordIndex } := by
  have wider : ∀ index, segment.Holds index →
      CpuReadySegmentPlan.Holds
        { segment with recordCount := size - segment.firstRecordIndex }
        index := by
    rintro index ⟨begins, inside⟩
    refine ⟨begins, ?_⟩
    dsimp only
    omega
  constructor
  · obtain ⟨index, holds, command⟩ := exact_.command
    exact ⟨index, wider index holds, command⟩
  · obtain ⟨total, known, derived⟩ := exact_.capacity
    refine ⟨total, ?_, derived⟩
    have span : segment.firstRecordIndex + segment.recordCount -
        segment.firstRecordIndex = segment.recordCount :=
      Nat.add_sub_cancel_left ..
    exact recordTotals_upTo (Nat.le_add_right ..) (span.symm ▸ known) behind
      quiet
  · exact exact_.layout
  · exact exact_.ordinary
  · intro large
    obtain ⟨index, ⟨holds, command⟩, only⟩ := exact_.jumbo large
    refine ⟨index, ⟨wider index holds, command⟩, ?_⟩
    rintro other ⟨begins, inside⟩ found
    dsimp only at begins inside
    by_cases earlier : other < segment.firstRecordIndex + segment.recordCount
    · exact only other ⟨begins, earlier⟩ found
    · exact absurd found
        (quiet other (Nat.not_lt.mp earlier) (by omega)).silent

/-- What the closed plan has. -/
structure ClosedPlan (sizes : PayloadSizes) (options : CpuReadyPlanOptions)
    (imported : ImportedChunkView) (pass : ChunkPass) (plan : CpuReadyPlan) :
    Prop where
  capacity : plan.capacity = pass.plan.capacity
  counted : plan.segmentCount = plan.segments.length
  segments : plan.segments ≠ [] →
    SegmentsExact sizes options imported plan.segments

theorem segmentsExact_append {front : List CpuReadySegmentPlan}
    (partition : Partitions CpuReadySegmentPlan.firstRecordIndex
      CpuReadySegmentPlan.recordCount front segment.firstRecordIndex)
    (nonempty : 0 < segment.recordCount)
    (stop : segment.firstRecordIndex + segment.recordCount =
      imported.records.length)
    (settled : ∀ earlier ∈ front, SegmentExact sizes options imported earlier)
    (ends : ∀ earlier ∈ front, EndsInCommand imported earlier)
    (exact_ : SegmentExact sizes options imported segment) :
    SegmentsExact sizes options imported (front ++ [segment]) := by
  have whole := partitions_append_singleton.mpr ⟨partition, nonempty, stop⟩
  refine ⟨whole, ?_, stateFollows_of_ends whole ?_⟩
  · exact List.forall_mem_append.mpr
      ⟨settled, List.forall_mem_singleton.mpr exact_⟩
  · rw [List.dropLast_concat]
    exact ends

theorem ChunkPassSettled.closeTail
    (settled : ChunkPassSettled sizes options imported
      imported.records.length pass) :
    Outcome Refused (ClosedPlan sizes options imported pass)
      (pass.closeTail sizes options imported rawOrdinal) := by
  obtain ⟨⟨partition, counted, exact_, ends⟩, before, current⟩ := settled
  unfold ChunkPass.closeTail
  dsimp only
  cases equal : pass.current with
  | mk capacity drawCount firstRecordIndex lastRecordIndex active =>
      rw [equal] at current
      cases current with
      | none quiet =>
          dsimp only
          rw [if_neg Bool.false_ne_true]
          split
          · split
            · rename_i none
              have empty := List.getLast?_eq_none_iff.mp none
              exact ⟨rfl, counted, fun found => absurd empty found⟩
            · rename_i inside tail found
              obtain ⟨front, final⟩ := List.getLast?_eq_some_iff.mp found
              split
              · exact ReplayLane.noConfusion
              · rename_i small
                have cast : castU32 (imported.records.length -
                    tail.firstRecordIndex) =
                    imported.records.length - tail.firstRecordIndex := by
                  apply Nat.mod_eq_of_lt
                  have bound : kMaxU32 = 2 ^ 32 - 1 := rfl
                  omega
                rw [final] at partition counted exact_ ends
                obtain ⟨earlier, nonempty, stop⟩ :=
                  partitions_append_singleton.mp partition
                refine ⟨rfl, ?_, fun _ => ?_⟩
                · dsimp only
                  rw [final, List.dropLast_concat, counted,
                    List.length_append, List.length_append]
                  rfl
                · dsimp only
                  rw [final, List.dropLast_concat, cast]
                  have reached : tail.firstRecordIndex + tail.recordCount ≤
                      imported.records.length := stop ▸ before
                  refine segmentsExact_append earlier ?_ ?_ ?_ ?_ ?_
                  · dsimp only
                    omega
                  · dsimp only
                    omega
                  · exact (List.forall_mem_append.mp exact_).1
                  · exact (List.forall_mem_append.mp ends).1
                  · exact (exact_ tail (by simp)).takeTail reached
                      (stop ▸ quiet)
          · rename_i reached
            have size : pass.nextSegmentRecordIndex =
                imported.records.length :=
              Nat.le_antisymm before (Nat.not_lt.mp reached)
            rw [size] at partition
            refine ⟨rfl, counted, fun _ => ⟨partition, exact_, ?_⟩⟩
            exact stateFollows_of_ends partition fun segment member =>
              ends segment ((List.dropLast_sublist _).subset member)
      | upTo grows fits inside quiet =>
          rw [if_pos grows.active]
          split
          · exact oversizedFallback_refused
          · rename_i plan append
            dsimp only at inside quiet
            have size : imported.records.length - 1 + 1 =
                imported.records.length := by omega
            obtain ⟨planned, exactly, begins, stop, nonempty, rfl⟩ :=
              grows.append_exact
                (Nat.le_sub_one_of_lt inside) (size.symm ▸ quiet)
                (fun _ => fits) (fun large : false = true => nomatch large)
                append
            refine ⟨rfl, ?_, fun _ => ?_⟩
            · dsimp only
              rw [counted, List.length_append, List.length_singleton]
            · exact segmentsExact_append (begins ▸ partition) nonempty
                (stop.trans size) exact_ ends exactly

theorem makeArenaSourcePayloadLayout_some
    {layouts : List SourcePayloadLayout} {pageSize maxPages : Nat}
    {layout : ArenaSourcePayloadLayout}
    (packed : makeArenaSourcePayloadLayout layouts pageSize maxPages =
      some layout) :
    layouts ≠ [] ∧ layout.pageCount ≤ maxPages := by
  unfold makeArenaSourcePayloadLayout at packed
  split at packed
  · exact nomatch packed
  · rename_i accepted
    refine ⟨fun empty => accepted (Or.inl empty), ?_⟩
    split at packed
    · exact nomatch packed
    · dsimp only at packed
      split at packed
      · exact nomatch packed
      · split at packed
        · exact nomatch packed
        · rename_i bounded
          cases packed
          exact Nat.not_lt.mp fun large => bounded (Or.inr (Or.inl large))

/-- The layout of the held segments, once there are any. -/
def Packed (options : CpuReadyPlanOptions)
    (held : List CpuReadySegmentPlan)
    (layout : Option ArenaSourcePayloadLayout) : Prop :=
  ∀ found, layout = some found →
    makeArenaSourcePayloadLayout (held.map CpuReadySegmentPlan.layout)
      options.pageSize options.sourcePages = some found ∧
    held.length ≤ options.maxSegmentsPerSource

theorem growSource_packed {layout : Option ArenaSourcePayloadLayout}
    (remaining : List CpuReadySegmentPlan)
    (packed : Packed options held layout) :
    (growSource options held layout remaining).1 ++
          (growSource options held layout remaining).2.2 =
        held ++ remaining ∧
      Packed options (growSource options held layout remaining).1
        (growSource options held layout remaining).2.1 := by
  induction remaining generalizing held layout with
  | nil => exact ⟨rfl, packed⟩
  | cons head tail induction =>
      rw [growSource]
      split
      · rename_i room
        split
        · exact ⟨rfl, packed⟩
        · rename_i grown fits
          have longer : Packed options (held ++ [head]) (some grown) := by
            intro found equal
            cases equal
            refine ⟨fits, ?_⟩
            rw [List.length_append, List.length_singleton]
            exact room
          obtain ⟨same, kept⟩ := induction longer
          refine ⟨?_, kept⟩
          rw [same, List.append_assoc]
          rfl
      · exact ⟨rfl, packed⟩

theorem growSource_start {remaining rest : List CpuReadySegmentPlan}
    {layout : ArenaSourcePayloadLayout}
    (grown : growSource options [] none remaining =
      (held, some layout, rest)) :
    remaining = held ++ rest ∧ held ≠ [] ∧
      makeArenaSourcePayloadLayout (held.map CpuReadySegmentPlan.layout)
        options.pageSize options.sourcePages = some layout ∧
      held.length ≤ options.maxSegmentsPerSource := by
  have start : Packed options [] none := fun found equal => nomatch equal
  obtain ⟨same, packed⟩ := growSource_packed remaining start
  rw [grown] at same packed
  obtain ⟨fits, bounded⟩ := packed layout rfl
  refine ⟨same.symm, ?_, fits, bounded⟩
  rintro rfl
  exact (makeArenaSourcePayloadLayout_some fits).1 rfl

/-- The numbers of a source that no check refuses. -/
theorem sourceOverflows_false {start : Nat}
    (nonempty : 0 < last.recordCount)
    (accepted : ¬sourceOverflows start held first last = true) :
    first.firstRecordIndex < last.firstRecordIndex + last.recordCount ∧
      last.firstRecordIndex + last.recordCount ≤ kMaxU32 ∧
      start ≤ kMaxU32 ∧ held.length ≤ kMaxU32 := by
  unfold sourceOverflows at accepted
  simp only [Bool.or_eq_true, decide_eq_true_eq, beq_iff_eq, not_or,
    Nat.not_lt] at accepted
  omega

theorem SourcesExact.append {rest : List CpuReadySegmentPlan}
    {sources : List CpuReadySourcePlan} {size : Nat}
    {layout : ArenaSourcePayloadLayout}
    (sourced : SourcesExact options segments done sources)
    (split : segments = done ++ (held ++ rest))
    (partition : Partitions CpuReadySegmentPlan.firstRecordIndex
      CpuReadySegmentPlan.recordCount segments size)
    (room : sources.length < options.maxSourcesPerChunk)
    (begins : held.head? = some first) (ends : held.getLast? = some last)
    (packed : makeArenaSourcePayloadLayout
      (held.map CpuReadySegmentPlan.layout) options.pageSize
      options.sourcePages = some layout)
    (bounded : held.length ≤ options.maxSegmentsPerSource)
    (accepted : ¬sourceOverflows done.length held first last = true) :
    SourcesExact options segments (done ++ held)
      (sources ++ [makeSource done.length held first last layout]) := by
  obtain ⟨front, rfl⟩ := List.getLast?_eq_some_iff.mp ends
  have below : ∀ value, value ≤ kMaxU32 → castU32 value = value := by
    intro value small
    apply Nat.mod_eq_of_lt
    have bound : kMaxU32 = 2 ^ 32 - 1 := rfl
    omega
  have member : last ∈ segments := by
    rw [split]
    simp
  obtain ⟨ordered, stop, start, length⟩ :=
    sourceOverflows_false (partition.nonempty member) accepted
  have placed : castU32 done.length = done.length := below _ start
  have counted : castU32 (front ++ [last]).length = (front ++ [last]).length :=
    below _ length
  have spans : castU32 (last.firstRecordIndex + last.recordCount -
      first.firstRecordIndex) =
      last.firstRecordIndex + last.recordCount - first.firstRecordIndex :=
    below _ (by omega)
  have firstAt : first.firstRecordIndex =
      totalExtent CpuReadySegmentPlan.recordCount done := by
    obtain ⟨behind, equal⟩ := List.head?_eq_some_iff.mp begins
    rw [split, equal, List.cons_append] at partition
    exact partition.first_eq
  have lastAt : last.firstRecordIndex =
      totalExtent CpuReadySegmentPlan.recordCount (done ++ front) := by
    rw [split, List.append_assoc, ← List.append_assoc done] at partition
    exact partition.first_eq
  have total : totalExtent CpuReadySegmentPlan.recordCount
      (done ++ (front ++ [last])) =
      last.firstRecordIndex + last.recordCount := by
    rw [← List.append_assoc, totalExtent_append, ← lastAt,
      totalExtent_cons, totalExtent_nil, Nat.add_zero]
  have sliced : (makeSource done.length (front ++ [last]) first last
      layout).heldSegments segments = front ++ [last] := by
    unfold CpuReadySourcePlan.heldSegments makeSource
    dsimp only
    rw [placed, counted, split, List.drop_left, List.take_left]
  constructor
  · apply partitions_append_singleton.mpr
    refine ⟨?_, ?_, ?_⟩
    · change Partitions _ _ sources (castU32 done.length)
      rw [placed]
      exact sourced.partition
    · change 0 < castU32 (front ++ [last]).length
      rw [counted, List.length_append, List.length_singleton]
      exact Nat.succ_pos _
    · change castU32 done.length + castU32 (front ++ [last]).length = _
      rw [placed, counted]
      exact List.length_append.symm
  · rw [total]
    apply partitions_append_singleton.mpr
    refine ⟨?_, ?_, ?_⟩
    · change Partitions _ _ sources first.firstRecordIndex
      rw [firstAt]
      exact sourced.records
    · change 0 < castU32 _
      rw [spans]
      exact Nat.sub_pos_of_lt ordered
    · change first.firstRecordIndex + castU32 _ = _
      rw [spans]
      exact Nat.add_sub_cancel' (Nat.le_of_lt ordered)
  · refine List.forall_mem_append.mpr
      ⟨sourced.settled, List.forall_mem_singleton.mpr ?_⟩
    constructor
    · change castU32 (front ++ [last]).length ≤ _
      rw [counted]
      exact bounded
    · rw [sliced]
      exact packed
    · exact (makeArenaSourcePayloadLayout_some packed).2
    · rw [sliced]
      rfl
  · rw [List.length_append, List.length_singleton]
    exact room

theorem groupSources_outcome {oversized : CpuReadyPlan}
    (refused : Refused oversized) {steps size : Nat}
    {remaining : List CpuReadySegmentPlan}
    {sources : List CpuReadySourcePlan}
    (partition : Partitions CpuReadySegmentPlan.firstRecordIndex
      CpuReadySegmentPlan.recordCount segments size)
    (split_ : segments = done ++ remaining)
    (sourced : SourcesExact options segments done sources) :
    Outcome Refused (SourcesExact options segments segments)
      (groupSources options oversized rawOrdinal steps done.length remaining
        sources) := by
  induction steps generalizing done remaining sources with
  | zero =>
      cases remaining with
      | nil =>
          rw [List.append_nil] at split_
          exact split_.symm ▸ sourced
      | cons head tail => exact refused
  | succ steps induction =>
      cases remaining with
      | nil =>
          rw [List.append_nil] at split_
          exact split_.symm ▸ sourced
      | cons head tail =>
          simp only [groupSources]
          split
          · exact refused
          · rename_i room
            split
            · rename_i held layout rest grown
              obtain ⟨same, -, packed, bounded⟩ := growSource_start grown
              rw [same] at split_
              split
              · rename_i first last begins ends
                split
                · exact ReplayLane.noConfusion
                · rename_i accepted
                  have next := sourced.append split_ partition
                    (Nat.not_le.mp room) begins ends packed bounded accepted
                  rw [← List.append_assoc] at split_
                  have continued := induction split_ next
                  rw [List.length_append] at continued
                  exact continued
              · exact refused
            · exact refused

/-! ## The plan -/

theorem ClosedPlan.withSources {total : SourcePayloadCapacity}
    {sources : List CpuReadySourcePlan}
    (closed : ClosedPlan sizes options imported pass plan)
    (some_ : plan.segments ≠ [])
    (whole : recordTotals sizes imported 0 imported.records.length =
      some (pass.plan.capacity, pass.totalDrawCount))
    (derived : addDerivedDrawCapacity sizes plan.capacity
      pass.totalDrawCount = some total)
    (sourced : SourcesExact options plan.segments plan.segments sources) :
    PlanExact sizes options imported
      ({ plan with capacity := total }.withSources sources) := by
  have planned : PlanExact sizes options imported
      { plan with
        capacity := total
        sources := sources
        sourceCount := sources.length } :=
    ⟨closed.segments some_, closed.counted, sourced, rfl, _, whole,
      closed.capacity ▸ derived⟩
  unfold CpuReadyPlan.withSources
  dsimp only
  split
  · exact ⟨planned.segments, planned.segmentCount, planned.sources,
      planned.sourceCount, planned.capacity⟩
  · exact planned

theorem completeChunkPlan_outcome
    (exact_ : ChunkPassExact sizes options imported imported.records.length
      pass) :
    Outcome Refused
      (fun plan => plan.lane = .directArenaCandidate →
        PlanExact sizes options imported plan)
      (completeChunkPlan sizes options imported rawOrdinal pass) := by
  unfold completeChunkPlan
  split
  · exact ReplayLane.noConfusion
  · have tail : Outcome Refused (ClosedPlan sizes options imported pass)
        (pass.closeTail sizes options imported rawOrdinal) :=
      exact_.closeTail
    cases reached : pass.closeTail sizes options imported rawOrdinal with
    | error reason =>
        rw [reached] at tail
        exact tail
    | ok plan =>
        rw [reached] at tail
        have closed : ClosedPlan sizes options imported pass plan := tail
        dsimp only [bind, Except.bind]
        cases derived : addDerivedDrawCapacity sizes plan.capacity
            pass.totalDrawCount with
        | none => exact ReplayLane.noConfusion
        | some capacity =>
            dsimp only
            by_cases empty : plan.segments = []
            · rw [empty]
              exact ReplayLane.noConfusion
            · have start : SourcesExact options plan.segments [] [] :=
                ⟨partitions_nil, partitions_nil,
                  List.forall_mem_nil _, Nat.zero_le _⟩
              have grouped : Outcome Refused
                  (SourcesExact options plan.segments plan.segments)
                  (groupSources options
                    (oversizedFallback sizes options imported rawOrdinal)
                    rawOrdinal plan.segments.length 0 plan.segments []) :=
                groupSources_outcome oversizedFallback_refused
                  (closed.segments empty).partition
                  (List.nil_append plan.segments).symm start
              cases built : groupSources options
                  (oversizedFallback sizes options imported rawOrdinal)
                  rawOrdinal plan.segments.length 0 plan.segments [] with
              | error reason =>
                  rw [built] at grouped
                  exact grouped
              | ok sources =>
                  rw [built] at grouped
                  change Outcome _ _ (if sources = [] then _ else _)
                  split
                  · exact ReplayLane.noConfusion
                  · exact fun _ => closed.withSources empty exact_.whole
                      derived grouped

theorem planRecords_outcome :
    Outcome Refused
      (fun plan => plan.lane = .directArenaCandidate →
        PlanExact sizes options imported plan)
      (planRecords sizes options imported rawOrdinal) := by
  have passed : Outcome Refused
      (ChunkPassExact sizes options imported imported.records.length)
      ((List.range imported.records.length).foldlM
        (fun (pass : ChunkPass) index =>
          pass.step sizes options imported rawOrdinal index)
        { plan :=
            { rawOrdinal := rawOrdinal
              lane := .directArenaCandidate
              reason := .eligible } }) :=
    outcome_foldlM_range chunkPassExact_start
      fun index pass _ exact_ => exact_.step
  unfold planRecords
  cases reached : (List.range imported.records.length).foldlM
      (fun (pass : ChunkPass) index =>
        pass.step sizes options imported rawOrdinal index)
      { plan :=
          { rawOrdinal := rawOrdinal
            lane := .directArenaCandidate
            reason := .eligible } } with
  | error reason =>
      rw [reached] at passed
      exact passed
  | ok pass =>
      rw [reached] at passed
      exact completeChunkPlan_outcome passed

theorem ControlScan.step_outcome {scan : ControlScan} {index : Nat}
    (started : scan.lane ≠ .directArenaCandidate) :
    Outcome Refused (fun next => next.lane ≠ .directArenaCandidate)
      (scan.step imported rawOrdinal index) := by
  unfold ControlScan.step
  dsimp only
  split
  · exact ReplayLane.noConfusion
  · split
    · exact started
    · split
      · exact ReplayLane.noConfusion
      · change (if _ then ReplayLane.inline else scan.lane) ≠ _
        split
        · exact ReplayLane.noConfusion
        · exact started

theorem scanControls_outcome :
    Outcome Refused (fun scan => scan.lane ≠ .directArenaCandidate)
      ((List.range imported.records.length).foldlM
        (fun (scan : ControlScan) index =>
          scan.step imported rawOrdinal index) {}) :=
  @outcome_foldlM_range _ _ _ _
    (fun _ (scan : ControlScan) => scan.lane ≠ .directArenaCandidate) _ _
    ReplayLane.noConfusion fun _ _ _ started =>
      ControlScan.step_outcome started

/-- A chunk for a direct arena has an exact bounded plan. -/
theorem planCpuReadyChunk_exact (sizes : PayloadSizes)
    (imported : ImportedChunkView) (reserved : Bool) (rawOrdinal : Nat)
    (options : CpuReadyPlanOptions)
    (direct : (planCpuReadyChunk sizes imported reserved rawOrdinal
      options).lane = .directArenaCandidate) :
    PlanExact sizes options imported
      (planCpuReadyChunk sizes imported reserved rawOrdinal options) := by
  unfold planCpuReadyChunk at direct ⊢
  have scanned := @scanControls_outcome imported rawOrdinal
  have planned := @planRecords_outcome sizes options imported rawOrdinal
  split at direct
  · exact nomatch direct
  · rename_i accepted
    rw [if_neg accepted]
    split at direct
    · rename_i plan stopped
      rw [stopped] at scanned
      exact absurd direct scanned
    · rename_i scan reached
      rw [reached] at scanned
      split at direct
      · exact absurd direct scanned
      · rename_i uncontrolled
        rw [if_neg uncontrolled]
        split at direct
        · exact nomatch direct
        · rename_i room
          rw [if_neg room]
          split at direct
          · rename_i plan stopped
            rw [stopped] at planned
            exact absurd direct planned
          · rename_i plan complete
            rw [complete] at planned
            exact planned direct

/-- Two draws between state records. -/
def stateDrawsState : ImportedChunkView where
  recordCount := 4
  records :=
    [{ type := .applyState, payloadOffset := 0, payloadSize := 56 },
      { type := .drawPrimitive, payloadOffset := 56, payloadSize := 56 },
      { type := .drawPrimitive, payloadOffset := 112, payloadSize := 56 },
      { type := .applyState, payloadOffset := 168, payloadSize := 56 }]
  handleCount := 0
  payloadArena := ((List.replicate 224 0).set 60 4).set 116 4
  payloadArenaAddress := 4096

def wordSizes : PayloadSizes where
  element := fun _ => 8
  alignment := fun _ => 8
  vertexShaderConstants := 4096
  pixelShaderConstants := 4096
  drawBindingOverride := 64
  drawBindingSnapshot := 64

/-- With three pages for a segment every draw has its own. -/
theorem planCpuReadyChunk_exact_stateDrawsState :
    ((planCpuReadyChunk wordSizes stateDrawsState true 1
        { maxOrdinaryPagesPerSegment := 3 }).segments.map fun segment =>
      (segment.firstRecordIndex, segment.recordCount)) = [(0, 2), (2, 2)] ∧
      PlanExact wordSizes { maxOrdinaryPagesPerSegment := 3 }
        stateDrawsState
        (planCpuReadyChunk wordSizes stateDrawsState true 1
          { maxOrdinaryPagesPerSegment := 3 }) :=
  ⟨by decide +kernel,
    planCpuReadyChunk_exact wordSizes stateDrawsState true 1
      { maxOrdinaryPagesPerSegment := 3 } (by decide +kernel)⟩

end Dxmt9.CpuReady
