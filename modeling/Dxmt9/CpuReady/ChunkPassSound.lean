import Dxmt9.CpuReady.ChunkSegments
import Dxmt9.Fallible.Outcome

/-!
# The pass over the records of a chunk

Before every record the segments that are closed settle the records before the
growing segment, and the growing segment reserves what the records after them
need.  A record either joins the growing segment or closes it and starts
another.
-/

namespace Dxmt9.CpuReady

open Fallible Queue

variable (sizes : PayloadSizes) (options : CpuReadyPlanOptions)
  (imported : ImportedChunkView)

/-- Segments that settle the records before a position. -/
structure SettledSegments (plan : CpuReadyPlan) (size : Nat) : Prop where
  partition : Partitions CpuReadySegmentPlan.firstRecordIndex
    CpuReadySegmentPlan.recordCount plan.segments size
  counted : plan.segmentCount = plan.segments.length
  settled : ∀ segment ∈ plan.segments,
    SegmentExact sizes options imported segment
  ends : ∀ segment ∈ plan.segments, EndsInCommand imported segment

/-- A segment up to its last command, with what its records need. -/
structure SegmentTo (first : Nat) (segment : SegmentAccumulator) :
    Prop where
  active : segment.active = true
  begins : segment.firstRecordIndex = first
  ordered : first ≤ segment.lastRecordIndex
  command : CommandRecord imported segment.lastRecordIndex
  totals : recordTotals sizes imported first
      (segment.lastRecordIndex + 1 - first) =
    some (segment.capacity, segment.drawCount)

/-- A segment within the page limit. -/
def SegmentFits (segment : SegmentAccumulator) : Prop :=
  ∃ layout, makeSegmentLayout sizes segment.capacity segment.drawCount
      options.pageSize = some layout ∧
    layout.pageCount ≤ options.maxOrdinaryPagesPerSegment

/-- The growing segment and the state records behind it. -/
inductive GrowingSegment (first index : Nat) : SegmentAccumulator → Prop where
  | none (quiet : Quiet sizes imported first index) :
      GrowingSegment first index {}
  | upTo {segment : SegmentAccumulator}
      (grows : SegmentTo sizes imported first segment)
      (fits : SegmentFits sizes options segment)
      (before : segment.lastRecordIndex < index)
      (quiet : Quiet sizes imported (segment.lastRecordIndex + 1) index) :
      GrowingSegment first index segment

/-- The pass before the record at an index, apart from the whole raw. -/
structure ChunkPassSettled (index : Nat) (pass : ChunkPass) : Prop where
  settled : SettledSegments sizes options imported pass.plan
    pass.nextSegmentRecordIndex
  before : pass.nextSegmentRecordIndex ≤ index
  current : GrowingSegment sizes options imported
    pass.nextSegmentRecordIndex index pass.current

/-- A segment about to take the record at an index. -/
structure ReachesRecord (first index : Nat) (segment : SegmentAccumulator) :
    Prop where
  active : segment.active = true
  begins : segment.firstRecordIndex = first
  last : segment.lastRecordIndex = index
  ordered : first ≤ index
  totals : recordTotals sizes imported first (index - first) =
    some (segment.capacity, segment.drawCount)

variable {sizes options imported} {first index : Nat}
  {plan appended : CpuReadyPlan} {segment : SegmentAccumulator}
  {pass closed : ChunkPass} {jumbo : Bool}

theorem recordTotals_quiet (ordered : first ≤ index)
    (quiet : Quiet sizes imported first index) :
    recordTotals sizes imported first (index - first) =
      some (emptyCapacity, 0) := by
  have start : recordTotals sizes imported first (first - first) =
      some (emptyCapacity, 0) := by
    rw [Nat.sub_self]
    rfl
  exact recordTotals_upTo (Nat.le_refl first) start ordered quiet

theorem ReachesRecord.extend {extended : SegmentAccumulator}
    {layout : SourcePayloadLayout}
    (reaches : ReachesRecord sizes imported first index segment)
    (extends_ : segment.extend sizes options (imported.record index) =
      some (extended, layout)) :
    SegmentTo sizes imported first extended ∧
      extended.lastRecordIndex = index ∧
      makeSegmentLayout sizes extended.capacity extended.drawCount
        options.pageSize = some layout := by
  obtain ⟨command, rfl, placed⟩ := extend_some extends_
  refine ⟨⟨reaches.active, reaches.begins, ?_, ?_, ?_⟩, reaches.last, placed⟩
  · exact reaches.last.symm ▸ reaches.ordered
  · change CommandRecord imported segment.lastRecordIndex
    rw [reaches.last]
    exact commandRecord_of_result command
  · change recordTotals sizes imported first
      (segment.lastRecordIndex + 1 - first) = _
    rw [reaches.last, Nat.succ_sub reaches.ordered, recordTotals_succ,
      reaches.totals, Option.bind_some, Nat.add_sub_cancel' reaches.ordered]
    exact addSpanRecord_of_command command

theorem GrowingSegment.candidate_reaches
    (current : GrowingSegment sizes options imported
      pass.nextSegmentRecordIndex index pass.current)
    (before : pass.nextSegmentRecordIndex ≤ index) :
    ReachesRecord sizes imported pass.nextSegmentRecordIndex index
      (pass.candidate index) := by
  unfold ChunkPass.candidate
  cases equal : pass.current with
  | mk capacity drawCount firstRecordIndex lastRecordIndex active =>
      rw [equal] at current
      cases current with
      | none quiet =>
          exact ⟨rfl, rfl, rfl, before, recordTotals_quiet before quiet⟩
      | upTo grows fits ended quiet =>
          obtain ⟨started, begins, ordered, command, totals⟩ := grows
          dsimp only at started begins ordered totals ended quiet ⊢
          rw [if_pos started]
          exact ⟨started, begins, rfl, before,
            recordTotals_upTo (by omega) totals ended quiet⟩

theorem SegmentTo.append_exact {final : Nat}
    (grows : SegmentTo sizes imported first segment)
    (behind : segment.lastRecordIndex ≤ final)
    (quiet : Quiet sizes imported (segment.lastRecordIndex + 1) (final + 1))
    (ordinary : jumbo = false → SegmentFits sizes options segment)
    (alone : jumbo = true → Quiet sizes imported first segment.lastRecordIndex)
    (append : appendSegment sizes options plan
      { segment with lastRecordIndex := final } jumbo = some appended) :
    ∃ planned, SegmentExact sizes options imported planned ∧
      planned.firstRecordIndex = first ∧
      planned.firstRecordIndex + planned.recordCount = final + 1 ∧
      0 < planned.recordCount ∧
      appended =
        { plan with
          segments := plan.segments ++ [planned]
          segmentCount := plan.segmentCount + 1 } := by
  obtain ⟨planned, shape, derived, placed, rfl⟩ := appendSegment_some append
  obtain ⟨ordered, begins, count, kind⟩ := shape
  dsimp only at ordered begins count derived
  have started := grows.begins
  have reached := grows.ordered
  have stop : planned.firstRecordIndex + planned.recordCount = final + 1 := by
    omega
  have holdsLast : planned.Holds segment.lastRecordIndex := by
    constructor <;> omega
  have whole : recordTotals sizes imported planned.firstRecordIndex
      planned.recordCount = some (segment.capacity, segment.drawCount) := by
    have total := recordTotals_upTo (by omega) grows.totals
      (Nat.succ_le_succ behind) quiet
    have span : planned.recordCount = final + 1 - first := by omega
    rw [begins, started, span]
    exact total
  refine ⟨planned, ?_, begins.trans started, stop, by omega, rfl⟩
  constructor
  · exact ⟨segment.lastRecordIndex, holdsLast, grows.command⟩
  · exact ⟨_, whole, derived⟩
  · exact placed
  · intro plain
    obtain ⟨layout, laidOut, fits⟩ := ordinary (kind.symm.trans plain)
    obtain ⟨capacity, known, found⟩ := makeSegmentLayout_some laidOut
    rw [derived] at known
    cases known
    rw [placed] at found
    cases found
    exact fits
  · intro large
    refine ⟨segment.lastRecordIndex, ⟨holdsLast, grows.command⟩, ?_⟩
    rintro other ⟨from_, before⟩ command
    rcases Nat.lt_trichotomy other segment.lastRecordIndex with
      earlier | same | later
    · exact absurd command
        (alone (kind.symm.trans large) other (by omega) earlier).silent
    · exact same
    · exact absurd command (quiet other later (by omega)).silent

variable {size : Nat}

theorem SettledSegments.of_same {other : CpuReadyPlan}
    (segments : SettledSegments sizes options imported plan size)
    (same : other.segments = plan.segments)
    (count : other.segmentCount = plan.segmentCount) :
    SettledSegments sizes options imported other size := by
  constructor
  · exact same ▸ segments.partition
  · exact count.trans (segments.counted.trans (congrArg _ same.symm))
  · exact same ▸ segments.settled
  · exact same ▸ segments.ends

/-- Settled segments and one more behind them. -/
theorem SettledSegments.append {planned : CpuReadySegmentPlan}
    (segments : SettledSegments sizes options imported plan
      planned.firstRecordIndex)
    (exact_ : SegmentExact sizes options imported planned)
    (ends : EndsInCommand imported planned)
    (nonempty : 0 < planned.recordCount)
    (stop : planned.firstRecordIndex + planned.recordCount = size) :
    SettledSegments sizes options imported
      { plan with
        segments := plan.segments ++ [planned]
        segmentCount := plan.segmentCount + 1 } size := by
  constructor
  · exact partitions_append_singleton.mpr ⟨segments.partition, nonempty, stop⟩
  · dsimp only
    rw [segments.counted, List.length_append, List.length_singleton]
  · exact List.forall_mem_append.mpr
      ⟨segments.settled, List.forall_mem_singleton.mpr exact_⟩
  · exact List.forall_mem_append.mpr
      ⟨segments.ends, List.forall_mem_singleton.mpr ends⟩

theorem SettledSegments.close
    (segments : SettledSegments sizes options imported plan first)
    (grows : SegmentTo sizes imported first segment)
    (ordinary : jumbo = false → SegmentFits sizes options segment)
    (alone : jumbo = true → Quiet sizes imported first segment.lastRecordIndex)
    (append : appendSegment sizes options plan segment jumbo = some appended) :
    SettledSegments sizes options imported appended
        (segment.lastRecordIndex + 1) ∧
      appended.segments ≠ [] ∧
      appended.capacity = plan.capacity ∧ appended.lane = plan.lane := by
  obtain ⟨planned, exact_, begins, stop, nonempty, rfl⟩ :=
    grows.append_exact (Nat.le_refl _) quiet_empty ordinary alone append
  refine ⟨?_, List.append_ne_nil_of_right_ne_nil _ (List.cons_ne_nil _ _),
    rfl, rfl⟩
  apply SettledSegments.append (begins ▸ segments) exact_ _ nonempty stop
  unfold EndsInCommand
  rw [stop]
  exact grows.command

/-! ## One record -/

/-- A plan that is not for a direct arena. -/
def Refused (plan : CpuReadyPlan) : Prop :=
  plan.lane ≠ .directArenaCandidate

/-- The totals of the whole raw are as they were. -/
structure SameTotals (pass next : ChunkPass) : Prop where
  capacity : next.plan.capacity = pass.plan.capacity
  drawCount : next.totalDrawCount = pass.totalDrawCount

variable {rawOrdinal : Nat}

theorem oversizedFallback_refused :
    Refused (oversizedFallback sizes options imported rawOrdinal) := by
  unfold oversizedFallback
  cases makeDirectSlotCapacity sizes imported options.pageSize with
  | none => exact ReplayLane.noConfusion
  | some found => exact ReplayLane.noConfusion

theorem ChunkPassSettled.closeCurrent
    (settled : ChunkPassSettled sizes options imported index pass)
    (close : pass.closeCurrent sizes options = some closed) :
    SettledSegments sizes options imported closed.plan
        closed.nextSegmentRecordIndex ∧
      closed.nextSegmentRecordIndex ≤ index ∧
      Quiet sizes imported closed.nextSegmentRecordIndex index ∧
      SameTotals pass closed := by
  unfold ChunkPass.closeCurrent at close
  cases equal : pass.current with
  | mk capacity drawCount firstRecordIndex lastRecordIndex active =>
      have current := settled.current
      rw [equal] at close current
      cases current with
      | none quiet =>
          cases close
          exact ⟨settled.settled, settled.before, quiet, rfl, rfl⟩
      | upTo grows fits before quiet =>
          rw [if_pos grows.active] at close
          cases append : appendSegment sizes options pass.plan
              ⟨capacity, drawCount, firstRecordIndex, lastRecordIndex, active⟩
              false with
          | none =>
              rw [append] at close
              exact nomatch close
          | some plan =>
              rw [append] at close
              cases close
              obtain ⟨segments, -, same, -⟩ := settled.settled.close grows
                (fun _ => fits) (fun large : false = true => nomatch large) append
              exact ⟨segments, before, quiet, same, rfl⟩

theorem SettledSegments.startSegment
    (segments : SettledSegments sizes options imported pass.plan
      pass.nextSegmentRecordIndex)
    (before : pass.nextSegmentRecordIndex ≤ index)
    (quiet : Quiet sizes imported pass.nextSegmentRecordIndex index) :
    Outcome Refused
      (fun next => ChunkPassSettled sizes options imported (index + 1) next ∧
        SameTotals pass next)
      (pass.startSegment sizes options imported rawOrdinal index) := by
  unfold ChunkPass.startSegment
  dsimp only
  have reaches : ReachesRecord sizes imported pass.nextSegmentRecordIndex index
      { firstRecordIndex := pass.nextSegmentRecordIndex
        lastRecordIndex := index
        active := true } :=
    ⟨rfl, rfl, rfl, before, recordTotals_quiet before quiet⟩
  split
  · exact ReplayLane.noConfusion
  · rename_i indivisible layout extended
    obtain ⟨grows, last, placed⟩ := reaches.extend extended
    have empty : Quiet sizes imported (indivisible.lastRecordIndex + 1)
        (index + 1) := last ▸ quiet_empty
    split
    · split
      · exact oversizedFallback_refused
      · split
        · exact oversizedFallback_refused
        · rename_i plan append
          obtain ⟨settled, -, same, -⟩ := segments.close grows
            (fun plain : true = false => nomatch plain) (fun _ => last ▸ quiet)
            append
          rw [last] at settled
          exact ⟨⟨settled.of_same rfl rfl, Nat.le_refl _,
            .none quiet_empty⟩, same, rfl⟩
    · rename_i fits
      refine ⟨⟨segments.of_same rfl rfl, Nat.le_succ_of_le before, ?_⟩,
        rfl, rfl⟩
      exact .upTo grows ⟨layout, placed, Nat.not_lt.mp fits⟩
        (last ▸ Nat.lt_succ_self _) empty

theorem ChunkPassSettled.growSegment
    (settled : ChunkPassSettled sizes options imported index pass) :
    Outcome Refused
      (fun next => ChunkPassSettled sizes options imported (index + 1) next ∧
        SameTotals pass next)
      (pass.growSegment sizes options imported rawOrdinal index) := by
  unfold ChunkPass.growSegment
  have reaches := settled.current.candidate_reaches settled.before
  split
  · exact ReplayLane.noConfusion
  · rename_i candidate layout extended
    obtain ⟨grows, last, placed⟩ := reaches.extend extended
    split
    · rename_i fits
      refine ⟨⟨settled.settled.of_same rfl rfl,
        Nat.le_succ_of_le settled.before, ?_⟩, rfl, rfl⟩
      exact .upTo grows ⟨layout, placed, fits⟩ (last ▸ Nat.lt_succ_self _)
        (last ▸ quiet_empty)
    · split
      · exact oversizedFallback_refused
      · rename_i closed close
        obtain ⟨segments, before, quiet, same⟩ := settled.closeCurrent close
        apply (segments.startSegment before quiet).mono
        rintro next ⟨kept, sameNext⟩
        exact ⟨kept, sameNext.capacity.trans same.capacity,
          sameNext.drawCount.trans same.drawCount⟩

/-- The pass before the record at an index. -/
structure ChunkPassExact (sizes : PayloadSizes) (options : CpuReadyPlanOptions)
    (imported : ImportedChunkView) (index : Nat) (pass : ChunkPass) : Prop
    extends ChunkPassSettled sizes options imported index pass where
  whole : recordTotals sizes imported 0 index =
    some (pass.plan.capacity, pass.totalDrawCount)

theorem GrowingSegment.state
    (current : GrowingSegment sizes options imported first index segment)
    (state : StateRecord sizes imported index) :
    GrowingSegment sizes options imported first (index + 1) segment := by
  cases current with
  | none quiet => exact .none (quiet.succ state)
  | upTo grows fits before quiet =>
      exact .upTo grows fits (Nat.lt_succ_of_lt before) (quiet.succ state)

section

variable (exact_ : ChunkPassExact sizes options imported index pass)
include exact_

theorem ChunkPassExact.addRecord :
    Outcome Refused (ChunkPassExact sizes options imported (index + 1))
      (pass.addRecord sizes options imported rawOrdinal index) := by
  unfold ChunkPass.addRecord
  dsimp only
  have counts : recordTotals sizes imported 0 (index + 1) =
      addSpanRecord sizes imported
        (pass.plan.capacity, pass.totalDrawCount) index := by
    rw [recordTotals_succ, exact_.whole, Option.bind_some, Nat.zero_add]
  split
  · exact ReplayLane.noConfusion
  · exact ReplayLane.noConfusion
  · exact ReplayLane.noConfusion
  · rename_i result
    have state : StateRecord sizes imported index :=
      stateRecord_of_result result
    rw [state.unchanged]
    exact ⟨⟨exact_.settled, Nat.le_succ_of_le exact_.before,
      exact_.current.state state⟩, counts.trans (state.addSpanRecord _)⟩
  · rename_i result
    have settled : ChunkPassSettled sizes options imported index
        (pass.withTotals (addDirectRecordCapacity sizes pass.plan.capacity
            pass.totalDrawCount (imported.record index)).capacity
          (addDirectRecordCapacity sizes pass.plan.capacity
            pass.totalDrawCount (imported.record index)).drawCount) := by
      constructor
      · exact exact_.settled.of_same rfl rfl
      · exact exact_.before
      · exact exact_.current
    apply settled.growSegment.mono
    rintro next ⟨kept, same⟩
    refine ⟨kept, ?_⟩
    rw [counts, addSpanRecord_of_command result, same.capacity, same.drawCount]
    rfl

theorem ChunkPassExact.step :
    Outcome Refused (ChunkPassExact sizes options imported (index + 1))
      (pass.step sizes options imported rawOrdinal index) := by
  unfold ChunkPass.step
  split
  · exact ReplayLane.noConfusion
  · split
    · split
      · exact ReplayLane.noConfusion
      · apply ChunkPassExact.addRecord
        exact ⟨⟨exact_.settled, exact_.before, exact_.current⟩, exact_.whole⟩
    · exact exact_.addRecord

end

theorem chunkPassExact_start {rawOrdinal : Nat} :
    ChunkPassExact sizes options imported 0
      { plan :=
          { rawOrdinal := rawOrdinal
            lane := .directArenaCandidate
            reason := .eligible } } := by
  refine ⟨⟨⟨partitions_nil, rfl, ?_, ?_⟩, Nat.le_refl 0,
    .none quiet_empty⟩, rfl⟩
  · exact fun segment member => nomatch member
  · exact fun segment member => nomatch member

end Dxmt9.CpuReady
