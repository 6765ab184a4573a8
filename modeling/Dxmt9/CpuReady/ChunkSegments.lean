import Dxmt9.CpuReady.CapacityDeltas
import Dxmt9.CpuReady.ChunkPlan
import Dxmt9.CpuReady.LeaseSpans
import Dxmt9.Queue.Partition

/-!
# The segments of a CPU-ready plan

Segments settle the records up to the one that grows; the growing segment
reaches up to its last command, and only state records are behind it.
-/

namespace Dxmt9.CpuReady

open Fallible Queue

variable (sizes : PayloadSizes) (options : CpuReadyPlanOptions)
  (imported : ImportedChunkView)

/-- What consecutive records need together. -/
def recordTotals (first count : Nat) : Option (SourcePayloadCapacity × Nat) :=
  (List.range' first count).foldlM (addSpanRecord sizes imported)
    (emptyCapacity, 0)

/-- A record that becomes a command of a source. -/
def CommandRecord (index : Nat) : Prop :=
  producesSlotCommand (imported.record index).header.type = true

/-- A record that needs no capacity, whatever is there already. -/
structure StateRecord (index : Nat) : Prop where
  unchanged : ∀ capacity drawCount,
    addDirectRecordCapacity sizes capacity drawCount
        (imported.record index) =
      ⟨.stateOnly, capacity, drawCount⟩
  silent : ¬CommandRecord imported index

/-- Only state records lie between two positions. -/
def Quiet (first stop : Nat) : Prop :=
  ∀ index, first ≤ index → index < stop → StateRecord sizes imported index

abbrev CpuReadySegmentPlan.Holds (segment : CpuReadySegmentPlan)
    (index : Nat) : Prop :=
  Within CpuReadySegmentPlan.firstRecordIndex CpuReadySegmentPlan.recordCount
    segment index

/-- A segment that reserves exactly what its records need. -/
structure SegmentExact (segment : CpuReadySegmentPlan) : Prop where
  command : ∃ index, segment.Holds index ∧ CommandRecord imported index
  capacity : ∃ total, recordTotals sizes imported segment.firstRecordIndex
      segment.recordCount = some total ∧
    addDerivedDrawCapacity sizes total.1 total.2 = some segment.capacity
  layout : makeSourcePayloadLayout sizes segment.capacity options.pageSize
    kMaxU32 = some segment.layout
  ordinary : segment.jumbo = false →
    segment.layout.pageCount ≤ options.maxOrdinaryPagesPerSegment
  jumbo : segment.jumbo = true →
    ∃ index, (segment.Holds index ∧ CommandRecord imported index) ∧
      ∀ other, segment.Holds other → CommandRecord imported other →
        other = index

/-- The last record of a segment is a command. -/
def EndsInCommand (segment : CpuReadySegmentPlan) : Prop :=
  CommandRecord imported (segment.firstRecordIndex + segment.recordCount - 1)

variable {sizes options imported} {index first count : Nat}
  {capacity : SourcePayloadCapacity} {drawCount : Nat}

/-! ## Totals -/

theorem recordTotals_succ :
    recordTotals sizes imported first (count + 1) =
      (recordTotals sizes imported first count).bind fun total =>
        addSpanRecord sizes imported total (first + count) := by
  unfold recordTotals
  rw [List.range'_concat, Nat.one_mul, List.foldlM_append]
  apply bind_congr
  intro total
  rw [List.foldlM_cons]
  exact bind_pure _

variable {stop : Nat}

theorem Quiet.succ (quiet : Quiet sizes imported first stop)
    (state : StateRecord sizes imported stop) :
    Quiet sizes imported first (stop + 1) := by
  intro other behind before
  cases Nat.lt_succ_iff_lt_or_eq.mp before with
  | inl earlier => exact quiet other behind earlier
  | inr last => exact last ▸ state

theorem quiet_empty : Quiet sizes imported first first :=
  fun _ behind before => absurd behind (Nat.not_le.mpr before)

theorem StateRecord.addSpanRecord (state : StateRecord sizes imported index)
    (total : SourcePayloadCapacity × Nat) :
    addSpanRecord sizes imported total index = some total := by
  unfold CpuReady.addSpanRecord
  rw [state.unchanged]

variable {total : SourcePayloadCapacity × Nat}

theorem recordTotals_state {more : Nat}
    (known : recordTotals sizes imported first count = some total)
    (quiet : Quiet sizes imported (first + count) (first + (count + more))) :
    recordTotals sizes imported first (count + more) = some total := by
  induction more with
  | zero => exact known
  | succ more induction =>
      have earlier := induction fun other behind before =>
        quiet other behind (by omega)
      rw [← Nat.add_assoc, recordTotals_succ, earlier]
      exact (quiet (first + (count + more)) (by omega)
        (by omega)).addSpanRecord total

theorem recordTotals_upTo {later : Nat} (ordered : first ≤ stop)
    (known : recordTotals sizes imported first (stop - first) = some total)
    (behind : stop ≤ later) (quiet : Quiet sizes imported stop later) :
    recordTotals sizes imported first (later - first) = some total := by
  obtain ⟨more, rfl⟩ := Nat.exists_eq_add_of_le behind
  have split : stop + more - first = stop - first + more := by omega
  rw [split]
  apply recordTotals_state known
  have start : first + (stop - first) = stop := by omega
  rw [← Nat.add_assoc, start]
  exact quiet

theorem addSpanRecord_of_command
    (command : (addDirectRecordCapacity sizes capacity drawCount
      (imported.record index)).result = .gpuProducing) :
    addSpanRecord sizes imported (capacity, drawCount) index =
      some ((addDirectRecordCapacity sizes capacity drawCount
          (imported.record index)).capacity,
        (addDirectRecordCapacity sizes capacity drawCount
          (imported.record index)).drawCount) := by
  unfold CpuReady.addSpanRecord
  dsimp only
  rw [command]

theorem addCommandCapacity_result (capacity : SourcePayloadCapacity)
    (drawCount : Nat) (region : SourcePayloadRegion)
    (extra : List (SourcePayloadRegion × Nat)) :
    (addCommandCapacity capacity drawCount region extra).result = .overflow ∨
      (addCommandCapacity capacity drawCount region extra).result =
        .gpuProducing := by
  unfold addCommandCapacity
  split
  · exact Or.inl rfl
  · exact Or.inr rfl

variable {record : ImportedRecordView}

theorem addDrawRecordCapacity_ne_stateOnly :
    (addDrawRecordCapacity sizes capacity drawCount record).result ≠
      .stateOnly := by
  intro state
  rcases addDrawRecordCapacity_cases capacity sizes drawCount record with
    invalid | overflow | commands
  · exact nomatch invalid.symm.trans state
  · exact nomatch overflow.symm.trans state
  · exact nomatch commands.result.symm.trans state

theorem addCommandCapacity_ne_stateOnly {region : SourcePayloadRegion}
    {extra : List (SourcePayloadRegion × Nat)} :
    (addCommandCapacity capacity drawCount region extra).result ≠
      .stateOnly := by
  intro state
  cases addCommandCapacity_result capacity drawCount region extra with
  | inl overflow => exact nomatch overflow.symm.trans state
  | inr command => exact nomatch command.symm.trans state

/-- A record that once needed nothing never needs anything. -/
theorem stateRecord_of_result
    (state : (addDirectRecordCapacity sizes capacity drawCount
      (imported.record index)).result = .stateOnly) :
    StateRecord sizes imported index := by
  unfold addDirectRecordCapacity at state
  have quiet : ∀ type, (imported.record index).header.type = type →
      (type = .setVsConstF ∨ type = .setVsConstI ∨ type = .setVsConstB ∨
        type = .setPsConstF ∨ type = .setPsConstI ∨ type = .setPsConstB ∨
        type = .applyState) → StateRecord sizes imported index := by
    intro type typed silent
    constructor
    · intro capacity drawCount
      unfold addDirectRecordCapacity
      rw [typed]
      rcases silent with rfl | rfl | rfl | rfl | rfl | rfl | rfl
      all_goals rfl
    · unfold CommandRecord
      rw [typed]
      rcases silent with rfl | rfl | rfl | rfl | rfl | rfl | rfl
      all_goals decide
  cases typed : (imported.record index).header.type
  all_goals rw [typed] at state
  case clear =>
    dsimp only at state
    split at state
    · exact nomatch state
    · exact absurd state addCommandCapacity_ne_stateOnly
  case present =>
    dsimp only at state
    split at state
    · exact nomatch state
    · exact absurd state addCommandCapacity_ne_stateOnly
  all_goals first
    | exact absurd state addDrawRecordCapacity_ne_stateOnly
    | exact absurd state addCommandCapacity_ne_stateOnly
    | apply quiet _ typed; decide
    | exact nomatch state

theorem commandRecord_of_result
    (command : (addDirectRecordCapacity sizes capacity drawCount
      (imported.record index)).result = .gpuProducing) :
    CommandRecord imported index := by
  unfold addDirectRecordCapacity at command
  unfold CommandRecord
  cases typed : (imported.record index).header.type
  all_goals rw [typed] at command
  all_goals first
    | rfl
    | exact nomatch command

variable {plan appended : CpuReadyPlan} {segment : SegmentAccumulator}
  {jumbo : Bool}

/-- What is appended for a segment. -/
structure AppendedSegment (segment : SegmentAccumulator) (jumbo : Bool)
    (planned : CpuReadySegmentPlan) : Prop where
  ordered : segment.firstRecordIndex ≤ segment.lastRecordIndex
  first : planned.firstRecordIndex = segment.firstRecordIndex
  count : planned.recordCount =
    segment.lastRecordIndex - segment.firstRecordIndex + 1
  jumbo : planned.jumbo = jumbo

theorem appendSegment_some
    (append : appendSegment sizes options plan segment jumbo = some appended) :
    ∃ planned, AppendedSegment segment jumbo planned ∧
      addDerivedDrawCapacity sizes segment.capacity segment.drawCount =
        some planned.capacity ∧
      makeSourcePayloadLayout sizes planned.capacity options.pageSize
        kMaxU32 = some planned.layout ∧
      appended =
        { plan with
          segments := plan.segments ++ [planned]
          segmentCount := plan.segmentCount + 1 } := by
  have bound : kMaxU32 = 2 ^ 32 - 1 := rfl
  unfold appendSegment at append
  split at append
  · exact nomatch append
  · cases derived : addDerivedDrawCapacity sizes segment.capacity
        segment.drawCount with
    | none =>
        rw [derived] at append
        exact nomatch append
    | some capacity =>
        rw [derived] at append
        dsimp only at append
        cases placed : makeSourcePayloadLayout sizes capacity
            options.pageSize kMaxU32 with
        | none =>
            rw [placed] at append
            exact nomatch append
        | some layout =>
            rw [placed] at append
            dsimp only at append
            split at append
            · exact nomatch append
            · rename_i small
              rw [not_or, not_or, Nat.not_lt, Nat.not_lt, Nat.not_le] at small
              refine ⟨_, ⟨small.2.1, ?_, ?_, rfl⟩, rfl, placed,
                (Option.some.inj append).symm⟩
              · exact Nat.mod_eq_of_lt (by omega)
              · exact Nat.mod_eq_of_lt (by omega)

variable {layout : SourcePayloadLayout}

theorem makeSegmentLayout_some
    {pageSize : Nat}
    (laidOut : makeSegmentLayout sizes capacity drawCount pageSize =
      some layout) :
    ∃ derived, addDerivedDrawCapacity sizes capacity drawCount = some derived ∧
      makeSourcePayloadLayout sizes derived pageSize kMaxU32 =
        some layout := by
  unfold makeSegmentLayout at laidOut
  cases added : addDerivedDrawCapacity sizes capacity drawCount with
  | none =>
      rw [added] at laidOut
      exact nomatch laidOut
  | some derived =>
      rw [added] at laidOut
      exact ⟨derived, rfl, laidOut⟩

theorem extend_some
    {extended : SegmentAccumulator}
    (extends_ : segment.extend sizes options record =
      some (extended, layout)) :
    (addDirectRecordCapacity sizes segment.capacity segment.drawCount
        record).result = .gpuProducing ∧
      extended =
        { segment with
          capacity := (addDirectRecordCapacity sizes segment.capacity
            segment.drawCount record).capacity
          drawCount := (addDirectRecordCapacity sizes segment.capacity
            segment.drawCount record).drawCount } ∧
      makeSegmentLayout sizes extended.capacity extended.drawCount
        options.pageSize = some layout := by
  unfold SegmentAccumulator.extend at extends_
  dsimp only at extends_
  split at extends_
  · exact nomatch extends_
  · rename_i command
    obtain ⟨found, placed, equal⟩ := Option.map_eq_some_iff.mp extends_
    rw [Prod.mk.injEq] at equal
    obtain ⟨rfl, rfl⟩ := equal
    exact ⟨not_not.mp command, rfl, placed⟩

end Dxmt9.CpuReady
