import Dxmt9.CpuReady.CapacityDeltas
import Dxmt9.CpuReady.EmissionSegments

/-!
# The pass over the records settles them all

After every record the segments settle the records up to the run that is open,
and an open run is a run of island records as long as possible.  A record can
only stop the pass by an overflow.
-/

namespace Dxmt9.CpuReady

open Fallible Queue

/-- A view that agrees with its own record table and with the rules of its
record types. -/
structure StructurallyValid (imported : ImportedChunkView) : Prop where
  counted : imported.records.length = imported.recordCount.toNat
  agrees : ∀ index < imported.records.length,
    imported.recordAgrees index = true
  fixedPayload : ∀ index < imported.records.length,
    ∃ rule, recordRule (imported.recordType index) = some rule ∧
      rule.fixedPayloadSize ≤ (imported.record index).payload.length
  primitive : ∀ index < imported.records.length,
    imported.recordType index = .drawPrimitive ∨
        imported.recordType index = .drawIndexedPrimitive →
      1 ≤ (imported.record index).drawHeader.primitiveType ∧
        (imported.record index).drawHeader.primitiveType ≤ 6

variable {imported : ImportedChunkView} {index room : Nat}
  {sizes : PayloadSizes} {pass result : EmissionPass}

theorem StructurallyValid.length_lt (valid : StructurallyValid imported) :
    imported.records.length < 2 ^ 32 :=
  valid.counted ▸ imported.recordCount.toNat_lt

theorem StructurallyValid.typed (valid : StructurallyValid imported)
    (inside : index < imported.records.length) :
    (imported.record index).header.type = imported.recordType index := by
  have agrees := valid.agrees index inside
  rw [ImportedChunkView.recordAgrees, Bool.and_eq_true, beq_iff_eq] at agrees
  exact agrees.1

theorem record_eq_decodeRecord {rule : RecordRule}
    (known : recordRule (imported.record index).header.type = some rule) :
    ∃ header payload address,
      imported.record index = decodeRecord header payload address := by
  unfold ImportedChunkView.record at known ⊢
  cases found : imported.records[index]? with
  | none =>
      rw [found] at known
      exact nomatch known
  | some header =>
      rw [found] at known
      dsimp only at known ⊢
      split at known
      · exact nomatch known
      · rename_i readable
        rw [if_neg readable]
        exact ⟨_, _, _, rfl⟩

theorem StructurallyValid.loadDrawHeader_eq
    (valid : StructurallyValid imported)
    (inside : index < imported.records.length)
    (draw : imported.recordType index = .drawPrimitive ∨
      imported.recordType index = .drawIndexedPrimitive) :
    drawHeaderSize ≤ (imported.record index).payload.length ∧
      (imported.record index).drawHeader =
        loadDrawHeader (imported.record index).payload := by
  obtain ⟨rule, known, large⟩ := valid.fixedPayload index inside
  have shape : rule.fixedPayloadSize = drawHeaderSize ∧
      rule.sparseState = true := by
    cases draw with
    | inl plain =>
        rw [plain] at known
        cases known
        exact ⟨rfl, rfl⟩
    | inr indexed =>
        rw [indexed] at known
        cases known
        exact ⟨rfl, rfl⟩
  rw [← valid.typed inside] at known
  rw [shape.1] at large
  obtain ⟨header, payload, address, decoded⟩ := record_eq_decodeRecord known
  rw [decoded] at known large ⊢
  rw [decodeRecord_header] at known
  rw [decodeRecord_payload] at large ⊢
  exact ⟨large, drawHeader_decodeRecord known shape.2 large⟩

theorem castU32_of_lt {value : Nat} (small : value < 2 ^ 32) :
    castU32 value = value :=
  Nat.mod_eq_of_lt small

/-- The totals agree with the segments and the open run. -/
structure PassTotals (pass : EmissionPass) : Prop where
  headers : pass.aggregate .commandHeaders =
    pass.aggregateDrawCount + pass.plan.coordinatorCount
  draws : pass.aggregateDrawCount =
    (pass.plan.segments.map EmissionSegment.drawCount).sum +
      pass.pendingDrawCount
  controls : pass.plan.orderedControlCount = 0 →
    ∀ segment ∈ pass.plan.segments, segment.kind ≠ .orderedControlLocator
  compatibility : pass.plan.compatibilityRecordCount = 0 →
    ∀ segment ∈ pass.plan.segments, segment.kind ≠ .compatibilityRange

variable (imported) in
/-- The segments settle the records up to an index. -/
abbrev Settles (settled : Nat) (segments : List EmissionSegment) : Prop :=
  SegmentsSettled (emissionRecordRole imported) imported.recordType
    imported.records.length settled segments

variable (imported) in
abbrev IsIsland (index : Nat) : Prop :=
  IslandRecord (emissionRecordRole imported) index

variable (imported) in
/-- No run is open and everything before the index is settled. -/
structure PassSettled (index : Nat) (pass : EmissionPass) : Prop where
  shut : pass.pendingOpen = false
  drawless : pass.pendingDrawCount = 0
  settled : Settles imported index pass.plan.segments
  accepted : pass.pushFailed = false
  totals : PassTotals pass

variable (imported) in
/-- The open run holds the island records before the index. -/
structure PendingRun (index : Nat) (pass : EmissionPass) : Prop where
  opened : pass.pendingOpen = true
  begun : pass.pendingFirstRecord ≤ index
  island : ∀ other, pass.pendingFirstRecord ≤ other → other < index →
    IsIsland imported other
  opens : ∀ other, other + 1 = pass.pendingFirstRecord →
    ¬IsIsland imported other
  draws : pass.pendingDrawCount ≠ 0 ↔
    HasDraw (emissionRecordRole imported) pass.pendingFirstRecord index
  few : pass.pendingDrawCount ≤ index - pass.pendingFirstRecord
  settled : Settles imported pass.pendingFirstRecord pass.plan.segments
  accepted : pass.pushFailed = false
  totals : PassTotals pass

variable (imported) in
/-- What holds between two records. -/
inductive PassInvariant (index : Nat) (pass : EmissionPass) : Prop where
  | idle (closed : PassSettled imported index pass)
      (behind : ∀ other, other + 1 = index → ¬IsIsland imported other)
  | running (run : PendingRun imported index pass)
      (nonempty : pass.pendingFirstRecord < index)

theorem push_eq {segment : EmissionSegment}
    (short : pass.plan.segments.length < room) :
    pass.push room segment =
      { pass with
        plan :=
          { pass.plan with segments := pass.plan.segments ++ [segment] } } :=
  if_neg (Nat.ne_of_lt short)

variable (pass result) in
/-- A run closed into a segment; all else as before. -/
structure ClosedBy (segment : EmissionSegment) : Prop where
  segments : result.plan.segments = pass.plan.segments ++ [segment]
  shut : result.pendingOpen = false
  drawless : result.pendingDrawCount = 0
  accepted : result.pushFailed = pass.pushFailed
  aggregate : result.aggregate = pass.aggregate
  draws : result.aggregateDrawCount = pass.aggregateDrawCount
  coordinators : result.plan.coordinatorCount = pass.plan.coordinatorCount
  controls : result.plan.orderedControlCount = pass.plan.orderedControlCount
  compatibility : result.plan.compatibilityRecordCount =
    pass.plan.compatibilityRecordCount

variable {fold : Bool}

theorem closePending_shut (shut : pass.pendingOpen = false)
    (closed : pass.closePending sizes room index fold = some result) :
    result = pass := by
  unfold EmissionPass.closePending at closed
  dsimp only at closed
  rw [shut, if_pos (by rfl)] at closed
  exact (Option.some.inj closed).symm

theorem closePending_opened
    (opened : pass.pendingOpen = true)
    (kept : pass.pendingDrawCount = 0 → fold = false)
    (short : pass.plan.segments.length < room)
    (closed : pass.closePending sizes room index fold = some result) :
    (pass.pendingDrawCount ≠ 0 ∧ ∃ capacity, ClosedBy pass result
        (pass.island (index - pass.pendingFirstRecord) capacity)) ∨
      (pass.pendingDrawCount = 0 ∧ ClosedBy pass result
        (pass.stateRun (index - pass.pendingFirstRecord))) := by
  unfold EmissionPass.closePending at closed
  dsimp only at closed
  rw [opened, if_neg (by decide)] at closed
  by_cases drawless : pass.pendingDrawCount = 0
  · rw [kept drawless, if_neg (by simp), if_neg (not_not.mpr drawless),
      push_eq short] at closed
    rw [← Option.some.inj closed]
    exact Or.inr ⟨drawless, rfl, rfl, rfl, rfl, rfl, rfl, rfl, rfl, rfl⟩
  · rw [if_neg (fun both => drawless both.1), if_pos drawless] at closed
    cases derived : addDerivedDrawCapacity sizes pass.pendingCapacity
      pass.pendingDrawCount with
    | none =>
        rw [derived] at closed
        exact nomatch closed
    | some capacity =>
        rw [derived] at closed
        dsimp only at closed
        rw [push_eq short] at closed
        rw [← Option.some.inj closed]
        exact Or.inl
          ⟨drawless, capacity, rfl, rfl, rfl, rfl, rfl, rfl, rfl, rfl, rfl⟩

section

variable (valid : StructurallyValid imported)
  (roomy : imported.records.length ≤ room)
include valid roomy

theorem PendingRun.closed
    (run : PendingRun imported index pass)
    (nonempty : pass.pendingFirstRecord < index)
    (bounded : index ≤ imported.records.length)
    (ends : index < imported.records.length → ¬IsIsland imported index)
    (free : pass.pendingDrawCount = 0 → index < imported.records.length →
      emissionRecordRole imported index ≠ .compatibilityDraw) (kept : pass.pendingDrawCount = 0 → fold = false)
    (closed : pass.closePending sizes room index fold = some result) :
    PassSettled imported index result := by
  have short : pass.plan.segments.length < room := by
    have few := run.settled.partition.length_le
    omega
  have small := valid.length_lt
  have maximal : IslandRun (emissionRecordRole imported)
      imported.records.length pass.pendingFirstRecord index :=
    ⟨nonempty, bounded, run.island, run.opens, ends⟩
  have first : castU32 pass.pendingFirstRecord = pass.pendingFirstRecord :=
    castU32_of_lt (by omega)
  have count : castU32 (index - pass.pendingFirstRecord) =
      index - pass.pendingFirstRecord := castU32_of_lt (by omega)
  have draws : castU32 pass.pendingDrawCount = pass.pendingDrawCount :=
    castU32_of_lt (by have few := run.few; omega)
  have stop : pass.pendingFirstRecord + (index - pass.pendingFirstRecord) =
      index := by omega
  have closing : ∀ segment, ClosedBy pass result segment →
      segment.firstRecordIndex = pass.pendingFirstRecord →
      segment.recordCount = index - pass.pendingFirstRecord →
      segment.drawCount = pass.pendingDrawCount →
      segment.kind ≠ .orderedControlLocator →
      segment.kind ≠ .compatibilityRange →
      SegmentContents (emissionRecordRole imported) imported.recordType
        imported.records.length segment →
      PassSettled imported index result := by
    intro segment by_ begins counted drawn plain own contents
    refine ⟨by_.shut, by_.drawless, ?_, by_.accepted.trans run.accepted, ?_⟩
    · rw [by_.segments]
      have pushed := run.settled.push _ begins
        (by rw [counted]; omega) contents
        (fun previous _ both => own both.2)
      rw [counted, stop] at pushed
      exact pushed
    · constructor
      · rw [by_.aggregate, by_.draws, by_.coordinators]
        exact run.totals.headers
      · rw [by_.draws, by_.segments, by_.drawless, List.map_append,
          List.sum_append, List.map_singleton, List.sum_singleton, drawn,
          Nat.add_zero]
        exact run.totals.draws
      · rw [by_.controls, by_.segments]
        intro none found member
        cases List.mem_append.mp member with
        | inl earlier => exact run.totals.controls none found earlier
        | inr new => exact List.mem_singleton.mp new ▸ plain
      · rw [by_.compatibility, by_.segments]
        intro none found member
        cases List.mem_append.mp member with
        | inl earlier => exact run.totals.compatibility none found earlier
        | inr new => exact List.mem_singleton.mp new ▸ own
  cases closePending_opened run.opened kept short closed with
  | inl island =>
      obtain ⟨drawn, capacity, by_⟩ := island
      apply closing _ by_ first count draws nofun nofun
      refine .island rfl ?_ ?_ ?_ ?_
      · change IslandRun _ _ (castU32 _) (castU32 _ + castU32 _)
        rw [first, count, stop]
        exact maximal
      · change HasDraw _ (castU32 _) (castU32 _ + castU32 _)
        rw [first, count, stop]
        exact run.draws.mp drawn
      · change castU32 _ ≠ 0
        rw [draws]
        exact drawn
      · change castU32 _ ≤ castU32 _
        rw [draws, count]
        exact run.few
  | inr state =>
      obtain ⟨drawless, by_⟩ := state
      apply closing _ by_ first count drawless.symm nofun nofun
      refine .stateRun rfl ?_ ?_ ?_ rfl
      · change IslandRun _ _ (castU32 _) (castU32 _ + castU32 _)
        rw [first, count, stop]
        exact maximal
      · change ¬HasDraw _ (castU32 _) (castU32 _ + castU32 _)
        rw [first, count, stop]
        exact fun draw => run.draws.mpr draw drawless
      · change castU32 _ + castU32 _ < _ →
          emissionRecordRole imported (castU32 _ + castU32 _) ≠ _
        rw [first, count, stop]
        exact free drawless

theorem PassInvariant.closed
    (invariant : PassInvariant imported index pass)
    (bounded : index ≤ imported.records.length)
    (ends : index < imported.records.length → ¬IsIsland imported index)
    (free : pass.pendingOpen = true → pass.pendingDrawCount = 0 →
      index < imported.records.length →
        emissionRecordRole imported index ≠ .compatibilityDraw)
    (kept : pass.pendingOpen = true → pass.pendingDrawCount = 0 → fold = false)
    (closed : pass.closePending sizes room index fold = some result) :
    PassSettled imported index result := by
  cases invariant with
  | idle settled behind =>
      rw [closePending_shut settled.shut closed]
      exact settled
  | running run nonempty =>
      exact run.closed valid roomy nonempty bounded ends (free run.opened)
        (kept run.opened) closed

end

end Dxmt9.CpuReady
