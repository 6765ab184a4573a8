import Dxmt9.CpuReady.EmissionPlan
import Dxmt9.Fallible.Outcome

/-!
# What capacity deltas contain

A draw takes one command header and counts one draw, every other command takes
one header, and a state record takes nothing.
-/

namespace Dxmt9.CpuReady

open Fallible

variable {capacity added total : SourcePayloadCapacity}
  {region : SourcePayloadRegion}

variable {value : Nat}

theorem addCount_some {target sum : Nat}
    (counted : addCount target value = some sum) : sum = target + value := by
  unfold addCount at counted
  split at counted
  · exact nomatch counted
  · exact (Option.some.inj counted).symm

theorem SourcePayloadCapacity.addCount_some
    (counted : capacity.addCount region value = some added) :
    added = Function.update capacity region (capacity region + value) := by
  obtain ⟨sum, summed, rfl⟩ := Option.map_eq_some_iff.mp counted
  rw [CpuReady.addCount_some summed]

/-- Ones added to regions: each region grows by as often as it is listed. -/
theorem SourcePayloadCapacity.addOnes_some
    {regions : List SourcePayloadRegion}
    (counted : capacity.addOnes regions = some added) :
    added region = capacity region + regions.count region := by
  induction regions generalizing capacity with
  | nil =>
      rw [← Option.some.inj counted, List.count_nil, Nat.add_zero]
  | cons head tail induction =>
      unfold SourcePayloadCapacity.addOnes at counted
      cases one : capacity.addCount head 1 with
      | none =>
          rw [one] at counted
          exact nomatch counted
      | some next =>
          rw [one] at counted
          rw [induction counted, SourcePayloadCapacity.addCount_some one,
            List.count_cons]
          by_cases same : head = region
          · subst same
            rw [Function.update_self, if_pos (beq_self_eq_true head)]
            omega
          · rw [Function.update_of_ne (Ne.symm same),
              if_neg (by simpa using same)]
            omega

theorem SourcePayloadCapacity.addDrawPayload_some {byteCount : Nat}
    (appended : capacity.addDrawPayload byteCount = some added)
    (other : region ≠ .drawPayloadBytes) :
    added region = capacity region := by
  obtain ⟨sum, summed, rfl⟩ := Option.map_eq_some_iff.mp appended
  exact Function.update_of_ne other sum capacity

variable {draw : WireDrawHeader}

theorem addSectionCapacity_some {record : ImportedRecordView} {index : Nat}
    (appended : addSectionCapacity record draw capacity index = some added)
    (other : region ≠ .drawPayloadBytes) :
    added region = capacity region := by
  unfold addSectionCapacity at appended
  dsimp only at appended
  split at appended
  · exact nomatch appended
  · split at appended
    · exact SourcePayloadCapacity.addDrawPayload_some appended other
    · rw [← Option.some.inj appended]

theorem addTriangleFanPayloadCapacity_some {record : ImportedRecordView}
    (appended : addTriangleFanPayloadCapacity capacity record draw =
      some added)
    (other : region ≠ .drawPayloadBytes) :
    added region = capacity region := by
  unfold addTriangleFanPayloadCapacity at appended
  split at appended
  · exact nomatch appended
  · split at appended
    · exact nomatch appended
    · split at appended
      · exact nomatch appended
      · split at appended
        · rw [← Option.some.inj appended]
        · exact SourcePayloadCapacity.addDrawPayload_some appended other

theorem expandTriangleFan_some {record : ImportedRecordView}
    (appended : expandTriangleFan capacity record draw = some added)
    (other : region ≠ .drawPayloadBytes) :
    added region = capacity region := by
  unfold expandTriangleFan at appended
  split at appended
  · rw [← Option.some.inj appended]
  · exact addTriangleFanPayloadCapacity_some appended other

theorem addDrawCapacities_some {sizes : PayloadSizes}
    {record : ImportedRecordView}
    (appended : addDrawCapacities sizes capacity record draw = some added)
    (other : region ≠ .drawPayloadBytes) :
    added region = capacity region + drawRegions.count region := by
  obtain ⟨counted, ones, appended⟩ := Option.bind_eq_some_iff.mp appended
  obtain ⟨sectioned, sections, appended⟩ := Option.bind_eq_some_iff.mp appended
  obtain ⟨expanded, fan, appended⟩ := Option.bind_eq_some_iff.mp appended
  obtain ⟨overridden, first, second⟩ := Option.bind_eq_some_iff.mp appended
  have kept : sectioned region = counted region := by
    apply foldlM_some_relation
      (fun before after : SourcePayloadCapacity =>
        after region = before region) (fun _ => rfl)
      (fun earlier later => later.trans earlier) ?_ sections
    intro state index next stepped
    exact addSectionCapacity_some stepped other
  rw [SourcePayloadCapacity.addDrawPayload_some second other,
    SourcePayloadCapacity.addDrawPayload_some first other,
    expandTriangleFan_some fan other, kept,
    SourcePayloadCapacity.addOnes_some ones]

variable {sizes : PayloadSizes} {drawCount : Nat} {record : ImportedRecordView}

/-- One command header more, and some draws. -/
structure RecordCapacityDelta.Commands (delta : RecordCapacityDelta)
    (capacity : SourcePayloadCapacity) (drawCount draws : Nat) : Prop where
  result : delta.result = .gpuProducing
  header : delta.capacity .commandHeaders = capacity .commandHeaders + 1
  draws : delta.drawCount = drawCount + draws

variable (sizes capacity drawCount record) in
theorem addDrawRecordCapacity_cases :
    (addDrawRecordCapacity sizes capacity drawCount record).result = .invalid ∨
      (addDrawRecordCapacity sizes capacity drawCount record).result =
        .overflow ∨
      (addDrawRecordCapacity sizes capacity drawCount record).Commands
        capacity drawCount 1 := by
  unfold addDrawRecordCapacity
  dsimp only
  split
  · exact Or.inl rfl
  · cases appended : addDrawCapacities sizes capacity record
      (loadDrawHeader record.payload) with
    | none => exact Or.inr (Or.inl rfl)
    | some added =>
        cases counted : addCount drawCount 1 with
        | none => exact Or.inr (Or.inl rfl)
        | some count =>
            refine Or.inr (Or.inr ⟨rfl, ?_, addCount_some counted⟩)
            exact addDrawCapacities_some appended (by decide)

theorem addDrawRecordCapacity_valid
    (large : drawHeaderSize ≤ record.payload.length)
    (least : 1 ≤ (loadDrawHeader record.payload).primitiveType)
    (most : (loadDrawHeader record.payload).primitiveType ≤ 6) :
    (addDrawRecordCapacity sizes capacity drawCount record).result ≠
      .invalid := by
  unfold addDrawRecordCapacity
  dsimp only
  rw [if_neg]
  · split
    · exact nofun
    · exact nofun
  · rintro (small | below | above)
    · exact Nat.not_lt.mpr large small
    · exact UInt32.not_lt.mpr least below
    · exact UInt32.not_lt.mpr most above

theorem addCommandCapacity_cases
    {extra : List (SourcePayloadRegion × Nat)}
    (own : region ≠ .commandHeaders)
    (further : ∀ entry ∈ extra, entry.1 ≠ .commandHeaders) :
    (addCommandCapacity capacity drawCount region extra).result = .overflow ∨
      (addCommandCapacity capacity drawCount region extra).Commands capacity
        drawCount 0 := by
  unfold addCommandCapacity
  split
  · exact Or.inl rfl
  · rename_i final reached
    obtain ⟨counted, ones, extended⟩ := Option.bind_eq_some_iff.mp reached
    refine Or.inr ⟨rfl, ?_, rfl⟩
    have header : counted .commandHeaders = capacity .commandHeaders + 1 := by
      rw [SourcePayloadCapacity.addOnes_some ones]
      simp [own]
    have kept : final .commandHeaders = counted .commandHeaders := by
      clear ones header reached
      induction extra generalizing counted with
      | nil => rw [← Option.some.inj extended]
      | cons entry rest induction =>
          rw [List.foldlM_cons] at extended
          obtain ⟨next, stepped, continued⟩ :=
            Option.bind_eq_some_iff.mp extended
          rw [induction (fun later member => further later
              (List.mem_cons_of_mem entry member)) next continued,
            SourcePayloadCapacity.addCount_some stepped]
          exact Function.update_of_ne
            (further entry (List.mem_cons_self ..)).symm _ _
    exact kept.trans header

variable {imported : ImportedChunkView} {index : Nat}

theorem emissionRecordRole_eq :
    emissionRecordRole imported index =
      match imported.recordType index with
      | .drawPrimitive | .drawIndexedPrimitive =>
          if directDrawRecordSupported imported index then .islandDraw
          else .compatibilityDraw
      | .setVsConstF | .setVsConstI | .setVsConstB | .setPsConstF
      | .setPsConstI | .setPsConstB | .applyState => .islandStateOnly
      | .clear | .present | .stretchRect | .colorFill | .updateSurface
      | .reszDepthResolve | .generateMipmaps => .coordinator
      | .updateTexture | .queryIssue | .readback => .orderedControl
      | .drawPrimitiveUp | .drawIndexedPrimitiveUp => .compatibilityDraw
      | .other _ => .unknown := by
  unfold emissionRecordRole
  cases imported.recordType index
  all_goals rfl

theorem directDraw_of_role
    (draw : emissionRecordRole imported index = .islandDraw) :
    imported.recordType index = .drawPrimitive ∨
      imported.recordType index = .drawIndexedPrimitive := by
  rw [emissionRecordRole_eq] at draw
  cases type : imported.recordType index
  all_goals rw [type] at draw
  case drawPrimitive => exact Or.inl rfl
  case drawIndexedPrimitive => exact Or.inr rfl
  all_goals exact nomatch draw

section

variable (typed : record.header.type = imported.recordType index)
include typed

theorem islandDraw_delta
    (draw : emissionRecordRole imported index = .islandDraw) :
    addDirectRecordCapacity sizes capacity drawCount record =
      addDrawRecordCapacity sizes capacity drawCount record := by
  unfold addDirectRecordCapacity
  rw [typed]
  cases directDraw_of_role draw with
  | inl plain => rw [plain]
  | inr indexed => rw [indexed]

theorem islandStateOnly_delta
    (state : emissionRecordRole imported index = .islandStateOnly) :
    addDirectRecordCapacity sizes capacity drawCount record =
      ⟨.stateOnly, capacity, drawCount⟩ := by
  unfold addDirectRecordCapacity
  rw [emissionRecordRole_eq] at state
  rw [typed]
  cases type : imported.recordType index
  all_goals rw [type] at state
  case drawPrimitive =>
    dsimp only at state
    split at state
    · exact nomatch state
    · exact nomatch state
  case drawIndexedPrimitive =>
    dsimp only at state
    split at state
    · exact nomatch state
    · exact nomatch state
  all_goals first | rfl | exact nomatch state

end

variable (sizes capacity drawCount) in
theorem coordinator_delta
    (typed : record.header.type = imported.recordType index)
    (coordinator : emissionRecordRole imported index = .coordinator) :
    ((∃ rule, recordRule record.header.type = some rule ∧
        record.payload.length < rule.fixedPayloadSize) ∨
      (addDirectRecordCapacity sizes capacity drawCount record).result =
        .overflow ∨
      (addDirectRecordCapacity sizes capacity drawCount record).Commands
        capacity drawCount 0) := by
  unfold addDirectRecordCapacity
  rw [emissionRecordRole_eq] at coordinator
  rw [typed]
  cases type : imported.recordType index
  all_goals rw [type] at coordinator
  case drawPrimitive =>
    dsimp only at coordinator
    split at coordinator
    · exact nomatch coordinator
    · exact nomatch coordinator
  case drawIndexedPrimitive =>
    dsimp only at coordinator
    split at coordinator
    · exact nomatch coordinator
    · exact nomatch coordinator
  case clear =>
    dsimp only
    split
    · rename_i small
      exact Or.inl ⟨_, rfl, small⟩
    · exact Or.inr (addCommandCapacity_cases (by decide) (by simp))
  case present =>
    dsimp only
    split
    · rename_i small
      exact Or.inl ⟨_, rfl, small⟩
    · exact Or.inr (addCommandCapacity_cases (by decide) (by simp))
  all_goals first
    | exact Or.inr (addCommandCapacity_cases (by decide) (by simp))
    | exact nomatch coordinator

end Dxmt9.CpuReady
