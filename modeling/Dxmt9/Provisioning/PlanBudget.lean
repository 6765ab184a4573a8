import Mathlib.Tactic.Ring
import Dxmt9.Provisioning.ProvisionPlan

/-!
# What a provisioning plan reserves

A plan reserves at least what its source needs, and a source below the draw
ceiling gets a plan inside the byte budget.
-/

namespace Dxmt9.Provisioning

open Dxmt9.CpuReady

variable {sizes : PayloadSizes} {extra : SourcePayloadCapacity}
  {budget : DirectSlotProvisionBudget}

theorem le_lookupBucketLoop (target steps bucketCount : Nat) :
    bucketCount ≤ lookupBucketLoop target steps bucketCount := by
  induction steps generalizing bucketCount with
  | zero => exact Nat.le_refl _
  | succ steps induction =>
      rw [lookupBucketLoop]
      split
      · exact Nat.le_trans (Nat.le_mul_of_pos_right _ Nat.two_pos)
          (induction (bucketCount * 2))
      · exact Nat.le_refl _

variable {low high : Nat}

theorem lookupBucketLoop_mono (below : low ≤ high)
    (steps bucketCount : Nat) :
    lookupBucketLoop low steps bucketCount ≤
      lookupBucketLoop high steps bucketCount := by
  induction steps generalizing bucketCount with
  | zero => exact Nat.le_refl _
  | succ steps induction =>
      rw [lookupBucketLoop]
      split
      · rename_i more
        rw [lookupBucketLoop, if_pos ⟨Nat.lt_of_lt_of_le more.1 below, more.2⟩]
        exact induction (bucketCount * 2)
      · exact le_lookupBucketLoop high (steps + 1) bucketCount

theorem lookupBucketLoop_le {target bound : Nat}
    (enough : 2 * target ≤ bound) (steps : Nat) {bucketCount : Nat}
    (start : bucketCount ≤ bound) :
    lookupBucketLoop target steps bucketCount ≤ bound := by
  induction steps generalizing bucketCount with
  | zero => exact start
  | succ steps induction =>
      rw [lookupBucketLoop]
      split
      · rename_i more
        apply induction
        omega
      · exact start

theorem bucketCount_mono (below : low ≤ high) :
    chunkSlotUniformLookupBucketCount low ≤
      chunkSlotUniformLookupBucketCount high := by
  apply lookupBucketLoop_mono
  have word : kMaxU32 = 2 ^ 32 - 1 := rfl
  split <;> split <;> omega

/-- A table of two draws or more has at most four buckets for each. -/
theorem bucketCount_le {draws : Nat} (several : 2 ≤ draws) :
    chunkSlotUniformLookupBucketCount draws ≤ 4 * draws := by
  have word : kMaxU32 = 2 ^ 32 - 1 := rfl
  apply lookupBucketLoop_le
  · split <;> omega
  · omega

/-! ## Coordinator rows -/

theorem le_lifted (value floorValue : Nat) :
    value ≤ (if value < floorValue then floorValue else value) ∧
      floorValue ≤ (if value < floorValue then floorValue else value) := by
  split
  · rename_i low
    exact ⟨Nat.le_of_lt low, Nat.le_refl _⟩
  · rename_i enough
    exact ⟨Nat.le_refl _, Nat.not_lt.mp enough⟩

variable {value : Nat}

theorem le_directSlotSaturatingMul {factor : Nat}
    (small : value ≤ kMaxSize) (positive : factor ≠ 0) :
    value ≤ directSlotSaturatingMul value factor := by
  unfold directSlotSaturatingMul
  split
  · rename_i none
    exact Nat.le_of_eq (none.resolve_right positive)
  · split
    · exact small
    · exact Nat.le_mul_of_pos_right value (Nat.pos_of_ne_zero positive)

theorem le_directSlotProvisionCoordinator {scale : Nat}
    (floorValue : Nat) (small : value ≤ kMaxSize) (positive : scale ≠ 0) :
    value ≤ directSlotProvisionCoordinator value scale floorValue := by
  exact Nat.le_trans (le_directSlotSaturatingMul small positive)
    (le_lifted _ _).1

theorem DirectSlotProvisionBudget.scale_ne_zero
    (enabled : budget.enabled = true) : budget.coordinatorScale ≠ 0 := by
  unfold DirectSlotProvisionBudget.enabled at enabled
  rw [Bool.and_eq_true, Bool.and_eq_true, bne_iff_ne] at enabled
  exact enabled.1.1

/-- The regions that coordinator rows are provisioned in. -/
def coordinatorRegions : List SourcePayloadRegion :=
  [.clearRecords, .clearRects, .surfaceCopyRecords, .stretchRectRecords,
    .colorFillRecords, .depthResolveRecords, .generateMipmapsRecords,
    .presentRecords]

theorem ExactCapacity.small (exact : ExactCapacity sizes extra)
    (region : SourcePayloadRegion) : extra region ≤ kMaxSize :=
  Nat.le_trans (exact.counted region) (by decide)

variable {draws headers payload : Nat}

section

variable (exact : ExactCapacity sizes extra) (enabled : budget.enabled = true)
include exact enabled

theorem ExactCapacity.le_coordinator {region : SourcePayloadRegion}
    (member : region ∈ coordinatorRegions) :
    extra region ≤ plannedRows extra draws headers payload
      (directSlotProvisionCoordinatorPlan extra budget) region := by
  have positive := budget.scale_ne_zero enabled
  have rows := fun floorValue region =>
    le_directSlotProvisionCoordinator floorValue (exact.small region) positive
  have scale : (if budget.enabled = true then budget.coordinatorScale
      else 1) = budget.coordinatorScale := if_pos enabled
  simp only [coordinatorRegions, List.mem_cons, List.not_mem_nil,
    or_false] at member
  rcases member with rfl | rfl | rfl | rfl | rfl | rfl | rfl | rfl <;>
    simp only [plannedRows, directSlotProvisionCoordinatorPlan, scale] <;>
    exact rows _ _

theorem ExactCapacity.le_records :
    coordinatorRecords extra ≤
      (directSlotProvisionCoordinatorPlan extra budget).records := by
  have rows := fun region member =>
    @ExactCapacity.le_coordinator _ _ _ 0 0 0 exact enabled region member
  apply Nat.add_le_add (rows .clearRecords (by decide))
  apply Nat.add_le_add (rows .surfaceCopyRecords (by decide))
  apply Nat.add_le_add (rows .stretchRectRecords (by decide))
  apply Nat.add_le_add (rows .colorFillRecords (by decide))
  apply Nat.add_le_add (rows .depthResolveRecords (by decide))
  apply Nat.add_le_add (rows .generateMipmapsRecords (by decide))
  exact Nat.add_le_add (rows .presentRecords (by decide)) (Nat.le_refl 0)

end

theorem exact_le_drawBudget :
    extra .drawParams ≤ directSlotProvisionDrawBudget sizes extra budget := by
  unfold directSlotProvisionDrawBudget
  dsimp only
  split
  · exact Nat.le_refl _
  · split
    · exact Nat.le_refl _
    · rename_i above
      exact Nat.le_of_lt (Nat.not_le.mp above)

theorem le_provisionedPayloadBytes :
    extra .drawPayloadBytes ≤ provisionedPayloadBytes extra draws := by
  exact (le_lifted _ _).2

/-- A plan reserves at least what its source needs. -/
theorem ExactCapacity.le_plan (exact : ExactCapacity sizes extra)
    (enabled : budget.enabled = true) (region : SourcePayloadRegion) :
    extra region ≤ directSlotProvisionPlan sizes extra budget region := by
  have draws : extra .drawParams ≤
      directSlotProvisionDrawBudget sizes extra budget := exact_le_drawBudget
  have buckets := bucketCount_mono draws
  have derived := fun region => congrFun exact.derived region
  have rows := fun region member =>
    @ExactCapacity.le_coordinator _ _ _
      (directSlotProvisionDrawBudget sizes extra budget)
      (directSlotProvisionDrawBudget sizes extra budget +
        (directSlotProvisionCoordinatorPlan extra budget).records)
      (provisionedPayloadBytes extra
        (directSlotProvisionDrawBudget sizes extra budget))
      exact enabled region member
  have perDraw : ∀ region ∈ perDrawRegions, extra region ≤
      directSlotProvisionDrawBudget sizes extra budget := by
    intro region member
    rw [exact.draws region member]
    exact draws
  unfold directSlotProvisionPlan
  cases region with
  | commandHeaders =>
      exact (le_lifted _ _).2
  | drawHotStates => exact perDraw _ (by decide)
  | drawShaderLayouts => exact perDraw _ (by decide)
  | drawDebugSnapshots => exact perDraw _ (by decide)
  | drawPsoSubviews => exact perDraw _ (by decide)
  | drawUniformFixedPayloads => exact perDraw _ (by decide)
  | drawUniformVertexConstants => exact perDraw _ (by decide)
  | drawUniformPixelConstants => exact perDraw _ (by decide)
  | drawUniformPayloads => exact perDraw _ (by decide)
  | drawParams => exact draws
  | drawRunRecords => exact perDraw _ (by decide)
  | drawUniformVertexConstantBytes =>
      rw [derived]
      exact Nat.mul_le_mul_right _ draws
  | drawUniformPixelConstantBytes =>
      rw [derived]
      exact Nat.mul_le_mul_right _ draws
  | drawUniformPayloadLookupHeads => rw [derived]; exact buckets
  | drawUniformPayloadLookupTails => rw [derived]; exact buckets
  | drawUniformPayloadLookupNext => rw [derived]; exact draws
  | drawUniformVertexConstantsLookupHeads => rw [derived]; exact buckets
  | drawUniformVertexConstantsLookupTails => rw [derived]; exact buckets
  | drawUniformVertexConstantsLookupNext => rw [derived]; exact draws
  | drawUniformPixelConstantsLookupHeads => rw [derived]; exact buckets
  | drawUniformPixelConstantsLookupTails => rw [derived]; exact buckets
  | drawUniformPixelConstantsLookupNext => rw [derived]; exact draws
  | drawPayloadBytes => exact le_provisionedPayloadBytes
  | readbackRecords => exact Nat.le_of_eq exact.readbacks
  | clearRecords => exact rows .clearRecords (by decide)
  | clearRects => exact rows .clearRects (by decide)
  | surfaceCopyRecords => exact rows .surfaceCopyRecords (by decide)
  | stretchRectRecords => exact rows .stretchRectRecords (by decide)
  | colorFillRecords => exact rows .colorFillRecords (by decide)
  | depthResolveRecords => exact rows .depthResolveRecords (by decide)
  | generateMipmapsRecords => exact rows .generateMipmapsRecords (by decide)
  | presentRecords => exact rows .presentRecords (by decide)

theorem plan_derived : directSlotProvisionPlan sizes extra budget =
    applyDerivedDrawCapacity sizes
      (directSlotProvisionPlan sizes extra budget)
      (directSlotProvisionPlan sizes extra budget .drawParams) := by
  funext region
  cases region <;> rfl

/-! ## Bytes -/

/-- The bytes of the records, constants and chain links of one draw, without
its header and its lookup tables. -/
def drawRecordBytes (sizes : PayloadSizes) : Nat :=
  sizes.element .drawHotStates + sizes.element .drawShaderLayouts +
    sizes.element .drawDebugSnapshots + sizes.element .drawPsoSubviews +
    sizes.element .drawUniformFixedPayloads +
    sizes.element .drawUniformVertexConstants +
    sizes.vertexShaderConstants + sizes.element .drawUniformPixelConstants +
    sizes.pixelShaderConstants + sizes.element .drawUniformPayloads +
    sizes.element .drawParams + sizes.element .drawRunRecords + 12

theorem worstCase_eq : kDirectSlotWorstCaseBytesPerDraw sizes =
    sizes.element .commandHeaders + drawRecordBytes sizes + 96 := by
  unfold kDirectSlotWorstCaseBytesPerDraw drawRecordBytes
  ring

/-- The bytes of the coordinator rows without their headers. -/
def coordinatorRowBytes (sizes : PayloadSizes)
    (coordinator : DirectSlotProvisionCoordinatorPlan) : Nat :=
  bytesOf (coordinatorPrices sizes coordinator)

variable {coordinator : DirectSlotProvisionCoordinatorPlan}

theorem coordinatorBytes_eq :
    directSlotProvisionCoordinatorBytes sizes coordinator =
      coordinatorRowBytes sizes coordinator +
        coordinator.records * sizes.element .commandHeaders := by
  unfold directSlotProvisionCoordinatorBytes coordinatorRowBytes bytesOf
  rw [List.map_append, List.sum_append]
  rfl

/-- What some number of draws take beside their headers. -/
def drawBytes (sizes : PayloadSizes) (draws payload : Nat) : Nat :=
  draws * drawRecordBytes sizes + payload +
    chunkSlotUniformLookupBucketCount draws * 24

theorem retainedBytes_rows :
    directSlotProvisionRetainedBytes sizes
        (applyDerivedDrawCapacity sizes
          (plannedRows extra draws headers payload coordinator) draws) =
      plannedRows extra draws headers payload coordinator .commandHeaders *
          sizes.element .commandHeaders +
        drawBytes sizes draws payload +
        coordinatorRowBytes sizes coordinator := by
  simp only [directSlotProvisionRetainedBytes, retainedPrices, stagedRegions,
    bytesOf, coordinatorRowBytes, coordinatorPrices, drawBytes,
    drawRecordBytes, List.map_cons, List.map_nil, List.sum_cons,
    List.sum_nil, applyDerivedDrawCapacity, plannedRows, regionElementSize]
  ring

section

variable (exact : ExactCapacity sizes extra) (enabled : budget.enabled = true)
include exact enabled

theorem ExactCapacity.headers_planned
    (enough : extra .drawParams ≤ draws) :
    plannedRows extra draws
        (draws + (directSlotProvisionCoordinatorPlan extra budget).records)
        payload (directSlotProvisionCoordinatorPlan extra budget)
        .commandHeaders =
      draws + (directSlotProvisionCoordinatorPlan extra budget).records := by
  apply if_neg
  rw [exact.headers]
  exact Nat.not_lt.mpr (Nat.add_le_add enough (exact.le_records enabled))

theorem ExactCapacity.retained_plan :
    directSlotProvisionRetainedBytes sizes
        (directSlotProvisionPlan sizes extra budget) =
      directSlotProvisionDrawBudget sizes extra budget *
          sizes.element .commandHeaders +
        drawBytes sizes (directSlotProvisionDrawBudget sizes extra budget)
          (provisionedPayloadBytes extra
            (directSlotProvisionDrawBudget sizes extra budget)) +
        directSlotProvisionCoordinatorBytes sizes
          (directSlotProvisionCoordinatorPlan extra budget) := by
  unfold directSlotProvisionPlan
  rw [retainedBytes_rows, exact.headers_planned enabled exact_le_drawBudget,
    coordinatorBytes_eq]
  ring

end

theorem le_directSlotCeilDiv_mul {numerator denominator : Nat}
    (positive : 0 < denominator) :
    numerator ≤ directSlotCeilDiv numerator denominator * denominator := by
  have parts := Nat.div_add_mod numerator denominator
  have rest := Nat.mod_lt numerator positive
  unfold directSlotCeilDiv
  rw [if_neg (Nat.ne_of_gt positive), Nat.add_mul,
    Nat.mul_comm (numerator / denominator)]
  split
  · omega
  · rename_i whole
    have none := not_not.mp whole
    omega

theorem directSlotSaturatingMul_le (value factor : Nat) :
    directSlotSaturatingMul value factor ≤ value * factor := by
  unfold directSlotSaturatingMul
  split
  · exact Nat.zero_le _
  · rename_i some
    push Not at some
    split
    · rename_i large
      have many := (Nat.div_lt_iff_lt_mul (Nat.pos_of_ne_zero some.2)).mp large
      exact Nat.le_of_lt many
    · exact Nat.le_refl _

theorem provisionedPayloadBytes_le (some : 0 < extra .drawParams)
    (more : extra .drawParams < draws) :
    provisionedPayloadBytes extra draws ≤
      directSlotProvisionPayloadBytesPerDraw extra * draws := by
  have rate : extra .drawPayloadBytes ≤
      directSlotProvisionPayloadBytesPerDraw extra * draws :=
    Nat.le_trans (le_directSlotCeilDiv_mul some)
      (Nat.mul_le_mul_left _ (Nat.le_of_lt more))
  unfold provisionedPayloadBytes
  rw [if_neg (Nat.ne_of_gt more)]
  dsimp only
  split
  · exact rate
  · exact directSlotSaturatingMul_le _ _

/-- Draws up to the ceiling fit into the budget beside the fixed bytes. -/
theorem ceiling_priced
    (some : 0 < directSlotProvisionDrawCeiling sizes extra budget) :
    directSlotProvisionDrawCeiling sizes extra budget *
        (kDirectSlotWorstCaseBytesPerDraw sizes +
          directSlotProvisionPayloadBytesPerDraw extra) +
      directSlotProvisionCoordinatorBytes sizes
        (directSlotProvisionCoordinatorPlan extra budget) ≤
      budget.maxBytes := by
  unfold directSlotProvisionDrawCeiling at some ⊢
  split at some
  · exact absurd some (Nat.lt_irrefl 0)
  · rename_i enabled
    rw [if_neg enabled]
    dsimp only at some ⊢
    split at some
    · exact absurd some (Nat.lt_irrefl 0)
    · rename_i room
      rw [if_neg room]
      have below := Nat.le_of_lt (Nat.not_le.mp room)
      apply Nat.add_le_of_le_sub below
      refine Nat.le_trans (Nat.mul_le_mul_right _ ?_) (Nat.div_mul_le_self _ _)
      split
      · exact Nat.le_refl _
      · rename_i many
        exact Nat.not_lt.mp many

theorem ExactCapacity.drawBudget_of_below
    (exact : ExactCapacity sizes extra) (enabled : budget.enabled = true)
    (below : directSlotSourceExceedsProvisionBudget sizes extra budget =
      false) :
    directSlotProvisionDrawBudget sizes extra budget =
        directSlotProvisionDrawCeiling sizes extra budget ∧
      extra .drawParams <
        directSlotProvisionDrawCeiling sizes extra budget := by
  have some := Nat.ne_of_gt exact.some
  unfold directSlotSourceExceedsProvisionBudget at below
  rw [enabled, Bool.true_and, bne_iff_ne.mpr some, Bool.true_and,
    decide_eq_false_iff_not] at below
  refine ⟨?_, Nat.not_le.mp below⟩
  unfold directSlotProvisionDrawBudget
  dsimp only
  rw [enabled, if_neg (by
    rintro (off | none)
    · exact nomatch off
    · exact some none), if_neg below]

theorem drawBudget_of_exceeds
    (exceeds : directSlotSourceExceedsProvisionBudget sizes extra budget =
      true) :
    directSlotProvisionDrawBudget sizes extra budget = extra .drawParams := by
  unfold directSlotSourceExceedsProvisionBudget at exceeds
  rw [Bool.and_eq_true, Bool.and_eq_true, decide_eq_true_iff] at exceeds
  unfold directSlotProvisionDrawBudget
  dsimp only
  split
  · rfl
  · rw [if_pos exceeds.2]

theorem ExactCapacity.retained_le (exact : ExactCapacity sizes extra)
    (enabled : budget.enabled = true)
    (below : directSlotSourceExceedsProvisionBudget sizes extra budget =
      false) :
    directSlotProvisionRetainedBytes sizes
      (directSlotProvisionPlan sizes extra budget) ≤ budget.maxBytes := by
  obtain ⟨same, more⟩ := exact.drawBudget_of_below enabled below
  have some := exact.some
  have priced := ceiling_priced (Nat.lt_trans some more)
  have payload := provisionedPayloadBytes_le some more
  have buckets := bucketCount_le
    (Nat.lt_of_le_of_lt (Nat.succ_le_of_lt some) more)
  rw [exact.retained_plan enabled, same]
  generalize directSlotProvisionDrawCeiling sizes extra budget = draws at *
  refine Nat.le_trans (Nat.add_le_add_right ?_ _) priced
  rw [worstCase_eq]
  unfold drawBytes
  calc
    draws * sizes.element .commandHeaders +
        (draws * drawRecordBytes sizes + provisionedPayloadBytes extra draws +
          chunkSlotUniformLookupBucketCount draws * 24) ≤
      draws * sizes.element .commandHeaders + (draws * drawRecordBytes sizes +
          directSlotProvisionPayloadBytesPerDraw extra * draws +
          4 * draws * 24) := by omega
    _ = _ := by ring

end Dxmt9.Provisioning
