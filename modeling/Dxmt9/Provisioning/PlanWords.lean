import Dxmt9.Memory.MachineArithmetic
import Dxmt9.Provisioning.PlanBudget

/-!
# Provisioning computed in machine words

The functions of a provisioning plan with every sum, difference and product
taken in 64-bit words.
-/

namespace Dxmt9.Provisioning.Words

open Dxmt9.CpuReady Dxmt9.Memory

/-! ## Arithmetic -/

def directSlotCeilDiv (numerator denominator : Nat) : Tracked Nat :=
  if denominator = 0 then pure 0
  else
    addWord 64 (numerator / denominator)
      (if numerator % denominator ≠ 0 then 1 else 0)

def directSlotSaturatingMul (value factor : Nat) : Tracked Nat :=
  if value = 0 ∨ factor = 0 then pure 0
  else if kMaxSize / factor < value then pure kMaxSize
  else mulWord 64 value factor

def lookupBucketLoop (target : Nat) : Nat → Nat → Tracked Nat
  | 0, bucketCount => pure bucketCount
  | steps + 1, bucketCount =>
      if bucketCount < target ∧ bucketCount ≤ kMaxU32 / 2 then do
        let doubled ← mulWord 64 bucketCount 2
        lookupBucketLoop target steps doubled
      else pure bucketCount

def chunkSlotUniformLookupBucketCount (payloadCount : Nat) : Tracked Nat := do
  let target ← if kMaxU32 / 2 < payloadCount then pure kMaxU32
    else mulWord 64 payloadCount 2
  lookupBucketLoop target 32 8

variable {value : Nat}

theorem inside_of_le (small : value ≤ kMaxSize) : value < 2 ^ 64 :=
  Nat.lt_of_le_pred (Nat.two_pow_pos 64) small

theorem directSlotCeilDiv_exact {numerator denominator : Nat}
    (small : numerator ≤ kMaxU32) :
    directSlotCeilDiv numerator denominator =
      pure (Provisioning.directSlotCeilDiv numerator denominator) := by
  unfold directSlotCeilDiv Provisioning.directSlotCeilDiv
  split
  · rfl
  · have quotient : numerator / denominator ≤ 2 ^ 32 - 1 :=
      Nat.le_trans (Nat.div_le_self ..) small
    apply addWord_exact
    split <;> omega

theorem directSlotSaturatingMul_exact {factor : Nat} :
    directSlotSaturatingMul value factor =
      pure (Provisioning.directSlotSaturatingMul value factor) := by
  unfold directSlotSaturatingMul Provisioning.directSlotSaturatingMul
  split
  · rfl
  · rename_i some
    push Not at some
    split
    · rfl
    · rename_i room
      apply mulWord_exact
      apply inside_of_le
      exact (Nat.le_div_iff_mul_le (Nat.pos_of_ne_zero some.2)).mp
        (Nat.not_lt.mp room)

theorem lookupBucketLoop_exact {target : Nat} (steps bucketCount : Nat) :
    lookupBucketLoop target steps bucketCount =
      pure (CpuReady.lookupBucketLoop target steps bucketCount) := by
  induction steps generalizing bucketCount with
  | zero => rfl
  | succ steps induction =>
      rw [lookupBucketLoop, CpuReady.lookupBucketLoop]
      split
      · rename_i more
        have word : kMaxU32 = 2 ^ 32 - 1 := rfl
        rw [mulWord_exact (by omega), Tracked.exact_bind, induction]
      · rfl

theorem bucketCount_exact {payloadCount : Nat} :
    chunkSlotUniformLookupBucketCount payloadCount =
      pure (CpuReady.chunkSlotUniformLookupBucketCount payloadCount) := by
  have word : kMaxU32 = 2 ^ 32 - 1 := rfl
  unfold chunkSlotUniformLookupBucketCount
    CpuReady.chunkSlotUniformLookupBucketCount
  split
  · rw [Tracked.exact_bind]
    exact lookupBucketLoop_exact 32 8
  · rw [mulWord_exact (by omega), Tracked.exact_bind]
    exact lookupBucketLoop_exact 32 8

/-! ## Coordinator rows -/

def directSlotProvisionCoordinator (value scale floorValue : Nat) :
    Tracked Nat := do
  let scaled ← directSlotSaturatingMul value scale
  pure (if scaled < floorValue then floorValue else scaled)

def directSlotProvisionCoordinatorPlan (extra : SourcePayloadCapacity)
    (budget : DirectSlotProvisionBudget) :
    Tracked DirectSlotProvisionCoordinatorPlan := do
  let scale := if budget.enabled then budget.coordinatorScale else 1
  let recordFloor := if budget.enabled then budget.coordinatorFloor else 0
  let presentFloor := if budget.enabled then budget.presentFloor else 0
  let clearRecords ← directSlotProvisionCoordinator (extra .clearRecords)
    scale recordFloor
  let clearRects ← directSlotProvisionCoordinator (extra .clearRects) scale 0
  let surfaceCopyRecords ← directSlotProvisionCoordinator
    (extra .surfaceCopyRecords) scale recordFloor
  let stretchRectRecords ← directSlotProvisionCoordinator
    (extra .stretchRectRecords) scale recordFloor
  let colorFillRecords ← directSlotProvisionCoordinator
    (extra .colorFillRecords) scale recordFloor
  let depthResolveRecords ← directSlotProvisionCoordinator
    (extra .depthResolveRecords) scale recordFloor
  let generateMipmapsRecords ← directSlotProvisionCoordinator
    (extra .generateMipmapsRecords) scale recordFloor
  let presentRecords ← directSlotProvisionCoordinator
    (extra .presentRecords) scale presentFloor
  pure
    { clearRecords := clearRecords
      clearRects := clearRects
      surfaceCopyRecords := surfaceCopyRecords
      stretchRectRecords := stretchRectRecords
      colorFillRecords := colorFillRecords
      depthResolveRecords := depthResolveRecords
      generateMipmapsRecords := generateMipmapsRecords
      presentRecords := presentRecords }

def records (plan : DirectSlotProvisionCoordinatorPlan) : Tracked Nat :=
  sumWords 64 plan.counts 0

def directSlotProvisionCoordinatorBytes (sizes : PayloadSizes)
    (plan : DirectSlotProvisionCoordinatorPlan) : Tracked Nat := do
  let headers ← records plan
  priceWords 64 (coordinatorPrices sizes plan ++
    [(headers, sizes.element .commandHeaders)]) 0

variable {sizes : PayloadSizes} {extra : SourcePayloadCapacity}
  {budget : DirectSlotProvisionBudget}
  {coordinator : DirectSlotProvisionCoordinatorPlan}

theorem coordinator_exact {scale floorValue : Nat} :
    directSlotProvisionCoordinator value scale floorValue =
      pure (Provisioning.directSlotProvisionCoordinator value scale
        floorValue) := by
  unfold directSlotProvisionCoordinator
  rw [directSlotSaturatingMul_exact, Tracked.exact_bind]
  rfl

theorem coordinatorPlan_exact :
    directSlotProvisionCoordinatorPlan extra budget =
      pure (Provisioning.directSlotProvisionCoordinatorPlan extra budget) := by
  simp only [directSlotProvisionCoordinatorPlan, coordinator_exact,
    Tracked.exact_bind]
  rfl

theorem records_exact (inside : coordinator.records < 2 ^ 64) :
    records coordinator = pure coordinator.records := by
  have room : 0 + coordinator.counts.sum < 2 ^ 64 := by
    rw [Nat.zero_add]
    exact inside
  have sum := sumWords_exact room
  rw [Nat.zero_add] at sum
  exact sum

theorem coordinatorBytes_exact (header : 0 < sizes.element .commandHeaders)
    (inside : Provisioning.directSlotProvisionCoordinatorBytes sizes
      coordinator < 2 ^ 64) :
    directSlotProvisionCoordinatorBytes sizes coordinator =
      pure (Provisioning.directSlotProvisionCoordinatorBytes sizes
        coordinator) := by
  have few : coordinator.records < 2 ^ 64 := by
    rw [coordinatorBytes_eq] at inside
    exact Nat.lt_of_le_of_lt (Nat.le_mul_of_pos_right _ header)
      (Nat.lt_of_le_of_lt (Nat.le_add_left ..) inside)
  unfold directSlotProvisionCoordinatorBytes
  rw [records_exact few, Tracked.exact_bind, priceWords_exact]
  · rw [Nat.zero_add]
    rfl
  · rw [Nat.zero_add]
    exact inside

theorem coordinatorBytes_of_unwrapped
    (unwrapped :
      (directSlotProvisionCoordinatorBytes sizes coordinator).wrapped =
        false) :
    Provisioning.directSlotProvisionCoordinatorBytes sizes coordinator <
      2 ^ 64 := by
  obtain ⟨summed, priced⟩ := Tracked.unwrapped_bind unwrapped
  have few : coordinator.records < 2 ^ 64 := by
    have sum := sumWords_of_unwrapped (Nat.two_pow_pos 64) summed
    rw [Nat.zero_add] at sum
    exact sum
  rw [records_exact few, Tracked.pure_value] at priced
  have sum := priceWords_of_unwrapped (Nat.two_pow_pos 64) priced
  rw [Nat.zero_add] at sum
  exact sum

def directSlotProvisionPayloadBytesPerDraw (extra : SourcePayloadCapacity) :
    Tracked Nat :=
  directSlotCeilDiv (extra .drawPayloadBytes) (extra .drawParams)

def directSlotProvisionDrawCeiling (sizes : PayloadSizes)
    (extra : SourcePayloadCapacity) (budget : DirectSlotProvisionBudget) :
    Tracked Nat :=
  if !budget.enabled then pure 0
  else do
    let coordinator ← directSlotProvisionCoordinatorPlan extra budget
    let fixedBytes ← directSlotProvisionCoordinatorBytes sizes coordinator
    if budget.maxBytes ≤ fixedBytes then pure 0
    else do
      let rate ← directSlotProvisionPayloadBytesPerDraw extra
      let perDraw ← addWord 64 (kDirectSlotWorstCaseBytesPerDraw sizes) rate
      let room ← subWord 64 budget.maxBytes fixedBytes
      let byBytes := room / perDraw
      pure (if byBytes < budget.maxDraws then byBytes else budget.maxDraws)

def directSlotProvisionDrawBudget (sizes : PayloadSizes)
    (extra : SourcePayloadCapacity) (budget : DirectSlotProvisionBudget) :
    Tracked Nat :=
  let exact := extra .drawParams
  if !budget.enabled ∨ exact = 0 then pure exact
  else do
    let ceiling ← directSlotProvisionDrawCeiling sizes extra budget
    pure (if ceiling ≤ exact then exact else ceiling)

def directSlotSourceExceedsProvisionBudget (sizes : PayloadSizes)
    (extra : SourcePayloadCapacity) (budget : DirectSlotProvisionBudget) :
    Tracked Bool :=
  if budget.enabled && extra .drawParams != 0 then do
    let ceiling ← directSlotProvisionDrawCeiling sizes extra budget
    pure (decide (ceiling ≤ extra .drawParams))
  else pure false

def provisionedPayloadBytes (extra : SourcePayloadCapacity) (draws : Nat) :
    Tracked Nat := do
  let bytes ←
    if draws = extra .drawParams then pure (extra .drawPayloadBytes)
    else do
      let rate ← directSlotProvisionPayloadBytesPerDraw extra
      directSlotSaturatingMul rate draws
  pure (if bytes < extra .drawPayloadBytes then extra .drawPayloadBytes
    else bytes)

/-- The derived dimensions, from byte counts and buckets computed before. -/
def withDerived (capacity : SourcePayloadCapacity)
    (drawCount vertexBytes pixelBytes buckets : Nat) : SourcePayloadCapacity
  | .drawUniformVertexConstantBytes => vertexBytes
  | .drawUniformPixelConstantBytes => pixelBytes
  | .drawUniformPayloadLookupHeads | .drawUniformPayloadLookupTails
  | .drawUniformVertexConstantsLookupHeads
  | .drawUniformVertexConstantsLookupTails
  | .drawUniformPixelConstantsLookupHeads
  | .drawUniformPixelConstantsLookupTails => buckets
  | .drawUniformPayloadLookupNext | .drawUniformVertexConstantsLookupNext
  | .drawUniformPixelConstantsLookupNext => drawCount
  | region => capacity region

def applyDerivedDrawCapacity (sizes : PayloadSizes)
    (capacity : SourcePayloadCapacity) (drawCount : Nat) :
    Tracked SourcePayloadCapacity := do
  let vertexBytes ← mulWord 64 drawCount sizes.vertexShaderConstants
  let pixelBytes ← mulWord 64 drawCount sizes.pixelShaderConstants
  let buckets ← chunkSlotUniformLookupBucketCount drawCount
  pure (withDerived capacity drawCount vertexBytes pixelBytes buckets)

def directSlotProvisionPlan (sizes : PayloadSizes)
    (extra : SourcePayloadCapacity) (budget : DirectSlotProvisionBudget) :
    Tracked SourcePayloadCapacity := do
  let draws ← directSlotProvisionDrawBudget sizes extra budget
  let coordinator ← directSlotProvisionCoordinatorPlan extra budget
  let payload ← provisionedPayloadBytes extra draws
  let rows ← records coordinator
  let headers ← addWord 64 draws rows
  applyDerivedDrawCapacity sizes
    (plannedRows extra draws headers payload coordinator) draws

def directSlotProvisionRetainedBytes (sizes : PayloadSizes)
    (plan : SourcePayloadCapacity) : Tracked Nat :=
  priceWords 64 (retainedPrices sizes plan) 0

/-! ## Where nothing wraps -/

/-- The sizes of the types that a slot stores: a header has a size, and the
price of a draw with its payload is a word. -/
structure PricedSizes (sizes : PayloadSizes) : Prop where
  header : 0 < sizes.element .commandHeaders
  price : kDirectSlotWorstCaseBytesPerDraw sizes + kMaxU32 ≤ kMaxSize

theorem payloadBytesPerDraw_exact (counted : ∀ region, extra region ≤ kMaxU32) :
    directSlotProvisionPayloadBytesPerDraw extra =
      pure (Provisioning.directSlotProvisionPayloadBytesPerDraw extra) :=
  directSlotCeilDiv_exact (counted _)

theorem payloadBytesPerDraw_le (counted : ∀ region, extra region ≤ kMaxU32) :
    Provisioning.directSlotProvisionPayloadBytesPerDraw extra ≤ kMaxU32 := by
  have bytes := counted .drawPayloadBytes
  unfold Provisioning.directSlotProvisionPayloadBytesPerDraw
    Provisioning.directSlotCeilDiv
  split
  · exact Nat.zero_le _
  · split
    · rename_i some uneven
      have several : 2 ≤ extra .drawParams := by
        by_contra few
        have one : extra .drawParams = 1 := by omega
        rw [one, Nat.mod_one] at uneven
        exact uneven rfl
      have half : extra .drawPayloadBytes / extra .drawParams ≤
          extra .drawPayloadBytes / 2 :=
        Nat.div_le_div_left several Nat.two_pos
      have word : kMaxU32 = 2 ^ 32 - 1 := rfl
      omega
    · exact Nat.le_trans (Nat.div_le_self ..) bytes

/-- The coordinator rows of a plan take a word of bytes. -/
def CoordinatorFits (sizes : PayloadSizes) (extra : SourcePayloadCapacity)
    (budget : DirectSlotProvisionBudget) : Prop :=
  Provisioning.directSlotProvisionCoordinatorBytes sizes
    (Provisioning.directSlotProvisionCoordinatorPlan extra budget) < 2 ^ 64

theorem drawCeiling_exact (priced : PricedSizes sizes)
    (counted : ∀ region, extra region ≤ kMaxU32)
    (word : budget.maxBytes ≤ kMaxSize)
    (fits : CoordinatorFits sizes extra budget) :
    directSlotProvisionDrawCeiling sizes extra budget =
      pure (Provisioning.directSlotProvisionDrawCeiling sizes extra
        budget) := by
  unfold directSlotProvisionDrawCeiling
    Provisioning.directSlotProvisionDrawCeiling
  split
  · rfl
  · rw [coordinatorPlan_exact, Tracked.exact_bind,
      coordinatorBytes_exact priced.header fits, Tracked.exact_bind]
    dsimp only
    split
    · rfl
    · rename_i room
      have price := Nat.le_trans (Nat.add_le_add_left
        (payloadBytesPerDraw_le counted) _) priced.price
      rw [payloadBytesPerDraw_exact counted, Tracked.exact_bind,
        addWord_exact (inside_of_le price), Tracked.exact_bind,
        subWord_exact (Nat.le_of_lt (Nat.not_le.mp room))
          (inside_of_le word), Tracked.exact_bind]

theorem coordinatorFits_of_unwrapped (enabled : budget.enabled = true)
    (unwrapped : (directSlotProvisionDrawCeiling sizes extra
      budget).wrapped = false) : CoordinatorFits sizes extra budget := by
  unfold directSlotProvisionDrawCeiling at unwrapped
  rw [enabled, Bool.not_true, if_neg Bool.false_ne_true,
    coordinatorPlan_exact, Tracked.exact_bind] at unwrapped
  exact coordinatorBytes_of_unwrapped (Tracked.unwrapped_bind unwrapped).1

section

variable (priced : PricedSizes sizes)
  (counted : ∀ region, extra region ≤ kMaxU32)
  (word : budget.maxBytes ≤ kMaxSize)
  (fits : CoordinatorFits sizes extra budget)
include priced counted word fits

theorem drawBudget_exact :
    directSlotProvisionDrawBudget sizes extra budget =
      pure (Provisioning.directSlotProvisionDrawBudget sizes extra
        budget) := by
  unfold directSlotProvisionDrawBudget
    Provisioning.directSlotProvisionDrawBudget
  dsimp only
  split
  · rfl
  · rw [drawCeiling_exact priced counted word fits, Tracked.exact_bind]

theorem exceedsBudget_exact :
    directSlotSourceExceedsProvisionBudget sizes extra budget =
      pure (Provisioning.directSlotSourceExceedsProvisionBudget sizes extra
        budget) := by
  unfold directSlotSourceExceedsProvisionBudget
    Provisioning.directSlotSourceExceedsProvisionBudget
  cases asked : budget.enabled && extra .drawParams != 0 with
  | false => rfl
  | true =>
      rw [if_pos rfl, drawCeiling_exact priced counted word fits,
        Tracked.exact_bind, Bool.true_and]

end

variable {draws : Nat}

theorem provisionedPayloadBytes_exact
    (counted : ∀ region, extra region ≤ kMaxU32) :
    provisionedPayloadBytes extra draws =
      pure (Provisioning.provisionedPayloadBytes extra draws) := by
  unfold provisionedPayloadBytes Provisioning.provisionedPayloadBytes
  by_cases same : draws = extra .drawParams
  · simp only [if_pos same, Tracked.exact_bind]
  · simp only [if_neg same, payloadBytesPerDraw_exact counted,
      Tracked.exact_bind, directSlotSaturatingMul_exact]

theorem applyDerived_exact {capacity : SourcePayloadCapacity}
    (vertex : draws * sizes.vertexShaderConstants < 2 ^ 64)
    (pixel : draws * sizes.pixelShaderConstants < 2 ^ 64) :
    applyDerivedDrawCapacity sizes capacity draws =
      pure (CpuReady.applyDerivedDrawCapacity sizes capacity draws) := by
  unfold applyDerivedDrawCapacity
  rw [mulWord_exact vertex, Tracked.exact_bind, mulWord_exact pixel,
    Tracked.exact_bind, bucketCount_exact, Tracked.exact_bind]
  apply congrArg pure
  funext region
  cases region <;> rfl

/-- A plan from its header count on, once everything before it fits. -/
def planFromHeaders (sizes : PayloadSizes) (extra : SourcePayloadCapacity)
    (budget : DirectSlotProvisionBudget) (headers : Nat) :
    Tracked SourcePayloadCapacity :=
  let draws := Provisioning.directSlotProvisionDrawBudget sizes extra budget
  applyDerivedDrawCapacity sizes
    (plannedRows extra draws headers
      (Provisioning.provisionedPayloadBytes extra draws)
      (Provisioning.directSlotProvisionCoordinatorPlan extra budget)) draws

section

variable (priced : PricedSizes sizes)
  (counted : ∀ region, extra region ≤ kMaxU32)
  (word : budget.maxBytes ≤ kMaxSize)
  (fits : CoordinatorFits sizes extra budget)
include priced counted word fits

theorem plan_eq :
    directSlotProvisionPlan sizes extra budget =
      addWord 64
          (Provisioning.directSlotProvisionDrawBudget sizes extra budget)
          (Provisioning.directSlotProvisionCoordinatorPlan extra
            budget).records >>=
        planFromHeaders sizes extra budget := by
  have few : (Provisioning.directSlotProvisionCoordinatorPlan extra
      budget).records < 2 ^ 64 := by
    unfold CoordinatorFits at fits
    rw [coordinatorBytes_eq] at fits
    exact Nat.lt_of_le_of_lt (Nat.le_mul_of_pos_right _ priced.header)
      (Nat.lt_of_le_of_lt (Nat.le_add_left ..) fits)
  unfold directSlotProvisionPlan
  rw [drawBudget_exact priced counted word fits, Tracked.exact_bind,
    coordinatorPlan_exact, Tracked.exact_bind,
    provisionedPayloadBytes_exact counted, Tracked.exact_bind,
    records_exact few, Tracked.exact_bind]
  rfl

theorem plan_exact
    (headers : Provisioning.directSlotProvisionDrawBudget sizes extra budget +
      (Provisioning.directSlotProvisionCoordinatorPlan extra
        budget).records < 2 ^ 64)
    (vertex : Provisioning.directSlotProvisionDrawBudget sizes extra budget *
      sizes.vertexShaderConstants < 2 ^ 64)
    (pixel : Provisioning.directSlotProvisionDrawBudget sizes extra budget *
      sizes.pixelShaderConstants < 2 ^ 64) :
    directSlotProvisionPlan sizes extra budget =
      pure (Provisioning.directSlotProvisionPlan sizes extra budget) := by
  rw [plan_eq priced counted word fits, addWord_exact headers,
    Tracked.exact_bind]
  exact applyDerived_exact vertex pixel

/-- A plan that did not wrap is what unbounded numbers give. -/
theorem plan_of_unwrapped
    (unwrapped :
      (directSlotProvisionPlan sizes extra budget).wrapped = false) :
    directSlotProvisionPlan sizes extra budget =
      pure (Provisioning.directSlotProvisionPlan sizes extra budget) := by
  have steps := unwrapped
  rw [plan_eq priced counted word fits] at steps
  obtain ⟨added, derived⟩ := Tracked.unwrapped_bind steps
  have headers := addWord_of_unwrapped added
  obtain ⟨first, others⟩ := Tracked.unwrapped_bind derived
  have second := (Tracked.unwrapped_bind others).1
  exact plan_exact priced counted word fits headers
    (mulWord_of_unwrapped first) (mulWord_of_unwrapped second)

end

end Dxmt9.Provisioning.Words
