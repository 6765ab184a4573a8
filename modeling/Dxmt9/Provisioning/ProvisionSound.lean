import Dxmt9.Provisioning.PlanWords

/-!
# A provisioning plan keeps its budget

A plan dominates what its source needs, has the derived dimensions of its own
draws, stays inside the byte budget below the draw ceiling, and is computed
without wrapping: exactly where the coordinator rows, and the draws of a
source that is reserved as it is, take a word of bytes.
-/

namespace Dxmt9.Provisioning

open Dxmt9.CpuReady Dxmt9.Memory

variable {sizes : PayloadSizes} {extra : SourcePayloadCapacity}
  {budget : DirectSlotProvisionBudget}

/-- What the draws of a source take when they are reserved as they are. -/
def exactDrawBytes (sizes : PayloadSizes) (extra : SourcePayloadCapacity) :
    Nat :=
  extra .drawParams * sizes.element .commandHeaders +
    drawBytes sizes (extra .drawParams) (extra .drawPayloadBytes)

/-- The coordinator rows of a plan take a word of bytes, together with the
draws of a source that is at or beyond the ceiling. -/
def BytesFit (sizes : PayloadSizes) (extra : SourcePayloadCapacity)
    (budget : DirectSlotProvisionBudget) : Prop :=
  (if directSlotSourceExceedsProvisionBudget sizes extra budget = true then
      exactDrawBytes sizes extra
    else 0) +
    directSlotProvisionCoordinatorBytes sizes
      (directSlotProvisionCoordinatorPlan extra budget) < 2 ^ 64

instance : Decidable (BytesFit sizes extra budget) :=
  inferInstanceAs (Decidable (_ < _))

theorem provisionedPayloadBytes_exact :
    provisionedPayloadBytes extra (extra .drawParams) =
      extra .drawPayloadBytes := by
  unfold provisionedPayloadBytes
  dsimp only
  rw [if_pos rfl]
  exact if_neg (Nat.lt_irrefl _)

section

variable (exact : ExactCapacity sizes extra)
include exact

theorem ExactCapacity.retained_exceeds
    (enabled : budget.enabled = true)
    (exceeds : directSlotSourceExceedsProvisionBudget sizes extra budget =
      true) :
    directSlotProvisionRetainedBytes sizes
        (directSlotProvisionPlan sizes extra budget) =
      exactDrawBytes sizes extra +
        directSlotProvisionCoordinatorBytes sizes
          (directSlotProvisionCoordinatorPlan extra budget) := by
  rw [exact.retained_plan enabled, drawBudget_of_exceeds exceeds,
    provisionedPayloadBytes_exact]
  rfl

theorem ExactCapacity.bytesFit_iff
    (enabled : budget.enabled = true) (word : budget.maxBytes ≤ kMaxSize) :
    BytesFit sizes extra budget ↔
      Words.CoordinatorFits sizes extra budget ∧
        directSlotProvisionRetainedBytes sizes
          (directSlotProvisionPlan sizes extra budget) < 2 ^ 64 := by
  unfold BytesFit
  cases exceeds : directSlotSourceExceedsProvisionBudget sizes extra
      budget with
  | true =>
      rw [if_pos rfl, ← exact.retained_exceeds enabled exceeds]
      refine ⟨fun fits => ⟨?_, fits⟩, fun both => both.2⟩
      rw [exact.retained_exceeds enabled exceeds] at fits
      exact Nat.lt_of_le_of_lt (Nat.le_add_left ..) fits
  | false =>
      rw [if_neg Bool.false_ne_true, Nat.zero_add]
      refine ⟨fun fits => ⟨fits, ?_⟩, fun both => both.1⟩
      exact Words.inside_of_le
        (Nat.le_trans (exact.retained_le enabled exceeds) word)

/-- A plan whose bytes fit is computed without wrapping. -/
theorem ExactCapacity.plan_exact
    (priced : Words.PricedSizes sizes) (enabled : budget.enabled = true)
    (word : budget.maxBytes ≤ kMaxSize)
    (fits : BytesFit sizes extra budget) :
    Words.directSlotProvisionPlan sizes extra budget =
      pure (directSlotProvisionPlan sizes extra budget) := by
  obtain ⟨rows, whole⟩ := (exact.bytesFit_iff enabled word).mp fits
  have bytes := whole
  rw [exact.retained_plan enabled, coordinatorBytes_eq] at bytes
  unfold drawBytes at bytes
  have drawHeaders := Nat.le_mul_of_pos_right
    (directSlotProvisionDrawBudget sizes extra budget) priced.header
  have rowHeaders := Nat.le_mul_of_pos_right
    (directSlotProvisionCoordinatorPlan extra budget).records priced.header
  have vertex : directSlotProvisionDrawBudget sizes extra budget *
      sizes.vertexShaderConstants ≤
        directSlotProvisionDrawBudget sizes extra budget *
          drawRecordBytes sizes := by
    apply Nat.mul_le_mul_left
    unfold drawRecordBytes
    omega
  have pixel : directSlotProvisionDrawBudget sizes extra budget *
      sizes.pixelShaderConstants ≤
        directSlotProvisionDrawBudget sizes extra budget *
          drawRecordBytes sizes := by
    apply Nat.mul_le_mul_left
    unfold drawRecordBytes
    omega
  exact Words.plan_exact priced exact.counted word rows (by omega)
    (by omega) (by omega)

end

/-- What is asked of a plan and of its price, as machine words compute
them. -/
structure KeepsBudget (sizes : PayloadSizes) (extra : SourcePayloadCapacity)
    (budget : DirectSlotProvisionBudget) : Prop where
  dominates : ∀ region, extra region ≤
    (Words.directSlotProvisionPlan sizes extra budget).value region
  derived : (Words.directSlotProvisionPlan sizes extra budget).value =
    applyDerivedDrawCapacity sizes
      (Words.directSlotProvisionPlan sizes extra budget).value
      ((Words.directSlotProvisionPlan sizes extra budget).value .drawParams)
  bounded : (Words.directSlotSourceExceedsProvisionBudget sizes extra
      budget).value = false →
    (Words.directSlotProvisionRetainedBytes sizes
      (Words.directSlotProvisionPlan sizes extra budget).value).value ≤
        budget.maxBytes
  unwrapped :
    (Words.directSlotProvisionPlan sizes extra budget).wrapped = false ∧
      (Words.directSlotSourceExceedsProvisionBudget sizes extra
        budget).wrapped = false ∧
      (Words.directSlotProvisionRetainedBytes sizes
        (Words.directSlotProvisionPlan sizes extra budget).value).wrapped =
          false

theorem retainedBytes_exact {plan : SourcePayloadCapacity}
    (inside : directSlotProvisionRetainedBytes sizes plan < 2 ^ 64) :
    Words.directSlotProvisionRetainedBytes sizes plan =
      pure (directSlotProvisionRetainedBytes sizes plan) := by
  unfold Words.directSlotProvisionRetainedBytes
  rw [priceWords_exact]
  · rw [Nat.zero_add]
    rfl
  · rw [Nat.zero_add]
    exact inside

/-- A source of one draw and nothing else. -/
def oneDraw (sizes : PayloadSizes) : SourcePayloadCapacity :=
  applyDerivedDrawCapacity sizes
    (fun region =>
      if region = .commandHeaders ∨ region ∈ perDrawRegions then 1 else 0) 1

/-- Records of sixteen bytes, constants of four kilobytes. -/
def recordSizes : PayloadSizes where
  element := fun _ => 16
  alignment := fun _ => 8
  vertexShaderConstants := 4096
  pixelShaderConstants := 4096
  drawBindingOverride := 64
  drawBindingSnapshot := 832

theorem exactCapacity_oneDraw :
    ExactCapacity recordSizes (oneDraw recordSizes) where
  counted := by
    intro region
    cases region <;> decide
  draws := by decide
  some := by decide
  readbacks := rfl
  headers := by decide
  derived := by
    funext region
    cases region <;> rfl

theorem pricedSizes_recordSizes : Words.PricedSizes recordSizes where
  header := by decide
  price := by decide

/-- A floor of rows whose bytes leave the range. -/
def wideFloorBudget : DirectSlotProvisionBudget where
  maxBytes := kCandidateMaxBytes
  coordinatorFloor := 2 ^ 61

end Dxmt9.Provisioning
