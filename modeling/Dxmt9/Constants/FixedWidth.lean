import Dxmt9.Constants.Delivery

/-!
# The fixed-width path and the reducer

The setters of registers of 4 and of 16 bytes have a loop of their own.  It
compares by words where the reducer compares by bytes, and asks no table, but
it leaves the shadow that the reducer leaves when it applies a live write.
-/

namespace Dxmt9.Constants

open Dxmt9.Memory Dxmt9.Transition

/-- The entry of the fixed-width path.  It returns nothing. -/
def applyConstShadowLiveFixedWidth (shadow : ConstShadow) (elemSize : Nat)
    (start count : UInt32) (data : Option (Nat → UInt8)) :
    Unit × ConstShadow :=
  ((), applyConstShadowLive shadow elemSize (0xffffffff / elemSize) start
    count data)

variable {elemSize start count : Nat} {source : Nat → UInt8}

/-- The two comparisons of a register agree. -/
theorem fixedElemEquals_eq (width : elemSize = 4 ∨ elemSize = 16)
    (values : List UInt8) (offset : Nat) (element : Nat → UInt8) :
    constShadowFixedElemEquals elemSize (bytesFrom values offset) element =
      constShadowTransitionElemEquals values offset true element
        elemSize := by
  apply Bool.eq_iff_iff.mpr
  change _ ↔ sameBytes elemSize (bytesFrom values offset) element = true
  rw [constShadowFixedElemEquals_iff width, sameBytes_iff]

/-- Whether the fixed-width loop writes a register. -/
def writes (elemSize start : Nat) (source : Nat → UInt8)
    (reduction : Reduction) (i : Nat) : Bool :=
  !constShadowFixedElemEquals elemSize
    (bytesFrom reduction.values ((start + i) * elemSize))
    (element source elemSize i)

theorem fixedStep_eq (reduction : Reduction) (i : Nat) :
    fixedStep elemSize start source reduction i =
      if writes elemSize start source reduction i then
        reduction.write elemSize start source i
      else reduction := by
  by_cases equal : constShadowFixedElemEquals elemSize
      (bytesFrom reduction.values ((start + i) * elemSize))
      (element source elemSize i) = true
  · simp [fixedStep, writes, equal]
  · simp [fixedStep, writes, equal,
      show kConstShadowLiveWritesChangedValue = true from rfl]

/-- A step of the reference loop does to the registers what the step of the
fixed-width loop does, and notes a change where that writes. -/
theorem reduceStep_fixedStep (width : elemSize = 4 ∨ elemSize = 16)
    (start : Nat) (source : Nat → UInt8) (oldValueSize oldElemSize : Nat) (state : ReferenceReduction)
    (i : Nat) :
    let next := reduceStep .live .apply start elemSize oldValueSize
      oldElemSize source state i
    next.reduction = fixedStep elemSize start source state.reduction i ∧
      next.changed =
        (state.changed || writes elemSize start source state.reduction i) := by
  have equal := fixedElemEquals_eq width state.reduction.values
    ((start + i) * elemSize) (element source elemSize i)
  rw [fixedStep_eq, writes, equal]
  simp only [reduceStep, live_writePending, bne_self_eq_false,
    Bool.false_or, Bool.not_not, beq_self_eq_true, Bool.true_or]
  cases constShadowTransitionElemEquals state.reduction.values
      ((start + i) * elemSize) true (element source elemSize i) elemSize with
  | true => simp
  | false => simp

/-- The states of the two loops before a register: the same registers, and a
change where the first changed one is before the end. -/
structure InStep (count : Nat) (reduction : Reduction)
    (state : ReferenceReduction) : Prop where
  registers : state.reduction = reduction
  first : reduction.firstChanged ≤ count
  changed : state.changed = true ↔ reduction.firstChanged ≠ count

section

variable (width : elemSize = 4 ∨ elemSize = 16)
include width

theorem InStep.step
    {reduction : Reduction} {state : ReferenceReduction}
    (inStep : InStep count reduction state) (oldValueSize oldElemSize : Nat)
    {i : Nat} (inside : i < count) :
    InStep count (fixedStep elemSize start source reduction i)
      (reduceStep .live .apply start elemSize oldValueSize oldElemSize source
        state i) := by
  obtain ⟨rfl, first, changed⟩ := inStep
  obtain ⟨registers, changes⟩ := reduceStep_fixedStep width start
    source oldValueSize oldElemSize state i
  rw [fixedStep_eq] at registers ⊢
  cases written : writes elemSize start source state.reduction i with
  | true =>
      rw [written, if_pos rfl] at registers
      rw [if_pos rfl]
      have before : min state.reduction.firstChanged i < count :=
        Nat.lt_of_le_of_lt (Nat.min_le_right _ _) inside
      refine ⟨registers, Nat.le_of_lt before, ?_⟩
      rw [changes, written, Bool.or_true]
      exact iff_of_true rfl (Nat.ne_of_lt before)
  | false =>
      rw [written, if_neg Bool.false_ne_true] at registers
      rw [if_neg Bool.false_ne_true]
      refine ⟨registers, first, ?_⟩
      rw [changes, written, Bool.or_false]
      exact changed

theorem inStep_loop
    (oldValueSize oldElemSize : Nat) (values marks : List UInt8) {upTo : Nat}
    (bound : upTo ≤ count) :
    InStep count
      ((List.range upTo).foldl (fixedStep elemSize start source)
        { values := values
          dirtyElems := marks
          firstChanged := count
          lastChanged := 0 })
      ((List.range upTo).foldl
        (reduceStep .live .apply start elemSize oldValueSize oldElemSize
          source)
        { result := {}
          reduction :=
            { values := values
              dirtyElems := marks
              firstChanged := count
              lastChanged := 0 }
          changed := false }) := by
  induction upTo with
  | zero =>
      exact ⟨rfl, Nat.le_refl count, by simp⟩
  | succ before induction =>
      rw [List.range_succ, List.foldl_append, List.foldl_append]
      exact (induction (Nat.le_of_succ_le bound)).step width _ _ bound

/-- Behind the loops both paths join the interval of the changed registers. -/
theorem applyNonEmpty_eq
    (shadow : ConstShadow) :
    let grown : ConstShadow :=
      { shadow with
        values := growBytes shadow.values ((start + count) * elemSize)
        dirtyElems := growBytes shadow.dirtyElems (start + count) }
    let reduced := (List.range count).foldl
      (reduceStep .live .apply start elemSize shadow.values.length
        shadow.dirtyElems.length source)
      { result := {}
        reduction :=
          { values := grown.values
            dirtyElems := grown.dirtyElems
            firstChanged := count
            lastChanged := 0 }
        changed := false }
    let written : ConstShadow :=
      { grown with
        values := reduced.reduction.values
        dirtyElems := reduced.reduction.dirtyElems }
    applyNonEmpty shadow elemSize start (start + count) source =
      if reduced.changed then
        written.joinDirty (start + reduced.reduction.firstChanged)
          (start + reduced.reduction.lastChanged)
      else written := by
  intro grown reduced written
  have inStep : InStep count _ reduced :=
    inStep_loop width shadow.values.length shadow.dirtyElems.length
      grown.values grown.dirtyElems (Nat.le_refl count)
  simp only [applyNonEmpty, Nat.add_sub_cancel_left, written]
  rw [inStep.registers]
  by_cases changes : reduced.changed = true
  · rw [if_pos changes, if_neg (inStep.changed.mp changes)]
  · rw [if_neg changes,
      if_pos (not_not.mp fun differ => changes (inStep.changed.mpr differ))]

end

/-- The fixed-width path leaves the shadow that the reducer leaves: the same
bytes, the same marks and the same interval. -/
theorem fixedWidth_eq_reduce (shadow : ConstShadow) (elemSize : Nat)
    (width : elemSize = 4 ∨ elemSize = 16) (start count : UInt32)
    (data : Option (Nat → UInt8)) :
    (applyConstShadowLiveFixedWidth shadow elemSize start count data).2 =
      (reduceConstShadowTransition shadow .live .apply start count data
        elemSize).2 := by
  have positive : 0 < elemSize := by
    rcases width with rfl | rfl <;> decide
  simp only [applyConstShadowLiveFixedWidth, applyConstShadowLive,
    reduceConstShadowTransition]
  split
  · rfl
  · rename_i nonempty
    cases data with
    | none => rfl
    | some source =>
        have registers : 0 < count.toNat :=
          Nat.pos_of_ne_zero fun none =>
            nonempty (UInt32.toNat_inj.mp none)
        have someRegister : 0 < start.toNat + count.toNat :=
          Nat.add_pos_right _ registers
        have limit := limit_lt_iff positive someRegister
        by_cases beyond :
            0xffffffff / elemSize < start.toNat + count.toNat
        · simp [beyond, limit.mp beyond, Nat.ne_of_gt positive]
        · have within := mt limit.mpr beyond
          have admitted : ¬ (0xffffffff < start.toNat + count.toNat ||
              0xffffffff / (start.toNat + count.toNat) < elemSize) = true := by
            simpa using within
          dsimp only
          have applied : ¬ (decide True &&
              decide (RecorderPhase.live ≠ RecorderPhase.live)) = true := by
            decide
          rw [if_neg beyond, if_neg (Nat.ne_of_gt positive),
            if_neg applied, if_neg admitted, applyNonEmpty_eq width]
          simp only [decide_true, Bool.true_and, if_true, apply_ite Prod.snd]

/-- One register of four bytes, written into an empty shadow. -/
theorem fixedWidth_eq_reduce_oneRegister :
    (applyConstShadowLiveFixedWidth {} 4 0 1 (some fun _ => 7)).2 =
        (reduceConstShadowTransition {} .live .apply 0 1
          (some fun _ => 7) 4).2 ∧
      (applyConstShadowLiveFixedWidth {} 4 0 1 (some fun _ => 7)).2 =
        { values := [7, 7, 7, 7]
          dirtyElems := [1]
          dirtyStart := 0
          dirtyEnd := 1 } :=
  ⟨fixedWidth_eq_reduce {} 4 (.inl rfl) 0 1 _, by decide⟩

/-- The reducer tells a null pointer from an empty range; what the fixed-width
path returns does not. -/
theorem fixedWidth_returns_nothing :
    (reduceConstShadowTransition {} .live .apply 0 1 none 4).1 =
        { valid := false } ∧
      (reduceConstShadowTransition {} .live .apply 0 0 none 4).1 = {} ∧
      ¬ ∃ result : Unit → ConstShadowTransitionResult,
        ∀ (shadow : ConstShadow) (elemSize : Nat),
          elemSize = 4 ∨ elemSize = 16 →
          ∀ (start count : UInt32) (data : Option (Nat → UInt8)),
            result (applyConstShadowLiveFixedWidth shadow elemSize start
                count data).1 =
              (reduceConstShadowTransition shadow .live .apply start count
                data elemSize).1 := by
  refine ⟨by decide, by decide, ?_⟩
  rintro ⟨result, same⟩
  have null := same {} 4 (.inl rfl) 0 1 none
  have empty := same {} 4 (.inl rfl) 0 0 none
  exact absurd (null.symm.trans empty) (by decide)

end Dxmt9.Constants
