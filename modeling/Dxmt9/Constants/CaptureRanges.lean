import Dxmt9.Constants.ConstShadow
import Mathlib.Data.Set.Basic

/-!
# Captured ranges

The marks of a state block are the registers recorded since the last clear, its
bytes are theirs, and a visit of its ranges gives the maximal runs of them.
-/

namespace Dxmt9.Constants

open Dxmt9.Memory Dxmt9.Order Dxmt9.Transition

/-- The address is one of the bytes of the register. -/
def InRegister (elemSize reg address : Nat) : Prop :=
  reg * elemSize ≤ address ∧ address < reg * elemSize + elemSize

instance (elemSize reg address : Nat) :
    Decidable (InRegister elemSize reg address) :=
  inferInstanceAs (Decidable (_ ∧ _))

variable {byte : Nat}

/-- A byte of a register is in a block of registers just when the register
is. -/
theorem byte_in_block {elemSize : Nat} (inside : byte < elemSize)
    (reg start count : Nat) :
    (start * elemSize ≤ reg * elemSize + byte ∧
        reg * elemSize + byte < start * elemSize + count * elemSize) ↔
      start ≤ reg ∧ reg < start + count := by
  rw [← Nat.add_mul]
  constructor
  · rintro ⟨lower, upper⟩
    constructor
    · by_contra below
      have next : (reg + 1) * elemSize ≤ start * elemSize :=
        Nat.mul_le_mul_right _ (Nat.lt_of_not_le below)
      rw [Nat.succ_mul] at next
      omega
    · by_contra above
      have next : (start + count) * elemSize ≤ reg * elemSize :=
        Nat.mul_le_mul_right _ (Nat.le_of_not_lt above)
      omega
  · rintro ⟨lower, upper⟩
    have first : start * elemSize ≤ reg * elemSize :=
      Nat.mul_le_mul_right _ lower
    have next : (reg + 1) * elemSize ≤ (start + count) * elemSize :=
      Nat.mul_le_mul_right _ upper
    rw [Nat.succ_mul] at next
    constructor
    · omega
    · omega

theorem inRegister_iff {elemSize : Nat} (inside : byte < elemSize)
    (other reg : Nat) :
    InRegister elemSize other (reg * elemSize + byte) ↔ other = reg := by
  have block := byte_in_block inside reg other 1
  rw [Nat.one_mul] at block
  unfold InRegister
  rw [block]
  omega

/-- The shadow shows the captured constants: the marks are the tracked
registers, all below the tracked size, and the bytes of each are stored. -/
structure Captures (elemSize : Nat) (shadow : StateBlockConstShadow)
    (captured : CapturedConstants) : Prop where
  valuesLength : shadow.values.length = kMaxBytes
  marksLength : shadow.trackedElems.length = kMaxElems
  within : shadow.trackedSize ≤ kMaxElems
  beyond : ∀ reg, shadow.trackedSize ≤ reg →
    byteAt shadow.trackedElems reg = 0
  marked : ∀ reg, byteAt shadow.trackedElems reg ≠ 0 ↔
    reg ∈ captured.tracked
  fits : ∀ reg ∈ captured.tracked, reg * elemSize + elemSize ≤ kMaxBytes
  stored : ∀ reg ∈ captured.tracked, ∀ byte < elemSize,
    byteAt shadow.values (reg * elemSize + byte) = captured.value reg byte

variable {elemSize : Nat} {shadow : StateBlockConstShadow}
  {captured : CapturedConstants}

theorem captures_empty : Captures elemSize {} .empty where
  valuesLength := List.length_replicate
  marksLength := List.length_replicate
  within := Nat.zero_le _
  beyond reg _ := byteAt_replicate_zero _ reg
  marked reg := iff_of_false (fun set => set (byteAt_replicate_zero _ reg)) id
  fits _ member := member.elim
  stored _ member := member.elim

theorem Captures.contains_iff (captures : Captures elemSize shadow captured)
    (reg : Nat) : shadow.contains reg = true ↔ reg ∈ captured.tracked := by
  unfold StateBlockConstShadow.contains
  rw [Bool.and_eq_true, decide_eq_true_eq, bne_iff_ne, captures.marked]
  constructor
  · exact And.right
  · intro member
    refine ⟨?_, member⟩
    by_contra outside
    exact (captures.marked reg).mpr member
      (captures.beyond reg (Nat.le_of_not_lt outside))

theorem Captures.clear (captures : Captures elemSize shadow captured) :
    Captures elemSize shadow.clear .empty := by
  have cleared : ∀ reg, byteAt shadow.clear.trackedElems reg = 0 := by
    intro reg
    change byteAt (fillBytes shadow.trackedElems 0 kMaxElems 0) reg = 0
    rw [byteAt_fillBytes (Nat.le_of_eq captures.marksLength.symm)]
    split
    · rfl
    · rename_i outside
      apply byteAt_of_length_le
      rw [captures.marksLength]
      exact Nat.le_of_not_lt fun inside => outside ⟨Nat.zero_le _, inside⟩
  exact {
    valuesLength := (length_fillBytes _ _ _ _).trans captures.valuesLength
    marksLength := (length_fillBytes _ _ _ _).trans captures.marksLength
    within := Nat.zero_le _
    beyond := fun reg _ => cleared reg
    marked := fun reg => iff_of_false (fun set => set (cleared reg)) id
    fits := fun _ member => member.elim
    stored := fun _ member => member.elim }

/-- A write is taken over as a whole or not at all. -/
theorem record_cases (shadow : StateBlockConstShadow) (start count : UInt32)
    (data : Nat → UInt8) (elemSize : Nat) :
    (shadow.record start count data elemSize = shadow ∧
        recordedRegisters elemSize start count = ∅) ∨
      (FitsBlock elemSize start count ∧
        shadow.record start count data elemSize =
          { values := copyBytes shadow.values (start.toNat * elemSize)
              (count.toNat * elemSize) data
            trackedElems := fillBytes shadow.trackedElems start.toNat
              (start.toNat + count.toNat) 1
            valueSize := max shadow.valueSize
              ((start.toNat + count.toNat) * elemSize)
            trackedSize := max shadow.trackedSize
              (start.toNat + count.toNat) }) := by
  simp only [StateBlockConstShadow.record]
  split
  · rename_i zero
    refine .inl ⟨rfl, Set.eq_empty_iff_forall_notMem.mpr ?_⟩
    rintro reg ⟨_, lower, upper⟩
    have nothing : count.toNat = 0 := by
      rw [zero]
      rfl
    omega
  · split
    · rename_i past
      refine .inl ⟨rfl, Set.eq_empty_iff_forall_notMem.mpr ?_⟩
      rintro reg ⟨⟨elems, bytes⟩, _⟩
      rcases past with overBytes | overElems
      · exact Nat.not_lt_of_le bytes overBytes
      · exact Nat.not_lt_of_le elems overElems
    · rename_i inside
      rw [not_or, Nat.not_lt, Nat.not_lt] at inside
      exact .inr ⟨⟨inside.2, inside.1⟩, rfl⟩

theorem Captures.record (captures : Captures elemSize shadow captured)
    (start count : UInt32) (data : Nat → UInt8) :
    Captures elemSize (shadow.record start count data elemSize)
      (captured.step elemSize (.record start count data)) := by
  rcases record_cases shadow start count data elemSize with
    ⟨same, nothing⟩ | ⟨fits, taken⟩
  · rw [same]
    have kept : captured.step elemSize (.record start count data) =
        captured := by
      simp only [CapturedConstants.step, nothing, Set.union_empty,
        Set.mem_empty_iff_false, if_false]
    rw [kept]
    exact captures
  · rw [taken]
    have recorded : ∀ reg, reg ∈ recordedRegisters elemSize start count ↔
        start.toNat ≤ reg ∧ reg < start.toNat + count.toNat :=
      fun reg => and_iff_right fits
    have mark : ∀ reg, byteAt (fillBytes shadow.trackedElems start.toNat
        (start.toNat + count.toNat) 1) reg =
        if start.toNat ≤ reg ∧ reg < start.toNat + count.toNat then 1
        else byteAt shadow.trackedElems reg :=
      byteAt_fillBytes (Nat.le_trans fits.1
        (Nat.le_of_eq captures.marksLength.symm)) 1
    have room : start.toNat * elemSize + count.toNat * elemSize ≤
        shadow.values.length := by
      rw [← Nat.add_mul, captures.valuesLength]
      exact fits.2
    refine {
      valuesLength := (length_copyBytes _ _ _ _).trans captures.valuesLength
      marksLength := (length_fillBytes _ _ _ _).trans captures.marksLength
      within := Nat.max_le.mpr ⟨captures.within, fits.1⟩
      beyond := ?_
      marked := ?_
      fits := ?_
      stored := ?_ }
    · intro reg above
      have bounds := Nat.max_le.mp above
      rw [mark, if_neg (by omega)]
      exact captures.beyond reg bounds.1
    · intro reg
      change _ ↔ reg ∈ captured.tracked ∪ recordedRegisters elemSize start
        count
      rw [Set.mem_union, recorded, mark, ← captures.marked]
      split
      · rename_i inside
        exact iff_of_true (by decide) (.inr inside)
      · rename_i outside
        rw [or_iff_left outside]
    · rintro reg (member | member)
      · exact captures.fits reg member
      · have next : (reg + 1) * elemSize ≤
            (start.toNat + count.toNat) * elemSize :=
          Nat.mul_le_mul_right _ ((recorded reg).mp member).2
        rw [Nat.succ_mul] at next
        exact Nat.le_trans next fits.2
    · intro reg member byte inside
      dsimp only [CapturedConstants.step]
      rw [byteAt_copyBytes room]
      simp only [byte_in_block inside, recorded]
      split
      · rename_i inBlock
        unfold element
        congr 1
        have split : reg * elemSize =
            start.toNat * elemSize + (reg - start.toNat) * elemSize := by
          rw [← Nat.add_mul, Nat.add_sub_cancel' inBlock.1]
        omega
      · rename_i outside
        rcases member with member | member
        · exact captures.stored reg member byte inside
        · exact absurd ((recorded reg).mp member) outside

/-- What a refresh has done to the registers below one: the marked ones have
the live bytes, and no byte outside them has changed. -/
structure RefreshedBelow (live : ConstShadow) (elemSize : Nat)
    (before after : StateBlockConstShadow) (bound : Nat) : Prop where
  valuesLength : after.values.length = before.values.length
  marks : after.trackedElems = before.trackedElems
  size : after.trackedSize = before.trackedSize
  fresh : ∀ reg < bound, byteAt before.trackedElems reg ≠ 0 →
    ∀ byte < elemSize, byteAt after.values (reg * elemSize + byte) =
      liveRegister live elemSize reg byte
  frame : ∀ address,
    (∀ reg < bound, byteAt before.trackedElems reg ≠ 0 →
      ¬ InRegister elemSize reg address) →
    byteAt after.values address = byteAt before.values address

theorem byteAt_refreshRegister (live : ConstShadow) {reg : Nat}
    (isMarked : byteAt shadow.trackedElems reg ≠ 0)
    (fits : reg * elemSize + elemSize ≤ shadow.values.length)
    (address : Nat) :
    byteAt (shadow.refreshRegister live elemSize reg).values address =
      if InRegister elemSize reg address then
        liveRegister live elemSize reg (address - reg * elemSize)
      else byteAt shadow.values address := by
  unfold StateBlockConstShadow.refreshRegister liveRegister
  rw [if_neg isMarked]
  dsimp only
  split
  · rw [byteAt_copyBytes fits]
    rfl
  · rw [byteAt_fillBytes fits]
    rfl

theorem refreshedBelow (live : ConstShadow)
    (fits : ∀ reg, byteAt shadow.trackedElems reg ≠ 0 →
      reg * elemSize + elemSize ≤ shadow.values.length) (bound : Nat) :
    RefreshedBelow live elemSize shadow
      ((List.range bound).foldl
        (StateBlockConstShadow.refreshRegister live elemSize) shadow)
      bound := by
  induction bound with
  | zero =>
      exact ⟨rfl, rfl, rfl, fun _ below => absurd below (Nat.not_lt_zero _),
        fun _ _ => rfl⟩
  | succ bound induction =>
      rw [List.range_succ, List.foldl_append, List.foldl_cons, List.foldl_nil]
      generalize (List.range bound).foldl _ shadow = middle at induction ⊢
      by_cases isMarked : byteAt shadow.trackedElems bound = 0
      · have skipped : middle.refreshRegister live elemSize bound =
            middle := by
          unfold StateBlockConstShadow.refreshRegister
          rw [induction.marks, if_pos isMarked]
        rw [skipped]
        refine ⟨induction.valuesLength, induction.marks, induction.size,
          ?_, ?_⟩
        · intro reg below set
          rcases Nat.lt_succ_iff_lt_or_eq.mp below with less | same
          · exact induction.fresh reg less set
          · rw [same] at set
            exact absurd isMarked set
        · intro address outside
          exact induction.frame address fun reg less =>
            outside reg (Nat.lt_succ_of_lt less)
      · have marked : byteAt middle.trackedElems bound ≠ 0 := by
          rw [induction.marks]
          exact isMarked
        have room := fits bound isMarked
        rw [← induction.valuesLength] at room
        have bytes := byteAt_refreshRegister live marked room
        have others : ∀ field, field =
            middle.refreshRegister live elemSize bound →
            field.values.length = middle.values.length ∧
              field.trackedElems = middle.trackedElems ∧
              field.trackedSize = middle.trackedSize := by
          rintro _ rfl
          unfold StateBlockConstShadow.refreshRegister
          rw [if_neg marked]
          refine ⟨?_, rfl, rfl⟩
          dsimp only
          split
          · exact length_copyBytes _ _ _ _
          · exact length_fillBytes _ _ _ _
        obtain ⟨length, marks, size⟩ := others _ rfl
        refine ⟨length.trans induction.valuesLength,
          marks.trans induction.marks, size.trans induction.size, ?_, ?_⟩
        · intro reg below set byte inside
          rw [bytes]
          have register := inRegister_iff inside bound reg
          rcases Nat.lt_succ_iff_lt_or_eq.mp below with less | same
          · rw [if_neg fun both => absurd (register.mp both)
              (Nat.ne_of_gt less)]
            exact induction.fresh reg less set byte inside
          · rw [if_pos (register.mpr same.symm), same, Nat.add_sub_cancel_left]
        · intro address outside
          rw [bytes, if_neg (outside bound (Nat.lt_succ_self _) isMarked)]
          exact induction.frame address fun reg less =>
            outside reg (Nat.lt_succ_of_lt less)

section

variable (captures : Captures elemSize shadow captured)
include captures

theorem Captures.refreshed
    (live : ConstShadow) :
    RefreshedBelow live elemSize shadow (shadow.refreshFrom live elemSize)
      shadow.trackedSize :=
  refreshedBelow live (fun reg set =>
    Nat.le_trans (captures.fits reg ((captures.marked reg).mp set))
      (Nat.le_of_eq captures.valuesLength.symm)) _

theorem Captures.refresh
    (live : ConstShadow) :
    Captures elemSize (shadow.refreshFrom live elemSize)
      (captured.step elemSize (.refresh live)) := by
  have refreshed := captures.refreshed live
  exact {
    valuesLength := refreshed.valuesLength.trans captures.valuesLength
    marksLength :=
      (congrArg List.length refreshed.marks).trans captures.marksLength
    within := Nat.le_trans (Nat.le_of_eq refreshed.size) captures.within
    beyond := by
      intro reg above
      rw [refreshed.marks]
      rw [refreshed.size] at above
      exact captures.beyond reg above
    marked := by
      intro reg
      rw [refreshed.marks]
      exact captures.marked reg
    fits := captures.fits
    stored := by
      intro reg member byte inside
      have set := (captures.marked reg).mpr member
      have below : reg < shadow.trackedSize := by
        by_contra outside
        exact set (captures.beyond reg (Nat.le_of_not_lt outside))
      rw [refreshed.fresh reg below set byte inside]
      dsimp only [CapturedConstants.step]
      have tracked : reg ∈ captured.tracked := member
      rw [if_pos tracked] }

theorem Captures.step
    (op : CaptureOp) :
    Captures elemSize (shadow.step elemSize op)
      (captured.step elemSize op) := by
  cases op with
  | record start count data => exact captures.record start count data
  | refresh live => exact captures.refresh live
  | clear => exact captures.clear

end

theorem captures_run (elemSize : Nat) (ops : List CaptureOp) :
    Captures elemSize
      (run (StateBlockConstShadow.step elemSize) {} ops)
      (run (CapturedConstants.step elemSize) .empty ops) := by
  induction ops using List.reverseRecOn with
  | nil => exact captures_empty
  | append_singleton ops op induction =>
      rw [run_append, run_append]
      exact induction.step op

/-- A write behind the last clear recorded the register. -/
def RecordedSinceClear (elemSize : Nat) (ops : List CaptureOp)
    (reg : Nat) : Prop :=
  ∃ before start count data after,
    ops = before ++ .record start count data :: after ∧
      CaptureOp.clear ∉ after ∧
      reg ∈ recordedRegisters elemSize start count

/-- One more step: it records the register itself, or it is not a clear and
the register was recorded before. -/
theorem recordedSinceClear_snoc (elemSize : Nat) (ops : List CaptureOp)
    (op : CaptureOp) (reg : Nat) :
    RecordedSinceClear elemSize (ops ++ [op]) reg ↔
      (op ≠ .clear ∧ RecordedSinceClear elemSize ops reg) ∨
        ∃ start count data, op = .record start count data ∧
          reg ∈ recordedRegisters elemSize start count := by
  constructor
  · rintro ⟨before, start, count, data, after, split, kept, member⟩
    rcases append_singleton_eq split with ⟨rfl, same⟩ | ⟨rest, same⟩
    · exact .inr ⟨start, count, data, same.symm, member⟩
    · rw [same, List.append_assoc, List.append_cancel_left_eq,
        List.cons_append, List.cons.injEq] at split
      rw [← split.2, List.mem_append, List.mem_singleton, not_or] at kept
      exact .inl ⟨Ne.symm kept.2, before, start, count, data, rest, same,
        kept.1, member⟩
  · rintro (⟨other, before, start, count, data, after, rfl, kept, member⟩ |
      ⟨start, count, data, rfl, member⟩)
    · refine ⟨before, start, count, data, after ++ [op], ?_, ?_, member⟩
      · rw [List.append_assoc, List.cons_append]
      · rw [List.mem_append, List.mem_singleton, not_or]
        exact ⟨kept, Ne.symm other⟩
    · exact ⟨ops, start, count, data, [], rfl, List.not_mem_nil, member⟩

/-- The tracked registers are those of the writes behind the last clear. -/
theorem mem_tracked_iff (elemSize : Nat) (ops : List CaptureOp)
    (reg : Nat) :
    reg ∈ (run (CapturedConstants.step elemSize) .empty ops).tracked ↔
      RecordedSinceClear elemSize ops reg := by
  induction ops using List.reverseRecOn with
  | nil =>
      refine iff_of_false id ?_
      rintro ⟨before, start, count, data, after, split, _⟩
      exact List.append_ne_nil_of_right_ne_nil before
        (List.cons_ne_nil _ _) split.symm
  | append_singleton ops op induction =>
      rw [run_append, recordedSinceClear_snoc, ← induction]
      cases op with
      | record start count data =>
          constructor
          · rintro (earlier | member)
            · exact .inl ⟨nofun, earlier⟩
            · exact .inr ⟨start, count, data, rfl, member⟩
          · rintro (⟨_, earlier⟩ | ⟨_, _, _, same, member⟩)
            · exact .inl earlier
            · cases same
              exact .inr member
      | refresh live =>
          constructor
          · exact fun earlier => .inl ⟨nofun, earlier⟩
          · rintro (⟨_, earlier⟩ | ⟨_, _, _, same, _⟩)
            · exact earlier
            · exact nomatch same
      | clear =>
          refine iff_of_false id ?_
          rintro (⟨other, _⟩ | ⟨_, _, _, same, _⟩)
          · exact other rfl
          · exact nomatch same

/-- The ranges that the loop finds: the runs of marks. -/
def StateBlockConstShadow.ranges (shadow : StateBlockConstShadow) :
    List (Nat × Nat) :=
  runsFrom (fun reg => byteAt shadow.trackedElems reg != 0)
    shadow.trackedSize shadow.trackedSize 0

/-- The loop gives its visitor one run of marks after another. -/
theorem forEachRangeFrom_eq {σ : Type} (shadow : StateBlockConstShadow)
    (elemSize : Nat) (fn : StateBlockConstShadow.Visitor σ)
    (rounds start : Nat) (inside : start ≤ shadow.trackedSize) (state : σ) :
    shadow.forEachRangeFrom elemSize fn rounds start state =
      visitRanges fn
        (fun first => bytesFrom shadow.values (first * elemSize))
        (runsFrom (fun reg => byteAt shadow.trackedElems reg != 0)
          shadow.trackedSize rounds start) state := by
  induction rounds generalizing start state with
  | zero => rfl
  | succ rounds induction =>
      have same : (fun reg => byteAt shadow.trackedElems reg == 0) =
          fun reg => !(byteAt shadow.trackedElems reg != 0) := by
        funext reg
        exact (Bool.not_not _).symm
      have skipped := skipWhile_spec
        (fun reg => byteAt shadow.trackedElems reg == 0)
        (shadow.trackedSize - start) start
      rw [StateBlockConstShadow.forEachRangeFrom, runsFrom, ← same]
      dsimp only
      generalize skipWhile (fun reg => byteAt shadow.trackedElems reg == 0)
        (shadow.trackedSize - start) start = first at skipped ⊢
      have upper := skipped.upper
      rw [Nat.add_sub_cancel' inside] at upper
      by_cases ended : shadow.trackedSize ≤ first
      · rw [if_pos ended, if_pos (Nat.le_antisymm upper ended), ite_self]
        rfl
      · have found := Nat.lt_of_not_le ended
        rw [if_neg ended, if_neg (Nat.ne_of_lt found),
          if_pos (Nat.lt_of_le_of_lt skipped.lower found)]
        have run := skipWhile_spec
          (fun reg => byteAt shadow.trackedElems reg != 0)
          (shadow.trackedSize - (first + 1)) (first + 1)
        have bound := run.upper
        rw [Nat.add_sub_cancel' found] at bound
        rw [visitRanges]
        split
        · rfl
        · exact induction _ bound _

theorem forEachRange_eq {σ : Type} (shadow : StateBlockConstShadow)
    (elemSize : Nat) (fn : StateBlockConstShadow.Visitor σ) (state : σ) :
    shadow.forEachRange elemSize fn state =
      visitRanges fn
        (fun first => bytesFrom shadow.values (first * elemSize))
        shadow.ranges state :=
  forEachRangeFrom_eq shadow elemSize fn _ 0 (Nat.zero_le _) state

theorem mem_ranges (shadow : StateBlockConstShadow) (first count : Nat) :
    (first, count) ∈ shadow.ranges ↔
      MaximalRun (fun reg => shadow.contains reg = true) first count := by
  have same : (fun reg => shadow.contains reg = true) =
      MarkedBelow (fun reg => byteAt shadow.trackedElems reg != 0)
        shadow.trackedSize := by
    funext reg
    rw [StateBlockConstShadow.contains, Bool.and_eq_true, decide_eq_true_eq]
    rfl
  rw [same, StateBlockConstShadow.ranges, mem_runsFrom (Nat.sub_le _ _)
    (Nat.zero_le _) (fun _ => .inl rfl)]
  exact and_iff_right (Nat.zero_le _)

theorem ranges_increasing (shadow : StateBlockConstShadow) :
    shadow.ranges.Pairwise fun range next =>
      range.1 + range.2 < next.1 :=
  runsFrom_increasing (Nat.zero_le _) (Nat.sub_le _ _) (fun _ => .inl rfl)

/-- After any steps, a register is contained just when a write behind the last
clear recorded it.  A visit is given the maximal runs of these registers, from
the lowest on, each with the bytes stored for it, until the visitor refuses
one.  A further refresh keeps the contained registers and changes no byte
outside them. -/
theorem stateBlockConstShadow_captures (elemSize : Nat)
    (ops : List CaptureOp) :
    let shadow := run (StateBlockConstShadow.step elemSize) {} ops
    let captured := run (CapturedConstants.step elemSize) .empty ops
    (∀ reg, shadow.contains reg = true ↔
        RecordedSinceClear elemSize ops reg) ∧
      (∃ ranges : List (Nat × Nat),
        (∀ first count, (first, count) ∈ ranges ↔
          MaximalRun (RecordedSinceClear elemSize ops) first count) ∧
        (ranges.Pairwise fun range next => range.1 + range.2 < next.1) ∧
        ∃ bytes : Nat → Nat → UInt8,
          (∀ range ∈ ranges, ∀ index < range.2, ∀ byte < elemSize,
            bytes range.1 (index * elemSize + byte) =
              captured.value (range.1 + index) byte) ∧
          ∀ (σ : Type) (fn : StateBlockConstShadow.Visitor σ) (state : σ),
            shadow.forEachRange elemSize fn state =
              visitRanges fn bytes ranges state) ∧
      ∀ live,
        (∀ reg, (shadow.refreshFrom live elemSize).contains reg =
          shadow.contains reg) ∧
        ∀ address,
          (∀ reg, shadow.contains reg = true →
            ¬ InRegister elemSize reg address) →
          byteAt (shadow.refreshFrom live elemSize).values address =
            byteAt shadow.values address := by
  intro shadow captured
  have captures : Captures elemSize shadow captured :=
    captures_run elemSize ops
  have contains : ∀ reg, shadow.contains reg = true ↔
      RecordedSinceClear elemSize ops reg := fun reg =>
    (captures.contains_iff reg).trans (mem_tracked_iff elemSize ops reg)
  have sameRegisters : (fun reg => shadow.contains reg = true) =
      RecordedSinceClear elemSize ops :=
    funext fun reg => propext (contains reg)
  refine ⟨contains, ⟨shadow.ranges, ?_, ranges_increasing shadow,
    fun first => bytesFrom shadow.values (first * elemSize), ?_,
    fun _ fn state => forEachRange_eq shadow elemSize fn state⟩, ?_⟩
  · intro first count
    rw [mem_ranges, sameRegisters]
  · rintro ⟨first, count⟩ member index inside byte below
    have run := (mem_ranges shadow first count).mp member
    have tracked : first + index ∈ captured.tracked :=
      (captures.contains_iff _).mp (run.holds _ (Nat.le_add_right _ _)
        (Nat.add_lt_add_left inside _))
    rw [← captures.stored _ tracked byte below, Nat.add_mul, Nat.add_assoc]
    rfl
  · intro live
    have refreshed := captures.refreshed live
    refine ⟨fun reg => ?_, fun address outside => ?_⟩
    · rw [StateBlockConstShadow.contains, refreshed.marks, refreshed.size]
      rfl
    · refine refreshed.frame address fun reg below set => outside reg ?_
      exact (captures.contains_iff reg).mpr ((captures.marked reg).mp set)

end Dxmt9.Constants
