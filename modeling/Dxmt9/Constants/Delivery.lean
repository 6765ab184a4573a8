import Dxmt9.Constants.ConstShadow

/-!
# Delivery of constants

A register that is not marked has the bytes that the receiver has, and the
marked ones are inside the dirty interval, so sending the interval brings the
receiver to the shadow.
-/

namespace Dxmt9.Constants

open Dxmt9.Memory Dxmt9.Transition

/-- A live write is queued unless the register is there and equal. -/
theorem live_writePending (contains equals pending : Bool) :
    (planRecorderStateWrite
      { phase := .live
        origin := .explicitSet
        liveContains := contains
        liveEquals := equals
        pendingContains := pending }).writePending =
      !(contains && equals) := by
  revert contains equals pending
  decide

theorem sameBytes_iff (size : Nat) (left right : Nat → UInt8) :
    sameBytes size left right = true ↔
      ∀ index < size, left index = right index := by
  simp only [sameBytes, List.all_eq_true, List.mem_range, beq_iff_eq]

theorem xor_eq_zero_iff (left right : UInt32) :
    left ^^^ right = 0 ↔ left = right := by
  rw [← UInt32.toBitVec_inj, ← UInt32.toBitVec_inj, UInt32.toBitVec_xor]
  exact BitVec.xor_eq_zero_iff

theorem or_eq_zero_iff (left right : UInt32) :
    left ||| right = 0 ↔ left = 0 ∧ right = 0 := by
  rw [← UInt32.toBitVec_inj, ← UInt32.toBitVec_inj, ← UInt32.toBitVec_inj,
    UInt32.toBitVec_or]
  exact BitVec.or_eq_zero_iff

/-- The fixed-width comparison compares every byte of the register. -/
theorem constShadowFixedElemEquals_iff {elemSize : Nat}
    (width : elemSize = 4 ∨ elemSize = 16)
    (destination source : Nat → UInt8) :
    constShadowFixedElemEquals elemSize destination source = true ↔
      ∀ index < elemSize, destination index = source index := by
  rcases width with rfl | rfl
  · unfold constShadowFixedElemEquals
    rw [if_pos rfl, beq_iff_eq, loadWord_inj]
  · unfold constShadowFixedElemEquals
    rw [if_neg (by decide)]
    simp only [beq_iff_eq, or_eq_zero_iff, xor_eq_zero_iff, loadWord_inj]
    constructor
    · rintro ⟨⟨⟨first, second⟩, third⟩, fourth⟩ index inside
      by_cases below4 : index < 4
      · exact first index below4
      · by_cases below8 : index < 8
        · have same := second (index - 4) (by omega)
          rwa [Nat.add_sub_cancel' (by omega)] at same
        · by_cases below12 : index < 12
          · have same := third (index - 8) (by omega)
            rwa [Nat.add_sub_cancel' (by omega)] at same
          · have same := fourth (index - 12) (by omega)
            rwa [Nat.add_sub_cancel' (by omega)] at same
    · intro same
      refine ⟨⟨⟨?_, ?_⟩, ?_⟩, ?_⟩
      · exact fun index inside => same index (by omega)
      · exact fun index inside => same (4 + index) (by omega)
      · exact fun index inside => same (8 + index) (by omega)
      · exact fun index inside => same (12 + index) (by omega)

/-! ## The loop over the registers -/

theorem div_eq_iff_mem {elemSize : Nat} (positive : 0 < elemSize)
    (reg address : Nat) :
    address / elemSize = reg ↔
      reg * elemSize ≤ address ∧ address < reg * elemSize + elemSize := by
  rw [Nat.div_eq_iff positive]
  constructor
  · intro bounds
    omega
  · intro bounds
    omega

/-- What the first `done` registers of a write changed: the bytes are those of
the source, and the marks cover every changed register. -/
structure Reduced (elemSize start count : Nat) (values marks : List UInt8)
    (source : Nat → UInt8) (done : Nat) (reduction : Reduction) : Prop where
  values_length : reduction.values.length = values.length
  marks_length : reduction.dirtyElems.length = marks.length
  marked : ∀ reg, byteAt reduction.dirtyElems reg ≠ 0 →
    byteAt marks reg ≠ 0 ∨
      start + reduction.firstChanged ≤ reg ∧
        reg < start + reduction.lastChanged
  clean : ∀ address, byteAt reduction.dirtyElems (address / elemSize) = 0 →
    byteAt marks (address / elemSize) = 0 ∧
      byteAt reduction.values address = byteAt values address
  written : ∀ address, byteAt reduction.values address =
    if start * elemSize ≤ address ∧ address < (start + done) * elemSize then
      source (address - start * elemSize)
    else byteAt values address
  order : reduction.firstChanged = count ∧ reduction.lastChanged = 0 ∨
    reduction.firstChanged < reduction.lastChanged ∧
      reduction.lastChanged ≤ done

section Loop

variable {elemSize start count : Nat} {values marks : List UInt8}
  {source : Nat → UInt8} {done : Nat} {reduction : Reduction}

theorem reduced_start :
    Reduced elemSize start count values marks source 0
      { values := values
        dirtyElems := marks
        firstChanged := count
        lastChanged := 0 } := by
  constructor
  · rfl
  · rfl
  · exact fun reg marked => Or.inl marked
  · exact fun address clean => ⟨clean, rfl⟩
  · intro address
    rw [if_neg]
    simp only [Nat.add_zero]
    omega
  · exact Or.inl ⟨rfl, rfl⟩

/-- The bytes after one more register, whichever of the two was done. -/
theorem written_succ
    (before : ∀ address, byteAt reduction.values address =
      if start * elemSize ≤ address ∧
          address < (start + done) * elemSize then
        source (address - start * elemSize)
      else byteAt values address)
    (address : Nat) :
    (if (start + done) * elemSize ≤ address ∧
        address < (start + done) * elemSize + elemSize then
      element source elemSize done (address - (start + done) * elemSize)
    else byteAt reduction.values address) =
    if start * elemSize ≤ address ∧
        address < (start + (done + 1)) * elemSize then
      source (address - start * elemSize)
    else byteAt values address := by
  have next : (start + (done + 1)) * elemSize =
      (start + done) * elemSize + elemSize := by
    rw [← Nat.add_assoc, Nat.succ_mul]
  have split : (start + done) * elemSize =
      start * elemSize + done * elemSize := Nat.add_mul _ _ _
  rw [before, next]
  by_cases inElement : (start + done) * elemSize ≤ address ∧
      address < (start + done) * elemSize + elemSize
  · rw [if_pos inElement, if_pos (by omega)]
    unfold element
    congr 1
    omega
  · rw [if_neg inElement]
    by_cases inRange : start * elemSize ≤ address ∧
        address < (start + done) * elemSize
    · rw [if_pos inRange, if_pos (by omega)]
    · rw [if_neg inRange, if_neg (by omega)]

section

variable (reduced : Reduced elemSize start count values marks source done
    reduction)
include reduced

/-- Skipping an equal register. -/
theorem Reduced.skip
    (same : ∀ index < elemSize,
      bytesFrom reduction.values ((start + done) * elemSize) index =
        element source elemSize done index) :
    Reduced elemSize start count values marks source (done + 1)
      reduction := by
  refine ⟨reduced.values_length, reduced.marks_length, reduced.marked,
    reduced.clean, ?_, ?_⟩
  · intro address
    rw [← written_succ reduced.written]
    split
    · rename_i inElement
      have equal := same (address - (start + done) * elemSize) (by omega)
      rw [← equal, bytesFrom, Nat.add_sub_cancel' inElement.1]
    · rfl
  · rcases reduced.order with none | ⟨less, bound⟩
    · exact Or.inl none
    · exact Or.inr ⟨less, Nat.le_succ_of_le bound⟩

/-- Copying a register and marking it. -/
theorem Reduced.write
    (positive : 0 < elemSize) (todo : done < count)
    (valuesFit : (start + count) * elemSize ≤ values.length)
    (marksFit : start + count ≤ marks.length) :
    Reduced elemSize start count values marks source (done + 1)
      (reduction.write elemSize start source done) := by
  have fits : (start + done) * elemSize + elemSize ≤
      reduction.values.length := by
    rw [reduced.values_length, ← Nat.succ_mul]
    exact Nat.le_trans (Nat.mul_le_mul_right elemSize (by omega)) valuesFit
  have inside : start + done < reduction.dirtyElems.length := by
    rw [reduced.marks_length]
    omega
  have first : min reduction.firstChanged done ≤ done := Nat.min_le_right _ _
  have earlier : min reduction.firstChanged done ≤ reduction.firstChanged :=
    Nat.min_le_left _ _
  constructor
  · exact (length_copyBytes _ _ _ _).trans reduced.values_length
  · exact List.length_set.trans reduced.marks_length
  · intro reg marked
    simp only [Reduction.write] at marked ⊢
    rw [byteAt_set inside] at marked
    by_cases same : reg = start + done
    · right
      omega
    · rw [if_neg same] at marked
      rcases reduced.marked reg marked with before | changed
      · exact Or.inl before
      · right
        rcases reduced.order with ⟨_, none⟩ | ⟨less, bound⟩
        · omega
        · omega
  · intro address clean
    simp only [Reduction.write] at clean ⊢
    rw [byteAt_set inside] at clean
    by_cases same : address / elemSize = start + done
    · rw [if_pos same] at clean
      contradiction
    · rw [if_neg same] at clean
      rw [byteAt_copyBytes fits, if_neg]
      · exact reduced.clean address clean
      · rw [← div_eq_iff_mem positive]
        exact same
  · intro address
    rw [← written_succ reduced.written]
    exact byteAt_copyBytes fits _ _
  · right
    simp only [Reduction.write]
    omega

end

/-- The loop of the fixed-width path. -/
theorem reduced_fixedStep (width : elemSize = 4 ∨ elemSize = 16)
    (valuesFit : (start + count) * elemSize ≤ values.length)
    (marksFit : start + count ≤ marks.length) {upTo : Nat}
    (bound : upTo ≤ count) :
    Reduced elemSize start count values marks source upTo
      ((List.range upTo).foldl (fixedStep elemSize start source)
        { values := values
          dirtyElems := marks
          firstChanged := count
          lastChanged := 0 }) := by
  induction upTo with
  | zero => exact reduced_start
  | succ before induction =>
      have reduced := induction (Nat.le_of_succ_le bound)
      rw [List.range_succ, List.foldl_append, List.foldl_cons,
        List.foldl_nil, fixedStep]
      have changes : kConstShadowLiveWritesChangedValue = true := rfl
      rw [changes, Bool.not_true, Bool.false_or]
      split
      · rename_i equal
        exact reduced.skip
          ((constShadowFixedElemEquals_iff width _ _).mp equal)
      · apply reduced.write _ bound valuesFit marksFit
        rcases width with rfl | rfl
        · decide
        · decide

/-- The loop of the reference path, when it applies a live write. -/
theorem reduced_reduceStep (positive : 0 < elemSize)
    (oldValueSize oldElemSize : Nat)
    (valuesFit : (start + count) * elemSize ≤ values.length)
    (marksFit : start + count ≤ marks.length) {upTo : Nat}
    (bound : upTo ≤ count) :
    let state := (List.range upTo).foldl
      (reduceStep .live .apply start elemSize oldValueSize oldElemSize source)
      { result := {}
        reduction :=
          { values := values
            dirtyElems := marks
            firstChanged := count
            lastChanged := 0 }
        changed := false }
    Reduced elemSize start count values marks source upTo state.reduction ∧
      (state.changed = true ↔
        state.reduction.firstChanged < state.reduction.lastChanged) := by
  induction upTo with
  | zero =>
      refine ⟨reduced_start, ?_⟩
      simp
  | succ before induction =>
      obtain ⟨reduced, changed⟩ := induction (Nat.le_of_succ_le bound)
      simp only at reduced changed ⊢
      rw [List.range_succ, List.foldl_append, List.foldl_cons, List.foldl_nil]
      generalize (List.range before).foldl
        (reduceStep .live .apply start elemSize oldValueSize oldElemSize
          source) _ = state at reduced changed ⊢
      unfold reduceStep
      simp only [live_writePending, bne_self_eq_false, Bool.false_or,
        Bool.not_not, beq_self_eq_true, Bool.true_or]
      split
      · rename_i equal
        have same : constShadowTransitionElemEquals state.reduction.values
            ((start + before) * elemSize) true
            (element source elemSize before) elemSize = true := by
          rcases Bool.or_eq_true_iff.mp equal with both | same
          · exact (Bool.and_eq_true_iff.mp both).2
          · exact same
        refine ⟨reduced.skip ((sameBytes_iff _ _ _).mp same), changed⟩
      · refine ⟨reduced.write positive bound valuesFit marksFit, ?_⟩
        refine iff_of_true rfl ?_
        simp only [Reduction.write]
        omega

end Loop

def ConstShadow.Marked (shadow : ConstShadow) (reg : Nat) : Prop :=
  byteAt shadow.dirtyElems reg ≠ 0

/-- The marks are inside the interval, the interval inside the shadow, and
every register that is not marked has been sent. -/
structure Tracks (elemSize : Nat) (delivery : Delivery) : Prop where
  hull : ∀ reg, delivery.shadow.Marked reg →
    delivery.shadow.dirtyStart ≤ reg ∧ reg < delivery.shadow.dirtyEnd
  marksInside : delivery.shadow.dirty = true →
    delivery.shadow.dirtyEnd ≤ delivery.shadow.dirtyElems.length
  valuesInside : delivery.shadow.dirty = true →
    delivery.shadow.dirtyEnd * elemSize ≤ delivery.shadow.values.length
  sized : delivery.shadow.dirty = true → 0 < elemSize
  clean : ∀ address, ¬delivery.shadow.Marked (address / elemSize) →
    delivery.registers address = byteAt delivery.shadow.values address
  written : ∀ address,
    byteAt delivery.shadow.values address = delivery.written address

/-- A shadow that was delivered, of any size. -/
def Delivery.initial (values : List UInt8) (elems : Nat) : Delivery :=
  { shadow := { values := values, dirtyElems := List.replicate elems 0 }
    registers := byteAt values
    written := byteAt values }

theorem tracks_initial (elemSize : Nat) (values : List UInt8)
    (elems : Nat) : Tracks elemSize (Delivery.initial values elems) := by
  constructor
  · intro reg marked
    exact absurd (byteAt_replicate_zero elems reg) marked
  · intro dirty
    contradiction
  · intro dirty
    contradiction
  · intro dirty
    contradiction
  · exact fun address _ => rfl
  · exact fun address => rfl

/-- The interval after the loop of a write: it covers the old one and the
changed registers, and ends with one of them. -/
theorem joinChanged_spec (before : ConstShadow) (reduction : Reduction)
    (start : Nat) {shadow : ConstShadow}
    (joined : shadow = if reduction.firstChanged < reduction.lastChanged then
        ConstShadow.joinDirty
          { before with
            values := reduction.values
            dirtyElems := reduction.dirtyElems }
          (start + reduction.firstChanged) (start + reduction.lastChanged)
      else
        { before with
          values := reduction.values
          dirtyElems := reduction.dirtyElems }) :
    shadow.values = reduction.values ∧
      shadow.dirtyElems = reduction.dirtyElems ∧
      (∀ reg, (before.dirtyStart ≤ reg ∧ reg < before.dirtyEnd ∨
          start + reduction.firstChanged ≤ reg ∧
            reg < start + reduction.lastChanged) →
        shadow.dirtyStart ≤ reg ∧ reg < shadow.dirtyEnd) ∧
      (shadow.dirty = true →
        before.dirty = true ∧ shadow.dirtyEnd ≤ before.dirtyEnd ∨
          shadow.dirtyEnd ≤ start + reduction.lastChanged) := by
  subst joined
  by_cases changed : reduction.firstChanged < reduction.lastChanged
  · rw [if_pos changed]
    unfold ConstShadow.joinDirty
    by_cases dirty : before.dirtyStart < before.dirtyEnd
    · have wasDirty : before.dirty = true := decide_eq_true dirty
      rw [if_neg (by simp [ConstShadow.dirty, dirty])]
      refine ⟨rfl, rfl, ?_, ?_⟩
      · intro reg inside
        simp only
        omega
      · intro _
        simp only
        rcases Nat.le_total (start + reduction.lastChanged)
            before.dirtyEnd with below | above
        · exact Or.inl ⟨wasDirty, Nat.le_of_eq (Nat.max_eq_left below)⟩
        · exact Or.inr (Nat.le_of_eq (Nat.max_eq_right above))
    · rw [if_pos (by simp [ConstShadow.dirty, dirty])]
      refine ⟨rfl, rfl, ?_, fun _ => Or.inr (Nat.le_refl _)⟩
      intro reg inside
      simp only
      omega
  · rw [if_neg changed]
    refine ⟨rfl, rfl, ?_, ?_⟩
    · intro reg inside
      simp only
      omega
    · exact fun dirty => Or.inl ⟨dirty, Nat.le_refl _⟩

/-- The state after the loop of a write keeps track, with the interval grown
when a register changed. -/
theorem Tracks.reduce {elemSize : Nat} {delivery : Delivery}
    (tracks : Tracks elemSize delivery) (positive : 0 < elemSize)
    {start count : Nat}
    {source : Nat → UInt8} {reduction : Reduction}
    (reduced : Reduced elemSize start count
      (growBytes delivery.shadow.values ((start + count) * elemSize))
      (growBytes delivery.shadow.dirtyElems (start + count)) source count
      reduction)
    {shadow : ConstShadow}
    (joined : shadow = if reduction.firstChanged < reduction.lastChanged then
        ConstShadow.joinDirty
          { delivery.shadow with
            values := reduction.values
            dirtyElems := reduction.dirtyElems }
          (start + reduction.firstChanged) (start + reduction.lastChanged)
      else
        { delivery.shadow with
          values := reduction.values
          dirtyElems := reduction.dirtyElems }) :
    Tracks elemSize
      { delivery with
        shadow := shadow
        written := overwrite elemSize start (start + count) source
          delivery.written } := by
  obtain ⟨sameValues, sameMarks, covers, within⟩ :=
    joinChanged_spec delivery.shadow reduction start joined
  have lastBound : start + reduction.lastChanged ≤ start + count := by
    rcases reduced.order with ⟨_, none⟩ | ⟨_, bound⟩
    · omega
    · omega
  have marksGrown : delivery.shadow.dirtyElems.length ≤
        shadow.dirtyElems.length ∧
      start + count ≤ shadow.dirtyElems.length := by
    rw [sameMarks, reduced.marks_length]
    exact ⟨length_le_growBytes _ _, le_length_growBytes _ _⟩
  have valuesGrown : delivery.shadow.values.length ≤ shadow.values.length ∧
      (start + count) * elemSize ≤ shadow.values.length := by
    rw [sameValues, reduced.values_length]
    exact ⟨length_le_growBytes _ _, le_length_growBytes _ _⟩
  constructor
  · intro reg marked
    apply covers
    simp only [ConstShadow.Marked, sameMarks] at marked
    rcases reduced.marked reg marked with before | changed
    · rw [byteAt_growBytes] at before
      exact Or.inl (tracks.hull reg before)
    · exact Or.inr changed
  · intro dirty
    rcases within dirty with ⟨wasDirty, bound⟩ | bound
    · exact Nat.le_trans bound
        (Nat.le_trans (tracks.marksInside wasDirty) marksGrown.1)
    · exact Nat.le_trans bound (Nat.le_trans lastBound marksGrown.2)
  · intro dirty
    rcases within dirty with ⟨wasDirty, bound⟩ | bound
    · exact Nat.le_trans (Nat.mul_le_mul_right elemSize bound)
        (Nat.le_trans (tracks.valuesInside wasDirty) valuesGrown.1)
    · exact Nat.le_trans (Nat.mul_le_mul_right elemSize
        (Nat.le_trans bound lastBound)) valuesGrown.2
  · exact fun _ => positive
  · intro address notMarked
    simp only [ConstShadow.Marked, sameMarks, not_not] at notMarked
    obtain ⟨wasClean, sameByte⟩ := reduced.clean address notMarked
    rw [byteAt_growBytes] at wasClean sameByte
    simp only [sameValues]
    rw [sameByte]
    exact tracks.clean address (not_not.mpr wasClean)
  · intro address
    simp only [sameValues]
    rw [reduced.written, byteAt_growBytes, tracks.written]
    rfl

theorem overwrite_empty (elemSize start : Nat)
    (source bytes : Nat → UInt8) :
    overwrite elemSize start start source bytes = bytes := by
  funext address
  unfold overwrite
  rw [if_neg]
  omega

theorem admitted_zero (elemSize start limit : Nat)
    (data : Option (Nat → UInt8)) (bytes : Nat → UInt8) :
    admitted elemSize start 0 limit data bytes = bytes := by
  unfold admitted
  cases data with
  | none => rfl
  | some source =>
      simp only [Nat.add_zero, overwrite_empty, ite_self]

theorem Tracks.applyLive {elemSize : Nat} {delivery : Delivery}
    (tracks : Tracks elemSize delivery)
    (width : elemSize = 4 ∨ elemSize = 16) (maxRegisters : Nat)
    (start count : UInt32) (data : Option (Nat → UInt8)) :
    Tracks elemSize
      { delivery with
        shadow := applyConstShadowLive delivery.shadow elemSize
          maxRegisters start count data
        written := admitted elemSize start.toNat count.toNat maxRegisters
          data delivery.written } := by
  unfold applyConstShadowLive
  split
  · rename_i empty
    have none : count.toNat = 0 := by
      rw [empty]
      rfl
    rw [none, admitted_zero]
    exact tracks
  · cases data with
    | none => exact tracks
    | some source =>
        simp only [admitted]
        split
        · exact tracks
        · have reduced := @reduced_fixedStep elemSize start.toNat count.toNat
            (growBytes delivery.shadow.values
              ((start.toNat + count.toNat) * elemSize))
            (growBytes delivery.shadow.dirtyElems
              (start.toNat + count.toNat)) source width
            (le_length_growBytes _ _) (le_length_growBytes _ _) count.toNat
            (Nat.le_refl _)
          have positive : 0 < elemSize := by
            rcases width with rfl | rfl
            · decide
            · decide
          apply tracks.reduce positive reduced
          unfold applyNonEmpty
          simp only [Nat.add_sub_cancel_left]
          have order := reduced.order
          split
          · rw [if_neg (by omega)]
          · rw [if_pos (by omega)]

/-- The bound of the reference path is the bound on the bytes. -/
theorem limit_lt_iff {elemSize stop : Nat} (positive : 0 < elemSize)
    (nonempty : 0 < stop) :
    0xffffffff / elemSize < stop ↔
      0xffffffff < stop ∨ 0xffffffff / stop < elemSize := by
  rw [Nat.div_lt_iff_lt_mul positive, Nat.div_lt_iff_lt_mul nonempty,
    Nat.mul_comm elemSize stop]
  constructor
  · exact Or.inr
  · rintro (beyond | beyond)
    · exact Nat.lt_of_lt_of_le beyond (Nat.le_mul_of_pos_right stop positive)
    · exact beyond

/-- Only an applied live write reaches the shadow. -/
theorem reduce_observe (shadow : ConstShadow) {phase : RecorderPhase}
    {mode : ConstShadowTransitionMode}
    (other : ¬(phase = .live ∧ mode = .apply)) (start count : UInt32)
    (data : Option (Nat → UInt8)) (elemSize : Nat) :
    (reduceConstShadowTransition shadow phase mode start count data
      elemSize).2 = shadow := by
  unfold reduceConstShadowTransition
  split
  · rfl
  · cases data with
    | none => rfl
    | some source =>
        simp only
        split
        · rfl
        · cases mode with
          | apply =>
              have notLive : phase ≠ .live := fun live => other ⟨live, rfl⟩
              rw [if_pos (by simp [notLive])]
          | observe =>
              have kept : ∀ (registers : List Nat)
                  (state : ReferenceReduction),
                  (registers.foldl (reduceStep phase .observe start.toNat
                    elemSize shadow.values.length shadow.dirtyElems.length
                    source) state).reduction = state.reduction := by
                intro registers
                induction registers with
                | nil => exact fun state => rfl
                | cons register rest induction =>
                    intro state
                    rw [List.foldl_cons, induction]
                    rfl
              rw [if_neg (by simp)]
              split
              · rfl
              · simp only [kept]
                rw [if_neg (by simp)]
                rfl

theorem Tracks.reduceLive {elemSize : Nat} {delivery : Delivery}
    (tracks : Tracks elemSize delivery) (start count : UInt32)
    (data : Option (Nat → UInt8)) :
    Tracks elemSize
      { delivery with
        shadow := (reduceConstShadowTransition delivery.shadow .live .apply
          start count data elemSize).2
        written :=
          if elemSize ≠ 0 then
            admitted elemSize start.toNat count.toNat
              (0xffffffff / elemSize) data delivery.written
          else delivery.written } := by
  unfold reduceConstShadowTransition
  split
  · rename_i empty
    have none : count.toNat = 0 := by
      rw [empty]
      rfl
    rw [none, admitted_zero, ite_self]
    exact tracks
  · rename_i nonempty
    have positiveCount : 0 < count.toNat :=
      Nat.pos_of_ne_zero fun isZero =>
        nonempty (UInt32.toNat_inj.mp isZero)
    cases data with
    | none =>
        simp only [admitted, ite_self]
        exact tracks
    | some source =>
        simp only [admitted]
        by_cases sized : elemSize = 0
        · rw [if_pos sized, if_neg (not_not.mpr sized)]
          exact tracks
        · have positive := Nat.pos_of_ne_zero sized
          have bounded := @limit_lt_iff elemSize
            (start.toNat + count.toNat) positive (by omega)
          rw [if_neg sized, if_pos sized, if_neg (by simp)]
          by_cases beyond : 0xffffffff / elemSize < start.toNat + count.toNat
          · rw [if_pos beyond, if_pos (by simpa using bounded.mp beyond)]
            exact tracks
          · rw [if_neg beyond,
              if_neg (by simpa using fun both => beyond (bounded.mpr both))]
            obtain ⟨reduced, changed⟩ := @reduced_reduceStep elemSize
              start.toNat count.toNat
              (growBytes delivery.shadow.values
                ((start.toNat + count.toNat) * elemSize))
              (growBytes delivery.shadow.dirtyElems
                (start.toNat + count.toNat)) source positive
              delivery.shadow.values.length
              delivery.shadow.dirtyElems.length
              (le_length_growBytes _ _) (le_length_growBytes _ _)
              count.toNat (Nat.le_refl _)
            apply tracks.reduce positive reduced
            simp only [if_true, decide_true, Bool.true_and]
            split
            · rename_i isChanged
              rw [if_pos (changed.mp isChanged)]
            · rename_i unchanged
              rw [if_neg (mt changed.mpr unchanged)]

/-- Reading a slice of a byte vector. -/
theorem byteAt_take_drop {bytes : List UInt8} {offset size index : Nat}
    (inside : index < size) :
    byteAt ((bytes.drop offset).take size) index =
      byteAt bytes (offset + index) := by
  rw [byteAt, byteAt, List.getD_eq_getElem?_getD,
    List.getD_eq_getElem?_getD, List.getElem?_take_of_lt inside,
    List.getElem?_drop]

theorem Tracks.not_marked_clear {elemSize : Nat} {delivery : Delivery}
    (tracks : Tracks elemSize delivery) (reg : Nat) :
    ¬delivery.shadow.clear.Marked reg := by
  intro marked
  unfold ConstShadow.clear ConstShadow.Marked at marked
  cases dirty : delivery.shadow.dirty with
  | false =>
      rw [dirty] at marked
      have inside := tracks.hull reg marked
      have empty := of_decide_eq_false dirty
      omega
  | true =>
      rw [dirty] at marked
      simp only [Bool.not_true, Bool.false_eq_true, if_false] at marked
      rw [byteAt_fillBytes (tracks.marksInside dirty)] at marked
      split at marked
      · contradiction
      · rename_i outside
        exact outside (tracks.hull reg marked)

/-- An accepted flush brings the receiver to the shadow. -/
theorem Tracks.flushed {elemSize : Nat} {delivery : Delivery}
    (tracks : Tracks elemSize delivery) (address : Nat) :
    (delivery.step elemSize (.flush true)).registers address =
      byteAt delivery.shadow.values address := by
  simp only [Delivery.step, if_true]
  unfold flushRecord
  cases dirty : delivery.shadow.dirty with
  | false =>
      apply tracks.clean
      intro marked
      have inside := tracks.hull _ marked
      have empty := of_decide_eq_false dirty
      omega
  | true =>
      have nonempty := of_decide_eq_true dirty
      have fits := tracks.valuesInside dirty
      have product : (delivery.shadow.dirtyEnd -
            delivery.shadow.dirtyStart) * elemSize =
          delivery.shadow.dirtyEnd * elemSize -
            delivery.shadow.dirtyStart * elemSize := Nat.sub_mul _ _ _
      have monotone : delivery.shadow.dirtyStart * elemSize ≤
          delivery.shadow.dirtyEnd * elemSize :=
        Nat.mul_le_mul_right _ (Nat.le_of_lt nonempty)
      have length : ((delivery.shadow.values.drop
          (delivery.shadow.dirtyStart * elemSize)).take
            ((delivery.shadow.dirtyEnd - delivery.shadow.dirtyStart) *
              elemSize)).length =
          (delivery.shadow.dirtyEnd - delivery.shadow.dirtyStart) *
            elemSize := by
        rw [List.length_take, List.length_drop]
        omega
      simp only [Bool.not_true, Bool.false_eq_true, if_false,
        SetConst.applyTo, length]
      split
      · rename_i sent
        rw [byteAt_take_drop (by omega), Nat.add_sub_cancel' sent.1]
      · rename_i notSent
        apply tracks.clean
        intro marked
        obtain ⟨above, below⟩ := tracks.hull _ marked
        apply notSent
        have quotient := Nat.div_mul_le_self address elemSize
        have lower := Nat.mul_le_mul_right elemSize above
        have upper := (Nat.div_lt_iff_lt_mul (tracks.sized dirty)).mp below
        omega

theorem Tracks.flush {elemSize : Nat} {delivery : Delivery}
    (tracks : Tracks elemSize delivery) (accepted : Bool) :
    Tracks elemSize (delivery.step elemSize (.flush accepted)) := by
  cases accepted with
  | false => exact tracks
  | true =>
      have sent := tracks.flushed
      cases dirty : delivery.shadow.dirty with
      | false =>
          have same : delivery.step elemSize (.flush true) = delivery := by
            simp only [Delivery.step, flushRecord, dirty]
            rfl
          rw [same]
          exact tracks
      | true =>
          have cleared : (delivery.step elemSize (.flush true)).shadow =
              delivery.shadow.clear := by
            simp only [Delivery.step, if_true, dirty]
          have values : delivery.shadow.clear.values =
              delivery.shadow.values := by
            unfold ConstShadow.clear
            rw [dirty]
            rfl
          have settled : delivery.shadow.clear.dirty = false := by
            unfold ConstShadow.clear
            rw [dirty]
            rfl
          constructor
          · intro reg marked
            rw [cleared] at marked
            exact absurd marked (tracks.not_marked_clear reg)
          · intro isDirty
            rw [cleared, settled] at isDirty
            contradiction
          · intro isDirty
            rw [cleared, settled] at isDirty
            contradiction
          · exact fun _ => tracks.sized dirty
          · intro address _
            rw [cleared, values]
            exact sent address
          · intro address
            rw [cleared, values]
            exact tracks.written address

theorem tracks_step (elemSize : Nat) (delivery : Delivery) (call : Call)
    (tracks : Tracks elemSize delivery) :
    Tracks elemSize (delivery.step elemSize call) := by
  cases call with
  | applyLive maxRegisters start count data =>
      simp only [Delivery.step]
      split
      · rename_i allowed
        exact tracks.applyLive allowed.1 maxRegisters start count data
      · exact tracks
  | reduce phase mode start count data =>
      simp only [Delivery.step]
      by_cases live : phase = .live ∧ mode = .apply
      · obtain ⟨rfl, rfl⟩ := live
        simp only [true_and]
        exact tracks.reduceLive start count data
      · rw [reduce_observe delivery.shadow live, if_neg]
        · exact tracks
        · exact fun all => live ⟨all.1, all.2.1⟩
  | flush accepted => exact tracks.flush accepted

/-- Over every sequence of writes and flushes, the marked registers are
inside the dirty interval and the shadow, a clear leaves none marked, and
each accepted flush brings the receiver to the shadow, which holds what was
written last. -/
theorem constants_delivered (elemSize : Nat) (values : List UInt8)
    (elems : Nat) (calls : List Call) :
    let delivery := run (Delivery.step elemSize)
      (Delivery.initial values elems) calls
    let after := delivery.step elemSize (.flush true)
    (∀ reg, delivery.shadow.Marked reg →
      delivery.shadow.dirtyStart ≤ reg ∧ reg < delivery.shadow.dirtyEnd ∧
        reg < delivery.shadow.dirtyElems.length ∧
        (reg + 1) * elemSize ≤ delivery.shadow.values.length) ∧
      (∀ reg, ¬delivery.shadow.clear.Marked reg) ∧
      ∀ address, after.registers address =
          byteAt after.shadow.values address ∧
        after.registers address = delivery.written address := by
  intro delivery after
  have tracks : Tracks elemSize delivery :=
    run_invariant (tracks_step elemSize)
      (tracks_initial elemSize values elems) calls
  refine ⟨?_, tracks.not_marked_clear, ?_⟩
  · intro reg marked
    obtain ⟨above, below⟩ := tracks.hull reg marked
    have dirty : delivery.shadow.dirty = true :=
      decide_eq_true (Nat.lt_of_le_of_lt above below)
    refine ⟨above, below,
      Nat.lt_of_lt_of_le below (tracks.marksInside dirty), ?_⟩
    exact Nat.le_trans (Nat.mul_le_mul_right elemSize below)
      (tracks.valuesInside dirty)
  · intro address
    have sent := tracks.flushed address
    have kept : after.shadow.values = delivery.shadow.values := by
      simp only [after, Delivery.step, if_true]
      split
      · unfold ConstShadow.clear
        split
        · rfl
        · rfl
      · rfl
    rw [kept]
    exact ⟨sent, sent.trans (tracks.written address)⟩

end Dxmt9.Constants
