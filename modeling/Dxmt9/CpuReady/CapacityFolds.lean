import Mathlib.Algebra.Group.Pi.Basic
import Dxmt9.CpuReady.CapacityDeltas

/-!
# The two capacity accumulators

One accumulator aligns every payload append against the running total, the
other measures each record from nothing and adds the results.  A draw ends
with its binding snapshot, whose size is a multiple of the append alignment,
so that between two records there is never any padding to lose.
-/

namespace Dxmt9.CpuReady

open Fallible

/-! ## The size of a binding snapshot -/

/-- The size and the alignment of a type. -/
structure TypeLayout where
  size : Nat
  alignment : Nat
deriving DecidableEq

namespace TypeLayout

def word32 : TypeLayout := ⟨4, 4⟩

def word64 : TypeLayout := ⟨8, 8⟩

def flag : TypeLayout := ⟨1, 1⟩

def array (count : Nat) (element : TypeLayout) : TypeLayout :=
  ⟨count * element.size, element.alignment⟩

def roundUp (value alignment : Nat) : Nat :=
  (value + (alignment - 1)) / alignment * alignment

/-- Members behind one another, each at its own alignment, and the size
rounded up to the largest of them. -/
def record (members : List TypeLayout) : TypeLayout :=
  let alignment := members.foldl (fun most member =>
    max most member.alignment) 1
  let stop := members.foldl (fun stop member =>
    roundUp stop member.alignment + member.size) 0
  ⟨roundUp stop alignment, alignment⟩

end TypeLayout

open TypeLayout in
/-- A Metal handle, an address, a size and a revision. -/
def drawBufferBindingSnapshotLayout : TypeLayout :=
  record [word64, word64, word64, word64]

open TypeLayout in
/-- A buffer handle, an offset, a stride and the snapshot of the buffer. -/
def drawStreamBindingSnapshotLayout : TypeLayout :=
  record [word64, word32, word32, drawBufferBindingSnapshotLayout]

def kMaxStreams : Nat := 16

open TypeLayout in
/-- The streams and their mask, the index buffer and its type, the snapshot of
it and whether this is valid. -/
def drawBindingSnapshotLayout : TypeLayout :=
  record [array kMaxStreams drawStreamBindingSnapshotLayout, word32, word64,
    word32, drawBufferBindingSnapshotLayout, flag]

theorem drawBindingSnapshotLayout_aligned :
    kArenaDrawPayloadAppendAlignment ∣ drawBindingSnapshotLayout.size := by
  decide

/-- The total behind a record, unless this was rejected. -/
def RecordCapacityDelta.total (added : RecordCapacityDelta) :
    Option (SourcePayloadCapacity × Nat) :=
  match added.result with
  | .stateOnly | .gpuProducing => some (added.capacity, added.drawCount)
  | .overflow | .invalid | .unsupported => none

/-- A record added to the running total. -/
def directStep (sizes : PayloadSizes) (total : SourcePayloadCapacity × Nat)
    (record : ImportedRecordView) : Option (SourcePayloadCapacity × Nat) :=
  (addDirectRecordCapacity sizes total.1 total.2 record).total

/-- A record measured by itself and applied to the total. -/
def deltaStep (sizes : PayloadSizes) (total : SourcePayloadCapacity × Nat)
    (record : ImportedRecordView) : Option (SourcePayloadCapacity × Nat) :=
  applyRecordCapacityDelta total.1 total.2
    (computeRecordCapacityDelta sizes record)

def foldDirect (sizes : PayloadSizes) (records : List ImportedRecordView) :
    Option (SourcePayloadCapacity × Nat) :=
  records.foldlM (directStep sizes) (emptyCapacity, 0)

def foldDeltas (sizes : PayloadSizes) (records : List ImportedRecordView) :
    Option (SourcePayloadCapacity × Nat) :=
  records.foldlM (deltaStep sizes) (emptyCapacity, 0)

/-! ## Measuring on top of a total -/

/-- Every count of a capacity is a 32-bit number. -/
def Bounded (capacity : SourcePayloadCapacity) : Prop :=
  ∀ region, capacity region ≤ kMaxU32

theorem emptyCapacity_bounded : Bounded emptyCapacity :=
  fun _ => Nat.zero_le _

theorem update_add (base part : SourcePayloadCapacity)
    (region : SourcePayloadRegion) (value : Nat) :
    Function.update (base + part) region (base region + value) =
      base + Function.update part region value := by
  funext other
  by_cases same : other = region
  · subst same
    rw [Function.update_self, Pi.add_apply, Function.update_self]
  · rw [Function.update_of_ne same, Pi.add_apply, Pi.add_apply,
      Function.update_of_ne same]

variable {base part grown total : SourcePayloadCapacity}
  {f g : SourcePayloadCapacity → Option SourcePayloadCapacity}

/-- A measurement gives on top of a base what it gives alone, as long as the
sum is in range. -/
structure Translates (base : SourcePayloadCapacity)
    (f : SourcePayloadCapacity → Option SourcePayloadCapacity) : Prop where
  grows : ∀ {part grown}, f part = some grown →
    ∀ region, part region ≤ grown region
  bounded : ∀ {part grown}, f part = some grown → Bounded part →
    Bounded grown
  up : ∀ {part grown}, f part = some grown → Bounded (base + grown) →
    f (base + part) = some (base + grown)
  down : ∀ {part total}, f (base + part) = some total →
    ∃ grown, f part = some grown ∧ total = base + grown

theorem translates_none : Translates base fun _ => none where
  grows := nofun
  bounded := nofun
  up := nofun
  down := nofun

theorem translates_some : Translates base some where
  grows := by
    intro part grown same region
    exact Nat.le_of_eq (congrArg (· region) (Option.some.inj same))
  bounded := by
    intro part grown same bounded
    rw [← Option.some.inj same]
    exact bounded
  up := by
    intro part grown same _
    rw [Option.some.inj same]
  down := by
    intro part total same
    exact ⟨part, rfl, (Option.some.inj same).symm⟩

theorem Translates.bind (first : Translates base f)
    (second : Translates base g) :
    Translates base fun part => (f part).bind g where
  grows := by
    intro part grown measured region
    obtain ⟨middle, before, after⟩ := Option.bind_eq_some_iff.mp measured
    exact Nat.le_trans (first.grows before region) (second.grows after region)
  bounded := by
    intro part grown measured bounded
    obtain ⟨middle, before, after⟩ := Option.bind_eq_some_iff.mp measured
    exact second.bounded after (first.bounded before bounded)
  up := by
    intro part grown measured fits
    obtain ⟨middle, before, after⟩ := Option.bind_eq_some_iff.mp measured
    have inside : Bounded (base + middle) := fun region =>
      Nat.le_trans (Nat.add_le_add_left (second.grows after region) _)
        (fits region)
    rw [first.up before inside, Option.bind_some]
    exact second.up after fits
  down := by
    intro part total measured
    obtain ⟨middle, before, after⟩ := Option.bind_eq_some_iff.mp measured
    obtain ⟨inner, alone, rfl⟩ := first.down before
    obtain ⟨grown, last, rfl⟩ := second.down after
    exact ⟨grown, by rw [alone, Option.bind_some, last], rfl⟩

theorem translates_foldlM {α : Type}
    {step : SourcePayloadCapacity → α → Option SourcePayloadCapacity}
    (items : List α)
    (each : ∀ item, Translates base fun part => step part item) :
    Translates base fun part => items.foldlM step part := by
  induction items with
  | nil => exact translates_some
  | cons head tail induction =>
      simp only [List.foldlM_cons]
      exact (each head).bind induction

theorem translates_addCount (region : SourcePayloadRegion) (value : Nat) :
    Translates base fun part => part.addCount region value := by
  have counts : ∀ {part grown : SourcePayloadCapacity},
      part.addCount region value = some grown ↔
        value ≤ kMaxU32 - part region ∧
          grown = Function.update part region (part region + value) := by
    intro part grown
    unfold SourcePayloadCapacity.addCount addCount
    split
    · rename_i large
      constructor
      · exact nofun
      · intro small
        exact absurd small.1 (Nat.not_le.mpr large)
    · rename_i small
      rw [Option.map_some, Option.some.injEq]
      exact ⟨fun same => ⟨Nat.not_lt.mp small, same.symm⟩,
        fun same => same.2.symm⟩
  constructor
  · intro part grown measured other
    rw [(counts.mp measured).2]
    by_cases same : other = region
    · subst same
      rw [Function.update_self]
      exact Nat.le_add_right ..
    · exact Nat.le_of_eq (Function.update_of_ne same ..).symm
  · intro part grown measured bounded other
    obtain ⟨small, rfl⟩ := counts.mp measured
    by_cases same : other = region
    · subst same
      have before := bounded other
      rw [Function.update_self]
      omega
    · rw [Function.update_of_ne same]
      exact bounded other
  · intro part grown measured fits
    obtain ⟨small, rfl⟩ := counts.mp measured
    apply counts.mpr
    have inside := fits region
    rw [Pi.add_apply, Function.update_self] at inside
    rw [Pi.add_apply, Nat.add_assoc, update_add]
    exact ⟨by omega, rfl⟩
  · intro part total measured
    obtain ⟨small, rfl⟩ := counts.mp measured
    rw [Pi.add_apply] at small ⊢
    refine ⟨Function.update part region (part region + value),
      counts.mpr ⟨by omega, rfl⟩, ?_⟩
    rw [Nat.add_assoc, update_add]

theorem translates_addOnes (regions : List SourcePayloadRegion) :
    Translates base fun part => part.addOnes regions := by
  induction regions with
  | nil => exact translates_some
  | cons head tail induction =>
      have step : (fun part : SourcePayloadCapacity =>
          part.addOnes (head :: tail)) = fun part =>
            (part.addCount head 1).bind fun added => added.addOnes tail := by
        funext part
        rw [SourcePayloadCapacity.addOnes]
        cases part.addCount head 1 <;> rfl
      rw [step]
      exact (translates_addCount head 1).bind induction

variable {byteCount : Nat}

theorem addAlignedBytes_some {target sum : Nat} :
    addAlignedBytes target byteCount kArenaDrawPayloadAppendAlignment =
        some sum ↔
      target ≤ kMaxU32 - 15 ∧
        byteCount ≤ kMaxU32 - (target + 15) / 16 * 16 ∧
        sum = (target + 15) / 16 * 16 + byteCount := by
  unfold addAlignedBytes kArenaDrawPayloadAppendAlignment
  dsimp only
  rw [if_congr (show (16 = 0 ∨ 16 &&& (16 - 1) ≠ 0 ∨
    kMaxU32 - (16 - 1) < target) ↔ kMaxU32 - 15 < target by simp) rfl rfl]
  split
  · rename_i large
    constructor
    · exact nofun
    · intro small
      exact absurd small.1 (Nat.not_le.mpr large)
  · rename_i small
    split
    · rename_i large
      constructor
      · exact nofun
      · intro fits
        exact absurd fits.2.1 (Nat.not_le.mpr large)
    · rename_i fits
      rw [Option.some.injEq]
      exact ⟨fun same => ⟨Nat.not_lt.mp small, Nat.not_lt.mp fits,
        same.symm⟩, fun same => same.2.2.symm⟩

theorem addDrawPayload_some_iff :
    part.addDrawPayload byteCount = some grown ↔
      part .drawPayloadBytes ≤ kMaxU32 - 15 ∧
        byteCount ≤ kMaxU32 - (part .drawPayloadBytes + 15) / 16 * 16 ∧
        grown = Function.update part .drawPayloadBytes
          ((part .drawPayloadBytes + 15) / 16 * 16 + byteCount) := by
  unfold SourcePayloadCapacity.addDrawPayload
  rw [Option.map_eq_some_iff]
  constructor
  · rintro ⟨sum, appended, rfl⟩
    obtain ⟨small, fits, rfl⟩ := addAlignedBytes_some.mp appended
    exact ⟨small, fits, rfl⟩
  · rintro ⟨small, fits, rfl⟩
    exact ⟨_, addAlignedBytes_some.mpr ⟨small, fits, rfl⟩, rfl⟩

/-- On top of an aligned base an append takes the bytes it takes alone. -/
theorem translates_addDrawPayload
    (aligned : kArenaDrawPayloadAppendAlignment ∣ base .drawPayloadBytes)
    (byteCount : Nat) :
    Translates base fun part => part.addDrawPayload byteCount := by
  obtain ⟨units, shape⟩ := aligned
  unfold kArenaDrawPayloadAppendAlignment at shape
  constructor
  · intro part grown measured other
    obtain ⟨-, -, rfl⟩ := addDrawPayload_some_iff.mp measured
    by_cases same : other = .drawPayloadBytes
    · subst same
      rw [Function.update_self]
      omega
    · exact Nat.le_of_eq (Function.update_of_ne same ..).symm
  · intro part grown measured bounded other
    obtain ⟨small, fits, rfl⟩ := addDrawPayload_some_iff.mp measured
    by_cases same : other = .drawPayloadBytes
    · subst same
      rw [Function.update_self]
      unfold kMaxU32 at *
      omega
    · rw [Function.update_of_ne same]
      exact bounded other
  · intro part grown measured inside
    obtain ⟨small, fits, rfl⟩ := addDrawPayload_some_iff.mp measured
    apply addDrawPayload_some_iff.mpr
    have last := inside .drawPayloadBytes
    rw [Pi.add_apply, Function.update_self] at last
    rw [Pi.add_apply, ← update_add]
    unfold kMaxU32 at *
    refine ⟨by omega, by omega, ?_⟩
    congr 1
    omega
  · intro part total measured
    obtain ⟨small, fits, rfl⟩ := addDrawPayload_some_iff.mp measured
    rw [Pi.add_apply] at small fits ⊢
    unfold kMaxU32 at *
    refine ⟨_, addDrawPayload_some_iff.mpr
      ⟨by unfold kMaxU32; omega, by unfold kMaxU32; omega, rfl⟩, ?_⟩
    rw [← update_add]
    congr 1
    omega

variable {sizes : PayloadSizes} {record : ImportedRecordView}
  {draw : WireDrawHeader}

section

variable (aligned : kArenaDrawPayloadAppendAlignment ∣ base .drawPayloadBytes)
include aligned

theorem translates_addSectionCapacity
    (index : Nat) :
    Translates base fun part =>
      addSectionCapacity record draw part index := by
  unfold addSectionCapacity
  dsimp only
  by_cases cut : (record.section index).payload.length ≠
      (record.section index).descriptor.byteSize.toNat
  · simp only [if_pos cut]
    exact translates_none
  · simp only [if_neg cut]
    cases sectionAppends record.header.type draw
      (record.section index).descriptor.kind with
    | true => exact translates_addDrawPayload aligned _
    | false => exact translates_some

theorem translates_expandTriangleFan :
    Translates base fun part => expandTriangleFan part record draw := by
  unfold expandTriangleFan addTriangleFanPayloadCapacity
  by_cases plain : draw.primitiveType ≠ 6
  · simp only [if_pos plain]
    exact translates_some
  · simp only [if_neg plain]
    by_cases large : kMaxU32 / 3 < draw.primitiveCount.toNat
    · simp only [if_pos large]
      exact translates_none
    · simp only [if_neg large]
      cases triangleFanElementSize record.header.type draw with
      | none => exact translates_none
      | some elementSize =>
          dsimp only
          cases multiplyU32Count (draw.primitiveCount.toNat * 3)
            elementSize with
          | none => exact translates_none
          | some byteCount =>
              dsimp only
              by_cases empty : byteCount = 0
              · simp only [if_pos empty]
                exact translates_some
              · simp only [if_neg empty]
                exact translates_addDrawPayload aligned byteCount

theorem translates_addDrawCapacities :
    Translates base fun part =>
      addDrawCapacities sizes part record draw :=
  (translates_addOnes drawRegions).bind ((translates_foldlM _
      fun index => translates_addSectionCapacity aligned index).bind
      ((translates_expandTriangleFan aligned).bind
        ((translates_addDrawPayload aligned _).bind
          (translates_addDrawPayload aligned _))))

end

theorem addDrawCapacities_aligned
    (snapshot : kArenaDrawPayloadAppendAlignment ∣ sizes.drawBindingSnapshot)
    (measured : addDrawCapacities sizes part record draw = some grown) :
    kArenaDrawPayloadAppendAlignment ∣ grown .drawPayloadBytes := by
  obtain ⟨counted, -, measured⟩ := Option.bind_eq_some_iff.mp measured
  obtain ⟨sectioned, -, measured⟩ := Option.bind_eq_some_iff.mp measured
  obtain ⟨expanded, -, measured⟩ := Option.bind_eq_some_iff.mp measured
  obtain ⟨overridden, -, last⟩ := Option.bind_eq_some_iff.mp measured
  obtain ⟨-, -, rfl⟩ := addDrawPayload_some_iff.mp last
  rw [Function.update_self]
  exact Nat.dvd_add (Nat.dvd_mul_left ..) snapshot

/-! ## The folds agree -/

/-- What both accumulators keep of a running total. -/
structure RunningTotal (total : SourcePayloadCapacity × Nat) : Prop where
  bounded : Bounded total.1
  draws : total.2 ≤ kMaxU32
  aligned : kArenaDrawPayloadAppendAlignment ∣ total.1 .drawPayloadBytes

theorem runningTotal_start : RunningTotal (emptyCapacity, 0) where
  bounded := emptyCapacity_bounded
  draws := Nat.zero_le _
  aligned := Nat.dvd_zero _

theorem deltaFits_iff (bounded : Bounded base) :
    deltaFits base grown = true ↔ Bounded (base + grown) := by
  unfold deltaFits
  rw [List.all_eq_true]
  constructor
  · intro fits region
    have inside := fits region (mem_sourcePayloadRegions region)
    rw [Bool.and_eq_true, decide_eq_true_eq, decide_eq_true_eq] at inside
    rw [Pi.add_apply]
    omega
  · intro fits region _
    have inside := fits region
    have before := bounded region
    rw [Pi.add_apply] at inside
    rw [Bool.and_eq_true, decide_eq_true_eq, decide_eq_true_eq]
    omega

/-- What a translating measurement takes on top of a base is what it takes
alone, applied to the base. -/
theorem Translates.applied (translates : Translates base f)
    (bounded : Bounded base) :
    f base = (f emptyCapacity).bind fun grown =>
      if deltaFits base grown = true then some (base + grown) else none := by
  cases alone : f emptyCapacity with
  | none =>
      cases measured : f base with
      | none => rfl
      | some total =>
          obtain ⟨grown, impossible, -⟩ :=
            @Translates.down _ _ translates emptyCapacity _ measured
          exact nomatch alone.symm.trans impossible
  | some grown =>
      rw [Option.bind_some]
      by_cases fits : deltaFits base grown = true
      · rw [if_pos fits]
        exact translates.up alone ((deltaFits_iff bounded).mp fits)
      · rw [if_neg fits]
        cases measured : f base with
        | none => rfl
        | some total =>
            obtain ⟨other, same, rfl⟩ :=
              @Translates.down _ _ translates emptyCapacity _ measured
            rw [alone] at same
            cases same
            exact absurd ((deltaFits_iff bounded).mpr
              (translates.bounded measured bounded)) fits

variable {drawCount : Nat}

theorem applyRecordCapacityDelta_produced {draws : Nat}
    (small : drawCount ≤ kMaxU32) :
    applyRecordCapacityDelta base drawCount ⟨.gpuProducing, grown, draws⟩ =
      if draws ≤ kMaxU32 - drawCount ∧ deltaFits base grown = true then
        some (base + grown, drawCount + draws)
      else none := by
  unfold applyRecordCapacityDelta
  rw [if_neg (fun neither => neither.2 rfl)]
  dsimp only
  by_cases few : draws ≤ kMaxU32 - drawCount
  · rw [if_neg (fun many => many.elim (Nat.not_lt.mpr small)
      (Nat.not_lt.mpr few))]
    by_cases fits : deltaFits base grown = true
    · rw [if_pos fits, if_pos ⟨few, fits⟩]
      rfl
    · rw [if_neg fits, if_neg (fun both => fits both.2)]
  · rw [if_pos (.inr (Nat.not_le.mp few)), if_neg (fun both => few both.1)]

variable {running : SourcePayloadCapacity × Nat}

/-- The draws of a total and those of a record by itself. -/
theorem addCount_one :
    addCount drawCount 1 =
      if 1 ≤ kMaxU32 - drawCount then some (drawCount + 1) else none := by
  unfold addCount
  by_cases few : 1 ≤ kMaxU32 - drawCount
  · rw [if_neg (Nat.not_lt.mpr few), if_pos few]
  · rw [if_pos (Nat.not_le.mp few), if_neg few]

section

variable (kept : RunningTotal running)
include kept

/-- A draw gives on top of a total what its delta gives. -/
theorem addDrawRecordCapacity_total :
    (addDrawRecordCapacity sizes running.1 running.2 record).total =
      applyRecordCapacityDelta running.1 running.2
        (addDrawRecordCapacity sizes emptyCapacity 0 record) := by
  unfold addDrawRecordCapacity
  dsimp only
  by_cases malformed : record.payload.length < drawHeaderSize ∨
      (loadDrawHeader record.payload).primitiveType < 1 ∨
      6 < (loadDrawHeader record.payload).primitiveType
  · rw [if_pos malformed, if_pos malformed]
    rfl
  · rw [if_neg malformed, if_neg malformed]
    have translates : Translates running.1 fun part =>
        addDrawCapacities sizes part record (loadDrawHeader record.payload) :=
      translates_addDrawCapacities kept.aligned
    rw [translates.applied kept.bounded]
    cases measured : addDrawCapacities sizes emptyCapacity record
        (loadDrawHeader record.payload) with
    | none => rfl
    | some grown =>
        rw [Option.bind_some, show addCount 0 1 = some 1 from rfl]
        dsimp only
        rw [applyRecordCapacityDelta_produced kept.draws, addCount_one]
        by_cases few : 1 ≤ kMaxU32 - running.2
        · rw [if_pos few]
          by_cases fits : deltaFits running.1 grown = true
          · rw [if_pos fits, if_pos ⟨few, fits⟩]
            rfl
          · rw [if_neg fits, if_neg (fun both => fits both.2)]
            rfl
        · have none_ : ¬(1 ≤ kMaxU32 - running.2 ∧
              deltaFits running.1 grown = true) := fun both => few both.1
          rw [if_neg few, if_neg none_]
          split
          · rename_i impossible
            exact nomatch impossible
          · rfl

/-- A command gives on top of a total what its delta gives. -/
theorem addCommandCapacity_total
    (region : SourcePayloadRegion)
    (extra : List (SourcePayloadRegion × Nat)) :
    (addCommandCapacity running.1 running.2 region extra).total =
      applyRecordCapacityDelta running.1 running.2
        (addCommandCapacity emptyCapacity 0 region extra) := by
  have translates : Translates running.1 fun part =>
      (part.addOnes [.commandHeaders, region]).bind fun added =>
        extra.foldlM (fun total entry => total.addCount entry.1 entry.2)
          added :=
    (translates_addOnes _).bind
      (translates_foldlM extra fun entry => translates_addCount _ _)
  unfold addCommandCapacity
  rw [translates.applied kept.bounded]
  cases (emptyCapacity.addOnes [.commandHeaders, region]).bind fun added =>
      extra.foldlM (fun total entry => total.addCount entry.1 entry.2)
        added with
  | none => rfl
  | some grown =>
      rw [Option.bind_some]
      dsimp only
      rw [applyRecordCapacityDelta_produced kept.draws]
      by_cases fits : deltaFits running.1 grown = true
      · rw [if_pos fits, if_pos ⟨Nat.zero_le _, fits⟩]
        rfl
      · rw [if_neg fits, if_neg (fun both => fits both.2)]
        rfl

theorem applyRecordCapacityDelta_nothing :
    applyRecordCapacityDelta running.1 running.2
      ⟨.stateOnly, emptyCapacity, 0⟩ = some running := by
  have fits : deltaFits running.1 emptyCapacity = true :=
    (deltaFits_iff kept.bounded).mpr kept.bounded
  unfold applyRecordCapacityDelta
  rw [if_neg (fun neither => neither.1 rfl)]
  dsimp only
  rw [if_neg (fun many => many.elim (Nat.not_lt.mpr kept.draws)
    (Nat.not_lt.mpr (Nat.zero_le _))), if_pos fits]
  rfl

/-- Every record gives on top of a total what its delta gives. -/
theorem directStep_eq :
    directStep sizes running record = deltaStep sizes running record := by
  unfold directStep deltaStep computeRecordCapacityDelta
    addDirectRecordCapacity
  split
  iterate 4 · exact addDrawRecordCapacity_total kept
  iterate 7 · exact (applyRecordCapacityDelta_nothing kept).symm
  · split
    · rfl
    · exact addCommandCapacity_total kept _ _
  iterate 5 · exact addCommandCapacity_total kept _ _
  · split
    · rfl
    · exact addCommandCapacity_total kept _ _
  · rfl
  · rfl
  · rfl
  · rfl

end

theorem addCommandCapacity_payload {region : SourcePayloadRegion}
    {extra : List (SourcePayloadRegion × Nat)}
    (outside : region ≠ .drawPayloadBytes)
    (others : ∀ entry ∈ extra, entry.1 ≠ .drawPayloadBytes) :
    (addCommandCapacity emptyCapacity 0 region extra).capacity
      .drawPayloadBytes = 0 := by
  unfold addCommandCapacity
  cases measured : (emptyCapacity.addOnes
      [.commandHeaders, region]).bind fun added =>
        extra.foldlM (fun total entry => total.addCount entry.1 entry.2)
          added with
  | none => rfl
  | some grown =>
      obtain ⟨counted, ones, rest⟩ := Option.bind_eq_some_iff.mp measured
      have kept : grown .drawPayloadBytes = counted .drawPayloadBytes := by
        clear measured ones
        induction extra generalizing counted with
        | nil => rw [Option.some.inj rest]
        | cons entry entries induction =>
            rw [List.foldlM_cons] at rest
            obtain ⟨next, one, rest⟩ := Option.bind_eq_some_iff.mp rest
            rw [induction
              (fun other member => others other (List.mem_cons_of_mem _ member))
              next rest, SourcePayloadCapacity.addCount_some one,
              Function.update_of_ne
                (others entry (List.mem_cons_self ..)).symm]
      change grown .drawPayloadBytes = 0
      rw [kept, SourcePayloadCapacity.addOnes_some ones,
        List.count_cons_of_ne (by decide),
        List.count_cons_of_ne outside, List.count_nil]
      rfl

theorem addDrawRecordCapacity_payload
    (snapshot : kArenaDrawPayloadAppendAlignment ∣ sizes.drawBindingSnapshot) :
    kArenaDrawPayloadAppendAlignment ∣
      (addDrawRecordCapacity sizes emptyCapacity 0 record).capacity
        .drawPayloadBytes := by
  unfold addDrawRecordCapacity
  dsimp only
  split
  · exact Nat.dvd_zero _
  · split
    · rename_i measured _
      exact addDrawCapacities_aligned snapshot measured
    · exact Nat.dvd_zero _

theorem computeRecordCapacityDelta_payload
    (snapshot : kArenaDrawPayloadAppendAlignment ∣ sizes.drawBindingSnapshot) :
    kArenaDrawPayloadAppendAlignment ∣
      (computeRecordCapacityDelta sizes record).capacity
        .drawPayloadBytes := by
  have command : ∀ region extra, region ≠ .drawPayloadBytes →
      (∀ entry ∈ extra, entry.1 ≠ .drawPayloadBytes) →
        kArenaDrawPayloadAppendAlignment ∣
          (addCommandCapacity emptyCapacity 0 region extra).capacity
            .drawPayloadBytes := by
    intro region extra outside others
    rw [addCommandCapacity_payload outside others]
    exact Nat.dvd_zero _
  unfold computeRecordCapacityDelta addDirectRecordCapacity
  split
  iterate 4 · exact addDrawRecordCapacity_payload snapshot
  any_goals exact Nat.dvd_zero _
  · split
    · exact Nat.dvd_zero _
    · apply command _ _ (by decide)
      intro entry member
      rw [List.mem_singleton.mp member]
      exact nofun
  · split
    · exact Nat.dvd_zero _
    · exact command _ [] (by decide) (fun _ member => nomatch member)

section

variable (snapshot : kArenaDrawPayloadAppendAlignment ∣
    sizes.drawBindingSnapshot)
  (kept : RunningTotal running)
include snapshot kept

theorem RunningTotal.deltaStep {next : SourcePayloadCapacity × Nat}
    (stepped : deltaStep sizes running record = some next) :
    RunningTotal next := by
  unfold CpuReady.deltaStep applyRecordCapacityDelta at stepped
  split at stepped
  · exact nomatch stepped
  · split at stepped
    · exact nomatch stepped
    · rename_i few
      split at stepped
      · rename_i fits
        rw [← Option.some.inj stepped]
        push Not at few
        exact
          { bounded := (deltaFits_iff kept.bounded).mp fits
            draws := by
              have before := kept.draws
              change running.2 + _ ≤ kMaxU32
              omega
            aligned := Nat.dvd_add kept.aligned
              (computeRecordCapacityDelta_payload snapshot) }
      · exact nomatch stepped

/-- From a total of records on both accumulators take the same. -/
theorem RunningTotal.folds_eq (records : List ImportedRecordView) :
    records.foldlM (directStep sizes) running =
      records.foldlM (CpuReady.deltaStep sizes) running := by
  induction records generalizing running with
  | nil => rfl
  | cons head tail induction =>
      rw [List.foldlM_cons, List.foldlM_cons, directStep_eq kept]
      cases stepped : CpuReady.deltaStep sizes running head with
      | none => rfl
      | some next => exact induction (kept.deltaStep snapshot stepped)

end

theorem foldDirect_eq_foldDeltas
    (snapshot : sizes.drawBindingSnapshot = drawBindingSnapshotLayout.size)
    (records : List ImportedRecordView) :
    foldDirect sizes records = foldDeltas sizes records :=
  runningTotal_start.folds_eq
    (snapshot ▸ drawBindingSnapshotLayout_aligned) records

end Dxmt9.CpuReady
