import Dxmt9.Transition.Run
import Dxmt9.Uniform.UploadPlan
import Mathlib.Order.MinMax

/-!
# Coverage of uniform uploads

Along every run of constant writes, payload switches, binding transitions,
clears and plannings, a register that changed since its file was last cleared
lies below the high-water mark of the file, and its category is dirty.  A
plan takes that mark and the bound of the shader, so the planned prefix and
its bytes cover what changed and what the shader uses.
-/

namespace Dxmt9.Uniform

open Dxmt9.Shader
open Dxmt9.Transition

/-! ## Runs -/

/-- A transition, a clear or a planning of the uniform state. -/
inductive UniformEvent where
  | constantSet (file : ConstantFile) (startReg count : UInt32)
  | sourceChange (change : DirectCbufPayloadSourceChange)
      (counts : DirectCbufPayloadCounts)
  | bindingTransition (transition : DrawBindingTransition)
      (counts : DirectCbufPayloadCounts)
  | setBit (bit : DirtyBit)
  | markAllDirty
  | clearBit (bit : DirtyBit)
  | clearBits (mask : UInt16)
  | plan (stage : ShaderStage) (usage : ShaderConstantUsageBounds)
deriving DecidableEq

namespace UniformEvent

/-- A planning only reads the state. -/
def apply (state : DirtyState) : UniformEvent → DirtyState
  | constantSet file startReg count =>
      applyConstantSet file state startReg count
  | sourceChange change counts =>
      applyDirectCbufPayloadSourceChange state change counts
  | bindingTransition transition counts =>
      (applyDrawBindingTransition state transition counts).2
  | setBit bit => Uniform.setBit state bit
  | markAllDirty => Uniform.markAllDirty state
  | clearBit bit => Uniform.clearBit state bit
  | clearBits mask => Uniform.clearBits state mask
  | plan _ _ => state

/-- Whether a payload switch concerns a stage. -/
def switches (change : DirectCbufPayloadSourceChange) : ShaderStage → Bool
  | .vertex => change.vertex
  | .pixel => change.pixel

/-- The event gives a register of a file a new value. -/
def Changes (file : ConstantFile) (register : Nat) : UniformEvent → Prop
  | constantSet target startReg count =>
      target = file ∧ startReg.toNat ≤ register ∧
        register < startReg.toNat + count.toNat
  | sourceChange change counts =>
      switches change file.stage = true ∧
        register < (counts.ofFile file).toNat
  | bindingTransition transition counts =>
      transition.psoBindingAbiCompatible = true ∧
        switches transition.constantSourceChange file.stage = true ∧
        register < (counts.ofFile file).toNat
  | _ => False

/-- The event clears the category of a file. -/
def Clears (file : ConstantFile) : UniformEvent → Prop
  | clearBit bit => bit = file.bit
  | clearBits mask => mask &&& file.bit.mask ≠ 0
  | _ => False

end UniformEvent

/-- A register of a file changed and its file was not cleared after that. -/
def ChangedSinceClear (file : ConstantFile) (register : Nat)
    (events : List UniformEvent) : Prop :=
  ∃ before event after, events = before ++ event :: after ∧
    event.Changes file register ∧ ∀ later ∈ after, ¬later.Clears file

/-- The cap of a file. -/
def ConstantFile.cap : ConstantFile → Nat
  | ⟨.vertex, .float⟩ => kMaxVertexConstants
  | ⟨.pixel, .float⟩ => kMaxPixelConstants
  | ⟨_, .int⟩ => kMaxIntegerConstants
  | ⟨_, .bool⟩ => kMaxBoolConstants

namespace ShaderConstantUsageBounds

def count (usage : ShaderConstantUsageBounds) : ConstantKind → UInt16
  | .float => usage.floatCount
  | .int => usage.intCount
  | .bool => usage.boolCount

def indexed (usage : ShaderConstantUsageBounds) : ConstantKind → Bool
  | .float => usage.indexedFloat
  | .int => usage.indexedInt
  | .bool => usage.indexedBool

/-- The shader may read a register; nothing is known of an indexed file. -/
def Uses (usage : ShaderConstantUsageBounds) (kind : ConstantKind)
    (register : Nat) : Prop :=
  usage.unknown = true ∨ usage.indexed kind = true ∨
    register < (usage.count kind).toNat

/-- The bounds say nothing, or a file is indexed. -/
def unbounded (usage : ShaderConstantUsageBounds) : Bool :=
  usage.unknown || usage.indexedFloat || usage.indexedInt ||
    usage.indexedBool

end ShaderConstantUsageBounds

/-- The plan for a stage. -/
def makeUploadPlan (forceFullCbufUploads : Bool) :
    ShaderStage → DirtyState → ShaderConstantUsageBounds →
      ShaderConstantUploadPlan
  | .vertex => makeVsConstantUploadPlan forceFullCbufUploads
  | .pixel => makePsConstantUploadPlan forceFullCbufUploads

/-- The upload size for a stage. -/
def uploadBytes : ShaderStage → ShaderConstantUploadPlan → Nat
  | .vertex => vsConstantUploadBytes
  | .pixel => psConstantUploadBytes

/-- The first byte after a register in the constant block of its stage. -/
def ConstantFile.registerEnd (file : ConstantFile) (register : Nat) : Nat :=
  let floats := ConstantFile.cap ⟨file.stage, .float⟩ * kFloat4Bytes
  let ints := ConstantFile.cap ⟨file.stage, .int⟩ * kInt4Bytes
  match file.kind with
  | .float => (register + 1) * kFloat4Bytes
  | .int => floats + (register + 1) * kInt4Bytes
  | .bool => floats + ints + (register + 1) * kBoolBytes

theorem toNat_max (left right : UInt16) :
    (max left right).toNat = max left.toNat right.toNat := by
  change (if left ≤ right then right else left).toNat = _
  split
  case isTrue le => exact (Nat.max_eq_right le).symm
  case isFalse lt =>
    exact (Nat.max_eq_left (UInt16.not_le.mp lt).le).symm

theorem toNat_min (left right : UInt16) :
    (min left right).toNat = min left.toNat right.toNat := by
  change (if left ≤ right then left else right).toNat = _
  split
  case isTrue le => exact (Nat.min_eq_left le).symm
  case isFalse lt =>
    exact (Nat.min_eq_right (UInt16.not_le.mp lt).le).symm

theorem toNat_saturatingAddU16 (startReg count : UInt32) :
    (saturatingAddU16 startReg count).toNat =
      min 65535 (startReg.toNat + count.toNat) := by
  have start := startReg.toNat_lt
  have length := count.toNat_lt
  have sum : (startReg.toUInt64 + count.toUInt64).toNat =
      startReg.toNat + count.toNat := by
    rw [UInt64.toNat_add, UInt32.toNat_toUInt64, UInt32.toNat_toUInt64]
    omega
  unfold saturatingAddU16
  simp only [gt_iff_lt, UInt64.lt_iff_toNat_lt, sum]
  split
  case isTrue past =>
    change 65535 < _ at past
    exact (Nat.min_eq_left (Nat.le_of_lt past)).symm
  case isFalse within =>
    change ¬65535 < _ at within
    rw [UInt64.toNat_toUInt16, sum]
    omega

theorem toNat_bumpRange (slot : UInt16) (startReg count : UInt32) :
    (bumpRange slot startReg count).toNat =
      max slot.toNat (min 65535 (startReg.toNat + count.toNat)) := by
  rw [bumpRange, toNat_max, toNat_saturatingAddU16]

theorem or_and (left right bits : UInt16) :
    (left ||| right) &&& bits = left &&& bits ||| right &&& bits := by
  apply UInt16.eq_of_toBitVec_eq
  ext place
  simp [Bool.and_or_distrib_right]

variable {bits : UInt16}

theorem or_and_ne_zero {left right : UInt16} :
    (left ||| right) &&& bits ≠ 0 ↔
      left &&& bits ≠ 0 ∨ right &&& bits ≠ 0 := by
  rw [or_and, ne_eq, UInt16.or_eq_zero_iff]
  exact not_and_or

variable {mask : UInt16}

/-- Clearing other bits keeps these. -/
theorem and_not_and {word : UInt16} (apart : mask &&& bits = 0) :
    word &&& ~~~mask &&& bits = word &&& bits := by
  have kept : ~~~mask &&& bits = bits := by
    have split : (mask ||| ~~~mask) &&& bits = bits := by simp
    rw [or_and, apart, UInt16.zero_or] at split
    exact split
  rw [UInt16.and_assoc, kept]

/-! ## Categories and marks -/

variable {bit : DirtyBit}

variable {state : DirtyState}

theorem isDirty_iff :
    isDirty state bit = true ↔ state.mask &&& bit.mask ≠ 0 := by
  unfold isDirty
  exact bne_iff_ne

theorem mask_and_self (bit : DirtyBit) : bit.mask &&& bit.mask ≠ 0 := by
  cases bit <;> decide

theorem mask_and_of_ne {other : DirtyBit} (distinct : bit ≠ other) :
    bit.mask &&& other.mask = 0 := by
  cases bit <;> cases other <;> first | rfl | exact absurd rfl distinct

theorem kAllBits_and (bit : DirtyBit) : kAllBits &&& bit.mask ≠ 0 := by
  cases bit <;> decide

namespace DirtyState

@[simp] theorem mask_setMaxChanged (state : DirtyState) (value : UInt16)
    (file : ConstantFile) :
    (state.setMaxChanged value file).mask = state.mask := by
  rcases file with ⟨_ | _, _ | _ | _⟩ <;> rfl

theorem maxChanged_setMaxChanged_self (state : DirtyState) (value : UInt16)
    (file : ConstantFile) :
    (state.setMaxChanged value file).maxChanged file = value := by
  rcases file with ⟨_ | _, _ | _ | _⟩ <;> rfl

theorem maxChanged_setMaxChanged_of_ne {file other : ConstantFile}
    (distinct : other ≠ file) (state : DirtyState) (value : UInt16) :
    (state.setMaxChanged value file).maxChanged other =
      state.maxChanged other := by
  rcases file with ⟨_ | _, _ | _ | _⟩ <;>
    rcases other with ⟨_ | _, _ | _ | _⟩ <;>
    first | rfl | exact absurd rfl distinct

/-- The mark of a file depends on the marks, not on the mask. -/
@[simp] theorem maxChanged_withMask (state : DirtyState) (mask : UInt16)
    (file : ConstantFile) :
    DirtyState.maxChanged { state with mask := mask } file =
      state.maxChanged file := by
  rcases file with ⟨_ | _, _ | _ | _⟩ <;> rfl

end DirtyState

variable {file : ConstantFile}

theorem maxChanged_resetRangesForMask
    (apart : mask &&& file.bit.mask = 0) (state : DirtyState) :
    (resetRangesForMask state mask).maxChanged file =
      state.maxChanged file := by
  rcases file with ⟨_ | _, _ | _ | _⟩ <;> exact if_neg (not_not.mpr apart)

/-! ## One step -/

/-- The register is below the mark of its file, and the file is dirty. -/
structure Pending (file : ConstantFile) (register : Nat)
    (state : DirtyState) : Prop where
  below : register < (state.maxChanged file).toNat
  dirty : isDirty state file.bit = true

/-- The mark does not fall and a dirty category stays dirty. -/
structure Keeps (file : ConstantFile) (state next : DirtyState) :
    Prop where
  mark : (state.maxChanged file).toNat ≤ (next.maxChanged file).toNat
  dirty : isDirty state file.bit = true → isDirty next file.bit = true

section

variable {file : ConstantFile} {register : Nat}
  {state middle next : DirtyState}

theorem Keeps.refl : Keeps file state state := ⟨Nat.le_refl _, id⟩

theorem Keeps.trans (first : Keeps file state middle)
    (second : Keeps file middle next) : Keeps file state next where
  mark := first.mark.trans second.mark
  dirty := second.dirty ∘ first.dirty

theorem Pending.kept (pending : Pending file register state)
    (keeps : Keeps file state next) : Pending file register next where
  below := pending.below.trans_le keeps.mark
  dirty := keeps.dirty pending.dirty

theorem keeps_or (bits : UInt16) :
    Keeps file state { state with mask := state.mask ||| bits } where
  mark := (congrArg UInt16.toNat (state.maxChanged_withMask _ file)).ge
  dirty marked := isDirty_iff.mpr
    (or_and_ne_zero.mpr (Or.inl (isDirty_iff.mp marked)))

theorem keeps_setBit (bit : DirtyBit) : Keeps file state (setBit state bit) :=
  keeps_or bit.mask

theorem keeps_markAllDirty : Keeps file state (markAllDirty state) where
  mark := (congrArg UInt16.toNat (state.maxChanged_withMask _ file)).ge
  dirty _ := isDirty_iff.mpr (kAllBits_and file.bit)

theorem keeps_setMaxChanged {target : ConstantFile} {value : UInt16}
    (above : (state.maxChanged target).toNat ≤ value.toNat) :
    Keeps file state (state.setMaxChanged value target) where
  mark := by
    by_cases same : file = target
    · subst same
      rw [DirtyState.maxChanged_setMaxChanged_self]
      exact above
    · rw [DirtyState.maxChanged_setMaxChanged_of_ne same]
  dirty marked := by
    rw [isDirty_iff, DirtyState.mask_setMaxChanged]
    exact isDirty_iff.mp marked

theorem keeps_applyConstantSet (target : ConstantFile)
    (startReg count : UInt32) :
    Keeps file state (applyConstantSet target state startReg count) := by
  apply (keeps_setBit target.bit).trans
  apply keeps_setMaxChanged
  rw [toNat_bumpRange]
  exact Nat.le_max_left _ _

theorem keeps_clearBits {mask : UInt16}
    (apart : mask &&& file.bit.mask = 0) :
    Keeps file state (clearBits state mask) where
  mark := by
    unfold clearBits
    rw [maxChanged_resetRangesForMask apart]
    exact (congrArg UInt16.toNat (state.maxChanged_withMask _ file)).ge
  dirty marked := by
    apply isDirty_iff.mpr
    change state.mask &&& ~~~mask &&& file.bit.mask ≠ 0
    rw [and_not_and apart]
    exact isDirty_iff.mp marked

theorem keeps_markLiveRange (counts : DirectCbufPayloadCounts)
    (target : ConstantFile) :
    Keeps file state (markLiveRange counts state target) := by
  unfold markLiveRange
  split
  case isTrue => exact keeps_applyConstantSet target 0 _
  case isFalse => exact Keeps.refl

theorem keeps_foldl_markLiveRange (counts : DirectCbufPayloadCounts)
    (targets : List ConstantFile) :
    Keeps file state (targets.foldl (markLiveRange counts) state) := by
  induction targets generalizing state with
  | nil => exact Keeps.refl
  | cons target rest induction =>
      exact (keeps_markLiveRange counts target).trans induction

theorem keeps_markStageSource (stage : ShaderStage)
    (counts : DirectCbufPayloadCounts) :
    Keeps file state (markStageSource stage counts state) := by
  have marked : Keeps file state
      ([⟨stage, .float⟩, ⟨stage, .int⟩, ⟨stage, .bool⟩].foldl
        (markLiveRange counts) state) :=
    keeps_foldl_markLiveRange counts _
  unfold markStageSource
  simp only
  split
  case isTrue => exact marked
  case isFalse => exact marked.trans (keeps_setBit _)

theorem keeps_sourceChange (change : DirectCbufPayloadSourceChange)
    (counts : DirectCbufPayloadCounts) :
    Keeps file state
      (applyDirectCbufPayloadSourceChange state change counts) := by
  unfold applyDirectCbufPayloadSourceChange
  cases change.vertex <;> cases change.pixel
  case false.false => exact Keeps.refl
  case false.true => exact keeps_markStageSource .pixel counts
  case true.false => exact keeps_markStageSource .vertex counts
  case true.true =>
    exact (keeps_markStageSource .vertex counts).trans
      (keeps_markStageSource .pixel counts)

theorem pending_applyConstantSet {startReg count : UInt32}
    (high : register < startReg.toNat + count.toNat)
    (narrow : register < 65535) (state : DirtyState) :
    Pending file register (applyConstantSet file state startReg count) where
  below := by
    unfold applyConstantSet
    rw [DirtyState.maxChanged_setMaxChanged_self, toNat_bumpRange]
    exact (lt_min narrow high).trans_le (Nat.le_max_right _ _)
  dirty := by
    rw [isDirty_iff]
    unfold applyConstantSet
    rw [DirtyState.mask_setMaxChanged]
    exact or_and_ne_zero.mpr (Or.inr (mask_and_self file.bit))

variable {counts : DirectCbufPayloadCounts}

theorem pending_markLiveRange
    (live : register < (counts.ofFile file).toNat) (state : DirtyState) :
    Pending file register (markLiveRange counts state file) := by
  have nonempty : counts.ofFile file ≠ 0 := by
    intro empty
    rw [empty] at live
    exact Nat.not_lt_zero register live
  unfold markLiveRange
  rw [if_pos nonempty]
  apply pending_applyConstantSet
  · rw [UInt16.toNat_toUInt32]
    exact live.trans_eq (Nat.zero_add _).symm
  · exact live.trans_le (Nat.le_of_lt_succ (counts.ofFile file).toNat_lt)

theorem pending_foldl_markLiveRange
    {targets : List ConstantFile} (member : file ∈ targets)
    (live : register < (counts.ofFile file).toNat) (state : DirtyState) :
    Pending file register (targets.foldl (markLiveRange counts) state) := by
  induction targets generalizing state with
  | nil => exact nomatch member
  | cons target rest induction =>
      cases member with
      | head =>
          exact (pending_markLiveRange live state).kept
            (keeps_foldl_markLiveRange counts rest)
      | tail _ later => exact induction later _

theorem pending_markStageSource
    (live : register < (counts.ofFile file).toNat) (state : DirtyState) :
    Pending file register (markStageSource file.stage counts state) := by
  have member : file ∈ ([⟨file.stage, .float⟩, ⟨file.stage, .int⟩,
      ⟨file.stage, .bool⟩] : List ConstantFile) := by
    rcases file with ⟨stage, _ | _ | _⟩ <;> simp
  have marked := pending_foldl_markLiveRange member live state
  unfold markStageSource
  simp only
  split
  case isTrue => exact marked
  case isFalse => exact marked.kept (keeps_setBit _)

theorem pending_sourceChange {change : DirectCbufPayloadSourceChange}
    (switched : UniformEvent.switches change file.stage = true)
    (live : register < (counts.ofFile file).toNat) (state : DirtyState) :
    Pending file register
      (applyDirectCbufPayloadSourceChange state change counts) := by
  have marked : ∀ state,
      Pending file register (markStageSource file.stage counts state) :=
    pending_markStageSource live
  unfold applyDirectCbufPayloadSourceChange
  cases stage : file.stage <;> rw [stage] at switched marked
  case vertex =>
    rw [if_pos (show change.vertex = true from switched)]
    simp only
    split
    case isTrue =>
      exact (marked state).kept (keeps_markStageSource .pixel counts)
    case isFalse => exact marked state
  case pixel =>
    rw [if_pos (show change.pixel = true from switched)]
    exact marked _

variable {event : UniformEvent}

theorem pending_of_changes
    (changes : event.Changes file register) (narrow : register < 65535)
    (state : DirtyState) : Pending file register (event.apply state) := by
  cases event with
  | constantSet target startReg count =>
      obtain ⟨rfl, _, high⟩ := changes
      exact pending_applyConstantSet high narrow state
  | sourceChange change counts =>
      exact pending_sourceChange changes.1 changes.2 state
  | bindingTransition transition counts =>
      obtain ⟨compatible, switched, live⟩ := changes
      change Pending file register
        (applyDrawBindingTransition state transition counts).2
      simp only [applyDrawBindingTransition, compatible, Bool.not_true,
        Bool.false_eq_true, if_false]
      have marked := pending_sourceChange switched live state
      split
      case isTrue => exact marked.kept (keeps_or _)
      case isFalse => exact marked
  | _ => exact changes.elim

theorem keeps_of_not_clears
    (kept : ¬event.Clears file) (state : DirtyState) :
    Keeps file state (event.apply state) := by
  cases event with
  | constantSet target startReg count =>
      exact keeps_applyConstantSet target startReg count
  | sourceChange change counts => exact keeps_sourceChange change counts
  | bindingTransition transition counts =>
      change Keeps file state
        (applyDrawBindingTransition state transition counts).2
      unfold applyDrawBindingTransition
      split
      case isTrue => exact Keeps.refl
      case isFalse =>
        simp only
        have changed : Keeps file state
            (applyDirectCbufPayloadSourceChange state
              transition.constantSourceChange counts) :=
          keeps_sourceChange transition.constantSourceChange counts
        split
        case isTrue => exact changed.trans (keeps_or _)
        case isFalse => exact changed
  | setBit bit => exact keeps_setBit bit
  | markAllDirty => exact keeps_markAllDirty
  | clearBit bit => exact keeps_clearBits (mask_and_of_ne kept)
  | clearBits mask => exact keeps_clearBits (not_not.mp kept)
  | plan stage usage => exact Keeps.refl

end

variable {register : Nat}

theorem pending_of_changedSinceClear
    {events : List UniformEvent}
    (changed : ChangedSinceClear file register events)
    (narrow : register < 65535) (initial : DirtyState) :
    Pending file register
      (run (fun state event => event.apply state) initial events) := by
  obtain ⟨before, event, after, rfl, changes, uncleared⟩ := changed
  apply run_established
  · exact pending_of_changes changes narrow
  · intro later member state pending
    exact pending.kept (keeps_of_not_clears (uncleared later member) state)

/-! ## Plans -/

theorem cap_lt (file : ConstantFile) : file.cap < 65535 := by
  rcases file with ⟨_ | _, _ | _ | _⟩ <;> decide

theorem toNat_cap (file : ConstantFile) :
    (UInt16.ofNat file.cap).toNat = file.cap :=
  UInt16.toNat_ofNat_of_lt' ((cap_lt file).trans (by decide))

/-- A full plan takes the cap, another the larger of mark and bound. -/
theorem count_makeUploadPlan (forceFullCbufUploads : Bool)
    (file : ConstantFile) (state : DirtyState)
    (usage : ShaderConstantUsageBounds) :
    (makeUploadPlan forceFullCbufUploads file.stage state usage).count
        file.kind =
      if usage.unbounded || forceFullCbufUploads then
        UInt16.ofNat file.cap
      else
        clampCount (max (state.maxChanged file) (usage.count file.kind))
          (UInt16.ofNat file.cap) := by
  have plan (dirtyFloat dirtyInt dirtyBool maxFloat maxInt maxBool) :
      makeConstantUploadPlan forceFullCbufUploads dirtyFloat dirtyInt
          dirtyBool usage maxFloat maxInt maxBool =
        if usage.unbounded then ⟨maxFloat, maxInt, maxBool, true⟩
        else if forceFullCbufUploads then ⟨maxFloat, maxInt, maxBool, true⟩
        else
          ⟨clampCount (max dirtyFloat usage.floatCount) maxFloat,
            clampCount (max dirtyInt usage.intCount) maxInt,
            clampCount (max dirtyBool usage.boolCount) maxBool, false⟩ := rfl
  rcases file with ⟨_ | _, kind⟩
  case vertex =>
    change (makeConstantUploadPlan forceFullCbufUploads _ _ _ usage _ _
      _).count kind = _
    rw [plan]
    cases usage.unbounded <;> cases forceFullCbufUploads <;> cases kind <;>
      rfl
  case pixel =>
    change (makeConstantUploadPlan forceFullCbufUploads _ _ _ usage _ _
      _).count kind = _
    rw [plan]
    cases usage.unbounded <;> cases forceFullCbufUploads <;> cases kind <;>
      rfl

variable {usage : ShaderConstantUsageBounds}

theorem lt_count_of_uses
    (bounded : usage.unbounded = false) {kind : ConstantKind} (uses : usage.Uses kind register) :
    register < (usage.count kind).toNat := by
  simp only [ShaderConstantUsageBounds.unbounded,
    Bool.or_eq_false_iff] at bounded
  obtain ⟨⟨⟨known, floats⟩, ints⟩, bools⟩ := bounded
  have direct : usage.indexed kind = false := by
    cases kind
    case float => exact floats
    case int => exact ints
    case bool => exact bools
  rcases uses with unknown | indexed | below
  · exact absurd (known.symm.trans unknown) Bool.false_ne_true
  · exact absurd (direct.symm.trans indexed) Bool.false_ne_true
  · exact below

theorem lt_planned
    (capped : register < file.cap)
    (covered : register < (state.maxChanged file).toNat ∨
      usage.Uses file.kind register) (forceFullCbufUploads : Bool) :
    register < ((makeUploadPlan forceFullCbufUploads file.stage state
      usage).count file.kind).toNat := by
  rw [count_makeUploadPlan]
  split
  case isTrue => rwa [toNat_cap]
  case isFalse partially =>
    rw [Bool.not_eq_true, Bool.or_eq_false_iff] at partially
    unfold clampCount
    rw [toNat_min, toNat_max, toNat_cap]
    exact lt_min (lt_max_iff.mpr
      (covered.imp_right (lt_count_of_uses partially.1))) capped

variable {plan : ShaderConstantUploadPlan}

/-- A partial plan reaches the last planned member. -/
theorem le_constantUploadBytes
    (part : plan.fullStructRequired = false) {maxFloatCount maxIntCount :
      UInt16} {fullStructBytes stop : Nat}
    (reached : stop ≤ plan.floatCount.toNat * kFloat4Bytes ∨
      plan.intCount ≠ 0 ∧ stop ≤ maxFloatCount.toNat * kFloat4Bytes +
        plan.intCount.toNat * kInt4Bytes ∨
      plan.boolCount ≠ 0 ∧ stop ≤ maxFloatCount.toNat * kFloat4Bytes +
        maxIntCount.toNat * kInt4Bytes +
        plan.boolCount.toNat * kBoolBytes) :
    stop ≤ constantUploadBytes plan maxFloatCount maxIntCount
      fullStructBytes := by
  unfold constantUploadBytes
  rw [part]
  simp only [Bool.false_eq_true, if_false]
  have within (prefixBytes : Nat) (le : stop ≤ prefixBytes) :
      stop ≤ if prefixBytes = 0 then kFloat4Bytes else prefixBytes := by
    split
    case isTrue none => exact (le.trans none.le).trans (Nat.zero_le _)
    case isFalse => exact le
  apply within
  rcases reached with floats | ⟨some, ints⟩ | ⟨some, bools⟩
  · exact le_max_of_le_left floats
  · rw [if_neg some]
    exact le_max_of_le_right (le_max_of_le_left ints)
  · rw [if_neg some]
    exact le_max_of_le_right (le_max_of_le_right bools)

theorem constantUploadBytes_full
    (full : plan.fullStructRequired = true)
    (maxFloatCount maxIntCount : UInt16) (fullStructBytes : Nat) :
    constantUploadBytes plan maxFloatCount maxIntCount fullStructBytes =
      fullStructBytes :=
  if_pos full

theorem ne_zero_of_lt {count : UInt16}
    (planned : register < count.toNat) : count ≠ 0 := by
  intro empty
  rw [empty] at planned
  exact Nat.not_lt_zero register planned

/-- The size of the constant block of a stage. -/
def structBytes (stage : ShaderStage) : Nat :=
  ConstantFile.cap ⟨stage, .float⟩ * kFloat4Bytes +
    ConstantFile.cap ⟨stage, .int⟩ * kInt4Bytes +
    ConstantFile.cap ⟨stage, .bool⟩ * kBoolBytes

theorem uploadBytes_eq (stage : ShaderStage)
    (plan : ShaderConstantUploadPlan) :
    uploadBytes stage plan =
      constantUploadBytes plan
        (UInt16.ofNat (ConstantFile.cap ⟨stage, .float⟩))
        (UInt16.ofNat (ConstantFile.cap ⟨stage, .int⟩))
        (structBytes stage) := by
  cases stage <;> rfl

theorem registerEnd_le_structBytes
    (capped : register < file.cap) :
    file.registerEnd register ≤ structBytes file.stage := by
  rcases file with ⟨stage, _ | _ | _⟩
  case float =>
    apply Nat.le_add_right_of_le
    apply Nat.le_add_right_of_le
    exact Nat.mul_le_mul_right kFloat4Bytes capped
  case int =>
    apply Nat.le_add_right_of_le
    exact Nat.add_le_add_left (Nat.mul_le_mul_right kInt4Bytes capped) _
  case bool =>
    exact Nat.add_le_add_left (Nat.mul_le_mul_right kBoolBytes capped) _

theorem registerEnd_le_uploadBytes
    (capped : register < file.cap)
    (planned : register < (plan.count file.kind).toNat) :
    file.registerEnd register ≤ uploadBytes file.stage plan := by
  rw [uploadBytes_eq]
  cases full : plan.fullStructRequired
  case true =>
    rw [constantUploadBytes_full full]
    exact registerEnd_le_structBytes capped
  case false =>
    apply le_constantUploadBytes full
    rw [toNat_cap, toNat_cap]
    rcases file with ⟨stage, _ | _ | _⟩
    case float =>
      exact Or.inl (Nat.mul_le_mul_right kFloat4Bytes planned)
    case int =>
      exact Or.inr (Or.inl ⟨ne_zero_of_lt planned,
        Nat.add_le_add_left (Nat.mul_le_mul_right kInt4Bytes planned) _⟩)
    case bool =>
      exact Or.inr (Or.inr ⟨ne_zero_of_lt planned,
        Nat.add_le_add_left (Nat.mul_le_mul_right kBoolBytes planned) _⟩)

/-- The uploads of every run: the planned prefix and its bytes cover each
register below the cap of its file that changed since the last clear or that
the shader uses, what changed is still dirty, and a rejected transition
changes nothing. -/
theorem uploadPlan_covers (forceFullCbufUploads : Bool)
    (initial : DirtyState) (events : List UniformEvent) :
    (∀ (file : ConstantFile) (usage : ShaderConstantUsageBounds)
        (register : Nat), register < file.cap →
      (ChangedSinceClear file register events ∨
        usage.Uses file.kind register) →
      let state := run (fun state event => event.apply state) initial events
      let plan := makeUploadPlan forceFullCbufUploads file.stage state usage
      register < (plan.count file.kind).toNat ∧
        file.registerEnd register ≤ uploadBytes file.stage plan ∧
        (ChangedSinceClear file register events →
          isDirty state file.bit = true)) ∧
    ∀ (state : DirtyState) (transition : DrawBindingTransition)
        (counts : DirectCbufPayloadCounts),
      (applyDrawBindingTransition state transition counts).1 = false →
      (applyDrawBindingTransition state transition counts).2 = state := by
  constructor
  · intro file usage register capped covered state plan
    have pending : ChangedSinceClear file register events →
        Pending file register state := fun changed =>
      pending_of_changedSinceClear changed (capped.trans (cap_lt file))
        initial
    have planned : register < (plan.count file.kind).toNat :=
      lt_planned capped (covered.imp_left fun changed =>
        (pending changed).below) forceFullCbufUploads
    exact ⟨planned, registerEnd_le_uploadBytes capped planned,
      fun changed => (pending changed).dirty⟩
  · intro state transition counts rejected
    unfold applyDrawBindingTransition at rejected ⊢
    split
    case isTrue => rfl
    case isFalse accepted =>
      rw [if_neg accepted] at rejected
      exact nomatch rejected

/-- After a clear of the floats, a write of two registers and a switch of
payload, the seventh vertex float is planned and uploaded. -/
theorem uploadPlan_covers_vertexFloat :
    let events : List UniformEvent :=
      [.constantSet ⟨.vertex, .int⟩ 0 16, .clearBits DirtyBit.vsF.mask,
        .constantSet ⟨.vertex, .float⟩ 5 2,
        .clearBit .vsI, .sourceChange { pixel := true } {}]
    let plan := makeVsConstantUploadPlan false
      (run (fun state event => event.apply state) {} events)
      { unknown := false }
    6 < plan.floatCount.toNat ∧ 7 * 16 ≤ vsConstantUploadBytes plan := by
  have changed : ChangedSinceClear ⟨.vertex, .float⟩ 6
      [.constantSet ⟨.vertex, .int⟩ 0 16, .clearBits DirtyBit.vsF.mask,
        .constantSet ⟨.vertex, .float⟩ 5 2,
        .clearBit .vsI, .sourceChange { pixel := true } {}] := by
    refine ⟨[.constantSet ⟨.vertex, .int⟩ 0 16,
      .clearBits DirtyBit.vsF.mask], _, _, rfl,
      ⟨rfl, by decide, by decide⟩, ?_⟩
    simp [UniformEvent.Clears, ConstantFile.bit]
  have covered := (uploadPlan_covers false {} _).1 ⟨.vertex, .float⟩
    { unknown := false } 6 (by decide) (Or.inl changed)
  exact ⟨covered.1, covered.2.1⟩

end Dxmt9.Uniform
