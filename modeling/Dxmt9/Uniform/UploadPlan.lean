import Dxmt9.Shader.EmittedNames
import Mathlib.Data.List.Basic
import Mathlib.Order.Basic

/-!
# Uniform dirty state and upload plans

The dirty state of `dxmt9_uniform_dirty.cpp`: a mask with one bit for each
uniform category and, for each of the six constant files, the highest end of
a changed range since the bit was last cleared.  A plan takes the larger of
this high-water mark and the bound of the shader, capped by the file; the
bytes of a plan reach the end of the last planned member of the constant
block.
-/

namespace Dxmt9.Uniform

open Dxmt9.Shader

/-! ## Categories -/

inductive DirtyBit where
  | vsF
  | vsI
  | vsB
  | psF
  | psI
  | psB
  | ffpVsTransforms
  | ffpVsClip
  | ffpVsViewport
  | ffpPsFog
  | ffpPsAlpha
  | ffpPsTexFactor
  | ffpPsTssConstant
deriving DecidableEq

/-- The mask of one category. -/
def DirtyBit.mask : DirtyBit → UInt16
  | .vsF => (1 : UInt16) <<< 0
  | .vsI => (1 : UInt16) <<< 1
  | .vsB => (1 : UInt16) <<< 2
  | .psF => (1 : UInt16) <<< 3
  | .psI => (1 : UInt16) <<< 4
  | .psB => (1 : UInt16) <<< 5
  | .ffpVsTransforms => (1 : UInt16) <<< 6
  | .ffpVsClip => (1 : UInt16) <<< 7
  | .ffpVsViewport => (1 : UInt16) <<< 8
  | .ffpPsFog => (1 : UInt16) <<< 9
  | .ffpPsAlpha => (1 : UInt16) <<< 10
  | .ffpPsTexFactor => (1 : UInt16) <<< 11
  | .ffpPsTssConstant => (1 : UInt16) <<< 12

def kFfpVsAny : UInt16 :=
  DirtyBit.ffpVsTransforms.mask ||| DirtyBit.ffpVsClip.mask |||
    DirtyBit.ffpVsViewport.mask

def kFfpPsAny : UInt16 :=
  DirtyBit.ffpPsFog.mask ||| DirtyBit.ffpPsAlpha.mask |||
    DirtyBit.ffpPsTexFactor.mask ||| DirtyBit.ffpPsTssConstant.mask

def kAllBits : UInt16 :=
  DirtyBit.vsF.mask ||| DirtyBit.vsI.mask ||| DirtyBit.vsB.mask |||
    DirtyBit.psF.mask ||| DirtyBit.psI.mask ||| DirtyBit.psB.mask |||
    kFfpVsAny ||| kFfpPsAny

inductive ShaderStage where
  | vertex
  | pixel
deriving DecidableEq

/-- The three constant files of a shader stage. -/
inductive ConstantKind where
  | float
  | int
  | bool
deriving DecidableEq

structure ConstantFile where
  stage : ShaderStage
  kind : ConstantKind
deriving DecidableEq

/-- The category of a constant file. -/
def ConstantFile.bit : ConstantFile → DirtyBit
  | ⟨.vertex, .float⟩ => .vsF
  | ⟨.vertex, .int⟩ => .vsI
  | ⟨.vertex, .bool⟩ => .vsB
  | ⟨.pixel, .float⟩ => .psF
  | ⟨.pixel, .int⟩ => .psI
  | ⟨.pixel, .bool⟩ => .psB

/-! ## The dirty state -/

structure DirtyState where
  mask : UInt16 := 0
  maxChangedVsF : UInt16 := 0
  maxChangedVsI : UInt16 := 0
  maxChangedVsB : UInt16 := 0
  maxChangedPsF : UInt16 := 0
  maxChangedPsI : UInt16 := 0
  maxChangedPsB : UInt16 := 0
deriving DecidableEq

namespace DirtyState

/-- The high-water mark of a constant file. -/
def maxChanged (state : DirtyState) : ConstantFile → UInt16
  | ⟨.vertex, .float⟩ => state.maxChangedVsF
  | ⟨.vertex, .int⟩ => state.maxChangedVsI
  | ⟨.vertex, .bool⟩ => state.maxChangedVsB
  | ⟨.pixel, .float⟩ => state.maxChangedPsF
  | ⟨.pixel, .int⟩ => state.maxChangedPsI
  | ⟨.pixel, .bool⟩ => state.maxChangedPsB

def setMaxChanged (state : DirtyState) (value : UInt16) :
    ConstantFile → DirtyState
  | ⟨.vertex, .float⟩ => { state with maxChangedVsF := value }
  | ⟨.vertex, .int⟩ => { state with maxChangedVsI := value }
  | ⟨.vertex, .bool⟩ => { state with maxChangedVsB := value }
  | ⟨.pixel, .float⟩ => { state with maxChangedPsF := value }
  | ⟨.pixel, .int⟩ => { state with maxChangedPsI := value }
  | ⟨.pixel, .bool⟩ => { state with maxChangedPsB := value }

end DirtyState

/-- The end of a register range; an end past 16 bits saturates. -/
def saturatingAddU16 (startReg count : UInt32) : UInt16 :=
  let stop := startReg.toUInt64 + count.toUInt64
  if stop > 65535 then 65535 else stop.toUInt16

def bumpRange (slot : UInt16) (startReg count : UInt32) : UInt16 :=
  max slot (saturatingAddU16 startReg count)

def setBit (state : DirtyState) (bit : DirtyBit) : DirtyState :=
  { state with mask := state.mask ||| bit.mask }

/-- The high-water marks stay as they are. -/
def markAllDirty (state : DirtyState) : DirtyState :=
  { state with mask := kAllBits }

/-- Zero the high-water marks of the files in a mask. -/
def resetRangesForMask (state : DirtyState) (mask : UInt16) : DirtyState :=
  let reset (bit : DirtyBit) (value : UInt16) : UInt16 :=
    if mask &&& bit.mask ≠ 0 then 0 else value
  { state with
    maxChangedVsF := reset .vsF state.maxChangedVsF
    maxChangedVsI := reset .vsI state.maxChangedVsI
    maxChangedVsB := reset .vsB state.maxChangedVsB
    maxChangedPsF := reset .psF state.maxChangedPsF
    maxChangedPsI := reset .psI state.maxChangedPsI
    maxChangedPsB := reset .psB state.maxChangedPsB }

def clearBits (state : DirtyState) (mask : UInt16) : DirtyState :=
  resetRangesForMask { state with mask := state.mask &&& ~~~mask } mask

def clearBit (state : DirtyState) (bit : DirtyBit) : DirtyState :=
  clearBits state bit.mask

def isDirty (state : DirtyState) (bit : DirtyBit) : Bool :=
  state.mask &&& bit.mask != 0

def anyDirty (state : DirtyState) (mask : UInt16) : Bool :=
  state.mask &&& mask != 0

/-! ### Changes of constants -/

/-- Mark a file and raise its high-water mark. -/
def applyConstantSet (file : ConstantFile) (state : DirtyState)
    (startReg count : UInt32) : DirtyState :=
  let marked := setBit state file.bit
  marked.setMaxChanged (bumpRange (marked.maxChanged file) startReg count)
    file

def applyConstantSetVsF : DirtyState → UInt32 → UInt32 → DirtyState :=
  applyConstantSet ⟨.vertex, .float⟩

def applyConstantSetVsI : DirtyState → UInt32 → UInt32 → DirtyState :=
  applyConstantSet ⟨.vertex, .int⟩

def applyConstantSetVsB : DirtyState → UInt32 → UInt32 → DirtyState :=
  applyConstantSet ⟨.vertex, .bool⟩

def applyConstantSetPsF : DirtyState → UInt32 → UInt32 → DirtyState :=
  applyConstantSet ⟨.pixel, .float⟩

def applyConstantSetPsI : DirtyState → UInt32 → UInt32 → DirtyState :=
  applyConstantSet ⟨.pixel, .int⟩

def applyConstantSetPsB : DirtyState → UInt32 → UInt32 → DirtyState :=
  applyConstantSet ⟨.pixel, .bool⟩

structure DirectCbufPayloadCounts where
  vertexFloat : UInt16 := 0
  vertexInt : UInt16 := 0
  vertexBool : UInt16 := 0
  pixelFloat : UInt16 := 0
  pixelInt : UInt16 := 0
  pixelBool : UInt16 := 0
deriving DecidableEq

structure DirectCbufPayloadSourceChange where
  vertex : Bool := false
  pixel : Bool := false
deriving DecidableEq

/-- The live register count of a file in the new payload source. -/
def DirectCbufPayloadCounts.ofFile (counts : DirectCbufPayloadCounts) :
    ConstantFile → UInt16
  | ⟨.vertex, .float⟩ => counts.vertexFloat
  | ⟨.vertex, .int⟩ => counts.vertexInt
  | ⟨.vertex, .bool⟩ => counts.vertexBool
  | ⟨.pixel, .float⟩ => counts.pixelFloat
  | ⟨.pixel, .int⟩ => counts.pixelInt
  | ⟨.pixel, .bool⟩ => counts.pixelBool

/-- Mark the live range of one file, if it has one. -/
def markLiveRange (counts : DirectCbufPayloadCounts) (state : DirtyState)
    (file : ConstantFile) : DirtyState :=
  if counts.ofFile file ≠ 0 then
    applyConstantSet file state 0 (counts.ofFile file).toUInt32
  else state

/-- The new source of one stage; without live ranges its floats are marked. -/
def markStageSource (stage : ShaderStage) (counts : DirectCbufPayloadCounts)
    (state : DirtyState) : DirtyState :=
  let files : List ConstantFile :=
    [⟨stage, .float⟩, ⟨stage, .int⟩, ⟨stage, .bool⟩]
  let marked := files.foldl (markLiveRange counts) state
  if files.any fun file => counts.ofFile file != 0 then marked
  else setBit marked (ConstantFile.bit ⟨stage, .float⟩)

def applyDirectCbufPayloadSourceChange (state : DirtyState)
    (change : DirectCbufPayloadSourceChange)
    (counts : DirectCbufPayloadCounts) : DirtyState :=
  let vertex :=
    if change.vertex then markStageSource .vertex counts state else state
  if change.pixel then markStageSource .pixel counts vertex else vertex

/-- The fields of a planned transition that are applied. -/
structure DrawBindingTransition where
  constantSourceChange : DirectCbufPayloadSourceChange := {}
  fixedFunctionChanged : Bool := false
  psoBindingAbiCompatible : Bool := false
deriving DecidableEq

/-- Apply a transition; a different binding ABI rejects it. -/
def applyDrawBindingTransition (state : DirtyState)
    (transition : DrawBindingTransition) (counts : DirectCbufPayloadCounts) :
    Bool × DirtyState :=
  if !transition.psoBindingAbiCompatible then (false, state)
  else
    let applied :=
      applyDirectCbufPayloadSourceChange state
        transition.constantSourceChange counts
    (true,
      if transition.fixedFunctionChanged then
        { applied with mask := applied.mask ||| (kFfpVsAny ||| kFfpPsAny) }
      else applied)

def applyTransformChange (state : DirtyState) : DirtyState :=
  setBit state .ffpVsTransforms

def applyClipPlaneChange (state : DirtyState) : DirtyState :=
  setBit state .ffpVsClip

def applyViewportChange (state : DirtyState) : DirtyState :=
  setBit state .ffpVsViewport

def applyRenderStateFog (state : DirtyState) : DirtyState :=
  setBit state .ffpPsFog

def applyRenderStateAlpha (state : DirtyState) : DirtyState :=
  setBit state .ffpPsAlpha

def applyRenderStateTexFactor (state : DirtyState) : DirtyState :=
  setBit state .ffpPsTexFactor

def applyTextureStageConstant (state : DirtyState) : DirtyState :=
  setBit state .ffpPsTssConstant

/-- What the bound shader uses of the three files of its stage. -/
structure ShaderConstantUsageBounds where
  floatCount : UInt16 := 0
  intCount : UInt16 := 0
  boolCount : UInt16 := 0
  indexedFloat : Bool := false
  indexedInt : Bool := false
  indexedBool : Bool := false
  unknown : Bool := true
deriving DecidableEq

structure ShaderConstantUploadPlan where
  floatCount : UInt16 := 0
  intCount : UInt16 := 0
  boolCount : UInt16 := 0
  fullStructRequired : Bool := true
deriving DecidableEq

/-- The uploaded registers of one file. -/
def ShaderConstantUploadPlan.count (plan : ShaderConstantUploadPlan) :
    ConstantKind → UInt16
  | .float => plan.floatCount
  | .int => plan.intCount
  | .bool => plan.boolCount

def clampCount (value limit : UInt16) : UInt16 := min value limit

/-- The flag `DXMT9_FORCE_FULL_CBUF_UPLOADS` is the first argument. -/
def makeConstantUploadPlan (forceFullCbufUploads : Bool)
    (dirtyFloatCount dirtyIntCount dirtyBoolCount : UInt16)
    (usage : ShaderConstantUsageBounds)
    (maxFloatCount maxIntCount maxBoolCount : UInt16) :
    ShaderConstantUploadPlan :=
  if usage.unknown || usage.indexedFloat || usage.indexedInt ||
      usage.indexedBool then
    { floatCount := maxFloatCount, intCount := maxIntCount
      boolCount := maxBoolCount, fullStructRequired := true }
  else if forceFullCbufUploads then
    { floatCount := maxFloatCount, intCount := maxIntCount
      boolCount := maxBoolCount, fullStructRequired := true }
  else
    { floatCount :=
        clampCount (max dirtyFloatCount usage.floatCount) maxFloatCount
      intCount := clampCount (max dirtyIntCount usage.intCount) maxIntCount
      boolCount :=
        clampCount (max dirtyBoolCount usage.boolCount) maxBoolCount
      fullStructRequired := false }

def makeVsConstantUploadPlan (forceFullCbufUploads : Bool)
    (state : DirtyState) (usage : ShaderConstantUsageBounds) :
    ShaderConstantUploadPlan :=
  makeConstantUploadPlan forceFullCbufUploads state.maxChangedVsF
    state.maxChangedVsI state.maxChangedVsB usage
    (UInt16.ofNat kMaxVertexConstants) (UInt16.ofNat kMaxIntegerConstants)
    (UInt16.ofNat kMaxBoolConstants)

def makePsConstantUploadPlan (forceFullCbufUploads : Bool)
    (state : DirtyState) (usage : ShaderConstantUsageBounds) :
    ShaderConstantUploadPlan :=
  makeConstantUploadPlan forceFullCbufUploads state.maxChangedPsF
    state.maxChangedPsI state.maxChangedPsB usage
    (UInt16.ofNat kMaxPixelConstants) (UInt16.ofNat kMaxIntegerConstants)
    (UInt16.ofNat kMaxBoolConstants)

def kFloat4Bytes : Nat := 16

def kInt4Bytes : Nat := 16

def kBoolBytes : Nat := 4

/-- The bytes of a plan; an empty one keeps a small slab bound. -/
def constantUploadBytes (plan : ShaderConstantUploadPlan)
    (maxFloatCount maxIntCount : UInt16) (fullStructBytes : Nat) : Nat :=
  if plan.fullStructRequired then fullStructBytes
  else
    let floatEnd := plan.floatCount.toNat * kFloat4Bytes
    let intBase := maxFloatCount.toNat * kFloat4Bytes
    let intEnd :=
      if plan.intCount = 0 then 0
      else intBase + plan.intCount.toNat * kInt4Bytes
    let boolBase := intBase + maxIntCount.toNat * kInt4Bytes
    let boolEnd :=
      if plan.boolCount = 0 then 0
      else boolBase + plan.boolCount.toNat * kBoolBytes
    let prefixBytes := max floatEnd (max intEnd boolEnd)
    if prefixBytes = 0 then kFloat4Bytes else prefixBytes

def vsConstantUploadBytes (plan : ShaderConstantUploadPlan) : Nat :=
  constantUploadBytes plan (UInt16.ofNat kMaxVertexConstants)
    (UInt16.ofNat kMaxIntegerConstants)
    (kMaxVertexConstants * kFloat4Bytes +
      kMaxIntegerConstants * kInt4Bytes + kMaxBoolConstants * kBoolBytes)

def psConstantUploadBytes (plan : ShaderConstantUploadPlan) : Nat :=
  constantUploadBytes plan (UInt16.ofNat kMaxPixelConstants)
    (UInt16.ofNat kMaxIntegerConstants)
    (kMaxPixelConstants * kFloat4Bytes +
      kMaxIntegerConstants * kInt4Bytes + kMaxBoolConstants * kBoolBytes)

end Dxmt9.Uniform
