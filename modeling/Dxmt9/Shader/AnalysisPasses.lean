import Dxmt9.Shader.Decoder

/-!
# Analysis passes over a decoded module

What the emitter asks of a module before it writes a shader: the constants and
temporaries in use, the outputs, the samplers and the inputs.  A pass decodes
operands again, and stops where one names a register that has no lowering.
-/

namespace Dxmt9.Shader

def kMaxRenderTargets : Nat := 4

def opcodeWritesFirstOperand (opcode : UInt32) : Bool :=
  opcode ∈ [kD3DSIO_DEF, kD3DSIO_DEFI, kD3DSIO_DEFB, kD3DSIO_MOV,
    kD3DSIO_ADD, kD3DSIO_SUB, kD3DSIO_MUL, kD3DSIO_MAD, kD3DSIO_MIN,
    kD3DSIO_MAX, kD3DSIO_SLT, kD3DSIO_SGE, kD3DSIO_EXP, kD3DSIO_LOG,
    kD3DSIO_LIT, kD3DSIO_DST, kD3DSIO_EXPP, kD3DSIO_LOGP, kD3DSIO_SINCOS,
    kD3DSIO_M4x4, kD3DSIO_M4x3, kD3DSIO_M3x4, kD3DSIO_M3x3, kD3DSIO_M3x2,
    kD3DSIO_RCP, kD3DSIO_RSQ, kD3DSIO_FRC, kD3DSIO_LRP, kD3DSIO_DP3,
    kD3DSIO_DP4, kD3DSIO_CND, kD3DSIO_CMP, kD3DSIO_DP2ADD, kD3DSIO_POW,
    kD3DSIO_CRS, kD3DSIO_SGN, kD3DSIO_ABS, kD3DSIO_NRM, kD3DSIO_TEX,
    kD3DSIO_DSX, kD3DSIO_DSY, kD3DSIO_TEXLDD, kD3DSIO_TEXLDL]

def isConstantRegisterKind (kind : D3DRegisterKind) : Bool :=
  kind == .constFloat || kind == .constInt || kind == .constBool

def isTextureSampleOpcode (opcode : UInt32) : Bool :=
  opcode ∈ [kD3DSIO_TEX, kD3DSIO_TEXLDD, kD3DSIO_TEXLDL]

def isLegacyTextureSampleOpcode (opcode : UInt32) : Bool :=
  opcode ∈ [kD3DSIO_TEX, kD3DSIO_TEXBEM, kD3DSIO_TEXBEML,
    kD3DSIO_TEXREG2AR, kD3DSIO_TEXREG2GB, kD3DSIO_TEXM3x2TEX,
    kD3DSIO_TEXM3x3TEX, kD3DSIO_TEXM3x3SPEC, kD3DSIO_TEXM3x3VSPEC,
    kD3DSIO_TEXREG2RGB, kD3DSIO_TEXDP3TEX]

def matrixConstantRows (opcode : UInt32) : Nat :=
  if opcode ∈ [kD3DSIO_M4x4, kD3DSIO_M3x4] then 4
  else if opcode ∈ [kD3DSIO_M4x3, kD3DSIO_M3x3] then 3
  else if opcode = kD3DSIO_M3x2 then 2
  else 1

/-- The register that an operand names. -/
def operandRegister (stage : D3DShaderStage)
    (instruction : D3DDecodedInstruction) (index : Nat) :
    Except DecodeStop D3DRegisterRef :=
  match instruction.operands[index]? with
  | none => .error .outside
  | some token => decodeRegisterRef token stage

/-- An operand has a relative-address token. -/
def operandIndexed (instruction : D3DDecodedInstruction) (index : Nat) :
    Bool :=
  (instruction.relAddrTokens[index]?).getD 0 != 0

/-- The indices of the operands from a first one on. -/
def operandsFrom (instruction : D3DDecodedInstruction) (first : Nat) :
    List Nat :=
  List.range' first (instruction.operands.length - first)

def pixelColorOutputCount (module_ : SpirvModule) :
    Except DecodeStop Nat :=
  if module_.stage ≠ .pixel then .ok 1
  else
    module_.instructions.foldlM
      (fun count instruction =>
        if instruction.operands.isEmpty ||
            !opcodeWritesFirstOperand instruction.opcode then
          .ok count
        else do
          let dst ← operandRegister module_.stage instruction 0
          if dst.kind = .colorOut ∧ dst.index.toNat < kMaxRenderTargets then
            return max count (dst.index.toNat + 1)
          else return count)
      1

def pixelWritesDepth (module_ : SpirvModule) : Except DecodeStop Bool :=
  if module_.stage ≠ .pixel then .ok false
  else
    module_.instructions.anyM fun instruction =>
      if instruction.opcode = kD3DSIO_TEXDEPTH ∨
          instruction.opcode = kD3DSIO_TEXM3x2DEPTH then
        .ok true
      else if instruction.operands.isEmpty ||
          !opcodeWritesFirstOperand instruction.opcode then
        .ok false
      else do
        let dst ← operandRegister module_.stage instruction 0
        return dst.kind == .depthOut

/-- The operands that the search for a texture coordinate output skips. -/
def texcoordScanSkips (opcode : UInt32) (index : Nat) : Bool :=
  (opcode ∈ [kD3DSIO_DEF, kD3DSIO_DEFI, kD3DSIO_DEFB] && 0 < index) ||
    (opcode ∈ [kD3DSIO_LABEL, kD3DSIO_CALL] && index == 0)

def texcoordScanOperand (stage : D3DShaderStage)
    (instruction : D3DDecodedInstruction) (index : Nat) :
    Except DecodeStop Bool :=
  if texcoordScanSkips instruction.opcode index then .ok false
  else do
    let reg ← operandRegister stage instruction index
    return reg.kind == .texCoordOut

def pixelUsesTexcoordOut (module_ : SpirvModule) :
    Except DecodeStop Bool :=
  if module_.stage ≠ .pixel then .ok false
  else if module_.major = 1 then .ok true
  else
    module_.instructions.anyM fun instruction =>
      (operandsFrom instruction 0).anyM
        (texcoordScanOperand module_.stage instruction)

def legacyTextureStageIndex (instruction : D3DDecodedInstruction) : Nat :=
  match instruction.operands with
  | [] => 0
  | operand :: _ =>
      min (decodeRegisterIndex operand).toNat (kMaxSamplers - 1)

/-- The index of the first sampler among some operands. -/
def firstSampler (stage : D3DShaderStage) :
    List UInt32 → Except DecodeStop Nat
  | [] => .ok 0
  | operand :: rest => do
      let reg ← decodeRegisterRef operand stage
      if reg.kind = .sampler then
        return min reg.index.toNat (kMaxSamplers - 1)
      else firstSampler stage rest

def textureSamplerIndex (stage : D3DShaderStage)
    (instruction : D3DDecodedInstruction) : Except DecodeStop Nat :=
  firstSampler stage (instruction.operands.drop 1)

def noteSampler (module_ : SpirvModule) (usage : List Bool)
    (instruction : D3DDecodedInstruction) : Except DecodeStop (List Bool) :=
  if module_.major = 1 ∧ isLegacyTextureSampleOpcode instruction.opcode then
    .ok (usage.set (legacyTextureStageIndex instruction) true)
  else if isTextureSampleOpcode instruction.opcode then do
    let sampler ← textureSamplerIndex module_.stage instruction
    return usage.set sampler true
  else .ok usage

/-- The samplers of a pixel shader.  Without any, one that uses textures, or
that has one bound to the first stage, uses the first. -/
def collectPixelSamplerUsage (module_ : SpirvModule) (firstTexture : Bool) :
    Except DecodeStop (List Bool) := do
  let unused := List.replicate kMaxSamplers false
  if module_.stage ≠ .pixel then return unused
  else
    let usage ← module_.instructions.foldlM (noteSampler module_) unused
    if !usage.any id && (module_.usesTexture || firstTexture) then
      return usage.set 0 true
    else return usage

/-! ## Constants and temporaries -/

structure ConstantUsage where
  mutableConstants : Bool := false
  hasFloat : Bool := false
  hasInt : Bool := false
  hasBool : Bool := false
  maxTempIndex : Int := -1
  maxColorIndex : Int := -1
  hasIndexedFloat : Bool := false
  hasIndexedInt : Bool := false
  hasIndexedBool : Bool := false
  floatDefWrite : Bool := false
  intDefWrite : Bool := false
  boolDefWrite : Bool := false
  floatRuntimeWrite : Bool := false
  intRuntimeWrite : Bool := false
  boolRuntimeWrite : Bool := false
  floatCount : Nat := 0
  intCount : Nat := 0
  boolCount : Nat := 0
  deriving DecidableEq

def noteConstantUsage (usage : ConstantUsage) (kind : D3DRegisterKind)
    (index : Nat) : ConstantUsage :=
  match kind with
  | .constFloat =>
      { usage with
        hasFloat := true
        floatCount := max usage.floatCount (index + 1) }
  | .constInt =>
      { usage with
        hasInt := true
        intCount := max usage.intCount (index + 1) }
  | .constBool =>
      { usage with
        hasBool := true
        boolCount := max usage.boolCount (index + 1) }
  | _ => usage

/-- A write of a constant: a definition or one at run time. -/
def ConstantUsage.noteWrite (usage : ConstantUsage)
    (kind : D3DRegisterKind) (defWrite : Bool) : ConstantUsage :=
  match kind, defWrite with
  | .constFloat, true => { usage with floatDefWrite := true }
  | .constFloat, false => { usage with floatRuntimeWrite := true }
  | .constInt, true => { usage with intDefWrite := true }
  | .constInt, false => { usage with intRuntimeWrite := true }
  | .constBool, true => { usage with boolDefWrite := true }
  | .constBool, false => { usage with boolRuntimeWrite := true }
  | _, _ => usage

def ConstantUsage.noteIndexed (usage : ConstantUsage) :
    D3DRegisterKind → ConstantUsage
  | .constFloat => { usage with hasIndexedFloat := true }
  | .constInt => { usage with hasIndexedInt := true }
  | .constBool => { usage with hasIndexedBool := true }
  | _ => usage

/-- A temporary in use; an indexed access can reach all of them. -/
def ConstantUsage.noteTemp (usage : ConstantUsage) (index : UInt32)
    (indexed : Bool) : ConstantUsage :=
  { usage with
    maxTempIndex :=
      max usage.maxTempIndex (if indexed then 31 else index.toNat) }

def noteDestination (instruction : D3DDecodedInstruction)
    (dst : D3DRegisterRef) (usage : ConstantUsage) : ConstantUsage :=
  let defWrite := decide (instruction.opcode ∈
    [kD3DSIO_DEF, kD3DSIO_DEFI, kD3DSIO_DEFB])
  let written :=
    if isConstantRegisterKind dst.kind then
      (noteConstantUsage { usage with mutableConstants := true } dst.kind
        dst.index.toNat).noteWrite dst.kind defWrite
    else usage
  if dst.kind = .temp then
    written.noteTemp dst.index (operandIndexed instruction 0)
  else if dst.kind = .colorOut then
    { written with
      maxColorIndex := max written.maxColorIndex dst.index.toNat }
  else written

/-- The first operand that is read as a source of constants. -/
def constantSourceBegin (instruction : D3DDecodedInstruction) : Nat :=
  let opcode := instruction.opcode
  if opcode ∈ [kD3DSIO_IF, kD3DSIO_IFC, kD3DSIO_BREAKP,
      kD3DSIO_TEXDEPTH] then 0
  else if opcode = kD3DSIO_LOOP then
    (if 1 < instruction.operands.length then 1 else 0)
  else if opcode = kD3DSIO_REP then 0
  else if opcode ∈ [kD3DSIO_DEF, kD3DSIO_DEFI, kD3DSIO_DEFB, kD3DSIO_DCL,
      kD3DSIO_LABEL, kD3DSIO_CALL] then instruction.operands.length
  else 1

def noteSource (stage : D3DShaderStage)
    (instruction : D3DDecodedInstruction) (usage : ConstantUsage)
    (index : Nat) : Except DecodeStop ConstantUsage := do
  let src ← operandRegister stage instruction index
  let indexed := operandIndexed instruction index
  let noted := noteConstantUsage usage src.kind src.index.toNat
  let temps :=
    if src.kind = .temp then noted.noteTemp src.index indexed else noted
  return if indexed then temps.noteIndexed src.kind else temps

/-- The rows behind the base of a matrix operand. -/
def noteMatrixRows (stage : D3DShaderStage)
    (instruction : D3DDecodedInstruction) (usage : ConstantUsage) :
    Except DecodeStop ConstantUsage :=
  let rows := matrixConstantRows instruction.opcode
  if 1 < rows ∧ 2 < instruction.operands.length then do
    let base ← operandRegister stage instruction 2
    if base.kind = .constFloat then
      return noteConstantUsage usage base.kind (base.index.toNat + rows - 1)
    else return usage
  else .ok usage

def noteFirstOperand (stage : D3DShaderStage)
    (instruction : D3DDecodedInstruction) (usage : ConstantUsage) :
    Except DecodeStop ConstantUsage :=
  if opcodeWritesFirstOperand instruction.opcode then do
    let dst ← operandRegister stage instruction 0
    return noteDestination instruction dst usage
  else .ok usage

def noteInstruction (stage : D3DShaderStage) (usage : ConstantUsage)
    (instruction : D3DDecodedInstruction) :
    Except DecodeStop ConstantUsage :=
  if instruction.operands.isEmpty then .ok usage
  else do
    let written ← noteFirstOperand stage instruction usage
    let read ←
      (operandsFrom instruction (constantSourceBegin instruction)).foldlM
        (noteSource stage instruction) written
    noteMatrixRows stage instruction read

def collectConstantUsage (module_ : SpirvModule) :
    Except DecodeStop ConstantUsage :=
  module_.instructions.foldlM (noteInstruction module_.stage) {}

def predicateSourceBegin (instruction : D3DDecodedInstruction) : Nat :=
  let opcode := instruction.opcode
  if opcode ∈ [kD3DSIO_IF, kD3DSIO_IFC, kD3DSIO_LOOP, kD3DSIO_REP,
      kD3DSIO_BREAKP] then 0
  else if opcode ∈ [kD3DSIO_DEF, kD3DSIO_DEFI, kD3DSIO_DEFB, kD3DSIO_DCL,
      kD3DSIO_LABEL, kD3DSIO_CALL] then instruction.operands.length
  else 1

def operandIsPredicate (stage : D3DShaderStage)
    (instruction : D3DDecodedInstruction) (index : Nat) :
    Except DecodeStop Bool := do
  let reg ← operandRegister stage instruction index
  return reg.kind == .predicate

/-- A comparison sets a predicate. -/
def instructionSetsPredicate (stage : D3DShaderStage)
    (instruction : D3DDecodedInstruction) : Except DecodeStop Bool :=
  if instruction.opcode = kD3DSIO_SETP then
    operandIsPredicate stage instruction 0
  else .ok false

def instructionUsesPredicate (stage : D3DShaderStage)
    (instruction : D3DDecodedInstruction) : Except DecodeStop Bool :=
  if instruction.predicated then .ok true
  else if instruction.operands.isEmpty then .ok false
  else do
    let sets ← instructionSetsPredicate stage instruction
    if sets then return true
    else
      (operandsFrom instruction (predicateSourceBegin instruction)).anyM
        (operandIsPredicate stage instruction)

def shaderUsesPredicateRegisters (module_ : SpirvModule) :
    Except DecodeStop Bool :=
  module_.instructions.anyM (instructionUsesPredicate module_.stage)

structure VertexInputReadUsage where
  reads : List Bool := List.replicate 16 false
  indexedRead : Bool := false
  deriving DecidableEq

def noteVertexInput (stage : D3DShaderStage)
    (instruction : D3DDecodedInstruction) (usage : VertexInputReadUsage)
    (index : Nat) : Except DecodeStop VertexInputReadUsage := do
  let reg ← operandRegister stage instruction index
  if reg.kind ≠ .input then return usage
  else
    return {
      reads := usage.reads.set reg.index.toNat true
      indexedRead := usage.indexedRead || operandIndexed instruction index }

/-- The instructions without vertex inputs among their operands. -/
def vertexInputScanSkips (opcode : UInt32) : Bool :=
  opcode ∈ [kD3DSIO_COMMENT, kD3DSIO_PHASE, kD3DSIO_DCL, kD3DSIO_DEF,
    kD3DSIO_DEFI, kD3DSIO_DEFB]

def noteVertexInputs (stage : D3DShaderStage) (usage : VertexInputReadUsage)
    (instruction : D3DDecodedInstruction) :
    Except DecodeStop VertexInputReadUsage :=
  if vertexInputScanSkips instruction.opcode then .ok usage
  else
    let firstSource :=
      if opcodeWritesFirstOperand instruction.opcode then 1 else 0
    (operandsFrom instruction firstSource).foldlM
      (noteVertexInput stage instruction) usage

def collectVertexInputReadUsage (module_ : SpirvModule) :
    Except DecodeStop VertexInputReadUsage :=
  if module_.stage ≠ .vertex then .ok {}
  else
    module_.instructions.foldlM (noteVertexInputs module_.stage) {}

end Dxmt9.Shader
