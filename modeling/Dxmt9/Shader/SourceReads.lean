import Dxmt9.Shader.EmittedNames

/-!
# Source operands in emitted text

How the two emitters name the register of a source operand.  A pixel shader
reads its inputs as the declarations say, and in the first shader models from
an array of texture coordinates.
-/

namespace Dxmt9.Shader

/-! ## Declared semantics -/

def kD3DDeclUsagePosition : UInt32 := 0
def kD3DDeclUsagePSize : UInt32 := 4
def kD3DDeclUsageTexcoord : UInt32 := 5
def kD3DDeclUsagePositionT : UInt32 := 9
def kD3DDeclUsageColor : UInt32 := 10
def kD3DDeclUsageFog : UInt32 := 11

structure DeclaredSemantic where
  usage : UInt32
  usageIndex : UInt32
  deriving DecidableEq

/-- The semantics of the sixteen registers that may be declared. -/
abbrev DeclaredSemantics := List (Option DeclaredSemantic)

def declaredSemantic (semanticToken : UInt32) : DeclaredSemantic where
  usage := semanticToken &&& kD3DSP_DCL_USAGE_MASK
  usageIndex := tokenBits semanticToken 16 0xf

def noteSemantic (stage : D3DShaderStage) (kind : D3DRegisterKind)
    (semantics : DeclaredSemantics) (instruction : D3DDecodedInstruction) :
    Except DecodeStop DeclaredSemantics :=
  match instruction.operands with
  | semanticToken :: register :: _ =>
      if instruction.opcode ≠ kD3DSIO_DCL then .ok semantics
      else do
        let dst ← decodeRegisterRef register stage
        return if dst.kind = kind then
          semantics.set dst.index.toNat (some (declaredSemantic semanticToken))
        else semantics
  | _ => .ok semantics

/-- The semantics that a module of the third shader model declares for the
registers of a kind. -/
def collectSemantics (stage : D3DShaderStage) (kind : D3DRegisterKind)
    (module_ : SpirvModule) : Except DecodeStop DeclaredSemantics :=
  let undeclared := List.replicate 16 none
  if module_.stage ≠ stage ∨ module_.major < 3 then .ok undeclared
  else
    module_.instructions.foldlM (noteSemantic module_.stage kind) undeclared

def collectVertexOutputSemantics (module_ : SpirvModule) :
    Except DecodeStop DeclaredSemantics :=
  collectSemantics .vertex .texCoordOut module_

def collectPixelInputSemantics (module_ : SpirvModule) :
    Except DecodeStop DeclaredSemantics :=
  collectSemantics .pixel .input module_

/-- The declaration of a register; a register may be beyond all of them. -/
def DeclaredSemantics.at (semantics : DeclaredSemantics) (index : Nat) :
    Option DeclaredSemantic :=
  (semantics[index]?).join

/-- What an emitter knows of its module while it writes the body. -/
structure Emitter where
  stage : D3DShaderStage := .pixel
  major : UInt32 := 0
  minor : UInt32 := 0
  access : ConstantAccess := {}
  tempCount : Nat := 32
  vertexInputArray : Bool := false
  maxTexcoordIndex : Nat := kMaxTextureStages - 1
  outputSemantics : DeclaredSemantics := []
  inputSemantics : DeclaredSemantics := []
  deriving DecidableEq

def texcoordInput (index : Nat) : StageInField :=
  .texcoord (min index (kMaxTextureStages - 1))

def readPixelInputSemanticExpression (semantic : DeclaredSemantic)
    (fallbackTexcoordIndex : Nat) : StageInField :=
  if semantic.usage = kD3DDeclUsagePosition ∨
      semantic.usage = kD3DDeclUsagePositionT then .position
  else if semantic.usage = kD3DDeclUsagePSize then .pointSize
  else if semantic.usage = kD3DDeclUsageTexcoord then
    texcoordInput semantic.usageIndex.toNat
  else if semantic.usage = kD3DDeclUsageColor ∧ semantic.usageIndex = 0 then
    .color
  else if semantic.usage = kD3DDeclUsageColor ∧ semantic.usageIndex = 1 then
    .secondaryColor
  else if semantic.usage = kD3DDeclUsageFog then .fogFactor
  else texcoordInput fallbackTexcoordIndex

def readPixelInputFallbackExpression (index : Nat) : Name :=
  if index = 0 then .stageIn .color
  else if index = 1 then .stageIn .secondaryColor
  else if index = 3 then .stageIn .fogFactor
  else .literal "float4(0.0f)"

def readPixelInputExpression (token : UInt32)
    (semantics : DeclaredSemantics) : Name :=
  let type := decodeRegisterType token
  let index := (decodeRegisterIndex token).toNat
  if type = kD3DSPR_INPUT then
    match semantics.at index with
    | some semantic =>
        .stageIn (readPixelInputSemanticExpression semantic index)
    | none => readPixelInputFallbackExpression index
  else if type = kD3DSPR_ADDR then .stageIn (texcoordInput index)
  else if type = kD3DSPR_RASTOUT ∧ index = 0 then .stageIn .position
  else if type = kD3DSPR_RASTOUT ∧ index = 1 then .stageIn .fogFactor
  else if type = kD3DSPR_RASTOUT ∧ index = 2 then .stageIn .pointSize
  else if type = kD3DSPR_MISCTYPE ∧ index = 0 then .stageIn .position
  else readPixelInputFallbackExpression index

/-- The local that an output register of a vertex shader stands for, when it
is declared. -/
def vertexOutputMapping (reg : D3DRegisterRef)
    (semantics : DeclaredSemantics) (maxTexcoordIndex : Nat) : Option Name :=
  if reg.kind ≠ .texCoordOut then none
  else
    (semantics.at reg.index.toNat).map fun semantic =>
      if semantic.usage = kD3DDeclUsagePosition ∨
          semantic.usage = kD3DDeclUsagePositionT then .scratch "outPosition"
      else if semantic.usage = kD3DDeclUsageTexcoord then
        .outTexcoord
          (.fixed (min semantic.usageIndex.toNat maxTexcoordIndex))
      else if semantic.usage = kD3DDeclUsageColor then
        .scratch
          (if semantic.usageIndex = 0 then "outColor"
            else "outSecondaryColor")
      else if semantic.usage = kD3DDeclUsageFog then .scratch "outFogFactor"
      else if semantic.usage = kD3DDeclUsagePSize then
        .scratch "outPointSize"
      else .outTexcoord (.fixed (min reg.index.toNat maxTexcoordIndex))

def readVertexInput (emitter : Emitter) (reg : D3DRegisterRef)
    (relAddrToken : UInt32) : Except EmitStop Name :=
  if emitter.vertexInputArray then do
    let slot ← subscript reg.index relAddrToken 15
    return .vertexInput slot
  else .ok (.vertexInput (.fixed reg.index.toNat))

/-- What names the register of an operand. -/
def readOperandExpression (emitter : Emitter) (reg : D3DRegisterRef)
    (relAddrToken : UInt32) : Except EmitStop Name :=
  let index := reg.index.toNat
  let limit := constantRegisterMaxIndex reg.kind emitter.stage
  match reg.kind, emitter.stage with
  | .temp, _ => do
      let slot ← subscript reg.index relAddrToken (emitter.tempCount - 1)
      return .temp index slot
  | .constFloat, _ => do
      let read ← constantRead emitter.access.float reg.index relAddrToken limit
      return .constant .constFloat read
  | .constInt, _ => do
      let read ← constantRead emitter.access.int reg.index relAddrToken limit
      return .constant .constInt read
  | .constBool, _ => do
      let read ← constantRead emitter.access.bool reg.index relAddrToken limit
      return .constant .constBool read
  | .input, .vertex => readVertexInput emitter reg relAddrToken
  | .input, .pixel =>
      .ok (if index = 0 then .stageIn .color
        else if index = 1 then .stageIn (.texcoord 0)
        else if index = 2 then .stageIn .secondaryColor
        else if index = 3 then .stageIn .fogFactor
        else .literal "float4(0.0f)")
  | .rastOut, .vertex =>
      .ok (if index = 0 then .scratch "outPosition"
        else if index = 1 then .scratch "outFogFactor"
        else if index = 2 then .scratch "outPointSize"
        else .literal "float4(0.0f)")
  | .attrOut, .vertex =>
      .ok (.scratch (if index = 0 then "outColor" else "outSecondaryColor"))
  | .texCoordOut, .vertex =>
      .ok ((vertexOutputMapping reg emitter.outputSemantics
          emitter.maxTexcoordIndex).getD
        (.outTexcoord (.fixed (min index emitter.maxTexcoordIndex))))
  | .texCoordOut, .pixel =>
      .ok (.outTexcoord (.fixed (min index emitter.maxTexcoordIndex)))
  | .colorOut, .pixel => .ok (.outColor (min index (kMaxRenderTargets - 1)))
  | .colorOut, .vertex => .ok (.scratch "outColor")
  | .address, _ => .ok (.scratch "a0")
  | .loop, _ => .ok (.scratch "aL")
  | .miscType, .pixel =>
      .ok (if index = 0 then .stageIn .position
        else if index = 1 then .scratch "frontFacing"
        else .literal "float4(0.0f)")
  | .predicate, _ => .ok (.predicate index)
  | _, _ => .ok (.literal "float4(0.0f)")

/-- A source as it stands in an expression: a name, clamped to the range of the
first shader models or not, swizzled and modified. -/
structure SourceExpr where
  name : Name
  clampUnit : Bool := false
  swizzle : List UInt32 := identitySwizzle
  modifier : UInt32 := 0
  deriving DecidableEq

/-- Texture registers before version 1.4 are the texture coordinates. -/
def Emitter.readsTexcoordRegister (emitter : Emitter) (token : UInt32) :
    Bool :=
  emitter.stage = .pixel && emitter.major = 1 && decide (emitter.minor < 4) &&
    decodeRegisterType token = kD3DSPR_ADDR

def sourceName (emitter : Emitter) (token : UInt32) (reg : D3DRegisterRef)
    (relAddrToken : UInt32) : Except EmitStop Name :=
  if emitter.readsTexcoordRegister token then
    .ok (.outTexcoord (.fixed
      (min (decodeRegisterIndex token).toNat (kMaxTextureStages - 1))))
  else if emitter.stage = .pixel ∧ reg.kind = .input then
    .ok (readPixelInputExpression token emitter.inputSemantics)
  else readOperandExpression emitter reg relAddrToken

/-- The relative-address token of an operand; zero when it has none. -/
def relAddrTokenOf (instruction : D3DDecodedInstruction) (index : Nat) :
    UInt32 :=
  (instruction.relAddrTokens[index]?).getD 0

def readSrc (emitter : Emitter) (instruction : D3DDecodedInstruction)
    (index : Nat) (clampSm1Constants : Bool := true) :
    Except EmitStop SourceExpr :=
  match instruction.operands[index]? with
  | none => .error (.runtimeError "missing D3D source operand")
  | some token => do
      let reg ← decoded (decodeRegisterRef token emitter.stage)
      let name ←
        sourceName emitter token reg (relAddrTokenOf instruction index)
      let modifier := decodeSourceModifier token
      if 13 < modifier then
        .error (.runtimeError "unsupported D3D source modifier")
      else
        return {
          name := name
          clampUnit :=
            clampSm1Constants && emitter.stage = .pixel &&
              emitter.major = 1 && reg.kind = .constFloat
          swizzle := decodeSwizzle token
          modifier := modifier }

def makeAccess (module_ : SpirvModule) :
    Except DecodeStop (ConstantUsage × ConstantAccess) := do
  let usage ← collectConstantUsage module_
  let promoted ← promoteIndexedConstantDestinations module_ usage
  let access ← makeConstantAccess module_ promoted
  return (promoted, access)

/-- The emitter of a vertex shader.  The last texture coordinate that is held
in the function comes from the layout of its outputs. -/
def vertexEmitter (module_ : SpirvModule) (texcoordScratchMaxIndex : Nat) :
    Except DecodeStop Emitter := do
  let (_, access) ← makeAccess module_
  let inputs ← collectVertexInputReadUsage module_
  let semantics ← collectVertexOutputSemantics module_
  return {
    stage := .vertex
    major := module_.major
    minor := module_.minor
    access := access
    tempCount := 32
    vertexInputArray := inputs.indexedRead
    maxTexcoordIndex := texcoordScratchMaxIndex
    outputSemantics := semantics }

/-- A pixel shader has as many temporaries as its module uses, at least one. -/
def fragmentTempCount (usage : ConstantUsage) : Nat :=
  (max 1 (usage.maxTempIndex + 1)).toNat

def pixelEmitter (module_ : SpirvModule) : Except DecodeStop Emitter := do
  let semantics ← collectPixelInputSemantics module_
  let (usage, access) ← makeAccess module_
  return {
    stage := .pixel
    major := module_.major
    minor := module_.minor
    access := access
    tempCount := fragmentTempCount usage
    inputSemantics := semantics }

end Dxmt9.Shader

/-!
## Matrix opcodes and dot products

The value that the emitters write for a product of a source with the rows of a
constant matrix, and the one for a single dot product.  Both emitters have the
same text for them.  A machine gives the names and the operations of the text a
meaning; whether a matrix opcode equals its rows is asked over all machines.
-/

namespace Dxmt9.Shader

/-- How many components of its operands a dot product takes. -/
inductive DotWidth where
  | three
  | four
  deriving DecidableEq

def DotWidth.opcode : DotWidth → UInt32
  | .three => kD3DSIO_DP3
  | .four => kD3DSIO_DP4

structure DotExpr where
  width : DotWidth
  left : SourceExpr
  right : SourceExpr
  deriving DecidableEq

/-- One component of a vector that is written out. -/
inductive Component where
  | dot (product : DotExpr)
  | zero
  deriving DecidableEq

/-- A value on the right of an assignment: a dot product in all components, a
vector of them, or the formula of an opcode over its sources. -/
inductive EmittedValue where
  | splat (product : DotExpr)
  | vector (components : List Component)
  | formula (opcode : UInt32) (sources : List SourceExpr)
  deriving DecidableEq

structure MatrixShape where
  width : DotWidth
  rows : Nat
  message : String
  deriving DecidableEq

def matrixShape (opcode : UInt32) : Option MatrixShape :=
  if opcode = kD3DSIO_M4x4 then
    some ⟨.four, 4, "M4x4 requires a float constant matrix base"⟩
  else if opcode = kD3DSIO_M4x3 then
    some ⟨.four, 3, "M4x3 requires a float constant matrix base"⟩
  else if opcode = kD3DSIO_M3x4 then
    some ⟨.three, 4, "M3x4 requires a float constant matrix base"⟩
  else if opcode = kD3DSIO_M3x3 then
    some ⟨.three, 3, "M3x3 requires a float constant matrix base"⟩
  else if opcode = kD3DSIO_M3x2 then
    some ⟨.three, 2, "M3x2 requires a float constant matrix base"⟩
  else none

/-- A row of the matrix: the constant at its index, without the address,
the swizzle and the modifier of the operand. -/
def matrixRow (emitter : Emitter) (index : Nat) : SourceExpr where
  name := .constant .constFloat (emitter.access.float.name index)

def matrixValue (emitter : Emitter) (instruction : D3DDecodedInstruction)
    (shape : MatrixShape) : Except EmitStop EmittedValue := do
  let base ← decoded (operandRegister emitter.stage instruction 2)
  if base.kind ≠ .constFloat then .error (.runtimeError shape.message)
  else
    let source ← readSrc emitter instruction 1
    return .vector ((List.range 4).map fun row =>
      if row < shape.rows then
        .dot ⟨shape.width, source,
          matrixRow emitter (base.index.toNat + row)⟩
      else .zero)

def dotValue (emitter : Emitter) (instruction : D3DDecodedInstruction)
    (width : DotWidth) : Except EmitStop EmittedValue := do
  let left ← readSrc emitter instruction 1
  let right ← readSrc emitter instruction 2
  return .splat ⟨width, left, right⟩

/-- A meaning for what an expression names and does.  The operations of the
shading language stay open. -/
structure Machine (Vector Scalar : Type) where
  place : Name → Vector
  buffer : D3DRegisterKind → Nat → Vector
  array : D3DRegisterKind → Nat → Vector
  hoisted : D3DRegisterKind → Nat → Vector
  address : AddressName → Int
  clampUnit : Vector → Vector
  swizzle : List UInt32 → Vector → Vector
  modify : UInt32 → Vector → Vector
  dot : DotWidth → Vector → Vector → Scalar
  zero : Scalar

variable {Vector Scalar : Type}

def Machine.subscript (machine : Machine Vector Scalar) : Subscript → Nat
  | .fixed index => index
  | .clamped address index limit =>
      (max 0 (min (machine.address address + index) limit)).toNat

def Machine.constant (machine : Machine Vector Scalar)
    (kind : D3DRegisterKind) : ConstantRead → Vector
  | .hoisted index => machine.hoisted kind index
  | .buffer slot => machine.buffer kind (machine.subscript slot)
  | .array slot => machine.array kind (machine.subscript slot)
  | .select defined slot =>
      if machine.subscript slot ∈ defined then
        machine.hoisted kind (machine.subscript slot)
      else machine.array kind (machine.subscript slot)

def Machine.name (machine : Machine Vector Scalar) : Name → Vector
  | .constant kind read => machine.constant kind read
  | name => machine.place name

def Machine.source (machine : Machine Vector Scalar) (source : SourceExpr) :
    Vector :=
  let value := machine.name source.name
  let clamped := if source.clampUnit then machine.clampUnit value else value
  let swizzled :=
    if source.swizzle = identitySwizzle then clamped
    else machine.swizzle source.swizzle clamped
  if source.modifier = 0 then swizzled
  else machine.modify source.modifier swizzled

def Machine.product (machine : Machine Vector Scalar) (product : DotExpr) :
    Scalar :=
  machine.dot product.width (machine.source product.left)
    (machine.source product.right)

/-- A component of a dot product in all components, or of a vector. -/
def Machine.component (machine : Machine Vector Scalar) :
    EmittedValue → Nat → Option Scalar
  | .splat product, _ => some (machine.product product)
  | .vector components, row =>
      components[row]?.map fun
        | .dot product => machine.product product
        | .zero => machine.zero
  | .formula _ _, _ => none

/-- A dot product of the source of a matrix instruction with one of its rows:
the constant as many registers behind the base, under the relative address of
the base, as it is. -/
structure RowInstruction (stage : D3DShaderStage)
    (instruction row : D3DDecodedInstruction) (shape : MatrixShape)
    (offset : Nat) : Prop where
  opcode : row.opcode = shape.width.opcode
  source : row.operands[1]? = instruction.operands[1]?
  sourceAddress : relAddrTokenOf row 1 = relAddrTokenOf instruction 1
  rowAddress : relAddrTokenOf row 2 = relAddrTokenOf instruction 2
  constant : ∃ base token constant,
    operandRegister stage instruction 2 = .ok base ∧
    row.operands[2]? = some token ∧
    decodeRegisterRef token stage = .ok constant ∧
    constant.kind = .constFloat ∧
    constant.index.toNat = base.index.toNat + offset ∧
    decodeSwizzle token = identitySwizzle ∧ decodeSourceModifier token = 0

/-- A component is the same on every machine. -/
def ComponentsEqual (left right : EmittedValue) (row : Nat) : Prop :=
  ∀ (Vector Scalar : Type) (machine : Machine Vector Scalar),
    machine.component left row = machine.component right row

/-- The value of a matrix instruction is, in the component of every row, the
value of the dot product with that row. -/
def EqualsRows (emitter : Emitter) (instruction : D3DDecodedInstruction)
    (shape : MatrixShape) (value : EmittedValue) : Prop :=
  ∀ offset < shape.rows, ∀ row,
    RowInstruction emitter.stage instruction row shape offset →
      ∃ product, dotValue emitter row shape.width = .ok product ∧
        ComponentsEqual value product offset

end Dxmt9.Shader
