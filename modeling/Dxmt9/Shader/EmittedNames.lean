import Dxmt9.Shader.AnalysisPasses

/-!
# Names in an emitted shader

The storage that the text of a Metal shader names: registers, constants, the
fields of the stage input, the locals of the function.  How a constant is named
depends on the module: in the bound buffer, in a local that holds its
definition, or in a local array.
-/

namespace Dxmt9.Shader

def kMaxTextureStages : Nat := 8
def kMaxVertexConstants : Nat := 256
def kMaxPixelConstants : Nat := 224
def kMaxIntegerConstants : Nat := 16
def kMaxBoolConstants : Nat := 16

/-- Why no text is emitted: an operand has no register, or the emitter throws
with a message. -/
inductive EmitStop where
  | decode (stop : DecodeStop)
  | runtimeError (message : String)
  deriving DecidableEq

/-- What decoding gives, as a step of the emitter. -/
def decoded {α : Type} (result : Except DecodeStop α) : Except EmitStop α :=
  result.mapError .decode

def decodeSwizzle (token : UInt32) : List UInt32 :=
  [tokenBits token 16 0x3, tokenBits token 18 0x3, tokenBits token 20 0x3,
    tokenBits token 22 0x3]

/-- The components in their own order. -/
def identitySwizzle : List UInt32 := [0, 1, 2, 3]

def decodeSourceModifier (token : UInt32) : UInt32 := tokenBits token 24 0xf
def decodeWriteMask (token : UInt32) : UInt32 := tokenBits token 16 0xf

/-- A register that is added to an index: the loop counter, or a component of
the address register. -/
inductive AddressName where
  | counter
  | component (index : UInt32)
  deriving DecidableEq

/-- The subscript of an array: an index, or an index behind an address,
clamped from zero up to a limit. -/
inductive Subscript where
  | fixed (index : Nat)
  | clamped (address : AddressName) (index limit : Nat)
  deriving DecidableEq

def relAddrExpression (relAddrToken : UInt32) :
    Except EmitStop AddressName := do
  let relReg ← decoded (decodeRegisterRef relAddrToken .vertex)
  return if relReg.kind = .loop then .counter
    else .component (tokenBits relAddrToken 16 0x3)

def subscript (index : UInt32) (relAddrToken : UInt32) (limit : Nat) :
    Except EmitStop Subscript :=
  if relAddrToken = 0 then .ok (.fixed index.toNat)
  else do
    let address ← relAddrExpression relAddrToken
    return .clamped address index.toNat limit

/-- A field of the structure that the vertex stage hands on. -/
inductive StageInField where
  | position
  | color
  | secondaryColor
  | texcoord (index : Nat)
  | fogFactor
  | pointSize
  deriving DecidableEq

/-- Where a constant is read: the local of its definition, the bound buffer,
the array of the shader, or that array after a comparison with the defined
indices. -/
inductive ConstantRead where
  | hoisted (index : Nat)
  | buffer (slot : Subscript)
  | array (slot : Subscript)
  | select (defined : List Nat) (slot : Subscript)
  deriving DecidableEq

/-- What a piece of emitted text names.  An access of a temporary also tells
the register that its operand names. -/
inductive Name where
  | literal (text : String)
  | scratch (text : String)
  | temp (register : Nat) (slot : Subscript)
  | constant (kind : D3DRegisterKind) (read : ConstantRead)
  | stageIn (field : StageInField)
  | vertexInput (slot : Subscript)
  | outColor (index : Nat)
  | outTexcoord (slot : Subscript)
  | predicate (index : Nat)
  deriving DecidableEq

/-! ## Constants -/

def kMaxDefSelectRegisters : Nat := 8

/-- How the constants of one category are read.  The definitions stand in the
order of their indices, the last one of an index with its literal. -/
structure CategoryAccess where
  direct : Bool := false
  selectDefs : Bool := false
  defs : List (Nat × List UInt32) := []
  deriving DecidableEq

def CategoryAccess.defined (access : CategoryAccess) : List Nat :=
  access.defs.map Prod.fst

def CategoryAccess.hoistedDefs (access : CategoryAccess) : Bool :=
  access.direct || access.selectDefs

def CategoryAccess.name (access : CategoryAccess) (index : Nat) :
    ConstantRead :=
  if access.hoistedDefs ∧ index ∈ access.defined then .hoisted index
  else if access.direct then .buffer (.fixed index)
  else .array (.fixed index)

def CategoryAccess.relative (access : CategoryAccess) (slot : Subscript) :
    ConstantRead :=
  if access.selectDefs then .select access.defined slot
  else if access.direct then .buffer slot
  else .array slot

structure ConstantAccess where
  float : CategoryAccess := {}
  int : CategoryAccess := {}
  bool : CategoryAccess := {}
  deriving DecidableEq

/-- A definition put in its place; it replaces one of the same index. -/
def insertDef (index : Nat) (literal : List UInt32) :
    List (Nat × List UInt32) → List (Nat × List UInt32)
  | [] => [(index, literal)]
  | (other, value) :: rest =>
      if index < other then (index, literal) :: (other, value) :: rest
      else if index = other then (index, literal) :: rest
      else (other, value) :: insertDef index literal rest

def CategoryAccess.define (access : CategoryAccess) (index : Nat)
    (literal : List UInt32) : CategoryAccess :=
  { access with defs := insertDef index literal access.defs }

def noteDef (stage : D3DShaderStage) (access : ConstantAccess)
    (instruction : D3DDecodedInstruction) :
    Except DecodeStop ConstantAccess :=
  let literal := instruction.operands.drop 1
  if instruction.opcode = kD3DSIO_DEF then
    if instruction.operands.length < 5 then .ok access
    else do
      let dst ← operandRegister stage instruction 0
      return if dst.kind = .constFloat then
        { access with
          float := access.float.define dst.index.toNat (literal.take 4) }
      else access
  else if instruction.opcode = kD3DSIO_DEFI then
    if instruction.operands.length < 5 then .ok access
    else do
      let dst ← operandRegister stage instruction 0
      return if dst.kind = .constInt then
        { access with
          int := access.int.define dst.index.toNat (literal.take 4) }
      else access
  else if instruction.opcode = kD3DSIO_DEFB then
    if instruction.operands.length < 2 then .ok access
    else do
      let dst ← operandRegister stage instruction 0
      return if dst.kind = .constBool then
        { access with
          bool := access.bool.define dst.index.toNat (literal.take 1) }
      else access
  else .ok access

/-- The way to read a category once it is known whether it has indexed reads
and writes at run time. -/
def CategoryAccess.settle (access : CategoryAccess)
    (indexed runtimeWrite : Bool) : CategoryAccess :=
  let direct := !indexed && !runtimeWrite
  { access with
    direct := direct
    selectDefs :=
      !direct && !runtimeWrite && !access.defs.isEmpty &&
        decide (access.defs.length ≤ kMaxDefSelectRegisters) }

def makeConstantAccess (module_ : SpirvModule) (usage : ConstantUsage) :
    Except DecodeStop ConstantAccess := do
  let access ← module_.instructions.foldlM (noteDef module_.stage) {}
  return {
    float := access.float.settle usage.hasIndexedFloat usage.floatRuntimeWrite
    int := access.int.settle usage.hasIndexedInt usage.intRuntimeWrite
    bool := access.bool.settle usage.hasIndexedBool usage.boolRuntimeWrite }

def constantRegisterMaxIndex (kind : D3DRegisterKind)
    (stage : D3DShaderStage) : Nat :=
  match kind with
  | .constFloat =>
      (if stage = .vertex then kMaxVertexConstants
        else kMaxPixelConstants) - 1
  | .constInt => kMaxIntegerConstants - 1
  | .constBool => kMaxBoolConstants - 1
  | _ => 0

/-- A destination among the constants with a relative address writes the whole
category. -/
def promoteIndexedDestination (stage : D3DShaderStage)
    (usage : ConstantUsage) (instruction : D3DDecodedInstruction) :
    Except DecodeStop ConstantUsage :=
  if instruction.operands.isEmpty ||
      !opcodeWritesFirstOperand instruction.opcode ||
      !operandIndexed instruction 0 then
    .ok usage
  else do
    let dst ← operandRegister stage instruction 0
    let count := constantRegisterMaxIndex dst.kind stage + 1
    return match dst.kind with
    | .constFloat =>
        { usage with
          mutableConstants := true
          floatRuntimeWrite := true
          hasFloat := true
          floatCount := count }
    | .constInt =>
        { usage with
          mutableConstants := true
          intRuntimeWrite := true
          hasInt := true
          intCount := count }
    | .constBool =>
        { usage with
          mutableConstants := true
          boolRuntimeWrite := true
          hasBool := true
          boolCount := count }
    | _ => usage

def promoteIndexedConstantDestinations (module_ : SpirvModule)
    (usage : ConstantUsage) : Except DecodeStop ConstantUsage :=
  module_.instructions.foldlM (promoteIndexedDestination module_.stage) usage

/-- A read of a constant at an index, with the last index of its category. -/
def constantRead (access : CategoryAccess) (index : UInt32)
    (relAddrToken : UInt32) (limit : Nat) : Except EmitStop ConstantRead :=
  if relAddrToken = 0 then .ok (access.name index.toNat)
  else do
    let address ← relAddrExpression relAddrToken
    return access.relative (.clamped address index.toNat limit)

end Dxmt9.Shader
