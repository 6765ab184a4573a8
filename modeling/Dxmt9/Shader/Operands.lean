
/-!
# Shader bytecode and its operands

The tokens of a shader of the API, the opcodes and register types they name,
and the module that decoding them gives.
-/

namespace Dxmt9.Shader

/-! ## Opcodes -/

def kD3DSIO_NOP : UInt32 := 0
def kD3DSIO_MOV : UInt32 := 1
def kD3DSIO_ADD : UInt32 := 2
def kD3DSIO_SUB : UInt32 := 3
def kD3DSIO_MAD : UInt32 := 4
def kD3DSIO_MUL : UInt32 := 5
def kD3DSIO_RCP : UInt32 := 6
def kD3DSIO_RSQ : UInt32 := 7
def kD3DSIO_DP3 : UInt32 := 8
def kD3DSIO_DP4 : UInt32 := 9
def kD3DSIO_MIN : UInt32 := 10
def kD3DSIO_MAX : UInt32 := 11
def kD3DSIO_SLT : UInt32 := 12
def kD3DSIO_SGE : UInt32 := 13
def kD3DSIO_EXP : UInt32 := 14
def kD3DSIO_LOG : UInt32 := 15
def kD3DSIO_LIT : UInt32 := 16
def kD3DSIO_DST : UInt32 := 17
def kD3DSIO_LRP : UInt32 := 18
def kD3DSIO_FRC : UInt32 := 19
def kD3DSIO_M4x4 : UInt32 := 20
def kD3DSIO_M4x3 : UInt32 := 21
def kD3DSIO_M3x4 : UInt32 := 22
def kD3DSIO_M3x3 : UInt32 := 23
def kD3DSIO_M3x2 : UInt32 := 24
def kD3DSIO_CALL : UInt32 := 25
def kD3DSIO_CALLNZ : UInt32 := 26
def kD3DSIO_LOOP : UInt32 := 27
def kD3DSIO_RET : UInt32 := 28
def kD3DSIO_ENDLOOP : UInt32 := 29
def kD3DSIO_LABEL : UInt32 := 30
def kD3DSIO_DCL : UInt32 := 31
def kD3DSIO_POW : UInt32 := 32
def kD3DSIO_CRS : UInt32 := 33
def kD3DSIO_SGN : UInt32 := 34
def kD3DSIO_ABS : UInt32 := 35
def kD3DSIO_NRM : UInt32 := 36
def kD3DSIO_SINCOS : UInt32 := 37
def kD3DSIO_REP : UInt32 := 38
def kD3DSIO_ENDREP : UInt32 := 39
def kD3DSIO_IF : UInt32 := 40
def kD3DSIO_IFC : UInt32 := 41
def kD3DSIO_ELSE : UInt32 := 42
def kD3DSIO_ENDIF : UInt32 := 43
def kD3DSIO_BREAK : UInt32 := 44
def kD3DSIO_BREAKC : UInt32 := 45
def kD3DSIO_MOVA : UInt32 := 46
def kD3DSIO_DEFB : UInt32 := 47
def kD3DSIO_DEFI : UInt32 := 48
def kD3DSIO_TEXCOORD : UInt32 := 64
def kD3DSIO_TEXKILL : UInt32 := 65
def kD3DSIO_TEX : UInt32 := 66
def kD3DSIO_TEXBEM : UInt32 := 67
def kD3DSIO_TEXBEML : UInt32 := 68
def kD3DSIO_TEXREG2AR : UInt32 := 69
def kD3DSIO_TEXREG2GB : UInt32 := 70
def kD3DSIO_TEXM3x2PAD : UInt32 := 71
def kD3DSIO_TEXM3x2TEX : UInt32 := 72
def kD3DSIO_TEXM3x3PAD : UInt32 := 73
def kD3DSIO_TEXM3x3TEX : UInt32 := 74
def kD3DSIO_TEXM3x3DIFF : UInt32 := 75
def kD3DSIO_TEXM3x3SPEC : UInt32 := 76
def kD3DSIO_TEXM3x3VSPEC : UInt32 := 77
def kD3DSIO_EXPP : UInt32 := 78
def kD3DSIO_LOGP : UInt32 := 79
def kD3DSIO_CND : UInt32 := 80
def kD3DSIO_DEF : UInt32 := 81
def kD3DSIO_TEXREG2RGB : UInt32 := 82
def kD3DSIO_TEXDP3TEX : UInt32 := 83
def kD3DSIO_TEXM3x2DEPTH : UInt32 := 84
def kD3DSIO_TEXDP3 : UInt32 := 85
def kD3DSIO_TEXM3x3 : UInt32 := 86
def kD3DSIO_TEXDEPTH : UInt32 := 87
def kD3DSIO_CMP : UInt32 := 88
def kD3DSIO_BEM : UInt32 := 89
def kD3DSIO_DP2ADD : UInt32 := 90
def kD3DSIO_DSX : UInt32 := 91
def kD3DSIO_DSY : UInt32 := 92
def kD3DSIO_TEXLDD : UInt32 := 93
def kD3DSIO_SETP : UInt32 := 94
def kD3DSIO_TEXLDL : UInt32 := 95
def kD3DSIO_BREAKP : UInt32 := 96
def kD3DSIO_PHASE : UInt32 := 0xfffd
def kD3DSIO_COMMENT : UInt32 := 0xfffe
def kD3DSIO_END : UInt32 := 0xffff

/-! Markers of calls that are put in after decoding. -/

def kDXMT9_INTERNAL_CALL_BEGIN : UInt32 := 0xfff00001
def kDXMT9_INTERNAL_CALL_END : UInt32 := 0xfff00002
def kDXMT9_INTERNAL_CALL_RET : UInt32 := 0xfff00003

inductive D3DShaderStage where
  | vertex
  | pixel
  deriving DecidableEq

inductive D3DRegisterKind where
  | temp
  | input
  | constFloat
  | address
  | rastOut
  | attrOut
  | texCoordOut
  | constInt
  | colorOut
  | depthOut
  | sampler
  | constBool
  | loop
  | miscType
  | predicate
  | unknown
  deriving DecidableEq

structure D3DRegisterRef where
  kind : D3DRegisterKind := .unknown
  index : UInt32 := 0
  deriving DecidableEq

/-- An instruction with a relative-address slot beside every operand. -/
structure D3DDecodedInstruction where
  opcode : UInt32 := 0
  controls : UInt32 := 0
  predicated : Bool := false
  coissue : Bool := false
  operands : List UInt32 := []
  relAddrTokens : List UInt32 := []
  deriving DecidableEq

inductive TextureType where
  | twoD
  | cube
  | volume
  | array2D
  deriving DecidableEq

def kMaxSamplers : Nat := 20

structure SpirvModule where
  words : List UInt32 := []
  hash : UInt64 := 0
  usesTexture : Bool := false
  stage : D3DShaderStage := .vertex
  major : UInt32 := 0
  minor : UInt32 := 0
  samplerTextureTypes : List TextureType :=
    List.replicate kMaxSamplers .twoD
  instructions : List D3DDecodedInstruction := []
  deriving DecidableEq

end Dxmt9.Shader

/-!
## Operand tokens

What the bits of an operand token say, and how many operands the token of an
instruction has.
-/

namespace Dxmt9.Shader

inductive DecoderRejectReason where
  | truncated
  | unsupportedVersion
  | invalidOpcode
  | tempFloat16Unsupported
  | labelUnsupported
  | declUsageUnsupported
  | declMethodUnsupported
  deriving DecidableEq

/-- Why decoding stops: the input is rejected, a read is outside of what there
is to read, or no step is left. -/
inductive DecodeStop where
  | reject (reason : DecoderRejectReason)
  | outside
  | unfinished
  deriving DecidableEq

/-! ## Registers -/

def kD3DSPR_TEMP : UInt32 := 0
def kD3DSPR_INPUT : UInt32 := 1
def kD3DSPR_CONST : UInt32 := 2
def kD3DSPR_ADDR : UInt32 := 3
def kD3DSPR_RASTOUT : UInt32 := 4
def kD3DSPR_ATTROUT : UInt32 := 5
def kD3DSPR_TEXCRDOUT : UInt32 := 6
def kD3DSPR_CONSTINT : UInt32 := 7
def kD3DSPR_COLOROUT : UInt32 := 8
def kD3DSPR_DEPTHOUT : UInt32 := 9
def kD3DSPR_SAMPLER : UInt32 := 10
def kD3DSPR_CONST2 : UInt32 := 11
def kD3DSPR_CONST3 : UInt32 := 12
def kD3DSPR_CONST4 : UInt32 := 13
def kD3DSPR_CONSTBOOL : UInt32 := 14
def kD3DSPR_LOOP : UInt32 := 15
def kD3DSPR_TEMPFLOAT16 : UInt32 := 16
def kD3DSPR_MISCTYPE : UInt32 := 17
def kD3DSPR_LABEL : UInt32 := 18
def kD3DSPR_PREDICATE : UInt32 := 19

/-- The bits of a token from a position on, as many as the mask has. -/
def tokenBits (token shift mask : UInt32) : UInt32 :=
  (token >>> shift) &&& mask

def decodeRegisterType (token : UInt32) : UInt32 :=
  tokenBits token 28 0x7 ||| (tokenBits token 11 0x3 <<< (3 : UInt32))

def decodeRegisterIndex (token : UInt32) : UInt32 :=
  token &&& 0x7ff

def decodeLabelIndex (token : UInt32) : UInt32 :=
  token &&& 0x7ff

def tokenHasRelativeAddressing (token : UInt32) : Bool :=
  tokenBits token 13 0x1 != 0

def decodeRegisterKind (type : UInt32) (stage : D3DShaderStage) :
    Except DecodeStop D3DRegisterKind :=
  if type = kD3DSPR_TEMP then .ok .temp
  else if type = kD3DSPR_INPUT then .ok .input
  else if type = kD3DSPR_CONST then .ok .constFloat
  else if type = kD3DSPR_ADDR then
    .ok (if stage = .vertex then .address else .input)
  else if type = kD3DSPR_RASTOUT then .ok .rastOut
  else if type = kD3DSPR_ATTROUT then .ok .attrOut
  else if type = kD3DSPR_TEXCRDOUT then .ok .texCoordOut
  else if type = kD3DSPR_CONSTINT then .ok .constInt
  else if type = kD3DSPR_COLOROUT then .ok .colorOut
  else if type = kD3DSPR_DEPTHOUT then .ok .depthOut
  else if type = kD3DSPR_SAMPLER then .ok .sampler
  else if type ∈ [kD3DSPR_CONST2, kD3DSPR_CONST3, kD3DSPR_CONST4] then
    .ok .constFloat
  else if type = kD3DSPR_CONSTBOOL then .ok .constBool
  else if type = kD3DSPR_LOOP then .ok .loop
  else if type = kD3DSPR_TEMPFLOAT16 then
    .error (.reject .tempFloat16Unsupported)
  else if type = kD3DSPR_MISCTYPE then .ok .miscType
  else if type = kD3DSPR_LABEL then .error (.reject .labelUnsupported)
  else if type = kD3DSPR_PREDICATE then .ok .predicate
  else .ok .unknown

def decodeRegisterRef (token : UInt32) (stage : D3DShaderStage) :
    Except DecodeStop D3DRegisterRef :=
  (decodeRegisterKind (decodeRegisterType token) stage).map fun kind =>
    { kind := kind
      index := decodeRegisterIndex token }

def fixedOperandCountIfKnown (opcode : UInt32) : Option Nat :=
  if opcode ∈ [kD3DSIO_NOP, kD3DSIO_PHASE, kD3DSIO_ELSE, kD3DSIO_ENDIF,
      kD3DSIO_ENDLOOP, kD3DSIO_ENDREP, kD3DSIO_RET, kD3DSIO_BREAK] then
    some 0
  else if opcode ∈ [kD3DSIO_MOV, kD3DSIO_DEFB, kD3DSIO_RCP, kD3DSIO_RSQ,
      kD3DSIO_FRC, kD3DSIO_DSX, kD3DSIO_DSY, kD3DSIO_SETP, kD3DSIO_BREAKP,
      kD3DSIO_MOVA, kD3DSIO_LOG, kD3DSIO_LOGP, kD3DSIO_EXP, kD3DSIO_EXPP,
      kD3DSIO_LIT, kD3DSIO_SGN, kD3DSIO_ABS, kD3DSIO_NRM] then
    some 2
  else if opcode ∈ [kD3DSIO_LABEL, kD3DSIO_CALL, kD3DSIO_IF,
      kD3DSIO_TEXKILL] then
    some 1
  else if opcode ∈ [kD3DSIO_IFC, kD3DSIO_BREAKC, kD3DSIO_CALLNZ] then
    some 2
  else if opcode ∈ [kD3DSIO_ADD, kD3DSIO_SUB, kD3DSIO_MUL, kD3DSIO_DP3,
      kD3DSIO_DP4, kD3DSIO_DST, kD3DSIO_MIN, kD3DSIO_MAX, kD3DSIO_POW,
      kD3DSIO_CRS, kD3DSIO_TEXLDL, kD3DSIO_SLT, kD3DSIO_SGE, kD3DSIO_M4x4,
      kD3DSIO_M4x3, kD3DSIO_M3x4, kD3DSIO_M3x3, kD3DSIO_M3x2] then
    some 3
  else if opcode = kD3DSIO_TEXLDD then some 5
  else if opcode ∈ [kD3DSIO_MAD, kD3DSIO_LRP, kD3DSIO_CND, kD3DSIO_CMP,
      kD3DSIO_DP2ADD] then
    some 4
  else if opcode ∈ [kD3DSIO_DEF, kD3DSIO_DEFI] then some 5
  else if opcode ∈ [kD3DSIO_COMMENT, kD3DSIO_END] then some 0
  else none

def legacyPixelOperandCount (opcode major minor : UInt32)
    (stage : D3DShaderStage) : Option Nat :=
  if stage ≠ .pixel ∨ major ≠ 1 then none
  else if opcode ∈ [kD3DSIO_TEXCOORD, kD3DSIO_TEX] then
    some (if 4 ≤ minor then 2 else 1)
  else if opcode = kD3DSIO_TEXDEPTH then some 1
  else if opcode ∈ [kD3DSIO_TEXBEM, kD3DSIO_TEXBEML, kD3DSIO_TEXREG2AR,
      kD3DSIO_TEXREG2GB, kD3DSIO_TEXM3x2PAD, kD3DSIO_TEXM3x2TEX,
      kD3DSIO_TEXM3x3PAD, kD3DSIO_TEXM3x3TEX, kD3DSIO_TEXM3x3DIFF,
      kD3DSIO_TEXM3x3VSPEC, kD3DSIO_TEXREG2RGB, kD3DSIO_TEXDP3TEX,
      kD3DSIO_TEXM3x2DEPTH, kD3DSIO_TEXDP3, kD3DSIO_TEXM3x3] then
    some 2
  else if opcode ∈ [kD3DSIO_TEXM3x3SPEC, kD3DSIO_BEM] then some 3
  else none

/-- The opcodes that may have no operand at all. -/
def mayLackOperands (opcode : UInt32) : Bool :=
  opcode ∈ [kD3DSIO_NOP, kD3DSIO_ELSE, kD3DSIO_ENDIF, kD3DSIO_ENDLOOP,
    kD3DSIO_ENDREP, kD3DSIO_RET, kD3DSIO_BREAK, kD3DSIO_PHASE,
    kD3DSIO_COMMENT, kD3DSIO_END]

def tokenOpcode (token : UInt32) : UInt32 := token &&& 0xffff

/-- The length that the token of an instruction states. -/
def tokenLength (token : UInt32) : Nat := (tokenBits token 24 0xf).toNat

/-- How many operands are read for a token: the count of its opcode, or the
length that it states. -/
def operandCount (major minor : UInt32) (stage : D3DShaderStage)
    (token : UInt32) : Option Nat :=
  let opcode := tokenOpcode token
  match legacyPixelOperandCount opcode major minor stage with
  | some count => some count
  | none =>
      match fixedOperandCountIfKnown opcode with
      | some count => some count
      | none =>
          if tokenLength token = 0 ∧ !mayLackOperands opcode then none
          else some (tokenLength token)

/-- The operands that name a register; the others are literals and labels. -/
def operandIsRegister (opcode : UInt32) (index : Nat) : Bool :=
  if opcode ∈ [kD3DSIO_DEF, kD3DSIO_DEFI, kD3DSIO_DEFB] then index == 0
  else if opcode ∈ [kD3DSIO_LABEL, kD3DSIO_CALL] then false
  else if opcode = kD3DSIO_CALLNZ then index != 0
  else true

end Dxmt9.Shader
