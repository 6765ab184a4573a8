import Dxmt9.Memory.Words
import Dxmt9.Shader.Subroutines

/-!
# The decoder of shader bytecode

The tokens read one after another from the bytes.  The boundaries between
instructions come from operand counts and from the operands that take a
relative-address token along.
-/

namespace Dxmt9.Shader

open Memory

/-- The parts of a vertex element that decoding checks. -/
structure VertexElement where
  method : UInt32 := 0
  usage : UInt32 := 0
  deriving DecidableEq

/-- The parts of the source context that decoding reads. -/
structure ShaderSourceContext where
  elements : List VertexElement := []
  sampleCount : UInt32 := 1
  clipPlaneMask : UInt32 := 0
  deriving DecidableEq

structure ShaderBytecode where
  bytes : List UInt8
  hash : UInt64 := 0
  deriving DecidableEq

def kFnvOffset : UInt64 := 1469598103934665603
def kFnvPrime : UInt64 := 1099511628211

def hashBytes (bytes : List UInt8) : UInt64 :=
  bytes.foldl (fun hash byte => (hash ^^^ byte.toUInt64) * kFnvPrime)
    kFnvOffset

def kD3DDeclUsageSample : UInt32 := 13

def isSupportedDeclUsage (usage : UInt32) : Bool :=
  decide (usage ≤ kD3DDeclUsageSample)

def isSupportedDeclMethod (method : UInt32) : Bool :=
  method == 0

/-- The reason for which the vertex elements are refused. -/
def declReject : List VertexElement → Option DecoderRejectReason
  | [] => none
  | element :: rest =>
      if !isSupportedDeclMethod element.method then
        some .declMethodUnsupported
      else if !isSupportedDeclUsage element.usage then
        some .declUsageUnsupported
      else declReject rest

def decodeDclTextureType (token : UInt32) : TextureType :=
  let type := tokenBits token 27 0xf
  if type = 3 then .cube
  else if type = 4 then .volume
  else .twoD

def kD3DSP_DCL_USAGE_MASK : UInt32 := 0x0000000f

def readWord (bytes : List UInt8) (offset : Nat) :
    Except DecodeStop UInt32 :=
  match bytes.drop offset with
  | a :: b :: c :: d :: _ => .ok (wordOf a b c d)
  | _ => .error .outside

/-! ## Instructions -/

/-- Where reading is, the words read, and the instruction read so far. -/
structure OperandCursor where
  offset : Nat
  words : List UInt32
  instruction : D3DDecodedInstruction

/-- A word added to those read. -/
def OperandCursor.take (cursor : OperandCursor) (word : UInt32) :
    OperandCursor :=
  { cursor with
    offset := cursor.offset + 4
    words := cursor.words ++ [word] }

def OperandCursor.addOperand (cursor : OperandCursor) (token : UInt32) :
    OperandCursor :=
  { cursor with
    instruction :=
      { cursor.instruction with
        operands := cursor.instruction.operands ++ [token] } }

def OperandCursor.setRelAddr (cursor : OperandCursor) (index : Nat)
    (token : UInt32) : OperandCursor :=
  { cursor with
    instruction :=
      { cursor.instruction with
        relAddrTokens := cursor.instruction.relAddrTokens.set index token } }

/-- The next word, or the reason that there is none. -/
def OperandCursor.next (bytes : List UInt8) (cursor : OperandCursor) :
    Except DecodeStop UInt32 :=
  if bytes.length < cursor.offset + 4 then .error (.reject .truncated)
  else readWord bytes cursor.offset

def readOperand (bytes : List UInt8) (stage : D3DShaderStage)
    (cursor : OperandCursor) (index : Nat) :
    Except DecodeStop OperandCursor := do
  let operandToken ← cursor.next bytes
  let taken := (cursor.take operandToken).addOperand operandToken
  if !operandIsRegister cursor.instruction.opcode index then return taken
  else
    let _ ← decodeRegisterKind (decodeRegisterType operandToken) stage
    if !tokenHasRelativeAddressing operandToken then return taken
    else
      let relAddrToken ← taken.next bytes
      return (taken.take relAddrToken).setRelAddr index relAddrToken

def readOperands (bytes : List UInt8) (stage : D3DShaderStage)
    (count : Nat) (cursor : OperandCursor) :
    Except DecodeStop OperandCursor :=
  (List.range count).foldlM (readOperand bytes stage) cursor

/-- The instruction of a token before its operands are read. -/
def makeInstruction (token : UInt32) (count : Nat) :
    D3DDecodedInstruction where
  opcode := tokenOpcode token
  controls := tokenBits token 16 0xff
  predicated := tokenBits token 28 0x1 != 0
  coissue := (token &&& 0x40000000) != 0
  relAddrTokens := List.replicate count 0

def sampleOpcodes : List UInt32 :=
  [kD3DSIO_TEX, kD3DSIO_TEXLDD, kD3DSIO_TEXLDL, kD3DSIO_TEXBEM,
    kD3DSIO_TEXBEML, kD3DSIO_TEXREG2AR, kD3DSIO_TEXREG2GB,
    kD3DSIO_TEXM3x2TEX, kD3DSIO_TEXM3x3TEX, kD3DSIO_TEXM3x3SPEC,
    kD3DSIO_TEXM3x3VSPEC, kD3DSIO_TEXREG2RGB, kD3DSIO_TEXDP3TEX]

/-- What a declaration says about samplers, and whether its usage is one that
a vertex input can have. -/
def noteDeclaration (module_ : SpirvModule)
    (instruction : D3DDecodedInstruction) : Except DecodeStop SpirvModule :=
  match instruction.operands with
  | semantic :: destination :: _ =>
      if instruction.opcode ≠ kD3DSIO_DCL then .ok module_
      else do
        let dst ← decodeRegisterRef destination module_.stage
        let noted :=
          if dst.kind = .sampler ∧
              dst.index.toNat < module_.samplerTextureTypes.length then
            { module_ with
              samplerTextureTypes := module_.samplerTextureTypes.set
                dst.index.toNat (decodeDclTextureType semantic) }
          else module_
        if module_.stage = .vertex ∧ dst.kind = .input ∧
            !isSupportedDeclUsage (semantic &&& kD3DSP_DCL_USAGE_MASK) then
          .error (.reject .declUsageUnsupported)
        else return noted
  | _ => .ok module_

/-- An instruction read behind its token. -/
def decodeInstruction (bytes : List UInt8) (module_ : SpirvModule)
    (offset : Nat) (token : UInt32) (count : Nat) :
    Except DecodeStop (SpirvModule × Nat) := do
  let cursor ← readOperands bytes module_.stage count
    { offset := offset
      words := module_.words
      instruction := makeInstruction token count }
  let sampled :=
    { module_ with
      words := cursor.words
      usesTexture := module_.usesTexture ||
        decide (tokenOpcode token ∈ sampleOpcodes) }
  let noted ← noteDeclaration sampled cursor.instruction
  return ({ noted with
    instructions := noted.instructions ++ [cursor.instruction] },
    cursor.offset)

/-- The words of a comment. -/
def commentWords (token : UInt32) : Nat := (tokenBits token 16 0x7fff).toNat

/-- One round of the loop: the module, and where the next token is unless
this one was the last. -/
def decodeToken (bytes : List UInt8) (module_ : SpirvModule) (offset : Nat) :
    Except DecodeStop (SpirvModule × Option Nat) := do
  let token ← readWord bytes offset
  let read := { module_ with words := module_.words ++ [token] }
  let behind := offset + 4
  let opcode := tokenOpcode token
  if opcode = kD3DSIO_END then return (read, none)
  else if opcode = kD3DSIO_COMMENT then
    let commentBytes := commentWords token * 4
    if bytes.length < behind + commentBytes then
      .error (.reject .truncated)
    else return (read, some (behind + commentBytes))
  else if opcode = kD3DSIO_PHASE then return (read, some behind)
  else
    match operandCount module_.major module_.minor module_.stage token with
    | none => .error (.reject .invalidOpcode)
    | some count =>
        let decoded ← decodeInstruction bytes read behind token count
        return (decoded.1, some decoded.2)

/-- The loop over the tokens.  Every round takes a word, so as many rounds as
bytes are enough. -/
def decodeStream (bytes : List UInt8) :
    Nat → SpirvModule → Nat → Except DecodeStop SpirvModule
  | 0, _, _ => .error .unfinished
  | rounds + 1, module_, offset =>
      if bytes.length ≤ offset then .ok module_
      else do
        let round ← decodeToken bytes module_ offset
        match round.2 with
        | none => return round.1
        | some next => decodeStream bytes rounds round.1 next

/-- The version of a shader that is not supported. -/
def unsupportedVersion (stage : D3DShaderStage) (major minor : UInt32) :
    Bool :=
  (stage == .vertex && !(major == 1 && minor == 1) && decide (major < 2)) ||
    (stage == .pixel && decide (major < 1)) || decide (3 < major)

/-- The stage that a version token names. -/
def versionStage (token : UInt32) : Option D3DShaderStage :=
  if token >>> 16 = 0xfffe then some .vertex
  else if token >>> 16 = 0xffff then some .pixel
  else none

def versionMajor (token : UInt32) : UInt32 := tokenBits token 8 0xff
def versionMinor (token : UInt32) : UInt32 := token &&& 0xff

def moduleHash (shader : ShaderBytecode) (vertex : Bool)
    (context : ShaderSourceContext) : UInt64 :=
  let bytecodeHash :=
    if shader.hash != 0 then shader.hash else hashBytes shader.bytes
  bytecodeHash ^^^
    (if vertex then 0x5356505653455254 else 0x5350465348454453) ^^^
    context.clipPlaneMask.toUInt64 ^^^
    (context.sampleCount.toUInt64 <<< (32 : UInt64))

/-- The module before its first token: the version checked and noted. -/
def decodeVersion (shader : ShaderBytecode) (vertex : Bool)
    (context : ShaderSourceContext) : Except DecodeStop SpirvModule := do
  if shader.bytes.length < 4 ∨ shader.bytes.length % 4 ≠ 0 then
    .error (.reject .truncated)
  match declReject context.elements with
  | some reason => .error (.reject reason)
  | none =>
      let versionToken ← readWord shader.bytes 0
      match versionStage versionToken with
      | none => .error (.reject .unsupportedVersion)
      | some stage =>
          let major := versionMajor versionToken
          let minor := versionMinor versionToken
          if unsupportedVersion stage major minor then
            .error (.reject .unsupportedVersion)
          else
            return {
              words := [versionToken]
              hash := moduleHash shader vertex context
              stage := stage
              major := major
              minor := minor }

/-- The instructions as the stream has them, before calls are put in place. -/
def decodeTokens (shader : ShaderBytecode) (vertex : Bool)
    (context : ShaderSourceContext) : Except DecodeStop SpirvModule := do
  let header ← decodeVersion shader vertex context
  decodeStream shader.bytes shader.bytes.length header 4

/-- A rejected shader gives the empty module. -/
def translateD3DBytecodeToSpirv (shader : ShaderBytecode) (vertex : Bool)
    (context : ShaderSourceContext) : SpirvModule :=
  match decodeTokens shader vertex context >>= inlineShaderSubroutines with
  | .ok module_ => module_
  | .error _ => {}

end Dxmt9.Shader

/-!
## Token streams

A stream of the bytecode format: a version, comments and instructions with the
words that belong to them, and an end.  What it means that a module has one
instruction for every instruction token, each of exactly the stated words.
-/

namespace Dxmt9.Shader

open Memory

/-- A token with the words that belong to it. -/
structure TokenItem where
  token : UInt32
  payload : List UInt32
  deriving DecidableEq

structure TokenStream where
  version : UInt32
  items : List TokenItem
  deriving DecidableEq

def TokenItem.opcode (item : TokenItem) : UInt32 := tokenOpcode item.token

def TokenItem.words (item : TokenItem) : List UInt32 :=
  item.token :: item.payload

/-- The words of some items and of the end behind them. -/
def itemWords (items : List TokenItem) : List UInt32 :=
  items.flatMap TokenItem.words ++ [kD3DSIO_END]

def TokenStream.bytes (stream : TokenStream) : List UInt8 :=
  wordsBytes (stream.version :: itemWords stream.items)

/-- How many words a token states for its instruction.  Before shader model
two a token has no length, and an operand is one word. -/
def statedLength (version : UInt32) (stage : D3DShaderStage)
    (token : UInt32) : Nat :=
  if versionMajor version < 2 then
    (operandCount (versionMajor version) (versionMinor version) stage
      token).getD 0
  else tokenLength token

/-- An item that has the words that its token states. -/
structure TokenItem.WellFormed (version : UInt32) (stage : D3DShaderStage)
    (item : TokenItem) : Prop where
  notEnd : item.opcode ≠ kD3DSIO_END
  comment : item.opcode = kD3DSIO_COMMENT →
    item.payload.length = commentWords item.token
  instruction : item.opcode ≠ kD3DSIO_COMMENT →
    item.payload.length = statedLength version stage item.token

def TokenStream.WellFormed (stream : TokenStream) (stage : D3DShaderStage) :
    Prop :=
  versionStage stream.version = some stage ∧
    ∀ item ∈ stream.items, item.WellFormed stream.version stage

/-- The items that are instructions. -/
def instructionItems (items : List TokenItem) : List TokenItem :=
  items.filter fun item => item.opcode != kD3DSIO_COMMENT

/-- Operands, and behind a relative register operand its address token. -/
def operandWords (opcode : UInt32) : Nat → List (UInt32 × UInt32) → List UInt32
  | _, [] => []
  | index, (operand, relAddr) :: rest =>
      (if operandIsRegister opcode index &&
          tokenHasRelativeAddressing operand then
        [operand, relAddr]
      else [operand]) ++ operandWords opcode (index + 1) rest

/-- The words that were read for an instruction. -/
def D3DDecodedInstruction.consumed (instruction : D3DDecodedInstruction) :
    List UInt32 :=
  operandWords instruction.opcode 0
    (instruction.operands.zip instruction.relAddrTokens)

/-- An instruction of a token, read from exactly the words of its item. -/
structure DecodedFrom (item : TokenItem)
    (instruction : D3DDecodedInstruction) : Prop where
  opcode : instruction.opcode = item.opcode
  controls : instruction.controls = tokenBits item.token 16 0xff
  consumed : instruction.consumed = item.payload

/-- One instruction for every instruction token, from the words it states. -/
def BoundariesExact (items : List TokenItem)
    (instructions : List D3DDecodedInstruction) : Prop :=
  List.Forall₂ DecodedFrom (instructionItems items) instructions

/-- What is left of some words behind a number of operands. -/
def skipOperands (opcode : UInt32) :
    Nat → Nat → List UInt32 → Option (List UInt32)
  | _, 0, words => some words
  | _, _ + 1, [] => none
  | index, count + 1, operand :: words =>
      if operandIsRegister opcode index &&
          tokenHasRelativeAddressing operand then
        match words with
        | [] => none
        | _ :: words => skipOperands opcode (index + 1) count words
      else skipOperands opcode (index + 1) count words

/-- The operands that the tables count, each with an address token if it is a
relative register operand, are just the words that the token states. -/
def TokenItem.Measured (version : UInt32) (stage : D3DShaderStage)
    (item : TokenItem) : Prop :=
  item.opcode ≠ kD3DSIO_PHASE ∧
    ∃ count, operandCount (versionMajor version) (versionMinor version) stage
        item.token = some count ∧
      skipOperands item.opcode 0 count item.payload = some []

section

variable {opcode : UInt32} {index count more : Nat}
  {words rest : List UInt32}

section

variable (skipped : skipOperands opcode index count words = some [])
include skipped

theorem skipOperands_add :
    skipOperands opcode index (count + more) (words ++ rest) =
      skipOperands opcode (index + count) more rest := by
  induction count generalizing index words with
  | zero =>
      cases Option.some.inj skipped
      rw [Nat.zero_add]
      rfl
  | succ count induction =>
      have total : count + 1 + more = count + more + 1 := by omega
      have position : index + (count + 1) = index + 1 + count := by omega
      rw [total, position]
      cases words with
      | nil => exact nomatch skipped
      | cons operand words =>
          rw [List.cons_append]
          simp only [skipOperands] at skipped ⊢
          split at skipped
          · rename_i relative
            rw [if_pos relative]
            cases words with
            | nil => exact nomatch skipped
            | cons relAddr words => exact induction skipped
          · rename_i plain
            rw [if_neg plain]
            exact induction skipped

/-- What is left does not depend on what is behind. -/
theorem skipOperands_append :
    skipOperands opcode index count (words ++ rest) = some rest :=
  @skipOperands_add opcode index count 0 words rest skipped

theorem skipOperands_unique {words' rest' : List UInt32}
    (skipped' : skipOperands opcode index count words' = some [])
    (same : words ++ rest = words' ++ rest') : words = words' := by
  have left : skipOperands opcode index count (words ++ rest) = some rest :=
    skipOperands_append skipped
  have right : skipOperands opcode index count (words' ++ rest') =
      some rest' := skipOperands_append skipped'
  rw [same, right] at left
  cases left
  exact List.append_cancel_right same

end

theorem operandWords_append {front back : List (UInt32 × UInt32)} :
    operandWords opcode index (front ++ back) =
      operandWords opcode index front ++
        operandWords opcode (index + front.length) back := by
  induction front generalizing index with
  | nil => rfl
  | cons head tail induction =>
      have position : index + (head :: tail).length =
          index + 1 + tail.length := by
        rw [List.length_cons]
        omega
      rw [List.cons_append, operandWords, operandWords, induction, position,
        List.append_assoc]

end

end Dxmt9.Shader
