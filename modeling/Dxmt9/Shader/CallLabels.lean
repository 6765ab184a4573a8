import Dxmt9.Shader.AnalysisAccepts

/-!
# Labels that passes decode

A call that no subroutine has replaced keeps its label.  Two passes decode the
label as a register, and stop where its token names one without a lowering.
-/

namespace Dxmt9.Shader

open Fallible

variable {stage : D3DShaderStage} {instruction : D3DDecodedInstruction}
  {module_ : SpirvModule}

/-- A call whose label has the token of a register without a lowering. -/
def strayLabel (calls : List UInt32) (instruction : D3DDecodedInstruction) :
    Bool :=
  decide (instruction.opcode ∈ calls) &&
    match instruction.operands with
    | [] => false
    | label :: _ => unsupportedType label

/-- An operand of the instruction is a texture coordinate output. -/
def namesTexcoordOut (instruction : D3DDecodedInstruction) : Bool :=
  (operandsFrom instruction 0).any fun index =>
    !texcoordScanSkips instruction.opcode index &&
      (instruction.operands[index]?).any fun token =>
        decodeRegisterType token == kD3DSPR_TEXCRDOUT

/-- No label is decoded as a register without a lowering: in a vertex shader
that of no call at all, in a pixel shader that of no conditional call ahead
of the first texture coordinate output. -/
def labelsUnread (module_ : SpirvModule) : Bool :=
  match module_.stage with
  | .vertex =>
      module_.instructions.all fun instruction =>
        !strayLabel [kD3DSIO_CALL, kD3DSIO_CALLNZ] instruction
  | .pixel =>
      module_.major == 1 ||
        (module_.instructions.takeWhile fun instruction =>
          !(namesTexcoordOut instruction &&
            !strayLabel [kD3DSIO_CALLNZ] instruction)).all
              fun instruction => !strayLabel [kD3DSIO_CALLNZ] instruction

theorem supported_label_iff {calls : List UInt32}
    (call : instruction.opcode ∈ calls)
    (some : 0 < instruction.operands.length) :
    Supported instruction 0 ↔ strayLabel calls instruction = false := by
  rw [strayLabel, decide_eq_true call, Supported]
  cases listed : instruction.operands with
  | nil =>
      rw [listed] at some
      exact absurd some (Nat.lt_irrefl 0)
  | cons label rest =>
      constructor
      · rintro ⟨token, found, supported⟩
        cases found
        exact supported
      · exact fun supported => ⟨label, rfl, supported⟩

variable {index : Nat}

section

variable (supported : RegistersSupported instruction)
  (unlabelled : instruction.opcode ≠ kD3DSIO_LABEL)
include supported unlabelled

theorem supported_scanned
    (definition : instruction.opcode ∈ definitionOpcodes → index = 0)
    (call : index = 0 → instruction.opcode ∉ [kD3DSIO_CALL, kD3DSIO_CALLNZ])
    (inside : index < instruction.operands.length) :
    Supported instruction index := by
  apply supported.supported _ inside
  apply operandIsRegister_of definition
  · intro listed
    cases List.mem_cons.mp listed with
    | inl label => exact unlabelled label
    | inr listed =>
        have plain := List.mem_singleton.mp listed
        have short := supported.calls plain
        apply call (by omega)
        rw [plain]
        exact List.mem_cons_self
  · intro conditional first
    apply call first
    rw [conditional]
    exact List.mem_cons_of_mem _ List.mem_cons_self

theorem noteVertexInputs_accepts_iff
    (usage : VertexInputReadUsage) :
    Accepts (noteVertexInputs stage usage instruction) ↔
      strayLabel [kD3DSIO_CALL, kD3DSIO_CALLNZ] instruction = false := by
  have steps : ∀ usage index,
      Accepts (noteVertexInput stage instruction usage index) ↔
        Supported instruction index := by
    intro usage index
    have register : Accepts (operandRegister stage instruction index) ↔
        Supported instruction index := operandRegister_accepts_iff
    rw [← register]
    constructor
    · exact accepts_of_bind
    · intro accepts
      apply accepts.bind
      intro reg
      apply Outcome.ite
      · exact fun _ => trivial
      · exact fun _ => trivial
  by_cases call : instruction.opcode ∈ [kD3DSIO_CALL, kD3DSIO_CALLNZ]
  · have scanned : vertexInputScanSkips instruction.opcode = false ∧
        opcodeWritesFirstOperand instruction.opcode = false :=
      forall_mem_of_all (fun opcode => vertexInputScanSkips opcode = false ∧
        opcodeWritesFirstOperand opcode = false) (by decide) call
    rw [noteVertexInputs, scanned.1, scanned.2]
    change Accepts ((operandsFrom instruction 0).foldlM _ usage) ↔ _
    rw [accepts_foldlM_iff fun index _ usage => steps usage index]
    constructor
    · intro all
      cases Nat.eq_zero_or_pos instruction.operands.length with
      | inl none =>
          rw [strayLabel, List.eq_nil_of_length_eq_zero none]
          exact Bool.and_false _
      | inr some =>
          exact (supported_label_iff call some).mp
            (all 0 (mem_operandsFrom.mpr ⟨Nat.le_refl 0, some⟩))
    · intro read index member
      have inside := (mem_operandsFrom.mp member).2
      cases Nat.eq_zero_or_pos index with
      | inl first =>
          rw [first] at inside ⊢
          exact (supported_label_iff call inside).mpr read
      | inr later =>
          apply supported_scanned supported unlabelled _ _ inside
          · intro definition
            revert call definition
            generalize instruction.opcode = opcode
            intro call definition
            exact absurd definition (forall_mem_of_all
              (fun opcode => opcode ∉ definitionOpcodes) (by decide) call)
          · intro first
            omega
  · have read : strayLabel [kD3DSIO_CALL, kD3DSIO_CALLNZ] instruction =
        false := by
      rw [strayLabel, decide_eq_false call]
      rfl
    apply iff_of_true _ read
    unfold noteVertexInputs
    apply Outcome.ite
    · exact fun _ => trivial
    · intro scanned
      apply (accepts_foldlM_iff fun index _ usage => steps usage index).mpr
      intro index member
      apply supported_scanned supported unlabelled _ (fun _ => call)
        (mem_operandsFrom.mp member).2
      intro definition
      exact absurd (forall_mem_of_all
        (fun opcode => vertexInputScanSkips opcode = true) (by decide)
        definition) scanned

end

theorem collectVertexInputReadUsage_accepts_iff
    (decodable : Decodable module_) (vertex : module_.stage = .vertex) :
    Accepts (collectVertexInputReadUsage module_) ↔
      labelsUnread module_ = true := by
  unfold collectVertexInputReadUsage labelsUnread
  rw [if_neg (not_not.mpr vertex), vertex, accepts_foldlM_iff
    fun instruction member usage =>
      noteVertexInputs_accepts_iff (decodable.supported instruction member)
        (decodable.unlabelled instruction member) usage]
  simp only [List.all_eq_true, Bool.not_eq_true']

theorem decodeRegisterKind_texCoordOut (type : UInt32) :
    Outcome (fun _ => True)
      (fun kind => kind = .texCoordOut → type = kD3DSPR_TEXCRDOUT)
      (decodeRegisterKind type stage) := by
  unfold decodeRegisterKind
  repeat' first
    | exact trivial
    | exact fun _ => by assumption
    | apply Outcome.ite <;> intro
  all_goals intro output
  all_goals first
    | cases output
    | split at output <;> cases output

theorem decodeRegisterKind_texCoordOut_iff {type : UInt32}
    {kind : D3DRegisterKind}
    (decoded : decodeRegisterKind type stage = .ok kind) :
    kind = .texCoordOut ↔ type = kD3DSPR_TEXCRDOUT := by
  constructor
  · have named : Outcome (fun _ => True) _
        (decodeRegisterKind type stage) :=
      decodeRegisterKind_texCoordOut type
    rw [decoded] at named
    exact named
  · intro output
    rw [output] at decoded
    change Except.ok D3DRegisterKind.texCoordOut = _ at decoded
    cases decoded
    rfl

theorem texcoordScanOperand_eq
    (supported : texcoordScanSkips instruction.opcode index = false →
      Supported instruction index) :
    texcoordScanOperand stage instruction index =
      .ok (!texcoordScanSkips instruction.opcode index &&
        (instruction.operands[index]?).any fun token =>
          decodeRegisterType token == kD3DSPR_TEXCRDOUT) := by
  rw [texcoordScanOperand]
  cases skips : texcoordScanSkips instruction.opcode index with
  | true => rfl
  | false =>
      obtain ⟨token, at_, supported⟩ := supported skips
      have accepts : Accepts
          (decodeRegisterKind (decodeRegisterType token) stage) :=
        (decodeRegisterKind_accepts_iff _).mpr
          (decide_eq_false_iff_not.mp supported)
      rw [operandRegister, at_]
      cases decoded : decodeRegisterKind (decodeRegisterType token) stage with
      | error reason =>
          rw [decoded] at accepts
          exact absurd accepts id
      | ok kind =>
          have output := decodeRegisterKind_texCoordOut_iff decoded
          change (decodeRegisterRef token stage >>= _) = _
          rw [decodeRegisterRef, decoded]
          change Except.ok (kind == .texCoordOut) = _
          apply congrArg Except.ok
          rw [Bool.eq_iff_iff, beq_iff_eq, output]
          simp

theorem texcoordScan_eq (supported : RegistersSupported instruction)
    (unlabelled : instruction.opcode ≠ kD3DSIO_LABEL)
    (read : strayLabel [kD3DSIO_CALLNZ] instruction = false) :
    (operandsFrom instruction 0).anyM
        (texcoordScanOperand stage instruction) =
      .ok (namesTexcoordOut instruction) := by
  apply anyM_eq_ok
  intro index member
  have inside := (mem_operandsFrom.mp member).2
  apply texcoordScanOperand_eq
  intro scanned
  rw [texcoordScanSkips, Bool.or_eq_false_iff, Bool.and_eq_false_iff,
    Bool.and_eq_false_iff] at scanned
  by_cases conditional : index = 0 ∧ instruction.opcode = kD3DSIO_CALLNZ
  · rw [conditional.1] at inside ⊢
    apply (supported_label_iff _ inside).mpr read
    rw [conditional.2]
    exact List.mem_singleton.mpr rfl
  · apply supported_scanned supported unlabelled _ _ inside
    · intro definition
      have first := scanned.1.resolve_left fun unlisted =>
        absurd definition (decide_eq_false_iff_not.mp unlisted)
      have zero := decide_eq_false_iff_not.mp first
      omega
    · intro first listed
      cases List.mem_cons.mp listed with
      | inl call =>
          have other := scanned.2.resolve_right fun later =>
            absurd first (beq_eq_false_iff_ne.mp later)
          apply decide_eq_false_iff_not.mp other
          rw [call]
          decide
      | inr last =>
          exact conditional ⟨first, List.mem_singleton.mp last⟩

theorem texcoordScan_refused
    (stray : strayLabel [kD3DSIO_CALLNZ] instruction = true) :
    ¬Accepts ((operandsFrom instruction 0).anyM
      (texcoordScanOperand stage instruction)) := by
  intro accepts
  rw [strayLabel, Bool.and_eq_true, decide_eq_true_eq] at stray
  have call := List.mem_singleton.mp stray.1
  cases listed : instruction.operands with
  | nil =>
      rw [listed] at stray
      cases stray.2
  | cons label rest =>
      rw [listed] at stray
      have first : operandsFrom instruction 0 =
          0 :: List.range' 1 rest.length := by
        rw [operandsFrom, listed]
        rfl
      rw [first, List.anyM] at accepts
      have scanned := accepts_of_bind accepts
      rw [texcoordScanOperand, call] at scanned
      have register := accepts_of_bind scanned
      obtain ⟨token, at_, supported⟩ := operandRegister_accepts_iff.mp register
      rw [listed] at at_
      cases at_
      have unsupported : unsupportedType label = true := stray.2
      rw [unsupported] at supported
      cases supported

theorem pixelUsesTexcoordOut_accepts_iff (decodable : Decodable module_)
    (pixel : module_.stage = .pixel) :
    Accepts (pixelUsesTexcoordOut module_) ↔ labelsUnread module_ = true := by
  unfold pixelUsesTexcoordOut labelsUnread
  rw [if_neg (not_not.mpr pixel), pixel]
  by_cases first : module_.major = 1
  · rw [if_pos first, first]
    exact iff_of_true trivial rfl
  · have scans : ∀ instruction ∈ module_.instructions,
        found ((operandsFrom instruction 0).anyM
          (texcoordScanOperand .pixel instruction)) =
            (namesTexcoordOut instruction &&
              !strayLabel [kD3DSIO_CALLNZ] instruction) ∧
        (Accepts ((operandsFrom instruction 0).anyM
          (texcoordScanOperand .pixel instruction)) ↔
            strayLabel [kD3DSIO_CALLNZ] instruction = false) := by
      intro instruction member
      cases stray : strayLabel [kD3DSIO_CALLNZ] instruction with
      | true =>
          have refused : ¬Accepts ((operandsFrom instruction 0).anyM
            (texcoordScanOperand .pixel instruction)) :=
              texcoordScan_refused stray
          rw [found_eq_false refused]
          exact ⟨(Bool.and_false _).symm, iff_of_false refused nofun⟩
      | false =>
          rw [texcoordScan_eq (decodable.supported instruction member)
            (decodable.unlabelled instruction member) stray]
          refine ⟨?_, iff_of_true trivial rfl⟩
          cases namesTexcoordOut instruction with
          | true => rfl
          | false => rfl
    have ahead := takeWhile_congr fun instruction member =>
      congrArg Bool.not (scans instruction member).1
    rw [if_neg first, accepts_anyM_iff, ahead]
    simp only [beq_eq_false_iff_ne.mpr first, Bool.false_or,
      List.all_eq_true, Bool.not_eq_true']
    constructor
    · intro accepts instruction member
      exact (scans instruction (List.takeWhile_subset _ member)).2.mp
        (accepts instruction member)
    · intro read instruction member
      exact (scans instruction (List.takeWhile_subset _ member)).2.mpr
        (read instruction member)

/-- Every analysis pass gives a result. -/
structure PassesAccept (module_ : SpirvModule) (firstTexture : Bool) :
    Prop where
  constants : Accepts (collectConstantUsage module_)
  predicates : Accepts (shaderUsesPredicateRegisters module_)
  texcoordOut : Accepts (pixelUsesTexcoordOut module_)
  depth : Accepts (pixelWritesDepth module_)
  colors : Accepts (pixelColorOutputCount module_)
  samplers : Accepts (collectPixelSamplerUsage module_ firstTexture)
  inputs : Accepts (collectVertexInputReadUsage module_)

theorem Decodable.passesAccept_iff (decodable : Decodable module_)
    (firstTexture : Bool) :
    PassesAccept module_ firstTexture ↔ labelsUnread module_ = true := by
  cases stage : module_.stage with
  | vertex =>
      have inputs := collectVertexInputReadUsage_accepts_iff decodable stage
      constructor
      · exact fun accept => inputs.mp accept.inputs
      · intro unread
        have other : module_.stage ≠ .pixel := by
          rw [stage]
          decide
        constructor
        · exact collectConstantUsage_accepts decodable
        · exact shaderUsesPredicateRegisters_accepts decodable
        · rw [pixelUsesTexcoordOut, if_pos other]
          exact trivial
        · exact pixelWritesDepth_accepts decodable
        · exact pixelColorOutputCount_accepts decodable
        · exact collectPixelSamplerUsage_accepts decodable firstTexture
        · exact inputs.mpr unread
  | pixel =>
      have outputs := pixelUsesTexcoordOut_accepts_iff decodable stage
      constructor
      · exact fun accept => outputs.mp accept.texcoordOut
      · intro unread
        have other : module_.stage ≠ .vertex := by
          rw [stage]
          decide
        constructor
        · exact collectConstantUsage_accepts decodable
        · exact shaderUsesPredicateRegisters_accepts decodable
        · exact outputs.mpr unread
        · exact pixelWritesDepth_accepts decodable
        · exact pixelColorOutputCount_accepts decodable
        · exact collectPixelSamplerUsage_accepts decodable firstTexture
        · rw [collectVertexInputReadUsage, if_pos other]
          exact trivial

/-- The passes accept what the decoder gives for any bytes exactly where they
read no label of a call that has the token of an unsupported register. -/
theorem analysisPasses_accept (shader : ShaderBytecode) (vertex : Bool)
    (context : ShaderSourceContext) (firstTexture : Bool) :
    PassesAccept (translateD3DBytecodeToSpirv shader vertex context)
        firstTexture ↔
      labelsUnread (translateD3DBytecodeToSpirv shader vertex context) =
        true :=
  (translate_decodable shader vertex context).passesAccept_iff firstTexture

/-- `callnz l0, b0` of shader model three, without a label. -/
def callWords : List UInt32 :=
  [0xffff0300, 0x0200001a, 0xa0001000, 0xe0000800, 0x0000ffff]

/-- The decoder accepts a conditional call without any label, and the search
for texture coordinate outputs stops at the label of the call. -/
theorem callWords_refused :
    (translateD3DBytecodeToSpirv { bytes := Memory.wordsBytes callWords }
        false {}).instructions.length = 1 ∧
      pixelUsesTexcoordOut (translateD3DBytecodeToSpirv
        { bytes := Memory.wordsBytes callWords } false {}) =
          .error (.reject .labelUnsupported) ∧
      ¬PassesAccept (translateD3DBytecodeToSpirv
        { bytes := Memory.wordsBytes callWords } false {}) false := by
  have refused : pixelUsesTexcoordOut (translateD3DBytecodeToSpirv
      { bytes := Memory.wordsBytes callWords } false {}) =
        .error (.reject .labelUnsupported) := by
    decide +kernel
  refine ⟨by decide +kernel, refused, fun accept => ?_⟩
  have accepted := accept.texcoordOut
  rw [refused] at accepted
  exact accepted

end Dxmt9.Shader
