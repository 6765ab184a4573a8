import Dxmt9.Shader.RegisterOperands

/-!
# What the analysis passes accept

Five of the passes accept every module that the decoder gives: the operands
that they decode are registers for the decoder too.
-/

namespace Dxmt9.Shader

open Fallible

variable {stage : D3DShaderStage} {instruction : D3DDecodedInstruction}
  {module_ : SpirvModule}

theorem accepts_foldlM {σ β : Type} {step : σ → β → Except DecodeStop σ}
    {items : List β} {start : σ}
    (steps : ∀ item ∈ items, ∀ state, Accepts (step state item)) :
    Accepts (items.foldlM step start) :=
  outcome_foldlM trivial fun item member state _ => steps item member state

variable {first index : Nat}

theorem mem_operandsFrom :
    index ∈ operandsFrom instruction first ↔
      first ≤ index ∧ index < instruction.operands.length := by
  rw [operandsFrom, List.mem_range'_1]
  omega

/-! ## Operand tables -/

variable {opcode : UInt32}

theorem forall_mem_of_all {list : List UInt32} (Holds : UInt32 → Prop)
    [DecidablePred Holds]
    (checked : (list.all fun opcode => decide (Holds opcode)) = true) (member : opcode ∈ list) : Holds opcode :=
  of_decide_eq_true (List.all_eq_true.mp checked opcode member)

/-- The opcodes with literals behind their first operand. -/
def definitionOpcodes : List UInt32 :=
  [kD3DSIO_DEF, kD3DSIO_DEFI, kD3DSIO_DEFB]

theorem operandIsRegister_of
    (definition : opcode ∈ definitionOpcodes → index = 0)
    (label : opcode ∉ [kD3DSIO_LABEL, kD3DSIO_CALL])
    (call : opcode = kD3DSIO_CALLNZ → index ≠ 0) :
    operandIsRegister opcode index = true := by
  unfold operandIsRegister
  split
  · rename_i listed
    exact beq_iff_eq.mpr (definition listed)
  · split
    · rename_i conditional
      exact bne_iff_ne.mpr (call conditional)
    · rfl

theorem operandIsRegister_written
    (writes : opcodeWritesFirstOperand opcode = true) :
    operandIsRegister opcode 0 = true := by
  have apart : ∀ opcode, opcodeWritesFirstOperand opcode = true →
      opcode ∉ [kD3DSIO_LABEL, kD3DSIO_CALL] ∧ opcode ≠ kD3DSIO_CALLNZ := by
    intro opcode writes
    rw [opcodeWritesFirstOperand, decide_eq_true_eq] at writes
    exact forall_mem_of_all (fun opcode =>
      opcode ∉ [kD3DSIO_LABEL, kD3DSIO_CALL] ∧ opcode ≠ kD3DSIO_CALLNZ)
      (by decide) writes
  have checked := apart opcode writes
  exact operandIsRegister_of (fun _ => rfl) checked.1
    fun conditional => absurd conditional checked.2

/-- The opcodes without a register to read as a source. -/
def sourcelessOpcodes : List UInt32 :=
  [kD3DSIO_DEF, kD3DSIO_DEFI, kD3DSIO_DEFB, kD3DSIO_DCL, kD3DSIO_LABEL,
    kD3DSIO_CALL]

/-- From a first operand on all operands are registers. -/
def BeginsBehind (first : Nat) (instruction : D3DDecodedInstruction) :
    Prop :=
  (instruction.opcode ∈ sourcelessOpcodes →
      instruction.operands.length ≤ first) ∧
    (instruction.opcode = kD3DSIO_CALLNZ → 0 < first)

theorem BeginsBehind.register
    (begins : BeginsBehind first instruction) (behind : first ≤ index)
    (inside : index < instruction.operands.length) :
    operandIsRegister instruction.opcode index = true := by
  have source : instruction.opcode ∉ sourcelessOpcodes := fun listed =>
    absurd (begins.1 listed) (by omega)
  apply operandIsRegister_of
  · intro definition
    apply absurd _ source
    revert definition
    generalize instruction.opcode = opcode
    exact forall_mem_of_all _ (by decide)
  · intro label
    apply absurd _ source
    revert label
    generalize instruction.opcode = opcode
    exact forall_mem_of_all _ (by decide)
  · intro conditional
    have first_ := begins.2 conditional
    omega

theorem constantSourceBegin_behind (instruction : D3DDecodedInstruction) :
    BeginsBehind (constantSourceBegin instruction) instruction := by
  constructor
  · intro listed
    have apart : instruction.opcode ∉ [kD3DSIO_IF, kD3DSIO_IFC,
          kD3DSIO_BREAKP, kD3DSIO_TEXDEPTH] ∧
        instruction.opcode ≠ kD3DSIO_LOOP ∧
        instruction.opcode ≠ kD3DSIO_REP :=
      forall_mem_of_all (fun opcode => opcode ∉ [kD3DSIO_IF, kD3DSIO_IFC,
          kD3DSIO_BREAKP, kD3DSIO_TEXDEPTH] ∧
        opcode ≠ kD3DSIO_LOOP ∧ opcode ≠ kD3DSIO_REP) (by decide) listed
    rw [constantSourceBegin, if_neg apart.1, if_neg apart.2.1,
      if_neg apart.2.2]
    exact Nat.le_of_eq (if_pos listed).symm
  · intro conditional
    rw [constantSourceBegin, conditional]
    exact Nat.one_pos

theorem predicateSourceBegin_behind (instruction : D3DDecodedInstruction) :
    BeginsBehind (predicateSourceBegin instruction) instruction := by
  constructor
  · intro listed
    have apart : instruction.opcode ∉ [kD3DSIO_IF, kD3DSIO_IFC,
        kD3DSIO_LOOP, kD3DSIO_REP, kD3DSIO_BREAKP] :=
      forall_mem_of_all (fun opcode => opcode ∉ [kD3DSIO_IF, kD3DSIO_IFC,
        kD3DSIO_LOOP, kD3DSIO_REP, kD3DSIO_BREAKP]) (by decide) listed
    rw [predicateSourceBegin, if_neg apart]
    exact Nat.le_of_eq (if_pos listed).symm
  · intro conditional
    rw [predicateSourceBegin, conditional]
    exact Nat.one_pos

/-- The opcodes with several rows of constants. -/
def matrixOpcodes : List UInt32 :=
  [kD3DSIO_M4x4, kD3DSIO_M3x4, kD3DSIO_M4x3, kD3DSIO_M3x3, kD3DSIO_M3x2]

theorem mem_matrixOpcodes
    (rows : 1 < matrixConstantRows opcode) : opcode ∈ matrixOpcodes := by
  unfold matrixConstantRows at rows
  split at rows
  · rename_i four
    exact forall_mem_of_all _ (by decide) four
  split at rows
  · rename_i three
    exact forall_mem_of_all _ (by decide) three
  split at rows
  · rename_i two
    rw [two]
    decide
  · exact absurd rows (Nat.lt_irrefl 1)

theorem operandIsRegister_matrix
    (matrix : opcode ∈ matrixOpcodes) :
    operandIsRegister opcode 2 = true :=
  forall_mem_of_all (fun opcode => operandIsRegister opcode 2 = true)
    (by decide) matrix

section

variable (supported : RegistersSupported instruction)
include supported

theorem operandRegister_written
    (writes : opcodeWritesFirstOperand instruction.opcode = true)
    (some : instruction.operands.isEmpty = false) :
    Accepts (operandRegister stage instruction 0) := by
  have inside : 0 < instruction.operands.length := by
    cases listed : instruction.operands with
    | nil =>
        rw [listed] at some
        cases some
    | cons operand rest => exact Nat.succ_pos _
  exact operandRegister_accepts_iff.mpr
    (supported.supported (operandIsRegister_written writes) inside)

theorem operandRegister_source
    (begins : BeginsBehind first instruction)
    (member : index ∈ operandsFrom instruction first) :
    Accepts (operandRegister stage instruction index) := by
  have inside := mem_operandsFrom.mp member
  exact operandRegister_accepts_iff.mpr
    (supported.supported (begins.register inside.1 inside.2) inside.2)

theorem noteMatrixRows_accepts
    (usage : ConstantUsage) :
    Accepts (noteMatrixRows stage instruction usage) := by
  unfold noteMatrixRows
  apply Outcome.ite
  · intro matrix
    apply (operandRegister_accepts_iff.mpr (supported.supported
      (operandIsRegister_matrix (mem_matrixOpcodes matrix.1))
      matrix.2)).bind
    intro base
    apply Outcome.ite
    · exact fun _ => trivial
    · exact fun _ => trivial
  · exact fun _ => trivial

theorem noteInstruction_accepts
    (usage : ConstantUsage) :
    Accepts (noteInstruction stage usage instruction) := by
  unfold noteInstruction
  apply Outcome.ite
  · exact fun _ => trivial
  · intro some
    apply Accepts.bind
    · unfold noteFirstOperand
      apply Outcome.ite
      · intro writes
        exact (operandRegister_written supported writes
          (Bool.not_eq_true _ ▸ some)).bind fun _ => trivial
      · exact fun _ => trivial
    · intro written
      apply Accepts.bind
      · apply accepts_foldlM
        intro index member read
        exact (operandRegister_source supported
          (constantSourceBegin_behind instruction) member).bind
            fun _ => trivial
      · exact noteMatrixRows_accepts supported

theorem instructionUsesPredicate_accepts :
    Accepts (instructionUsesPredicate stage instruction) := by
  unfold instructionUsesPredicate
  apply Outcome.ite
  · exact fun _ => trivial
  · intro plain
    apply Outcome.ite
    · exact fun _ => trivial
    · intro some
      apply Accepts.bind
      · unfold instructionSetsPredicate
        apply Outcome.ite
        · intro sets
          have register : operandIsRegister instruction.opcode 0 = true := by
            rw [sets]
            rfl
          have inside : 0 < instruction.operands.length := by
            cases listed : instruction.operands with
            | nil =>
                rw [listed] at some
                exact absurd rfl some
            | cons operand rest => exact Nat.succ_pos _
          exact (operandRegister_accepts_iff.mpr
            (supported.supported register inside)).bind fun _ => trivial
        · exact fun _ => trivial
      · intro sets
        apply Outcome.ite
        · exact fun _ => trivial
        · intro unset
          apply accepts_anyM
          intro index member
          exact (operandRegister_source supported
            (predicateSourceBegin_behind instruction) member).bind
              fun _ => trivial

end

theorem firstSampler_accepts {operands : List UInt32}
    (supported : ∀ operand ∈ operands, unsupportedType operand = false) :
    Accepts (firstSampler stage operands) := by
  induction operands with
  | nil => exact trivial
  | cons operand rest induction =>
      rw [firstSampler]
      apply ((decodeRegisterRef_accepts_iff operand).mpr
        (supported operand List.mem_cons_self)).bind
      intro reg
      apply Outcome.ite
      · exact fun _ => trivial
      · exact fun _ => induction fun other member =>
          supported other (List.mem_cons_of_mem _ member)

theorem noteSampler_accepts (supported : RegistersSupported instruction)
    (usage : List Bool) :
    Accepts (noteSampler module_ usage instruction) := by
  unfold noteSampler
  apply Outcome.ite
  · exact fun _ => trivial
  · intro modern
    apply Outcome.ite
    · intro samples
      have register : ∀ index,
          operandIsRegister instruction.opcode index = true := by
        intro index
        rw [isTextureSampleOpcode, decide_eq_true_eq] at samples
        apply operandIsRegister_of
        · intro definition
          exact absurd definition (forall_mem_of_all
            (fun opcode => opcode ∉ definitionOpcodes) (by decide) samples)
        · exact forall_mem_of_all
            (fun opcode => opcode ∉ [kD3DSIO_LABEL, kD3DSIO_CALL])
            (by decide) samples
        · intro conditional
          rw [conditional] at samples
          exact absurd samples (by decide)
      apply Accepts.bind
      · apply firstSampler_accepts
        intro operand member
        obtain ⟨index, at_⟩ := List.mem_iff_getElem?.mp
          (List.mem_of_mem_drop member)
        exact supported.registers index operand at_ (register index)
      · exact fun _ => trivial
    · exact fun _ => trivial

section

variable (decodable : Decodable module_)
include decodable

theorem collectConstantUsage_accepts :
    Accepts (collectConstantUsage module_) :=
  accepts_foldlM fun instruction member usage =>
    noteInstruction_accepts (decodable.supported instruction member) usage

theorem shaderUsesPredicateRegisters_accepts :
    Accepts (shaderUsesPredicateRegisters module_) :=
  accepts_anyM fun instruction member =>
    instructionUsesPredicate_accepts (decodable.supported instruction member)

theorem pixelWritesDepth_accepts : Accepts (pixelWritesDepth module_) := by
  unfold pixelWritesDepth
  apply Outcome.ite
  · exact fun _ => trivial
  · intro pixel
    apply accepts_anyM
    intro instruction member
    apply Outcome.ite
    · exact fun _ => trivial
    · intro plain
      apply Outcome.ite
      · exact fun _ => trivial
      · intro writes
        simp only [Bool.or_eq_true, not_or, Bool.not_eq_true,
          Bool.not_eq_true', Bool.not_eq_false] at writes
        exact (operandRegister_written
          (decodable.supported instruction member) writes.2 writes.1).bind
            fun _ => trivial

theorem pixelColorOutputCount_accepts :
    Accepts (pixelColorOutputCount module_) := by
  unfold pixelColorOutputCount
  apply Outcome.ite
  · exact fun _ => trivial
  · intro pixel
    apply accepts_foldlM
    intro instruction member count
    apply Outcome.ite
    · exact fun _ => trivial
    · intro writes
      simp only [Bool.or_eq_true, not_or, Bool.not_eq_true,
        Bool.not_eq_true', Bool.not_eq_false] at writes
      apply (operandRegister_written
        (decodable.supported instruction member) writes.2 writes.1).bind
      intro dst
      apply Outcome.ite
      · exact fun _ => trivial
      · exact fun _ => trivial

theorem collectPixelSamplerUsage_accepts
    (firstTexture : Bool) :
    Accepts (collectPixelSamplerUsage module_ firstTexture) := by
  unfold collectPixelSamplerUsage
  apply Outcome.ite
  · exact fun _ => trivial
  · intro pixel
    apply Accepts.bind
    · exact accepts_foldlM fun instruction member usage =>
        noteSampler_accepts (decodable.supported instruction member) usage
    · intro usage
      apply Outcome.ite
      · exact fun _ => trivial
      · exact fun _ => trivial

end

end Dxmt9.Shader
