import Dxmt9.Fallible.Outcome
import Dxmt9.Shader.AnalysisPasses
import Dxmt9.Shader.DecoderSteps

/-!
# Register operands of a decoded module

The register operands of every instruction name registers that have a
lowering, and putting the subroutines in place keeps it so.  What is never
checked are the labels of calls.
-/

namespace Dxmt9.Shader

open Fallible

variable {stage : D3DShaderStage} {instruction : D3DDecodedInstruction}

/-- A token of a register type without a lowering. -/
def unsupportedType (token : UInt32) : Bool :=
  decodeRegisterType token ∈ [kD3DSPR_TEMPFLOAT16, kD3DSPR_LABEL]

theorem decodeRegisterKind_accepts_iff (type : UInt32) :
    Accepts (decodeRegisterKind type stage) ↔
      type ∉ [kD3DSPR_TEMPFLOAT16, kD3DSPR_LABEL] := by
  constructor
  · intro accepts listed
    cases listed with
    | head => exact accepts
    | tail _ listed =>
        cases List.mem_singleton.mp listed
        exact accepts
  · intro supported
    unfold decodeRegisterKind
    repeat' first
      | exact trivial
      | apply Outcome.ite <;> intro
    · rename_i half
      exact supported (half ▸ List.mem_cons_self)
    · rename_i label
      exact supported (label ▸ List.mem_cons_of_mem _ List.mem_cons_self)

theorem decodeRegisterRef_accepts_iff (token : UInt32) :
    Accepts (decodeRegisterRef token stage) ↔
      unsupportedType token = false := by
  have kind : Accepts (decodeRegisterKind (decodeRegisterType token) stage) ↔
      _ := decodeRegisterKind_accepts_iff _
  rw [unsupportedType, decide_eq_false_iff_not, ← kind, decodeRegisterRef]
  cases decodeRegisterKind (decodeRegisterType token) stage with
  | ok kind => exact Iff.rfl
  | error reason => exact Iff.rfl

/-- An operand that is there and names a register with a lowering. -/
def Supported (instruction : D3DDecodedInstruction) (index : Nat) : Prop :=
  ∃ token, instruction.operands[index]? = some token ∧
    unsupportedType token = false

variable {index : Nat}

theorem operandRegister_accepts_iff :
    Accepts (operandRegister stage instruction index) ↔
      Supported instruction index := by
  rw [operandRegister, Supported]
  cases instruction.operands[index]? with
  | none => exact iff_of_false id nofun
  | some token =>
      rw [decodeRegisterRef_accepts_iff]
      constructor
      · exact fun supported => ⟨token, rfl, supported⟩
      · rintro ⟨other, same, supported⟩
        cases same
        exact supported

/-! ## Decoding -/

/-- Every operand that is no literal and no label is supported, and a plain
call has no operand behind its label. -/
structure RegistersSupported (instruction : D3DDecodedInstruction) : Prop where
  registers : ∀ index token, instruction.operands[index]? = some token →
    operandIsRegister instruction.opcode index = true →
    unsupportedType token = false
  calls : instruction.opcode = kD3DSIO_CALL →
    instruction.operands.length ≤ 1

theorem RegistersSupported.supported
    (supported : RegistersSupported instruction)
    (register : operandIsRegister instruction.opcode index = true)
    (inside : index < instruction.operands.length) :
    Supported instruction index :=
  ⟨instruction.operands[index], List.getElem?_eq_getElem inside,
    supported.registers index _ (List.getElem?_eq_getElem inside) register⟩

/-- The operands of a token read up to an index are supported. -/
structure ReadSupported (token : UInt32) (index : Nat)
    (cursor : OperandCursor) : Prop where
  opcode : cursor.instruction.opcode = tokenOpcode token
  length : cursor.instruction.operands.length = index
  registers : ∀ index token,
    cursor.instruction.operands[index]? = some token →
    operandIsRegister cursor.instruction.opcode index = true →
    unsupportedType token = false

variable {token : UInt32} {cursor : OperandCursor}

theorem ReadSupported.addOperand {operand : UInt32} (read : ReadSupported token index cursor)
    (supported : operandIsRegister cursor.instruction.opcode index = true →
      unsupportedType operand = false) :
    ReadSupported token (index + 1)
      ((cursor.take operand).addOperand operand) := by
  constructor
  · exact read.opcode
  · change (cursor.instruction.operands ++ [operand]).length = index + 1
    rw [List.length_append, read.length, List.length_singleton]
  · intro other found at_ register
    change (cursor.instruction.operands ++ [operand])[other]? = some found
      at at_
    cases Nat.lt_or_ge other index with
    | inl before =>
        rw [List.getElem?_append_left (read.length.symm ▸ before)] at at_
        exact read.registers other found at_ register
    | inr behind =>
        rw [List.getElem?_append_right (read.length.symm ▸ behind),
          read.length] at at_
        cases Nat.eq_or_lt_of_le behind with
        | inl last =>
            cases last
            rw [Nat.sub_self] at at_
            cases at_
            exact supported register
        | inr outside =>
            have short : [operand].length ≤ other - index :=
              Nat.sub_pos_of_lt outside
            rw [List.getElem?_eq_none short] at at_
            cases at_

variable {bytes : List UInt8}

theorem readOperand_supported
    (read : ReadSupported token index cursor) :
    Outcome (fun _ => True) (ReadSupported token (index + 1))
      (readOperand bytes stage cursor index) := by
  unfold readOperand
  cases cursor.next bytes with
  | error stop => exact trivial
  | ok operand =>
      apply Outcome.ite
      · intro literal
        apply read.addOperand
        intro register
        rw [register] at literal
        cases literal
      · intro register
        have kind : Accepts (decodeRegisterKind (decodeRegisterType operand)
            stage) ↔ _ := decodeRegisterKind_accepts_iff _
        cases decoded : decodeRegisterKind (decodeRegisterType operand)
            stage with
        | error stop => exact trivial
        | ok kind_ =>
            rw [decoded] at kind
            have supported : unsupportedType operand = false :=
              decide_eq_false (kind.mp trivial)
            have added := read.addOperand fun _ => supported
            apply Outcome.ite
            · exact fun _ => added
            · intro relative
              cases ((cursor.take operand).addOperand operand).next bytes with
              | error stop => exact trivial
              | ok relAddr =>
                  exact ⟨added.opcode, added.length, added.registers⟩

variable {module_ : SpirvModule} {offset count : Nat}

theorem decodeInstruction_supported
    (supported : ∀ instruction ∈ module_.instructions,
      RegistersSupported instruction)
    (call : tokenOpcode token = kD3DSIO_CALL → count ≤ 1) :
    Outcome (fun _ => True)
      (fun result => ∀ instruction ∈ result.1.instructions,
        RegistersSupported instruction)
      (decodeInstruction bytes module_ offset token count) := by
  have start : ReadSupported token 0
      { offset := offset
        words := module_.words
        instruction := makeInstruction token count } :=
    ⟨rfl, rfl, nofun⟩
  have read : Outcome (fun _ => True) (ReadSupported token count)
      (readOperands bytes module_.stage count _) :=
    outcome_foldlM_range start fun index cursor _ read =>
      readOperand_supported read
  unfold decodeInstruction
  refine read.bind fun cursor read => ?_
  refine (Outcome.weaken (noteDeclaration_outcome cursor.instruction)
    fun _ _ => trivial).bind fun noted same => ?_
  have checked : RegistersSupported cursor.instruction := by
    constructor
    · exact read.registers
    · rw [read.opcode, read.length]
      exact call
  change ∀ instruction ∈ noted.instructions ++ [cursor.instruction],
    RegistersSupported instruction
  rw [same.2]
  exact List.forall_mem_append.mpr
    ⟨supported, List.forall_mem_singleton.mpr checked⟩

theorem operandCount_call {major minor : UInt32}
    (counted : operandCount major minor stage token = some count)
    (call : tokenOpcode token = kD3DSIO_CALL) : count ≤ 1 := by
  have legacy : legacyPixelOperandCount kD3DSIO_CALL major minor stage =
      none := by
    unfold legacyPixelOperandCount
    split
    · rfl
    · rfl
  unfold operandCount at counted
  rw [call] at counted
  simp only [legacy] at counted
  cases counted
  exact Nat.le_refl 1

section

variable (supported : ∀ instruction ∈ module_.instructions, RegistersSupported
    instruction)
include supported

theorem decodeToken_supported :
    Outcome (fun _ => True)
      (fun round => ∀ instruction ∈ round.1.instructions,
        RegistersSupported instruction)
      (decodeToken bytes module_ offset) := by
  unfold decodeToken
  cases readWord bytes offset with
  | error stop => exact trivial
  | ok token =>
      apply Outcome.ite
      · exact fun _ => supported
      · intro notEnd
        apply Outcome.ite
        · intro isComment
          apply Outcome.ite
          · exact fun _ => trivial
          · exact fun _ => supported
        · intro notComment
          apply Outcome.ite
          · exact fun _ => supported
          · intro notPhase
            split
            · exact trivial
            · rename_i count counted
              refine Outcome.bind (decodeInstruction_supported ?_ ?_)
                fun decoded kept => ?_
              · exact supported
              · exact operandCount_call counted
              · exact kept

theorem decodeStream_supported {rounds : Nat} :
    Outcome (fun _ => True)
      (fun next => ∀ instruction ∈ next.instructions,
        RegistersSupported instruction)
      (decodeStream bytes rounds module_ offset) := by
  induction rounds generalizing module_ offset with
  | zero => exact trivial
  | succ rounds induction =>
      rw [decodeStream]
      apply Outcome.ite
      · exact fun _ => supported
      · intro more
        refine (decodeToken_supported supported).bind fun round kept => ?_
        cases round.2 with
        | none => exact kept
        | some next => exact induction kept

end

variable {shader : ShaderBytecode} {vertex : Bool}
  {context : ShaderSourceContext}

theorem decodeVersion_empty :
    Outcome (fun _ => True) (fun header => header.instructions = [])
      (decodeVersion shader vertex context) := by
  unfold decodeVersion
  apply Outcome.ite
  · exact fun _ => trivial
  · intro sized
    dsimp only
    split
    · exact trivial
    · cases readWord shader.bytes 0 with
      | error stop => exact trivial
      | ok version =>
          dsimp only [bind, Except.bind]
          split
          · exact trivial
          · apply Outcome.ite
            · exact fun _ => trivial
            · exact fun _ => rfl

theorem decodeTokens_supported :
    Outcome (fun _ => True)
      (fun decoded => ∀ instruction ∈ decoded.instructions,
        RegistersSupported instruction)
      (decodeTokens shader vertex context) := by
  unfold decodeTokens
  refine decodeVersion_empty.bind fun header empty => ?_
  apply decodeStream_supported
  rw [empty]
  exact nofun

/-- What putting the subroutines of some instructions in place puts out. -/
inductive Inlined (instructions : List D3DDecodedInstruction) :
    D3DDecodedInstruction → Prop
  | kept {instruction : D3DDecodedInstruction}
      (member : instruction ∈ instructions)
      (plain : instruction.opcode ∉
        [kD3DSIO_LABEL, kD3DSIO_RET, kD3DSIO_CALL, kD3DSIO_CALLNZ]) :
      Inlined instructions instruction
  | marker {opcode controls : UInt32}
      (listed : opcode ∈ [kDXMT9_INTERNAL_CALL_BEGIN,
        kDXMT9_INTERNAL_CALL_END, kDXMT9_INTERNAL_CALL_RET,
        kD3DSIO_ENDIF]) :
      Inlined instructions (makeInternalInstruction opcode controls)
  | predicate : Inlined instructions makePredicateIfInstruction
  | condition {call : D3DDecodedInstruction} {label condition relAddr : UInt32}
      {rest : List UInt32} (member : call ∈ instructions)
      (conditional : call.opcode = kD3DSIO_CALLNZ)
      (operands : call.operands = label :: condition :: rest) :
      Inlined instructions
        { opcode := kD3DSIO_IF
          predicated := call.predicated
          operands := [condition]
          relAddrTokens := [relAddr] }

section Inlining

variable {instructions : List D3DDecodedInstruction}
  {labels : List LabelRange} {activeLabels : List UInt32}
  {expansion : Expansion}

def Expansion.AllInlined (instructions : List D3DDecodedInstruction)
    (expansion : Expansion) : Prop :=
  ∀ instruction ∈ expansion.out, Inlined instructions instruction

theorem Expansion.AllInlined.push {more : List D3DDecodedInstruction}
    (inlined : expansion.AllInlined instructions)
    (new : ∀ instruction ∈ more, Inlined instructions instruction) :
    (expansion.push more).AllInlined instructions :=
  List.forall_mem_append.mpr ⟨inlined, new⟩

theorem callGuard_inlined {call : D3DDecodedInstruction}
    (member : call ∈ instructions) :
    Outcome (fun _ => True)
      (fun guard =>
        (∀ instruction ∈ guard.1, Inlined instructions instruction) ∧
          ∀ instruction ∈ guard.2, Inlined instructions instruction)
      (callGuard call) := by
  have closed : ∀ instruction ∈ [makeInternalInstruction kD3DSIO_ENDIF],
      Inlined instructions instruction :=
    List.forall_mem_singleton.mpr (.marker (by decide))
  unfold callGuard
  apply Outcome.ite
  · intro conditional
    split
    · rename_i label condition rest operands
      exact ⟨List.forall_mem_singleton.mpr
        (.condition member conditional operands), closed⟩
    · exact trivial
  · intro plain
    apply Outcome.ite
    · exact fun _ => ⟨List.forall_mem_singleton.mpr .predicate, closed⟩
    · exact fun _ => ⟨nofun, nofun⟩

theorem Expansion.step_inlined {index : Nat}
    {instruction : D3DDecodedInstruction}
    {body : List UInt32 → LabelRange → Expansion →
      Except DecodeStop Expansion}
    (bodies : ∀ active range inner, inner.AllInlined instructions →
      Outcome (fun _ => True) (Expansion.AllInlined instructions)
        (body active range inner))
    (inlined : expansion.AllInlined instructions)
    (member : instruction ∈ instructions) :
    Outcome (fun _ => True) (fun state => state.1.AllInlined instructions)
      (expansion.step body labels activeLabels index instruction) := by
  unfold Expansion.step
  apply Outcome.ite
  · intro isLabel
    split
    · exact trivial
    · split
      · exact inlined
      · exact inlined
  · intro notLabel
    apply Outcome.ite
    · exact fun _ => inlined.push
        (List.forall_mem_singleton.mpr (.marker (by decide)))
    · intro notReturn
      apply Outcome.ite
      · intro isCall
        split
        · exact trivial
        · dsimp only
          split
          · exact trivial
          · rename_i range found
            apply Outcome.ite
            · exact fun _ => trivial
            · intro fresh
              refine (callGuard_inlined member).bind fun guard guarded => ?_
              have opened : Expansion.AllInlined instructions
                  { (expansion.push guard.1).push
                      [makeInternalInstruction kDXMT9_INTERNAL_CALL_BEGIN
                        expansion.nextCallFrame] with
                    nextCallFrame := expansion.nextCallFrame + 1 } :=
                (inlined.push guarded.1).push
                  (List.forall_mem_singleton.mpr (.marker (by decide)))
              refine (bodies _ range _ opened).bind fun expanded inner => ?_
              exact inner.push (List.forall_mem_cons.mpr
                ⟨.marker (by decide), guarded.2⟩)
      · intro notCall
        have plain : instruction.opcode ∉
            [kD3DSIO_LABEL, kD3DSIO_RET, kD3DSIO_CALL, kD3DSIO_CALLNZ] := by
          simp only [List.mem_cons, List.not_mem_nil, or_false,
            not_or] at notCall ⊢
          exact ⟨notLabel, notReturn, notCall⟩
        exact inlined.push (List.forall_mem_singleton.mpr (.kept member plain))

theorem appendExpandedInstructionRange_inlined {depth first stop : Nat}
    (inlined : expansion.AllInlined instructions) :
    Outcome (fun _ => True) (Expansion.AllInlined instructions)
      (appendExpandedInstructionRange instructions labels depth first stop
        activeLabels expansion) := by
  induction depth generalizing first stop activeLabels expansion with
  | zero => exact trivial
  | succ depth induction =>
      rw [appendExpandedInstructionRange]
      have visited : Outcome (fun _ => True)
          (fun state : Expansion × Nat => state.1.AllInlined instructions)
          ((List.range' first (stop - first)).foldlM (Expansion.visit
              (fun active range inner =>
                appendExpandedInstructionRange instructions labels depth
                  range.bodyBegin (range.retInstruction + 1) active inner)
              instructions labels activeLabels)
            (expansion, first)) := by
        refine outcome_foldlM inlined fun index _ state kept => ?_
        unfold Expansion.visit
        apply Outcome.ite
        · exact fun _ => kept
        · intro reached
          split
          · exact trivial
          · rename_i instruction found
            exact Expansion.step_inlined
              (fun active range inner kept => induction kept) kept
              (List.mem_of_getElem? found)
      exact visited.bind fun state kept => kept

theorem inlineShaderSubroutines_inlined {module_ : SpirvModule} :
    Outcome (fun _ => True)
      (fun next =>
        (next = module_ ∧
          ∀ instruction ∈ module_.instructions,
            instruction.opcode ≠ kD3DSIO_LABEL) ∨
          ∀ instruction ∈ next.instructions,
            Inlined module_.instructions instruction)
      (inlineShaderSubroutines module_) := by
  unfold inlineShaderSubroutines
  apply Outcome.ite
  · intro plain
    refine .inl ⟨rfl, fun instruction member label => ?_⟩
    rw [Bool.not_eq_true', List.any_eq_false] at plain
    exact plain instruction member (beq_iff_eq.mpr label)
  · intro labelled
    cases discoverLabelRanges module_.instructions with
    | error stop => exact trivial
    | ok labels =>
        have expanded : Outcome (fun _ => True)
            (Expansion.AllInlined module_.instructions)
            ((List.range module_.instructions.length).foldlM
              (fun (expansion : Expansion) index =>
                if instructionIsInsideLabelRange labels index then
                  .ok expansion
                else
                  appendExpandedInstructionRange module_.instructions labels
                    (labels.length + 1) index (index + 1) [] expansion)
              {}) := by
          refine outcome_foldlM nofun fun index _ expansion kept => ?_
          apply Outcome.ite
          · exact fun _ => kept
          · exact fun _ => appendExpandedInstructionRange_inlined kept
        exact expanded.bind fun expansion kept => .inr kept

end Inlining

/-- A module as the decoder leaves it: no labels, and register operands that
have a lowering. -/
structure Decodable (module_ : SpirvModule) : Prop where
  supported : ∀ instruction ∈ module_.instructions,
    RegistersSupported instruction
  unlabelled : ∀ instruction ∈ module_.instructions,
    instruction.opcode ≠ kD3DSIO_LABEL

theorem Inlined.decodable {instructions : List D3DDecodedInstruction}
    (supported : ∀ instruction ∈ instructions, RegistersSupported instruction)
    (inlined : Inlined instructions instruction) :
    RegistersSupported instruction ∧
      instruction.opcode ≠ kD3DSIO_LABEL := by
  cases inlined with
  | kept member plain =>
      refine ⟨supported _ member, fun label => plain ?_⟩
      rw [label]
      exact List.mem_cons_self
  | @marker opcode controls listed =>
      refine ⟨⟨nofun, fun _ => Nat.zero_le 1⟩, fun label => ?_⟩
      change opcode = kD3DSIO_LABEL at label
      rw [label] at listed
      exact absurd listed (by decide)
  | predicate =>
      refine ⟨⟨?_, fun _ => Nat.le_refl 1⟩, by decide⟩
      rintro (_ | index) token found register
      · cases found
        decide
      · cases found
  | @condition call label condition relAddr rest member conditional operands =>
      have checked := supported call member
      have register : unsupportedType condition = false := by
        apply checked.registers 1 condition
        · rw [operands]
          rfl
        · rw [conditional]
          rfl
      have noLabel : kD3DSIO_IF ≠ kD3DSIO_LABEL := by decide
      refine ⟨⟨?_, fun _ => Nat.le_refl 1⟩, noLabel⟩
      rintro (_ | index) token found isRegister
      · cases found
        exact register
      · cases found

theorem decodable_empty : Decodable {} := ⟨nofun, nofun⟩

theorem translate_decodable (shader : ShaderBytecode) (vertex : Bool)
    (context : ShaderSourceContext) :
    Decodable (translateD3DBytecodeToSpirv shader vertex context) := by
  have decodable : Outcome (fun _ => True) Decodable
      (decodeTokens shader vertex context >>= inlineShaderSubroutines) := by
    refine decodeTokens_supported.bind fun decoded supported => ?_
    apply inlineShaderSubroutines_inlined.mono
    rintro next (⟨same, unlabelled⟩ | inlined)
    · rw [same]
      exact ⟨supported, unlabelled⟩
    · constructor
      · exact fun instruction member =>
          ((inlined instruction member).decodable supported).1
      · exact fun instruction member =>
          ((inlined instruction member).decodable supported).2
  unfold translateD3DBytecodeToSpirv
  cases reached : decodeTokens shader vertex context >>=
      inlineShaderSubroutines with
  | error stop => exact decodable_empty
  | ok module_ =>
      rw [reached] at decodable
      exact decodable

end Dxmt9.Shader
