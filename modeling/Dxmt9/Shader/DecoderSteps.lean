import Dxmt9.Fallible.Outcome
import Dxmt9.Shader.Decoder

/-!
# One round of the decoder

What a round of the loop reads from the words behind an offset: the end, a
comment, or an instruction with the operands that the tables count.  A round
stops only by rejecting the input.
-/

namespace Dxmt9.Shader

open Fallible Memory

/-- The input is rejected, and no read was outside of it. -/
def Rejects (stop : DecodeStop) : Prop := ∃ reason, stop = .reject reason

variable {words start rest : List UInt32} {token word : UInt32}
  {offset count index : Nat} {cursor : OperandCursor}
  {stage : D3DShaderStage} {module_ : SpirvModule}

theorem readWord_behind (behind : WordsBehind words (word :: rest) offset) :
    readWord (wordsBytes words) offset = .ok word := by
  unfold readWord
  rw [behind.drop]
  change Except.ok (wordOf _ _ _ _) = _
  rw [wordOf_wordBytes]

theorem OperandCursor.next_outcome (cursor : OperandCursor)
    (behind : WordsBehind words start cursor.offset) :
    Outcome Rejects (fun word => ∃ rest, start = word :: rest)
      (cursor.next (wordsBytes words)) := by
  have size := behind.length
  unfold OperandCursor.next
  cases start with
  | nil =>
      rw [if_pos (by rw [size, List.length_nil]; omega)]
      exact ⟨_, rfl⟩
  | cons word rest =>
      rw [if_neg (by rw [size, List.length_cons]; omega),
        readWord_behind behind]
      exact ⟨rest, rfl⟩

theorem decodeRegisterKind_outcome (type : UInt32) :
    Outcome Rejects (fun _ => True) (decodeRegisterKind type stage) := by
  unfold decodeRegisterKind
  repeat' first
    | exact trivial
    | exact ⟨_, rfl⟩
    | apply Outcome.ite <;> intro

theorem decodeRegisterRef_outcome (token : UInt32) :
    Outcome Rejects (fun _ => True) (decodeRegisterRef token stage) := by
  unfold decodeRegisterRef
  have decoded : Outcome Rejects (fun _ => True)
      (decodeRegisterKind (decodeRegisterType token) stage) :=
    decodeRegisterKind_outcome _
  exact decoded.bind fun kind _ => trivial

/-- An operand and its slot behind the others. -/
theorem zip_snoc {operands relAddrs : List UInt32} (operand relAddr : UInt32)
    (room : operands.length < relAddrs.length) :
    (operands ++ [operand]).zip (relAddrs.set operands.length relAddr) =
      operands.zip relAddrs ++ [(operand, relAddr)] := by
  induction operands generalizing relAddrs with
  | nil =>
      cases relAddrs with
      | nil => exact absurd room (Nat.lt_irrefl 0)
      | cons head tail => rfl
  | cons first operands induction =>
      cases relAddrs with
      | nil => exact absurd room (Nat.not_lt_zero _)
      | cons head tail =>
          have shorter := induction (Nat.lt_of_succ_lt_succ room)
          rw [List.length_cons, List.set_cons_succ, List.cons_append,
            List.zip_cons_cons, shorter, List.zip_cons_cons, List.cons_append]

/-- The operands of a token read up to an index. -/
structure OperandsRead (words start : List UInt32) (token : UInt32)
    (count index : Nat) (cursor : OperandCursor) : Prop where
  opcode : cursor.instruction.opcode = tokenOpcode token
  controls : cursor.instruction.controls = tokenBits token 16 0xff
  operands : cursor.instruction.operands.length = index
  slots : cursor.instruction.relAddrTokens.length = count
  read : ∃ rest, start = cursor.instruction.consumed ++ rest ∧
    WordsBehind words rest cursor.offset
  skipped : skipOperands (tokenOpcode token) 0 index
    cursor.instruction.consumed = some []

theorem operandsRead_start (behind : WordsBehind words start offset)
    (taken : List UInt32) :
    OperandsRead words start token count 0
      { offset := offset
        words := taken
        instruction := makeInstruction token count } where
  opcode := rfl
  controls := rfl
  operands := rfl
  slots := List.length_replicate
  read := ⟨start, rfl, behind⟩
  skipped := rfl

theorem OperandsRead.extend {next : OperandCursor} (operand relAddr : UInt32)
    (read : OperandsRead words start token count index cursor)
    (inside : index < count)
    (instruction : next.instruction =
      { cursor.instruction with
        operands := cursor.instruction.operands ++ [operand]
        relAddrTokens := cursor.instruction.relAddrTokens.set index relAddr })
    (behind : ∀ rest', start = cursor.instruction.consumed ++ rest' →
      WordsBehind words rest' cursor.offset →
      ∃ rest, rest' = operandWords (tokenOpcode token) index
          [(operand, relAddr)] ++ rest ∧
        WordsBehind words rest next.offset) :
    OperandsRead words start token count (index + 1) next := by
  have consumed : next.instruction.consumed = cursor.instruction.consumed ++
        operandWords (tokenOpcode token) index [(operand, relAddr)] := by
    have room : cursor.instruction.operands.length <
        cursor.instruction.relAddrTokens.length := by
      rw [read.operands, read.slots]
      exact inside
    have zipped := zip_snoc operand relAddr room
    have length : (cursor.instruction.operands.zip
        cursor.instruction.relAddrTokens).length = index := by
      rw [List.length_zip, read.operands, read.slots]
      exact Nat.min_eq_left (Nat.le_of_lt inside)
    rw [read.operands] at zipped
    unfold D3DDecodedInstruction.consumed
    rw [instruction]
    dsimp only
    rw [zipped, operandWords_append, length, read.opcode, Nat.zero_add]
  obtain ⟨rest', split, reached⟩ := read.read
  obtain ⟨rest, block, ended⟩ := behind rest' split reached
  constructor
  · rw [instruction]
    exact read.opcode
  · rw [instruction]
    exact read.controls
  · rw [instruction]
    dsimp only
    rw [List.length_append, read.operands, List.length_singleton]
  · rw [instruction]
    dsimp only
    rw [List.length_set, read.slots]
  · refine ⟨rest, ?_, ended⟩
    rw [consumed, List.append_assoc, ← block]
    exact split
  · rw [consumed, skipOperands_add read.skipped, Nat.zero_add]
    simp only [operandWords, List.append_nil]
    split
    · rename_i relative
      simp only [skipOperands]
      rw [if_pos relative]
    · rename_i plain
      simp only [skipOperands]
      rw [if_neg plain]

theorem readOperand_outcome
    (read : OperandsRead words start token count index cursor)
    (inside : index < count) :
    Outcome Rejects (OperandsRead words start token count (index + 1))
      (readOperand (wordsBytes words) stage cursor index) := by
  obtain ⟨rest', split, reached⟩ := read.read
  have same : ∀ other, start = cursor.instruction.consumed ++ other →
      other = rest' := by
    intro other found
    rw [split] at found
    exact (List.append_cancel_left found).symm
  unfold readOperand
  refine (cursor.next_outcome reached).bind fun operand found => ?_
  obtain ⟨rest, rfl⟩ := found
  have plain : (operandIsRegister (tokenOpcode token) index &&
      tokenHasRelativeAddressing operand) = false →
      OperandsRead words start token count (index + 1)
        ((cursor.take operand).addOperand operand) := by
    intro plain
    have room : index < cursor.instruction.relAddrTokens.length :=
      read.slots.symm ▸ inside
    refine read.extend operand cursor.instruction.relAddrTokens[index] inside
      ?_ ?_
    · rw [List.set_getElem_self room]
      rfl
    · intro other found behind
      cases same other found
      refine ⟨rest, ?_, behind.next⟩
      simp only [operandWords, plain]
      rfl
  apply Outcome.ite
  · intro literal
    apply plain
    rw [read.opcode] at literal
    rw [Bool.and_eq_false_iff]
    exact Or.inl (Bool.not_eq_true' _ ▸ literal)
  · intro register
    refine (decodeRegisterKind_outcome _).bind fun kind _ => ?_
    apply Outcome.ite
    · intro absolute
      apply plain
      rw [Bool.and_eq_false_iff]
      exact Or.inr (Bool.not_eq_true' _ ▸ absolute)
    · intro relative
      have behind : WordsBehind words rest
          ((cursor.take operand).addOperand operand).offset := reached.next
      refine (OperandCursor.next_outcome _ behind).bind fun relAddr found => ?_
      obtain ⟨last, rfl⟩ := found
      refine read.extend operand relAddr inside rfl ?_
      intro other found started
      cases same other found
      refine ⟨last, ?_, behind.next⟩
      rw [read.opcode, Bool.not_eq_true', Bool.not_eq_false] at register
      rw [Bool.not_eq_true', Bool.not_eq_false] at relative
      simp only [operandWords, register, relative]
      rfl

theorem readOperands_outcome
    (read : OperandsRead words start token count 0 cursor) :
    Outcome Rejects (OperandsRead words start token count count)
      (readOperands (wordsBytes words) stage count cursor) :=
  outcome_foldlM_range read fun _ _ inside read =>
    readOperand_outcome read inside

/-- A module that differs in what it says about textures, and in the words
and instructions that are put behind those it has. -/
structure SameHeader (module_ next : SpirvModule) : Prop where
  stage : next.stage = module_.stage
  major : next.major = module_.major
  minor : next.minor = module_.minor

theorem noteDeclaration_outcome (instruction : D3DDecodedInstruction) :
    Outcome Rejects
      (fun next => SameHeader module_ next ∧
        next.instructions = module_.instructions)
      (noteDeclaration module_ instruction) := by
  have same : SameHeader module_ module_ ∧
      module_.instructions = module_.instructions :=
    ⟨⟨rfl, rfl, rfl⟩, rfl⟩
  unfold noteDeclaration
  split
  · apply Outcome.ite
    · exact fun _ => same
    · intro declaration
      refine (decodeRegisterRef_outcome _).bind fun dst _ => ?_
      apply Outcome.ite
      · exact fun _ => ⟨_, rfl⟩
      · intro supported
        split
        · exact ⟨⟨rfl, rfl, rfl⟩, rfl⟩
        · exact same
  · exact same

/-- An instruction of a token, read from the words behind it. -/
structure InstructionRead (words start : List UInt32) (token : UInt32)
    (count : Nat) (module_ : SpirvModule) (instruction : D3DDecodedInstruction)
    (result : SpirvModule × Nat) : Prop where
  header : SameHeader module_ result.1
  instructions : result.1.instructions =
    module_.instructions ++ [instruction]
  opcode : instruction.opcode = tokenOpcode token
  controls : instruction.controls = tokenBits token 16 0xff
  slots : instruction.relAddrTokens.length = instruction.operands.length
  skipped : skipOperands (tokenOpcode token) 0 count instruction.consumed =
    some []
  read : ∃ rest, start = instruction.consumed ++ rest ∧
    WordsBehind words rest result.2

theorem decodeInstruction_outcome
    (behind : WordsBehind words start offset) :
    Outcome Rejects
      (fun result => ∃ instruction,
        InstructionRead words start token count module_ instruction result)
      (decodeInstruction (wordsBytes words) module_ offset token count) := by
  unfold decodeInstruction
  refine (readOperands_outcome
    (operandsRead_start behind module_.words)).bind fun cursor read => ?_
  refine (noteDeclaration_outcome _).bind fun noted same => ?_
  refine ⟨cursor.instruction, ?_⟩
  constructor
  · exact ⟨same.1.stage, same.1.major, same.1.minor⟩
  · change noted.instructions ++ [cursor.instruction] = _
    rw [same.2]
  · exact read.opcode
  · exact read.controls
  · rw [read.slots, read.operands]
  · exact read.skipped
  · exact read.read

/-- What a round does with the token it finds. -/
inductive TokenRead (words rest : List UInt32) (token : UInt32)
    (module_ : SpirvModule) : SpirvModule × Option Nat → Prop where
  | last {next : SpirvModule} (isEnd : tokenOpcode token = kD3DSIO_END)
      (instructions : next.instructions = module_.instructions) :
      TokenRead words rest token module_ (next, none)
  | comment {next : SpirvModule} {offset : Nat} {skipped behind : List UInt32}
      (isComment : tokenOpcode token = kD3DSIO_COMMENT)
      (header : SameHeader module_ next)
      (instructions : next.instructions = module_.instructions)
      (split : rest = skipped ++ behind)
      (length : skipped.length = commentWords token)
      (reached : WordsBehind words behind offset) :
      TokenRead words rest token module_ (next, some offset)
  | phase {next : SpirvModule} {offset : Nat}
      (isPhase : tokenOpcode token = kD3DSIO_PHASE)
      (header : SameHeader module_ next)
      (instructions : next.instructions = module_.instructions)
      (reached : WordsBehind words rest offset) :
      TokenRead words rest token module_ (next, some offset)
  | instruction {next : SpirvModule} {offset count : Nat}
      {instruction : D3DDecodedInstruction}
      (notEnd : tokenOpcode token ≠ kD3DSIO_END)
      (notComment : tokenOpcode token ≠ kD3DSIO_COMMENT)
      (notPhase : tokenOpcode token ≠ kD3DSIO_PHASE)
      (counted : operandCount module_.major module_.minor module_.stage
        token = some count)
      (read : InstructionRead words rest token count module_ instruction
        (next, offset)) :
      TokenRead words rest token module_ (next, some offset)

theorem decodeToken_outcome
    (behind : WordsBehind words (token :: rest) offset) :
    Outcome Rejects (TokenRead words rest token module_)
      (decodeToken (wordsBytes words) module_ offset) := by
  unfold decodeToken
  rw [readWord_behind behind]
  change Outcome _ _ (if _ then _ else _)
  apply Outcome.ite
  · exact fun isEnd => .last isEnd rfl
  · intro notEnd
    apply Outcome.ite
    · intro isComment
      have size := behind.next.length
      apply Outcome.ite
      · exact fun _ => ⟨_, rfl⟩
      · intro fits
        have enough : commentWords token ≤ rest.length := by omega
        have split : rest = rest.take (commentWords token) ++
            rest.drop (commentWords token) :=
          (List.take_append_drop _ _).symm
        have length : (rest.take (commentWords token)).length =
            commentWords token := List.length_take_of_le enough
        have reached := behind.next
        rw [split] at reached
        have skipped := reached.skip
        rw [length] at skipped
        exact .comment isComment ⟨rfl, rfl, rfl⟩ rfl split length skipped
    · intro notComment
      apply Outcome.ite
      · exact fun isPhase =>
          .phase isPhase ⟨rfl, rfl, rfl⟩ rfl behind.next
      · intro notPhase
        split
        · exact ⟨_, rfl⟩
        · rename_i count counted
          refine (decodeInstruction_outcome behind.next).bind
            fun decoded found => ?_
          obtain ⟨instruction, read⟩ := found
          have kept : InstructionRead words rest token count module_
              instruction (decoded.1, decoded.2) :=
            ⟨⟨read.header.stage, read.header.major, read.header.minor⟩,
              read.instructions, read.opcode, read.controls, read.slots,
              read.skipped, read.read⟩
          exact .instruction notEnd notComment notPhase counted kept

end Dxmt9.Shader
