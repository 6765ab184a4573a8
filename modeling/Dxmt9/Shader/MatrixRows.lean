import Mathlib.Algebra.Ring.Int.Defs
import Dxmt9.Shader.SourceReads

/-!
# Matrix opcodes against their rows

A matrix instruction names its rows by their index alone: the relative address
of the base is not read, and neither is the range that a pixel shader of the
first model holds its constants to.  Without both the rows are the dot products.
-/

namespace Dxmt9.Shader

/-! ## Tokens of plain constants -/

/-- The token of a float constant in the order of its components and without a
modifier. -/
def constantToken (index : UInt32) : UInt32 :=
  0xa0e40000 ||| (index &&& 0x7ff)

theorem toNat_register (index : UInt32) :
    (index &&& 0x7ff).toNat = index.toNat % 2 ^ 11 :=
  (UInt32.toNat_and index 0x7ff).trans
    (Nat.and_two_pow_sub_one_eq_mod index.toNat 11)

theorem toNat_constantToken (index : UInt32) :
    (constantToken index).toNat = 0xa0e40000 + index.toNat % 2 ^ 11 := by
  have small : index.toNat % 2 ^ 11 < 2 ^ 18 := by omega
  have high : (0xa0e40000 : UInt32).toNat = 2 ^ 18 * 10297 := rfl
  calc (constantToken index).toNat
      = 2 ^ 18 * 10297 ||| index.toNat % 2 ^ 11 := by
        simp only [constantToken, UInt32.toNat_or, toNat_register, high]
    _ = 2 ^ 18 * 10297 + index.toNat % 2 ^ 11 :=
        (Nat.two_pow_add_eq_or_of_lt small 10297).symm

theorem toNat_tokenBits {token shift mask : UInt32} (width : Nat)
    (shiftSmall : shift.toNat < 32) (ones : mask.toNat = 2 ^ width - 1) :
    (tokenBits token shift mask).toNat =
      token.toNat / 2 ^ shift.toNat % 2 ^ width := by
  simp only [tokenBits, UInt32.toNat_and, UInt32.toNat_shiftRight, ones,
    Nat.and_two_pow_sub_one_eq_mod, Nat.mod_eq_of_lt shiftSmall,
    Nat.shiftRight_eq_div_pow]

theorem constantToken_bits {index shift mask : UInt32} (width : Nat)
    (shiftSmall : shift.toNat < 32) (beyond : 11 ≤ shift.toNat)
    (ones : mask.toNat = 2 ^ width - 1) :
    tokenBits (constantToken index) shift mask =
      tokenBits (constantToken 0) shift mask := by
  have parted : 2 ^ shift.toNat = 2 ^ 11 * 2 ^ (shift.toNat - 11) := by
    rw [← Nat.pow_add, Nat.add_sub_cancel' beyond]
  have quotient : (constantToken index).toNat / 2 ^ 11 =
      (constantToken 0).toNat / 2 ^ 11 := by
    simp only [toNat_constantToken]
    omega
  apply UInt32.toNat_inj.mp
  rw [toNat_tokenBits width shiftSmall ones,
    toNat_tokenBits width shiftSmall ones, parted, ← Nat.div_div_eq_div_mul,
    quotient, Nat.div_div_eq_div_mul]

section

variable (index : UInt32)
include index

theorem constantToken_index :
    decodeRegisterIndex (constantToken index) = index &&& 0x7ff := by
  apply UInt32.toNat_inj.mp
  change (constantToken index &&& 0x7ff).toNat = _
  simp only [toNat_register, toNat_constantToken]
  omega

theorem constantToken_type :
    decodeRegisterType (constantToken index) = kD3DSPR_CONST := by
  simp only [decodeRegisterType,
    @constantToken_bits index 28 0x7 3 (by decide) (by decide) rfl,
    @constantToken_bits index 11 0x3 2 (by decide) (by decide) rfl]
  rfl

theorem constantToken_swizzle :
    decodeSwizzle (constantToken index) = identitySwizzle := by
  simp only [decodeSwizzle,
    @constantToken_bits index 16 0x3 2 (by decide) (by decide) rfl,
    @constantToken_bits index 18 0x3 2 (by decide) (by decide) rfl,
    @constantToken_bits index 20 0x3 2 (by decide) (by decide) rfl,
    @constantToken_bits index 22 0x3 2 (by decide) (by decide) rfl]
  rfl

theorem constantToken_modifier :
    decodeSourceModifier (constantToken index) = 0 := by
  simp only [decodeSourceModifier,
    @constantToken_bits index 24 0xf 4 (by decide) (by decide) rfl]
  rfl

theorem constantToken_decodes (stage : D3DShaderStage) :
    decodeRegisterRef (constantToken index) stage =
      .ok ⟨.constFloat, index &&& 0x7ff⟩ := by
  rw [decodeRegisterRef, constantToken_type, constantToken_index]
  rfl

end

variable {emitter : Emitter} {instruction row : D3DDecodedInstruction}
  {shape : MatrixShape}

theorem readSrc_congr {index : Nat}
    (sameToken : row.operands[index]? = instruction.operands[index]?)
    (sameAddress :
      relAddrTokenOf row index = relAddrTokenOf instruction index) :
    readSrc emitter row index = readSrc emitter instruction index := by
  simp only [readSrc, sameToken, sameAddress]

theorem readsTexcoordRegister_constFloat {token : UInt32}
    {reg : D3DRegisterRef}
    (decodes : decodeRegisterRef token emitter.stage = .ok reg)
    (constant : reg.kind = .constFloat) :
    emitter.readsTexcoordRegister token = false := by
  apply Bool.eq_false_iff.mpr
  intro reads
  simp only [Emitter.readsTexcoordRegister, Bool.and_eq_true,
    decide_eq_true_eq] at reads
  rw [decodeRegisterRef, reads.2, reads.1.1.1] at decodes
  cases decodes
  cases constant

theorem sourceName_constFloat {token index : UInt32}
    (relAddrToken : UInt32) (decodes :
      decodeRegisterRef token emitter.stage = .ok ⟨.constFloat, index⟩) :
    sourceName emitter token ⟨.constFloat, index⟩ relAddrToken =
      (constantRead emitter.access.float index relAddrToken
        (constantRegisterMaxIndex .constFloat emitter.stage)).map
          (.constant .constFloat) := by
  have plain := readsTexcoordRegister_constFloat decodes rfl
  have noInput :
      ¬ (emitter.stage = .pixel ∧ D3DRegisterKind.constFloat = .input) :=
    fun input => nomatch input.2
  rw [sourceName, plain, if_neg Bool.false_ne_true, if_neg noInput,
    readOperandExpression]
  cases constantRead emitter.access.float index relAddrToken
    (constantRegisterMaxIndex .constFloat emitter.stage) <;> rfl

/-- The right operand of a dot product with a plain constant. -/
theorem readSrc_constant {token index : UInt32}
    (operand : row.operands[2]? = some token)
    (decodes :
      decodeRegisterRef token emitter.stage = .ok ⟨.constFloat, index⟩)
    (swizzle : decodeSwizzle token = identitySwizzle)
    (modifier : decodeSourceModifier token = 0) :
    readSrc emitter row 2 =
      (constantRead emitter.access.float index (relAddrTokenOf row 2)
        (constantRegisterMaxIndex .constFloat emitter.stage)).map fun read =>
          { name := .constant .constFloat read
            clampUnit := emitter.stage = .pixel && emitter.major = 1 } := by
  have named := sourceName_constFloat (relAddrTokenOf row 2) decodes
  simp only [readSrc, operand, decodes, swizzle, modifier]
  change (sourceName emitter token ⟨.constFloat, index⟩ _ >>= _) = _
  rw [named]
  cases constantRead emitter.access.float index (relAddrTokenOf row 2)
    (constantRegisterMaxIndex .constFloat emitter.stage) with
  | error stop => rfl
  | ok read =>
      cases emitter.stage <;> by_cases first : emitter.major = 1 <;>
        simp [first] <;> rfl

theorem matrixValue_parts {value : EmittedValue}
    (emitted : matrixValue emitter instruction shape = .ok value) :
    ∃ index source,
      operandRegister emitter.stage instruction 2 = .ok ⟨.constFloat, index⟩ ∧
      readSrc emitter instruction 1 = .ok source ∧
      value = .vector ((List.range 4).map fun row =>
        if row < shape.rows then
          .dot ⟨shape.width, source, matrixRow emitter (index.toNat + row)⟩
        else .zero) := by
  simp only [matrixValue] at emitted
  cases base : operandRegister emitter.stage instruction 2 with
  | error stop => rw [base] at emitted; cases emitted
  | ok reg =>
      rw [base] at emitted
      cases reg with
      | mk kind index =>
          by_cases constant : kind = .constFloat
          · subst constant
            cases read : readSrc emitter instruction 1 with
            | error stop => rw [read] at emitted; cases emitted
            | ok source =>
                rw [read] at emitted
                cases emitted
                exact ⟨index, source, rfl, rfl, rfl⟩
          · change (if kind ≠ .constFloat then _ else _) = _ at emitted
            rw [if_pos constant] at emitted
            cases emitted

theorem matrixShape_rows (matrix : matrixShape instruction.opcode =
    some shape) : 0 < shape.rows ∧ shape.rows ≤ 4 := by
  unfold matrixShape at matrix
  split_ifs at matrix <;> cases matrix <;> decide

theorem component_row {Vector Scalar : Type}
    (machine : Machine Vector Scalar) {source : SourceExpr} {index row : Nat}
    (small : shape.rows ≤ 4) (within : row < shape.rows) :
    machine.component
        (.vector ((List.range 4).map fun row =>
          if row < shape.rows then
            .dot ⟨shape.width, source, matrixRow emitter (index + row)⟩
          else .zero)) row =
      some (machine.dot shape.width (machine.source source)
        (machine.source (matrixRow emitter (index + row)))) := by
  have inside : row < 4 := Nat.lt_of_lt_of_le within small
  simp [Machine.component, inside, within, Machine.product]

/-- A pixel shader of the first model clamps the constants it reads. -/
def Emitter.clampsConstants (emitter : Emitter) : Bool :=
  emitter.stage = .pixel && emitter.major = 1

theorem dotValue_row {index : UInt32} {source : SourceExpr} {offset : Nat}
    (base : operandRegister emitter.stage instruction 2 =
      .ok ⟨.constFloat, index⟩)
    (left : readSrc emitter instruction 1 = .ok source)
    (isRow : RowInstruction emitter.stage instruction row shape offset) :
    ∃ constant : UInt32, constant.toNat = index.toNat + offset ∧
      dotValue emitter row shape.width =
        (constantRead emitter.access.float constant
          (relAddrTokenOf instruction 2)
          (constantRegisterMaxIndex .constFloat emitter.stage)).map
            fun read => .splat ⟨shape.width, source,
              { name := .constant .constFloat read
                clampUnit := emitter.clampsConstants }⟩ := by
  obtain ⟨reg, token, ⟨kind, constant⟩, decodedBase, operand, decodes,
    isConstant, distance, swizzle, modifier⟩ := isRow.constant
  cases isConstant
  cases base.symm.trans decodedBase
  have right := readSrc_constant operand decodes swizzle modifier
  rw [isRow.rowAddress] at right
  refine ⟨constant, distance, ?_⟩
  rw [dotValue, readSrc_congr isRow.source isRow.sourceAddress, left, right]
  cases constantRead emitter.access.float constant
    (relAddrTokenOf instruction 2)
    (constantRegisterMaxIndex .constFloat emitter.stage) <;> rfl

/-- Without an address and a clamp every row is the dot product. -/
theorem equalsRows_of_plain {value : EmittedValue}
    (matrix : matrixShape instruction.opcode = some shape)
    (emitted : matrixValue emitter instruction shape = .ok value)
    (unindexed : relAddrTokenOf instruction 2 = 0)
    (unclamped : emitter.clampsConstants = false) :
    EqualsRows emitter instruction shape value := by
  obtain ⟨index, source, base, left, rfl⟩ := matrixValue_parts emitted
  intro offset within row isRow
  obtain ⟨constant, distance, right⟩ := dotValue_row base left isRow
  rw [unindexed, unclamped] at right
  refine ⟨_, right, ?_⟩
  intro Vector Scalar machine
  rw [component_row machine (matrixShape_rows matrix).2 within, ← distance]
  rfl

/-- The dot product with the first row of a matrix instruction. -/
def firstRow (instruction : D3DDecodedInstruction) (shape : MatrixShape)
    (index : UInt32) : D3DDecodedInstruction where
  opcode := shape.width.opcode
  operands :=
    [0, (instruction.operands[1]?).getD 0, constantToken index]
  relAddrTokens :=
    [0, relAddrTokenOf instruction 1, relAddrTokenOf instruction 2]

theorem operandRegister_masked {reg : D3DRegisterRef} {index : Nat}
    (decodes : operandRegister emitter.stage instruction index = .ok reg) :
    reg.index &&& 0x7ff = reg.index := by
  rw [operandRegister] at decodes
  cases operand : instruction.operands[index]? with
  | none => rw [operand] at decodes; cases decodes
  | some token =>
      simp only [operand, decodeRegisterRef] at decodes
      cases kind : decodeRegisterKind (decodeRegisterType token)
          emitter.stage with
      | error stop => rw [kind] at decodes; cases decodes
      | ok value =>
          rw [kind] at decodes
          cases decodes
          change token &&& 0x7ff &&& 0x7ff = token &&& 0x7ff
          rw [UInt32.and_assoc, UInt32.and_self]

theorem firstRow_isRow {index : UInt32} {source : SourceExpr}
    (base : operandRegister emitter.stage instruction 2 =
      .ok ⟨.constFloat, index⟩)
    (left : readSrc emitter instruction 1 = .ok source) :
    RowInstruction emitter.stage instruction
      (firstRow instruction shape index) shape 0 := by
  have register : index &&& 0x7ff = index := operandRegister_masked base
  constructor
  · rfl
  · cases operand : instruction.operands[1]? with
    | none => rw [readSrc, operand] at left; cases left
    | some token => simp [firstRow, operand]
  · rfl
  · rfl
  · refine ⟨⟨.constFloat, index⟩, constantToken index, ⟨.constFloat, index⟩,
      base, rfl, ?_, rfl, rfl, constantToken_swizzle index,
      constantToken_modifier index⟩
    rw [constantToken_decodes, register]

/-- A machine that shows which constant the right side of a product reads. -/
def probe (shift : Int) (clampUnit : Nat → Nat) : Machine Nat Nat where
  place _ := 0
  buffer _ index := index
  array _ index := index
  hoisted _ index := index
  address _ := shift
  clampUnit := clampUnit
  swizzle _ value := value
  modify _ value := value
  dot _ _ right := right
  zero := 0

theorem probe_name {shift : Int} {clampUnit : Nat → Nat}
    {kind : D3DRegisterKind} (access : CategoryAccess) (index : Nat) :
    (probe shift clampUnit).constant kind (access.name index) = index := by
  rw [CategoryAccess.name]
  split_ifs <;> rfl

theorem probe_relative {shift : Int} {clampUnit : Nat → Nat}
    {kind : D3DRegisterKind} (access : CategoryAccess) (slot : Subscript) :
    (probe shift clampUnit).constant kind (access.relative slot) =
      (probe shift clampUnit).subscript slot := by
  rw [CategoryAccess.relative]
  split_ifs
  · exact ite_self _
  · rfl
  · rfl

theorem probe_product {shift : Int} {clampUnit : Nat → Nat}
    {width : DotWidth} {source : SourceExpr} {kind : D3DRegisterKind}
    {read : ConstantRead} {clamps : Bool} :
    (probe shift clampUnit).product ⟨width, source,
        { name := .constant kind read, clampUnit := clamps }⟩ =
      if clamps then
        clampUnit ((probe shift clampUnit).constant kind read)
      else (probe shift clampUnit).constant kind read :=
  rfl

/-- Some address moves a clamped index. -/
theorem exists_shift (index limit : Nat) (room : 0 < limit) :
    ∃ shift : Int, (max 0 (min (shift + index) limit)).toNat ≠ index := by
  cases index with
  | zero => exact ⟨1, by omega⟩
  | succ index => exact ⟨-1, by omega⟩

theorem constFloat_limit_pos (stage : D3DShaderStage) :
    0 < constantRegisterMaxIndex .constFloat stage := by
  cases stage <;> decide

theorem probe_component {shift : Int} {clampUnit : Nat → Nat}
    {source : SourceExpr} {index : Nat}
    (matrix : matrixShape instruction.opcode = some shape) :
    (probe shift clampUnit).component
        (.vector ((List.range 4).map fun row =>
          if row < shape.rows then
            .dot ⟨shape.width, source, matrixRow emitter (index + row)⟩
          else .zero)) 0 = some index := by
  have rows := matrixShape_rows matrix
  rw [component_row _ rows.2 rows.1]
  exact congrArg some (probe_name emitter.access.float index)

section

variable (matrix : matrixShape instruction.opcode = some shape)
include matrix

theorem EqualsRows.first {value : EmittedValue} {index : UInt32}
    {source : SourceExpr}
    (equal : EqualsRows emitter instruction shape value)
    (base : operandRegister emitter.stage instruction 2 =
      .ok ⟨.constFloat, index⟩)
    (left : readSrc emitter instruction 1 = .ok source) :
    ∃ read, constantRead emitter.access.float index
          (relAddrTokenOf instruction 2)
          (constantRegisterMaxIndex .constFloat emitter.stage) = .ok read ∧
      ComponentsEqual value (.splat ⟨shape.width, source,
        { name := .constant .constFloat read
          clampUnit := emitter.clampsConstants }⟩) 0 := by
  have isRow : RowInstruction emitter.stage instruction
      (firstRow instruction shape index) shape 0 := firstRow_isRow base left
  obtain ⟨product, emitted, same⟩ :=
    equal 0 (matrixShape_rows matrix).1 _ isRow
  obtain ⟨constant, distance, right⟩ := dotValue_row base left isRow
  cases UInt32.toNat_inj.mp (distance.trans (Nat.add_zero _))
  rw [right] at emitted
  cases read : constantRead emitter.access.float index
      (relAddrTokenOf instruction 2)
      (constantRegisterMaxIndex .constFloat emitter.stage) with
  | error stop => rw [read] at emitted; cases emitted
  | ok name =>
      rw [read] at emitted
      cases emitted
      exact ⟨name, rfl, same⟩

theorem EqualsRows.unindexed {value : EmittedValue}
    (emitted : matrixValue emitter instruction shape = .ok value)
    (equal : EqualsRows emitter instruction shape value) :
    relAddrTokenOf instruction 2 = 0 := by
  obtain ⟨index, source, base, left, rfl⟩ := matrixValue_parts emitted
  obtain ⟨read, reads, same⟩ := equal.first matrix base left
  by_contra indexed
  rw [constantRead, if_neg indexed] at reads
  cases address : relAddrExpression (relAddrTokenOf instruction 2) with
  | error stop => rw [address] at reads; cases reads
  | ok name =>
      rw [address] at reads
      cases reads
      obtain ⟨shift, moved⟩ := exists_shift index.toNat _
        (constFloat_limit_pos emitter.stage)
      have probed := same Nat Nat (probe shift id)
      rw [probe_component matrix] at probed
      have right := (Option.some.inj probed).trans probe_product
      rw [id, ite_self, probe_relative] at right
      exact moved right.symm

theorem EqualsRows.unclamped {value : EmittedValue}
    (emitted : matrixValue emitter instruction shape = .ok value)
    (equal : EqualsRows emitter instruction shape value) :
    emitter.clampsConstants = false := by
  have unindexed := equal.unindexed matrix emitted
  obtain ⟨index, source, base, left, rfl⟩ := matrixValue_parts emitted
  obtain ⟨read, reads, same⟩ := equal.first matrix base left
  rw [constantRead, if_pos unindexed] at reads
  cases reads
  by_contra clamps
  have probed := same Nat Nat (probe 0 Nat.succ)
  rw [probe_component matrix] at probed
  have right := (Option.some.inj probed).trans probe_product
  rw [if_pos (eq_true_of_ne_false clamps), probe_name] at right
  exact Nat.succ_ne_self _ right.symm

end

/-- A matrix instruction is, row by row, the dot products with its rows exactly
where its base has no relative address and the constants are not clamped. -/
theorem matrixRows_equal_iff (emitter : Emitter)
    (instruction : D3DDecodedInstruction) (shape : MatrixShape)
    (value : EmittedValue)
    (matrix : matrixShape instruction.opcode = some shape)
    (emitted : matrixValue emitter instruction shape = .ok value) :
    EqualsRows emitter instruction shape value ↔
      relAddrTokenOf instruction 2 = 0 ∧
        ¬ (emitter.stage = .pixel ∧ emitter.major = 1) := by
  have clamps : emitter.clampsConstants = false ↔
      ¬ (emitter.stage = .pixel ∧ emitter.major = 1) := by
    simp [Emitter.clampsConstants]
  rw [← clamps]
  constructor
  · intro equal
    exact ⟨equal.unindexed matrix emitted, equal.unclamped matrix emitted⟩
  · intro plain
    exact equalsRows_of_plain matrix emitted plain.1 plain.2

/-- `m4x4 r0, v0, c0`: without an address the rows are equal. -/
theorem plainMatrix_equalsRows :
    ∃ value,
      matrixValue { stage := .vertex, major := 2 }
          { opcode := kD3DSIO_M4x4
            operands := [0x800f0000, 0x90e40000, 0xa0e40000] }
          ⟨.four, 4, "M4x4 requires a float constant matrix base"⟩ =
        .ok value ∧
      EqualsRows { stage := .vertex, major := 2 }
        { opcode := kD3DSIO_M4x4
          operands := [0x800f0000, 0x90e40000, 0xa0e40000] }
        ⟨.four, 4, "M4x4 requires a float constant matrix base"⟩ value :=
  ⟨_, rfl, (matrixRows_equal_iff _ _ _ _ rfl rfl).mpr
    ⟨rfl, fun pixel => nomatch pixel.1⟩⟩

/-- `m4x4 r0, v0, c0[a0.x]` of vertex shader model two. -/
def paletteWords : List UInt32 :=
  [0xfffe0200, 0x04000014, 0x800f0000, 0x90e40000, 0xa0e42000, 0xb0000000,
    0x0000ffff]

def paletteModule : SpirvModule :=
  translateD3DBytecodeToSpirv { bytes := Memory.wordsBytes paletteWords } true
    {}

def paletteInstruction : D3DDecodedInstruction where
  opcode := kD3DSIO_M4x4
  operands := [0x800f0000, 0x90e40000, 0xa0e42000]
  relAddrTokens := [0, 0, 0xb0000000]

/-- `dp4 r0, v0, c0[a0.x]`, the row of the matrix at its base. -/
def paletteRow : D3DDecodedInstruction :=
  { paletteInstruction with opcode := kD3DSIO_DP4 }

/-- The float constants have indexed reads only, so they stay an array. -/
def paletteEmitter : Emitter where
  stage := .vertex
  major := 2
  access := { int.direct := true, bool.direct := true }
  outputSemantics := List.replicate 16 none

/-- Integers for floats: the constant at an index is that index in all
components, the input is one in all of them and the address register is one. -/
def integers : Machine (List Int) Int where
  place _ := [1, 1, 1, 1]
  buffer _ index := List.replicate 4 index
  array _ index := List.replicate 4 index
  hoisted _ index := List.replicate 4 index
  address _ := 1
  clampUnit value := value.map fun part => max (-1) (min part 1)
  swizzle parts value := parts.map fun part => value[part.toNat]?.getD 0
  modify _ value := value
  dot width left right :=
    ((List.zipWith (· * ·) left right).take
      (match width with
        | .three => 3
        | .four => 4)).sum
  zero := 0

theorem paletteRow_isRow :
    RowInstruction paletteEmitter.stage paletteInstruction paletteRow
      ⟨.four, 4, "M4x4 requires a float constant matrix base"⟩ 0 where
  opcode := rfl
  source := rfl
  sourceAddress := rfl
  rowAddress := rfl
  constant := ⟨⟨.constFloat, 0⟩, 0xa0e42000, ⟨.constFloat, 0⟩,
    rfl, rfl, rfl, rfl, rfl, rfl, rfl⟩

/-- A matrix that is picked by an address register: the first row reads the
constant at the base where the dot product reads the one behind the address. -/
theorem paletteMatrix_differs :
    paletteModule.instructions = [paletteInstruction] ∧
      vertexEmitter paletteModule 7 = .ok paletteEmitter ∧
      ∃ shape value product,
        matrixShape paletteInstruction.opcode = some shape ∧
        matrixValue paletteEmitter paletteInstruction shape = .ok value ∧
        RowInstruction paletteEmitter.stage paletteInstruction paletteRow
          shape 0 ∧
        dotValue paletteEmitter paletteRow shape.width = .ok product ∧
        integers.component value 0 = some 0 ∧
        integers.component product 0 = some 4 ∧
        ¬ EqualsRows paletteEmitter paletteInstruction shape value := by
  refine ⟨by decide +kernel, by decide +kernel,
    ⟨.four, 4, "M4x4 requires a float constant matrix base"⟩, _, _, rfl, rfl,
    paletteRow_isRow, rfl, rfl, rfl, fun equal => ?_⟩
  obtain ⟨product, emitted, same⟩ := equal 0 (by decide) _ paletteRow_isRow
  cases emitted
  exact absurd (same _ _ integers) (by decide)

end Dxmt9.Shader
