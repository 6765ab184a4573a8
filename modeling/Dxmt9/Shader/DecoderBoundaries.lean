import Dxmt9.Shader.DecoderSteps
import Dxmt9.Shader.SubroutineSlots

/-!
# Instruction boundaries

The loop over the tokens of a stream.  It keeps to the boundaries of the
stream just as long as the operand counts agree with the stated lengths.
-/

namespace Dxmt9.Shader

open Fallible Memory

variable {words rest : List UInt32} {offset rounds : Nat}
  {module_ : SpirvModule} {version : UInt32} {stage : D3DShaderStage}
  {item : TokenItem} {items : List TokenItem}
  {added : List D3DDecodedInstruction}

/-- An instruction as the loop puts it out. -/
structure Readable (instruction : D3DDecodedInstruction) : Prop where
  slots : instruction.relAddrTokens.length = instruction.operands.length
  notPhase : instruction.opcode ≠ kD3DSIO_PHASE

/-- A module with readable instructions behind those of another one. -/
def ReadsOn (module_ next : SpirvModule) : Prop :=
  ∃ added, next.instructions = module_.instructions ++ added ∧
    ∀ instruction ∈ added, Readable instruction

variable {between next : SpirvModule}

theorem ReadsOn.after
    {front : List D3DDecodedInstruction}
    (first : between.instructions = module_.instructions ++ front)
    (readable : ∀ instruction ∈ front, Readable instruction)
    (readsOn : ReadsOn between next) : ReadsOn module_ next := by
  obtain ⟨back, split, rest⟩ := readsOn
  refine ⟨front ++ back, ?_, List.forall_mem_append.mpr ⟨readable, rest⟩⟩
  rw [split, first, List.append_assoc]

theorem InstructionRead.readable {start : List UInt32} {token : UInt32}
    {count : Nat} {instruction : D3DDecodedInstruction}
    {result : SpirvModule × Nat}
    (read : InstructionRead words start token count module_ instruction result)
    (notPhase : tokenOpcode token ≠ kD3DSIO_PHASE) :
    Readable instruction :=
  ⟨read.slots, read.opcode.symm ▸ notPhase⟩

/-- Wherever it starts, the loop comes to an end without a read outside. -/
theorem decodeStream_outcome (behind : WordsBehind words rest offset)
    (enough : rest.length < rounds) :
    Outcome Rejects (ReadsOn module_)
      (decodeStream (wordsBytes words) rounds module_ offset) := by
  induction rounds generalizing rest module_ offset with
  | zero => exact absurd enough (Nat.not_lt_zero _)
  | succ rounds induction =>
      have size := behind.length
      rw [decodeStream]
      apply Outcome.ite
      · exact fun _ => ⟨[], (List.append_nil _).symm, nofun⟩
      · intro inside
        cases rest with
        | nil =>
            rw [List.length_nil] at size
            omega
        | cons token rest =>
            rw [List.length_cons] at enough
            refine (decodeToken_outcome behind).bind fun round read => ?_
            cases read with
            | last isEnd instructions =>
                exact ⟨[], instructions.trans (List.append_nil _).symm, nofun⟩
            | comment isComment header instructions split length reached =>
                have shorter := congrArg List.length split
                rw [List.length_append] at shorter
                exact (induction reached (by omega)).mono fun next readsOn =>
                  readsOn.after (instructions.trans
                    (List.append_nil _).symm) nofun
            | phase isPhase header instructions reached =>
                exact (induction reached (by omega)).mono fun next readsOn =>
                  readsOn.after (instructions.trans
                    (List.append_nil _).symm) nofun
            | instruction notEnd notComment notPhase counted read =>
                obtain ⟨behind', split, reached⟩ := read.read
                have shorter := congrArg List.length split
                rw [List.length_append] at shorter
                exact (induction reached (by omega)).mono fun next readsOn =>
                  readsOn.after read.instructions
                    (List.forall_mem_singleton.mpr (read.readable notPhase))

/-! ## The loop over a stream -/

/-- Items whose instructions have the lengths that the counts give. -/
def AllMeasured (version : UInt32) (stage : D3DShaderStage)
    (items : List TokenItem) : Prop :=
  ∀ item ∈ instructionItems items, item.Measured version stage

/-- The instructions put out are those of the items just if all counts agree
with the stated lengths. -/
def ExactWhenMeasured (version : UInt32) (stage : D3DShaderStage)
    (items : List TokenItem) (module_ next : SpirvModule) : Prop :=
  ∃ added, next.instructions = module_.instructions ++ added ∧
    (BoundariesExact items added ↔ AllMeasured version stage items)

theorem itemWords_cons :
    itemWords (item :: items) =
      item.token :: (item.payload ++ itemWords items) := by
  unfold itemWords
  rw [List.flatMap_cons, List.append_assoc]
  rfl

theorem instructionItems_comment (comment : item.opcode = kD3DSIO_COMMENT) :
    instructionItems (item :: items) = instructionItems items := by
  unfold instructionItems
  rw [List.filter_cons_of_neg]
  rw [comment]
  decide

theorem instructionItems_instruction
    (instruction : item.opcode ≠ kD3DSIO_COMMENT) :
    instructionItems (item :: items) = item :: instructionItems items := by
  unfold instructionItems
  rw [List.filter_cons_of_pos]
  exact bne_iff_ne.mpr instruction

/-- An instruction item that the loop did not read from its own words. -/
theorem ReadsOn.unmeasured
    (readsOn : ReadsOn module_ next)
    (instruction : item.opcode ≠ kD3DSIO_COMMENT)
    (missed : ∀ added, next.instructions = module_.instructions ++ added →
      ∀ decoded ∈ added.head?, Readable decoded → ¬DecodedFrom item decoded)
    (unmeasured : ¬item.Measured version stage) :
    ExactWhenMeasured version stage (item :: items) module_ next := by
  obtain ⟨added, split, readable⟩ := readsOn
  refine ⟨added, split, ?_⟩
  unfold BoundariesExact AllMeasured
  rw [instructionItems_instruction instruction]
  constructor
  · intro exact_
    cases exact_ with
    | cons first others =>
        exact absurd first (missed _ split _ rfl
          (readable _ (List.mem_cons_self ..)))
  · intro measured
    exact absurd (measured item (List.mem_cons_self ..)) unmeasured

/-- An instruction item that the loop read from just its own words. -/
theorem ExactWhenMeasured.instruction
    {decoded : D3DDecodedInstruction}
    (instruction : item.opcode ≠ kD3DSIO_COMMENT)
    (first : between.instructions = module_.instructions ++ [decoded])
    (from_ : DecodedFrom item decoded) (measured : item.Measured version stage)
    (others : ExactWhenMeasured version stage items between next) :
    ExactWhenMeasured version stage (item :: items) module_ next := by
  obtain ⟨added, split, agree⟩ := others
  refine ⟨decoded :: added, ?_, ?_⟩
  · rw [split, first, List.append_assoc]
    rfl
  · unfold BoundariesExact AllMeasured at agree ⊢
    rw [instructionItems_instruction instruction, List.forall₂_cons,
      List.forall_mem_cons, agree]
    exact ⟨fun both => ⟨measured, both.2⟩, fun both => ⟨from_, both.2⟩⟩

/-- The module reads for the version of the stream. -/
structure VersionOf (version : UInt32) (stage : D3DShaderStage)
    (module_ : SpirvModule) : Prop where
  stage : module_.stage = stage
  major : module_.major = versionMajor version
  minor : module_.minor = versionMinor version

theorem VersionOf.same
    (versionOf : VersionOf version stage module_)
    (header : SameHeader module_ next) : VersionOf version stage next :=
  ⟨header.stage.trans versionOf.stage, header.major.trans versionOf.major,
    header.minor.trans versionOf.minor⟩

theorem decodeStream_exact (versionOf : VersionOf version stage module_)
    (wellFormed : ∀ item ∈ items, item.WellFormed version stage)
    (behind : WordsBehind words (itemWords items) offset)
    (enough : (itemWords items).length < rounds) :
    Outcome Rejects (ExactWhenMeasured version stage items module_)
      (decodeStream (wordsBytes words) rounds module_ offset) := by
  induction items generalizing rounds module_ offset with
  | nil =>
      cases rounds with
      | zero => exact absurd enough (Nat.not_lt_zero _)
      | succ rounds =>
          have size := behind.length
          rw [decodeStream, if_neg (by rw [size]; simp [itemWords])]
          refine (decodeToken_outcome behind).bind fun round read => ?_
          cases read with
          | last isEnd instructions =>
              refine ⟨[], instructions.trans (List.append_nil _).symm, ?_⟩
              exact ⟨fun _ => nofun, fun _ => List.Forall₂.nil⟩
          | comment isComment => exact nomatch isComment
          | phase isPhase => exact nomatch isPhase
          | instruction notEnd => exact absurd rfl notEnd
  | cons item items induction =>
      cases rounds with
      | zero => exact absurd enough (Nat.not_lt_zero _)
      | succ rounds =>
          rw [itemWords_cons] at behind enough
          rw [List.length_cons, List.length_append] at enough
          have size := behind.length
          rw [List.length_cons] at size
          have formed := wellFormed item (List.mem_cons_self ..)
          have others : ∀ other ∈ items, other.WellFormed version stage :=
            fun other member => wellFormed other (List.mem_cons_of_mem _ member)
          rw [decodeStream, if_neg (by omega)]
          refine (decodeToken_outcome behind).bind fun round read => ?_
          cases read with
          | last isEnd => exact absurd isEnd formed.notEnd
          | @comment between place skipped left isComment header instructions
              split length reached =>
              have lengths : item.payload.length = _ :=
                (formed.comment isComment).trans length.symm
              obtain ⟨-, rfl⟩ := List.append_inj split lengths
              have aligned : Outcome Rejects
                  (ExactWhenMeasured version stage items between)
                  (decodeStream (wordsBytes words) rounds between place) :=
                induction (versionOf.same header) others reached (by omega)
              apply aligned.mono
              rintro next ⟨added, split, agree⟩
              refine ⟨added, split.trans (congrArg (· ++ added) instructions),
                ?_⟩
              unfold BoundariesExact AllMeasured at agree ⊢
              rw [instructionItems_comment isComment]
              exact agree
          | @phase between place isPhase header instructions reached =>
              have plain : item.opcode ≠ kD3DSIO_COMMENT := by
                rw [show item.opcode = kD3DSIO_PHASE from isPhase]
                decide
              have read : Outcome Rejects (ReadsOn between)
                  (decodeStream (wordsBytes words) rounds between place) :=
                decodeStream_outcome reached
                  (by rw [List.length_append]; omega)
              apply read.mono
              intro next readsOn
              have readsOn := readsOn.after
                (instructions.trans (List.append_nil _).symm) nofun
              apply readsOn.unmeasured plain
              · intro added split decoded member readable from_
                exact readable.notPhase (from_.opcode.trans isPhase)
              · exact fun measured => measured.1 isPhase
          | @instruction between place count decoded notEnd notComment notPhase
              counted read =>
              rw [versionOf.stage, versionOf.major, versionOf.minor] at counted
              obtain ⟨rest', split, reached⟩ := read.read
              by_cases own : decoded.consumed = item.payload
              · rw [own] at split
                obtain rfl := List.append_cancel_left split
                have aligned : Outcome Rejects
                    (ExactWhenMeasured version stage items between)
                    (decodeStream (wordsBytes words) rounds between place) :=
                  induction (versionOf.same read.header) others reached
                    (by omega)
                apply aligned.mono
                intro next exact_
                have measured : item.Measured version stage :=
                  ⟨notPhase, _, counted, own ▸ read.skipped⟩
                exact exact_.instruction notComment read.instructions
                  ⟨read.opcode, read.controls, own⟩ measured
              · have shorter := congrArg List.length split
                rw [List.length_append, List.length_append] at shorter
                have readsOn : Outcome Rejects (ReadsOn between)
                    (decodeStream (wordsBytes words) rounds between place) :=
                  decodeStream_outcome reached (by omega)
                apply readsOn.mono
                rintro next ⟨added, continued, readable⟩
                have whole := ReadsOn.after read.instructions
                  (List.forall_mem_singleton.mpr (read.readable notPhase))
                  ⟨added, continued, readable⟩
                apply whole.unmeasured notComment
                · intro all found decoded member _ from_
                  rw [continued, read.instructions, List.append_assoc] at found
                  obtain rfl := List.append_cancel_left found
                  cases member
                  exact own from_.consumed
                · rintro ⟨-, other, again, skipped⟩
                  rw [counted] at again
                  cases again
                  exact own (skipOperands_unique read.skipped skipped
                    split.symm)

end Dxmt9.Shader

/-!
## The boundaries that translation finds

Any bytes are rejected or give a module with a slot for every operand.  A
stream is decoded at its own boundaries whenever its counts agree with its
lengths, and an accepted stream only then.
-/

namespace Dxmt9.Shader

open Fallible Memory

variable {words : List UInt32} {shader : ShaderBytecode} {vertex : Bool}
  {context : ShaderSourceContext} {stream : TokenStream}
  {stage : D3DShaderStage}

/-- A module of a version without any instruction. -/
structure HeaderOf (version : UInt32) (module_ : SpirvModule) : Prop where
  stage : versionStage version = some module_.stage
  major : module_.major = versionMajor version
  minor : module_.minor = versionMinor version
  empty : module_.instructions = []

variable {version : UInt32} {rest : List UInt32}

theorem decodeVersion_outcome
    (bytes : shader.bytes = wordsBytes (version :: rest)) :
    Outcome Rejects (HeaderOf version)
      (decodeVersion shader vertex context) := by
  have found : readWord shader.bytes 0 = .ok version := by
    rw [bytes]
    exact readWord_behind wordsBehind_start
  unfold decodeVersion
  apply Outcome.ite
  · exact fun _ => ⟨_, rfl⟩
  intro wellSized
  dsimp only
  split
  · exact ⟨_, rfl⟩
  · rw [found]
    dsimp only [bind, Except.bind]
    cases named : versionStage version with
    | none => exact ⟨_, rfl⟩
    | some stage =>
        apply Outcome.ite
        · exact fun _ => ⟨_, rfl⟩
        · exact fun _ => ⟨named, rfl, rfl, rfl⟩

theorem wordsBytes_enough :
    rest.length < (wordsBytes (version :: rest)).length := by
  rw [length_wordsBytes, List.length_cons]
  omega

/-- Bytes that are too few or no words are rejected. -/
theorem decodeTokens_malformed
    (malformed : shader.bytes.length < 4 ∨ shader.bytes.length % 4 ≠ 0) :
    decodeTokens shader vertex context = .error (.reject .truncated) := by
  unfold decodeTokens decodeVersion
  rw [if_pos malformed]
  rfl

theorem decodeTokens_outcome :
    Outcome Rejects
      (fun next => ∀ instruction ∈ next.instructions, Readable instruction)
      (decodeTokens shader vertex context) := by
  by_cases malformed : shader.bytes.length < 4 ∨ shader.bytes.length % 4 ≠ 0
  · rw [decodeTokens_malformed malformed]
    exact ⟨_, rfl⟩
  · rw [not_or, not_not] at malformed
    obtain ⟨words, bytes⟩ := exists_wordsBytes malformed.2
    cases words with
    | nil =>
        rw [bytes] at malformed
        exact absurd (Nat.succ_pos 3) malformed.1
    | cons version rest =>
        unfold decodeTokens
        refine (decodeVersion_outcome bytes).bind fun header headerOf => ?_
        rw [bytes]
        apply (decodeStream_outcome wordsBehind_start.next
          wordsBytes_enough).mono
        rintro next ⟨added, split, readable⟩
        rw [split, headerOf.empty]
        exact readable

theorem decodeTokens_exact (wellFormed : stream.WellFormed stage)
    (bytes : shader.bytes = stream.bytes) :
    Outcome Rejects
      (fun next => BoundariesExact stream.items next.instructions ↔
        AllMeasured stream.version stage stream.items)
      (decodeTokens shader vertex context) := by
  unfold decodeTokens
  refine (decodeVersion_outcome bytes).bind fun header headerOf => ?_
  have versionOf : VersionOf stream.version stage header :=
    ⟨Option.some.inj (headerOf.stage.symm.trans wellFormed.1),
      headerOf.major, headerOf.minor⟩
  rw [bytes]
  apply (decodeStream_exact versionOf wellFormed.2 wordsBehind_start.next
    wordsBytes_enough).mono
  rintro next ⟨added, split, agree⟩
  rw [split, headerOf.empty]
  exact agree

variable (shader vertex context stream) in
/-- The stream is rejected, or decoded to one instruction for each of its
instruction tokens, from just the words that the token states. -/
def DecodesAtBoundaries : Prop :=
  translateD3DBytecodeToSpirv shader vertex context = {} ∨
    ∃ decoded, decodeTokens shader vertex context = .ok decoded ∧
      inlineShaderSubroutines decoded =
        .ok (translateD3DBytecodeToSpirv shader vertex context) ∧
      BoundariesExact stream.items decoded.instructions

theorem translate_outcome :
    Outcome Rejects
      (fun next => ∀ instruction ∈ next.instructions, Slotted instruction)
      (decodeTokens shader vertex context >>= inlineShaderSubroutines) :=
  decodeTokens_outcome.bind fun _ readable =>
    inlineShaderSubroutines_outcome fun instruction member =>
      (readable instruction member).slots

/-- What is not rejected is decoded, and then its calls are put in place. -/
theorem translate_cases :
    translateD3DBytecodeToSpirv shader vertex context = {} ∨
      ∃ decoded, decodeTokens shader vertex context = .ok decoded ∧
        inlineShaderSubroutines decoded =
          .ok (translateD3DBytecodeToSpirv shader vertex context) := by
  unfold translateD3DBytecodeToSpirv
  cases reached : decodeTokens shader vertex context with
  | error stop => exact Or.inl rfl
  | ok decoded =>
      have inlined : (Except.ok decoded >>= inlineShaderSubroutines) =
          inlineShaderSubroutines decoded := rfl
      cases expanded : inlineShaderSubroutines decoded with
      | error stop =>
          apply Or.inl
          rw [inlined, expanded]
      | ok next =>
          apply Or.inr
          refine ⟨decoded, rfl, ?_⟩
          rw [inlined, expanded]

/-- `mov r0, c0` of shader model two. -/
def moveStream : TokenStream where
  version := 0xfffe0200
  items := [⟨0x02000001, [0x800f0000, 0xa0e40000]⟩]

/-- `rep i0`, `breakp p0` and `endrep` of shader model three. -/
def breakStream : TokenStream where
  version := 0xffff0300
  items :=
    [⟨0x01000026, [0xf0e40000]⟩, ⟨0x01000060, [0xb0001000]⟩,
      ⟨0x00000027, []⟩]

end Dxmt9.Shader
