import Mathlib.Data.List.Nodup
import Mathlib.Data.List.Perm.Subperm
import Dxmt9.Shader.DecoderSteps

/-!
# Calls put in place

Expanding the calls comes to an end, reads no instruction that is not there,
and puts out only instructions with a slot for every operand.
-/

namespace Dxmt9.Shader

open Fallible

/-- A relative-address slot for every operand. -/
def Slotted (instruction : D3DDecodedInstruction) : Prop :=
  instruction.relAddrTokens.length = instruction.operands.length

variable {instructions : List D3DDecodedInstruction}
  {labels : List LabelRange} {search : LabelSearch} {index : Nat}

theorem collectAliases_outcome :
    Outcome Rejects (fun aliases => aliases.length ≤ instructions.length)
      (collectAliases instructions) := by
  induction instructions with
  | nil => exact Nat.le_refl 0
  | cons instruction rest induction =>
      rw [collectAliases]
      apply Outcome.ite
      · exact fun _ => Nat.zero_le _
      · intro label
        split
        · exact ⟨_, rfl⟩
        · exact induction.bind fun aliases shorter =>
            Nat.succ_le_succ shorter

theorem findReturn_outcome (controlStack : List UInt32) :
    Outcome Rejects (fun ret => ret < index + instructions.length)
      (findReturn controlStack index instructions) := by
  induction instructions generalizing controlStack index with
  | nil => exact ⟨_, rfl⟩
  | cons instruction rest induction =>
      have onward : ∀ stack, Outcome Rejects
          (fun ret => ret < index + (instruction :: rest).length)
          (findReturn stack (index + 1) rest) := by
        intro stack
        apply (induction stack).mono
        intro ret before
        rw [List.length_cons]
        omega
      unfold findReturn
      apply Outcome.ite
      · exact fun _ => ⟨_, rfl⟩
      · intro notLabel
        apply Outcome.ite
        · exact fun _ => onward _
        · intro notOpen
          apply Outcome.ite
          · intro closes
            cases controlStack with
            | nil => exact ⟨_, rfl⟩
            | cons opened outer => exact onward outer
          · intro notClose
            apply Outcome.ite
            · exact fun _ => Nat.lt_add_of_pos_right (Nat.succ_pos _)
            · exact fun _ => onward _

/-- The bodies of the labels lie within the instructions. -/
def BodiesInside (instructions : List D3DDecodedInstruction)
    (labels : List LabelRange) : Prop :=
  ∀ range ∈ labels, range.retInstruction < instructions.length

theorem LabelSearch.step_outcome (inside : index < instructions.length)
    (bodies : BodiesInside instructions search.labels) :
    Outcome Rejects
      (fun next => BodiesInside instructions next.labels)
      (LabelSearch.step instructions search index) := by
  unfold LabelSearch.step
  cases found : instructions.drop index with
  | nil =>
      have short := List.drop_eq_nil_iff.mp found
      exact absurd inside (Nat.not_lt.mpr short)
  | cons instruction rest =>
      have size := congrArg List.length found
      rw [List.length_drop] at size
      apply Outcome.ite
      · exact fun _ => bodies
      · intro isLabel
        refine collectAliases_outcome.bind fun aliases shorter => ?_
        apply Outcome.ite
        · exact fun _ => ⟨_, rfl⟩
        · intro fresh
          refine (findReturn_outcome []).bind fun ret before => ?_
          intro range member
          rw [List.length_drop] at before
          cases List.mem_append.mp member with
          | inl earlier => exact bodies range earlier
          | inr new =>
              obtain ⟨label, -, rfl⟩ := List.mem_map.mp new
              dsimp only
              omega

theorem discoverLabelRanges_outcome :
    Outcome Rejects (BodiesInside instructions)
      (discoverLabelRanges instructions) := by
  unfold discoverLabelRanges
  have searched : Outcome Rejects
      (fun search : LabelSearch => BodiesInside instructions search.labels)
      ((List.range instructions.length).foldlM
        (LabelSearch.step instructions) {}) :=
    outcome_foldlM nofun fun index member search bodies =>
      LabelSearch.step_outcome (List.mem_range.mp member) bodies
  exact searched.bind fun search bodies => bodies

/-! ## Expansion -/

variable {expansion : Expansion} {activeLabels : List UInt32}

def Expansion.Slotted (expansion : Expansion) : Prop :=
  ∀ instruction ∈ expansion.out, Shader.Slotted instruction

theorem Expansion.Slotted.push {more : List D3DDecodedInstruction}
    (slotted : expansion.Slotted)
    (new : ∀ instruction ∈ more, Shader.Slotted instruction) :
    (expansion.push more).Slotted :=
  List.forall_mem_append.mpr ⟨slotted, new⟩

theorem makeInternalInstruction_slotted {opcode controls : UInt32} :
    Shader.Slotted (makeInternalInstruction opcode controls) :=
  rfl

theorem callGuard_outcome (call : D3DDecodedInstruction) :
    Outcome Rejects
      (fun guard => (∀ instruction ∈ guard.1, Slotted instruction) ∧
        ∀ instruction ∈ guard.2, Slotted instruction)
      (callGuard call) := by
  have closed : ∀ instruction ∈ [makeInternalInstruction kD3DSIO_ENDIF],
      Slotted instruction :=
    List.forall_mem_singleton.mpr makeInternalInstruction_slotted
  unfold callGuard
  apply Outcome.ite
  · intro conditional
    split
    · exact ⟨List.forall_mem_singleton.mpr rfl, closed⟩
    · exact ⟨_, rfl⟩
  · intro plain
    apply Outcome.ite
    · exact fun _ => ⟨List.forall_mem_singleton.mpr rfl, closed⟩
    · exact fun _ => ⟨nofun, nofun⟩

/-- Labels that are active are different ones of those there are. -/
structure ActiveLabels (labels : List LabelRange)
    (activeLabels : List UInt32) : Prop where
  nodup : activeLabels.Nodup
  known : ∀ label ∈ activeLabels, label ∈ labels.map LabelRange.label

theorem ActiveLabels.length_le (active : ActiveLabels labels activeLabels) :
    activeLabels.length ≤ labels.length := by
  have shorter := (active.nodup.subperm active.known).length_le
  rwa [List.length_map] at shorter

theorem ActiveLabels.enter {label : UInt32} {range : LabelRange}
    (active : ActiveLabels labels activeLabels)
    (found : findLabelRange labels label = some range)
    (fresh : label ∉ activeLabels) :
    ActiveLabels labels (activeLabels ++ [label]) ∧ range ∈ labels := by
  have member := List.mem_of_find?_eq_some found
  have accepted := List.find?_some found
  have named : range.label = label := beq_iff_eq.mp accepted
  refine ⟨⟨?_, ?_⟩, member⟩
  · exact List.nodup_append.mpr ⟨active.nodup, List.nodup_singleton _,
      fun other earlier last final => by
        rw [List.mem_singleton.mp final]
        rintro rfl
        exact fresh earlier⟩
  · exact List.forall_mem_append.mpr
      ⟨active.known, List.forall_mem_singleton.mpr
        (List.mem_map.mpr ⟨range, member, named⟩)⟩

section

variable {body : List UInt32 → LabelRange → Expansion →
    Except DecodeStop Expansion}

/-- Bodies of labels that are not active yet expand. -/
def BodiesExpand (labels : List LabelRange) (activeLabels : List UInt32)
    (body : List UInt32 → LabelRange → Expansion →
      Except DecodeStop Expansion) : Prop :=
  ∀ label range inner, label ∉ activeLabels →
    findLabelRange labels label = some range → inner.Slotted →
    Outcome Rejects Expansion.Slotted
      (body (activeLabels ++ [label]) range inner)

theorem Expansion.step_outcome {instruction : D3DDecodedInstruction}
    (expands : BodiesExpand labels activeLabels body)
    (slotted : expansion.Slotted) (slot : Shader.Slotted instruction) :
    Outcome Rejects (fun state => state.1.Slotted)
      (expansion.step body labels activeLabels index instruction) := by
  unfold Expansion.step
  apply Outcome.ite
  · intro isLabel
    split
    · exact ⟨_, rfl⟩
    · split
      · exact slotted
      · exact slotted
  · intro notLabel
    apply Outcome.ite
    · exact fun _ => slotted.push
        (List.forall_mem_singleton.mpr makeInternalInstruction_slotted)
    · intro notReturn
      apply Outcome.ite
      · intro isCall
        split
        · exact ⟨_, rfl⟩
        · dsimp only
          split
          · exact ⟨_, rfl⟩
          · rename_i range found
            apply Outcome.ite
            · exact fun _ => ⟨_, rfl⟩
            · intro fresh
              refine (callGuard_outcome _).bind fun guard guarded => ?_
              have opened : Expansion.Slotted
                  { (expansion.push guard.1).push
                      [makeInternalInstruction kDXMT9_INTERNAL_CALL_BEGIN
                        expansion.nextCallFrame] with
                    nextCallFrame := expansion.nextCallFrame + 1 } :=
                (slotted.push guarded.1).push (List.forall_mem_singleton.mpr
                    makeInternalInstruction_slotted)
              refine (expands _ range _ fresh found opened).bind
                fun expanded inner => ?_
              exact inner.push (List.forall_mem_cons.mpr
                ⟨makeInternalInstruction_slotted, guarded.2⟩)
      · exact fun _ => slotted.push (List.forall_mem_singleton.mpr slot)

theorem appendExpandedInstructionRange_outcome {depth first stop : Nat}
    (bodies : BodiesInside instructions labels)
    (slots : ∀ instruction ∈ instructions, Slotted instruction)
    (active : ActiveLabels labels activeLabels)
    (deep : labels.length < depth + activeLabels.length)
    (inside : stop ≤ instructions.length) (slotted : expansion.Slotted) :
    Outcome Rejects Expansion.Slotted
      (appendExpandedInstructionRange instructions labels depth first stop
        activeLabels expansion) := by
  induction depth generalizing first stop activeLabels expansion with
  | zero =>
      have short := active.length_le
      omega
  | succ depth induction =>
      rw [appendExpandedInstructionRange]
      have expands : BodiesExpand labels activeLabels
          fun active range inner =>
            appendExpandedInstructionRange instructions labels depth
              range.bodyBegin (range.retInstruction + 1) active inner := by
        intro label range inner fresh found innerSlotted
        obtain ⟨entered, member⟩ := active.enter found fresh
        refine induction entered ?_ (bodies range member) innerSlotted
        rw [List.length_append, List.length_singleton]
        omega
      have visited : Outcome Rejects
          (fun state : Expansion × Nat => state.1.Slotted)
          ((List.range' first (stop - first)).foldlM (Expansion.visit
              (fun active range inner =>
                appendExpandedInstructionRange instructions labels depth
                  range.bodyBegin (range.retInstruction + 1) active inner)
              instructions labels activeLabels)
            (expansion, first)) := by
        refine outcome_foldlM slotted fun index member state kept => ?_
        unfold Expansion.visit
        apply Outcome.ite
        · exact fun _ => kept
        · intro reached
          obtain ⟨from_, before⟩ := List.mem_range'_1.mp member
          have bound : index < instructions.length := by omega
          rw [List.getElem?_eq_getElem bound]
          exact Expansion.step_outcome expands kept
            (slots _ (List.getElem_mem bound))
      exact visited.bind fun state kept => kept

end

theorem inlineShaderSubroutines_outcome {module_ : SpirvModule}
    (slots : ∀ instruction ∈ module_.instructions, Slotted instruction) :
    Outcome Rejects
      (fun next => ∀ instruction ∈ next.instructions, Slotted instruction)
      (inlineShaderSubroutines module_) := by
  unfold inlineShaderSubroutines
  apply Outcome.ite
  · exact fun _ => slots
  · intro labelled
    refine discoverLabelRanges_outcome.bind fun labels bodies => ?_
    have expanded : Outcome Rejects Expansion.Slotted
        ((List.range module_.instructions.length).foldlM
          (fun (expansion : Expansion) index =>
            if instructionIsInsideLabelRange labels index then .ok expansion
            else
              appendExpandedInstructionRange module_.instructions labels
                (labels.length + 1) index (index + 1) [] expansion)
          {}) := by
      refine outcome_foldlM nofun fun index member expansion kept => ?_
      apply Outcome.ite
      · exact fun _ => kept
      · intro outside
        exact appendExpandedInstructionRange_outcome bodies slots
          ⟨List.nodup_nil, nofun⟩ (Nat.lt_succ_self _)
          (List.mem_range.mp member) kept
    exact expanded.bind fun expansion kept => kept

end Dxmt9.Shader
