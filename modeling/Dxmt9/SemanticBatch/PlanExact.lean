import Dxmt9.SemanticBatch.ExactEmission
import Dxmt9.SemanticBatch.OwnerRuns

/-!
# The plan of a frozen owner

The planner derives the places of the records again.  For a frozen owner it
passes all its tests, and the places are those that `append` computed.
-/

namespace Dxmt9.SemanticBatch

open Dxmt9.ChunkBuilder
open Dxmt9.Memory
open Dxmt9.Order
open Dxmt9.Transition

theorem recordRule_alignment_pos {type : UInt32} {rule : RecordRule}
    (ruleRow : recordRule type = some rule) :
    0 < rule.payloadAlignment.toNat := by
  have rows : ∀ row ∈ kRecordRules, 0 < row.2.payloadAlignment.toNat := by
    decide
  obtain ⟨front, back, split, -⟩ := List.lookup_eq_some_iff.mp ruleRow
  apply rows (type, rule)
  rw [split]
  exact List.mem_append_right _ List.mem_cons_self

theorem ruleAlignment_pos (input : BatchRecordInput) :
    0 < ruleAlignment input := by
  unfold ruleAlignment
  cases row : recordRule input.recordType with
  | none => exact Nat.one_pos
  | some rule => exact recordRule_alignment_pos row

theorem canonicalEnd_le_payloadStart (before : List BatchRecordInput)
    (input : BatchRecordInput) :
    canonicalEnd before ≤ payloadStart before input :=
  le_alignedUp _ (ruleAlignment_pos input)

theorem canonicalEnd_le_append (front back : List BatchRecordInput) :
    canonicalEnd front ≤ canonicalEnd (front ++ back) := by
  induction back generalizing front with
  | nil =>
      rw [List.append_nil]
  | cons input rest induction =>
      have later := induction (front ++ [input])
      have start := canonicalEnd_le_payloadStart front input
      rw [canonicalEnd_snoc, List.append_assoc] at later
      exact Nat.le_trans (Nat.le_trans start (Nat.le_add_right _ _)) later

theorem payloadStop_le (before : List BatchRecordInput)
    (input : BatchRecordInput) (after : List BatchRecordInput) :
    payloadStart before input + input.exactPayload.length ≤
      canonicalEnd (before ++ input :: after) := by
  have later := canonicalEnd_le_append (before ++ [input]) after
  rw [canonicalEnd_snoc, List.append_assoc] at later
  exact later

theorem length_packed_le (inputs : List BatchRecordInput) :
    (packed inputs).length ≤ canonicalEnd inputs := by
  induction inputs using List.reverseRecOn with
  | nil => exact Nat.le_refl _
  | append_singleton front input induction =>
      have start := canonicalEnd_le_payloadStart front input
      rw [packed_snoc, List.length_append, canonicalEnd_snoc]
      omega

/-! ## The views of a record -/

variable {value : Nat}

theorem toNat_ofNat_of_lt (small : value < 2 ^ 32) :
    (UInt32.ofNat value).toNat = value :=
  UInt32.toNat_ofNat_of_lt' small

/-- The sizes of the stored inputs are words. -/
structure Small (inputs : List BatchRecordInput) : Prop where
  records : inputs.length < 2 ^ 32
  handles : (owned inputs).length < 2 ^ 32
  payload : canonicalEnd inputs < 2 ^ 32

variable {inputs : List BatchRecordInput}

theorem Sealed.small {role : FixedRoleOwnership} (sealed_ : Sealed role inputs) :
    Small inputs where
  records := sealed_.recordCount ▸ role.recordCount.toNat_lt
  handles := sealed_.handleCount ▸ role.handleCount.toNat_lt
  payload := sealed_.payloadBytes ▸ role.payloadBytes.toNat_lt

section

variable {limits : Limits} {before after : List BatchRecordInput}
  {input : BatchRecordInput} {owner : ImmutableSemanticBatchOwner}

theorem Small.stop (small : Small (before ++ input :: after)) :
    payloadStart before input + input.exactPayload.length < 2 ^ 32 :=
  Nat.lt_of_le_of_lt (payloadStop_le before input after) small.payload

theorem owned_split : owned (before ++ input :: after) =
    owned before ++ (input.identities ++ owned after) := by
  unfold owned
  rw [List.flatMap_append, List.flatMap_cons]

theorem packed_split : packed (before ++ input :: after) =
    packed before ++ (input.exactPayload ++ packed after) := by
  unfold packed
  rw [List.flatMap_append, List.flatMap_cons]

theorem Small.ownedStop (small : Small (before ++ input :: after)) :
    (owned before).length + input.identities.length < 2 ^ 32 := by
  have total := small.handles
  rw [owned_split, List.length_append, List.length_append] at total
  omega

theorem payloadOf_recordOf
    (payload : owner.payload = packed (before ++ input :: after))
    (small : Small (before ++ input :: after)) :
    owner.payloadOf (recordOf before input) = input.exactPayload := by
  have stop := small.stop
  have start : (packed before).length < 2 ^ 32 := by
    have packs := length_packed_le before
    have starts := canonicalEnd_le_payloadStart before input
    omega
  change slice owner.payload (UInt32.ofNat (packed before).length).toNat
    (UInt32.ofNat input.exactPayload.length).toNat = _
  rw [toNat_ofNat_of_lt start, toNat_ofNat_of_lt (by omega), payload,
    packed_split]
  unfold slice
  rw [List.drop_left, List.take_left]

theorem identitiesOf_recordOf
    (identities : owner.identities = owned (before ++ input :: after))
    (small : Small (before ++ input :: after)) :
    owner.identitiesOf (recordOf before input) = input.identities := by
  have stop := small.ownedStop
  change (owner.identities.drop (UInt32.ofNat (owned before).length).toNat).take
    (UInt32.ofNat input.identities.length).toNat = _
  rw [toNat_ofNat_of_lt (by omega), toNat_ofNat_of_lt (by omega), identities,
    owned_split, List.drop_left, List.take_left]

end

/-- The planned place of an input behind those before it. -/
def planRecordOf (before : List BatchRecordInput) (input : BatchRecordInput) :
    SemanticBatchPlanRecord :=
  { payloadOffset := UInt32.ofNat (payloadStart before input)
    payloadBytes := UInt32.ofNat input.exactPayload.length
    firstHandle := UInt32.ofNat (owned before).length
    handleCount := UInt32.ofNat input.identities.length }

/-- The counts of the witnesses. -/
def tally (count : BatchRecordInput → Nat) (inputs : List BatchRecordInput) :
    Nat :=
  (inputs.map count).sum

theorem tally_snoc (count : BatchRecordInput → Nat)
    (before : List BatchRecordInput) (input : BatchRecordInput) :
    tally count (before ++ [input]) = tally count before + count input := by
  unfold tally
  rw [List.map_append, List.sum_append, List.map_singleton, List.sum_singleton]

/-- The state of the planner behind some inputs. -/
def planOf (inputs : List BatchRecordInput) : SemanticBatchCountPlan × Nat :=
  ({ records := mapPrefix planRecordOf [] inputs
     handles := owned inputs
     uniqueRetainerCount := tally
       (fun input => if input.retainerWitness then input.identities.length
         else 0) inputs
     pendingWitnessCount :=
       tally (fun input => if input.pendingWitness then 1 else 0) inputs
     captureWitnessCount :=
       tally (fun input => if input.captureWitness then 1 else 0) inputs },
    canonicalEnd inputs)

variable {limits : Limits}

theorem pushHandles_eq_some
    {handles identities : List PeCommittedSemanticIdentityValue}
    (fits : handles.length + identities.length ≤ limits.maxIdentities) :
    pushHandles limits handles identities = some (handles ++ identities) := by
  induction identities generalizing handles with
  | nil =>
      rw [List.append_nil]
      rfl
  | cons identity rest induction =>
      rw [List.length_cons] at fits
      unfold pushHandles
      rw [if_neg (by omega), induction, List.append_assoc]
      · rfl
      · rw [List.length_append, List.length_singleton]
        omega

section

variable {limits : Limits} {inputs : List BatchRecordInput}
  {owner : ImmutableSemanticBatchOwner}

/-- A turn of the planner places the next record where it was appended. -/
theorem Holds.planRecord (holds : Holds limits inputs owner)
    (small : Small inputs) {before after : List BatchRecordInput}
    {input : BatchRecordInput} (split : inputs = before ++ input :: after) :
    planRecord limits owner (planOf before) (recordOf before input) =
      some (planOf (before ++ [input])) := by
  subst split
  have stop := small.stop
  have size : (recordOf before input).payloadBytes.toNat =
      input.exactPayload.length :=
    toNat_ofNat_of_lt (by omega)
  have identities := identitiesOf_recordOf holds.identities small
  obtain ⟨-, ⟨rule, ruleRow, aligns⟩, fits⟩ :=
    holds.placed before input after rfl
  have room : ¬ (limits.maxPayloadBytes < payloadStart before input ∨
      limits.maxPayloadBytes - payloadStart before input <
        (recordOf before input).payloadBytes.toNat ∨
      (planOf before).1.records.length = limits.maxRecords) := by
    have limit := holds.recordLimit
    have length : (planOf before).1.records.length = before.length :=
      length_mapPrefix [] before
    rw [List.length_append, List.length_cons] at limit
    rw [size, length]
    omega
  have handleRoom : (owned before).length + input.identities.length ≤
      limits.maxIdentities := by
    have limit := holds.identityLimit
    rw [owned_split, List.length_append, List.length_append] at limit
    omega
  have pushed : pushHandles limits (planOf before).1.handles
      (owner.identitiesOf (recordOf before input)) =
        some (owned before ++ input.identities) := by
    rw [identities]
    exact pushHandles_eq_some handleRoom
  have row : recordRule (recordOf before input).recordType = some rule :=
    ruleRow
  have aligned : semanticBatchAlignUp (planOf before).2
      rule.payloadAlignment = some (payloadStart before input) := aligns
  unfold SemanticBatch.planRecord
  simp only [row, aligned, if_neg room, pushed]
  rw [identities, size]
  unfold planOf
  rw [mapPrefix_snoc, owned_snoc, tally_snoc, tally_snoc, tally_snoc,
    canonicalEnd_snoc]
  rfl

/-- The loop of the planner. -/
theorem Holds.planRecords (holds : Holds limits inputs owner)
    (small : Small inputs) {front back : List BatchRecordInput}
    (split : inputs = front ++ back) :
    (mapPrefix recordOf front back).foldlM
      (SemanticBatch.planRecord limits owner) (planOf front) =
        some (planOf inputs) := by
  induction back generalizing front with
  | nil =>
      rw [List.append_nil] at split
      rw [split]
      rfl
  | cons input rest induction =>
      rw [mapPrefix, List.foldlM_cons, holds.planRecord small split]
      apply induction
      rw [split, List.append_assoc]
      rfl

end

/-! ## The offsets -/

/-- The offset of the handle table. -/
def handleTable (inputs : List BatchRecordInput) : Nat :=
  wireHeaderSize + inputs.length * wireRecordHeaderSize

/-- The offset of the payload arena. -/
def payloadArena (inputs : List BatchRecordInput) : Nat :=
  handleTable inputs + (owned inputs).length * wireHandleEntrySize

/-- The whole plan. -/
def exactPlan (inputs : List BatchRecordInput) : SemanticBatchCountPlan :=
  { (planOf inputs).1 with
    handleTableOffset := handleTable inputs
    payloadArenaOffset := payloadArena inputs
    payloadBytes := canonicalEnd inputs
    wireBytes := payloadArena inputs + canonicalEnd inputs }

theorem semanticBatchAlignUp_of_aligned {alignment : UInt32}
    (power : ¬ (alignment = 0 ∨ alignment &&& (alignment - 1) ≠ 0))
    (fits : value ≤ maxSize - (alignment.toNat - 1))
    (aligned : alignedUp value alignment.toNat = value) :
    semanticBatchAlignUp value alignment = some value := by
  unfold semanticBatchAlignUp
  simp only [not_or] at power
  rw [if_neg, aligned]
  rintro (zero | split | large)
  · exact power.1 zero
  · exact power.2 split
  · omega

theorem planOffsets_eq_some (small : Small inputs)
    (valid : (exactPlan inputs).valid limits = true) :
    planOffsets limits (planOf inputs) = some (exactPlan inputs) := by
  obtain ⟨records, handles, payload⟩ := small
  have recordCount : (planOf inputs).1.records.length = inputs.length :=
    length_mapPrefix [] inputs
  have handleCount : (planOf inputs).1.handles = owned inputs := rfl
  obtain ⟨recordTable, handleStop⟩ :=
    alignedUp_tables inputs.length (owned inputs).length
  have bytes : wireHeaderSize = 48 ∧ wireRecordHeaderSize = 32 ∧
      wireHandleEntrySize = 16 ∧ maxSize = 18446744073709551615 :=
    ⟨rfl, rfl, rfl, rfl⟩
  obtain ⟨header, record, entry, largest⟩ := bytes
  have table : semanticBatchAlignUp ((planOf inputs).1.recordTableOffset +
        (planOf inputs).1.records.length * wireRecordHeaderSize)
      (UInt32.ofNat wireHandleEntryAlignment) = some (handleTable inputs) := by
    rw [recordCount]
    apply semanticBatchAlignUp_of_aligned (by decide) _ recordTable
    change 48 + inputs.length * 32 ≤ 18446744073709551615 - 7
    omega
  have arena : semanticBatchAlignUp
      (handleTable inputs + (planOf inputs).1.handles.length *
        wireHandleEntrySize) (UInt32.ofNat wireWordAlignment) =
      some (payloadArena inputs) := by
    rw [handleCount]
    apply semanticBatchAlignUp_of_aligned (by decide) _ handleStop
    change 48 + inputs.length * 32 + (owned inputs).length * 16 ≤
      18446744073709551615 - 3
    omega
  have recordsFit : ¬ (maxSize - (planOf inputs).1.recordTableOffset) /
      wireRecordHeaderSize < (planOf inputs).1.records.length := by
    rw [recordCount]
    change ¬ (18446744073709551615 - 48) / 32 < inputs.length
    omega
  have handlesFit : ¬ (maxSize - handleTable inputs) / wireHandleEntrySize <
      (planOf inputs).1.handles.length := by
    rw [handleCount]
    change ¬ (18446744073709551615 - (48 + inputs.length * 32)) / 16 <
      (owned inputs).length
    omega
  have payloadFits : ¬ maxSize - (planOf inputs).2 < payloadArena inputs := by
    change ¬ 18446744073709551615 - canonicalEnd inputs <
      48 + inputs.length * 32 + (owned inputs).length * 16
    omega
  unfold planOffsets
  simp only [table, arena, if_neg recordsFit, if_neg handlesFit,
    if_neg payloadFits]
  exact if_pos valid

section

variable {limits : Limits} {inputs : List BatchRecordInput}
  {owner : ImmutableSemanticBatchOwner}

section

variable (holds : Holds limits inputs owner)
include holds

theorem Holds.canonicalEnd_le :
    canonicalEnd inputs ≤ limits.maxPayloadBytes := by
  rcases List.eq_nil_or_concat inputs with rfl | ⟨front, last, rfl⟩
  · exact Nat.zero_le _
  · rw [List.concat_eq_append] at holds ⊢
    rw [canonicalEnd_snoc]
    exact (holds.placed front last [] rfl).fits

theorem Holds.wireBytes_le
    (sealed_ : Sealed owner.role inputs) :
    (exactPlan inputs).wireBytes ≤ maxTotalWireBytes := by
  have fits := (holds.role sealed_.bound).fits
  rw [sealed_.recordCount, sealed_.handleCount, sealed_.payloadBytes] at fits
  exact fits

theorem Holds.plan_valid
    (sealed_ : Sealed owner.role inputs) :
    (exactPlan inputs).valid limits = true := by
  have count : (exactPlan inputs).records.length = inputs.length :=
    length_mapPrefix [] inputs
  unfold SemanticBatchCountPlan.valid
  apply decide_eq_true
  rw [count]
  refine ⟨?_, holds.recordLimit, holds.identityLimit, holds.canonicalEnd_le,
    ?_, holds.wireBytes_le sealed_⟩
  · exact fun empty => sealed_.nonempty (List.eq_nil_of_length_eq_zero empty)
  · change 48 + inputs.length * 32 + _ + _ ≠ 0
    omega

theorem Holds.planSemanticBatch
    (frozen : owner.frozen = true) :
    planSemanticBatch limits owner = some (exactPlan inputs) := by
  have sealed_ := holds.frozen frozen
  have size : owner.size = owner.records.length := if_pos frozen
  have records : (mapPrefix recordOf [] inputs).foldlM
      (SemanticBatch.planRecord limits owner) ({}, 0) =
        some (planOf inputs) :=
    holds.planRecords sealed_.small (List.nil_append inputs).symm
  unfold SemanticBatch.planSemanticBatch
  rw [if_neg (by rw [frozen]; nofun), size, List.take_length, holds.records,
    records]
  exact planOffsets_eq_some sealed_.small (holds.plan_valid sealed_)

end

end

end Dxmt9.SemanticBatch
