import Dxmt9.Order.PrefixMap
import Dxmt9.SemanticBatch.BatchOwner

/-!
# The owner over whole runs

The accepted inputs determine what the owner stores: its records, its packed
payload, its identities and the padded size.  A bound role has the sizes that
its counts demand, and a frozen owner has the counts of its role.
-/

namespace Dxmt9.SemanticBatch

open Dxmt9.ChunkBuilder
open Dxmt9.Order
open Dxmt9.Transition

/-! ## What the inputs determine -/

def packed (inputs : List BatchRecordInput) : List UInt8 :=
  inputs.flatMap (·.exactPayload)

def owned (inputs : List BatchRecordInput) :
    List PeCommittedSemanticIdentityValue :=
  inputs.flatMap (·.identities)

/-- The alignment that the rule of the record demands. -/
def ruleAlignment (input : BatchRecordInput) : Nat :=
  ((recordRule input.recordType).map (·.payloadAlignment.toNat)).getD 1

/-- The padded size of the payloads. -/
def canonicalEnd (inputs : List BatchRecordInput) : Nat :=
  inputs.foldl
    (fun stop input =>
      alignedUp stop (ruleAlignment input) + input.exactPayload.length) 0

/-- The place of a payload behind those before it. -/
def payloadStart (before : List BatchRecordInput) (input : BatchRecordInput) :
    Nat :=
  alignedUp (canonicalEnd before) (ruleAlignment input)

/-- The record of an input behind those before it. -/
def recordOf (before : List BatchRecordInput) (input : BatchRecordInput) :
    OwnedBatchRecord :=
  ImmutableSemanticBatchOwner.ownedRecord
    { payload := packed before, identities := owned before } input
    ((peSemanticProducerPolicy input.recordType).getD ⟨.DrawPrimitive, .Draw⟩)

section

variable (before : List BatchRecordInput) (input : BatchRecordInput)

theorem packed_snoc :
    packed (before ++ [input]) = packed before ++ input.exactPayload := by
  unfold packed
  rw [List.flatMap_append, List.flatMap_singleton]

theorem owned_snoc :
    owned (before ++ [input]) = owned before ++ input.identities := by
  unfold owned
  rw [List.flatMap_append, List.flatMap_singleton]

theorem canonicalEnd_snoc :
    canonicalEnd (before ++ [input]) =
      payloadStart before input + input.exactPayload.length := by
  unfold canonicalEnd
  rw [List.foldl_append]
  rfl

end

/-- What the tests of `append` say about the payload of an input. -/
structure Placed (limits : Limits) (before : List BatchRecordInput)
    (input : BatchRecordInput) : Prop where
  nonempty : input.exactPayload ≠ []
  aligns : ∃ rule, recordRule input.recordType = some rule ∧
    semanticBatchAlignUp (canonicalEnd before) rule.payloadAlignment =
      some (payloadStart before input)
  fits : payloadStart before input + input.exactPayload.length ≤
    limits.maxPayloadBytes

/-- The sizes of a role are those of its counts, and the chunk fits. -/
structure RoleExact (role : FixedRoleOwnership) : Prop where
  recordBytes : role.recordBytes.toNat =
    role.recordCount.toNat * wireRecordHeaderSize
  handleBytes : role.handleBytes.toNat =
    role.handleCount.toNat * wireHandleEntrySize
  fits : wireHeaderSize + role.recordCount.toNat * wireRecordHeaderSize +
    role.handleCount.toNat * wireHandleEntrySize +
      role.payloadBytes.toNat ≤ maxTotalWireBytes

/-- What `freeze` tests. -/
structure Sealed (role : FixedRoleOwnership)
    (inputs : List BatchRecordInput) : Prop where
  bound : role.bound = true
  nonempty : inputs ≠ []
  recordCount : role.recordCount.toNat = inputs.length
  handleCount : role.handleCount.toNat = (owned inputs).length
  payloadBytes : role.payloadBytes.toNat = canonicalEnd inputs

structure Holds (limits : Limits) (inputs : List BatchRecordInput)
    (owner : ImmutableSemanticBatchOwner) : Prop where
  records : owner.records = mapPrefix recordOf [] inputs
  payload : owner.payload = packed inputs
  identities : owner.identities = owned inputs
  canonical : owner.canonicalPayloadBytes = canonicalEnd inputs
  placed : Justified (Placed limits) inputs
  recordLimit : inputs.length ≤ limits.maxRecords
  identityLimit : (owned inputs).length ≤ limits.maxIdentities
  role : owner.role.bound = true → RoleExact owner.role
  frozen : owner.frozen = true → Sealed owner.role inputs

theorem alignedUp_tables (records handles : Nat) :
    alignedUp (wireHeaderSize + records * wireRecordHeaderSize)
        wireHandleEntryAlignment =
      wireHeaderSize + records * wireRecordHeaderSize ∧
    alignedUp (wireHeaderSize + records * wireRecordHeaderSize +
        handles * wireHandleEntrySize) wireWordAlignment =
      wireHeaderSize + records * wireRecordHeaderSize +
        handles * wireHandleEntrySize := by
  constructor
  · apply alignedUp_of_mod (by decide)
    change (48 + records * 32) % 8 = 0
    omega
  · apply alignedUp_of_mod (by decide)
    change (48 + records * 32 + handles * 16) % 4 = 0
    omega

variable {transport : D9CCommandChunkSegmentedTransportV1}

theorem roleExact_of_accepted
    (accepted : ¬ ImmutableSemanticBatchOwner.RefusesTransport transport) :
    RoleExact (ImmutableSemanticBatchOwner.roleOf transport) := by
  unfold ImmutableSemanticBatchOwner.RefusesTransport at accepted
  simp only [not_or, ne_eq, Decidable.not_not, Nat.not_lt] at accepted
  obtain ⟨-, header, -, -, -, records, handles, payload, -, -, wire, -⟩ :=
    accepted
  rw [header] at wire
  obtain ⟨recordTable, handleTable⟩ := alignedUp_tables
    transport.header.recordCount.toNat transport.header.handleCount.toNat
  rw [recordTable, handleTable, ← payload] at wire
  exact ⟨records, handles, wire⟩

variable {result : ImmutableSemanticBatchOwner × Bool}

variable {owner : ImmutableSemanticBatchOwner}

theorem bind_cases
    (eq : owner.bindSegmentedOwnership transport = result) :
    result = (owner, false) ∨
      (result = ({ owner with
          role := ImmutableSemanticBatchOwner.roleOf transport },
        (ImmutableSemanticBatchOwner.roleOf transport).valid) ∧
        owner.frozen = false ∧ owner.role.bound = false ∧
        ¬ ImmutableSemanticBatchOwner.RefusesTransport transport) := by
  rw [← eq]
  clear eq
  unfold ImmutableSemanticBatchOwner.bindSegmentedOwnership
  split
  · exact Or.inl rfl
  · rename_i accepted
    simp only [not_or, Bool.not_eq_true] at accepted
    exact Or.inr ⟨rfl, accepted⟩

/-- An input is refused, or stored with its payload at an aligned place. -/
theorem append_cases {limits : Limits}
    {input : BatchRecordInput}
    (eq : owner.append limits input = result) :
    result = (owner, false) ∨
      ∃ policy rule alignedPayload,
        result = (owner.appended input policy alignedPayload, true) ∧
        owner.frozen = false ∧
        owner.records.length ≠ limits.maxRecords ∧
        input.exactPayload ≠ [] ∧
        input.identities.length ≤
          limits.maxIdentities - owner.identities.length ∧
        peSemanticProducerPolicy input.recordType = some policy ∧
        recordRule input.recordType = some rule ∧
        semanticBatchAlignUp owner.canonicalPayloadBytes
          rule.payloadAlignment = some alignedPayload ∧
        alignedPayload + input.exactPayload.length ≤
          limits.maxPayloadBytes := by
  rw [← eq]
  clear eq
  unfold ImmutableSemanticBatchOwner.append
  split
  · exact Or.inl rfl
  · rename_i accepted
    simp only [not_or, Bool.not_eq_true, Nat.not_lt] at accepted
    obtain ⟨frozen, room, nonempty, -, identities, -, -⟩ := accepted
    split
    · rename_i policy rule policyRow ruleRow
      split
      · exact Or.inl rfl
      · split
        · exact Or.inl rfl
        · split
          · exact Or.inl rfl
          · split
            · exact Or.inl rfl
            · split
              · exact Or.inl rfl
              · rename_i alignedPayload aligns
                split
                · exact Or.inl rfl
                · rename_i fits
                  simp only [not_or, Nat.not_lt] at fits
                  refine Or.inr ⟨policy, rule, alignedPayload, rfl, frozen,
                    room, nonempty, identities, policyRow, ruleRow, aligns,
                    ?_⟩
                  omega
    · exact Or.inl rfl

theorem freeze_cases
    (eq : owner.freeze = result) :
    result = (owner, false) ∨
      (result = ({ owner with frozen := true }, true) ∧
        owner.records ≠ [] ∧ owner.role.valid = true ∧
        owner.role.recordCount.toNat = owner.records.length ∧
        owner.role.handleCount.toNat = owner.identities.length ∧
        owner.role.payloadBytes.toNat = owner.canonicalPayloadBytes) := by
  rw [← eq]
  clear eq
  unfold ImmutableSemanticBatchOwner.freeze
  split
  · exact Or.inl rfl
  · rename_i accepted
    simp only [not_or, ne_eq, Bool.not_eq_false, Decidable.not_not] at accepted
    obtain ⟨-, nonempty, valid, records, handles, -, -, payload⟩ := accepted
    exact Or.inr ⟨rfl, nonempty, valid, records, handles, payload⟩

/-- The input that a call stores, if any. -/
def recorded (limits : Limits) (owner : ImmutableSemanticBatchOwner) :
    BatchCall → List BatchRecordInput
  | .append input => if (owner.append limits input).2 then [input] else []
  | _ => []

/-- The inputs that a run of calls stores, in their order. -/
def recordedBy (limits : Limits) :
    ImmutableSemanticBatchOwner → List BatchCall → List BatchRecordInput
  | _, [] => []
  | owner, call :: rest =>
      recorded limits owner call ++
        recordedBy limits (stepOwner limits owner call) rest

section

variable {limits : Limits} {inputs : List BatchRecordInput}
  {owner : ImmutableSemanticBatchOwner}

theorem holds_initial (limits : Limits) : Holds limits [] {} where
  records := rfl
  payload := rfl
  identities := rfl
  canonical := rfl
  placed := justified_nil _
  recordLimit := Nat.zero_le _
  identityLimit := Nat.zero_le _
  role := nofun
  frozen := nofun

variable {role : FixedRoleOwnership}

theorem Holds.bound (holds : Holds limits inputs owner) (exact : RoleExact role)
    (open_ : owner.frozen = false) :
    Holds limits inputs { owner with role := role } where
  records := holds.records
  payload := holds.payload
  identities := holds.identities
  canonical := holds.canonical
  placed := holds.placed
  recordLimit := holds.recordLimit
  identityLimit := holds.identityLimit
  role := fun _ => exact
  frozen := fun frozen => absurd (open_.symm.trans frozen) nofun

theorem Holds.appended (holds : Holds limits inputs owner)
    {input : BatchRecordInput} {policy : PeSemanticProducerPolicyRow}
    {rule : RecordRule} {alignedPayload : Nat}
    (open_ : owner.frozen = false)
    (room : owner.records.length ≠ limits.maxRecords)
    (nonempty : input.exactPayload ≠ [])
    (identities : input.identities.length ≤
      limits.maxIdentities - owner.identities.length)
    (policyRow : peSemanticProducerPolicy input.recordType = some policy)
    (ruleRow : recordRule input.recordType = some rule)
    (aligns : semanticBatchAlignUp owner.canonicalPayloadBytes
      rule.payloadAlignment = some alignedPayload)
    (fits : alignedPayload + input.exactPayload.length ≤
      limits.maxPayloadBytes) :
    Holds limits (inputs ++ [input])
      (owner.appended input policy alignedPayload) := by
  have count : owner.records.length = inputs.length := by
    rw [holds.records, length_mapPrefix]
  have start : alignedPayload = payloadStart inputs input := by
    have value := (semanticBatchAlignUp_eq_some aligns).2
    unfold payloadStart ruleAlignment
    rw [value, ruleRow, holds.canonical]
    rfl
  constructor
  case records =>
    rw [mapPrefix_snoc, ← holds.records]
    apply congrArg (owner.records ++ [·])
    unfold recordOf ImmutableSemanticBatchOwner.ownedRecord
    rw [policyRow, holds.payload, holds.identities]
    rfl
  case payload =>
    rw [packed_snoc, ← holds.payload]
    rfl
  case identities =>
    rw [owned_snoc, ← holds.identities]
    rfl
  case canonical =>
    rw [canonicalEnd_snoc, ← start]
    rfl
  case placed =>
    apply holds.placed.snoc
    rw [holds.canonical, start] at aligns
    rw [start] at fits
    exact ⟨nonempty, ⟨rule, ruleRow, aligns⟩, fits⟩
  case recordLimit =>
    have limit := holds.recordLimit
    rw [count] at room
    rw [List.length_append, List.length_singleton]
    omega
  case identityLimit =>
    have limit := holds.identityLimit
    rw [holds.identities] at identities
    rw [owned_snoc, List.length_append]
    omega
  case role => exact holds.role
  case frozen => exact fun frozen => absurd (open_.symm.trans frozen) nofun

theorem FixedRoleOwnership.bound_of_valid
    (valid : role.valid = true) : role.bound = true := by
  unfold FixedRoleOwnership.valid at valid
  simp only [Bool.and_eq_true] at valid
  exact valid.1.1.1

/-- Every call keeps the owner determined by the stored inputs. -/
theorem Holds.step (holds : Holds limits inputs owner) (call : BatchCall) :
    Holds limits (inputs ++ recorded limits owner call)
      (stepOwner limits owner call) := by
  cases call with
  | bind transport =>
      change Holds limits (inputs ++ [])
        (owner.bindSegmentedOwnership transport).1
      rw [List.append_nil]
      rcases bind_cases (rfl : owner.bindSegmentedOwnership transport = _)
        with refused | ⟨stored, open_, -, accepted⟩
      · rw [refused]
        exact holds
      · rw [stored]
        exact holds.bound (roleExact_of_accepted accepted) open_
  | append input =>
      change Holds limits (inputs ++
        if (owner.append limits input).2 = true then [input] else [])
        (owner.append limits input).1
      rcases append_cases (rfl : owner.append limits input = _) with
        refused | ⟨policy, rule, alignedPayload, stored, open_, room,
          nonempty, identities, policyRow, ruleRow, aligns, fits⟩
      · rw [refused, if_neg nofun, List.append_nil]
        exact holds
      · rw [stored, if_pos rfl]
        exact holds.appended open_ room nonempty identities policyRow ruleRow
          aligns fits
  | freeze =>
      change Holds limits (inputs ++ []) owner.freeze.1
      rw [List.append_nil]
      rcases freeze_cases (rfl : owner.freeze = _) with
        refused | ⟨stored, nonempty, valid, records, handles, payload⟩
      · rw [refused]
        exact holds
      · rw [stored]
        have count : owner.records.length = inputs.length := by
          rw [holds.records, length_mapPrefix]
        refine { holds with frozen := fun _ => ?_ }
        constructor
        case bound => exact FixedRoleOwnership.bound_of_valid valid
        case nonempty =>
          rintro rfl
          exact nonempty (List.eq_nil_of_length_eq_zero count)
        case recordCount => exact records.trans count
        case handleCount => rw [handles, holds.identities]
        case payloadBytes => rw [payload, holds.canonical]

/-- After every run the owner is determined by the stored inputs. -/
theorem Holds.run (holds : Holds limits inputs owner)
    (calls : List BatchCall) :
    Holds limits (inputs ++ recordedBy limits owner calls)
      (Transition.run (stepOwner limits) owner calls) := by
  induction calls generalizing inputs owner with
  | nil =>
      change Holds limits (inputs ++ []) owner
      rw [List.append_nil]
      exact holds
  | cons call rest induction =>
      have later := induction (holds.step call)
      rw [List.append_assoc] at later
      exact later

end

end Dxmt9.SemanticBatch
