import Dxmt9.SemanticBatch.EmittedChunk

/-!
# What a batch emits, and which calls are whole

A frozen owner can be planned, and its emission into any destination with room
and alignment writes exactly the stored inputs.  A call that is refused leaves
the owner unchanged, but for a bind whose layout is accepted and whose role is
not valid.
-/

namespace Dxmt9.SemanticBatch

open Dxmt9.ChunkBuilder
open Dxmt9.Memory
open Dxmt9.Order
open Dxmt9.Transition

section

variable {limits : Limits} {inputs : List BatchRecordInput}
  {owner : ImmutableSemanticBatchOwner} {destination : List UInt8}

section

variable (holds : Holds limits inputs owner)
  (sealed_ : Sealed owner.role inputs)
  (room : (exactPlan inputs).wireBytes ≤ destination.length)
include holds sealed_ room

/-- A reader finds every part of the chunk. -/
theorem Holds.described {part : Part}
    (live : part.Live inputs) {address : Nat}
    (within : part.Within inputs address) :
    Described (emittedBytes owner (exactPlan inputs) destination) address := by
  have header := holds.headerExact sealed_
  have records := holds.readRecords sealed_ room
  obtain ⟨start, stop⟩ := within
  unfold Described
  simp only [holds.readHeader sealed_.small room, header.recordTable,
    header.records, header.handleTable, header.handles, header.arena, records]
  cases part with
  | header =>
      change address < 0 + wireHeaderSize at stop
      rw [Nat.zero_add] at stop
      exact Or.inl stop
  | record index =>
      change index < inputs.length at live
      change 48 + index * 32 ≤ address at start
      change address < 48 + index * 32 + 32 at stop
      refine Or.inr (Or.inl ?_)
      change 48 ≤ address ∧ address < 48 + inputs.length * 32
      omega
  | handle index =>
      change index < (owned inputs).length at live
      change SemanticBatch.handleTable inputs + index * 16 ≤ address at start
      change address < SemanticBatch.handleTable inputs + index * 16 + 16
        at stop
      refine Or.inr (Or.inr (Or.inl ?_))
      change SemanticBatch.handleTable inputs ≤ address ∧
        address < SemanticBatch.handleTable inputs + (owned inputs).length * 16
      omega
  | payload index =>
      have place := sealed_.small.place_eq live
      refine Or.inr (Or.inr (Or.inr ⟨wireRecordAt inputs index, ?_, ?_⟩))
      · exact List.mem_map_of_mem (List.mem_range.mpr live)
      · rw [place.1, place.2]
        exact ⟨start, stop⟩

theorem Holds.emittedExactly :
    EmittedExactly inputs owner.role (exactPlan inputs).wireBytes destination
      (emittedBytes owner (exactPlan inputs) destination) := by
  have small := sealed_.small
  have header := holds.headerExact sealed_
  have read := holds.readHeader small room
  have records := holds.readRecords sealed_ room
  have role := holds.role sealed_.bound
  have recordBytes : owner.role.recordBytes.toNat =
      inputs.length * wireRecordHeaderSize := by
    rw [role.recordBytes, sealed_.recordCount]
  have handleBytes : owner.role.handleBytes.toNat =
      (owned inputs).length * wireHandleEntrySize := by
    rw [role.handleBytes, sealed_.handleCount]
  have length : (fillBytes destination 0 (exactPlan inputs).wireBytes
      0).length = destination.length := length_fillBytes ..
  have cleared : (exactPlan inputs).wireBytes ≤
      (fillBytes destination 0 (exactPlan inputs).wireBytes 0).length := by
    rw [length]
    exact room
  constructor
  case length =>
    unfold emittedBytes
    rw [length_writeBlocks, length]
  case content =>
    rw [records, List.map_map]
    have contents : inputs.map BatchRecordInput.content =
        (List.range inputs.length).map fun index =>
          (inputAt inputs index).content := by
      conv => lhs; rw [← map_getD_range inputs {}, List.map_map]
      rfl
    rw [contents]
    apply List.map_congr_left
    intro index member
    exact holds.readContent sealed_ room (List.mem_range.mp member)
  case apart =>
    rw [records]
    exact pairwise_places small
  case inside =>
    rw [records, read, header.arenaSize]
    intro record member
    obtain ⟨index, inside, rfl⟩ := List.mem_map.mp member
    have live := List.mem_range.mp inside
    rw [(small.place_eq live).1, (small.place_eq live).2]
    exact stopAt_le_end live
  case aligned =>
    rw [records, read, header.arena]
    intro record member
    obtain ⟨index, inside, rfl⟩ := List.mem_map.mp member
    have live := List.mem_range.mp inside
    rw [(small.place_eq live).1]
    exact holds.place_aligned live
  case recordTable =>
    rw [read]
    exact header.recordTable
  case recordBytes => rw [read, header.records, recordBytes]
  case handleTable =>
    rw [read, header.handleTable, recordBytes]
    rfl
  case handleBytes => rw [read, header.handles, handleBytes]
  case payloadArena =>
    rw [read, header.arena, recordBytes, handleBytes]
    rfl
  case payloadBytes =>
    rw [read, ← UInt32.toNat_inj, header.arenaSize, sealed_.payloadBytes]
  case wire =>
    rw [recordBytes, handleBytes, sealed_.payloadBytes]
    rfl
  case zero =>
    intro address inside bare
    have outside : ∀ part : Part, part.Live inputs →
        ¬ part.Within inputs address := fun part live within =>
      bare (holds.described sealed_ room live within)
    refine Eq.trans (holds.outside small cleared outside) ?_
    rw [byteAt_fillBytes room, if_pos ⟨Nat.zero_le _, inside⟩]
  case beyond =>
    intro address behind
    have outside : ∀ part : Part, part.Live inputs →
        ¬ part.Within inputs address := by
      intro part live within
      have stop := Part.stop_le live
      have last := within.2
      change SemanticBatch.payloadArena inputs + canonicalEnd inputs ≤
        address at behind
      omega
    refine Eq.trans (holds.outside small cleared outside) ?_
    rw [byteAt_fillBytes room, if_neg (by omega)]

end

theorem Holds.emitExactFixed (holds : Holds limits inputs owner)
    (frozen : owner.frozen = true) {destination : Destination}
    (room : (exactPlan inputs).wireBytes ≤ destination.bytes.length)
    (aligned : destination.address.toNat % wireHandleEntryAlignment = 0) :
    let bytes := emittedBytes owner (exactPlan inputs) destination.bytes
    emitExactFixed limits owner (exactPlan inputs) destination =
      { bytes := bytes
        out :=
          { transport :=
              emittedTransport owner (exactPlan inputs) destination.address
            wire := bytes.take (exactPlan inputs).wireBytes
            wireBytes := (exactPlan inputs).wireBytes }
        accepted := true } := by
  have sealed_ := holds.frozen frozen
  have plan := holds.planSemanticBatch frozen
  have valid := holds.plan_valid sealed_
  have header := holds.headerExact sealed_
  have written := holds.emittedExactly sealed_ room
  have nonempty : (exactPlan inputs).wireBytes ≠ 0 := by
    change 48 + inputs.length * 32 + _ + _ ≠ 0
    omega
  have count : (emittedHeader (exactPlan inputs)).recordCount ≠ 0 := by
    intro zero
    have records := header.records
    rw [zero] at records
    exact sealed_.nonempty (List.eq_nil_of_length_eq_zero records.symm)
  intro bytes
  have whole : (bytes.take (exactPlan inputs).wireBytes).length =
      (exactPlan inputs).wireBytes := by
    rw [List.length_take, written.length]
    exact Nat.min_eq_left room
  unfold SemanticBatch.emitExactFixed
  rw [if_neg]
  · apply congrArg (EmitResult.mk bytes _)
    unfold ExactFixedEmission.valid
    simp only [Bool.and_eq_true, bne_iff_ne, beq_iff_eq]
    exact ⟨⟨nonempty, whole⟩, count⟩
  · rintro (replanned | invalid | short | off)
    · exact replanned plan
    · exact absurd (valid.symm.trans invalid) nofun
    · exact Nat.not_lt.mpr room short
    · exact off aligned

end

/-- A refused call leaves the owner unchanged. -/
def Atomic (limits : Limits) (owner : ImmutableSemanticBatchOwner)
    (call : BatchCall) : Prop :=
  (callOwner limits owner call).2 = false →
    (callOwner limits owner call).1 = owner

/-- A bind that the tests of the layout let through names records, and both
or neither of the capture token and the event ordinal. -/
def BindsWhole (owner : ImmutableSemanticBatchOwner) : BatchCall → Prop
  | .bind transport =>
      owner.frozen = true ∨ owner.role.bound = true ∨
        ImmutableSemanticBatchOwner.RefusesTransport transport ∨
        (transport.header.recordCount ≠ 0 ∧
          (transport.renderTapeCaptureToken = 0 ↔
            transport.renderTapeEventOrdinal = 0))
  | _ => True

/-- The role of an accepted layout is valid when it names records and its
token agrees with its ordinal. -/
theorem valid_roleOf_iff {transport : D9CCommandChunkSegmentedTransportV1}
    (accepted : ¬ ImmutableSemanticBatchOwner.RefusesTransport transport) :
    (ImmutableSemanticBatchOwner.roleOf transport).valid = true ↔
      transport.header.recordCount ≠ 0 ∧
        (transport.renderTapeCaptureToken = 0 ↔
          transport.renderTapeEventOrdinal = 0) := by
  have exact := roleExact_of_accepted accepted
  have fits := exact.fits
  rw [← exact.recordBytes, ← exact.handleBytes] at fits
  have sizes :
      (ImmutableSemanticBatchOwner.roleOf transport).recordBytes.toNat +
        (ImmutableSemanticBatchOwner.roleOf transport).handleBytes.toNat +
        (ImmutableSemanticBatchOwner.roleOf transport).payloadBytes.toNat ≤
          maxTotalWireBytes := by omega
  have tokens : ((transport.renderTapeCaptureToken == 0) ==
      (transport.renderTapeEventOrdinal == 0)) = true ↔
        (transport.renderTapeCaptureToken = 0 ↔
          transport.renderTapeEventOrdinal = 0) := by
    rw [beq_iff_eq, Bool.eq_iff_iff, beq_iff_eq, beq_iff_eq]
  rw [← tokens, ← bne_iff_ne]
  unfold FixedRoleOwnership.valid
  rw [Bool.and_eq_true, Bool.and_eq_true, Bool.and_eq_true, decide_eq_true_iff]
  constructor
  · rintro ⟨⟨⟨-, records⟩, tokens⟩, -⟩
    exact ⟨records, tokens⟩
  · rintro ⟨records, tokens⟩
    exact ⟨⟨⟨rfl, records⟩, tokens⟩, sizes⟩

theorem atomic_iff (limits : Limits) (owner : ImmutableSemanticBatchOwner)
    (call : BatchCall) : Atomic limits owner call ↔ BindsWhole owner call := by
  cases call with
  | bind transport =>
      change ((owner.bindSegmentedOwnership transport).2 = false →
        (owner.bindSegmentedOwnership transport).1 = owner) ↔ _
      unfold ImmutableSemanticBatchOwner.bindSegmentedOwnership BindsWhole
      by_cases refused : owner.frozen ∨ owner.role.bound ∨
          ImmutableSemanticBatchOwner.RefusesTransport transport
      · rw [if_pos refused]
        apply iff_of_true (fun _ => rfl)
        rcases refused with frozen | bound | layout
        · exact Or.inl frozen
        · exact Or.inr (Or.inl bound)
        · exact Or.inr (Or.inr (Or.inl layout))
      · rw [if_neg refused]
        simp only [not_or] at refused
        obtain ⟨frozen, bound, layout⟩ := refused
        have valid := valid_roleOf_iff layout
        constructor
        · intro atomic
          refine Or.inr (Or.inr (Or.inr (valid.mp ?_)))
          by_contra invalid
          have same := atomic (eq_false_of_ne_true invalid)
          -- The owner keeps its unbound role only if it is not stored.
          have stored := congrArg (fun state => state.role.bound) same
          exact bound stored.symm
        · rintro (isFrozen | isBound | refused | whole) invalid
          · exact absurd isFrozen frozen
          · exact absurd isBound bound
          · exact absurd refused layout
          · exact absurd ((valid.mpr whole).symm.trans invalid) nofun
  | append input =>
      change ((owner.append limits input).2 = false →
        (owner.append limits input).1 = owner) ↔ True
      refine iff_of_true ?_ trivial
      rcases append_cases (rfl : owner.append limits input = _) with
        refused | ⟨policy, rule, alignedPayload, stored, -⟩
      · rw [refused]
        exact fun _ => rfl
      · rw [stored]
        exact nofun
  | freeze =>
      change (owner.freeze.2 = false → owner.freeze.1 = owner) ↔ True
      refine iff_of_true ?_ trivial
      rcases freeze_cases (rfl : owner.freeze = _) with
        refused | ⟨stored, -⟩
      · rw [refused]
        exact fun _ => rfl
      · rw [stored]
        exact nofun

/-- A frozen owner can be planned, and every emission with room and alignment
is accepted and writes exactly the inputs. -/
def Emits (limits : Limits) (inputs : List BatchRecordInput)
    (owner : ImmutableSemanticBatchOwner) : Prop :=
  owner.frozen = true →
    ∃ plan, planSemanticBatch limits owner = some plan ∧
      ∀ destination : Destination,
        plan.wireBytes ≤ destination.bytes.length →
        destination.address.toNat % wireHandleEntryAlignment = 0 →
        let result := emitExactFixed limits owner plan destination
        result.accepted = true ∧
          EmittedExactly inputs owner.role plan.wireBytes destination.bytes
            result.bytes ∧
          result.out.wire = result.bytes.take plan.wireBytes ∧
          result.out.transport.header = readHeader result.bytes ∧
          result.out.transport.recordBytes = owner.role.recordBytes ∧
          result.out.transport.handleBytes = owner.role.handleBytes ∧
          result.out.transport.payloadBytes = owner.role.payloadBytes

theorem Holds.emits {limits : Limits} {inputs : List BatchRecordInput}
    {owner : ImmutableSemanticBatchOwner}
    (holds : Holds limits inputs owner) : Emits limits inputs owner := by
  intro frozen
  have sealed_ := holds.frozen frozen
  have role := holds.role sealed_.bound
  have header := holds.headerExact sealed_
  have count : (exactPlan inputs).records.length = inputs.length :=
    length_mapPrefix [] inputs
  refine ⟨exactPlan inputs, holds.planSemanticBatch frozen, ?_⟩
  intro destination room aligned
  have emitted := holds.emitExactFixed frozen room aligned
  simp only [emitted]
  refine ⟨trivial, holds.emittedExactly sealed_ room, trivial, ?_, ?_, ?_, ?_⟩
  · exact (holds.readHeader sealed_.small room).symm
  · change UInt32.ofNat (_ * wireRecordHeaderSize) = _
    rw [count, ← sealed_.recordCount, ← role.recordBytes]
    exact UInt32.ofNat_toNat
  · change UInt32.ofNat ((owned _).length * wireHandleEntrySize) = _
    rw [← sealed_.handleCount, ← role.handleBytes]
    exact UInt32.ofNat_toNat
  · change UInt32.ofNat (canonicalEnd _) = _
    rw [← sealed_.payloadBytes]
    exact UInt32.ofNat_toNat

/-- In every run the calls are all atomic exactly when no bind stores an
invalid role, and what is frozen is emitted as it was appended. -/
theorem calls_whole (limits : Limits) (calls : List BatchCall) :
    (Guarded (stepOwner limits) (Atomic limits) {} calls ↔
      Guarded (stepOwner limits) BindsWhole {} calls) ∧
      Emits limits (recordedBy limits {} calls)
        (run (stepOwner limits) {} calls) :=
  ⟨guarded_congr (atomic_iff limits),
    ((holds_initial limits).run calls).emits⟩

/-- A transport of one record without a capture. -/
def oneRecordTransport : D9CCommandChunkSegmentedTransportV1 :=
  { header :=
      { version := 2, headerSize := 48, recordHeaderSize := 32
        handleEntrySize := 16, recordTableOffset := 48, recordCount := 1
        handleTableOffset := 80, payloadArenaOffset := 80
        payloadArenaSize := 56 }
    records := ⟨4096, 0⟩, recordBytes := 32
    payload := ⟨8192, 0⟩, payloadBytes := 56 }

/-- A capture token without an event ordinal: the bind is refused, its role
stays, and the correct bind that follows is refused as well. -/
theorem refused_bind_stays :
    let limits : Limits := ⟨64, 1048576, 1024⟩
    let halfCaptured := { oneRecordTransport with renderTapeCaptureToken := 7 }
    let left := callOwner limits {} (.bind halfCaptured)
    left.2 = false ∧ left.1 ≠ {} ∧
      (callOwner limits {} (.bind oneRecordTransport)).2 = true ∧
      (callOwner limits left.1 (.bind oneRecordTransport)).2 = false := by
  decide

end Dxmt9.SemanticBatch
