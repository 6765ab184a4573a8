import Dxmt9.SemanticBatch.EmittedParts

/-!
# Reading an emitted chunk

From the chunk of a frozen owner exactly the stored inputs are read back, with
their payloads apart and aligned.
-/

namespace Dxmt9.SemanticBatch

open Dxmt9.ChunkBuilder
open Dxmt9.Memory
open Dxmt9.Order
open Dxmt9.Transition

/-- The addresses of the tables and payloads that a reader finds. -/
def Described (bytes : List UInt8) (address : Nat) : Prop :=
  let header := readHeader bytes
  address < wireHeaderSize ∨
    (header.recordTableOffset.toNat ≤ address ∧
      address < header.recordTableOffset.toNat +
        header.recordCount.toNat * wireRecordHeaderSize) ∨
    (header.handleTableOffset.toNat ≤ address ∧
      address < header.handleTableOffset.toNat +
        header.handleCount.toNat * wireHandleEntrySize) ∨
    ∃ record ∈ readRecords bytes,
      header.payloadArenaOffset.toNat + record.payloadOffset.toNat ≤
        address ∧
      address < header.payloadArenaOffset.toNat +
        record.payloadOffset.toNat + record.payloadSize.toNat

/-- A destination after the emission of a batch: what is read from it, where
its payloads lie, and its other bytes. -/
structure EmittedExactly (inputs : List BatchRecordInput)
    (role : FixedRoleOwnership) (wireBytes : Nat)
    (before after : List UInt8) : Prop where
  length : after.length = before.length
  content : (readRecords after).map (readContent after) =
    inputs.map BatchRecordInput.content
  apart : (readRecords after).Pairwise fun first second =>
    first.payloadOffset.toNat + first.payloadSize.toNat ≤
      second.payloadOffset.toNat
  inside : ∀ record ∈ readRecords after,
    record.payloadOffset.toNat + record.payloadSize.toNat ≤
      (readHeader after).payloadArenaSize.toNat
  aligned : ∀ record ∈ readRecords after, ∃ rule,
    recordRule record.type = some rule ∧
      ((readHeader after).payloadArenaOffset.toNat +
        record.payloadOffset.toNat) % rule.payloadAlignment.toNat = 0
  recordTable : (readHeader after).recordTableOffset.toNat =
    wireHeaderSize
  recordBytes : (readHeader after).recordCount.toNat *
    wireRecordHeaderSize = role.recordBytes.toNat
  handleTable : (readHeader after).handleTableOffset.toNat =
    wireHeaderSize + role.recordBytes.toNat
  handleBytes : (readHeader after).handleCount.toNat *
    wireHandleEntrySize = role.handleBytes.toNat
  payloadArena : (readHeader after).payloadArenaOffset.toNat =
    wireHeaderSize + role.recordBytes.toNat + role.handleBytes.toNat
  payloadBytes : (readHeader after).payloadArenaSize = role.payloadBytes
  wire : wireBytes = wireHeaderSize + role.recordBytes.toNat +
    role.handleBytes.toNat + role.payloadBytes.toNat
  zero : ∀ address < wireBytes, ¬ Described after address →
    byteAt after address = 0
  beyond : ∀ address, wireBytes ≤ address →
    byteAt after address = byteAt before address

section

variable {limits : Limits} {inputs : List BatchRecordInput}
  {owner : ImmutableSemanticBatchOwner} {destination : List UInt8}

/-- The bytes after the emission. -/
def emittedBytes (owner : ImmutableSemanticBatchOwner)
    (plan : SemanticBatchCountPlan) (destination : List UInt8) :
    List UInt8 :=
  writeBlocks (fillBytes destination 0 plan.wireBytes 0)
    (emittedBlocks owner plan)

section

variable (holds : Holds limits inputs owner) (small : Small inputs)
  (room : (exactPlan inputs).wireBytes ≤ destination.length)
include holds small room

theorem Holds.stored
    {part : Part} (live : part.Live inputs) :
    Stores (emittedBytes owner (exactPlan inputs) destination)
      (part.block owner (exactPlan inputs)) := by
  apply holds.stores small _ live
  rw [length_fillBytes]
  exact room

theorem Holds.readHeader :
    readHeader (emittedBytes owner (exactPlan inputs) destination) =
      emittedHeader (exactPlan inputs) := by
  have live : Part.header.Live inputs := trivial
  exact readHeader_of_stores (holds.stored small room live)

end

/-- The record header of an input. -/
def wireRecordAt (inputs : List BatchRecordInput) (index : Nat) :
    D9CCommandChunkWireRecordHeader :=
  { type := (inputAt inputs index).recordType
    flags := (inputAt inputs index).recordFlags
    payloadOffset := UInt32.ofNat (placeAt inputs index)
    payloadSize := UInt32.ofNat (sizeAt inputs index)
    firstHandle := UInt32.ofNat (owned (inputs.take index)).length
    handleCount := UInt32.ofNat (inputAt inputs index).identities.length }

variable {index : Nat}

section

variable (holds : Holds limits inputs owner) (small : Small inputs)
  (room : (exactPlan inputs).wireBytes ≤ destination.length)
include holds small room

theorem Holds.readRecordHeader
    (inside : index < inputs.length) :
    readRecordHeader (emittedBytes owner (exactPlan inputs) destination)
      (wireHeaderSize + index * wireRecordHeaderSize) =
        wireRecordAt inputs index := by
  have live : (Part.record index).Live inputs := inside
  have read := readRecordHeader_of_stores (holds.stored small room live)
  have emitted : emittedRecord owner (exactPlan inputs) index =
      wireRecordAt inputs index := by
    unfold emittedRecord
    rw [holds.record_eq inside, planned_eq inside]
    rfl
  rw [← emitted]
  exact read

theorem Holds.readHandleEntry
    (inside : index < (owned inputs).length) :
    readHandleEntry (emittedBytes owner (exactPlan inputs) destination)
      (SemanticBatch.handleTable inputs + index * wireHandleEntrySize) =
        (owned inputs).getD index {} := by
  have live : (Part.handle index).Live inputs := inside
  exact readHandleEntry_of_stores (holds.stored small room live)

theorem Holds.readPayload
    (inside : index < inputs.length) :
    slice (emittedBytes owner (exactPlan inputs) destination)
      (SemanticBatch.payloadArena inputs + placeAt inputs index)
      (sizeAt inputs index) = (inputAt inputs index).exactPayload := by
  have live : (Part.payload index).Live inputs := inside
  have read := (holds.stored small room live).slice_eq
  obtain ⟨offset, length⟩ := holds.block_extent small live
  have payload : ((Part.payload index).block owner
      (exactPlan inputs)).bytes = (inputAt inputs index).exactPayload :=
    holds.payload_eq small inside
  rw [offset, length, payload] at read
  exact read

end

/-- The counts and offsets of the emitted header. -/
structure HeaderExact (inputs : List BatchRecordInput)
    (header : D9CCommandChunkWireHeader) : Prop where
  recordTable : header.recordTableOffset.toNat = wireHeaderSize
  records : header.recordCount.toNat = inputs.length
  handleTable : header.handleTableOffset.toNat =
    SemanticBatch.handleTable inputs
  handles : header.handleCount.toNat = (owned inputs).length
  arena : header.payloadArenaOffset.toNat =
    SemanticBatch.payloadArena inputs
  arenaSize : header.payloadArenaSize.toNat = canonicalEnd inputs

theorem Holds.headerExact (holds : Holds limits inputs owner)
    (sealed_ : Sealed owner.role inputs) :
    HeaderExact inputs (emittedHeader (exactPlan inputs)) := by
  have wire := holds.wireBytes_le sealed_
  change SemanticBatch.payloadArena inputs + canonicalEnd inputs ≤
    33554432 at wire
  have arena := @payloadArena_eq inputs
  have table := @handleTable_eq inputs
  have count : (exactPlan inputs).records.length = inputs.length :=
    length_mapPrefix [] inputs
  constructor
  case recordTable => rfl
  case records =>
    change (UInt32.ofNat (exactPlan inputs).records.length).toNat = _
    rw [count]
    exact toNat_ofNat_of_lt (by omega)
  case handleTable =>
    have fits : SemanticBatch.handleTable inputs < 2 ^ 32 := by omega
    exact toNat_ofNat_of_lt fits
  case handles =>
    have fits : (owned inputs).length < 2 ^ 32 := by omega
    exact toNat_ofNat_of_lt fits
  case arena =>
    have fits : SemanticBatch.payloadArena inputs < 2 ^ 32 := by omega
    exact toNat_ofNat_of_lt fits
  case arenaSize =>
    have fits : canonicalEnd inputs < 2 ^ 32 := by omega
    exact toNat_ofNat_of_lt fits

theorem Holds.readRecords (holds : Holds limits inputs owner)
    (sealed_ : Sealed owner.role inputs)
    (room : (exactPlan inputs).wireBytes ≤ destination.length) :
    readRecords (emittedBytes owner (exactPlan inputs) destination) =
      (List.range inputs.length).map (wireRecordAt inputs) := by
  have header := holds.headerExact sealed_
  unfold SemanticBatch.readRecords
  simp only [holds.readHeader sealed_.small room, header.records,
    header.recordTable]
  apply List.map_congr_left
  intro index member
  exact holds.readRecordHeader sealed_.small room (List.mem_range.mp member)

theorem owned_getD (inside : index < inputs.length) {position : Nat}
    (own : position < (inputAt inputs index).identities.length) :
    (owned inputs).getD ((owned (inputs.take index)).length + position) {} =
      (inputAt inputs index).identities.getD position {} := by
  have split := inputAt_split inside
  have whole : owned inputs = owned (inputs.take index) ++
      ((inputAt inputs index).identities ++
        owned (inputs.drop (index + 1))) := by
    have parts := congrArg owned split
    rw [owned_split] at parts
    exact parts
  rw [whole, List.getD_append_right _ _ _ _ (Nat.le_add_right _ _),
    Nat.add_sub_cancel_left, List.getD_append _ _ _ _ own]

theorem owned_fits (inside : index < inputs.length) :
    (owned (inputs.take index)).length +
      (inputAt inputs index).identities.length ≤ (owned inputs).length := by
  have parts := congrArg (fun list => (owned list).length)
    (inputAt_split inside)
  simp only [owned_split, List.length_append] at parts
  omega

theorem map_getD_range {α : Type} (entries : List α) (default : α) :
    (List.range entries.length).map (fun index => entries.getD index default) =
      entries := by
  apply List.ext_getElem
  · rw [List.length_map, List.length_range]
  · intro index left right
    rw [List.getElem_map, List.getElem_range, List.getD_eq_getElem _ _ right]

theorem Holds.readContent (holds : Holds limits inputs owner)
    (sealed_ : Sealed owner.role inputs)
    (room : (exactPlan inputs).wireBytes ≤ destination.length)
    (inside : index < inputs.length) :
    readContent (emittedBytes owner (exactPlan inputs) destination)
      (wireRecordAt inputs index) = (inputAt inputs index).content := by
  have small := sealed_.small
  have header := holds.headerExact sealed_
  have place := small.stopAt inside
  have fits := owned_fits inside
  have handles := small.handles
  have first : (wireRecordAt inputs index).firstHandle.toNat =
      (owned (inputs.take index)).length := toNat_ofNat_of_lt (by omega)
  have count : (wireRecordAt inputs index).handleCount.toNat =
      (inputAt inputs index).identities.length := toNat_ofNat_of_lt (by omega)
  have offset : (wireRecordAt inputs index).payloadOffset.toNat =
      placeAt inputs index := toNat_ofNat_of_lt (by omega)
  have size : (wireRecordAt inputs index).payloadSize.toNat =
      sizeAt inputs index := toNat_ofNat_of_lt (by omega)
  have identities : (List.range
      (inputAt inputs index).identities.length).map (fun position =>
        SemanticBatch.readHandleEntry
          (emittedBytes owner (exactPlan inputs) destination)
          (SemanticBatch.handleTable inputs +
            ((owned (inputs.take index)).length + position) *
              wireHandleEntrySize)) = (inputAt inputs index).identities := by
    refine Eq.trans (List.map_congr_left ?_) (map_getD_range _ {})
    intro position member
    have own := List.mem_range.mp member
    rw [holds.readHandleEntry small room (by omega)]
    exact owned_getD inside own
  unfold SemanticBatch.readContent
  simp only [holds.readHeader small room, header.arena, header.handleTable,
    first, count, offset, size, identities,
    holds.readPayload small room inside]
  rfl

theorem Small.place_eq (small : Small inputs)
    (inside : index < inputs.length) :
    (wireRecordAt inputs index).payloadOffset.toNat = placeAt inputs index ∧
      (wireRecordAt inputs index).payloadSize.toNat = sizeAt inputs index := by
  have place := small.stopAt inside
  exact ⟨toNat_ofNat_of_lt (by omega), toNat_ofNat_of_lt (by omega)⟩

theorem pairwise_places (small : Small inputs) :
    ((List.range inputs.length).map (wireRecordAt inputs)).Pairwise
      fun first second => first.payloadOffset.toNat +
        first.payloadSize.toNat ≤ second.payloadOffset.toNat := by
  rw [List.pairwise_map]
  refine List.Pairwise.imp_of_mem ?_ List.pairwise_lt_range
  intro first second firstMember secondMember before
  have firstPlace := small.place_eq (List.mem_range.mp firstMember)
  have secondPlace := small.place_eq (List.mem_range.mp secondMember)
  rw [firstPlace.1, firstPlace.2, secondPlace.1]
  exact stopAt_le_placeAt before (List.mem_range.mp secondMember)

theorem Holds.place_aligned (holds : Holds limits inputs owner)
    (inside : index < inputs.length) :
    ∃ rule, recordRule (inputAt inputs index).recordType = some rule ∧
      (SemanticBatch.payloadArena inputs + placeAt inputs index) %
        rule.payloadAlignment.toNat = 0 := by
  obtain ⟨-, ⟨rule, ruleRow, aligns⟩, -⟩ := holds.placed
    (inputs.take index) (inputAt inputs index) (inputs.drop (index + 1))
    (inputAt_split inside)
  have divides : ∀ row ∈ kRecordRules,
      16 % row.2.payloadAlignment.toNat = 0 := by decide
  obtain ⟨front, back, split, -⟩ := List.lookup_eq_some_iff.mp ruleRow
  have step := divides ((inputAt inputs index).recordType, rule) (by
    rw [split]
    exact List.mem_append_right _ List.mem_cons_self)
  have place : placeAt inputs index % rule.payloadAlignment.toNat = 0 := by
    have value := (semanticBatchAlignUp_eq_some aligns).2
    unfold placeAt
    rw [value]
    exact alignedUp_mod _ _
  have arena : SemanticBatch.payloadArena inputs %
      rule.payloadAlignment.toNat = 0 := by
    apply Nat.mod_eq_zero_of_dvd
    refine Nat.dvd_trans (Nat.dvd_of_mod_eq_zero step) ?_
    apply Nat.dvd_of_mod_eq_zero
    rw [payloadArena_eq]
    omega
  refine ⟨rule, ruleRow, ?_⟩
  rw [Nat.add_mod, arena, place]
  exact Nat.zero_mod _

end

end Dxmt9.SemanticBatch
