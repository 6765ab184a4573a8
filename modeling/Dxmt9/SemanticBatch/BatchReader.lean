import Dxmt9.SemanticBatch.BatchOwner

/-!
# Reading a chunk

What a reader of the canonical chunk finds: the header at the start, the
record headers and the handle entries in their tables, and the payloads in the
arena.
-/

namespace Dxmt9.SemanticBatch

open Dxmt9.ChunkBuilder
open Dxmt9.Memory

def readHeader (bytes : List UInt8) : D9CCommandChunkWireHeader :=
  { version := readWord bytes 0
    headerSize := readWord bytes 4
    recordHeaderSize := readWord bytes 8
    handleEntrySize := readWord bytes 12
    recordTableOffset := readWord bytes 16
    recordCount := readWord bytes 20
    handleTableOffset := readWord bytes 24
    handleCount := readWord bytes 28
    payloadArenaOffset := readWord bytes 32
    payloadArenaSize := readWord bytes 36
    reserved0 := readWord bytes 40
    reserved1 := readWord bytes 44 }

def readRecordHeader (bytes : List UInt8) (offset : Nat) :
    D9CCommandChunkWireRecordHeader :=
  { type := readWord bytes offset
    flags := readWord bytes (offset + 4)
    payloadOffset := readWord bytes (offset + 8)
    payloadSize := readWord bytes (offset + 12)
    firstHandle := readWord bytes (offset + 16)
    handleCount := readWord bytes (offset + 20)
    reserved0 := readWord bytes (offset + 24)
    reserved1 := readWord bytes (offset + 28) }

def readHandleEntry (bytes : List UInt8) (offset : Nat) :
    PeCommittedSemanticIdentityValue :=
  { kind := readWord bytes offset
    generation := readWord bytes (offset + 4)
    objectId := UInt64.ofNat ((readWord bytes (offset + 8)).toNat +
      2 ^ 32 * (readWord bytes (offset + 12)).toNat) }

/-- The record headers, in the order of the table. -/
def readRecords (bytes : List UInt8) :
    List D9CCommandChunkWireRecordHeader :=
  let header := readHeader bytes
  (List.range header.recordCount.toNat).map fun index =>
    readRecordHeader bytes
      (header.recordTableOffset.toNat + index * wireRecordHeaderSize)

/-- What a record carries. -/
structure RecordContent where
  recordType : UInt32
  recordFlags : UInt32
  payload : List UInt8
  identities : List PeCommittedSemanticIdentityValue
deriving DecidableEq

def readContent (bytes : List UInt8)
    (record : D9CCommandChunkWireRecordHeader) : RecordContent :=
  let header := readHeader bytes
  { recordType := record.type
    recordFlags := record.flags
    payload := slice bytes
      (header.payloadArenaOffset.toNat + record.payloadOffset.toNat)
      record.payloadSize.toNat
    identities := (List.range record.handleCount.toNat).map fun index =>
      readHandleEntry bytes (header.handleTableOffset.toNat +
        (record.firstHandle.toNat + index) * wireHandleEntrySize) }

/-- What an input carries. -/
def BatchRecordInput.content (input : BatchRecordInput) : RecordContent :=
  { recordType := input.recordType
    recordFlags := input.recordFlags
    payload := input.exactPayload
    identities := input.identities }

section

variable {bytes : List UInt8} {offset : Nat}

theorem readHeader_of_stores {header : D9CCommandChunkWireHeader}
    (stores : Stores bytes ⟨0, wordsBytes header.words⟩) :
    readHeader bytes = header := by
  have word : ∀ (index : Nat) (inside : index < header.words.length),
      readWord bytes (4 * index) = header.words[index] := by
    intro index inside
    have read := stores.readWord_eq inside
    rw [Nat.zero_add] at read
    exact read
  have count : header.words.length = 12 := rfl
  apply D9CCommandChunkWireHeader.ext
  · exact word 0 (by omega)
  · exact word 1 (by omega)
  · exact word 2 (by omega)
  · exact word 3 (by omega)
  · exact word 4 (by omega)
  · exact word 5 (by omega)
  · exact word 6 (by omega)
  · exact word 7 (by omega)
  · exact word 8 (by omega)
  · exact word 9 (by omega)
  · exact word 10 (by omega)
  · exact word 11 (by omega)

theorem readRecordHeader_of_stores {record : D9CCommandChunkWireRecordHeader}
    (stores : Stores bytes ⟨offset, wordsBytes record.words⟩) :
    readRecordHeader bytes offset = record := by
  have word : ∀ (index : Nat) (inside : index < record.words.length),
      readWord bytes (offset + 4 * index) = record.words[index] :=
    fun index inside => stores.readWord_eq inside
  have count : record.words.length = 8 := rfl
  apply D9CCommandChunkWireRecordHeader.ext
  · exact word 0 (by omega)
  · exact word 1 (by omega)
  · exact word 2 (by omega)
  · exact word 3 (by omega)
  · exact word 4 (by omega)
  · exact word 5 (by omega)
  · exact word 6 (by omega)
  · exact word 7 (by omega)

theorem objectId_halves (objectId : UInt64) :
    UInt64.ofNat (objectId.toUInt32.toNat +
      2 ^ 32 * (objectId >>> 32).toUInt32.toNat) = objectId := by
  have bound := objectId.toNat_lt
  have high : (objectId >>> 32).toUInt32.toNat = objectId.toNat / 2 ^ 32 := by
    rw [UInt64.toNat_toUInt32, UInt64.toNat_shiftRight]
    change objectId.toNat >>> 32 % 2 ^ 32 = _
    rw [Nat.shiftRight_eq_div_pow]
    omega
  rw [high, UInt64.toNat_toUInt32]
  have whole : objectId.toNat % 2 ^ 32 + 2 ^ 32 * (objectId.toNat / 2 ^ 32) =
      objectId.toNat := Nat.mod_add_div _ _
  rw [whole]
  exact UInt64.ofNat_toNat

theorem readHandleEntry_of_stores {entry : D9CCommandChunkWireHandleEntry}
    (stores : Stores bytes ⟨offset, wordsBytes entry.words⟩) :
    readHandleEntry bytes offset =
      ⟨entry.kind, entry.generation, entry.objectId⟩ := by
  have word : ∀ (index : Nat) (inside : index < entry.words.length),
      readWord bytes (offset + 4 * index) = entry.words[index] :=
    fun index inside => stores.readWord_eq inside
  have count : entry.words.length = 4 := rfl
  have low : readWord bytes (offset + 8) = entry.objectId.toUInt32 :=
    word 2 (by omega)
  have high : readWord bytes (offset + 12) =
      (entry.objectId >>> 32).toUInt32 := word 3 (by omega)
  apply PeCommittedSemanticIdentityValue.ext
  · exact word 0 (by omega)
  · exact word 1 (by omega)
  · unfold readHandleEntry
    rw [low, high]
    exact objectId_halves entry.objectId

end

end Dxmt9.SemanticBatch
