import Mathlib.Data.List.Basic
import Dxmt9.Memory.Bytes

/-!
# Command chunks

## The record alphabet

The structural rules of the live record types and, row for row, how replay
treats each of them.
-/

namespace Dxmt9.CpuReady

/-- The type field of a wire record: a live type, or any other value. -/
inductive RecordType where
  | drawPrimitive
  | drawIndexedPrimitive
  | drawPrimitiveUp
  | drawIndexedPrimitiveUp
  | setVsConstF
  | setVsConstI
  | setVsConstB
  | setPsConstF
  | setPsConstI
  | setPsConstB
  | clear
  | present
  | stretchRect
  | colorFill
  | updateTexture
  | updateSurface
  | queryIssue
  | readback
  | applyState
  | reszDepthResolve
  | generateMipmaps
  | other (value : UInt32)
  deriving DecidableEq

/-- The sizes of the fixed payloads. -/
def drawHeaderSize : Nat := 56

def setConstSize : Nat := 8

def clearSize : Nat := 24

def presentSize : Nat := 56

def stretchRectSize : Nat := 56

def colorFillSize : Nat := 32

def updateTextureSize : Nat := 8

def updateSurfaceSize : Nat := 48

def queryIssueSize : Nat := 8

def readbackSize : Nat := 8

def reszDepthResolveSize : Nat := 8

def generateMipmapsSize : Nat := 4

structure RecordRule where
  type : RecordType
  fixedPayloadSize : Nat
  sparseState : Bool

def kRecordRules : List RecordRule :=
  [⟨.drawPrimitive, drawHeaderSize, true⟩,
    ⟨.drawIndexedPrimitive, drawHeaderSize, true⟩,
    ⟨.drawPrimitiveUp, drawHeaderSize, true⟩,
    ⟨.drawIndexedPrimitiveUp, drawHeaderSize, true⟩,
    ⟨.setVsConstF, setConstSize, false⟩,
    ⟨.setVsConstI, setConstSize, false⟩,
    ⟨.setVsConstB, setConstSize, false⟩,
    ⟨.setPsConstF, setConstSize, false⟩,
    ⟨.setPsConstI, setConstSize, false⟩,
    ⟨.setPsConstB, setConstSize, false⟩,
    ⟨.clear, clearSize, false⟩,
    ⟨.present, presentSize, false⟩,
    ⟨.stretchRect, stretchRectSize, false⟩,
    ⟨.colorFill, colorFillSize, false⟩,
    ⟨.updateTexture, updateTextureSize, false⟩,
    ⟨.updateSurface, updateSurfaceSize, false⟩,
    ⟨.queryIssue, queryIssueSize, false⟩,
    ⟨.readback, readbackSize, false⟩,
    ⟨.applyState, drawHeaderSize, true⟩,
    ⟨.reszDepthResolve, reszDepthResolveSize, false⟩,
    ⟨.generateMipmaps, generateMipmapsSize, false⟩]

inductive RecordReplayTopology where
  | directDraw
  | directStateOnly
  | coordinatorCommand
  | orderedControl
  | compatibilityDraw
  deriving DecidableEq

structure RecordTopologyRule where
  type : RecordType
  topology : RecordReplayTopology
  producesSlotCommand : Bool
  islandResident : Bool

def kRecordTopology : List RecordTopologyRule :=
  [⟨.drawPrimitive, .directDraw, true, true⟩,
    ⟨.drawIndexedPrimitive, .directDraw, true, true⟩,
    ⟨.drawPrimitiveUp, .compatibilityDraw, true, false⟩,
    ⟨.drawIndexedPrimitiveUp, .compatibilityDraw, true, false⟩,
    ⟨.setVsConstF, .directStateOnly, false, true⟩,
    ⟨.setVsConstI, .directStateOnly, false, true⟩,
    ⟨.setVsConstB, .directStateOnly, false, true⟩,
    ⟨.setPsConstF, .directStateOnly, false, true⟩,
    ⟨.setPsConstI, .directStateOnly, false, true⟩,
    ⟨.setPsConstB, .directStateOnly, false, true⟩,
    ⟨.clear, .coordinatorCommand, true, false⟩,
    ⟨.present, .coordinatorCommand, true, false⟩,
    ⟨.stretchRect, .coordinatorCommand, true, false⟩,
    ⟨.colorFill, .coordinatorCommand, true, false⟩,
    ⟨.updateTexture, .orderedControl, false, false⟩,
    ⟨.updateSurface, .coordinatorCommand, true, false⟩,
    ⟨.queryIssue, .orderedControl, false, false⟩,
    ⟨.readback, .orderedControl, false, false⟩,
    ⟨.applyState, .directStateOnly, false, true⟩,
    ⟨.reszDepthResolve, .coordinatorCommand, true, false⟩,
    ⟨.generateMipmaps, .coordinatorCommand, true, false⟩]

def recordTopology (type : RecordType) : Option RecordTopologyRule :=
  kRecordTopology.find? fun rule => rule.type == type

/-- Whether a record of a type becomes a command of a source. -/
def producesSlotCommand (type : RecordType) : Bool :=
  match recordTopology type with
  | none => false
  | some rule => rule.producesSlotCommand

def recordRule (type : RecordType) : Option RecordRule :=
  kRecordRules.find? fun rule => rule.type == type

end Dxmt9.CpuReady

/-!
## The imported view of a command chunk

The record headers of a chunk and the arena their payloads lie in.  A record
is decoded on every read: its payload, and for the types that carry one, its
draw header and its section table.
-/

namespace Dxmt9.CpuReady

open Memory

/-- The little-endian field at an offset. -/
def loadU16 (bytes : List UInt8) (offset : Nat) : UInt16 :=
  (byteAt bytes offset).toUInt16 |||
    (byteAt bytes (offset + 1)).toUInt16 <<< 8

def loadU32 (bytes : List UInt8) (offset : Nat) : UInt32 :=
  (byteAt bytes offset).toUInt32 |||
    (byteAt bytes (offset + 1)).toUInt32 <<< 8 |||
    (byteAt bytes (offset + 2)).toUInt32 <<< 16 |||
    (byteAt bytes (offset + 3)).toUInt32 <<< 24

structure WireRecordHeader where
  type : RecordType := .other 0
  payloadOffset : UInt32 := 0
  payloadSize : UInt32 := 0
  firstHandle : UInt32 := 0
  handleCount : UInt32 := 0
  deriving DecidableEq

/-- The fields of a draw header that planning reads. -/
structure WireDrawHeader where
  primitiveType : UInt32 := 0
  primitiveCount : UInt32 := 0
  stride : UInt32 := 0
  indexFormat : UInt32 := 0
  sectionCount : UInt32 := 0
  sectionTableOffset : UInt32 := 0
  deriving DecidableEq

def loadDrawHeader (payload : List UInt8) : WireDrawHeader where
  primitiveType := loadU32 payload 4
  primitiveCount := loadU32 payload 28
  stride := loadU32 payload 32
  indexFormat := loadU32 payload 36
  sectionCount := loadU32 payload 40
  sectionTableOffset := loadU32 payload 44

structure WireSectionDesc where
  kind : UInt16 := 0
  payloadOffset : UInt32 := 0
  byteSize : UInt32 := 0
  deriving DecidableEq

def sectionDescSize : Nat := 16

def loadSectionDesc (payload : List UInt8) (offset : Nat) :
    WireSectionDesc where
  kind := loadU16 payload offset
  payloadOffset := loadU32 payload (offset + 8)
  byteSize := loadU32 payload (offset + 12)

structure ImportedSectionView where
  descriptor : WireSectionDesc := {}
  payload : List UInt8 := []
  deriving DecidableEq

structure ImportedRecordView where
  header : WireRecordHeader := {}
  payload : List UInt8 := []
  drawHeader : WireDrawHeader := {}
  sections : List WireSectionDesc := []
  deriving DecidableEq

/-- An imported chunk.  Of the handle table only the length matters, and of
the memory the arena lies in only its address. -/
structure ImportedChunkView where
  recordCount : UInt32
  records : List WireRecordHeader
  handleCount : Nat
  payloadArena : List UInt8
  payloadArenaAddress : Nat
  deriving DecidableEq

def rangeValid (size offset bytes : Nat) : Bool :=
  offset ≤ size && bytes ≤ size - offset

def subspan (bytes : List UInt8) (offset count : Nat) : List UInt8 :=
  (bytes.drop offset).take count

def pointerAligned (base offset alignment : Nat) : Bool :=
  base != 0 && (base + offset) % alignment == 0

/-- The section at an index; the empty one where the descriptor names bytes
the payload does not have. -/
def ImportedRecordView.section (record : ImportedRecordView) (index : Nat) :
    ImportedSectionView :=
  match record.sections[index]? with
  | none => {}
  | some descriptor =>
      if rangeValid record.payload.length descriptor.payloadOffset.toNat
          descriptor.byteSize.toNat then
        { descriptor := descriptor
          payload :=
            subspan record.payload descriptor.payloadOffset.toNat
              descriptor.byteSize.toNat }
      else {}

/-- Whether the section table of a draw header lies in the payload. -/
def sectionTableReadable (payload : List UInt8) (address : Nat)
    (header : WireDrawHeader) : Bool :=
  let tableBytes := header.sectionCount.toNat * sectionDescSize
  rangeValid payload.length header.sectionTableOffset.toNat tableBytes &&
    (header.sectionCount == 0 ||
      pointerAligned address header.sectionTableOffset.toNat 4)

def sectionTable (payload : List UInt8) (header : WireDrawHeader) :
    List WireSectionDesc :=
  (List.range header.sectionCount.toNat).map fun index =>
    loadSectionDesc payload
      (header.sectionTableOffset.toNat + index * sectionDescSize)

/-- What a record of a given type decodes from its payload. -/
def decodeRecord (header : WireRecordHeader) (payload : List UInt8)
    (address : Nat) : ImportedRecordView :=
  let view : ImportedRecordView := { header := header, payload := payload }
  match recordRule header.type with
  | none => view
  | some rule =>
      if !rule.sparseState || payload.length < drawHeaderSize then view
      else
        let drawHeader := loadDrawHeader payload
        if sectionTableReadable payload address drawHeader then
          { view with
            drawHeader := drawHeader
            sections := sectionTable payload drawHeader }
        else { view with drawHeader := drawHeader }

def ImportedChunkView.record (imported : ImportedChunkView) (index : Nat) :
    ImportedRecordView :=
  match imported.records[index]? with
  | none => {}
  | some header =>
      if !rangeValid imported.payloadArena.length header.payloadOffset.toNat
          header.payloadSize.toNat ||
          imported.handleCount < header.firstHandle.toNat ||
          imported.handleCount - header.firstHandle.toNat <
            header.handleCount.toNat then
        {}
      else
        decodeRecord header
          (subspan imported.payloadArena header.payloadOffset.toNat
            header.payloadSize.toNat)
          (imported.payloadArenaAddress + header.payloadOffset.toNat)

/-- The type the record table gives a record. -/
def ImportedChunkView.recordType (imported : ImportedChunkView)
    (index : Nat) : RecordType :=
  (imported.records.getD index {}).type

/-- Whether a record read back agrees with its row of the record table. -/
def ImportedChunkView.recordAgrees (imported : ImportedChunkView)
    (index : Nat) : Bool :=
  (imported.record index).header.type == imported.recordType index &&
    (imported.record index).payload.length ==
      (imported.records.getD index {}).payloadSize.toNat

section

variable (header : WireRecordHeader) (payload : List UInt8) (address : Nat)
include header payload address

@[simp] theorem decodeRecord_header :
    (decodeRecord header payload address).header = header := by
  unfold decodeRecord
  cases recordRule header.type with
  | none => rfl
  | some rule =>
      dsimp only
      split
      · rfl
      · split
        · rfl
        · rfl

@[simp] theorem decodeRecord_payload :
    (decodeRecord header payload address).payload = payload := by
  unfold decodeRecord
  cases recordRule header.type with
  | none => rfl
  | some rule =>
      dsimp only
      split
      · rfl
      · split
        · rfl
        · rfl

end

theorem drawHeader_decodeRecord {header : WireRecordHeader}
    {payload : List UInt8} {address : Nat} {rule : RecordRule}
    (found : recordRule header.type = some rule)
    (sparse : rule.sparseState = true)
    (large : drawHeaderSize ≤ payload.length) :
    (decodeRecord header payload address).drawHeader =
      loadDrawHeader payload := by
  have small : ¬payload.length < drawHeaderSize := Nat.not_lt.mpr large
  unfold decodeRecord
  rw [found]
  dsimp only
  rw [sparse, if_neg (by simp [small])]
  split
  · rfl
  · rfl

end Dxmt9.CpuReady
