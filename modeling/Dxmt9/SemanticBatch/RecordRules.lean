import Mathlib.Data.Nat.Basic

/-!
# Sizes and rules of command chunks

A chunk is its header, a table of record headers, a table of handle entries
and an arena of payloads.  The rule of a record type says what its payload
looks like.
-/

namespace Dxmt9.ChunkBuilder

def maxUInt32 : Nat := 0xffffffff

def maxSize : Nat := 0xffffffffffffffff

/-- `D9C_COMMAND_CHUNK_WIRE_HEADER_SIZE`. -/
def wireHeaderSize : Nat := 48

/-- `D9C_COMMAND_CHUNK_WIRE_RECORD_HEADER_SIZE`. -/
def wireRecordHeaderSize : Nat := 32

/-- `D9C_COMMAND_CHUNK_WIRE_HANDLE_ENTRY_SIZE`. -/
def wireHandleEntrySize : Nat := 16

/-- `alignof(D9CCommandChunkWireHandleEntry)`. -/
def wireHandleEntryAlignment : Nat := 8

/-- `alignof(std::uint32_t)`. -/
def wireWordAlignment : Nat := 4

/-- `D9C_COMMAND_CHUNK_MAX_TOTAL_WIRE_BYTES`. -/
def maxTotalWireBytes : Nat := 32 * 1024 * 1024

/-- What the writers of a chunk read of the rule of a record type. -/
structure RecordRule where
  fixedPayloadSize : Nat
  payloadAlignment : UInt32
deriving DecidableEq

/-- The rules by type: draws, constants, and the other commands. -/
def kRecordRules : List (UInt32 × RecordRule) :=
  [(1, ⟨56, 4⟩), (2, ⟨56, 4⟩), (3, ⟨56, 4⟩), (4, ⟨56, 4⟩), (14, ⟨8, 4⟩),
    (15, ⟨8, 4⟩), (16, ⟨8, 4⟩), (17, ⟨8, 4⟩), (18, ⟨8, 4⟩), (19, ⟨8, 4⟩),
    (20, ⟨24, 4⟩), (21, ⟨56, 8⟩), (22, ⟨56, 4⟩), (23, ⟨32, 4⟩),
    (24, ⟨8, 4⟩), (25, ⟨48, 4⟩), (26, ⟨8, 4⟩), (27, ⟨8, 4⟩), (28, ⟨56, 4⟩),
    (29, ⟨8, 4⟩), (30, ⟨4, 4⟩)]

def recordRule (type : UInt32) : Option RecordRule :=
  kRecordRules.lookup type

end Dxmt9.ChunkBuilder
