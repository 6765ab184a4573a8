import Dxmt9.Memory.Bytes
import Dxmt9.Memory.Words

/-!
# Blocks written into bytes

Blocks of bytes are written one after another at their offsets.  A byte that
some block covers, and that all the blocks covering it agree on, is read
afterwards; a byte that no block covers stays.
-/

namespace Dxmt9.Memory

/-- Bytes for an offset. -/
structure Block where
  offset : Nat
  bytes : List UInt8
deriving DecidableEq

namespace Block

def Covers (block : Block) (address : Nat) : Prop :=
  block.offset ≤ address ∧ address < block.offset + block.bytes.length

instance (block : Block) (address : Nat) : Decidable (block.Covers address) :=
  inferInstanceAs (Decidable (_ ∧ _))

/-- The byte of the block at an address that it covers. -/
def read (block : Block) (address : Nat) : UInt8 :=
  byteAt block.bytes (address - block.offset)

def Fits (block : Block) (size : Nat) : Prop :=
  block.offset + block.bytes.length ≤ size

end Block

/-- The bytes of a range. -/
def slice (bytes : List UInt8) (offset count : Nat) : List UInt8 :=
  (bytes.drop offset).take count

def writeBlock (bytes : List UInt8) (block : Block) : List UInt8 :=
  copyBytes bytes block.offset block.bytes.length (byteAt block.bytes)

def writeBlocks (bytes : List UInt8) (blocks : List Block) : List UInt8 :=
  blocks.foldl writeBlock bytes

@[simp] theorem length_writeBlock (bytes : List UInt8) (block : Block) :
    (writeBlock bytes block).length = bytes.length :=
  length_copyBytes ..

variable {block : Block}

variable {bytes : List UInt8}

theorem byteAt_writeBlock
    (fits : block.Fits bytes.length) (address : Nat) :
    byteAt (writeBlock bytes block) address =
      if block.Covers address then block.read address
      else byteAt bytes address :=
  byteAt_copyBytes fits (byteAt block.bytes) address

@[simp] theorem length_writeBlocks (bytes : List UInt8)
    (blocks : List Block) : (writeBlocks bytes blocks).length = bytes.length := by
  induction blocks generalizing bytes with
  | nil => rfl
  | cons block blocks induction =>
      change (writeBlocks (writeBlock bytes block) blocks).length = _
      rw [induction, length_writeBlock]

section

variable {bytes : List UInt8} {blocks : List Block} {address : Nat}

section

variable (fits : ∀ block ∈ blocks, block.Fits bytes.length)
include fits

theorem byteAt_writeBlocks_of_not_covers
    (outside : ∀ block ∈ blocks, ¬ block.Covers address) :
    byteAt (writeBlocks bytes blocks) address = byteAt bytes address := by
  induction blocks generalizing bytes with
  | nil => rfl
  | cons block blocks induction =>
      have rest : byteAt (writeBlocks (writeBlock bytes block) blocks)
          address = byteAt (writeBlock bytes block) address := by
        apply induction
        · intro other member
          rw [length_writeBlock]
          exact fits other (List.mem_cons_of_mem _ member)
        · intro other member
          exact outside other (List.mem_cons_of_mem _ member)
      have first := byteAt_writeBlock (fits block List.mem_cons_self) address
      rw [if_neg (outside block List.mem_cons_self)] at first
      exact rest.trans first

theorem byteAt_writeBlocks_of_agree {value : UInt8}
    (covered : ∃ block ∈ blocks, block.Covers address)
    (agree : ∀ block ∈ blocks, block.Covers address →
      block.read address = value) :
    byteAt (writeBlocks bytes blocks) address = value := by
  induction blocks generalizing bytes with
  | nil =>
      obtain ⟨block, member, _⟩ := covered
      cases member
  | cons block blocks induction =>
      have fitting : ∀ other ∈ blocks,
          other.Fits (writeBlock bytes block).length := by
        intro other member
        rw [length_writeBlock]
        exact fits other (List.mem_cons_of_mem _ member)
      change byteAt (writeBlocks (writeBlock bytes block) blocks) address = _
      by_cases later : ∃ other ∈ blocks, other.Covers address
      · apply induction fitting later
        intro other member covers
        exact agree other (List.mem_cons_of_mem _ member) covers
      · have outside : ∀ other ∈ blocks, ¬ other.Covers address := by
          intro other member covers
          exact later ⟨other, member, covers⟩
        -- No later block covers the address, so the first one does.
        have covers : block.Covers address := by
          obtain ⟨other, member, covers⟩ := covered
          rcases List.mem_cons.mp member with rfl | behind
          · exact covers
          · exact absurd covers (outside other behind)
        rw [byteAt_writeBlocks_of_not_covers fitting outside,
          byteAt_writeBlock (fits block List.mem_cons_self), if_pos covers]
        exact agree block List.mem_cons_self covers

end

end

/-- Bytes that hold a block at its offset. -/
def Stores (bytes : List UInt8) (block : Block) : Prop :=
  block.Fits bytes.length ∧
    ∀ index < block.bytes.length,
      byteAt bytes (block.offset + index) = byteAt block.bytes index

theorem stores_writeBlocks {blocks : List Block} (fits : ∀ other ∈ blocks, other.Fits bytes.length)
    (member : block ∈ blocks)
    (agree : ∀ other ∈ blocks, ∀ address, block.Covers address →
      other.Covers address → other.read address = block.read address) :
    Stores (writeBlocks bytes blocks) block := by
  constructor
  · rw [length_writeBlocks]
    exact fits block member
  · intro index inside
    have covers : block.Covers (block.offset + index) :=
      ⟨Nat.le_add_right _ _, Nat.add_lt_add_left inside _⟩
    have value : block.read (block.offset + index) =
        byteAt block.bytes index := by
      unfold Block.read
      rw [Nat.add_sub_cancel_left]
    rw [← value]
    apply byteAt_writeBlocks_of_agree fits ⟨block, member, covers⟩
    intro other otherMember otherCovers
    exact agree other otherMember _ covers otherCovers

theorem Stores.slice_eq
    (holds : Stores bytes block) :
    slice bytes block.offset block.bytes.length = block.bytes := by
  obtain ⟨fits, same⟩ := holds
  unfold Block.Fits at fits
  have length : (slice bytes block.offset block.bytes.length).length =
      block.bytes.length := by
    unfold slice
    rw [List.length_take, List.length_drop]
    omega
  apply List.ext_getElem length
  intro index inside insideBlock
  have read := same index insideBlock
  unfold byteAt at read
  rw [List.getD_eq_getElem _ _ insideBlock,
    List.getD_eq_getElem _ _ (by omega)] at read
  simp only [slice, List.getElem_take, List.getElem_drop]
  exact read

/-- The word at an offset. -/
def readWord (bytes : List UInt8) (offset : Nat) : UInt32 :=
  loadWord (bytesFrom bytes offset)

/-- Words that are held are read back. -/
theorem Stores.readWord_eq {words : List UInt32}
    {offset : Nat} (holds : Stores bytes ⟨offset, wordsBytes words⟩)
    {index : Nat} (inside : index < words.length) :
    readWord bytes (offset + 4 * index) = words[index] := by
  have same := holds.2
  change ∀ position < (wordsBytes words).length,
    byteAt bytes (offset + position) = _ at same
  have behind : WordsBehind words (words.drop index) (4 * index) := by
    refine ⟨words.take index, (List.take_append_drop index words).symm, ?_⟩
    rw [List.length_take, Nat.min_eq_left (Nat.le_of_lt inside)]
  have dropped := behind.drop
  rw [List.drop_eq_getElem_cons inside] at dropped
  have byte : ∀ position < 4, byteAt bytes (offset + 4 * index + position) =
        byteAt (wordBytes words[index]) position := by
    intro position small
    have total := length_wordsBytes words
    rw [Nat.add_assoc, same _ (by omega)]
    unfold byteAt
    rw [List.getD_eq_getElem?_getD, List.getD_eq_getElem?_getD,
      ← List.getElem?_drop, dropped]
    change ((wordBytes words[index] ++ _)[position]?).getD 0 = _
    rw [List.getElem?_append_left small]
  unfold readWord loadWord bytesFrom
  rw [byte 0 (by omega), byte 1 (by omega), byte 2 (by omega),
    byte 3 (by omega)]
  have word := wordOf_wordBytes words[index]
  unfold wordOf at word
  refine Eq.trans ?_ word
  change UInt32.ofNat (_ + _ * _ + _ * _ + _ * _) = _
  rw [Nat.mul_comm _ (2 ^ 8), Nat.mul_comm _ (2 ^ 16), Nat.mul_comm _ (2 ^ 24)]
  rfl

end Dxmt9.Memory
