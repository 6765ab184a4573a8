import Mathlib.Algebra.Ring.Nat
import Mathlib.Data.List.Basic

/-!
# Words in bytes

Words of four bytes, the lowest byte first.  Bytes whose number is divisible
by four are the bytes of words, and every fourth position is the start of one.
-/

namespace Dxmt9.Memory

/-- Four bytes as a word, the lowest first. -/
def wordOf (a b c d : UInt8) : UInt32 :=
  UInt32.ofNat
    (a.toNat + 2 ^ 8 * b.toNat + 2 ^ 16 * c.toNat + 2 ^ 24 * d.toNat)

/-- The bytes of a word, the lowest first. -/
def wordBytes (word : UInt32) : List UInt8 :=
  [UInt8.ofNat word.toNat, UInt8.ofNat (word.toNat / 2 ^ 8),
    UInt8.ofNat (word.toNat / 2 ^ 16), UInt8.ofNat (word.toNat / 2 ^ 24)]

def wordsBytes (words : List UInt32) : List UInt8 := words.flatMap wordBytes

/-- What is behind an offset that is the start of a word. -/
def WordsBehind (words rest : List UInt32) (offset : Nat) : Prop :=
  ∃ front, words = front ++ rest ∧ offset = 4 * front.length

theorem wordOf_wordBytes (word : UInt32) :
    wordOf (UInt8.ofNat word.toNat) (UInt8.ofNat (word.toNat / 2 ^ 8))
      (UInt8.ofNat (word.toNat / 2 ^ 16))
      (UInt8.ofNat (word.toNat / 2 ^ 24)) = word := by
  have bound := word.toNat_lt
  unfold wordOf
  simp only [UInt8.toNat_ofNat']
  have digits : word.toNat % 2 ^ 8 + 2 ^ 8 * (word.toNat / 2 ^ 8 % 2 ^ 8) +
      2 ^ 16 * (word.toNat / 2 ^ 16 % 2 ^ 8) +
      2 ^ 24 * (word.toNat / 2 ^ 24 % 2 ^ 8) = word.toNat := by omega
  rw [digits]
  exact UInt32.ofNat_toNat

theorem wordBytes_wordOf (a b c d : UInt8) :
    wordBytes (wordOf a b c d) = [a, b, c, d] := by
  have boundA := a.toNat_lt
  have boundB := b.toNat_lt
  have boundC := c.toNat_lt
  have boundD := d.toNat_lt
  have whole : (wordOf a b c d).toNat =
      a.toNat + 2 ^ 8 * b.toNat + 2 ^ 16 * c.toNat + 2 ^ 24 * d.toNat := by
    unfold wordOf
    rw [UInt32.toNat_ofNat']
    exact Nat.mod_eq_of_lt (by omega)
  have byte : ∀ (value : Nat) (x : UInt8), value % 2 ^ 8 = x.toNat →
      UInt8.ofNat value = x := by
    intro value x same
    apply UInt8.toNat_inj.mp
    rw [UInt8.toNat_ofNat']
    exact same
  unfold wordBytes
  rw [whole, byte _ a (by omega), byte _ b (by omega), byte _ c (by omega),
    byte _ d (by omega)]

theorem length_wordsBytes (words : List UInt32) :
    (wordsBytes words).length = 4 * words.length := by
  induction words with
  | nil => rfl
  | cons word words induction =>
      change (wordBytes word ++ wordsBytes words).length = _
      rw [List.length_append, induction, List.length_cons]
      change 4 + 4 * words.length = _
      omega

theorem wordsBytes_append (front back : List UInt32) :
    wordsBytes (front ++ back) = wordsBytes front ++ wordsBytes back :=
  List.flatMap_append

/-- Bytes that can be split into words. -/
theorem exists_wordsBytes {bytes : List UInt8}
    (aligned : bytes.length % 4 = 0) : ∃ words, bytes = wordsBytes words := by
  match bytes with
  | [] => exact ⟨[], rfl⟩
  | [_] => exact absurd aligned (by simp)
  | [_, _] => exact absurd aligned (by simp)
  | [_, _, _] => exact absurd aligned (by simp)
  | a :: b :: c :: d :: rest =>
      have shorter : rest.length % 4 = 0 := by
        simp only [List.length_cons] at aligned
        omega
      obtain ⟨words, rfl⟩ := exists_wordsBytes shorter
      refine ⟨wordOf a b c d :: words, ?_⟩
      change _ = wordBytes (wordOf a b c d) ++ wordsBytes words
      rw [wordBytes_wordOf]
      rfl

section

variable {words rest more : List UInt32} {word : UInt32} {offset : Nat}

theorem wordsBehind_start : WordsBehind words words 0 := ⟨[], rfl, rfl⟩

theorem WordsBehind.next (behind : WordsBehind words (word :: rest) offset) :
    WordsBehind words rest (offset + 4) := by
  obtain ⟨front, split, start⟩ := behind
  refine ⟨front ++ [word], ?_, ?_⟩
  · rw [split, List.append_assoc]
    rfl
  · rw [start, List.length_append, List.length_singleton]
    omega

theorem WordsBehind.skip (behind : WordsBehind words (more ++ rest) offset) :
    WordsBehind words rest (offset + more.length * 4) := by
  induction more generalizing offset with
  | nil =>
      rw [List.length_nil, Nat.zero_mul, Nat.add_zero]
      exact behind
  | cons word more induction =>
      have skipped := induction behind.next
      have total : offset + (word :: more).length * 4 =
          offset + 4 + more.length * 4 := by
        rw [List.length_cons]
        omega
      rw [total]
      exact skipped

theorem WordsBehind.drop (behind : WordsBehind words rest offset) :
    (wordsBytes words).drop offset = wordsBytes rest := by
  obtain ⟨front, split, start⟩ := behind
  rw [split, wordsBytes_append, start, ← length_wordsBytes]
  exact List.drop_left

theorem WordsBehind.length (behind : WordsBehind words rest offset) :
    (wordsBytes words).length = offset + 4 * rest.length := by
  obtain ⟨front, split, start⟩ := behind
  rw [length_wordsBytes, split, List.length_append, start]
  omega

end

end Dxmt9.Memory
