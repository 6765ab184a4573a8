import Mathlib.Algebra.Ring.Nat
import Mathlib.Data.Nat.Init

/-!
# Unsigned arithmetic that tells whether it wrapped

Computations over the numbers below a power of two.  Each operation gives the
number that the machine gives, and the computation remembers whether any of
its operations left the range.
-/

namespace Dxmt9.Memory

universe u

/-- A value, and whether an operation on the way to it wrapped. -/
@[ext]
structure Tracked (α : Type u) where
  value : α
  wrapped : Bool
  deriving DecidableEq

namespace Tracked

variable {α β : Type u}

protected def pure (value : α) : Tracked α := ⟨value, false⟩

protected def bind (first : Tracked α) (next : α → Tracked β) : Tracked β :=
  ⟨(next first.value).value, first.wrapped || (next first.value).wrapped⟩

instance : Monad Tracked where
  pure := Tracked.pure
  bind := Tracked.bind

/-- What did not wrap goes on as if it were no computation at all. -/
@[simp]
theorem exact_bind (value : α) (next : α → Tracked β) :
    (pure value : Tracked α) >>= next = next value := by
  ext
  · rfl
  · exact Bool.false_or _

variable {first : Tracked α} {next : α → Tracked β}

/-- What comes behind a value and does not wrap leaves the memory of the
computation as it is. -/
theorem bind_exact {result : α → β}
    (exact : ∀ value, next value = pure (result value)) :
    first >>= next = ⟨result first.value, first.wrapped⟩ := by
  change Tracked.mk _ _ = _
  rw [exact]
  exact congrArg (Tracked.mk _) (Bool.or_false _)

@[simp]
theorem bind_value (first : Tracked α) (next : α → Tracked β) :
    (first >>= next).value = (next first.value).value :=
  rfl

@[simp]
theorem bind_wrapped (first : Tracked α) (next : α → Tracked β) :
    (first >>= next).wrapped = (first.wrapped || (next first.value).wrapped) :=
  rfl

/-- Nothing in a computation wrapped: neither its first part nor the rest. -/
theorem unwrapped_bind
    (unwrapped : (first >>= next).wrapped = false) :
    first.wrapped = false ∧ (next first.value).wrapped = false :=
  Bool.or_eq_false_iff.mp unwrapped

@[simp]
theorem pure_value (value : α) : (pure value : Tracked α).value = value := rfl

@[simp]
theorem pure_wrapped (value : α) : (pure value : Tracked α).wrapped = false :=
  rfl

end Tracked

/-! ## Operations -/

variable (bits : Nat)

def addWord (left right : Nat) : Tracked Nat :=
  ⟨(left + right) % 2 ^ bits, decide (2 ^ bits ≤ left + right)⟩

def subWord (left right : Nat) : Tracked Nat :=
  ⟨(left + (2 ^ bits - right)) % 2 ^ bits, decide (left < right)⟩

def mulWord (left right : Nat) : Tracked Nat :=
  ⟨(left * right) % 2 ^ bits, decide (2 ^ bits ≤ left * right)⟩

variable {bits} {left right : Nat}

theorem addWord_exact (inside : left + right < 2 ^ bits) :
    addWord bits left right = pure (left + right) := by
  ext
  · exact Nat.mod_eq_of_lt inside
  · exact decide_eq_false (Nat.not_le.mpr inside)

theorem subWord_exact (ordered : right ≤ left) (inside : left < 2 ^ bits) :
    subWord bits left right = pure (left - right) := by
  ext
  · change (left + (2 ^ bits - right)) % 2 ^ bits = left - right
    have split : left + (2 ^ bits - right) = left - right + 2 ^ bits := by
      omega
    rw [split, Nat.add_mod_right]
    exact Nat.mod_eq_of_lt (Nat.lt_of_le_of_lt (Nat.sub_le ..) inside)
  · exact decide_eq_false (Nat.not_lt.mpr ordered)

theorem mulWord_exact (inside : left * right < 2 ^ bits) :
    mulWord bits left right = pure (left * right) := by
  ext
  · exact Nat.mod_eq_of_lt inside
  · exact decide_eq_false (Nat.not_le.mpr inside)

theorem addWord_of_unwrapped
    (unwrapped : (addWord bits left right).wrapped = false) :
    left + right < 2 ^ bits :=
  Nat.not_le.mp (of_decide_eq_false unwrapped)

theorem mulWord_of_unwrapped
    (unwrapped : (mulWord bits left right).wrapped = false) :
    left * right < 2 ^ bits :=
  Nat.not_le.mp (of_decide_eq_false unwrapped)

/-- One more than the largest word, and one back: the result is right even
though both operations wrap. -/
theorem subWord_addWord_full (full : left + right = 2 ^ bits) :
    (addWord bits left right >>= fun sum => subWord bits sum 1) =
      ⟨left + right - 1, true⟩ := by
  have positive := Nat.two_pow_pos bits
  ext
  · change ((left + right) % 2 ^ bits + (2 ^ bits - 1)) % 2 ^ bits = _
    rw [full, Nat.mod_self, Nat.zero_add]
    exact Nat.mod_eq_of_lt (Nat.sub_lt positive Nat.one_pos)
  · change (decide (2 ^ bits ≤ left + right) || _) = true
    rw [decide_eq_true (Nat.le_of_eq full.symm), Bool.true_or]

/-- Clearing the low bits of a word rounds it down. -/
theorem and_complement_mask {value exponent : Nat} (inside : value < 2 ^ bits)
    (narrow : exponent ≤ bits) :
    value &&& ((2 ^ bits - 1) ^^^ (2 ^ exponent - 1)) =
      value / 2 ^ exponent * 2 ^ exponent := by
  apply Nat.eq_of_testBit_eq
  intro bit
  rw [Nat.testBit_and, Nat.testBit_xor, Nat.testBit_two_pow_sub_one,
    Nat.testBit_two_pow_sub_one, Nat.testBit_mul_two_pow,
    Nat.testBit_div_two_pow]
  by_cases low : bit < exponent
  · have below : bit < bits := Nat.lt_of_lt_of_le low narrow
    rw [decide_eq_true low, decide_eq_true below,
      decide_eq_false (Nat.not_le.mpr low)]
    exact Bool.and_false _
  · have high := Nat.not_lt.mp low
    rw [decide_eq_false low, decide_eq_true high, Nat.sub_add_cancel high,
      Bool.xor_false, Bool.true_and]
    by_cases below : bit < bits
    · rw [decide_eq_true below, Bool.and_true]
    · have clear : value.testBit bit = false :=
        Nat.testBit_lt_two_pow (Nat.lt_of_lt_of_le inside
          (Nat.pow_le_pow_right Nat.two_pos (Nat.not_lt.mp below)))
      rw [clear, Bool.false_and]

/-- Words added up from a first total on. -/
def sumWords (bits : Nat) : List Nat → Nat → Tracked Nat
  | [], total => pure total
  | term :: rest, total => do
      let sum ← addWord bits total term
      sumWords bits rest sum

/-- Counts at prices, added up from a first total on. -/
def priceWords (bits : Nat) : List (Nat × Nat) → Nat → Tracked Nat
  | [], total => pure total
  | term :: rest, total => do
      let price ← mulWord bits term.1 term.2
      let sum ← addWord bits total price
      priceWords bits rest sum

variable {total : Nat}

theorem sumWords_exact {terms : List Nat}
    (inside : total + terms.sum < 2 ^ bits) :
    sumWords bits terms total = pure (total + terms.sum) := by
  induction terms generalizing total with
  | nil => rfl
  | cons term rest induction =>
      rw [List.sum_cons, ← Nat.add_assoc] at inside ⊢
      rw [sumWords, addWord_exact (Nat.lt_of_le_of_lt
        (Nat.le_add_right ..) inside), Tracked.exact_bind, induction inside]

theorem priceWords_exact {terms : List (Nat × Nat)}
    (inside : total + (terms.map fun term => term.1 * term.2).sum < 2 ^ bits) :
    priceWords bits terms total =
      pure (total + (terms.map fun term => term.1 * term.2).sum) := by
  induction terms generalizing total with
  | nil => rfl
  | cons term rest induction =>
      rw [List.map_cons, List.sum_cons, ← Nat.add_assoc] at inside ⊢
      have sum := Nat.lt_of_le_of_lt (Nat.le_add_right ..) inside
      have price := Nat.lt_of_le_of_lt (Nat.le_add_left ..) sum
      rw [priceWords, mulWord_exact price, Tracked.exact_bind,
        addWord_exact sum, Tracked.exact_bind, induction inside]

/-- Prices that are added up without wrapping stay in the range. -/
theorem priceWords_of_unwrapped {terms : List (Nat × Nat)}
    (start : total < 2 ^ bits)
    (unwrapped : (priceWords bits terms total).wrapped = false) :
    total + (terms.map fun term => term.1 * term.2).sum < 2 ^ bits := by
  induction terms generalizing total with
  | nil => exact start
  | cons term rest induction =>
      obtain ⟨price, added⟩ := Tracked.unwrapped_bind unwrapped
      rw [mulWord_exact (mulWord_of_unwrapped price)] at added
      obtain ⟨sum, others⟩ := Tracked.unwrapped_bind added
      have inside := addWord_of_unwrapped sum
      rw [addWord_exact inside] at others
      rw [List.map_cons, List.sum_cons, ← Nat.add_assoc]
      exact induction inside others

theorem sumWords_of_unwrapped {terms : List Nat}
    (start : total < 2 ^ bits)
    (unwrapped : (sumWords bits terms total).wrapped = false) :
    total + terms.sum < 2 ^ bits := by
  induction terms generalizing total with
  | nil => exact start
  | cons term rest induction =>
      obtain ⟨sum, others⟩ := Tracked.unwrapped_bind unwrapped
      have inside := addWord_of_unwrapped sum
      rw [addWord_exact inside] at others
      rw [List.sum_cons, ← Nat.add_assoc]
      exact induction inside others

end Dxmt9.Memory
