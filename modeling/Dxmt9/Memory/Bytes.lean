import Mathlib.Algebra.Ring.Nat
import Mathlib.Data.List.Basic
import Mathlib.Data.List.GetD

/-!
# Byte vectors

A byte vector grows with zeros and takes blocks of bytes at an offset.  Bytes
past its end read as zero, so growing it changes no reading.  A source is the
memory behind a pointer, from the pointer on.
-/

namespace Dxmt9.Memory

/-- The byte at an address, zero past the end. -/
def byteAt (bytes : List UInt8) (address : Nat) : UInt8 :=
  bytes.getD address 0

theorem byteAt_replicate_zero (count address : Nat) :
    byteAt (List.replicate count 0) address = 0 := by
  rw [byteAt, List.getD_eq_getElem?_getD, List.getElem?_replicate]
  split
  · rfl
  · rfl

/-- The memory from an offset on. -/
def bytesFrom (bytes : List UInt8) (offset : Nat) : Nat → UInt8 :=
  fun index => byteAt bytes (offset + index)

/-- Growth to a size, with zeros. -/
def growBytes (bytes : List UInt8) (size : Nat) : List UInt8 :=
  if bytes.length < size then
    bytes ++ List.replicate (size - bytes.length) 0
  else bytes

/-- A block copied over the bytes at an offset. -/
def copyBytes (bytes : List UInt8) (offset count : Nat)
    (source : Nat → UInt8) : List UInt8 :=
  bytes.mapIdx fun address byte =>
    if offset ≤ address ∧ address < offset + count then
      source (address - offset)
    else byte

/-- The same value over a range. -/
def fillBytes (bytes : List UInt8) (start stop : Nat) (value : UInt8) :
    List UInt8 :=
  bytes.mapIdx fun address byte =>
    if start ≤ address ∧ address < stop then value else byte

variable {bytes : List UInt8}

theorem byteAt_of_length_le {address : Nat}
    (beyond : bytes.length ≤ address) : byteAt bytes address = 0 :=
  List.getD_eq_default _ _ beyond

/-- Vectors of one length with the same bytes are equal. -/
theorem bytes_ext {left right : List UInt8}
    (length : left.length = right.length)
    (same : ∀ address, byteAt left address = byteAt right address) :
    left = right := by
  apply List.ext_getElem length
  intro address inside insideRight
  have byte := same address
  unfold byteAt at byte
  rwa [List.getD_eq_getElem _ _ inside,
    List.getD_eq_getElem _ _ insideRight] at byte

theorem length_growBytes (bytes : List UInt8) (size : Nat) :
    (growBytes bytes size).length = max bytes.length size := by
  unfold growBytes
  split
  · rw [List.length_append, List.length_replicate]
    omega
  · omega

theorem le_length_growBytes (bytes : List UInt8) (size : Nat) :
    size ≤ (growBytes bytes size).length := by
  rw [length_growBytes]
  exact Nat.le_max_right _ _

theorem length_le_growBytes (bytes : List UInt8) (size : Nat) :
    bytes.length ≤ (growBytes bytes size).length := by
  rw [length_growBytes]
  exact Nat.le_max_left _ _

@[simp] theorem byteAt_growBytes (bytes : List UInt8) (size address : Nat) :
    byteAt (growBytes bytes size) address = byteAt bytes address := by
  unfold growBytes
  split
  · by_cases inside : address < bytes.length
    · exact List.getD_append _ _ _ _ inside
    · rw [byteAt_of_length_le (Nat.not_lt.mp inside), byteAt,
        List.getD_append_right _ _ _ _ (Nat.not_lt.mp inside),
        List.getD_eq_getElem?_getD, List.getElem?_replicate]
      split
      · rfl
      · rfl
  · rfl

@[simp] theorem length_copyBytes (bytes : List UInt8) (offset count : Nat)
    (source : Nat → UInt8) :
    (copyBytes bytes offset count source).length = bytes.length :=
  List.length_mapIdx

@[simp] theorem length_fillBytes (bytes : List UInt8) (start stop : Nat)
    (value : UInt8) :
    (fillBytes bytes start stop value).length = bytes.length :=
  List.length_mapIdx

/-- A block that fits is read back, and every other byte stays. -/
theorem byteAt_copyBytes {offset count : Nat}
    (fits : offset + count ≤ bytes.length) (source : Nat → UInt8)
    (address : Nat) :
    byteAt (copyBytes bytes offset count source) address =
      if offset ≤ address ∧ address < offset + count then
        source (address - offset)
      else byteAt bytes address := by
  unfold byteAt copyBytes
  rw [List.getD_eq_getElem?_getD, List.getD_eq_getElem?_getD,
    List.getElem?_mapIdx]
  by_cases inside : address < bytes.length
  · rw [List.getElem?_eq_getElem inside]
    rfl
  · rw [List.getElem?_eq_none (Nat.not_lt.mp inside), if_neg (by omega)]
    rfl

theorem byteAt_fillBytes {start stop : Nat}
    (fits : stop ≤ bytes.length) (value : UInt8) (address : Nat) :
    byteAt (fillBytes bytes start stop value) address =
      if start ≤ address ∧ address < stop then value
      else byteAt bytes address := by
  unfold byteAt fillBytes
  rw [List.getD_eq_getElem?_getD, List.getD_eq_getElem?_getD,
    List.getElem?_mapIdx]
  by_cases inside : address < bytes.length
  · rw [List.getElem?_eq_getElem inside]
    rfl
  · rw [List.getElem?_eq_none (Nat.not_lt.mp inside), if_neg (by omega)]
    rfl

theorem byteAt_set {position : Nat}
    (inside : position < bytes.length) (value : UInt8) (address : Nat) :
    byteAt (bytes.set position value) address =
      if address = position then value else byteAt bytes address := by
  unfold byteAt
  rw [List.getD_eq_getElem?_getD, List.getD_eq_getElem?_getD]
  by_cases same : address = position
  · subst same
    rw [List.getElem?_set_self inside, if_pos rfl]
    rfl
  · rw [List.getElem?_set_ne (Ne.symm same), if_neg same]

/-- Four bytes as one word. -/
def loadWord (source : Nat → UInt8) : UInt32 :=
  UInt32.ofNat
    ((source 0).toNat + (source 1).toNat * 2 ^ 8 +
      (source 2).toNat * 2 ^ 16 + (source 3).toNat * 2 ^ 24)

/-- Equal words have equal bytes. -/
theorem loadWord_inj {left right : Nat → UInt8} :
    loadWord left = loadWord right ↔
      ∀ index < 4, left index = right index := by
  have value : ∀ source : Nat → UInt8, (loadWord source).toNat =
      (source 0).toNat + (source 1).toNat * 2 ^ 8 +
        (source 2).toNat * 2 ^ 16 + (source 3).toNat * 2 ^ 24 := by
    intro source
    have first := (source 0).toNat_lt
    have second := (source 1).toNat_lt
    have third := (source 2).toNat_lt
    have fourth := (source 3).toNat_lt
    have size : UInt32.size = 2 ^ 32 := rfl
    exact UInt32.toNat_ofNat_of_lt' (by omega)
  constructor
  · intro same index inside
    have values := congrArg UInt32.toNat same
    rw [value, value] at values
    have bounds : ∀ (source : Nat → UInt8) (byte : Nat),
        (source byte).toNat < 2 ^ 8 := fun source byte =>
      (source byte).toNat_lt
    have left0 := bounds left 0
    have left1 := bounds left 1
    have left2 := bounds left 2
    have left3 := bounds left 3
    have right0 := bounds right 0
    have right1 := bounds right 1
    have right2 := bounds right 2
    have right3 := bounds right 3
    rw [← UInt8.toNat_inj]
    match index, inside with
    | 0, _ => omega
    | 1, _ => omega
    | 2, _ => omega
    | 3, _ => omega
  · intro same
    unfold loadWord
    rw [same 0 (by omega), same 1 (by omega), same 2 (by omega),
      same 3 (by omega)]

end Dxmt9.Memory
