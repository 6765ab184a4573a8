import Mathlib.Algebra.Ring.Int.Defs
import Dxmt9.Memory.Bytes
import Dxmt9.Fallible.Outcome

/-!
# Filling regions of surfaces

A surface is rows of pixels in a byte vector, one row every pitch.  A fill
clips its rectangle to the surface and writes each pixel of it.  The bytes that
a colour or a depth becomes are a parameter; how many there are and where they
go is the code's.
-/

namespace Dxmt9.Surface

open Dxmt9.Memory

inductive Format where
  | unknown | a8r8g8b8 | x8r8g8b8 | a8b8g8r8 | x8b8g8r8 | r5g6b5 | a1r5g5b5
  | x1r5g5b5 | a4r4g4b4 | a8 | r8g8b8 | a16b16g16r16f | a32b32g32r32f | g16r16f
  | r16f | g32r32f | r32f | a16b16g16r16 | q16w16v16u16 | g16r16 | a2r10g10b10
  | a2b10g10r10 | l8 | l16 | a8l8 | a8p8 | p8 | v8u8 | q8w8v8u8 | v16u16 | cxV8u8
  | dxt1 | dxt2 | dxt3 | dxt4 | dxt5 | ati1 | bc4 | ati2 | bc5 | d24s8 | d24x8
  | d16 | d32 | d32fLockable | d32Lockable | d16Lockable | d15s1 | d24x4s4
  | d24fs8 | s8Lockable | intz | df16 | df24 | resz | nullRt | atoc | nvdb | rawz
  | index16 | index32
deriving DecidableEq

/-- The column of the format table that gives the bytes of a pixel. -/
def formatTable : List (Format × Nat) :=
  [(.a8r8g8b8, 4), (.x8r8g8b8, 4), (.a8b8g8r8, 4), (.x8b8g8r8, 4),
   (.r5g6b5, 2), (.a1r5g5b5, 2), (.x1r5g5b5, 2), (.a4r4g4b4, 2), (.a8, 1),
   (.r8g8b8, 3), (.a16b16g16r16f, 8), (.a32b32g32r32f, 16), (.g16r16f, 4),
   (.r16f, 2), (.g32r32f, 8), (.r32f, 4), (.a16b16g16r16, 8),
   (.q16w16v16u16, 8), (.g16r16, 4), (.a2r10g10b10, 4), (.a2b10g10r10, 4),
   (.l8, 1), (.l16, 2), (.a8l8, 2), (.a8p8, 2), (.p8, 1), (.v8u8, 2),
   (.q8w8v8u8, 4), (.v16u16, 4), (.cxV8u8, 0), (.dxt1, 0), (.dxt2, 0),
   (.dxt3, 0), (.dxt4, 0), (.dxt5, 0), (.ati1, 0), (.bc4, 0), (.ati2, 0),
   (.bc5, 0), (.d24s8, 4), (.d24x8, 4), (.d16, 2), (.d32, 4),
   (.d32fLockable, 4), (.d32Lockable, 4), (.d16Lockable, 2), (.d15s1, 0),
   (.d24x4s4, 0), (.d24fs8, 8), (.s8Lockable, 1), (.intz, 4), (.df16, 2),
   (.df24, 4), (.resz, 0), (.nullRt, 4), (.atoc, 0), (.nvdb, 0), (.rawz, 0),
   (.index16, 2), (.index32, 4)]

/-- A format without an entry has no bytes. -/
def bytesPerPixel (format : Format) : Nat :=
  match formatTable.find? fun entry => entry.1 = format with
  | some entry => entry.2
  | none => 0

/-- The bounds are signed words, which taking the smaller or the larger of two
does not leave. -/
structure Rect where
  left : Int
  top : Int
  right : Int
  bottom : Int
deriving DecidableEq

/-- The conversion of an unsigned word to a signed one. -/
def toSigned (value : UInt32) : Int :=
  value.toBitVec.toInt

def clip (width height : UInt32) (rect : Option Rect) : Rect :=
  match rect with
  | none =>
      { left := 0
        top := 0
        right := toSigned width
        bottom := toSigned height }
  | some rect =>
      { left := max 0 rect.left
        top := max 0 rect.top
        right := min (toSigned width) rect.right
        bottom := min (toSigned height) rect.bottom }

/-- Bytes written to a vector at an offset; a write past its end is undefined
and gives nothing. -/
def store (bytes : List UInt8) (offset : Nat) (block : List UInt8) :
    Option (List UInt8) :=
  if offset + block.length ≤ bytes.length then
    some (copyBytes bytes offset block.length (byteAt block))
  else none

/-- The values of a counter from one that is not negative up to a bound. -/
def counted (start stop : Int) : List Nat :=
  (List.range (stop - start).toNat).map fun step => start.toNat + step

/-- The loops over the rows of an area and the pixels of each row.  The body
gets the offset of its pixel. -/
def forEachPixel (area : Rect) (pitch bpp : Nat)
    (body : List UInt8 → Nat → Option (List UInt8)) (bytes : List UInt8) :
    Option (List UInt8) :=
  (counted area.top area.bottom).foldlM
    (fun bytes y =>
      (counted area.left area.right).foldlM
        (fun bytes x => body bytes (y * pitch + x * bpp)) bytes)
    bytes

variable {Color Depth : Type}

/-- How many bytes the encoder writes for a colour; `none` for a format that it
does not know. -/
def encodedBytes : Format → Option Nat
  | .a8r8g8b8 | .x8r8g8b8 | .a8b8g8r8 | .x8b8g8r8 => some 4
  | .r5g6b5 | .a1r5g5b5 | .x1r5g5b5 | .a4r4g4b4 => some 2
  | .a8 | .l8 => some 1
  | .a8l8 => some 2
  | .a2r10g10b10 | .a2b10g10r10 => some 4
  | .r32f => some 4
  | .g32r32f | .g16r16 | .v16u16 | .q8w8v8u8 => some (min (4 * 2) 4)
  | _ => none

/-- The bytes of a colour, each computed by the parameter. -/
def encodeColor (encoder : Format → Color → Nat → UInt8) (format : Format)
    (color : Color) : Option (List UInt8) :=
  (encodedBytes format).map fun count =>
    (List.range count).map (encoder format color)

/-- The first store is the probe for support, at the start of the buffer.  The
second encoding answers as the first did. -/
def fillBuffer (encoder : Format → Color → Nat → UInt8)
    (bytes : List UInt8) (pitch width height : UInt32) (format : Format)
    (rect : Option Rect) (color : Color) : Option (List UInt8) :=
  match encodeColor encoder format color with
  | none => some bytes
  | some encoded => do
      let bytes ← store bytes 0 encoded
      let bpp := bytesPerPixel format
      let pixel ← store (List.replicate bpp 0) 0 encoded
      forEachPixel (clip width height rect) pitch.toNat bpp
        (fun bytes offset => store bytes offset pixel) bytes

/-- The conversions between depth values and bytes. -/
structure DepthCodec (Depth : Type) where
  zero : Depth
  read16 : UInt8 → UInt8 → Depth
  read24 : UInt8 → UInt8 → UInt8 → Depth
  read32 : UInt8 → UInt8 → UInt8 → UInt8 → Depth
  encode16 : Depth → Nat → UInt8
  encode24 : Depth → Nat → UInt8
  encode32 : Depth → Nat → UInt8

/-- What a pixel holds, from its first byte on. -/
def currentDepthStencil (codec : DepthCodec Depth) (format : Format)
    (px : Nat → UInt8) : Depth × UInt32 :=
  match format with
  | .d16 | .d16Lockable | .df16 => (codec.read16 (px 0) (px 1), 0)
  | .d32 | .d32fLockable | .d32Lockable | .intz | .df24 =>
      (codec.read32 (px 0) (px 1) (px 2) (px 3), 0)
  | .d24s8 => (codec.read24 (px 0) (px 1) (px 2), (px 3).toUInt32)
  | .d24x8 => (codec.read24 (px 0) (px 1) (px 2), 0)
  | .d24fs8 => (codec.read32 (px 0) (px 1) (px 2) (px 3), (px 4).toUInt32)
  | .s8Lockable => (codec.zero, (px 0).toUInt32)
  | _ => (codec.zero, 0)

/-- The bytes that are written back to a pixel. -/
def encodeDepthStencil (codec : DepthCodec Depth) (format : Format)
    (depth : Depth) (stencil : UInt32) : List UInt8 :=
  match format with
  | .d16 | .d16Lockable | .df16 => (List.range 2).map (codec.encode16 depth)
  | .d32 | .d32fLockable | .d32Lockable | .intz | .df24 =>
      (List.range 4).map (codec.encode32 depth)
  | .d24s8 =>
      (List.range 3).map (codec.encode24 depth) ++ [stencil.toUInt8]
  | .d24x8 => (List.range 3).map (codec.encode24 depth) ++ [0]
  | .d24fs8 =>
      (List.range 4).map (codec.encode32 depth) ++ [stencil.toUInt8, 0, 0, 0]
  | .s8Lockable => [stencil.toUInt8]
  | _ => []

/-- What is cleared of a pixel. -/
structure DepthStencilClear (Depth : Type) where
  clearDepth : Bool
  depth : Depth
  clearStencil : Bool
  stencil : UInt32

/-- One pixel: read, replaced by what is cleared, written back. -/
def clearPixel (codec : DepthCodec Depth) (format : Format)
    (clear : DepthStencilClear Depth) (bytes : List UInt8) (offset : Nat) :
    Option (List UInt8) :=
  let current := currentDepthStencil codec format (bytesFrom bytes offset)
  let depth := if clear.clearDepth then clear.depth else current.1
  let stencil :=
    if clear.clearStencil then clear.stencil &&& 0xff else current.2
  store bytes offset (encodeDepthStencil codec format depth stencil)

def fillDepthStencil (codec : DepthCodec Depth) (bytes : List UInt8)
    (pitch width height : UInt32) (format : Format) (rect : Option Rect)
    (clear : DepthStencilClear Depth) : Option (List UInt8) :=
  if width = 0 ∨ height = 0 then some bytes
  else
    let bpp := bytesPerPixel format
    if bpp = 0 then some bytes
    else
      forEachPixel (clip width height rect) pitch.toNat bpp
        (clearPixel codec format clear) bytes

end Dxmt9.Surface

/-!
## Fills and clipped rectangles

A loop over an area writes its pixels and nothing else.  The probe of a colour
fill writes the first pixel of the buffer, inside the rectangle or not.
-/

namespace Dxmt9.Surface

open Dxmt9.Fallible Dxmt9.Memory

/-! ## The clipped rectangle -/

/-- The pixel is on the surface and inside the rectangle, when there is one. -/
def InRegion (width height : UInt32) (rect : Option Rect) (x y : Nat) : Prop :=
  x < width.toNat ∧ y < height.toNat ∧
    ∀ bounds ∈ rect, (bounds.left ≤ x ∧ (x : Int) < bounds.right) ∧
      bounds.top ≤ y ∧ (y : Int) < bounds.bottom

/-- The pixel is one that the loops over an area reach. -/
def InArea (area : Rect) (x y : Nat) : Prop :=
  (area.left ≤ x ∧ (x : Int) < area.right) ∧
    area.top ≤ y ∧ (y : Int) < area.bottom

theorem toSigned_eq (value : UInt32) :
    toSigned value =
      if value.toNat < 2 ^ 31 then (value.toNat : Int)
      else (value.toNat : Int) - 2 ^ 32 := by
  unfold toSigned
  rw [BitVec.toInt_eq_toNat_cond]
  have same : value.toBitVec.toNat = value.toNat := rfl
  rw [same]
  split
  · rw [if_pos (by omega)]
  · rw [if_neg (by omega)]
    rfl

variable {value : UInt32}

theorem toSigned_of_lt (small : value.toNat < 2 ^ 31) :
    toSigned value = value.toNat := by
  rw [toSigned_eq, if_pos small]

/-- A size of 2^31 or more turns negative. -/
theorem toSigned_of_le (large : 2 ^ 31 ≤ value.toNat) :
    toSigned value < 0 := by
  rw [toSigned_eq, if_neg (Nat.not_lt_of_le large)]
  have bound := value.toNat_lt
  omega

/-- Both sizes keep their value as signed words. -/
def SignedSizes (width height : UInt32) : Prop :=
  width.toNat < 2 ^ 31 ∧ height.toNat < 2 ^ 31

instance (width height : UInt32) : Decidable (SignedSizes width height) :=
  inferInstanceAs (Decidable (_ ∧ _))

variable {width height : UInt32} {rect : Option Rect}

/-- Between signed sizes, the clipped area is the clipped rectangle. -/
theorem inArea_clip (sizes : SignedSizes width height) (x y : Nat) :
    InArea (clip width height rect) x y ↔ InRegion width height rect x y := by
  cases rect with
  | none =>
      simp only [InArea, InRegion, clip, toSigned_of_lt sizes.1,
        toSigned_of_lt sizes.2]
      constructor
      · rintro ⟨⟨_, right⟩, _, bottom⟩
        exact ⟨Int.ofNat_lt.mp right, Int.ofNat_lt.mp bottom, nofun⟩
      · rintro ⟨right, bottom, _⟩
        exact ⟨⟨Int.natCast_nonneg _, Int.ofNat_lt.mpr right⟩,
          Int.natCast_nonneg _, Int.ofNat_lt.mpr bottom⟩
  | some bounds =>
      simp only [InArea, InRegion, clip, toSigned_of_lt sizes.1,
        toSigned_of_lt sizes.2, Option.mem_def, Option.some.injEq,
        forall_eq']
      omega

theorem not_inArea_clip (sizes : ¬ SignedSizes width height) (x y : Nat) :
    ¬ InArea (clip width height rect) x y := by
  rintro ⟨⟨_, right⟩, _, bottom⟩
  have bounds : (clip width height rect).right ≤ toSigned width ∧
      (clip width height rect).bottom ≤ toSigned height := by
    cases rect with
    | none => exact ⟨Int.le_refl _, Int.le_refl _⟩
    | some _ => exact ⟨Int.min_le_left _ _, Int.min_le_left _ _⟩
  rcases Decidable.not_and_iff_or_not.mp sizes with wide | high
  · have negative := toSigned_of_le (Nat.le_of_not_lt wide)
    omega
  · have negative := toSigned_of_le (Nat.le_of_not_lt high)
    omega

variable {x y : Nat}

/-- The area is never more than the clipped rectangle. -/
theorem inRegion_of_inArea
    (inside : InArea (clip width height rect) x y) :
    InRegion width height rect x y := by
  by_cases sizes : SignedSizes width height
  · exact (inArea_clip sizes x y).mp inside
  · exact absurd inside (not_inArea_clip sizes x y)

/-- The address is one of the bytes of the pixel. -/
def InPixel (pitch bpp x y address : Nat) : Prop :=
  y * pitch + x * bpp ≤ address ∧ address < y * pitch + x * bpp + bpp

instance (pitch bpp x y address : Nat) :
    Decidable (InPixel pitch bpp x y address) :=
  inferInstanceAs (Decidable (_ ∧ _))

/-- What a surface promises: its rows fit the pitch, and all of them fit the
buffer. -/
structure Holds (pitch bpp : Nat) (width height : UInt32)
    (size : Nat) : Prop where
  row : width.toNat * bpp ≤ pitch
  rows : pitch * height.toNat ≤ size

variable {pitch bpp size : Nat}

section

variable (holds : Holds pitch bpp width height size)
  (inside : InRegion width height rect x y)
include holds inside

theorem Holds.pixel_le_pitch :
    x * bpp + bpp ≤ pitch := by
  rw [← Nat.succ_mul]
  exact Nat.le_trans (Nat.mul_le_mul_right _ inside.1) holds.row

/-- A pixel on the surface ends inside the buffer. -/
theorem Holds.pixel_le_size :
    y * pitch + x * bpp + bpp ≤ size := by
  have row := holds.pixel_le_pitch inside
  have next : (y + 1) * pitch ≤ height.toNat * pitch :=
    Nat.mul_le_mul_right _ inside.2.1
  rw [Nat.succ_mul] at next
  have rows := holds.rows
  rw [Nat.mul_comm] at rows
  omega

end

/-- Two pixels of a surface that share a byte are the same. -/
theorem pixel_unique {other row address : Nat}
    (fits : x * bpp + bpp ≤ pitch) (fitsOther : other * bpp + bpp ≤ pitch)
    (inside : InPixel pitch bpp x y address)
    (insideOther : InPixel pitch bpp other row address) :
    x = other ∧ y = row := by
  have sameRow : ∀ {x y other row : Nat}, x * bpp + bpp ≤ pitch →
      InPixel pitch bpp x y address → InPixel pitch bpp other row address →
      row ≤ y := by
    intro x y other row fits inside insideOther
    by_contra less
    have next : (y + 1) * pitch ≤ row * pitch :=
      Nat.mul_le_mul_right _ (Nat.lt_of_not_le less)
    rw [Nat.succ_mul] at next
    have upper := inside.2
    have lower := insideOther.1
    omega
  have rows : y = row := Nat.le_antisymm
    (sameRow fitsOther insideOther inside) (sameRow fits inside insideOther)
  have sameColumn : ∀ {x other : Nat}, InPixel pitch bpp x y address →
      InPixel pitch bpp other y address → other ≤ x := by
    intro x other inside insideOther
    by_contra less
    have next : (x + 1) * bpp ≤ other * bpp :=
      Nat.mul_le_mul_right _ (Nat.lt_of_not_le less)
    rw [Nat.succ_mul] at next
    have upper := inside.2
    have lower := insideOther.1
    omega
  rw [← rows] at insideOther
  exact ⟨Nat.le_antisymm (sameColumn insideOther inside)
    (sameColumn inside insideOther), rows⟩

variable {offset : Nat}

variable {bytes : List UInt8}

/-- A store inside the buffer. -/
theorem store_eq_some {block : List UInt8}
    (fits : offset + block.length ≤ bytes.length) :
    ∃ after, store bytes offset block = some after ∧
      after.length = bytes.length ∧
      ∀ address, byteAt after address =
        if offset ≤ address ∧ address < offset + block.length then
          byteAt block (address - offset)
        else byteAt bytes address :=
  ⟨_, if_pos fits, length_copyBytes _ _ _ _,
    byteAt_copyBytes fits (byteAt block)⟩

/-- The pixels that the loops over an area reach, in their order. -/
def pixels (area : Rect) : List (Nat × Nat) :=
  (counted area.top area.bottom).flatMap fun y =>
    (counted area.left area.right).map fun x => (y, x)

theorem mem_counted {start stop : Int} (natural : 0 ≤ start) (value : Nat) :
    value ∈ counted start stop ↔ start ≤ value ∧ (value : Int) < stop := by
  simp only [counted, List.mem_map, List.mem_range]
  constructor
  · rintro ⟨step, below, rfl⟩
    omega
  · rintro ⟨above, below⟩
    exact ⟨value - start.toNat, by omega, by omega⟩

theorem clip_natural (width height : UInt32) (rect : Option Rect) :
    0 ≤ (clip width height rect).left ∧ 0 ≤ (clip width height rect).top := by
  cases rect with
  | none => exact ⟨Int.le_refl _, Int.le_refl _⟩
  | some bounds => exact ⟨Int.le_max_left _ _, Int.le_max_left _ _⟩

theorem mem_pixels (x y : Nat) :
    (y, x) ∈ pixels (clip width height rect) ↔
      InArea (clip width height rect) x y := by
  have natural := clip_natural width height rect
  simp only [pixels, List.mem_flatMap, List.mem_map, Prod.mk.injEq,
    mem_counted natural.1, mem_counted natural.2]
  constructor
  · rintro ⟨_, inRows, _, inRow, rfl, rfl⟩
    exact ⟨inRow, inRows⟩
  · rintro ⟨inRow, inRows⟩
    exact ⟨y, inRows, x, inRow, rfl, rfl⟩

theorem forEachPixel_eq (area : Rect) (pitch bpp : Nat)
    (body : List UInt8 → Nat → Option (List UInt8)) (bytes : List UInt8) :
    forEachPixel area pitch bpp body bytes =
      (pixels area).foldlM
        (fun bytes pixel => body bytes (pixel.1 * pitch + pixel.2 * bpp))
        bytes :=
  foldlM_nested _ _ bytes

/-- Every pixel of a region has the given bytes, and every byte outside the
region is as before. -/
structure FillsExactly (region : Nat → Nat → Prop) (pitch : Nat)
    (pixel before after : List UInt8) : Prop where
  length : after.length = before.length
  filled : ∀ x y, region x y → ∀ index < pixel.length,
    byteAt after (y * pitch + x * pixel.length + index) =
      byteAt pixel index
  kept : ∀ address,
    (∀ x y, region x y → ¬ InPixel pitch pixel.length x y address) →
    byteAt after address = byteAt before address

variable {pixel : List UInt8}

/-- One more pixel. -/
theorem FillsExactly.add {region grown : Nat → Nat → Prop}
    {before state next : List UInt8}
    (fills : FillsExactly region pitch pixel before state)
    (rows : ∀ x y, grown x y → x * pixel.length + pixel.length ≤ pitch) (adds : ∀ column row, grown column row ↔
      region column row ∨ (column = x ∧ row = y))
    (length : next.length = state.length)
    (bytesOf : ∀ address, byteAt next address =
      if InPixel pitch pixel.length x y address then
        byteAt pixel (address - (y * pitch + x * pixel.length))
      else byteAt state address) :
    FillsExactly grown pitch pixel before next where
  length := length.trans fills.length
  filled column row member index below := by
    rw [bytesOf]
    have own : InPixel pitch pixel.length column row
        (row * pitch + column * pixel.length + index) :=
      ⟨Nat.le_add_right _ _, Nat.add_lt_add_left below _⟩
    have isGrown : grown x y := (adds x y).mpr (.inr ⟨rfl, rfl⟩)
    by_cases here : InPixel pitch pixel.length x y
        (row * pitch + column * pixel.length + index)
    · rw [if_pos here]
      have ⟨sameColumn, sameRow⟩ := pixel_unique (rows column row member)
        (rows x y isGrown) own here
      rw [← sameColumn, ← sameRow, Nat.add_sub_cancel_left]
    · rw [if_neg here]
      rcases (adds column row).mp member with earlier | ⟨rfl, rfl⟩
      · exact fills.filled column row earlier index below
      · exact absurd own here
  kept address outside := by
    rw [bytesOf, if_neg (outside x y ((adds x y).mpr (.inr ⟨rfl, rfl⟩)))]
    exact fills.kept address fun column row member =>
      outside column row ((adds column row).mpr (.inl member))

theorem forEachPixel_fills (rect : Option Rect)
    (holds : Holds pitch pixel.length width height bytes.length) :
    ∃ after,
      forEachPixel (clip width height rect) pitch pixel.length
          (fun bytes offset => store bytes offset pixel) bytes =
        some after ∧
      FillsExactly (InArea (clip width height rect)) pitch pixel bytes
        after := by
  rw [forEachPixel_eq]
  have inRows : ∀ cell ∈ pixels (clip width height rect),
      InRegion width height rect cell.2 cell.1 := fun cell member =>
    inRegion_of_inArea ((mem_pixels cell.2 cell.1).mp member)
  let step := fun state (cell : Nat × Nat) =>
    store state (cell.1 * pitch + cell.2 * pixel.length) pixel
  let Reached := fun (done : List (Nat × Nat)) (state : List UInt8) =>
    (∀ cell ∈ done, cell ∈ pixels (clip width height rect)) ∧
      FillsExactly (fun x y => (y, x) ∈ done) pitch pixel bytes state
  have steps : ∀ done cell state, cell ∈ pixels (clip width height rect) →
      Reached done state →
      ∃ next, step state cell = some next ∧ Reached (done ++ [cell]) next := by
    rintro done ⟨y, x⟩ state member ⟨earlier, fills⟩
    have fits := holds.pixel_le_size (inRows _ member)
    rw [← fills.length] at fits
    have ⟨next, stored, length, bytesOf⟩ := store_eq_some fits
    have members : ∀ cell ∈ done ++ [(y, x)],
        cell ∈ pixels (clip width height rect) := by
      intro cell inDone
      rcases List.mem_append.mp inDone with inDone | same
      · exact earlier cell inDone
      · rw [List.mem_singleton.mp same]
        exact member
    refine ⟨next, stored, members, fills.add ?_ ?_ length bytesOf⟩
    · exact fun column row inDone =>
        holds.pixel_le_pitch (inRows _ (members _ inDone))
    · intro column row
      rw [List.mem_append, List.mem_singleton, Prod.mk.injEq,
        and_comm (a := row = y)]
  have start : Reached [] bytes :=
    ⟨fun _ member => absurd member List.not_mem_nil, rfl,
      fun _ _ member => absurd member List.not_mem_nil, fun _ _ => rfl⟩
  have ⟨after, looped, _, fills⟩ := foldlM_some_of_steps steps start
  refine ⟨after, looped, ?_⟩
  have sameRegion : (fun x y => (y, x) ∈ pixels (clip width height rect)) =
      InArea (clip width height rect) :=
    funext fun x => funext fun y => propext (mem_pixels x y)
  rw [sameRegion] at fills
  exact fills

/-- Where the loops go on from a probed buffer, they leave an exact fill of the
rectangle just when the probe kept what is outside and the loops reach the
rectangle or need not. -/
theorem fillsExactly_iff {probed after : List UInt8}
    (length : probed.length = bytes.length)
    (fills : FillsExactly (InArea (clip width height rect)) pitch pixel probed
      after) :
    FillsExactly (InRegion width height rect) pitch pixel bytes after ↔
      (∀ address,
        (∀ x y, InRegion width height rect x y →
          ¬ InPixel pitch pixel.length x y address) →
        byteAt probed address = byteAt bytes address) ∧
      (SignedSizes width height ∨
        ∀ x y, InRegion width height rect x y → ∀ index < pixel.length,
          byteAt probed (y * pitch + x * pixel.length + index) =
            byteAt pixel index) := by
  have keptOutside : ∀ address, (∀ x y, InRegion width height rect x y →
        ¬ InPixel pitch pixel.length x y address) →
      byteAt after address = byteAt probed address :=
    fun address outside => fills.kept address fun x y inside =>
      outside x y (inRegion_of_inArea inside)
  have untouched : ¬ SignedSizes width height → ∀ address,
      byteAt after address = byteAt probed address :=
    fun wide address => fills.kept address fun x y inside =>
      absurd inside (not_inArea_clip wide x y)
  constructor
  · intro exact
    refine ⟨fun address outside => ?_, ?_⟩
    · rw [← keptOutside address outside]
      exact exact.kept address outside
    · by_cases sizes : SignedSizes width height
      · exact .inl sizes
      · refine .inr fun x y inside index below => ?_
        rw [← untouched sizes]
        exact exact.filled x y inside index below
  · rintro ⟨kept, reached⟩
    refine ⟨fills.length.trans length, ?_, ?_⟩
    · intro x y inside index below
      rcases reached with sizes | filled
      · exact fills.filled x y ((inArea_clip sizes x y).mpr inside) index below
      · by_cases sizes : SignedSizes width height
        · exact fills.filled x y ((inArea_clip sizes x y).mpr inside) index
            below
        · rw [untouched sizes]
          exact filled x y inside index below
    · intro address outside
      rw [keptOutside address outside]
      exact kept address outside

/-! ## Colour fills -/

variable {Color Depth : Type} {encoder : Format → Color → Nat → UInt8}
  {format : Format} {color : Color}

/-- The bytes of an encoded pixel: those that the encoder writes, then zeros. -/
def encodedPixel (format : Format) (encoded : List UInt8) : List UInt8 :=
  growBytes encoded (bytesPerPixel format)

/-- The encoder never writes more than a pixel has. -/
theorem encodedBytes_le {count : Nat}
    (known : encodedBytes format = some count) :
    count ≤ bytesPerPixel format := by
  revert count
  cases format <;> decide

variable {encoded : List UInt8}

theorem length_encoded
    (isEncoded : encodeColor encoder format color = some encoded) :
    encoded.length ≤ bytesPerPixel format := by
  have ⟨count, known, same⟩ := Option.map_eq_some_iff.mp isEncoded
  rw [← same, List.length_map, List.length_range]
  exact encodedBytes_le known

section

variable (fits : encoded.length ≤ bytesPerPixel format)
include fits

theorem length_encodedPixel :
    (encodedPixel format encoded).length = bytesPerPixel format :=
  (length_growBytes _ _).trans (Nat.max_eq_right fits)

/-- The pixel that the fill copies. -/
theorem store_pixel :
    store (List.replicate (bytesPerPixel format) 0) 0 encoded =
      some (encodedPixel format encoded) := by
  have room : 0 + encoded.length ≤
      (List.replicate (bytesPerPixel format) (0 : UInt8)).length := by
    rw [Nat.zero_add, List.length_replicate]
    exact fits
  have ⟨pixel, stored, length, bytesOf⟩ := store_eq_some room
  rw [stored]
  congr 1
  apply bytes_ext
  · rw [length, List.length_replicate, length_encodedPixel fits]
  · intro address
    rw [bytesOf, encodedPixel, byteAt_growBytes]
    split
    · rfl
    · rename_i outside
      have zero : byteAt (List.replicate (bytesPerPixel format) 0) address =
          0 := by
        unfold byteAt
        rw [List.getD_eq_getElem?_getD, List.getElem?_replicate]
        split
        · rfl
        · rfl
      rw [zero, byteAt_of_length_le (by omega)]

end

/-- What a fill is to do: every pixel of the clipped rectangle gets the encoded
colour and no other byte changes; a format without an encoding is left
alone. -/
def FillsRegion (encoder : Format → Color → Nat → UInt8)
    (bytes : List UInt8) (pitch width height : UInt32) (format : Format)
    (rect : Option Rect) (color : Color) (result : Option (List UInt8)) :
    Prop :=
  ∃ after, result = some after ∧
    match encodeColor encoder format color with
    | none => after = bytes
    | some encoded =>
        FillsExactly (InRegion width height rect) pitch.toNat
          (encodedPixel format encoded) bytes after

/-- The probe stays inside the buffer and writes what belongs there: the first
pixel is to be filled, or it begins with the encoded colour already. -/
def ProbeHarmless (bytes : List UInt8) (width height : UInt32)
    (rect : Option Rect) (encoded : List UInt8) : Prop :=
  encoded.length ≤ bytes.length ∧
    (InRegion width height rect 0 0 ∨
      ∀ index < encoded.length, byteAt bytes index = byteAt encoded index)

/-- The loops reach the clipped rectangle: its sizes are signed words, or the
probe leaves nothing of it to fill. -/
def LoopsReach (bytes : List UInt8) (pitch width height : UInt32)
    (format : Format) (rect : Option Rect) (encoded : List UInt8) : Prop :=
  SignedSizes width height ∨
    ∀ probed ∈ store bytes 0 encoded, ∀ x y, InRegion width height rect x y →
      ∀ index < bytesPerPixel format,
        byteAt probed (y * pitch.toNat + x * bytesPerPixel format + index) =
          byteAt (encodedPixel format encoded) index

section Fill

variable {bytes : List UInt8} {pitch : UInt32} {encoded : List UInt8}

theorem fillBuffer_eq (isEncoded :
      encodeColor encoder format color = some encoded) :
    fillBuffer encoder bytes pitch width height format rect color =
      (store bytes 0 encoded).bind fun probed =>
        forEachPixel (clip width height rect) pitch.toNat
          (encodedPixel format encoded).length
          (fun bytes offset =>
            store bytes offset (encodedPixel format encoded)) probed := by
  have fits := length_encoded isEncoded
  unfold fillBuffer
  rw [isEncoded, length_encodedPixel fits]
  change (store bytes 0 encoded).bind _ = _
  congr 1
  funext probed
  dsimp only
  rw [store_pixel fits]
  rfl

theorem fillBuffer_filled (rect : Option Rect)
    (holds : Holds pitch.toNat (bytesPerPixel format) width height
      bytes.length)
    (isEncoded : encodeColor encoder format color = some encoded)
    (room : encoded.length ≤ bytes.length) :
    ∃ probed after, store bytes 0 encoded = some probed ∧
      probed.length = bytes.length ∧
      (∀ address, byteAt probed address =
        if address < encoded.length then byteAt encoded address
        else byteAt bytes address) ∧
      fillBuffer encoder bytes pitch width height format rect color =
        some after ∧
      FillsExactly (InArea (clip width height rect)) pitch.toNat
        (encodedPixel format encoded) probed after := by
  have fits := length_encoded isEncoded
  have start : 0 + encoded.length ≤ bytes.length := by
    rw [Nat.zero_add]
    exact room
  have ⟨probed, stored, length, bytesOf⟩ := store_eq_some start
  have surface : Holds pitch.toNat (encodedPixel format encoded).length width
      height probed.length := by
    rw [length_encodedPixel fits, length]
    exact holds
  have ⟨after, looped, fills⟩ := forEachPixel_fills rect surface
  refine ⟨probed, after, stored, length, fun address => ?_, ?_, fills⟩
  · rw [bytesOf, Nat.zero_add]
    simp only [Nat.zero_le, true_and, Nat.sub_zero]
  · rw [fillBuffer_eq isEncoded, stored]
    exact looped

theorem first_pixel_unique
    (holds : Holds pitch.toNat (bytesPerPixel format) width height
      bytes.length)
    {x y index : Nat} (inside : InRegion width height rect x y)
    (below : index < bytesPerPixel format)
    (shared : InPixel pitch.toNat (bytesPerPixel format) x y index) :
    x = 0 ∧ y = 0 := by
  have fits := holds.pixel_le_pitch inside
  have first : InPixel pitch.toNat (bytesPerPixel format) 0 0 index := by
    unfold InPixel
    omega
  exact pixel_unique fits (by omega) shared first

/-- The bytes outside the clipped rectangle are kept just when the probe is
harmless. -/
theorem probe_kept_iff (rect : Option Rect)
    (holds : Holds pitch.toNat (bytesPerPixel format) width height
      bytes.length)
    (fits : encoded.length ≤ bytesPerPixel format) {probed : List UInt8}
    (bytesOf : ∀ address, byteAt probed address =
      if address < encoded.length then byteAt encoded address
      else byteAt bytes address) :
    (∀ address,
        (∀ x y, InRegion width height rect x y →
          ¬ InPixel pitch.toNat (bytesPerPixel format) x y address) →
        byteAt probed address = byteAt bytes address) ↔
      (InRegion width height rect 0 0 ∨
        ∀ index < encoded.length,
          byteAt bytes index = byteAt encoded index) := by
  constructor
  · intro kept
    by_cases first : InRegion width height rect 0 0
    · exact .inl first
    · refine .inr fun index below => ?_
      have same := kept index fun x y inside shared => by
        have ⟨column, row⟩ := first_pixel_unique holds inside
          (Nat.lt_of_lt_of_le below fits) shared
        rw [column, row] at inside
        exact first inside
      rw [bytesOf, if_pos below] at same
      exact same.symm
  · rintro (first | begins) address outside
    · rw [bytesOf, if_neg]
      intro below
      apply outside 0 0 first
      unfold InPixel
      omega
    · rw [bytesOf]
      split
      · rename_i below
        exact (begins address below).symm
      · rfl

/-- A fill does what it is to do just when the probe is harmless and the loops
reach the rectangle. -/
theorem fillBuffer_fills_iff
    (holds : Holds pitch.toNat (bytesPerPixel format) width height
      bytes.length) :
    FillsRegion encoder bytes pitch width height format rect color
        (fillBuffer encoder bytes pitch width height format rect color) ↔
      ∀ encoded ∈ encodeColor encoder format color,
        ProbeHarmless bytes width height rect encoded ∧
          LoopsReach bytes pitch width height format rect encoded := by
  unfold FillsRegion
  cases isEncoded : encodeColor encoder format color with
  | none =>
      refine iff_of_true ⟨bytes, ?_, rfl⟩ nofun
      unfold fillBuffer
      rw [isEncoded]
  | some encoded =>
      have fits := length_encoded isEncoded
      simp only [Option.mem_def, Option.some.injEq, forall_eq']
      by_cases room : encoded.length ≤ bytes.length
      · have ⟨probed, after, stored, length, bytesOf, looped, fills⟩ :=
          fillBuffer_filled rect holds isEncoded room
        have kept := probe_kept_iff rect holds fits bytesOf
        have exact := fillsExactly_iff length fills
        rw [length_encodedPixel fits, kept] at exact
        rw [looped]
        simp only [Option.some.injEq, exists_eq_left', exact, ProbeHarmless,
          room, true_and, LoopsReach, stored, Option.mem_def, forall_eq']
      · refine iff_of_false ?_ fun both => room both.1.1
        rintro ⟨after, filled, _⟩
        rw [fillBuffer_eq isEncoded, store, if_neg (by omega)] at filled
        exact nomatch filled

end Fill

/-- How many bytes of a pixel are written back. -/
def depthStencilBytes : Format → Nat
  | .d16 | .d16Lockable | .df16 => 2
  | .d32 | .d32fLockable | .d32Lockable | .intz | .df24 => 4
  | .d24s8 | .d24x8 => 4
  | .d24fs8 => 8
  | .s8Lockable => 1
  | _ => 0

theorem length_encodeDepthStencil (codec : DepthCodec Depth) (format : Format)
    (depth : Depth) (stencil : UInt32) :
    (encodeDepthStencil codec format depth stencil).length =
      depthStencilBytes format := by
  cases format <;> rfl

theorem depthStencilBytes_le (format : Format) :
    depthStencilBytes format ≤ bytesPerPixel format := by
  revert format
  intro format
  cases format <;> decide

section

variable (codec : DepthCodec Depth) (clear : DepthStencilClear Depth)
include codec clear

theorem clearPixel_keeps
    (fits : offset + bytesPerPixel format ≤ bytes.length) :
    ∃ after, clearPixel codec format clear bytes offset = some after ∧
      after.length = bytes.length ∧
      ∀ address,
        ¬ (offset ≤ address ∧ address < offset + bytesPerPixel format) →
        byteAt after address = byteAt bytes address := by
  have written := depthStencilBytes_le format
  unfold clearPixel
  dsimp only
  generalize hblock : encodeDepthStencil codec format _ _ = block
  have length : block.length = depthStencilBytes format := by
    rw [← hblock]
    exact length_encodeDepthStencil _ _ _ _
  have room : offset + block.length ≤ bytes.length := by omega
  have ⟨after, stored, same, bytesOf⟩ := store_eq_some room
  refine ⟨after, stored, same, fun address outside => ?_⟩
  rw [bytesOf, if_neg (by omega)]

theorem fillDepthStencil_keeps {pitch : UInt32}
    (holds : Holds pitch.toNat (bytesPerPixel format) width height
      bytes.length) :
    ∃ after,
      fillDepthStencil codec bytes pitch width height format rect clear =
        some after ∧
      after.length = bytes.length ∧
      ∀ address,
        (∀ x y, InRegion width height rect x y →
          ¬ InPixel pitch.toNat (bytesPerPixel format) x y address) →
        byteAt after address = byteAt bytes address := by
  unfold fillDepthStencil
  split
  · exact ⟨bytes, rfl, rfl, fun _ _ => rfl⟩
  · dsimp only
    split
    · exact ⟨bytes, rfl, rfl, fun _ _ => rfl⟩
    · rw [forEachPixel_eq]
      have inRows : ∀ cell ∈ pixels (clip width height rect),
          InRegion width height rect cell.2 cell.1 := fun cell member =>
        inRegion_of_inArea ((mem_pixels cell.2 cell.1).mp member)
      let Reached := fun (_ : List (Nat × Nat)) (state : List UInt8) =>
        state.length = bytes.length ∧ ∀ address,
          (∀ x y, InRegion width height rect x y →
            ¬ InPixel pitch.toNat (bytesPerPixel format) x y address) →
          byteAt state address = byteAt bytes address
      have start : Reached [] bytes := ⟨rfl, fun _ _ => rfl⟩
      refine foldlM_some_of_steps ?_ start
      rintro done ⟨y, x⟩ state member ⟨length, kept⟩
      have inside := inRows _ member
      have fits := holds.pixel_le_size inside
      rw [← length] at fits
      have ⟨next, cleared, same, keptBytes⟩ :=
        clearPixel_keeps codec clear fits
      refine ⟨next, cleared, same.trans length, fun address outside => ?_⟩
      rw [keptBytes address (outside x y inside)]
      exact kept address outside

end

/-- A colour fill writes the clipped rectangle and nothing else just when its
probe is harmless and its loops reach the rectangle; a depth or stencil fill
never writes outside it. -/
theorem regionFills_exact_iff (encoder : Format → Color → Nat → UInt8)
    (color : Color) (codec : DepthCodec Depth)
    (clear : DepthStencilClear Depth) (bytes : List UInt8)
    (pitch width height : UInt32) (format : Format) (rect : Option Rect)
    (holds : Holds pitch.toNat (bytesPerPixel format) width height
      bytes.length) :
    (FillsRegion encoder bytes pitch width height format rect color
        (fillBuffer encoder bytes pitch width height format rect color) ↔
      ∀ encoded ∈ encodeColor encoder format color,
        ProbeHarmless bytes width height rect encoded ∧
          LoopsReach bytes pitch width height format rect encoded) ∧
    ∃ after,
      fillDepthStencil codec bytes pitch width height format rect clear =
        some after ∧
      after.length = bytes.length ∧
      ∀ address,
        (∀ x y, InRegion width height rect x y →
          ¬ InPixel pitch.toNat (bytesPerPixel format) x y address) →
        byteAt after address = byteAt bytes address :=
  ⟨fillBuffer_fills_iff holds, fillDepthStencil_keeps codec clear holds⟩

theorem two_pixels_hold :
    Holds (8 : UInt32).toNat (bytesPerPixel .a8r8g8b8) 2 1
      (List.replicate 8 (0 : UInt8)).length :=
  ⟨by decide, by decide⟩

/-- A fill of both pixels, and a clear of the second one. -/
theorem regionFills_exact_whole :
    FillsRegion (fun _ (color : UInt8) _ => color) (List.replicate 8 0) 8 2 1
        .a8r8g8b8 none 0xff
        (fillBuffer (fun _ (color : UInt8) _ => color) (List.replicate 8 0) 8
          2 1 .a8r8g8b8 none 0xff) := by
  have codec : DepthCodec UInt8 :=
    { zero := 0
      read16 := fun low _ => low
      read24 := fun low _ _ => low
      read32 := fun low _ _ _ => low
      encode16 := fun depth _ => depth
      encode24 := fun depth _ => depth
      encode32 := fun depth _ => depth }
  have clear : DepthStencilClear UInt8 :=
    { clearDepth := true
      depth := 1
      clearStencil := false
      stencil := 0 }
  apply (regionFills_exact_iff (fun _ (color : UInt8) _ => color) 0xff codec
    clear _ 8 2 1 .a8r8g8b8 none two_pixels_hold).1.mpr
  intro encoded isEncoded
  have same : encoded = [0xff, 0xff, 0xff, 0xff] :=
    (Option.some.inj isEncoded).symm
  rw [same]
  exact ⟨⟨by decide, .inl ⟨by decide, by decide, nofun⟩⟩,
    .inl ⟨by decide, by decide⟩⟩

/-- A fill of the second pixel also writes the first one. -/
theorem regionFill_probes_first_pixel :
    ¬ FillsRegion (fun _ (color : UInt8) _ => color) (List.replicate 8 0) 8 2
        1 .a8r8g8b8
        (some { left := 1, top := 0, right := 2, bottom := 1 }) 0xff
        (fillBuffer (fun _ (color : UInt8) _ => color) (List.replicate 8 0) 8
          2 1 .a8r8g8b8
          (some { left := 1, top := 0, right := 2, bottom := 1 }) 0xff) := by
  rintro ⟨after, filled, fills⟩
  have written : fillBuffer (fun _ (color : UInt8) _ => color)
      (List.replicate 8 0) 8 2 1 .a8r8g8b8
      (some { left := 1, top := 0, right := 2, bottom := 1 }) 0xff =
      some (List.replicate 8 0xff) := by decide
  have same : after = List.replicate 8 0xff :=
    Option.some.inj (filled.symm.trans written)
  have kept := fills.kept 0 fun x y inside shared => by
    have right := (inside.2.2 _ rfl).1.1
    have lower := shared.1
    have width : (encodedPixel .a8r8g8b8 [0xff, 0xff, 0xff, 0xff]).length =
        4 := by decide
    change y * 8 + x * (encodedPixel .a8r8g8b8
      [0xff, 0xff, 0xff, 0xff]).length ≤ 0 at lower
    rw [width] at lower
    dsimp only at right
    omega
  rw [same] at kept
  exact absurd kept (by decide)

end Dxmt9.Surface
