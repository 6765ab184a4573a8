import Mathlib.Algebra.Order.Group.Nat
import Mathlib.Data.Nat.Init
import Dxmt9.CpuReady.PayloadLayout

/-!
# Where a source payload layout puts its regions

The regions follow one another at their alignments, the page count is the
least that holds them, and a smaller capacity takes no more room.
-/

namespace Dxmt9.SourcePayload

open Dxmt9.CpuReady

/-! ## Checked arithmetic -/

theorem isPowerOfTwo_iff {value : Nat} :
    CpuReady.isPowerOfTwo value = true ↔ ∃ exponent, value = 2 ^ exponent := by
  unfold CpuReady.isPowerOfTwo
  rw [Bool.and_eq_true, bne_iff_ne, beq_iff_eq]
  exact Nat.ne_zero_and_sub_one_eq_zero_iff_isPowerOfTwo

theorem pos_of_isPowerOfTwo {value : Nat}
    (power : CpuReady.isPowerOfTwo value = true) : 0 < value := by
  obtain ⟨exponent, rfl⟩ := isPowerOfTwo_iff.mp power
  exact Nat.two_pow_pos exponent

theorem dvd_max_of_isPowerOfTwo {left right : Nat}
    (leftPower : CpuReady.isPowerOfTwo left = true)
    (rightPower : CpuReady.isPowerOfTwo right = true) :
    CpuReady.isPowerOfTwo (max left right) = true ∧
      left ∣ max left right ∧ right ∣ max left right := by
  obtain ⟨first, rfl⟩ := isPowerOfTwo_iff.mp leftPower
  obtain ⟨second, rfl⟩ := isPowerOfTwo_iff.mp rightPower
  rcases Nat.le_total first second with below | below
  · rw [Nat.max_eq_right (Nat.pow_le_pow_right Nat.two_pos below)]
    exact ⟨rightPower, Nat.pow_dvd_pow 2 below, Nat.dvd_refl _⟩
  · rw [Nat.max_eq_left (Nat.pow_le_pow_right Nat.two_pos below)]
    exact ⟨leftPower, Nat.dvd_refl _, Nat.pow_dvd_pow 2 below⟩

theorem checkedAdd_some {left right sum : Nat} (small : left ≤ kMaxSize) :
    checkedAdd left right = some sum ↔
      sum = left + right ∧ left + right ≤ kMaxSize := by
  unfold checkedAdd
  split
  · rename_i large
    exact ⟨nofun, fun both => absurd both.2 (by omega)⟩
  · rename_i fits
    rw [Option.some.injEq]
    exact ⟨fun same => ⟨same.symm, by omega⟩, fun both => both.1.symm⟩

theorem checkedMultiply_some {left right product : Nat} :
    checkedMultiply left right = some product ↔
      product = left * right ∧ left * right ≤ kMaxSize := by
  unfold checkedMultiply
  by_cases zero : left = 0
  · subst zero
    rw [if_neg (fun both => both.1 rfl), Nat.zero_mul, Option.some.injEq]
    exact ⟨fun same => ⟨same.symm, Nat.zero_le _⟩, fun both => both.1.symm⟩
  · have bound : right ≤ kMaxSize / left ↔ left * right ≤ kMaxSize := by
      rw [Nat.le_div_iff_mul_le (Nat.pos_of_ne_zero zero), Nat.mul_comm]
    by_cases large : kMaxSize / left < right
    · rw [if_pos ⟨zero, large⟩]
      exact ⟨nofun, fun both =>
        absurd (bound.mpr both.2) (Nat.not_le.mpr large)⟩
    · rw [if_neg (fun both => large both.2), Option.some.injEq]
      exact ⟨fun same => ⟨same.symm, bound.mp (Nat.not_lt.mp large)⟩,
        fun both => both.1.symm⟩

/-- A value rounded up to an alignment. -/
def alignUp (value alignment : Nat) : Nat :=
  (value + (alignment - 1)) / alignment * alignment

theorem checkedAlignUp_some {value alignment aligned : Nat} :
    checkedAlignUp value alignment = some aligned ↔
      CpuReady.isPowerOfTwo alignment = true ∧
        value ≤ kMaxSize - (alignment - 1) ∧
        aligned = alignUp value alignment := by
  unfold checkedAlignUp
  cases power : CpuReady.isPowerOfTwo alignment with
  | false => exact ⟨nofun, fun all => nomatch all.1⟩
  | true =>
      rw [Bool.not_true, if_neg Bool.false_ne_true]
      dsimp only
      split
      · rename_i large
        exact ⟨nofun, fun all => absurd all.2.1 (Nat.not_le.mpr large)⟩
      · rename_i fits
        rw [Option.some.injEq]
        exact ⟨fun same => ⟨rfl, Nat.not_lt.mp fits, same.symm⟩,
          fun all => all.2.2.symm⟩

theorem le_alignUp (value : Nat) {alignment : Nat} (positive : 0 < alignment) :
    value ≤ alignUp value alignment := by
  unfold alignUp
  have shape := Nat.div_add_mod (value + (alignment - 1)) alignment
  have rest := Nat.mod_lt (value + (alignment - 1)) positive
  rw [Nat.mul_comm] at shape
  omega

theorem alignUp_mono {small large : Nat} (alignment : Nat)
    (below : small ≤ large) :
    alignUp small alignment ≤ alignUp large alignment :=
  Nat.mul_le_mul_right alignment
    (Nat.div_le_div_right (Nat.add_le_add_right below _))

theorem alignUp_mod (value alignment : Nat) :
    alignUp value alignment % alignment = 0 :=
  Nat.mul_mod_left ..

variable {sizes : PayloadSizes} {capacity : SourcePayloadCapacity}
  {layout placed : SourcePayloadLayout} {id : SourcePayloadRegion}

/-- The region that a capacity takes at an offset. -/
def regionAt (sizes : PayloadSizes) (capacity : SourcePayloadCapacity)
    (id : SourcePayloadRegion) (offset : Nat) :
    SourcePayloadLayoutRegion where
  id := id
  offset := offset
  byteCount := capacity id * regionElementSize sizes id
  alignment := regionAlignment sizes id
  elementCount := capacity id
  elementSize := regionElementSize sizes id

/-- When a region can be placed behind what is used. -/
structure Places (sizes : PayloadSizes) (capacity : SourcePayloadCapacity)
    (used : Nat) (id : SourcePayloadRegion) : Prop where
  counted : capacity id ≤ kMaxU32
  power : CpuReady.isPowerOfTwo (regionAlignment sizes id) = true
  aligns : used ≤ kMaxSize - (regionAlignment sizes id - 1)
  ends : alignUp used (regionAlignment sizes id) +
    capacity id * regionElementSize sizes id ≤ kMaxSize

/-- The layout with one region more. -/
def withRegion (sizes : PayloadSizes) (capacity : SourcePayloadCapacity)
    (layout : SourcePayloadLayout) (id : SourcePayloadRegion) :
    SourcePayloadLayout :=
  let offset := alignUp layout.usedBytes (regionAlignment sizes id)
  { layout with
    regions := layout.regions ++ [regionAt sizes capacity id offset]
    usedBytes := offset + capacity id * regionElementSize sizes id
    maximumAlignment :=
      max layout.maximumAlignment (regionAlignment sizes id) }

theorem alignUp_le_of_le {value alignment : Nat}
    (small : value ≤ kMaxSize - (alignment - 1)) :
    alignUp value alignment ≤ kMaxSize := by
  by_cases narrow : alignment - 1 ≤ kMaxSize
  · have below : alignUp value alignment ≤ value + (alignment - 1) :=
      Nat.div_mul_le_self ..
    omega
  · have none : value = 0 := by omega
    subst none
    unfold alignUp
    rw [Nat.zero_add, Nat.div_eq_of_lt (by omega), Nat.zero_mul]
    exact Nat.zero_le _

theorem placeRegion_some :
    placeRegion sizes capacity layout id = some placed ↔
      Places sizes capacity layout.usedBytes id ∧
        placed = withRegion sizes capacity layout id := by
  unfold placeRegion
  split
  · rename_i large
    exact ⟨nofun, fun both =>
      absurd both.1.counted (Nat.not_le.mpr large)⟩
  · rename_i counted
    simp only [Option.bind_eq_bind, Option.bind_eq_some_iff,
      checkedAlignUp_some, checkedMultiply_some]
    constructor
    · rintro ⟨offset, ⟨power, aligns, rfl⟩, byteCount, ⟨rfl, product⟩, stop,
        added, same⟩
      have inside := alignUp_le_of_le aligns
      obtain ⟨rfl, ends⟩ := (checkedAdd_some inside).mp added
      exact ⟨⟨Nat.not_lt.mp counted, power, aligns, ends⟩,
        (Option.some.inj same).symm⟩
    · rintro ⟨places, rfl⟩
      have inside := alignUp_le_of_le places.aligns
      have product := places.ends
      exact ⟨_, ⟨places.power, places.aligns, rfl⟩, _, ⟨rfl, by omega⟩, _,
        (checkedAdd_some inside).mpr ⟨rfl, places.ends⟩, rfl⟩

/-- The regions of a list placed one behind the other. -/
def withRegions (sizes : PayloadSizes) (capacity : SourcePayloadCapacity)
    (layout : SourcePayloadLayout) (ids : List SourcePayloadRegion) :
    SourcePayloadLayout :=
  ids.foldl (withRegion sizes capacity) layout

/-- When all of them can be placed. -/
def PlacesAll (sizes : PayloadSizes) (capacity : SourcePayloadCapacity) :
    SourcePayloadLayout → List SourcePayloadRegion → Prop
  | _, [] => True
  | layout, id :: rest =>
    Places sizes capacity layout.usedBytes id ∧
      PlacesAll sizes capacity (withRegion sizes capacity layout id) rest

theorem foldlM_placeRegion_some {ids : List SourcePayloadRegion} :
    ids.foldlM (placeRegion sizes capacity) layout = some placed ↔
      PlacesAll sizes capacity layout ids ∧
        placed = withRegions sizes capacity layout ids := by
  induction ids generalizing layout with
  | nil =>
      change some layout = some placed ↔ True ∧ placed = layout
      rw [Option.some.injEq, true_and]
      exact eq_comm
  | cons id rest induction =>
      rw [List.foldlM_cons, Option.bind_eq_bind, Option.bind_eq_some_iff]
      constructor
      · rintro ⟨next, first, others⟩
        obtain ⟨places, rfl⟩ := placeRegion_some.mp first
        obtain ⟨all, same⟩ := induction.mp others
        exact ⟨⟨places, all⟩, same⟩
      · rintro ⟨⟨places, all⟩, same⟩
        exact ⟨_, placeRegion_some.mpr ⟨places, rfl⟩,
          induction.mpr ⟨all, same⟩⟩

/-- What holds of the regions placed so far. -/
structure LaysOut (sizes : PayloadSizes) (capacity : SourcePayloadCapacity)
    (done : List SourcePayloadRegion) (layout : SourcePayloadLayout) :
    Prop where
  ids : layout.regions.map (·.id) = done
  shape : ∀ region ∈ layout.regions,
    region = regionAt sizes capacity region.id region.offset
  counted : ∀ region ∈ layout.regions, region.elementCount ≤ kMaxU32
  power : ∀ region ∈ layout.regions,
    CpuReady.isPowerOfTwo region.alignment = true
  aligned : ∀ region ∈ layout.regions, region.offset % region.alignment = 0
  inside : ∀ region ∈ layout.regions,
    region.offset + region.byteCount ≤ layout.usedBytes
  ordered : layout.regions.Pairwise fun before after =>
    before.offset + before.byteCount ≤ after.offset
  used : layout.usedBytes ≤ kMaxSize
  cursor : layout.regions.foldl
    (fun _ region => region.offset + region.byteCount) 0 = layout.usedBytes
  widest : layout.regions.foldl
    (fun most region => max most region.alignment) 1 =
      layout.maximumAlignment
  base : CpuReady.isPowerOfTwo layout.maximumAlignment = true
  divides : ∀ region ∈ layout.regions,
    region.alignment ∣ layout.maximumAlignment
  pages : layout.pageCount = 0

theorem laysOut_start : LaysOut sizes capacity [] {} where
  ids := rfl
  shape := fun _ member => nomatch member
  counted := fun _ member => nomatch member
  power := fun _ member => nomatch member
  aligned := fun _ member => nomatch member
  inside := fun _ member => nomatch member
  ordered := List.Pairwise.nil
  used := Nat.zero_le _
  cursor := rfl
  widest := rfl
  base := rfl
  divides := fun _ member => nomatch member
  pages := rfl

theorem LaysOut.withRegion {done : List SourcePayloadRegion}
    (laid : LaysOut sizes capacity done layout)
    (places : Places sizes capacity layout.usedBytes id) :
    LaysOut sizes capacity (done ++ [id])
      (SourcePayload.withRegion sizes capacity layout id) := by
  have wider := dvd_max_of_isPowerOfTwo laid.base places.power
  have behind := le_alignUp layout.usedBytes (pos_of_isPowerOfTwo places.power)
  have grown : layout.usedBytes ≤
      alignUp layout.usedBytes (regionAlignment sizes id) +
        capacity id * regionElementSize sizes id :=
    Nat.le_add_right_of_le behind
  have every : ∀ holds : SourcePayloadLayoutRegion → Prop,
      (∀ region ∈ layout.regions, holds region) →
      holds (regionAt sizes capacity id
        (alignUp layout.usedBytes (regionAlignment sizes id))) →
      ∀ region ∈ (SourcePayload.withRegion sizes capacity layout
        id).regions, holds region := by
    intro holds earlier last region member
    cases List.mem_append.mp member with
    | inl before => exact earlier region before
    | inr new =>
        rw [List.mem_singleton.mp new]
        exact last
  exact
    { ids := by
        change (layout.regions ++ [_]).map _ = _
        rw [List.map_append, laid.ids]
        rfl
      shape := every _ laid.shape rfl
      counted := every _ laid.counted places.counted
      power := every _ laid.power places.power
      aligned := every _ laid.aligned (alignUp_mod ..)
      inside := every _
        (fun region member => Nat.le_trans (laid.inside region member) grown)
        (Nat.le_refl _)
      ordered := by
        apply List.pairwise_append.mpr
        refine ⟨laid.ordered, List.pairwise_singleton .., ?_⟩
        intro before member after new
        rw [List.mem_singleton.mp new]
        exact Nat.le_trans (laid.inside before member) behind
      used := places.ends
      cursor := by
        change (layout.regions ++ [_]).foldl _ 0 = _
        rw [List.foldl_append]
        rfl
      widest := by
        change (layout.regions ++ [_]).foldl _ 1 = _
        rw [List.foldl_append, laid.widest]
        rfl
      base := wider.1
      divides := every _
        (fun region member => Nat.dvd_trans (laid.divides region member)
          wider.2.1) wider.2.2
      pages := laid.pages }

theorem LaysOut.withRegions {done ids : List SourcePayloadRegion}
    (laid : LaysOut sizes capacity done layout)
    (places : PlacesAll sizes capacity layout ids) :
    LaysOut sizes capacity (done ++ ids)
      (SourcePayload.withRegions sizes capacity layout ids) := by
  induction ids generalizing done layout with
  | nil =>
      rw [List.append_nil]
      exact laid
  | cons id rest induction =>
      have next := induction (laid.withRegion places.1) places.2
      rw [List.append_assoc] at next
      exact next

/-- A smaller capacity behind less use is placed as well, and uses less. -/
theorem PlacesAll.smaller {less : SourcePayloadCapacity}
    {small : SourcePayloadLayout} {ids : List SourcePayloadRegion}
    (below : ∀ id, less id ≤ capacity id)
    (used : small.usedBytes ≤ layout.usedBytes)
    (widths : small.maximumAlignment = layout.maximumAlignment)
    (places : PlacesAll sizes capacity layout ids) :
    PlacesAll sizes less small ids ∧
      (withRegions sizes less small ids).usedBytes ≤
        (withRegions sizes capacity layout ids).usedBytes ∧
      (withRegions sizes less small ids).maximumAlignment =
        (withRegions sizes capacity layout ids).maximumAlignment := by
  induction ids generalizing small layout with
  | nil => exact ⟨trivial, used, widths⟩
  | cons id rest induction =>
      have stop : alignUp small.usedBytes (regionAlignment sizes id) +
          less id * regionElementSize sizes id ≤
            alignUp layout.usedBytes (regionAlignment sizes id) +
              capacity id * regionElementSize sizes id :=
        Nat.add_le_add (alignUp_mono _ used)
          (Nat.mul_le_mul_right _ (below id))
      have first : Places sizes less small.usedBytes id :=
        { counted := Nat.le_trans (below id) places.1.counted
          power := places.1.power
          aligns := Nat.le_trans used places.1.aligns
          ends := Nat.le_trans stop places.1.ends }
      have used : (withRegion sizes less small id).usedBytes ≤
          (withRegion sizes capacity layout id).usedBytes := stop
      have widths : (withRegion sizes less small id).maximumAlignment =
          (withRegion sizes capacity layout id).maximumAlignment :=
        congrArg (max · _) widths
      obtain ⟨others, bytes, same⟩ := induction used widths places.2
      exact ⟨⟨first, others⟩, bytes, same⟩

/-- The pages that hold some bytes. -/
def pagesFor (usedBytes pageSize : Nat) : Nat :=
  (usedBytes + pageSize - 1) / pageSize

theorem pagesFor_zero {pageSize : Nat} (positive : 0 < pageSize) :
    pagesFor 0 pageSize = 0 :=
  Nat.div_eq_of_lt (by omega)

/-- The page count is the least that holds the bytes. -/
theorem pagesFor_le_iff {usedBytes pageSize pages : Nat}
    (positive : 0 < pageSize) :
    pagesFor usedBytes pageSize ≤ pages ↔ usedBytes ≤ pages * pageSize := by
  unfold pagesFor
  rw [← Nat.lt_succ_iff, Nat.div_lt_iff_lt_mul positive, Nat.succ_mul]
  omega

theorem pagesFor_mono {small large : Nat} (pageSize : Nat)
    (below : small ≤ large) :
    pagesFor small pageSize ≤ pagesFor large pageSize :=
  Nat.div_le_div_right (Nat.sub_le_sub_right (Nat.add_le_add_right below _) _)

/-- What a finished layout was placed as. -/
structure Finishes (sizes : PayloadSizes) (capacity : SourcePayloadCapacity)
    (pageSize maxPages : Nat) (placed : SourcePayloadLayout) : Prop where
  page : 0 < pageSize
  limit : 0 < maxPages
  places : PlacesAll sizes capacity {} sourcePayloadRegions
  built : placed = withRegions sizes capacity {} sourcePayloadRegions
  fits : pageSize % placed.maximumAlignment = 0
  rounds : placed.usedBytes ≤ kMaxSize - (pageSize - 1)
  few : pagesFor placed.usedBytes pageSize ≤ kMaxU32
  limited : pagesFor placed.usedBytes pageSize ≤ maxPages

/-- A placed layout with its base alignment and its pages. -/
def finished (pageSize : Nat) (placed : SourcePayloadLayout) :
    SourcePayloadLayout :=
  { placed with
    requiredBaseAlignment := placed.maximumAlignment
    pageCount := pagesFor placed.usedBytes pageSize }

theorem makeSourcePayloadLayout_some {pageSize maxPages : Nat} :
    makeSourcePayloadLayout sizes capacity pageSize maxPages = some layout ↔
      ∃ placed, Finishes sizes capacity pageSize maxPages placed ∧
        layout = finished pageSize placed := by
  unfold makeSourcePayloadLayout
  by_cases none : pageSize = 0 ∨ maxPages = 0
  · rw [if_pos none]
    refine ⟨nofun, ?_⟩
    rintro ⟨placed, finishes, -⟩
    exact none.elim (Nat.ne_of_gt finishes.page)
      (Nat.ne_of_gt finishes.limit) |>.elim
  · rw [if_neg none]
    push Not at none
    have page := Nat.pos_of_ne_zero none.1
    have limit := Nat.pos_of_ne_zero none.2
    cases folded : sourcePayloadRegions.foldlM (placeRegion sizes capacity)
        {} with
    | none =>
        refine ⟨nofun, ?_⟩
        rintro ⟨placed, finishes, -⟩
        rw [foldlM_placeRegion_some.mpr ⟨finishes.places, rfl⟩] at folded
        exact nomatch folded
    | some placed =>
        obtain ⟨places, same⟩ := foldlM_placeRegion_some.mp folded
        have laid : LaysOut sizes capacity sourcePayloadRegions placed := by
          rw [same]
          exact laysOut_start.withRegions places
        have unique : ∀ other, Finishes sizes capacity pageSize maxPages
            other → other = placed :=
          fun other finishes => finishes.built.trans same.symm
        dsimp only
        by_cases unfit : pageSize % placed.maximumAlignment ≠ 0
        · rw [if_pos unfit]
          refine ⟨nofun, ?_⟩
          rintro ⟨other, finishes, -⟩
          exact absurd (unique other finishes ▸ finishes.fits) unfit
        rw [if_neg unfit]
        by_cases empty : placed.usedBytes = 0
        · rw [if_pos empty, Option.some.injEq]
          have pages := pagesFor_zero page
          have nothing : finished pageSize placed =
              { placed with
                requiredBaseAlignment := placed.maximumAlignment } := by
            unfold finished
            rw [empty, pages, ← laid.pages]
          constructor
          · intro equal
            refine ⟨placed, ⟨page, limit, places, same, not_not.mp unfit,
              ?_, ?_, ?_⟩, equal.symm.trans nothing.symm⟩
            · rw [empty]
              exact Nat.zero_le _
            · rw [empty, pages]
              exact Nat.zero_le _
            · rw [empty, pages]
              exact Nat.zero_le _
          · rintro ⟨other, finishes, rfl⟩
            rw [unique other finishes, nothing]
        · rw [if_neg empty]
          by_cases large : kMaxSize - (pageSize - 1) < placed.usedBytes
          · rw [if_pos large]
            refine ⟨nofun, ?_⟩
            rintro ⟨other, finishes, -⟩
            have rounds := finishes.rounds
            rw [unique other finishes] at rounds
            exact absurd large (Nat.not_lt.mpr rounds)
          rw [if_neg large]
          split
          · rename_i many
            refine ⟨nofun, ?_⟩
            rintro ⟨other, finishes, -⟩
            have few := finishes.few
            have limited := finishes.limited
            rw [unique other finishes] at few limited
            exact many.elim (Nat.not_lt.mpr few) (Nat.not_lt.mpr limited)
              |>.elim
          · rename_i many
            rw [Option.some.injEq]
            push Not at many
            constructor
            · intro equal
              exact ⟨placed, ⟨page, limit, places, same, not_not.mp unfit,
                Nat.not_lt.mp large, many.1, many.2⟩, equal.symm⟩
            · rintro ⟨other, finishes, rfl⟩
              rw [unique other finishes]
              rfl

end Dxmt9.SourcePayload
