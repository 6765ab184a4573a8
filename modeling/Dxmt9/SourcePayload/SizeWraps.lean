import Dxmt9.SourcePayload.LayoutBounds
import Dxmt9.Memory.MachineArithmetic
import Dxmt9.SourcePayload.PreflightSound

/-!
# Payloads packed into one extent

The layout of several payloads behind one another is valid by the checks that
its readers make, and its pages hold all of them.
-/

namespace Dxmt9.SourcePayload

open Dxmt9.CpuReady

/-- The loop over the segments: where the last one ends. -/
def validSegments :
    List ArenaSourcePayloadSegmentLayout → Nat → Option Nat
  | [], cursor => some cursor
  | segment :: rest, cursor =>
    let alignment := segment.layout.requiredBaseAlignment
    if segment.layout.usedBytes = 0 ∨ segment.layout.pageCount = 0 ∨
        alignment = 0 ∨ alignment &&& (alignment - 1) ≠ 0 ∨
        segment.byteOffset < cursor ∨ segment.byteOffset % alignment ≠ 0 ∨
        kMaxSize - segment.byteOffset < segment.layout.usedBytes then
      none
    else
      validSegments rest (segment.byteOffset + segment.layout.usedBytes)

def valid (layout : ArenaSourcePayloadLayout) : Bool :=
  if layout.segmentCount = 0 ∨
      kMaxArenaSourcePayloadSegments < layout.segmentCount ∨
      layout.usedBytes = 0 ∨ layout.pageCount = 0 then
    false
  else
    match validSegments (layout.segments.take layout.segmentCount) 0 with
    | none => false
    | some cursor => cursor == layout.usedBytes

/-- What holds of the segments packed so far. -/
structure Packed (done : List SourcePayloadLayout)
    (result : ArenaSourcePayloadLayout) : Prop where
  layouts : result.segments.map (·.layout) = done
  valid : validSegments result.segments 0 = some result.usedBytes
  inside : ∀ segment ∈ result.segments,
    segment.byteOffset + segment.layout.usedBytes ≤ result.usedBytes
  ordered : result.segments.Pairwise fun before after =>
    before.byteOffset + before.layout.usedBytes ≤ after.byteOffset
  used : result.usedBytes ≤ kMaxSize
  filled : done ≠ [] → result.usedBytes ≠ 0

variable {pageSize maxPages : Nat} {result placed : ArenaSourcePayloadLayout}
  {segment : SourcePayloadLayout} {segments done : List SourcePayloadLayout}

theorem packed_start : Packed [] {} where
  layouts := rfl
  valid := rfl
  inside := nofun
  ordered := .nil
  used := Nat.zero_le _
  filled := fun some => absurd rfl some

theorem validSegments_append
    {front back : List ArenaSourcePayloadSegmentLayout} {cursor stop : Nat}
    (passed : validSegments front cursor = some stop) :
    validSegments (front ++ back) cursor = validSegments back stop := by
  induction front generalizing cursor with
  | nil =>
      cases passed
      rfl
  | cons segment front induction =>
      rw [validSegments] at passed
      rw [List.cons_append, validSegments]
      split at passed
      · exact nomatch passed
      · rename_i checks
        rw [if_neg checks]
        exact induction passed

theorem Packed.placeSegment (packed : Packed done result)
    (more : placeSegment pageSize result segment = some placed) :
    Packed (done ++ [segment]) placed := by
  unfold CpuReady.placeSegment at more
  split at more
  · exact nomatch more
  · rename_i checks
    push Not at checks
    obtain ⟨used, pages, power, fits⟩ := checks
    simp only [Option.bind_eq_bind, Option.bind_eq_some_iff,
      checkedAlignUp_some] at more
    obtain ⟨offset, ⟨shape, aligns, rfl⟩, stop, added, same⟩ := more
    have based := alignUp_le_of_le aligns
    have positive := pos_of_isPowerOfTwo shape
    have behind := le_alignUp result.usedBytes positive
    obtain ⟨rfl, ends⟩ := (checkedAdd_some based).mp added
    cases same
    refine
      { layouts := ?_, valid := ?_, inside := ?_, ordered := ?_
        used := ends, filled := ?_ }
    · rw [List.map_append, packed.layouts]
      rfl
    · dsimp only
      rw [validSegments_append packed.valid, validSegments]
      dsimp only
      rw [if_neg]
      · rfl
      · rintro (empty | unpaged | none | mixed | before | off | large)
        · exact used empty
        · exact pages unpaged
        · exact Nat.ne_of_gt positive none
        · have bits := Bool.and_eq_true_iff.mp shape
          exact mixed (beq_iff_eq.mp bits.2)
        · exact Nat.not_lt.mpr behind before
        · exact off (alignUp_mod ..)
        · omega
    · intro other member
      cases List.mem_append.mp member with
      | inl before =>
          exact Nat.le_trans (packed.inside other before)
            (Nat.le_trans behind (Nat.le_add_right ..))
      | inr last =>
          rw [List.mem_singleton.mp last]
    · apply List.pairwise_append.mpr
      refine ⟨packed.ordered, List.pairwise_singleton .., ?_⟩
      intro before member after last
      rw [List.mem_singleton.mp last]
      exact Nat.le_trans (packed.inside before member) behind
    · intro _ empty
      exact used (Nat.eq_zero_of_add_eq_zero_left empty)

theorem Packed.placeSegments (packed : Packed done result)
    (more : segments.foldlM (CpuReady.placeSegment pageSize) result =
      some placed) :
    Packed (done ++ segments) placed := by
  induction segments generalizing done result with
  | nil =>
      cases more
      rw [List.append_nil]
      exact packed
  | cons segment rest induction =>
      rw [List.foldlM_cons, Option.bind_eq_bind, Option.bind_eq_some_iff]
        at more
      obtain ⟨next, first, others⟩ := more
      have all := induction (packed.placeSegment first) others
      rw [List.append_assoc] at all
      exact all

/-- What a reader of a packed layout relies on. -/
structure Packs (segments : List SourcePayloadLayout) (pageSize : Nat)
    (maxPages : Nat) (layout : ArenaSourcePayloadLayout) : Prop where
  layouts : layout.segments.map (·.layout) = segments
  valid : valid layout = true
  disjoint : layout.segments.Pairwise fun before after =>
    before.byteOffset + before.layout.usedBytes ≤ after.byteOffset
  inside : ∀ segment ∈ layout.segments,
    segment.byteOffset + segment.layout.usedBytes ≤
      layout.pageCount * pageSize
  within : ∀ segment ∈ layout.segments,
    segment.byteOffset + segment.layout.usedBytes ≤ layout.usedBytes
  used : layout.usedBytes ≤ kMaxSize
  least : ∀ pages, layout.usedBytes ≤ pages * pageSize →
    layout.pageCount ≤ pages
  limited : layout.pageCount ≤ maxPages

theorem makeArenaSourcePayloadLayout_packs
    {layout : ArenaSourcePayloadLayout}
    (made : makeArenaSourcePayloadLayout segments pageSize maxPages =
      some layout) :
    Packs segments pageSize maxPages layout := by
  unfold makeArenaSourcePayloadLayout at made
  split at made
  · exact nomatch made
  · rename_i checks
    push Not at checks
    obtain ⟨some, few, page, limit⟩ := checks
    have positive := Nat.pos_of_ne_zero page
    split at made
    · exact nomatch made
    · rename_i placed folded
      have packed := packed_start.placeSegments folded
      rw [List.nil_append] at packed
      split at made
      · exact nomatch made
      · dsimp only at made
        split at made
        · exact nomatch made
        · rename_i limits
          push Not at limits
          cases made
          have holds : placed.usedBytes ≤
              pagesFor placed.usedBytes pageSize * pageSize :=
            (pagesFor_le_iff positive).mp (Nat.le_refl _)
          have lengths : placed.segments.length = segments.length := by
            rw [← packed.layouts, List.length_map]
          refine
            { layouts := packed.layouts, valid := ?_
              disjoint := packed.ordered
              inside := fun segment member =>
                Nat.le_trans (packed.inside segment member) holds
              within := packed.inside
              used := packed.used
              least := fun pages => (pagesFor_le_iff positive).mpr
              limited := limits.2.1 }
          unfold SourcePayload.valid
          dsimp only
          rw [if_neg]
          · rw [← lengths, List.take_length, packed.valid]
            exact beq_self_eq_true _
          · rintro (none | many | unused | unpaged)
            · exact some (List.eq_nil_of_length_eq_zero none)
            · exact Nat.not_lt.mpr few many
            · exact packed.filled some unused
            · exact limits.1 unpaged

end Dxmt9.SourcePayload

/-!
## Layouts computed in machine words

The functions of a layout with every sum, difference and product taken in
64-bit words.  They give what they give over all numbers, and the only
operation that ever wraps is the sum under the page count.
-/

namespace Dxmt9.SourcePayload.Words

open Dxmt9.CpuReady Dxmt9.Memory

/-! ## Checked arithmetic -/

def isPowerOfTwo (value : Nat) : Tracked Bool :=
  if value = 0 then pure false
  else do
    let mask ← subWord 64 value 1
    pure (value &&& mask == 0)

def checkedAdd (lhs rhs : Nat) : Tracked (Option Nat) := do
  let room ← subWord 64 kMaxSize lhs
  if room < rhs then pure none
  else do
    let sum ← addWord 64 lhs rhs
    pure (some sum)

def checkedMultiply (lhs rhs : Nat) : Tracked (Option Nat) :=
  if lhs ≠ 0 ∧ kMaxSize / lhs < rhs then pure none
  else do
    let product ← mulWord 64 lhs rhs
    pure (some product)

/-- The complement of the mask is taken in a word as well. -/
def checkedAlignUp (value alignment : Nat) : Tracked (Option Nat) := do
  let power ← isPowerOfTwo alignment
  if !power then pure none
  else do
    let mask ← subWord 64 alignment 1
    let room ← subWord 64 kMaxSize mask
    if room < value then pure none
    else do
      let raised ← addWord 64 value mask
      pure (some (raised &&& (kMaxSize ^^^ mask)))

variable {value : Nat}

theorem inside_of_le (small : value ≤ kMaxSize) : value < 2 ^ 64 :=
  Nat.lt_of_le_pred (Nat.two_pow_pos 64) small

theorem isPowerOfTwo_exact (small : value ≤ kMaxSize) :
    isPowerOfTwo value = pure (CpuReady.isPowerOfTwo value) := by
  unfold isPowerOfTwo CpuReady.isPowerOfTwo
  by_cases zero : value = 0
  · subst zero
    rfl
  · rw [if_neg zero, subWord_exact (Nat.one_le_iff_ne_zero.mpr zero)
      (inside_of_le small), Tracked.exact_bind, bne_iff_ne.mpr zero,
      Bool.true_and]

variable {lhs rhs : Nat}

theorem checkedAdd_exact (small : lhs ≤ kMaxSize) :
    checkedAdd lhs rhs = pure (CpuReady.checkedAdd lhs rhs) := by
  unfold checkedAdd CpuReady.checkedAdd
  rw [subWord_exact small (inside_of_le (Nat.le_refl _)), Tracked.exact_bind]
  split
  · rfl
  · rename_i fits
    have room : lhs + rhs ≤ kMaxSize := by omega
    rw [addWord_exact (inside_of_le room), Tracked.exact_bind]

theorem checkedMultiply_exact :
    checkedMultiply lhs rhs = pure (CpuReady.checkedMultiply lhs rhs) := by
  have product := @checkedMultiply_some lhs rhs (lhs * rhs)
  unfold checkedMultiply
  unfold CpuReady.checkedMultiply at product ⊢
  split
  · rfl
  · rename_i fits
    rw [if_neg fits] at product
    rw [mulWord_exact (inside_of_le (product.mp rfl).2), Tracked.exact_bind]

theorem checkedAlignUp_exact {alignment : Nat}
    (small : alignment ≤ kMaxSize) :
    checkedAlignUp value alignment =
      pure (CpuReady.checkedAlignUp value alignment) := by
  unfold checkedAlignUp CpuReady.checkedAlignUp
  rw [isPowerOfTwo_exact small, Tracked.exact_bind]
  cases shape : CpuReady.isPowerOfTwo alignment with
  | false => rfl
  | true =>
      have positive := pos_of_isPowerOfTwo shape
      obtain ⟨exponent, rfl⟩ := isPowerOfTwo_iff.mp shape
      rw [Bool.not_true, if_neg Bool.false_ne_true, if_neg Bool.false_ne_true,
        subWord_exact positive (inside_of_le small), Tracked.exact_bind,
        subWord_exact (Nat.le_trans (Nat.sub_le ..) small)
          (inside_of_le (Nat.le_refl _)), Tracked.exact_bind]
      dsimp only
      split
      · rfl
      · rename_i fits
        have narrow : 2 ^ exponent - 1 ≤ kMaxSize :=
          Nat.le_trans (Nat.sub_le ..) small
        have room : value + (2 ^ exponent - 1) ≤ kMaxSize := by omega
        have exponents : exponent ≤ 64 :=
          Nat.le_of_lt ((Nat.pow_lt_pow_iff_right (Nat.lt_succ_self 1)).mp
            (inside_of_le small))
        rw [addWord_exact (inside_of_le room), Tracked.exact_bind]
        change pure (some (_ &&& ((2 ^ 64 - 1) ^^^ _))) = _
        rw [and_complement_mask (inside_of_le room) exponents]

/-! ## Regions -/

variable {sizes : PayloadSizes} {capacity : SourcePayloadCapacity}

def placeRegion (sizes : PayloadSizes) (capacity : SourcePayloadCapacity)
    (layout : SourcePayloadLayout) (region : SourcePayloadRegion) :
    Tracked (Option SourcePayloadLayout) :=
  if kMaxU32 < capacity region then pure none
  else do
    let alignment := regionAlignment sizes region
    let elementSize := regionElementSize sizes region
    match ← checkedAlignUp layout.usedBytes alignment with
    | none => pure none
    | some offset =>
        match ← checkedMultiply (capacity region) elementSize with
        | none => pure none
        | some byteCount =>
            match ← checkedAdd offset byteCount with
            | none => pure none
            | some stop =>
                pure (some { layout with
                  regions := layout.regions ++
                    [{ id := region
                       offset := offset
                       byteCount := byteCount
                       alignment := alignment
                       elementCount := capacity region
                       elementSize := elementSize }]
                  usedBytes := stop
                  maximumAlignment := max layout.maximumAlignment alignment })

def placeRegions (sizes : PayloadSizes) (capacity : SourcePayloadCapacity) :
    List SourcePayloadRegion → SourcePayloadLayout →
    Tracked (Option SourcePayloadLayout)
  | [], layout => pure (some layout)
  | region :: rest, layout => do
      match ← placeRegion sizes capacity layout region with
      | none => pure none
      | some next => placeRegions sizes capacity rest next

/-- The pages under some bytes, unless rounding up to a page would leave the
range. -/
def pagesWithin (usedBytes pageSize : Nat) : Tracked (Option Nat) := do
  let slack ← subWord 64 pageSize 1
  let room ← subWord 64 kMaxSize slack
  if room < usedBytes then pure none
  else do
    let sum ← addWord 64 usedBytes pageSize
    let last ← subWord 64 sum 1
    pure (some (last / pageSize))

def makeSourcePayloadLayout (sizes : PayloadSizes)
    (capacity : SourcePayloadCapacity) (pageSize maxPages : Nat) :
    Tracked (Option SourcePayloadLayout) :=
  if pageSize = 0 ∨ maxPages = 0 then pure none
  else do
    match ← placeRegions sizes capacity sourcePayloadRegions {} with
    | none => pure none
    | some placed =>
        let layout :=
          { placed with requiredBaseAlignment := placed.maximumAlignment }
        if pageSize % layout.requiredBaseAlignment ≠ 0 then pure none
        else if layout.usedBytes = 0 then pure (some layout)
        else do
          match ← pagesWithin layout.usedBytes pageSize with
          | none => pure none
          | some pages =>
              if kMaxU32 < pages ∨ maxPages < pages then pure none
              else pure (some { layout with pageCount := pages })

variable {layout : SourcePayloadLayout}

theorem placeRegion_exact
    {region : SourcePayloadRegion}
    (small : regionAlignment sizes region ≤ kMaxSize) :
    placeRegion sizes capacity layout region =
      pure (CpuReady.placeRegion sizes capacity layout region) := by
  unfold placeRegion CpuReady.placeRegion
  split
  · rfl
  · dsimp only
    rw [checkedAlignUp_exact small, Tracked.exact_bind]
    cases aligned : CpuReady.checkedAlignUp layout.usedBytes
        (regionAlignment sizes region) with
    | none => rfl
    | some offset =>
        obtain ⟨-, inside, rfl⟩ := checkedAlignUp_some.mp aligned
        dsimp only
        rw [checkedMultiply_exact, Tracked.exact_bind]
        cases product : CpuReady.checkedMultiply (capacity region)
            (regionElementSize sizes region) with
        | none => rfl
        | some byteCount =>
            dsimp only
            rw [checkedAdd_exact (alignUp_le_of_le inside), Tracked.exact_bind]
            change _ = pure ((CpuReady.checkedAdd _ byteCount).bind _)
            cases CpuReady.checkedAdd
              (alignUp layout.usedBytes (regionAlignment sizes region))
              byteCount with
            | none => rfl
            | some stop => rfl

theorem placeRegions_exact {ids : List SourcePayloadRegion}
    (small : ∀ region, regionAlignment sizes region ≤ kMaxSize) :
    placeRegions sizes capacity ids layout =
      pure (ids.foldlM (CpuReady.placeRegion sizes capacity) layout) := by
  induction ids generalizing layout with
  | nil => rfl
  | cons region rest induction =>
      rw [placeRegions, placeRegion_exact (small region),
        Tracked.exact_bind, List.foldlM_cons]
      cases CpuReady.placeRegion sizes capacity layout region with
      | none => rfl
      | some next => exact induction

/-- The one sum that may wrap, and then only to zero. -/
theorem pagesWithin_eq {usedBytes pageSize : Nat} (positive : 0 < pageSize)
    (small : pageSize ≤ kMaxSize) :
    pagesWithin usedBytes pageSize =
      ⟨if kMaxSize - (pageSize - 1) < usedBytes then none
        else some (pagesFor usedBytes pageSize),
        decide (usedBytes + pageSize = 2 ^ 64)⟩ := by
  have limit : kMaxSize = 2 ^ 64 - 1 := rfl
  unfold pagesWithin
  rw [subWord_exact positive (inside_of_le small), Tracked.exact_bind,
    subWord_exact (Nat.le_trans (Nat.sub_le ..) small)
      (inside_of_le (Nat.le_refl _)), Tracked.exact_bind]
  by_cases large : kMaxSize - (pageSize - 1) < usedBytes
  · have beyond : usedBytes + pageSize ≠ 2 ^ 64 := by omega
    rw [if_pos large, if_pos large, decide_eq_false beyond]
    rfl
  · rw [if_neg large, if_neg large]
    by_cases full : usedBytes + pageSize = 2 ^ 64
    · have wrapped := subWord_addWord_full full
      have value := congrArg Tracked.value wrapped
      have flag := congrArg Tracked.wrapped wrapped
      rw [Tracked.bind_value] at value
      rw [Tracked.bind_wrapped] at flag
      ext
      · rw [Tracked.bind_value, Tracked.bind_value, value]
        rfl
      · rw [Tracked.bind_wrapped, Tracked.bind_wrapped,
          Tracked.pure_wrapped, Bool.or_false, flag, decide_eq_true full]
    · have inside : usedBytes + pageSize < 2 ^ 64 := by omega
      rw [addWord_exact inside, Tracked.exact_bind,
        subWord_exact (Nat.le_add_left_of_le positive) inside,
        Tracked.exact_bind, decide_eq_false full]
      rfl

/-- When the sum under the page count of a payload is taken and leaves the
range. -/
def PageSumWraps (sizes : PayloadSizes) (capacity : SourcePayloadCapacity)
    (pageSize maxPages : Nat) : Prop :=
  maxPages ≠ 0 ∧ ∃ placed,
    sourcePayloadRegions.foldlM (CpuReady.placeRegion sizes capacity) {} =
      some placed ∧
    pageSize % placed.maximumAlignment = 0 ∧ placed.usedBytes ≠ 0 ∧
    placed.usedBytes + pageSize = 2 ^ 64

/-- A placed payload on the pages that were found for it. -/
def paged (maxPages : Nat) (placed : SourcePayloadLayout) :
    Option Nat → Option SourcePayloadLayout
  | none => none
  | some pages =>
      if kMaxU32 < pages ∨ maxPages < pages then none
      else some { placed with
        requiredBaseAlignment := placed.maximumAlignment
        pageCount := pages }

theorem makeSourcePayloadLayout_words {pageSize maxPages : Nat}
    (alignments : ∀ region, regionAlignment sizes region ≤ kMaxSize)
    (page : pageSize ≤ kMaxSize) :
    (makeSourcePayloadLayout sizes capacity pageSize maxPages).value =
        CpuReady.makeSourcePayloadLayout sizes capacity pageSize maxPages ∧
      ((makeSourcePayloadLayout sizes capacity pageSize maxPages).wrapped =
          true ↔
        PageSumWraps sizes capacity pageSize maxPages) := by
  unfold makeSourcePayloadLayout CpuReady.makeSourcePayloadLayout
  by_cases none : pageSize = 0 ∨ maxPages = 0
  · rw [if_pos none, if_pos none]
    refine ⟨rfl, nofun, ?_⟩
    rintro ⟨some, placed, folded, -, used, full⟩
    cases none with
    | inr empty => exact absurd empty some
    | inl empty =>
        obtain ⟨places, rfl⟩ := foldlM_placeRegion_some.mp folded
        have bound := inside_of_le (laysOut_start.withRegions places).used
        rw [empty, Nat.add_zero] at full
        exact absurd full (Nat.ne_of_lt bound)
  · rw [if_neg none, if_neg none, placeRegions_exact alignments,
      Tracked.exact_bind]
    push Not at none
    have positive := Nat.pos_of_ne_zero none.1
    cases folded : sourcePayloadRegions.foldlM
        (CpuReady.placeRegion sizes capacity) {} with
    | none =>
        refine ⟨rfl, nofun, ?_⟩
        rintro ⟨-, placed, other, -⟩
        exact nomatch folded.symm.trans other
    | some placed =>
        have only : PageSumWraps sizes capacity pageSize maxPages ↔
            pageSize % placed.maximumAlignment = 0 ∧ placed.usedBytes ≠ 0 ∧
              placed.usedBytes + pageSize = 2 ^ 64 := by
          constructor
          · rintro ⟨-, other, same, rest⟩
            cases folded.symm.trans same
            exact rest
          · intro rest
            exact ⟨none.2, placed, folded, rest⟩
        rw [only]
        dsimp only
        by_cases unfit : pageSize % placed.maximumAlignment ≠ 0
        · rw [if_pos unfit, if_pos unfit]
          exact ⟨rfl, nofun, fun all => absurd all.1 unfit⟩
        · rw [if_neg unfit, if_neg unfit]
          by_cases empty : placed.usedBytes = 0
          · rw [if_pos empty, if_pos empty]
            exact ⟨rfl, nofun, fun all => absurd empty all.2.1⟩
          · rw [if_neg empty, if_neg empty, pagesWithin_eq positive page,
              @Tracked.bind_exact _ _ _ _ (paged maxPages placed)]
            · constructor
              · by_cases large : kMaxSize - (pageSize - 1) < placed.usedBytes
                · rw [if_pos large, if_pos large]
                  rfl
                · rw [if_neg large, if_neg large]
                  rfl
              · rw [decide_eq_true_iff]
                exact ⟨fun full => ⟨not_not.mp unfit, empty, full⟩,
                  fun all => all.2.2⟩
            · intro pages
              cases pages with
              | none => rfl
              | some pages =>
                  by_cases many : kMaxU32 < pages ∨ maxPages < pages
                  · simp only [paged, if_pos many]
                  · simp only [paged, if_neg many]

def placeSegment (pageSize : Nat) (result : ArenaSourcePayloadLayout)
    (segment : SourcePayloadLayout) :
    Tracked (Option ArenaSourcePayloadLayout) :=
  if segment.usedBytes = 0 ∨ segment.pageCount = 0 then pure none
  else do
    let power ← isPowerOfTwo segment.requiredBaseAlignment
    if !power ∨ pageSize % segment.requiredBaseAlignment ≠ 0 then pure none
    else
      match ← checkedAlignUp result.usedBytes
          segment.requiredBaseAlignment with
      | none => pure none
      | some offset =>
          match ← checkedAdd offset segment.usedBytes with
          | none => pure none
          | some stop =>
              pure (some { result with
                segments := result.segments ++ [⟨segment, offset⟩]
                usedBytes := stop })

def placeSegments (pageSize : Nat) :
    List SourcePayloadLayout → ArenaSourcePayloadLayout →
    Tracked (Option ArenaSourcePayloadLayout)
  | [], result => pure (some result)
  | segment :: rest, result => do
      match ← placeSegment pageSize result segment with
      | none => pure none
      | some next => placeSegments pageSize rest next

def makeArenaSourcePayloadLayout (segments : List SourcePayloadLayout)
    (pageSize maxPages : Nat) : Tracked (Option ArenaSourcePayloadLayout) :=
  if segments = [] ∨ kMaxArenaSourcePayloadSegments < segments.length ∨
      pageSize = 0 ∨ maxPages = 0 then
    pure none
  else do
    match ← placeSegments pageSize segments {} with
    | none => pure none
    | some placed =>
        match ← pagesWithin placed.usedBytes pageSize with
        | none => pure none
        | some pages =>
            if pages = 0 ∨ maxPages < pages ∨ kMaxU32 < pages then pure none
            else
              pure (some { placed with
                segmentCount := segments.length
                pageCount := pages })

variable {pageSize maxPages : Nat} {segments : List SourcePayloadLayout}

variable {result : ArenaSourcePayloadLayout}

theorem placeSegment_exact
    {segment : SourcePayloadLayout}
    (small : segment.requiredBaseAlignment ≤ kMaxSize) :
    placeSegment pageSize result segment =
      pure (CpuReady.placeSegment pageSize result segment) := by
  unfold placeSegment CpuReady.placeSegment
  by_cases empty : segment.usedBytes = 0 ∨ segment.pageCount = 0
  · rw [if_pos empty, if_pos (or_assoc.mp (Or.inl empty))]
  · rw [if_neg empty, isPowerOfTwo_exact small, Tracked.exact_bind]
    by_cases unfit :
        (!CpuReady.isPowerOfTwo segment.requiredBaseAlignment) = true ∨
          pageSize % segment.requiredBaseAlignment ≠ 0
    · rw [if_pos unfit, if_pos (or_assoc.mp (Or.inr unfit))]
    · rw [if_neg unfit,
        if_neg (fun either => (or_assoc.mpr either).elim empty unfit),
        checkedAlignUp_exact small, Tracked.exact_bind]
      cases aligned : CpuReady.checkedAlignUp result.usedBytes
          segment.requiredBaseAlignment with
      | none => rfl
      | some offset =>
          obtain ⟨-, inside, rfl⟩ := checkedAlignUp_some.mp aligned
          dsimp only
          rw [checkedAdd_exact (alignUp_le_of_le inside), Tracked.exact_bind]
          change _ = pure ((CpuReady.checkedAdd _ segment.usedBytes).bind _)
          cases CpuReady.checkedAdd
            (alignUp result.usedBytes segment.requiredBaseAlignment)
            segment.usedBytes with
          | none => rfl
          | some stop => rfl

theorem placeSegments_exact
    (small : ∀ segment ∈ segments, segment.requiredBaseAlignment ≤ kMaxSize) :
    placeSegments pageSize segments result =
      pure (segments.foldlM (CpuReady.placeSegment pageSize) result) := by
  induction segments generalizing result with
  | nil => rfl
  | cons segment rest induction =>
      have both := List.forall_mem_cons.mp small
      rw [placeSegments, placeSegment_exact both.1, Tracked.exact_bind,
        List.foldlM_cons]
      cases CpuReady.placeSegment pageSize result segment with
      | none => rfl
      | some next => exact induction both.2

/-- When the sum under the page count of packed payloads is taken and leaves
the range. -/
def ArenaPageSumWraps (segments : List SourcePayloadLayout)
    (pageSize maxPages : Nat) : Prop :=
  segments ≠ [] ∧ segments.length ≤ kMaxArenaSourcePayloadSegments ∧
    pageSize ≠ 0 ∧ maxPages ≠ 0 ∧ ∃ placed,
      segments.foldlM (CpuReady.placeSegment pageSize) {} = some placed ∧
      placed.usedBytes + pageSize = 2 ^ 64

/-- Packed payloads on the pages that were found for them. -/
def arenaPaged (maxPages count : Nat) (placed : ArenaSourcePayloadLayout) :
    Option Nat → Option ArenaSourcePayloadLayout
  | none => none
  | some pages =>
      if pages = 0 ∨ maxPages < pages ∨ kMaxU32 < pages then none
      else some { placed with segmentCount := count, pageCount := pages }

theorem makeArenaSourcePayloadLayout_words
    (alignments : ∀ segment ∈ segments,
      segment.requiredBaseAlignment ≤ kMaxSize)
    (page : pageSize ≤ kMaxSize) :
    (makeArenaSourcePayloadLayout segments pageSize maxPages).value =
        CpuReady.makeArenaSourcePayloadLayout segments pageSize maxPages ∧
      ((makeArenaSourcePayloadLayout segments pageSize maxPages).wrapped =
          true ↔
        ArenaPageSumWraps segments pageSize maxPages) := by
  unfold makeArenaSourcePayloadLayout CpuReady.makeArenaSourcePayloadLayout
  by_cases none : segments = [] ∨
      kMaxArenaSourcePayloadSegments < segments.length ∨ pageSize = 0 ∨
        maxPages = 0
  · rw [if_pos none, if_pos none]
    refine ⟨rfl, nofun, ?_⟩
    rintro ⟨some, few, page, limit, -⟩
    rcases none with empty | many | unpaged | unlimited
    · exact absurd empty some
    · exact absurd many (Nat.not_lt.mpr few)
    · exact absurd unpaged page
    · exact absurd unlimited limit
  · rw [if_neg none, if_neg none, placeSegments_exact alignments,
      Tracked.exact_bind]
    push Not at none
    obtain ⟨some, few, positive, limit⟩ := none
    cases folded : segments.foldlM (CpuReady.placeSegment pageSize) {} with
    | none =>
        refine ⟨rfl, nofun, ?_⟩
        rintro ⟨-, -, -, -, placed, other, -⟩
        exact nomatch folded.symm.trans other
    | some placed =>
        dsimp only
        rw [pagesWithin_eq (Nat.pos_of_ne_zero positive) page,
          @Tracked.bind_exact _ _ _ _
            (arenaPaged maxPages segments.length placed)]
        · constructor
          · by_cases large : kMaxSize - (pageSize - 1) < placed.usedBytes
            · rw [if_pos large, if_pos large]
              rfl
            · rw [if_neg large, if_neg large]
              rfl
          · rw [decide_eq_true_iff]
            constructor
            · intro full
              exact ⟨some, few, positive, limit, placed, folded, full⟩
            · rintro ⟨-, -, -, -, other, same, full⟩
              cases folded.symm.trans same
              exact full
        · intro pages
          cases pages with
          | none => rfl
          | some pages =>
              by_cases many : pages = 0 ∨ maxPages < pages ∨ kMaxU32 < pages
              · simp only [arenaPaged, if_pos many]
              · simp only [arenaPaged, if_neg many]

end Dxmt9.SourcePayload.Words
