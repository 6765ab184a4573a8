import Dxmt9.SourcePayload.SizeWraps

/-!
# Checks computed in machine words

The checks that a layout has to pass, with every sum and difference taken in
64-bit words: none of them wraps.
-/

namespace Dxmt9.SourcePayload.Words

open Dxmt9.CpuReady Dxmt9.Memory

variable {sizes : PayloadSizes} {memory : ByteSpan}
  {layout : SourcePayloadLayout}

/-! ## Preflight -/

def preflightRegion (sizes : PayloadSizes) (memory : ByteSpan)
    (layout : SourcePayloadLayout) (id : SourcePayloadRegion) :
    Tracked Bool :=
  let region := regionOf layout id
  let elementSize := regionElementSize sizes id
  let alignment := regionAlignment sizes id
  if region.id ≠ id ∨ region.elementSize ≠ elementSize ∨
      region.alignment ≠ alignment ∨ kMaxU32 < region.elementCount then
    pure false
  else do
    let expected ← checkedMultiply region.elementCount elementSize
    if expected ≠ some region.byteCount ∨ region.offset % alignment ≠ 0 ∨
        layout.usedBytes < region.offset then
      pure false
    else do
      let room ← subWord 64 layout.usedBytes region.offset
      if room < region.byteCount ∨ memory.size < region.offset then
        pure false
      else do
        let behind ← subWord 64 memory.size region.offset
        if behind < region.byteCount then pure false
        else if region.byteCount = 0 then pure true
        else do
          let address ← addWord 64 memory.address region.offset
          pure (decide (address % alignment = 0))

def preflightExtents (memory : ByteSpan) (usedBytes : Nat) :
    List SourcePayloadRegion → List SourcePayloadLayoutRegion → Nat → Nat →
    Tracked (Option (Nat × Nat))
  | id :: ids, region :: regions, cursor, maximumAlignment =>
    if region.id ≠ id then pure none
    else do
      let power ← isPowerOfTwo region.alignment
      if !power ∨ region.offset < cursor ∨
          region.offset % region.alignment ≠ 0 then
        pure none
      else
        match ← checkedAdd region.offset region.byteCount with
        | none => pure none
        | some stop =>
            if usedBytes < stop ∨ memory.size < stop then pure none
            else
              preflightExtents memory usedBytes ids regions stop
                (max maximumAlignment region.alignment)
  | _, _, cursor, maximumAlignment => pure (some (cursor, maximumAlignment))

def preflightNamed (sizes : PayloadSizes) (memory : ByteSpan)
    (layout : SourcePayloadLayout) :
    List SourcePayloadRegion → Tracked Bool
  | [] => pure true
  | id :: rest => do
      let passed ← preflightRegion sizes memory layout id
      if passed then preflightNamed sizes memory layout rest else pure false

def preflightLayout (sizes : PayloadSizes) (memory : ByteSpan)
    (layout : SourcePayloadLayout) : Tracked Bool := do
  let power ← isPowerOfTwo layout.requiredBaseAlignment
  if !power ∨ layout.requiredBaseAlignment ≠ layout.maximumAlignment ∨
      memory.size < layout.usedBytes ∨ kMaxU32 < layout.pageCount ∨
      (layout.usedBytes == 0) ≠ (layout.pageCount == 0) ∨
      (layout.usedBytes ≠ 0 ∧
        (memory.address = 0 ∨
          memory.address % layout.requiredBaseAlignment ≠ 0)) then
    pure false
  else
    match ← preflightExtents memory layout.usedBytes sourcePayloadRegions
        layout.regions 0 1 with
    | none => pure false
    | some (cursor, maximumAlignment) =>
        if cursor ≠ layout.usedBytes ∨
            maximumAlignment ≠ layout.maximumAlignment then
          pure false
        else preflightNamed sizes memory layout preflightedRegions

/-- A span that ends inside the address space. -/
def Addressable (memory : ByteSpan) : Prop :=
  memory.address + memory.size ≤ kMaxSize

section

variable (addressable : Addressable memory)
  (used : layout.usedBytes ≤ kMaxSize)
include addressable used

theorem preflightRegion_exact {id : SourcePayloadRegion} :
    preflightRegion sizes memory layout id =
      pure (SourcePayload.preflightRegion sizes memory layout id) := by
  have extent : memory.size ≤ kMaxSize :=
    Nat.le_trans (Nat.le_add_left ..) addressable
  unfold preflightRegion SourcePayload.preflightRegion
  dsimp only
  generalize regionOf layout id = region
  split
  · rename_i other
    rw [decide_eq_false]
    rintro ⟨same, element, alignment, count, -⟩
    rcases other with other | other | other | other
    · exact other same
    · exact other element
    · exact other alignment
    · exact Nat.not_lt.mpr count other
  · rename_i shape
    push Not at shape
    rw [checkedMultiply_exact, Tracked.exact_bind]
    split
    · rename_i other
      rw [decide_eq_false]
      rintro ⟨-, -, -, -, product, aligned, below, -⟩
      rcases other with other | other | other
      · exact other product
      · exact other aligned
      · exact Nat.not_lt.mpr below other
    · rename_i product
      push Not at product
      rw [subWord_exact product.2.2 (inside_of_le used), Tracked.exact_bind]
      split
      · rename_i other
        rw [decide_eq_false]
        rintro ⟨-, -, -, -, -, -, -, room, below, -⟩
        rcases other with other | other
        · exact Nat.not_lt.mpr room other
        · exact Nat.not_lt.mpr below other
      · rename_i room
        push Not at room
        rw [subWord_exact room.2 (inside_of_le extent), Tracked.exact_bind]
        split
        · rename_i other
          rw [decide_eq_false]
          rintro ⟨-, -, -, -, -, -, -, -, -, behind, -⟩
          exact Nat.not_lt.mpr behind other
        · rename_i behind
          have every : ∀ based : Prop, [Decidable based] →
              decide (region.id = id ∧
                region.elementSize = regionElementSize sizes id ∧
                region.alignment = regionAlignment sizes id ∧
                region.elementCount ≤ kMaxU32 ∧
                CpuReady.checkedMultiply region.elementCount
                  (regionElementSize sizes id) = some region.byteCount ∧
                region.offset % regionAlignment sizes id = 0 ∧
                region.offset ≤ layout.usedBytes ∧
                region.byteCount ≤ layout.usedBytes - region.offset ∧
                region.offset ≤ memory.size ∧
                region.byteCount ≤ memory.size - region.offset ∧ based) =
              decide based := by
            intro based known
            apply decide_eq_decide.mpr
            constructor
            · rintro ⟨-, -, -, -, -, -, -, -, -, -, holds⟩
              exact holds
            · intro holds
              exact ⟨shape.1, shape.2.1, shape.2.2.1, shape.2.2.2,
                product.1, product.2.1, product.2.2, room.1, room.2,
                Nat.not_lt.mp behind, holds⟩
          rw [every]
          split
          · rename_i empty
            rw [decide_eq_true (fun some => absurd empty some)]
          · rename_i some
            have inside : memory.address + region.offset ≤ kMaxSize :=
              Nat.le_trans (Nat.add_le_add_left room.2 _) addressable
            rw [addWord_exact (inside_of_le inside), Tracked.exact_bind]
            exact congrArg pure (decide_eq_decide.mpr
              ⟨fun based _ => based, fun based => based some⟩)

theorem preflightNamed_exact {ids : List SourcePayloadRegion} :
    preflightNamed sizes memory layout ids =
      pure (ids.all (SourcePayload.preflightRegion sizes memory layout)) := by
  induction ids with
  | nil => rfl
  | cons id rest induction =>
      rw [preflightNamed, preflightRegion_exact addressable used,
        Tracked.exact_bind, List.all_cons]
      cases SourcePayload.preflightRegion sizes memory layout id with
      | false => rfl
      | true => exact induction

end

theorem preflightExtents_exact {usedBytes cursor most : Nat}
    {ids : List SourcePayloadRegion}
    {regions : List SourcePayloadLayoutRegion}
    (small : ∀ region ∈ regions,
      region.alignment ≤ kMaxSize ∧ region.offset ≤ kMaxSize) :
    preflightExtents memory usedBytes ids regions cursor most =
      pure (SourcePayload.preflightExtents memory usedBytes ids regions
        cursor most) := by
  induction regions generalizing ids cursor most with
  | nil =>
      cases ids with
      | nil => rfl
      | cons id ids => rfl
  | cons region regions induction =>
      cases ids with
      | nil => rfl
      | cons id ids =>
          have both := List.forall_mem_cons.mp small
          rw [preflightExtents, SourcePayload.preflightExtents]
          by_cases other : region.id ≠ id
          · rw [if_pos other, if_pos (Or.inl other)]
          · rw [if_neg other, isPowerOfTwo_exact both.1.1, Tracked.exact_bind]
            by_cases unfit : (!CpuReady.isPowerOfTwo region.alignment) = true ∨
                  region.offset < cursor ∨
                  region.offset % region.alignment ≠ 0
            · rw [if_pos unfit, if_pos (Or.inr unfit)]
            · rw [if_neg unfit, if_neg (fun either => either.elim other unfit),
                checkedAdd_exact both.1.2, Tracked.exact_bind]
              cases CpuReady.checkedAdd region.offset region.byteCount with
              | none => rfl
              | some stop =>
                  dsimp only
                  split
                  · rfl
                  · exact induction both.2

theorem preflightLayout_exact (addressable : Addressable memory)
    (used : layout.usedBytes ≤ kMaxSize)
    (base : layout.requiredBaseAlignment ≤ kMaxSize)
    (small : ∀ region ∈ layout.regions,
      region.alignment ≤ kMaxSize ∧ region.offset ≤ kMaxSize) :
    preflightLayout sizes memory layout =
      pure (SourcePayload.preflightLayout sizes memory layout) := by
  unfold preflightLayout SourcePayload.preflightLayout
  rw [isPowerOfTwo_exact base, Tracked.exact_bind]
  split
  · rfl
  · rw [preflightExtents_exact small, Tracked.exact_bind]
    cases SourcePayload.preflightExtents memory layout.usedBytes
        sourcePayloadRegions layout.regions 0 1 with
    | none => rfl
    | some last =>
        dsimp only
        split
        · rfl
        · exact preflightNamed_exact addressable used

def validSegments :
    List ArenaSourcePayloadSegmentLayout → Nat → Tracked (Option Nat)
  | [], cursor => pure (some cursor)
  | segment :: rest, cursor =>
    let alignment := segment.layout.requiredBaseAlignment
    if segment.layout.usedBytes = 0 ∨ segment.layout.pageCount = 0 ∨
        alignment = 0 then
      pure none
    else do
      let mask ← subWord 64 alignment 1
      if alignment &&& mask ≠ 0 ∨ segment.byteOffset < cursor ∨
          segment.byteOffset % alignment ≠ 0 then
        pure none
      else do
        let room ← subWord 64 kMaxSize segment.byteOffset
        if room < segment.layout.usedBytes then pure none
        else do
          let stop ← addWord 64 segment.byteOffset segment.layout.usedBytes
          validSegments rest stop

def valid (layout : ArenaSourcePayloadLayout) : Tracked Bool :=
  if layout.segmentCount = 0 ∨
      kMaxArenaSourcePayloadSegments < layout.segmentCount ∨
      layout.usedBytes = 0 ∨ layout.pageCount = 0 then
    pure false
  else do
    match ← validSegments (layout.segments.take layout.segmentCount) 0 with
    | none => pure false
    | some cursor => pure (cursor == layout.usedBytes)

theorem validSegments_exact {cursor : Nat}
    {segments : List ArenaSourcePayloadSegmentLayout}
    (small : ∀ segment ∈ segments,
      segment.layout.requiredBaseAlignment ≤ kMaxSize ∧
        segment.byteOffset ≤ kMaxSize) :
    validSegments segments cursor =
      pure (SourcePayload.validSegments segments cursor) := by
  induction segments generalizing cursor with
  | nil => rfl
  | cons segment rest induction =>
      have both := List.forall_mem_cons.mp small
      rw [validSegments, SourcePayload.validSegments]
      by_cases empty : segment.layout.usedBytes = 0 ∨
          segment.layout.pageCount = 0 ∨
          segment.layout.requiredBaseAlignment = 0
      · rw [if_pos empty, if_pos]
        rcases empty with empty | empty | empty
        · exact Or.inl empty
        · exact Or.inr (Or.inl empty)
        · exact Or.inr (Or.inr (Or.inl empty))
      · push Not at empty
        rw [if_neg (by push Not; exact empty),
          subWord_exact (Nat.one_le_iff_ne_zero.mpr empty.2.2)
            (inside_of_le both.1.1), Tracked.exact_bind]
        by_cases unfit : segment.layout.requiredBaseAlignment &&&
                (segment.layout.requiredBaseAlignment - 1) ≠ 0 ∨
              segment.byteOffset < cursor ∨
              segment.byteOffset % segment.layout.requiredBaseAlignment ≠ 0
        · rw [if_pos unfit, if_pos]
          rcases unfit with unfit | unfit | unfit
          · exact Or.inr (Or.inr (Or.inr (Or.inl unfit)))
          · exact Or.inr (Or.inr (Or.inr (Or.inr (Or.inl unfit))))
          · exact Or.inr (Or.inr (Or.inr (Or.inr (Or.inr (Or.inl unfit)))))
        · push Not at unfit
          rw [if_neg (by push Not; exact unfit),
            subWord_exact both.1.2 (inside_of_le (Nat.le_refl _)),
            Tracked.exact_bind]
          by_cases large :
              kMaxSize - segment.byteOffset < segment.layout.usedBytes
          · rw [if_pos large, if_pos]
            exact Or.inr (Or.inr (Or.inr (Or.inr (Or.inr (Or.inr large)))))
          · have room : segment.byteOffset + segment.layout.usedBytes ≤
                kMaxSize := by
              have offset := both.1.2
              omega
            rw [if_neg large, if_neg, addWord_exact (inside_of_le room),
              Tracked.exact_bind]
            · exact induction both.2
            · push Not
              exact ⟨empty.1, empty.2.1, empty.2.2, unfit.1, unfit.2.1,
                unfit.2.2, Nat.not_lt.mp large⟩

theorem valid_exact {layout : ArenaSourcePayloadLayout}
    (small : ∀ segment ∈ layout.segments,
      segment.layout.requiredBaseAlignment ≤ kMaxSize ∧
        segment.byteOffset ≤ kMaxSize) :
    valid layout = pure (SourcePayload.valid layout) := by
  unfold valid SourcePayload.valid
  split
  · rfl
  · rw [validSegments_exact (fun segment member =>
      small segment (List.mem_of_mem_take member)), Tracked.exact_bind]
    cases SourcePayload.validSegments
        (layout.segments.take layout.segmentCount) 0 with
    | none => rfl
    | some cursor => rfl

end Dxmt9.SourcePayload.Words

/-!
## Layouts of source payloads

A layout that is returned holds its regions in order, on the fewest pages; a
smaller capacity needs no more; packed layouts are valid; and the machine
words that compute all of it wrap in one place only, where nothing is lost.
-/

namespace Dxmt9.SourcePayload

open Dxmt9.CpuReady

variable {sizes : PayloadSizes} {capacity : SourcePayloadCapacity}
  {layout : SourcePayloadLayout} {pageSize maxPages : Nat}

/-- What a returned layout promises for its capacity. -/
structure LaidOut (sizes : PayloadSizes) (capacity : SourcePayloadCapacity)
    (pageSize maxPages : Nat) (layout : SourcePayloadLayout) : Prop where
  ids : layout.regions.map (·.id) = sourcePayloadRegions
  counts : ∀ region ∈ layout.regions,
    region.elementCount = capacity region.id ∧
      region.elementSize = regionElementSize sizes region.id ∧
      region.alignment = regionAlignment sizes region.id ∧
      region.byteCount = region.elementCount * region.elementSize
  aligned : ∀ region ∈ layout.regions,
    CpuReady.isPowerOfTwo region.alignment = true ∧
      region.offset % region.alignment = 0
  inside : ∀ region ∈ layout.regions,
    region.offset + region.byteCount ≤ layout.usedBytes
  disjoint : layout.regions.Pairwise fun before after =>
    before.offset + before.byteCount ≤ after.offset
  least : ∀ pages,
    layout.pageCount ≤ pages ↔ layout.usedBytes ≤ pages * pageSize
  limited : layout.pageCount ≤ maxPages

theorem MadeFor.laidOut
    (made : MadeFor sizes capacity pageSize maxPages layout) :
    LaidOut sizes capacity pageSize maxPages layout := by
  obtain ⟨placed, laid, rfl⟩ := made.laid
  exact
    { ids := laid.ids
      counts := by
        intro region member
        rw [laid.shape region member]
        exact ⟨rfl, rfl, rfl, rfl⟩
      aligned := fun region member =>
        ⟨laid.power region member, laid.aligned region member⟩
      inside := laid.inside
      disjoint := laid.ordered
      least := fun _ => pagesFor_le_iff made.page
      limited := made.limited }

theorem makeSourcePayloadLayout_mono {less : SourcePayloadCapacity}
    (below : ∀ id, less id ≤ capacity id)
    (made : makeSourcePayloadLayout sizes capacity pageSize maxPages =
      some layout) :
    ∃ small, makeSourcePayloadLayout sizes less pageSize maxPages =
        some small ∧
      small.usedBytes ≤ layout.usedBytes ∧
      small.pageCount ≤ layout.pageCount := by
  obtain ⟨placed, finishes, rfl⟩ := makeSourcePayloadLayout_some.mp made
  have shrinks := @PlacesAll.smaller sizes capacity {} less {} _ below
    (Nat.le_refl _) rfl finishes.places
  rw [← finishes.built] at shrinks
  obtain ⟨places, used, widths⟩ := shrinks
  generalize built : withRegions sizes less {} sourcePayloadRegions = small
    at used widths
  have pages := pagesFor_mono pageSize used
  refine ⟨finished pageSize small,
    makeSourcePayloadLayout_some.mpr ⟨small, ?_, rfl⟩, used, pages⟩
  exact
    { page := finishes.page
      limit := finishes.limit
      places := places
      built := built.symm
      fits := by
        rw [widths]
        exact finishes.fits
      rounds := Nat.le_trans used finishes.rounds
      few := Nat.le_trans pages finishes.few
      limited := Nat.le_trans pages finishes.limited }

/-! ## Machine words -/

theorem widestAlignment_le {regions : List SourcePayloadLayoutRegion}
    {most bound : Nat} (start : most ≤ bound)
    (small : ∀ region ∈ regions, region.alignment ≤ bound) :
    widestAlignment regions most ≤ bound := by
  induction regions generalizing most with
  | nil => exact start
  | cons region regions induction =>
      have both := List.forall_mem_cons.mp small
      exact induction (Nat.max_le.mpr ⟨start, both.1⟩) both.2

theorem MadeFor.words
    (alignments : ∀ id, regionAlignment sizes id ≤ kMaxSize)
    (made : MadeFor sizes capacity pageSize maxPages layout) :
    layout.usedBytes ≤ kMaxSize ∧
      layout.requiredBaseAlignment ≤ kMaxSize ∧
      ∀ region ∈ layout.regions,
        region.alignment ≤ kMaxSize ∧ region.offset ≤ kMaxSize := by
  obtain ⟨placed, laid, rfl⟩ := made.laid
  have small : ∀ region ∈ placed.regions, region.alignment ≤ kMaxSize := by
    intro region member
    rw [laid.shape region member]
    exact alignments region.id
  refine ⟨laid.used, ?_, fun region member => ⟨small region member, ?_⟩⟩
  · have start : 1 ≤ kMaxSize := by decide
    have widest := widestAlignment_le start small
    exact Nat.le_trans (Nat.le_of_eq laid.widest.symm) widest
  · exact Nat.le_trans (Nat.le_add_right ..)
      (Nat.le_trans (laid.inside region member) laid.used)

theorem Packs.words {segments : List SourcePayloadLayout}
    {packed : ArenaSourcePayloadLayout}
    (bases : ∀ segment ∈ segments, segment.requiredBaseAlignment ≤ kMaxSize)
    (made : makeArenaSourcePayloadLayout segments pageSize maxPages =
      some packed) :
    ∀ segment ∈ packed.segments,
      segment.layout.requiredBaseAlignment ≤ kMaxSize ∧
        segment.byteOffset ≤ kMaxSize := by
  have packs := makeArenaSourcePayloadLayout_packs made
  intro segment member
  refine ⟨bases segment.layout ?_, ?_⟩
  · rw [← packs.layouts]
    exact List.mem_map_of_mem member
  · exact Nat.le_trans (Nat.le_add_right ..)
      (Nat.le_trans (packs.within segment member) packs.used)

/-- Payloads whose layouts were made for some capacities. -/
def AllMade (sizes : PayloadSizes) (segments : List SourcePayloadLayout) :
    Prop :=
  ∀ segment ∈ segments, ∃ capacity pageSize maxPages,
    makeSourcePayloadLayout sizes capacity pageSize maxPages = some segment

/-- Machine words give what unbounded numbers give.  Only the sum under a
page count ever wraps, exactly when it is one more than the largest word, and
the subtraction of one behind it undoes that. -/
structure WordsAgree (sizes : PayloadSizes) : Prop where
  layouts : ∀ capacity pageSize maxPages, pageSize ≤ kMaxSize →
    (Words.makeSourcePayloadLayout sizes capacity pageSize maxPages).value =
        makeSourcePayloadLayout sizes capacity pageSize maxPages ∧
      ((Words.makeSourcePayloadLayout sizes capacity pageSize
          maxPages).wrapped = true ↔
        Words.PageSumWraps sizes capacity pageSize maxPages)
  arenas : ∀ segments pageSize maxPages, AllMade sizes segments →
    pageSize ≤ kMaxSize →
    (Words.makeArenaSourcePayloadLayout segments pageSize maxPages).value =
        makeArenaSourcePayloadLayout segments pageSize maxPages ∧
      ((Words.makeArenaSourcePayloadLayout segments pageSize
          maxPages).wrapped = true ↔
        Words.ArenaPageSumWraps segments pageSize maxPages)
  preflights : ∀ capacity pageSize maxPages layout memory,
    makeSourcePayloadLayout sizes capacity pageSize maxPages = some layout →
    Words.Addressable memory →
    Words.preflightLayout sizes memory layout =
      pure (preflightLayout sizes memory layout)
  valids : ∀ segments pageSize maxPages packed, AllMade sizes segments →
    makeArenaSourcePayloadLayout segments pageSize maxPages = some packed →
    Words.valid packed = pure (valid packed)

theorem wordsAgree
    (alignments : ∀ id, regionAlignment sizes id ≤ kMaxSize) :
    WordsAgree sizes := by
  have bases : ∀ segments, AllMade sizes segments →
      ∀ segment ∈ segments, segment.requiredBaseAlignment ≤ kMaxSize := by
    intro segments all segment member
    obtain ⟨capacity, pageSize, maxPages, made⟩ := all segment member
    exact ((madeFor made).words alignments).2.1
  constructor
  · intro capacity pageSize maxPages page
    exact Words.makeSourcePayloadLayout_words alignments page
  · intro segments pageSize maxPages all page
    exact Words.makeArenaSourcePayloadLayout_words (bases segments all) page
  · intro capacity pageSize maxPages layout memory made addressable
    obtain ⟨used, base, small⟩ := (madeFor made).words alignments
    exact Words.preflightLayout_exact addressable used base small
  · intro segments pageSize maxPages packed all made
    exact Words.valid_exact (Packs.words (bases segments all) made)

/-- Layouts are sound and monotone, packed layouts are valid, and words wrap
only under a page count that they still get right. -/
theorem payloadLayouts_soundMonotone (sizes : PayloadSizes)
    (alignments : ∀ id, regionAlignment sizes id ≤ kMaxSize) :
    (∀ capacity pageSize maxPages layout,
      makeSourcePayloadLayout sizes capacity pageSize maxPages =
        some layout →
      LaidOut sizes capacity pageSize maxPages layout ∧
        (∀ memory, Holds memory layout →
          preflightLayout sizes memory layout = true) ∧
        ∀ less : SourcePayloadCapacity, (∀ id, less id ≤ capacity id) →
          ∃ small, makeSourcePayloadLayout sizes less pageSize maxPages =
              some small ∧
            small.usedBytes ≤ layout.usedBytes ∧
            small.pageCount ≤ layout.pageCount) ∧
      (∀ segments pageSize maxPages packed, AllMade sizes segments →
        makeArenaSourcePayloadLayout segments pageSize maxPages =
          some packed →
        Packs segments pageSize maxPages packed) ∧
      WordsAgree sizes := by
  refine ⟨?_, ?_, wordsAgree alignments⟩
  · intro capacity pageSize maxPages layout made
    refine ⟨(madeFor made).laidOut, ?_, ?_⟩
    · intro memory holds
      exact preflightLayout_madeFor (madeFor made) holds
    · intro less below
      exact makeSourcePayloadLayout_mono below made
  · intro segments pageSize maxPages packed _ made
    exact makeArenaSourcePayloadLayout_packs made

/-- Elements of sixteen bytes at alignments of eight. -/
def evenSizes : PayloadSizes where
  element := fun _ => 16
  alignment := fun _ => 8
  vertexShaderConstants := 16
  pixelShaderConstants := 16
  drawBindingOverride := 16
  drawBindingSnapshot := 16

/-- Draw payload bytes only, as many as a common page has. -/
def onePageOfBytes : SourcePayloadCapacity :=
  Function.update emptyCapacity .drawPayloadBytes 4096

theorem payloadLayouts_soundMonotone_even :
    ∃ layout, makeSourcePayloadLayout evenSizes onePageOfBytes 4096 1 =
        some layout ∧
      LaidOut evenSizes onePageOfBytes 4096 1 layout := by
  have made : (makeSourcePayloadLayout evenSizes onePageOfBytes 4096
      1).isSome = true := by decide +kernel
  obtain ⟨layout, made⟩ := Option.isSome_iff_exists.mp made
  have sound := payloadLayouts_soundMonotone evenSizes (by
    intro id
    cases id <;> decide)
  exact ⟨layout, made, (sound.1 onePageOfBytes 4096 1 layout made).1⟩

/-- A page so large that one page of bytes and the page size make one more
than the largest word: a layout is returned, but the sum wrapped. -/
theorem payloadPageSum_wraps :
    (Words.makeSourcePayloadLayout evenSizes onePageOfBytes (2 ^ 64 - 4096)
        1).value.isSome = true ∧
      (Words.makeSourcePayloadLayout evenSizes onePageOfBytes (2 ^ 64 - 4096)
        1).wrapped = true := by
  decide +kernel

end Dxmt9.SourcePayload
