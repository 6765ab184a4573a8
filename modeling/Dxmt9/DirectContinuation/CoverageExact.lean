import Dxmt9.Provisioning.PlanBudget
import Dxmt9.DirectContinuation.TablesInPlace

/-!
# Admission and physical coverage

A slot that admits a range covers it unless its resource owners are detached
or its rectangles cannot be counted, and an empty slot that is taken for
reusable is restored without an allocation exactly when its lookup tables
have the capacity.
-/

namespace Dxmt9.DirectContinuation

open Dxmt9.CpuReady

variable {grants : Allocator} {sizes : PayloadSizes} {slot : ChunkSlot}
  {plan : SourcePayloadCapacity}

/-- What an admission has checked. -/
structure Admits (slot : ChunkSlot) (plan : SourcePayloadCapacity) :
    Prop where
  draws : drawShapeMatches plan = true
  unsealed : slot.pipelinePrefetchSealed = false
  consistent : slot.drawStateStorageConsistent = true
  inRange : slot.commandPayloadsInRange = true
  fits : ∀ region ∈ ordinaryRegions,
    directContinuationAppendFits (slot.size region) (plan region)
      (slot.capacity region) = true
  ready : ∀ family, lookupReady slot family (plan family.records) = true

theorem admits_of_admitted
    (admitted : directContinuationAdmission sizes slot plan = .admitted) :
    Admits slot plan := by
  rw [directContinuationAdmission] at admitted
  split at admitted
  · cases admitted
  split at admitted
  · cases admitted
  split at admitted
  · cases admitted
  rename_i shape
  split at admitted
  · cases admitted
  rename_i structural
  split at admitted
  · cases admitted
  rename_i fits
  split at admitted
  · cases admitted
  rename_i ready
  simp only [Bool.not_eq_true, Bool.not_eq_false', Bool.and_eq_true,
    Bool.or_eq_false_iff, List.all_eq_true] at shape structural fits ready
  constructor
  · exact shape.1
  · exact structural.1.1
  · exact structural.1.2
  · exact structural.2
  · exact fits
  · exact fun family => ready family (mem_lookupFamilies family)

variable {family : LookupFamily}

theorem covers_of_ready {additional : Nat}
    (ready : lookupReady slot family additional = true) :
    directSlotLookupCovers slot family additional = true := by
  simp only [lookupReady, directSlotLookupCovers] at ready ⊢
  split
  · rfl
  · rename_i counted
    rw [if_neg counted] at ready
    split at ready
    · cases ready
    · rename_i inside
      simp only [Bool.and_eq_true, beq_iff_eq, decide_eq_true_eq] at ready
      rw [if_neg inside, if_neg (Nat.not_lt.mpr ready.2)]
      simp only [Bool.and_eq_true, beq_iff_eq, decide_eq_true_eq]
      exact ⟨⟨Nat.max_le.mpr ⟨ready.1.1.2, Nat.le_refl _⟩, ready.1.1.1⟩,
        ready.1.2⟩

/-- No resource owner of the slot is detached, and the rectangles of its
clears are counted. -/
def ownersInline (slot : ChunkSlot) : Bool :=
  !slot.detachedOwnerMarker.active &&
    directSlotClearRectAccumulationFits slot

theorem Admits.covers_iff (admits : Admits slot plan) :
    directSlotPhysicalCapacityCovers slot plan = true ↔
      ownersInline slot = true := by
  have fits := List.all_eq_true.mpr admits.fits
  have lookups := List.all_eq_true.mpr fun family
    (_ : family ∈ lookupFamilies) => covers_of_ready (admits.ready family)
  rw [directSlotPhysicalCapacityCovers, ownersInline]
  simp only [ChunkSlot.prefetchedPipelinesSealed, admits.unsealed,
    admits.consistent, admits.inRange, fits, lookups, Bool.not_true]
  cases slot.detachedOwnerMarker.active <;>
    cases directSlotClearRectAccumulationFits slot <;> simp

variable {state : Reservation}

theorem foldlM_still {α : Type} {step : Reservation → α →
    Except Reservation Reservation} (items : List α)
    (still : ∀ item ∈ items, step state item = .ok state) :
    items.foldlM step state = .ok state := by
  induction items with
  | nil => rfl
  | cons item items induction =>
      rw [List.foldlM_cons, still item List.mem_cons_self]
      exact induction fun other member =>
        still other (List.mem_cons_of_mem _ member)

theorem reserveOrdinary_fits {region : SourcePayloadRegion}
    (fits : directContinuationAppendFits (state.slot.size region)
      (plan region) (state.slot.capacity region) = true) :
    reserveOrdinary grants plan state region = .ok state := by
  simp only [directContinuationAppendFits, Bool.and_eq_true,
    decide_eq_true_eq] at fits
  rw [reserveOrdinary, if_neg (Nat.not_lt.mpr fits.1), reserveVector,
    if_pos fits.2]

theorem reserveLookup_covers
    (counted : plan family.records ≠ 0)
    (covers : directSlotLookupCovers state.slot family (plan family.records) =
      true) :
    reserveLookup grants family
      (state.slot.size family.records + plan family.records) state =
        .ok state := by
  simp only [directSlotLookupCovers, if_neg counted] at covers
  split at covers
  · cases covers
  split at covers
  · cases covers
  rename_i next
  simp only [Bool.and_eq_true, beq_iff_eq, decide_eq_true_eq] at covers
  rw [reserveLookup, if_neg (Nat.ne_of_gt (Nat.add_pos_right _
    (Nat.pos_of_ne_zero counted))),
    chunkSlotReserveAtLeast_fits (Nat.not_lt.mp next)]
  change (if _ then _ else _) = _
  rw [if_neg]
  rintro (short | differ | differ)
  · exact Nat.not_lt.mpr covers.1.1 short
  · exact differ covers.1.2
  · exact differ covers.2

theorem Admits.counted (admits : Admits slot plan) (family : LookupFamily) :
    plan family.records ≠ 0 := by
  have draws := admits.draws
  simp only [drawShapeMatches, Bool.and_eq_true, bne_iff_ne,
    List.all_eq_true, beq_iff_eq] at draws
  have same : plan family.records = plan .drawParams := by
    apply draws.2
    cases family <;> decide
  rw [same]
  exact draws.1

theorem Admits.reserve_eq (admits : Admits slot plan) :
    reserveDirectSlot grants slot plan =
      if ownersInline slot then .ok { slot := slot }
      else .error { slot := slot } := by
  have ordinary : reservedRegions.foldlM (reserveOrdinary grants plan)
      { slot := slot } = .ok { slot := slot } := by
    apply foldlM_still
    intro region member
    exact reserveOrdinary_fits (admits.fits region (List.mem_filter.mp
      member).1)
  have lookups : lookupFamilies.foldlM
      (fun (state : Reservation) family =>
        reserveLookup grants family
          (state.slot.size family.records + plan family.records) state)
      { slot := slot } = .ok { slot := slot } := by
    apply foldlM_still
    intro family _
    exact reserveLookup_covers (admits.counted family)
      (covers_of_ready (admits.ready family))
  rw [reserveDirectSlot, ownersInline]
  simp only [ChunkSlot.prefetchedPipelinesSealed, admits.unsealed,
    admits.consistent, admits.inRange, Bool.not_true, Bool.false_or]
  cases slot.detachedOwnerMarker.active
  · cases directSlotClearRectAccumulationFits slot
    · rfl
    · simp only [ordinary]
      change (if plan .drawUniformPayloads = 0 then _ else
        lookupFamilies.foldlM _ _) = _
      rw [if_neg (show plan .drawUniformPayloads ≠ 0 from
        admits.counted .payloads)]
      exact lookups
  · rfl

/-- What an empty slot that is taken for reusable has been checked for. -/
structure Reusable (slot : ChunkSlot) (plan : SourcePayloadCapacity) :
    Prop where
  inline : slot.detachedOwnerMarker.active = false
  empty : ∀ region ∈ emptinessRegions, slot.size region = 0
  unsealed : slot.pipelinePrefetchSealed = false
  fits : ∀ region ∈ ordinaryRegions, plan region ≤ slot.capacity region
  tables : plan .drawUniformPayloads ≠ 0 →
    ∀ family, lookupCapacity slot family (plan family.records) = true

theorem reusable_of_taken
    (taken : directSlotEmptyStorageReusable slot plan = true) :
    Reusable slot plan := by
  rw [directSlotEmptyStorageReusable] at taken
  split at taken
  · cases taken
  rename_i empty
  split at taken
  · cases taken
  rename_i fits
  simp only [chunkSlotDirectStorageEmpty, Bool.not_eq_true,
    Bool.not_eq_false', Bool.and_eq_true, Bool.or_eq_false_iff,
    List.all_eq_true, Bool.not_eq_true', beq_iff_eq] at empty
  simp only [Bool.not_eq_true, Bool.not_eq_false', List.all_eq_true,
    decide_eq_true_eq] at fits
  constructor
  · exact empty.1.1.1.1
  · exact empty.1.1.1.2
  · exact empty.1.1.2
  · exact fits
  · intro drawn family
    rw [if_neg drawn] at taken
    exact List.all_eq_true.mp taken family (mem_lookupFamilies family)

/-- The tables of a plan's lookups have the capacity for it, also where the
plan has no uniform payloads, and no table of tails is smaller than the
heads in use. -/
def tablesInPlace (slot : ChunkSlot) (plan : SourcePayloadCapacity) : Bool :=
  (plan .drawUniformPayloads != 0 ||
      lookupFamilies.all fun family =>
        lookupCapacity slot family (plan family.records)) &&
    lookupFamilies.all fun family =>
      plan family.records == 0 ||
        decide (slot.size family.heads ≤ slot.capacity family.tails)

theorem lookupExtent_eq_max (family : LookupFamily) (count : Nat) :
    lookupExtent slot family count =
      max (slot.size family.heads)
        (chunkSlotUniformLookupBucketCount count) := by
  rw [lookupExtent]
  split
  · rename_i short
    exact (Nat.max_eq_right (Nat.le_of_lt short)).symm
  · rename_i enough
    exact (Nat.max_eq_left (Nat.not_lt.mp enough)).symm

/-- A lookup has the capacity: that of its tables and of its chain, and no
fewer tails than heads. -/
theorem holdsLookup_iff_capacity {count : Nat}
    (counted : count ≠ 0) :
    HoldsLookup slot family count ↔
      lookupCapacity slot family count = true ∧
        slot.size family.heads ≤ slot.capacity family.tails := by
  have heads := slot.stored family.heads
  change slot.size family.heads ≤ slot.capacity family.heads at heads
  rw [holdsLookup_iff, lookupExtent_eq_max, lookupCapacity, if_neg counted]
  simp only [Bool.and_eq_true, decide_eq_true_eq, Nat.max_le]
  constructor
  · rintro ⟨first, second, chain⟩
    exact ⟨⟨⟨first.2, second.2⟩, chain⟩, second.1⟩
  · rintro ⟨⟨⟨first, second⟩, chain⟩, tails⟩
    exact ⟨⟨heads, first⟩, ⟨tails, second⟩, chain⟩

theorem Reusable.holds_iff (reusable : Reusable slot plan) :
    HoldsLookups slot plan lookupFamilies ↔ tablesInPlace slot plan = true := by
  simp only [tablesInPlace, Bool.and_eq_true, Bool.or_eq_true, bne_iff_ne,
    List.all_eq_true, beq_iff_eq, decide_eq_true_eq]
  constructor
  · intro holds
    constructor
    · right
      intro family member
      by_cases none : plan family.records = 0
      · rw [none]
        rfl
      · exact ((holdsLookup_iff_capacity none).mp (holds family member none)).1
    · intro family member
      by_cases none : plan family.records = 0
      · exact .inl none
      · exact .inr ((holdsLookup_iff_capacity none).mp
          (holds family member none)).2
  · rintro ⟨tables, tails⟩ family member counted
    rw [holdsLookup_iff_capacity counted]
    constructor
    · cases tables with
      | inl drawn => exact reusable.tables drawn family
      | inr tables => exact tables family member
    · exact (tails family member).resolve_left counted

end Dxmt9.DirectContinuation

/-!
## When admission means coverage

The exact conditions under which an admitted range is covered by the slot,
and an empty slot that is taken for reusable covers its plan once its lookup
tables are restored.
-/

namespace Dxmt9.DirectContinuation

open Dxmt9.CpuReady

variable {grants : Allocator} {sizes : PayloadSizes} {slot : ChunkSlot}
  {plan : SourcePayloadCapacity}

/-! ## A restored slot -/

variable {region : SourcePayloadRegion}

theorem ordinary_empty
    (ordinary : region ∈ ordinaryRegions) : region ∈ emptinessRegions := by
  simp only [ordinaryRegions, emptinessRegions, List.mem_filter,
    Bool.and_eq_true, Bool.or_eq_true] at ordinary ⊢
  exact ⟨ordinary.1, ordinary.2.1, .inl ordinary.2.2⟩

theorem role_of_ordinary
    (ordinary : region ∈ ordinaryRegions) :
    lookupRole region = .ordinary := by
  simp only [ordinaryRegions, List.mem_filter, Bool.and_eq_true,
    beq_iff_eq] at ordinary
  exact ordinary.2.2

theorem LookupFamily.records_ordinary (family : LookupFamily) :
    family.records ∈ ordinaryRegions := by
  cases family <;> decide

section Restored

variable {final : ChunkSlot}

section

variable (reusable : Reusable slot plan)
  (provisions : Provisions slot final plan lookupFamilies)
include reusable provisions

theorem Reusable.size_restored
    {region : SourcePayloadRegion} (ordinary : region ∈ ordinaryRegions) :
    final.size region = 0 :=
  (provisions.records region (role_of_ordinary ordinary)).trans
    (reusable.empty region (ordinary_empty ordinary))

theorem Reusable.commands_restored :
    final.drawStateStorageConsistent = true ∧
      final.commandPayloadsInRange = true := by
  have hot := reusable.size_restored provisions
    (show SourcePayloadRegion.drawHotStates ∈ ordinaryRegions by decide)
  have layouts := reusable.size_restored provisions
    (show SourcePayloadRegion.drawShaderLayouts ∈ ordinaryRegions by decide)
  have debug := reusable.size_restored provisions
    (show SourcePayloadRegion.drawDebugSnapshots ∈ ordinaryRegions by decide)
  have headers : final.rows.commandHeaders = [] :=
    List.eq_nil_of_length_eq_zero (reusable.size_restored provisions
      (show SourcePayloadRegion.commandHeaders ∈ ordinaryRegions by decide))
  have consistent : final.drawStateStorageConsistent = true := by
    rw [ChunkSlot.drawStateStorageConsistent, hot, layouts, debug]
    rfl
  refine ⟨consistent, ?_⟩
  rw [ChunkSlot.commandPayloadsInRange, ChunkSlot.commandPayloadSuffixInRange,
    headers, consistent]
  rfl

theorem Reusable.rects_restored :
    directSlotClearRectAccumulationFits final = true := by
  have clears : final.rows.clearRecords = [] :=
    List.eq_nil_of_length_eq_zero (reusable.size_restored provisions
      (show SourcePayloadRegion.clearRecords ∈ ordinaryRegions by decide))
  rw [directSlotClearRectAccumulationFits, clears]
  rfl

section

variable (holds : HoldsLookups slot plan lookupFamilies)
  (sized : ∀ region, plan region ≤ kMaxSize)
include holds sized

theorem Reusable.lookup_restored (family : LookupFamily) :
    directSlotLookupCovers final family (plan family.records) = true := by
  have member := mem_lookupFamilies family
  rw [directSlotLookupCovers,
    reusable.size_restored provisions family.records_ordinary]
  by_cases counted : plan family.records = 0
  · rw [if_pos counted]
  · have tables := provisions.tables family member counted
    have held := holds family member counted
    have chain : ¬final.capacity family.next < plan family.records := by
      rw [provisions.capacity]
      exact Nat.not_lt.mpr held.next
    rw [if_neg counted, Nat.sub_zero,
      if_neg (Nat.not_lt.mpr (sized family.records)), Nat.zero_add]
    simp only [if_neg chain, tables.1, tables.2.1, tables.2.2,
      lookupExtent_eq_max, Bool.and_eq_true, beq_self_eq_true, and_true,
      decide_eq_true_eq]
    exact Nat.max_le.mpr ⟨Nat.le_max_right _ _, Nat.le_refl _⟩

theorem Reusable.covers_restored :
    directSlotPhysicalCapacityCovers final plan = true := by
  have commands := reusable.commands_restored provisions
  have fits : (ordinaryRegions.all fun region =>
      directContinuationAppendFits (final.size region) (plan region)
        (final.capacity region)) = true := by
    apply List.all_eq_true.mpr
    intro region ordinary
    rw [reusable.size_restored provisions ordinary, provisions.capacity]
    simp only [directContinuationAppendFits, Nat.sub_zero, Nat.zero_add,
      Bool.and_eq_true, decide_eq_true_eq]
    exact ⟨sized region, reusable.fits region ordinary⟩
  have lookups : (lookupFamilies.all fun family =>
      directSlotLookupCovers final family (plan family.records)) = true :=
    List.all_eq_true.mpr fun family _ =>
      reusable.lookup_restored provisions holds sized family
  rw [directSlotPhysicalCapacityCovers, commands.1, commands.2,
    reusable.rects_restored provisions, fits, lookups, provisions.marker,
    reusable.inline, ChunkSlot.prefetchedPipelinesSealed, provisions.sealed,
    reusable.unsealed]
  simp

end

end

end Restored

/-- The restoration succeeds, requests no allocation, and leaves a slot that
covers the plan. -/
def RestoresInPlace (grants : Allocator) (slot : ChunkSlot)
    (plan : SourcePayloadCapacity) : Prop :=
  let restored := restoreDirectSlotLookupTables grants slot plan
  restored.1 = true ∧ restored.2.requests = [] ∧
    restored.2.slot.capacity = slot.capacity ∧
    directSlotPhysicalCapacityCovers restored.2.slot plan = true

theorem Reusable.provision_eq (reusable : Reusable slot plan) :
    provisionEmptyDrawUniformLookup grants plan { slot := slot } =
      restoreLookups grants plan lookupFamilies { slot := slot } := by
  apply if_neg
  simp only [List.any_eq_true, bne_iff_ne, not_exists, not_and, not_not]
  intro family _
  exact reusable.empty _ (ordinary_empty family.records_ordinary)

theorem Reusable.restores_iff (reusable : Reusable slot plan)
    (sized : ∀ region, plan region ≤ kMaxSize) :
    RestoresInPlace grants slot plan ↔ tablesInPlace slot plan = true := by
  have distinct : lookupFamilies.Nodup := by decide
  rw [← reusable.holds_iff]
  constructor
  · intro restores
    by_contra short
    have asks := restoreLookups_asks grants plan distinct short []
    have silent := restores.2.1
    rw [restoreDirectSlotLookupTables, reusable.provision_eq] at silent
    cases reached : restoreLookups grants plan lookupFamilies
        { slot := slot } with
    | error state =>
        rw [reached] at asks silent
        exact absurd (congrArg List.length silent) (Nat.ne_of_gt asks)
    | ok state =>
        rw [reached] at asks silent
        exact absurd (congrArg List.length silent) (Nat.ne_of_gt asks)
  · intro holds
    obtain ⟨final, reached, provisions⟩ :=
      restoreLookups_holds grants plan distinct holds []
    have covers := reusable.covers_restored provisions holds sized
    rw [RestoresInPlace, restoreDirectSlotLookupTables,
      reusable.provision_eq, reached]
    exact ⟨covers, rfl, provisions.capacity, covers⟩

/-- An admitted range is covered exactly where no owner is detached and the
rectangles can be counted, and moves no storage in any case.  A slot taken
for reusable covers its plan without an allocation exactly where its lookup
tables have the capacity. -/
theorem continuationStorage_covers (grants : Allocator)
    (sizes : PayloadSizes) (slot : ChunkSlot) (plan : SourcePayloadCapacity)
    (sized : ∀ region, plan region ≤ kMaxSize) :
    (directContinuationAdmission sizes slot plan = .admitted →
      ((directSlotPhysicalCapacityCovers slot plan = true ∧
          reserveDirectSlot grants slot plan = .ok { slot := slot }) ↔
        ownersInline slot = true) ∧
      ended (reserveDirectSlot grants slot plan) = { slot := slot }) ∧
    (directSlotEmptyStorageReusable slot plan = true →
      (RestoresInPlace grants slot plan ↔
        tablesInPlace slot plan = true)) := by
  constructor
  · intro admitted
    have admits := admits_of_admitted admitted
    rw [admits.covers_iff, admits.reserve_eq]
    cases ownersInline slot
    · simp [ended]
    · simp [ended]
  · intro taken
    exact (reusable_of_taken taken).restores_iff sized

/-- The plan of a source with one draw. -/
def oneDrawPlan (sizes : PayloadSizes) : SourcePayloadCapacity :=
  applyDerivedDrawCapacity sizes
    (fun region => if region ∈ drawRegions then 1 else 0) 1

def unitSizes : PayloadSizes where
  element := fun _ => 4
  alignment := fun _ => 4
  vertexShaderConstants := 4
  pixelShaderConstants := 4
  drawBindingOverride := 4
  drawBindingSnapshot := 4

/-- An empty slot with the tables and the capacity for one draw. -/
def oneDrawSlot (marker : DetachedOwnerMarker) : ChunkSlot where
  rows := { others := fun region =>
    if lookupRole region = .head ∨ lookupRole region = .tail then 8 else 0 }
  capacity := fun region =>
    if lookupRole region = .head ∨ lookupRole region = .tail then 8 else 4
  detachedOwnerMarker := marker
  stored := by
    intro region
    cases region <;> decide

theorem continuationStorage_covers_oneDraw :
    directSlotPhysicalCapacityCovers (oneDrawSlot {})
        (oneDrawPlan unitSizes) = true ∧
      reserveDirectSlot (fun _ => false) (oneDrawSlot {})
        (oneDrawPlan unitSizes) = .ok { slot := oneDrawSlot {} } ∧
      RestoresInPlace (fun _ => false) (oneDrawSlot {})
        (oneDrawPlan unitSizes) := by
  have sound := continuationStorage_covers (fun _ => false) unitSizes
    (oneDrawSlot {}) (oneDrawPlan unitSizes)
    (by intro region; cases region <;> decide)
  have covers := ((sound.1 (by decide)).1.mpr (by decide))
  exact ⟨covers.1, covers.2, (sound.2 (by decide)).mpr (by decide)⟩

/-- An empty slot that holds one record of vertex constants. -/
def bareSlot : ChunkSlot where
  capacity := fun region =>
    if region = .drawUniformVertexConstants then 1 else 0
  stored := by
    intro region
    cases region <;> decide

/-- A plan of vertex constants without uniform payloads. -/
def constantsPlan : SourcePayloadCapacity :=
  fun region => if region = .drawUniformVertexConstants then 1 else 0

/-- A slot with a detached owner admits a range that it does not cover, and
an empty slot without lookup tables is taken for reusable. -/
theorem continuationStorage_uncovered :
    directContinuationAdmission unitSizes (oneDrawSlot ⟨1⟩)
        (oneDrawPlan unitSizes) = .admitted ∧
      directSlotPhysicalCapacityCovers (oneDrawSlot ⟨1⟩)
        (oneDrawPlan unitSizes) = false ∧
      directSlotEmptyStorageReusable bareSlot constantsPlan = true ∧
      (restoreDirectSlotLookupTables (fun _ => true) bareSlot
        constantsPlan).2.requests ≠ [] := by
  decide

end Dxmt9.DirectContinuation
