import Dxmt9.DirectContinuation.ChunkSlotStorage

/-!
# Lookup tables restored in place

The tables of an empty slot are given their extent without an allocation
exactly when every table and every chain already has the capacity for it.
-/

namespace Dxmt9.DirectContinuation

open Dxmt9.CpuReady

variable {grants : Allocator} {slot : ChunkSlot}
  {plan : SourcePayloadCapacity}

theorem LookupFamily.role_heads (family : LookupFamily) :
    lookupRole family.heads = .head := by
  cases family <;> rfl

theorem LookupFamily.role_tails (family : LookupFamily) :
    lookupRole family.tails = .tail := by
  cases family <;> rfl

theorem LookupFamily.role_next (family : LookupFamily) :
    lookupRole family.next = .next := by
  cases family <;> rfl

theorem mem_lookupFamilies (family : LookupFamily) :
    family ∈ lookupFamilies := by
  cases family <;> decide

variable {region : SourcePayloadRegion}

theorem ChunkSlotRows.size_table (rows : ChunkSlotRows) (table : lookupRole region ≠ .ordinary) :
    rows.size region = rows.others region := by
  cases region <;> first
    | rfl
    | exact absurd rfl table

/-- A table of another extent leaves every other vector alone. -/
theorem ChunkSlot.size_resized
    (table : lookupRole region ≠ .ordinary) (other : SourcePayloadRegion)
    (size : Nat) :
    (slot.resized region size).size other =
      if other = region then size else slot.size other := by
  by_cases same : other = region
  · rw [same, if_pos rfl]
    change (slot.resized region size).rows.size region = size
    rw [ChunkSlotRows.size_table _ table]
    exact Function.update_self region size slot.rows.others
  · rw [if_neg same]
    cases other <;>
      simp [ChunkSlot.size, ChunkSlot.resized, ChunkSlotRows.resized,
        ChunkSlotRows.size, same]

variable {size : Nat}

/-- An extent inside the capacity of its table moves no vector. -/
theorem ChunkSlot.capacity_resized (fits : size ≤ slot.capacity region) :
    (slot.resized region size).capacity = slot.capacity := by
  change Function.update slot.capacity region _ = slot.capacity
  rw [Nat.max_eq_left fits]
  exact Function.update_eq_self _ _

variable {state : Reservation}

theorem assignVector_fits (fits : size ≤ state.slot.capacity region) :
    assignVector grants region size state =
      .ok { state with slot := state.slot.resized region size } :=
  if_pos fits

variable {required : Nat}

theorem chunkSlotReserveAtLeast_fits
    (fits : required ≤ state.slot.capacity region) :
    chunkSlotReserveAtLeast grants region required state = .ok state :=
  if_pos fits

/-- The extent that the tables of a lookup get. -/
def lookupExtent (slot : ChunkSlot) (family : LookupFamily)
    (count : Nat) : Nat :=
  let bucketCount := chunkSlotUniformLookupBucketCount count
  if slot.size family.heads < bucketCount then bucketCount
  else slot.size family.heads

/-- The tables and the chain of a lookup have the capacity for a count. -/
structure HoldsLookup (slot : ChunkSlot) (family : LookupFamily)
    (count : Nat) : Prop where
  heads : lookupExtent slot family count ≤ slot.capacity family.heads
  tails : lookupExtent slot family count ≤ slot.capacity family.tails
  next : count ≤ slot.capacity family.next

variable {family : LookupFamily} {count : Nat}

theorem holdsLookup_iff :
    HoldsLookup slot family count ↔
      lookupExtent slot family count ≤ slot.capacity family.heads ∧
        lookupExtent slot family count ≤ slot.capacity family.tails ∧
        count ≤ slot.capacity family.next :=
  ⟨fun holds => ⟨holds.heads, holds.tails, holds.next⟩,
    fun holds => ⟨holds.1, holds.2.1, holds.2.2⟩⟩

/-- A slot whose lookup has its extent again. -/
def ChunkSlot.provisioned (slot : ChunkSlot) (family : LookupFamily)
    (count : Nat) : ChunkSlot :=
  ((slot.resized family.heads (lookupExtent slot family count)).resized
    family.tails (lookupExtent slot family count)).resized family.next 0

theorem ChunkSlot.size_provisioned (family : LookupFamily) (count : Nat)
    (region : SourcePayloadRegion) :
    (slot.provisioned family count).size region =
      if region = family.next then 0
      else if region = family.tails ∨ region = family.heads then
        lookupExtent slot family count
      else slot.size region := by
  rw [ChunkSlot.provisioned, ChunkSlot.size_resized, ChunkSlot.size_resized,
    ChunkSlot.size_resized]
  · by_cases tails : region = family.tails <;> simp [tails]
  · rw [family.role_heads]
    decide
  · rw [family.role_tails]
    decide
  · rw [family.role_next]
    decide

/-- An extent inside the capacity of both tables moves no vector. -/
theorem ChunkSlot.capacity_provisioned
    (heads : lookupExtent slot family count ≤ slot.capacity family.heads)
    (tails : lookupExtent slot family count ≤ slot.capacity family.tails) :
    (slot.provisioned family count).capacity = slot.capacity := by
  have first := ChunkSlot.capacity_resized heads
  have second : ((slot.resized family.heads
      (lookupExtent slot family count)).resized family.tails
      (lookupExtent slot family count)).capacity = slot.capacity := by
    rw [ChunkSlot.capacity_resized, first]
    rw [first]
    exact tails
  rw [ChunkSlot.provisioned, ChunkSlot.capacity_resized (Nat.zero_le _),
    second]

theorem provisionLookup_holds
    (holds : count ≠ 0 → HoldsLookup slot family count)
    (requests : List AllocationRequest) :
    provisionLookup grants family count ⟨slot, requests⟩ =
      .ok ⟨if count = 0 then slot else slot.provisioned family count,
        requests⟩ := by
  rw [provisionLookup]
  by_cases none : count = 0
  · rw [if_pos none, if_pos none]
  · have held := holds none
    have heads := ChunkSlot.capacity_resized held.heads
    rw [if_neg none, if_neg none]
    change (assignVector grants family.heads (lookupExtent slot family count)
      ⟨slot, requests⟩ >>= _) = _
    rw [assignVector_fits held.heads]
    change (assignVector grants family.tails (lookupExtent slot family count)
      _ >>= _) = _
    rw [assignVector_fits (by rw [heads]; exact held.tails)]
    change chunkSlotReserveAtLeast grants family.next count
      ⟨slot.provisioned family count, requests⟩ = _
    rw [chunkSlotReserveAtLeast_fits]
    rw [ChunkSlot.capacity_provisioned held.heads held.tails]
    exact held.next

/-! ## Requests -/

/-- The state that a step ends in. -/
def ended : Except Reservation Reservation → Reservation
  | .ok state => state
  | .error state => state

/-- A step only adds requests. -/
def Adds (before : Reservation) (result : Except Reservation Reservation) :
    Prop :=
  before.requests.length ≤ (ended result).requests.length

/-- A step requests an allocation. -/
def Asks (before : Reservation) (result : Except Reservation Reservation) :
    Prop :=
  before.requests.length < (ended result).requests.length

variable {before : Reservation} {result : Except Reservation Reservation}
  {continued : Reservation → Except Reservation Reservation}

theorem Adds.bind
    (adds : Adds before result)
    (continues : ∀ state, result = .ok state → Adds state (continued state)) :
    Adds before (result >>= continued) := by
  cases reached : result with
  | error state =>
      rw [reached] at adds
      exact adds
  | ok state =>
      rw [reached] at adds
      exact Nat.le_trans adds (continues state reached)

/-- A request stays on record whatever follows it. -/
theorem Asks.bind
    (asks : Asks before result)
    (continues : ∀ state, result = .ok state → Adds state (continued state)) :
    Asks before (result >>= continued) := by
  cases reached : result with
  | error state =>
      rw [reached] at asks
      exact asks
  | ok state =>
      rw [reached] at asks
      exact Nat.lt_of_lt_of_le asks (continues state reached)

theorem assignVector_asks (short : ¬size ≤ state.slot.capacity region) :
    Asks state (assignVector grants region size state) := by
  rw [assignVector, if_neg short]
  unfold Asks
  dsimp only
  split <;> simp [ended]

theorem assignVector_adds (region : SourcePayloadRegion) (size : Nat)
    (state : Reservation) :
    Adds state (assignVector grants region size state) := by
  by_cases fits : size ≤ state.slot.capacity region
  · rw [assignVector_fits fits]
    exact Nat.le_refl _
  · exact Nat.le_of_lt (assignVector_asks fits)

theorem reserveVector_asks {capacity : Nat} (short : ¬capacity ≤ state.slot.capacity region) :
    Asks state (reserveVector grants region capacity state) := by
  rw [reserveVector, if_neg short]
  unfold Asks
  dsimp only
  split <;> simp [ended]

theorem chunkSlotReserveAtLeast_asks
    (short : ¬required ≤ state.slot.capacity region) :
    Asks state (chunkSlotReserveAtLeast grants region required state) := by
  rw [chunkSlotReserveAtLeast, if_neg short]
  apply reserveVector_asks
  intro fits
  exact short (Nat.le_trans (Nat.le_max_right _ _) fits)

theorem chunkSlotReserveAtLeast_adds (region : SourcePayloadRegion)
    (required : Nat) (state : Reservation) :
    Adds state (chunkSlotReserveAtLeast grants region required state) := by
  by_cases fits : required ≤ state.slot.capacity region
  · rw [chunkSlotReserveAtLeast_fits fits]
    exact Nat.le_refl _
  · exact Nat.le_of_lt (chunkSlotReserveAtLeast_asks fits)

theorem provisionLookup_adds (family : LookupFamily) (count : Nat)
    (state : Reservation) :
    Adds state (provisionLookup grants family count state) := by
  rw [provisionLookup]
  split
  · exact Nat.le_refl _
  · apply (assignVector_adds _ _ _).bind
    intro assigned _
    apply (assignVector_adds _ _ _).bind
    intro cleared _
    exact chunkSlotReserveAtLeast_adds family.next count
      (clearVector family.next cleared)

theorem provisionLookup_asks
    (short : ¬(count ≠ 0 → HoldsLookup state.slot family count)) :
    Asks state (provisionLookup grants family count state) := by
  have counted : count ≠ 0 := fun none => short fun some => absurd none some
  rw [provisionLookup, if_neg counted]
  by_cases heads : lookupExtent state.slot family count ≤
      state.slot.capacity family.heads
  · have kept := ChunkSlot.capacity_resized heads
    change Asks state (assignVector grants family.heads
      (lookupExtent state.slot family count) state >>= _)
    rw [assignVector_fits heads]
    change Asks ⟨state.slot.resized family.heads
      (lookupExtent state.slot family count), state.requests⟩
      (assignVector grants family.tails
        (lookupExtent state.slot family count) _ >>= _)
    by_cases tails : lookupExtent state.slot family count ≤
        state.slot.capacity family.tails
    · rw [assignVector_fits (by rw [kept]; exact tails)]
      change Asks ⟨state.slot.provisioned family count, state.requests⟩
        (chunkSlotReserveAtLeast grants family.next count
          ⟨state.slot.provisioned family count, state.requests⟩)
      apply chunkSlotReserveAtLeast_asks
      rw [ChunkSlot.capacity_provisioned heads tails]
      exact fun next => short fun _ => ⟨heads, tails, next⟩
    · apply (assignVector_asks (by rw [kept]; exact tails)).bind
      intro cleared _
      exact chunkSlotReserveAtLeast_adds family.next count
        (clearVector family.next cleared)
  · apply (assignVector_asks heads).bind
    intro assigned _
    apply (assignVector_adds _ _ _).bind
    intro cleared _
    exact chunkSlotReserveAtLeast_adds family.next count
      (clearVector family.next cleared)

/-! ## Several lookups -/

/-- The lookups of some families have the capacity for a plan. -/
def HoldsLookups (slot : ChunkSlot) (plan : SourcePayloadCapacity)
    (families : List LookupFamily) : Prop :=
  ∀ family ∈ families, plan family.records ≠ 0 →
    HoldsLookup slot family (plan family.records)

/-- What the restoration of some families makes of a slot. -/
structure Provisions (slot final : ChunkSlot) (plan : SourcePayloadCapacity)
    (families : List LookupFamily) : Prop where
  capacity : final.capacity = slot.capacity
  sealed : final.pipelinePrefetchSealed = slot.pipelinePrefetchSealed
  marker : final.detachedOwnerMarker = slot.detachedOwnerMarker
  headers : final.rows.commandHeaders = slot.rows.commandHeaders
  clears : final.rows.clearRecords = slot.rows.clearRecords
  records : ∀ region, lookupRole region = .ordinary →
    final.size region = slot.size region
  tables : ∀ family ∈ families, plan family.records ≠ 0 →
    final.size family.heads =
        lookupExtent slot family (plan family.records) ∧
      final.size family.tails =
        lookupExtent slot family (plan family.records) ∧
      final.size family.next = 0
  others : ∀ family, family ∉ families →
    final.size family.heads = slot.size family.heads ∧
      final.size family.tails = slot.size family.tails ∧
      final.size family.next = slot.size family.next

theorem Provisions.refl (slot : ChunkSlot) (plan : SourcePayloadCapacity) :
    Provisions slot slot plan [] where
  capacity := rfl
  sealed := rfl
  marker := rfl
  headers := rfl
  clears := rfl
  records := fun _ _ => rfl
  tables := fun _ member => absurd member List.not_mem_nil
  others := fun _ _ => ⟨rfl, rfl, rfl⟩

/-- The slot behind the first of some families. -/
def ChunkSlot.advanced (slot : ChunkSlot) (plan : SourcePayloadCapacity)
    (family : LookupFamily) : ChunkSlot :=
  if plan family.records = 0 then slot
  else slot.provisioned family (plan family.records)

theorem size_provisioned_records (family : LookupFamily) (count : Nat) (record : lookupRole region = .ordinary) :
    (slot.provisioned family count).size region = slot.size region := by
  rw [ChunkSlot.size_provisioned, if_neg, if_neg]
  · rintro (same | same)
    · rw [same, family.role_tails] at record
      cases record
    · rw [same, family.role_heads] at record
      cases record
  · intro same
    rw [same, family.role_next] at record
    cases record

theorem size_provisioned_tables (family : LookupFamily) (count : Nat) :
    (slot.provisioned family count).size family.heads =
        lookupExtent slot family count ∧
      (slot.provisioned family count).size family.tails =
        lookupExtent slot family count ∧
      (slot.provisioned family count).size family.next = 0 := by
  cases family <;> simp [ChunkSlot.size_provisioned, LookupFamily.heads,
    LookupFamily.tails, LookupFamily.next]

theorem size_provisioned_others {other : LookupFamily}
    (differ : other ≠ family) (count : Nat) :
    (slot.provisioned family count).size other.heads = slot.size other.heads ∧
      (slot.provisioned family count).size other.tails =
        slot.size other.tails ∧
      (slot.provisioned family count).size other.next =
        slot.size other.next := by
  cases family <;> cases other <;> first
    | exact absurd rfl differ
    | simp [ChunkSlot.size_provisioned, LookupFamily.heads,
        LookupFamily.tails, LookupFamily.next]

theorem provisions_advanced
    (holds : plan family.records ≠ 0 →
      HoldsLookup slot family (plan family.records)) :
    Provisions slot (slot.advanced plan family) plan [family] := by
  rw [ChunkSlot.advanced]
  split
  · rename_i none
    refine { Provisions.refl slot plan with tables := ?_, others := ?_ }
    · intro other member counted
      cases List.mem_singleton.mp member
      exact absurd none counted
    · exact fun _ _ => ⟨rfl, rfl, rfl⟩
  · rename_i counted
    have held := holds counted
    constructor
    · exact ChunkSlot.capacity_provisioned held.heads held.tails
    · rfl
    · rfl
    · rfl
    · rfl
    · exact fun region => size_provisioned_records family _
    · intro other member _
      cases List.mem_singleton.mp member
      exact size_provisioned_tables family _
    · intro other differ
      exact size_provisioned_others
        (fun same => differ (List.mem_singleton.mpr same)) _

theorem lookupExtent_congr {left right : ChunkSlot}
    (same : left.size family.heads = right.size family.heads)
    (count : Nat) :
    lookupExtent left family count = lookupExtent right family count := by
  rw [lookupExtent, lookupExtent, same]

variable {families : List LookupFamily} {next : ChunkSlot}

/-- The capacity that one family needs does not depend on another one. -/
theorem HoldsLookups.advanced
    (provisions : Provisions slot next plan [family])
    (apart : family ∉ families) :
    HoldsLookups next plan families ↔ HoldsLookups slot plan families := by
  have extent : ∀ other ∈ families,
      lookupExtent next other (plan other.records) =
        lookupExtent slot other (plan other.records) := by
    intro other member
    apply lookupExtent_congr
    apply (provisions.others other _).1
    intro same
    cases List.mem_singleton.mp same
    exact apart member
  constructor
  · intro holds other member counted
    have held := holds other member counted
    rw [holdsLookup_iff, extent other member, provisions.capacity] at held
    exact holdsLookup_iff.mpr held
  · intro holds other member counted
    have held := holdsLookup_iff.mp (holds other member counted)
    rw [holdsLookup_iff, extent other member, provisions.capacity]
    exact held

theorem Provisions.cons {final : ChunkSlot}
    (first : Provisions slot next plan [family])
    (rest : Provisions next final plan families)
    (apart : family ∉ families) :
    Provisions slot final plan (family :: families) where
  capacity := rest.capacity.trans first.capacity
  sealed := rest.sealed.trans first.sealed
  marker := rest.marker.trans first.marker
  headers := rest.headers.trans first.headers
  clears := rest.clears.trans first.clears
  records := fun region record =>
    (rest.records region record).trans (first.records region record)
  tables := by
    intro other member counted
    cases member with
    | head =>
        have tables := first.tables family (List.mem_singleton.mpr rfl) counted
        have kept := rest.others family apart
        exact ⟨kept.1.trans tables.1, kept.2.1.trans tables.2.1,
          kept.2.2.trans tables.2.2⟩
    | tail _ later =>
        have tables := rest.tables other later counted
        have kept := first.others other fun same =>
          apart (List.mem_singleton.mp same ▸ later)
        rw [lookupExtent_congr kept.1] at tables
        exact tables
  others := by
    intro other differ
    have kept := first.others other fun same =>
      differ (List.mem_singleton.mp same ▸ List.mem_cons_self)
    have later := rest.others other fun member =>
      differ (List.mem_cons_of_mem _ member)
    exact ⟨later.1.trans kept.1, later.2.1.trans kept.2.1,
      later.2.2.trans kept.2.2⟩

section Restoring

variable (grants : Allocator) (plan : SourcePayloadCapacity)

/-- The restoration of some lookups, one behind the other. -/
def restoreLookups (families : List LookupFamily) (state : Reservation) :
    Except Reservation Reservation :=
  families.foldlM
    (fun state family =>
      provisionLookup grants family (plan family.records) state)
    state

theorem restoreLookups_cons (family : LookupFamily)
    (families : List LookupFamily) (state : Reservation) :
    restoreLookups grants plan (family :: families) state =
      provisionLookup grants family (plan family.records) state >>=
        restoreLookups grants plan families :=
  rfl

theorem restoreLookups_adds (families : List LookupFamily)
    (state : Reservation) :
    Adds state (restoreLookups grants plan families state) := by
  induction families generalizing state with
  | nil => exact Nat.le_refl _
  | cons family families induction =>
      rw [restoreLookups_cons]
      apply (provisionLookup_adds family _ state).bind
      exact fun next _ => induction next

variable {families : List LookupFamily}

theorem restoreLookups_holds
    (distinct : families.Nodup) {slot : ChunkSlot}
    (holds : HoldsLookups slot plan families)
    (requests : List AllocationRequest) :
    ∃ final, restoreLookups grants plan families ⟨slot, requests⟩ =
        .ok ⟨final, requests⟩ ∧
      Provisions slot final plan families := by
  induction families generalizing slot with
  | nil => exact ⟨slot, rfl, Provisions.refl slot plan⟩
  | cons family families induction =>
      have apart := (List.nodup_cons.mp distinct).1
      have head := holds family List.mem_cons_self
      have first := provisions_advanced head
      have rest : HoldsLookups (slot.advanced plan family) plan families :=
        (HoldsLookups.advanced first apart).mpr fun other member =>
          holds other (List.mem_cons_of_mem _ member)
      obtain ⟨final, reached, provisions⟩ :=
        induction (List.nodup_cons.mp distinct).2 rest
      refine ⟨final, ?_, first.cons provisions apart⟩
      rw [restoreLookups_cons, provisionLookup_holds head]
      exact reached

theorem restoreLookups_asks
    (distinct : families.Nodup) {slot : ChunkSlot}
    (short : ¬HoldsLookups slot plan families)
    (requests : List AllocationRequest) :
    Asks ⟨slot, requests⟩
      (restoreLookups grants plan families ⟨slot, requests⟩) := by
  induction families generalizing slot with
  | nil => exact absurd (fun _ member => absurd member List.not_mem_nil) short
  | cons family families induction =>
      have apart := (List.nodup_cons.mp distinct).1
      rw [restoreLookups_cons]
      by_cases head : plan family.records ≠ 0 →
          HoldsLookup slot family (plan family.records)
      · have first := provisions_advanced head
        rw [provisionLookup_holds head]
        change Asks ⟨slot.advanced plan family, requests⟩
          (restoreLookups grants plan families
            ⟨slot.advanced plan family, requests⟩)
        apply induction (List.nodup_cons.mp distinct).2
        intro rest
        have kept := (HoldsLookups.advanced first apart).mp rest
        apply short
        intro other member
        cases member with
        | head => exact head
        | tail _ later => exact kept other later
      · apply (provisionLookup_asks head).bind
        exact fun next _ => restoreLookups_adds grants plan families next

end Restoring

end Dxmt9.DirectContinuation
