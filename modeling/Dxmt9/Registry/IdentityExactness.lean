import Dxmt9.Registry.WireObjectRegistry

/-!
# Exactness of wire identities

Over any history of insertions and erasures an identity is returned once,
resolves exactly while its object is registered, and never again.
-/

namespace Dxmt9.Registry

open Dxmt9.Transition

variable {registryId : UInt32} {slotIndex : Nat}

theorem wireObjectId_toNat
    (bound : slotIndex + 1 < 2 ^ 32) :
    (wireObjectId registryId slotIndex).toNat =
      registryId.toNat * 2 ^ 32 + (slotIndex + 1) := by
  have idBound := registryId.toNat_lt
  have index : (UInt64.ofNat slotIndex + 1).toNat = slotIndex + 1 := by
    have size : UInt64.size = 2 ^ 64 := rfl
    have one : (1 : UInt64).toNat = 1 := rfl
    rw [UInt64.toNat_add, UInt64.toNat_ofNat_of_lt' (by omega), one]
    omega
  have shifted : (registryId.toUInt64 <<< 32).toNat =
      registryId.toNat <<< 32 := by
    have amount : (32 : UInt64).toNat % 64 = 32 := rfl
    rw [UInt64.toNat_shiftLeft, amount, UInt32.toNat_toUInt64,
      Nat.shiftLeft_eq]
    apply Nat.mod_eq_of_lt
    omega
  unfold wireObjectId
  rw [UInt64.toNat_or, index, shifted,
    ← Nat.shiftLeft_add_eq_or_of_lt bound, Nat.shiftLeft_eq]

theorem wireObjectId_inj {left right : Nat}
    (leftBound : left + 1 < 2 ^ 32) (rightBound : right + 1 < 2 ^ 32)
    (equal : wireObjectId registryId left = wireObjectId registryId right) :
    left = right := by
  have values := congrArg UInt64.toNat equal
  rw [wireObjectId_toNat leftBound, wireObjectId_toNat rightBound] at values
  omega

theorem wireObjectId_ne_zero
    (bound : slotIndex + 1 < 2 ^ 32) :
    wireObjectId registryId slotIndex ≠ 0 := by
  intro isZero
  have value := congrArg UInt64.toNat isZero
  rw [wireObjectId_toNat bound] at value
  have zero : (0 : UInt64).toNat = 0 := rfl
  omega

namespace WireObjectRegistry

variable {registry : WireObjectRegistry}

theorem findLocked_eq_some_iff
    (bounded : registry.slots.length + 1 ≤ 2 ^ 32) {objectId : UInt64}
    {slotIndex : Nat} :
    registry.findLocked objectId = some slotIndex ↔
      slotIndex < registry.slots.length ∧
        objectId = wireObjectId registry.registryId slotIndex := by
  have bound := objectId.toNat_lt
  have high : (objectId >>> 32).toUInt32.toNat = objectId.toNat / 2 ^ 32 := by
    have amount : (32 : UInt64).toNat % 64 = 32 := rfl
    rw [UInt64.toNat_toUInt32, UInt64.toNat_shiftRight, amount,
      Nat.shiftRight_eq_div_pow]
    apply Nat.mod_eq_of_lt
    omega
  have low : (objectId &&& 0xFFFFFFFF).toUInt32.toNat =
      objectId.toNat % 2 ^ 32 := by
    have mask : (0xFFFFFFFF : UInt64).toNat = 2 ^ 32 - 1 := rfl
    rw [UInt64.toNat_toUInt32, UInt64.toNat_and, mask,
      Nat.and_two_pow_sub_one_eq_mod, Nat.mod_mod]
  have zero : (0 : UInt32).toNat = 0 := rfl
  have zero64 : (0 : UInt64).toNat = 0 := rfl
  unfold findLocked
  constructor
  · intro found
    split at found
    · contradiction
    · simp only at found
      split at found
      · contradiction
      · rename_i names
        simp only [Bool.or_eq_true, decide_eq_true_eq, beq_iff_eq, not_or,
          not_not, Nat.not_lt, ← UInt32.toNat_inj, high, low, zero] at names
        have equal := Option.some.inj found
        rw [low] at equal
        obtain ⟨⟨sameRegistry, isSlot⟩, inside⟩ := names
        refine ⟨by omega, ?_⟩
        rw [← UInt64.toNat_inj, wireObjectId_toNat (by omega)]
        omega
  · rintro ⟨inside, rfl⟩
    have value := @wireObjectId_toNat registry.registryId slotIndex (by omega)
    rw [if_neg (wireObjectId_ne_zero (by omega))]
    have idBound := registry.registryId.toNat_lt
    rw [value] at high low
    simp only
    rw [if_neg]
    · rw [low]
      congr 1
      omega
    · simp only [Bool.or_eq_true, decide_eq_true_eq, beq_iff_eq, not_or,
        not_not, Nat.not_lt, ← UInt32.toNat_inj, high, low, zero]
      omega

/-- What holds of the slots and the free list between two calls. -/
structure Ok (registry : WireObjectRegistry) : Prop where
  bounded : registry.slots.length + 1 ≤ 2 ^ 32
  generation : ∀ slot ∈ registry.slots, slot.generation ≠ 0
  retired : ∀ slot ∈ registry.slots, slot.retired = true → slot.object = 0
  free : ∀ index, index ∈ registry.freeSlots ↔
    ∃ slot, registry.slots[index]? = some slot ∧ slot.object = 0 ∧
      slot.retired = false
  freeNodup : registry.freeSlots.Nodup

variable {slot : Slot} {kind : UInt32}

theorem identityMatches_iff (generation : slot.generation ≠ 0)
    (retired : slot.retired = true → slot.object = 0)
    {given : UInt32} :
    identityMatches slot kind given = true ↔
      slot.object ≠ 0 ∧ slot.kind = kind ∧ slot.generation = given := by
  unfold identityMatches
  simp only [Bool.and_eq_true, Bool.not_eq_true', bne_iff_ne, beq_iff_eq]
  constructor
  · rintro ⟨⟨⟨⟨_, held⟩, sameKind⟩, sameGeneration⟩, _⟩
    exact ⟨held, sameKind, sameGeneration⟩
  · rintro ⟨held, sameKind, rfl⟩
    refine ⟨⟨⟨⟨?_, held⟩, sameKind⟩, rfl⟩, generation⟩
    rw [Bool.eq_false_iff]
    exact fun isRetired => held (retired isRetired)

/-- The slot holds the object under the identity. -/
def Names (registry : WireObjectRegistry) (identity : WireObjectIdentity)
    (object : UInt64) : Prop :=
  ∃ (index : Nat) (slot : Slot), registry.slots[index]? = some slot ∧
    slot.object = object ∧ object ≠ 0 ∧
    identity =
      { kind := slot.kind
        generation := slot.generation
        objectId := wireObjectId registry.registryId index }

variable {object : UInt64}

theorem resolve_eq_some_iff
    (ok : registry.Ok) {identity : WireObjectIdentity} :
    registry.resolve identity.kind identity.generation identity.objectId =
        some object ↔ registry.Names identity object := by
  unfold resolve Names
  constructor
  · intro resolved
    split at resolved
    · contradiction
    · rename_i index found
      obtain ⟨_, sameId⟩ := (findLocked_eq_some_iff ok.bounded).mp found
      split at resolved
      · contradiction
      · rename_i slot present
        have member := List.mem_of_getElem? present
        split at resolved
        · rename_i isMatch
          obtain ⟨held, sameKind, sameGeneration⟩ :=
            (identityMatches_iff (ok.generation slot member)
              (ok.retired slot member)).mp isMatch
          obtain rfl := Option.some.inj resolved
          refine ⟨index, slot, present, rfl, held, ?_⟩
          rw [sameKind, sameGeneration, ← sameId]
        · contradiction
  · rintro ⟨index, slot, present, rfl, held, rfl⟩
    have inside := (List.getElem?_eq_some_iff.mp present).1
    have found := (findLocked_eq_some_iff ok.bounded).mpr
      ⟨inside, (rfl : wireObjectId registry.registryId index = _)⟩
    have member := List.mem_of_getElem? present
    have isMatch := (identityMatches_iff (ok.generation slot member)
      (ok.retired slot member)).mpr ⟨held, rfl, rfl⟩
    simp only [found, present, isMatch, if_true]

/-- What a successful insertion changes: one slot that held nothing. -/
structure Inserted (registry next : WireObjectRegistry) (index : Nat)
    (slot : Slot) (kind : UInt32) (object : UInt64) : Prop where
  registryId : next.registryId = registry.registryId
  vacant : registry.slots[index]? = some slot ∨
    (registry.slots[index]? = none ∧ slot = {})
  wasEmpty : slot.object = 0
  wasActive : slot.retired = false
  generation : slot.generation ≠ 0
  slots : ∀ other, next.slots[other]? =
    if index = other then some { slot with object := object, kind := kind }
    else registry.slots[other]?
  bounded : next.slots.length + 1 ≤ 2 ^ 32
  free : ∀ other, other ∈ next.freeSlots ↔
    other ∈ registry.freeSlots ∧ other ≠ index
  freeNodup : next.freeSlots.Nodup
  activeCount : next.activeCount = registry.activeCount + 1
  named : object ≠ 0

theorem mem_dropLast_iff {items : List Nat} (unique : items.Nodup)
    {last : Nat} (isLast : items.getLast? = some last) (other : Nat) :
    other ∈ items.dropLast ↔ other ∈ items ∧ other ≠ last := by
  obtain ⟨front, rfl⟩ := List.getLast?_eq_some_iff.mp isLast
  rw [List.dropLast_concat, List.mem_append, List.mem_singleton]
  have fresh : last ∉ front := by
    intro member
    have apart := (List.nodup_append.mp unique).2.2
    exact apart last member last List.mem_cons_self rfl
  constructor
  · exact fun member => ⟨Or.inl member, fun same => fresh (same ▸ member)⟩
  · rintro ⟨member | same, different⟩
    · exact member
    · exact absurd same different

variable {other : Nat}

theorem getElem?_append_singleton_of_ne {slots : List Slot} {added : Slot} (different : slots.length ≠ other) :
    (slots ++ [added])[other]? = slots[other]? := by
  rcases Nat.lt_or_gt_of_ne different with beyond | inside
  · have length : (slots ++ [added]).length = slots.length + 1 := by
      rw [List.length_append, List.length_singleton]
    rw [List.getElem?_eq_none (by omega), List.getElem?_eq_none (by omega)]
  · exact List.getElem?_append_left inside

/-- An insertion is refused without a trace or fills one vacant slot. -/
theorem insert_cases (ok : registry.Ok)
    (callbackActive : Bool) (kind : UInt32) (object : UInt64) :
    registry.insert callbackActive kind object = ({}, registry) ∨
      ∃ index slot next, Inserted registry next index slot kind object ∧
        registry.insert callbackActive kind object =
          ({ kind := kind
             generation := slot.generation
             objectId := wireObjectId registry.registryId index }, next) := by
  unfold insert
  split
  · exact Or.inl rfl
  · split
    · exact Or.inl rfl
    · rename_i wellFormed
      simp only [Bool.or_eq_true, beq_iff_eq, not_or] at wellFormed
      cases last : registry.freeSlots.getLast? with
      | some index =>
          have listed : index ∈ registry.freeSlots := List.mem_of_getLast? last
          obtain ⟨slot, present, vacant, active⟩ := (ok.free index).mp listed
          have generation := ok.generation slot (List.mem_of_getElem? present)
          simp only [takeSlot, last, present, vacant, active]
          rw [if_neg (by simp [generation])]
          refine Or.inr ⟨index, slot, _, ?_, rfl⟩
          constructor
          · rfl
          · exact Or.inl present
          · exact vacant
          · exact active
          · exact generation
          · intro other
            have inside := (List.getElem?_eq_some_iff.mp present).1
            rw [List.getElem?_set, if_pos inside, active]
          · simp only [List.length_set]
            exact ok.bounded
          · exact mem_dropLast_iff ok.freeNodup last
          · exact ok.freeNodup.sublist (List.dropLast_sublist _)
          · rfl
          · exact wellFormed.1
      | none =>
          simp only [takeSlot, last]
          by_cases full : maxUInt32.toNat ≤ registry.slots.length
          · rw [if_pos full]
            exact Or.inl rfl
          · have top : maxUInt32.toNat = 2 ^ 32 - 1 := rfl
            rw [if_neg full]
            simp only [List.getElem?_concat_length]
            rw [if_neg (by decide)]
            refine Or.inr ⟨registry.slots.length, {}, _, ?_, rfl⟩
            constructor
            · rfl
            · exact Or.inr ⟨List.getElem?_eq_none (Nat.le_refl _), rfl⟩
            · rfl
            · rfl
            · decide
            · intro other
              rw [List.getElem?_set, List.length_append]
              split
              · rw [if_pos (by simp)]
              · rename_i different
                exact getElem?_append_singleton_of_ne different
            · simp only [List.length_set, List.length_append,
                List.length_cons, List.length_nil]
              omega
            · intro other
              rw [List.getLast?_eq_none_iff.mp last]
              constructor
              · intro member
                contradiction
              · rintro ⟨member, _⟩
                contradiction
            · exact ok.freeNodup
            · rfl
            · exact wellFormed.1

/-- What a successful erasure changes: the slot that held the object. -/
structure Erased (registry next : WireObjectRegistry) (index : Nat)
    (slot : Slot) (object : UInt64) : Prop where
  registryId : next.registryId = registry.registryId
  present : registry.slots[index]? = some slot
  held : slot.object = object
  named : object ≠ 0
  slots : ∀ other, next.slots[other]? =
    if index = other then some (vacated slot) else registry.slots[other]?
  bounded : next.slots.length + 1 ≤ 2 ^ 32
  free : ∀ other, other ∈ next.freeSlots ↔
    other ∈ registry.freeSlots ∨
      (vacated slot).retired = false ∧ other = index
  freeNodup : next.freeSlots.Nodup
  activeCount : next.activeCount = registry.activeCount - 1

variable {index : Nat}

theorem erased_of_present (ok : registry.Ok)
    (present : registry.slots[index]? = some slot)
    (held : slot.object ≠ 0) :
    Erased registry
      { registry with
        slots := registry.slots.set index (vacated slot)
        activeCount := registry.activeCount - 1
        freeSlots :=
          if (vacated slot).retired then registry.freeSlots
          else registry.freeSlots ++ [index] } index slot slot.object := by
  have notFree : index ∉ registry.freeSlots := by
    intro member
    obtain ⟨other, same, vacant, _⟩ := (ok.free index).mp member
    rw [present] at same
    obtain rfl := Option.some.inj same
    exact held vacant
  constructor
  · rfl
  · exact present
  · rfl
  · exact held
  · intro other
    have inside := (List.getElem?_eq_some_iff.mp present).1
    rw [List.getElem?_set, if_pos inside]
  · simp only [List.length_set]
    exact ok.bounded
  · intro other
    cases retires : (vacated slot).retired with
    | true => simp
    | false => simp
  · cases retires : (vacated slot).retired with
    | true =>
        rw [if_pos rfl]
        exact ok.freeNodup
    | false =>
        rw [if_neg Bool.false_ne_true]
        rw [List.nodup_append]
        refine ⟨ok.freeNodup, List.pairwise_singleton _ index, ?_⟩
        rintro other member last isLast rfl
        exact notFree (List.mem_singleton.mp isLast ▸ member)
  · rfl

/-- An erasure is refused without a trace, and only when the identity does
not name the object, or empties the slot that the identity names. -/
theorem erase_cases (ok : registry.Ok)
    (callbackActive : Bool) (identity : WireObjectIdentity)
    (object : UInt64) :
    (registry.erase callbackActive identity object = (false, registry) ∧
        (callbackActive = false → ¬registry.Names identity object)) ∨
      ∃ index slot next, Erased registry next index slot object ∧
        callbackActive = false ∧
        identity =
          { kind := slot.kind
            generation := slot.generation
            objectId := wireObjectId registry.registryId index } ∧
        registry.erase callbackActive identity object = (true, next) := by
  by_cases names : registry.Names identity object
  · cases callbackActive with
    | true =>
        refine Or.inl ⟨rfl, ?_⟩
        intro inactive
        contradiction
    | false =>
        obtain ⟨index, slot, present, rfl, held, rfl⟩ := names
        refine Or.inr
          ⟨index, slot, _, erased_of_present ok present held, rfl, rfl, ?_⟩
        have inside := (List.getElem?_eq_some_iff.mp present).1
        have bounded := ok.bounded
        have member := List.mem_of_getElem? present
        have found := (findLocked_eq_some_iff ok.bounded).mpr
          ⟨inside, (rfl : wireObjectId registry.registryId index = _)⟩
        have isMatch := (identityMatches_iff (ok.generation slot member)
          (ok.retired slot member)).mpr ⟨held, rfl, rfl⟩
        have named := @wireObjectId_ne_zero registry.registryId index
          (by omega)
        have generation := ok.generation slot member
        unfold erase
        rw [if_neg Bool.false_ne_true, if_neg (by simp [held, named, generation])]
        simp only [found, present, isMatch]
        rw [if_neg (by simp)]
  · refine Or.inl ⟨?_, fun _ => names⟩
    unfold erase
    split
    · rfl
    · split
      · rfl
      · rename_i wellFormed
        simp only [Bool.or_eq_true, beq_iff_eq, not_or] at wellFormed
        split
        · rfl
        · rename_i index found
          obtain ⟨_, sameId⟩ := (findLocked_eq_some_iff ok.bounded).mp found
          split
          · rfl
          · rename_i slot present
            have member := List.mem_of_getElem? present
            rw [if_pos]
            rw [Bool.or_eq_true, Bool.not_eq_true', bne_iff_ne]
            by_contra matched
            rw [not_or, Bool.not_eq_false, ne_eq, not_not] at matched
            obtain ⟨held, sameKind, sameGeneration⟩ :=
              (identityMatches_iff (ok.generation slot member)
                (ok.retired slot member)).mp matched.1
            apply names
            refine ⟨index, slot, present, matched.2, wellFormed.1.1, ?_⟩
            rw [sameKind, sameGeneration, ← sameId]

theorem advanceGeneration_cases {generation : UInt32}
    (nonzero : generation ≠ 0) :
    (advanceGeneration generation = (generation, true) ∧
        generation = maxUInt32) ∨
      (advanceGeneration generation = (generation + 1, false) ∧
        (generation + 1).toNat = generation.toNat + 1) := by
  unfold advanceGeneration
  by_cases top : generation = maxUInt32
  · exact Or.inl ⟨if_pos (Or.inr top), top⟩
  · refine Or.inr ⟨if_neg (not_or.mpr ⟨nonzero, top⟩), ?_⟩
    have below : generation.toNat ≠ 2 ^ 32 - 1 :=
      fun same => top (UInt32.toNat_inj.mp same)
    have bound := generation.toNat_lt
    have one : (1 : UInt32).toNat = 1 := rfl
    rw [UInt32.toNat_add, one]
    omega

theorem vacated_generation_ne_zero
    (nonzero : slot.generation ≠ 0) : (vacated slot).generation ≠ 0 := by
  intro isZero
  have value := congrArg UInt32.toNat isZero
  have zero : (0 : UInt32).toNat = 0 := rfl
  rcases advanceGeneration_cases nonzero with ⟨advance, _⟩ | ⟨advance, next⟩
  · simp only [vacated, advance] at isZero
    exact nonzero isZero
  · simp only [vacated, advance] at value
    omega

variable {next : WireObjectRegistry}

theorem Inserted.ok (ok : registry.Ok)
    (inserted : Inserted registry next index slot kind object) : next.Ok := by
  have stored : ∀ other ∈ next.slots,
      other = { slot with object := object, kind := kind } ∨
        other ∈ registry.slots := by
    intro other member
    obtain ⟨position, present⟩ := List.mem_iff_getElem?.mp member
    rw [inserted.slots] at present
    split at present
    · exact Or.inl (Option.some.inj present).symm
    · exact Or.inr (List.mem_of_getElem? present)
  constructor
  · exact inserted.bounded
  · intro other member
    rcases stored other member with rfl | before
    · exact inserted.generation
    · exact ok.generation other before
  · intro other member isRetired
    rcases stored other member with rfl | before
    · simp only [inserted.wasActive] at isRetired
      contradiction
    · exact ok.retired other before isRetired
  · intro other
    rw [inserted.free, inserted.slots, ok.free]
    split
    · rename_i same
      constructor
      · exact fun listed => absurd same.symm listed.2
      · rintro ⟨filled, equal, isEmpty, _⟩
        obtain rfl := Option.some.inj equal
        exact absurd isEmpty inserted.named
    · rename_i different
      exact and_iff_left (Ne.symm different)
  · exact inserted.freeNodup

theorem Erased.ok (ok : registry.Ok)
    (erased : Erased registry next index slot object) : next.Ok := by
  have stored : ∀ other ∈ next.slots,
      other = vacated slot ∨ other ∈ registry.slots := by
    intro other member
    obtain ⟨position, present⟩ := List.mem_iff_getElem?.mp member
    rw [erased.slots] at present
    split at present
    · exact Or.inl (Option.some.inj present).symm
    · exact Or.inr (List.mem_of_getElem? present)
  constructor
  · exact erased.bounded
  · intro other member
    rcases stored other member with rfl | before
    · exact vacated_generation_ne_zero
        (ok.generation slot (List.mem_of_getElem? erased.present))
    · exact ok.generation other before
  · intro other member isRetired
    rcases stored other member with rfl | before
    · rfl
    · exact ok.retired other before isRetired
  · intro other
    rw [erased.free, erased.slots, ok.free]
    split
    · rename_i same
      subst same
      constructor
      · rintro (⟨held, present, isEmpty, _⟩ | ⟨active, _⟩)
        · rw [erased.present] at present
          obtain rfl := Option.some.inj present
          exact absurd (erased.held.symm.trans isEmpty) erased.named
        · exact ⟨vacated slot, rfl, rfl, active⟩
      · rintro ⟨left, equal, _, active⟩
        obtain rfl := Option.some.inj equal
        exact Or.inr ⟨active, rfl⟩
    · rename_i different
      constructor
      · rintro (before | ⟨_, same⟩)
        · exact before
        · exact absurd same.symm different
      · exact Or.inl
  · exact erased.freeNodup

theorem index_eq_of_wireObjectId_eq (ok : registry.Ok)
    {left right : Nat} {leftSlot rightSlot : Slot}
    (leftPresent : registry.slots[left]? = some leftSlot)
    (rightPresent : registry.slots[right]? = some rightSlot)
    (same : wireObjectId registry.registryId left =
      wireObjectId registry.registryId right) : left = right := by
  have leftInside := (List.getElem?_eq_some_iff.mp leftPresent).1
  have rightInside := (List.getElem?_eq_some_iff.mp rightPresent).1
  have bounded := ok.bounded
  exact wireObjectId_inj (by omega) (by omega) same

theorem Inserted.slot_eq
    (ok : registry.Ok)
    (inserted : Inserted registry next index slot kind object) {found : Slot}
    (present : registry.slots[other]? = some found)
    (same : wireObjectId registry.registryId other =
      wireObjectId registry.registryId index) : found = slot := by
  have inside := (List.getElem?_eq_some_iff.mp present).1
  have bounded := ok.bounded
  have placed := inserted.slots index
  rw [if_pos rfl] at placed
  have added := (List.getElem?_eq_some_iff.mp placed).1
  have room := inserted.bounded
  obtain rfl := wireObjectId_inj (by omega) (by omega) same
  rcases inserted.vacant with vacant | ⟨absent, _⟩
  · rw [present] at vacant
    exact Option.some.inj vacant
  · rw [present] at absent
    contradiction

theorem Inserted.names_iff
    (inserted : Inserted registry next index slot kind object)
    (identity : WireObjectIdentity) (held : UInt64) :
    next.Names identity held ↔
      registry.Names identity held ∨
        held = object ∧
          identity =
            { kind := kind
              generation := slot.generation
              objectId := wireObjectId registry.registryId index } := by
  unfold Names
  rw [inserted.registryId]
  constructor
  · rintro ⟨other, found, present, holds, nonzero, rfl⟩
    rw [inserted.slots] at present
    split at present
    · rename_i same
      subst same
      obtain rfl := Option.some.inj present
      exact Or.inr ⟨holds.symm, rfl⟩
    · exact Or.inl ⟨other, found, present, holds, nonzero, rfl⟩
  · rintro (⟨other, found, present, holds, nonzero, rfl⟩ | ⟨rfl, rfl⟩)
    · refine ⟨other, found, ?_, holds, nonzero, rfl⟩
      rw [inserted.slots, if_neg, present]
      rintro rfl
      rcases inserted.vacant with vacant | ⟨absent, _⟩
      · rw [present] at vacant
        obtain rfl := Option.some.inj vacant
        exact nonzero (holds.symm.trans inserted.wasEmpty)
      · rw [present] at absent
        contradiction
    · refine ⟨index, { slot with object := held, kind := kind }, ?_, rfl,
        inserted.named, rfl⟩
      rw [inserted.slots, if_pos rfl]

/-- After an erasure every name stays but the erased identity's. -/
theorem Erased.names_iff
    (ok : registry.Ok) (erased : Erased registry next index slot object)
    (identity : WireObjectIdentity) (held : UInt64) :
    next.Names identity held ↔
      registry.Names identity held ∧
        identity ≠
          { kind := slot.kind
            generation := slot.generation
            objectId := wireObjectId registry.registryId index } := by
  unfold Names
  rw [erased.registryId]
  constructor
  · rintro ⟨other, found, present, holds, nonzero, rfl⟩
    rw [erased.slots] at present
    split at present
    · obtain rfl := Option.some.inj present
      exact absurd holds.symm nonzero
    · rename_i different
      refine ⟨⟨other, found, present, holds, nonzero, rfl⟩, ?_⟩
      intro same
      apply different
      exact (index_eq_of_wireObjectId_eq ok present erased.present
        (congrArg WireObjectIdentity.objectId same)).symm
  · rintro ⟨⟨other, found, present, holds, nonzero, rfl⟩, different⟩
    refine ⟨other, found, ?_, holds, nonzero, rfl⟩
    rw [erased.slots, if_neg, present]
    rintro rfl
    rw [erased.present] at present
    obtain rfl := Option.some.inj present
    exact different rfl

end WireObjectRegistry

/-! ## Histories -/

namespace History

open WireObjectRegistry

def initial (registryId : UInt32) : History :=
  { registry := { registryId := registryId } }

/-- An identity was issued by a slot that has not gone back behind it, and
that has left it once it is vacant. -/
def IssuedBy (registry : WireObjectRegistry)
    (identity : WireObjectIdentity) : Prop :=
  ∃ (index : Nat) (slot : Slot), registry.slots[index]? = some slot ∧
    identity.objectId = wireObjectId registry.registryId index ∧
    identity.generation ≤ slot.generation ∧
    (identity.generation = slot.generation → slot.object = 0 →
      slot.retired = true)

/-- The later identity of one object id has the greater generation. -/
def Succeeds (earlier later : WireObjectIdentity) : Prop :=
  earlier.objectId = later.objectId → earlier.generation < later.generation

/-- What holds between the registry and its history after every call. -/
structure Exact (history : History) : Prop where
  ok : history.registry.Ok
  issued : ∀ identity ∈ history.issued, IssuedBy history.registry identity
  ordered : history.issued.Pairwise Succeeds
  live : ∀ identity object,
    (identity, object) ∈ history.live ↔
      history.registry.Names identity object
  liveNodup : (history.live.map Prod.fst).Nodup
  activeCount : history.registry.activeCount = history.live.length

theorem exact_initial (registryId : UInt32) : (initial registryId).Exact := by
  constructor
  · constructor
    · exact Nat.one_le_two_pow
    · intro slot member
      contradiction
    · intro slot member
      contradiction
    · intro index
      constructor
      · intro member
        contradiction
      · rintro ⟨slot, present, _⟩
        contradiction
    · exact List.nodup_nil
  · intro identity member
    contradiction
  · exact List.Pairwise.nil
  · intro identity object
    constructor
    · intro member
      contradiction
    · rintro ⟨index, slot, present, _⟩
      contradiction
  · exact List.nodup_nil
  · rfl

variable {registry next : WireObjectRegistry} {index : Nat} {slot : Slot}
  {kind : UInt32} {object : UInt64} {identity : WireObjectIdentity}

theorem IssuedBy.inserted
    (insertion : Inserted registry next index slot kind object) (issued : IssuedBy registry identity) :
    IssuedBy next identity := by
  obtain ⟨other, found, present, sameId, behind, left⟩ := issued
  unfold IssuedBy
  rw [insertion.registryId]
  by_cases same : index = other
  · subst same
    refine ⟨index, { slot with object := object, kind := kind }, ?_, sameId,
      ?_, ?_⟩
    · rw [insertion.slots, if_pos rfl]
    · rcases insertion.vacant with vacant | ⟨absent, _⟩
      · rw [present] at vacant
        obtain rfl := Option.some.inj vacant
        exact behind
      · rw [present] at absent
        contradiction
    · exact fun _ isEmpty => absurd isEmpty insertion.named
  · refine ⟨other, found, ?_, sameId, behind, left⟩
    rw [insertion.slots, if_neg same, present]

theorem IssuedBy.erased
    (ok : registry.Ok)
    (erasure : Erased registry next index slot object) (issued : IssuedBy registry identity) :
    IssuedBy next identity := by
  obtain ⟨other, found, present, sameId, behind, left⟩ := issued
  unfold IssuedBy
  rw [erasure.registryId]
  by_cases same : index = other
  · subst same
    rw [erasure.present] at present
    obtain rfl := Option.some.inj present
    refine ⟨index, vacated slot, ?_, sameId, ?_⟩
    · rw [erasure.slots, if_pos rfl]
    · have nonzero := ok.generation slot (List.mem_of_getElem? erasure.present)
      rw [UInt32.le_iff_toNat_le] at behind ⊢
      rcases advanceGeneration_cases nonzero with
        ⟨advance, _⟩ | ⟨advance, next⟩
      · simp only [vacated, advance]
        exact ⟨behind, fun _ _ => trivial⟩
      · simp only [vacated, advance]
        refine ⟨by omega, ?_⟩
        intro equal
        rw [← UInt32.toNat_inj] at equal
        omega
  · refine ⟨other, found, ?_, sameId, behind, left⟩
    rw [erasure.slots, if_neg same, present]

theorem IssuedBy.succeeds
    (ok : registry.Ok)
    (insertion : Inserted registry next index slot kind object) (issued : IssuedBy registry identity) :
    Succeeds identity
      { kind := kind
        generation := slot.generation
        objectId := wireObjectId registry.registryId index } := by
  intro sameId
  obtain ⟨other, found, present, issuedId, behind, left⟩ := issued
  rw [issuedId] at sameId
  obtain rfl := insertion.slot_eq ok present sameId
  have notRetired : ¬found.retired = true := by
    rw [insertion.wasActive]
    exact Bool.false_ne_true
  have moved : identity.generation ≠ found.generation :=
    fun same => notRetired (left same insertion.wasEmpty)
  exact UInt32.lt_of_le_of_ne behind moved

variable {history : History}

theorem exact_step_insert (exact : history.Exact)
    (callbackActive : Bool) (kind : UInt32) (object : UInt64) :
    (history.step (.insert callbackActive kind object)).Exact := by
  rcases insert_cases exact.ok callbackActive kind object with
    refused | ⟨index, slot, next, insertion, result⟩
  · simp only [step, refused, if_true]
    exact exact
  · have named : ({ kind := kind
                    generation := slot.generation
                    objectId :=
                      wireObjectId history.registry.registryId index } :
        WireObjectIdentity) ≠ {} := by
      intro same
      exact insertion.generation (congrArg WireObjectIdentity.generation same)
    simp only [step, result]
    rw [if_neg named]
    have fresh : ∀ held, ¬history.registry.Names
        { kind := kind
          generation := slot.generation
          objectId := wireObjectId history.registry.registryId index }
        held := by
      rintro held ⟨other, found, present, holds, nonzero, same⟩
      obtain rfl := insertion.slot_eq exact.ok present
        (congrArg WireObjectIdentity.objectId same).symm
      exact nonzero (holds.symm.trans insertion.wasEmpty)
    constructor
    · exact insertion.ok exact.ok
    · intro identity member
      rcases List.mem_append.mp member with before | last
      · exact (exact.issued identity before).inserted insertion
      · obtain rfl := List.mem_singleton.mp last
        refine ⟨index, { slot with object := object, kind := kind }, ?_, ?_,
          UInt32.le_refl _, fun _ isEmpty => absurd isEmpty insertion.named⟩
        · rw [insertion.slots, if_pos rfl]
        · rw [insertion.registryId]
    · rw [List.pairwise_append]
      refine ⟨exact.ordered, List.pairwise_singleton _ _, ?_⟩
      intro identity before last isLast
      obtain rfl := List.mem_singleton.mp isLast
      exact (exact.issued identity before).succeeds exact.ok insertion
    · intro identity held
      rw [insertion.names_iff, List.mem_append, exact.live,
        List.mem_singleton, Prod.mk.injEq, and_comm (a := identity = _)]
    · rw [List.map_append, List.nodup_append]
      refine ⟨exact.liveNodup, List.pairwise_singleton _ _, ?_⟩
      rintro identity before other isLast rfl
      obtain ⟨⟨_, held⟩, member, rfl⟩ := List.mem_map.mp before
      have last := List.mem_singleton.mp isLast
      simp only at last
      subst last
      exact fresh held ((exact.live _ held).mp member)
    · rw [insertion.activeCount, exact.activeCount, List.length_append,
        List.length_singleton]

theorem length_filter_bne {live : List (WireObjectIdentity × UInt64)}
    (unique : (live.map Prod.fst).Nodup) (member : (identity, object) ∈ live) :
    (live.filter fun entry => entry.1 != identity).length =
      live.length - 1 := by
  induction live with
  | nil => contradiction
  | cons head tail induction =>
      rw [List.map_cons, List.nodup_cons] at unique
      by_cases same : head.1 = identity
      · have others : ∀ entry ∈ tail, (entry.1 != identity) = true := by
          intro entry inTail
          rw [bne_iff_ne]
          rintro rfl
          exact unique.1 (same ▸ List.mem_map_of_mem inTail)
        rw [List.filter_cons_of_neg (by simp [same]),
          List.filter_eq_self.mpr others, List.length_cons,
          Nat.add_sub_cancel]
      · have inTail : (identity, object) ∈ tail := by
          rcases List.mem_cons.mp member with rfl | inTail
          · exact absurd rfl same
          · exact inTail
        have nonempty := List.length_pos_of_mem inTail
        rw [List.filter_cons_of_pos (by simp [same]), List.length_cons,
          induction unique.2 inTail, List.length_cons]
        omega

theorem exact_step_erase (exact : history.Exact)
    (callbackActive : Bool) (identity : WireObjectIdentity)
    (object : UInt64) :
    (history.step (.erase callbackActive identity object)).Exact := by
  rcases erase_cases exact.ok callbackActive identity object with
    ⟨refused, _⟩ | ⟨index, slot, next, erasure, _, rfl, result⟩
  · simp only [step, refused]
    exact exact
  · simp only [step, result, if_true]
    constructor
    · exact erasure.ok exact.ok
    · intro other member
      exact (exact.issued other member).erased exact.ok erasure
    · exact exact.ordered
    · intro other held
      rw [erasure.names_iff exact.ok, List.mem_filter, exact.live, bne_iff_ne]
    · exact exact.liveNodup.sublist (List.filter_sublist.map Prod.fst)
    · have erased : ({ kind := slot.kind
                       generation := slot.generation
                       objectId :=
                         wireObjectId history.registry.registryId index },
          object) ∈ history.live :=
        (exact.live _ object).mpr
          ⟨index, slot, erasure.present, erasure.held, erasure.named, rfl⟩
      rw [erasure.activeCount, exact.activeCount]
      exact (length_filter_bne exact.liveNodup erased).symm

theorem exact_step (history : History) (call : Call)
    (exact : history.Exact) : (history.step call).Exact := by
  cases call with
  | insert callbackActive kind object =>
      exact exact_step_insert exact callbackActive kind object
  | erase callbackActive identity object =>
      exact exact_step_erase exact callbackActive identity object

theorem exact_run (registryId : UInt32) (calls : List Call) :
    (run History.step (initial registryId) calls).Exact :=
  run_invariant exact_step (exact_initial registryId) calls

/-- The identity that a handle names. -/
def entryIdentity (entry : WireHandleEntry) : WireObjectIdentity :=
  { kind := entry.kind
    generation := entry.generation
    objectId := entry.objectId }

/-- A retain call of an entry, on the object that its identity names. -/
def RetainsFrom (live : List (WireObjectIdentity × UInt64))
    (entry : WireHandleEntry) (retained : Retained) : Prop :=
  retained.kind = entry.kind ∧
    (entryIdentity entry, retained.object) ∈ live

theorem Exact.resolve_iff (exact : history.Exact)
    (entry : WireHandleEntry) (object : UInt64) :
    history.registry.resolve entry.kind entry.generation entry.objectId =
        some object ↔ (entryIdentity entry, object) ∈ history.live := by
  rw [exact.live, ← resolve_eq_some_iff exact.ok]
  rfl

theorem Exact.resolveAll_iff (exact : history.Exact)
    (entries : List WireHandleEntry) (retained : List Retained) :
    history.registry.resolveAll entries = some retained ↔
      List.Forall₂ (RetainsFrom history.live) entries retained := by
  induction entries generalizing retained with
  | nil =>
      rw [List.forall₂_nil_left_iff]
      exact ⟨fun same => (Option.some.inj same).symm, fun same => same ▸ rfl⟩
  | cons entry rest induction =>
      rw [List.forall₂_cons_left_iff]
      unfold resolveAll
      cases resolved : history.registry.resolve entry.kind entry.generation
          entry.objectId with
      | none =>
          constructor
          · intro absent
            contradiction
          · rintro ⟨first, _, ⟨_, isLive⟩, _⟩
            rw [← exact.resolve_iff, resolved] at isLive
            contradiction
      | some object =>
          simp only [Option.map_eq_some_iff]
          constructor
          · rintro ⟨others, all, rfl⟩
            exact ⟨_, others, ⟨rfl, (exact.resolve_iff entry object).mp
              resolved⟩, (induction others).mp all, rfl⟩
          · rintro ⟨first, others, ⟨sameKind, isLive⟩, all, rfl⟩
            refine ⟨others, (induction others).mpr all, ?_⟩
            rw [← exact.resolve_iff, resolved] at isLive
            rw [Option.some.inj isLive, ← sameKind]

/-- Every entry is live, or there is nothing to retain. -/
theorem Exact.resolveAll_eq_none
    (exact : history.Exact) (entries : List WireHandleEntry) :
    history.registry.resolveAll entries = none ↔
      ∃ entry ∈ entries, ∀ object,
        (entryIdentity entry, object) ∉ history.live := by
  induction entries with
  | nil => simp [resolveAll]
  | cons entry rest induction =>
      unfold resolveAll
      cases resolved : history.registry.resolve entry.kind entry.generation
          entry.objectId with
      | none =>
          refine iff_of_true rfl ⟨entry, List.mem_cons_self, ?_⟩
          intro object isLive
          rw [← exact.resolve_iff, resolved] at isLive
          contradiction
      | some object =>
          have isLive := (exact.resolve_iff entry object).mp resolved
          simp only [Option.map_eq_none_iff, induction, List.mem_cons,
            exists_eq_or_imp]
          constructor
          · exact Or.inr
          · rintro (absent | found)
            · exact absurd isLive (absent object)
            · exact found

/-- A retired slot stays as it is, and its object id is not issued again. -/
structure Quiet (index : Nat) (slot : Slot) (start history : History) :
    Prop where
  registryId : history.registry.registryId = start.registry.registryId
  present : history.registry.slots[index]? = some slot
  issued : ∃ later, history.issued = start.issued ++ later ∧
    ∀ identity ∈ later,
      identity.objectId ≠ wireObjectId start.registry.registryId index

variable {start : History}

theorem quiet_step
    (retired : slot.retired = true) (exact : history.Exact)
    (quiet : Quiet index slot start history) (call : Call) :
    Quiet index slot start (history.step call) := by
  cases call with
  | insert callbackActive kind object =>
      rcases insert_cases exact.ok callbackActive kind object with
        refused | ⟨other, filled, next, insertion, result⟩
      · simp only [step, refused, if_true]
        exact quiet
      · have apart : wireObjectId history.registry.registryId index ≠
            wireObjectId history.registry.registryId other := by
          intro same
          have filledSame := insertion.slot_eq exact.ok quiet.present same
          rw [← filledSame] at insertion
          rw [insertion.wasActive] at retired
          contradiction
        have named : ({ kind := kind
                        generation := filled.generation
                        objectId :=
                          wireObjectId history.registry.registryId other } :
            WireObjectIdentity) ≠ {} := by
          intro same
          exact insertion.generation
            (congrArg WireObjectIdentity.generation same)
        simp only [step, result]
        rw [if_neg named]
        constructor
        · exact insertion.registryId.trans quiet.registryId
        · rw [insertion.slots, if_neg]
          · exact quiet.present
          · rintro rfl
            exact apart rfl
        · obtain ⟨later, grown, others⟩ := quiet.issued
          refine ⟨later ++
            [{ kind := kind
               generation := filled.generation
               objectId :=
                 wireObjectId history.registry.registryId other }], ?_, ?_⟩
          · rw [grown, List.append_assoc]
          · intro identity member
            rcases List.mem_append.mp member with before | last
            · exact others identity before
            · obtain rfl := List.mem_singleton.mp last
              rw [quiet.registryId] at apart
              simp only [quiet.registryId]
              exact apart.symm
  | erase callbackActive identity object =>
      rcases erase_cases exact.ok callbackActive identity object with
        ⟨refused, _⟩ | ⟨other, held, next, erasure, _, rfl, result⟩
      · simp only [step, refused]
        exact quiet
      · simp only [step, result, if_true]
        refine ⟨erasure.registryId.trans quiet.registryId, ?_, quiet.issued⟩
        rw [erasure.slots, if_neg]
        · exact quiet.present
        · rintro rfl
          have present := erasure.present
          rw [quiet.present] at present
          obtain rfl := Option.some.inj present
          exact erasure.named (erasure.held.symm.trans
            (exact.ok.retired slot (List.mem_of_getElem? quiet.present)
              retired))

theorem quiet_run
    (exact : start.Exact) (present : start.registry.slots[index]? = some slot)
    (retired : slot.retired = true) (calls : List Call) :
    Quiet index slot start (run History.step start calls) := by
  have kept : ∀ history call,
      (history.Exact ∧ Quiet index slot start history) →
        ((history.step call).Exact ∧
          Quiet index slot start (history.step call)) := by
    rintro history call ⟨exactNow, quiet⟩
    exact ⟨exact_step history call exactNow,
      quiet_step retired exactNow quiet call⟩
  have both := run_invariant kept
    ⟨exact, rfl, present, [], by simp, by simp⟩ calls
  exact both.2

/-- An erasure succeeds on exactly the live identities with their objects,
and changes nothing otherwise. -/
theorem Exact.erase_iff (exact : history.Exact)
    (identity : WireObjectIdentity) (object : UInt64) :
    (history.registry.erase false identity object).1 = true ↔
      (identity, object) ∈ history.live := by
  rw [exact.live]
  rcases erase_cases exact.ok false identity object with
    ⟨refused, notNamed⟩ | ⟨index, slot, next, erasure, _, rfl, result⟩
  · rw [refused]
    exact iff_of_false Bool.false_ne_true (notNamed rfl)
  · rw [result]
    exact iff_of_true rfl
      ⟨index, slot, erasure.present, erasure.held, erasure.named, rfl⟩

theorem erase_eq_self (ok : registry.Ok)
    {callbackActive : Bool}
    (refused : (registry.erase callbackActive identity object).1 = false) :
    (registry.erase callbackActive identity object).2 = registry := by
  rcases erase_cases ok callbackActive identity object with
    ⟨result, _⟩ | ⟨index, slot, next, _, _, _, result⟩
  · rw [result]
  · rw [result] at refused
    contradiction

section

variable (exact : history.Exact)
include exact

/-- A null object asks for the identity alone. -/
theorem Exact.contains_iff
    (identity : WireObjectIdentity) (object : UInt64) :
    history.registry.contains false identity object = true ↔
      ∃ held, (identity, held) ∈ history.live ∧
        (object = 0 ∨ held = object) := by
  simp only [exact.live, ← resolve_eq_some_iff exact.ok]
  unfold contains
  cases history.registry.resolve identity.kind identity.generation
      identity.objectId with
  | none => simp
  | some held => simp

theorem Exact.resolveAndRetain_iff (entries : List WireHandleEntry)
    (objects : Nat) (retain : Bool) :
    (history.registry.resolveAndRetain false entries objects retain).1 = true ↔
      objects = entries.length ∧ (entries = [] ∨ retain = true) ∧
        ∀ entry ∈ entries, ∃ object,
          (entryIdentity entry, object) ∈ history.live := by
  unfold resolveAndRetain
  rw [if_neg Bool.false_ne_true]
  by_cases refused : (objects ≠ entries.length ||
      (!entries.isEmpty && !retain)) = true
  · rw [if_pos refused]
    refine iff_of_false Bool.false_ne_true ?_
    rintro ⟨rfl, given, _⟩
    rcases given with rfl | rfl
    · simp at refused
    · simp at refused
  · rw [if_neg refused]
    simp only [Bool.or_eq_true, decide_eq_true_eq, Bool.and_eq_true,
      Bool.not_eq_true', not_or, not_and, ne_eq, not_not] at refused
    cases resolved : history.registry.resolveAll entries with
    | none =>
        refine iff_of_false Bool.false_ne_true ?_
        rintro ⟨_, _, allLive⟩
        obtain ⟨entry, member, notLive⟩ :=
          (exact.resolveAll_eq_none entries).mp resolved
        obtain ⟨object, isLive⟩ := allLive entry member
        exact notLive object isLive
    | some retained =>
        refine iff_of_true rfl ⟨refused.1, ?_, ?_⟩
        · cases entries with
          | nil => exact Or.inl rfl
          | cons entry rest =>
              exact Or.inr (Bool.not_eq_false _ ▸ refused.2 rfl)
        · by_contra missing
          simp only [not_forall, not_exists, exists_prop] at missing
          rw [(exact.resolveAll_eq_none entries).mpr missing] at resolved
          contradiction

/-- Either every entry is retained once, in order, or nothing is. -/
theorem Exact.resolveAndRetain_cases (callbackActive : Bool)
    (entries : List WireHandleEntry) (objects : Nat) (retain : Bool) :
    (∃ retained, List.Forall₂ (RetainsFrom history.live) entries retained ∧
        history.registry.resolveAndRetain callbackActive entries objects
          retain = (true, retained)) ∨
      history.registry.resolveAndRetain callbackActive entries objects
        retain = (false, []) := by
  unfold resolveAndRetain
  split
  · exact Or.inr rfl
  · split
    · exact Or.inr rfl
    · cases resolved : history.registry.resolveAll entries with
      | none => exact Or.inr rfl
      | some retained =>
          exact Or.inl
            ⟨retained, (exact.resolveAll_iff entries retained).mp resolved,
              rfl⟩

theorem Exact.issued_nodup : history.issued.Nodup := by
  refine exact.ordered.imp ?_
  rintro earlier later succeeds rfl
  exact UInt32.lt_irrefl _ (succeeds rfl)

theorem Exact.exhausted
    {before after : List WireObjectIdentity}
    (split : history.issued = before ++ identity :: after)
    (last : identity.generation = maxUInt32) :
    ∀ later ∈ after, later.objectId ≠ identity.objectId := by
  intro later member same
  have ordered := exact.ordered
  rw [split, List.pairwise_append, List.pairwise_cons] at ordered
  have greater := ordered.2.1.1 later member same.symm
  rw [UInt32.lt_iff_toNat_lt, last] at greater
  have top : maxUInt32.toNat = 2 ^ 32 - 1 := rfl
  have bound := later.generation.toNat_lt
  omega

end

/-- Over every history of insertions and erasures, identities are issued
once, and are contained, counted, erased and retained exactly while they are
live; a slot out of generations issues none. -/
theorem wire_identities_exact (registryId : UInt32) (calls : List Call) :
    let history := run History.step (initial registryId) calls
    history.issued.Nodup ∧
      (∀ identity object,
        history.registry.contains false identity object = true ↔
          ∃ held, (identity, held) ∈ history.live ∧
            (object = 0 ∨ held = object)) ∧
      (history.live.map Prod.fst).Nodup ∧
      history.registry.activeCount = history.live.length ∧
      (∀ identity object,
        (history.registry.erase false identity object).1 = true ↔
          (identity, object) ∈ history.live) ∧
      (∀ callbackActive identity object,
        (history.registry.erase callbackActive identity object).1 = false →
          (history.registry.erase callbackActive identity object).2 =
            history.registry) ∧
      (∀ before identity after,
        history.issued = before ++ identity :: after →
          identity.generation = maxUInt32 →
            ∀ later ∈ after, later.objectId ≠ identity.objectId) ∧
      (∀ index slot, history.registry.slots[index]? = some slot →
        slot.retired = true → ∀ more,
          Quiet index slot history (run History.step history more)) ∧
      (∀ entries objects retain,
        (history.registry.resolveAndRetain false entries objects retain).1 =
            true ↔
          objects = entries.length ∧ (entries = [] ∨ retain = true) ∧
            ∀ entry ∈ entries, ∃ object,
              (entryIdentity entry, object) ∈ history.live) ∧
      ∀ callbackActive entries objects retain,
        (∃ retained,
          List.Forall₂ (RetainsFrom history.live) entries retained ∧
            history.registry.resolveAndRetain callbackActive entries objects
              retain = (true, retained)) ∨
          history.registry.resolveAndRetain callbackActive entries objects
            retain = (false, []) := by
  intro history
  have exact : history.Exact := exact_run registryId calls
  refine ⟨exact.issued_nodup, exact.contains_iff, exact.liveNodup,
    exact.activeCount, exact.erase_iff, ?_, ?_, ?_,
    exact.resolveAndRetain_iff, exact.resolveAndRetain_cases⟩
  · intro callbackActive identity object refused
    exact erase_eq_self exact.ok refused
  · intro before identity after split last
    exact exact.exhausted split last
  · intro index slot present retired more
    exact quiet_run exact present retired more

end History

end Dxmt9.Registry
