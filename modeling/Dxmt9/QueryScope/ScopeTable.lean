import Dxmt9.QueryScope.RangeOwner
import Mathlib.Data.Finset.Card

/-!
# The scopes of an owner

A scope is stored once for each set of results.  An admitted input is a set of
results, and the slot it gets is the one whose scope has these results.
-/

namespace Dxmt9.QueryScope

open QueryScopeRangeOwner

/-- The result is one of those that count. -/
def OcclusionScope.Member (scope : OcclusionScope)
    (result : OcclusionResult) : Prop :=
  ∃ i < scope.count, scope.results i = some result

/-- The pointers that count are there and differ from one another. -/
structure Distinct (scope : OcclusionScope) : Prop where
  present : ∀ i < scope.count, ∃ result, scope.results i = some result
  injective : ∀ i < scope.count, ∀ j < scope.count,
    scope.results i = scope.results j → i = j

theorem contains_iff (scope : OcclusionScope)
    (result : Option OcclusionResult) :
    scope.contains result = true ↔
      ∃ i < scope.count, scope.results i = result := by
  simp only [OcclusionScope.contains, List.any_eq_true, List.mem_range,
    beq_iff_eq]

/-- The pointers that count, as a set. -/
def OcclusionScope.pointers (scope : OcclusionScope) :
    Finset (Option OcclusionResult) :=
  (Finset.range scope.count).image scope.results

variable {scope : OcclusionScope}

theorem Distinct.card (distinct : Distinct scope) :
    scope.pointers.card = scope.count := by
  have injective : Set.InjOn scope.results (Finset.range scope.count) := by
    intro i inside j insideOther same
    exact distinct.injective i (Finset.mem_range.mp inside) j
      (Finset.mem_range.mp insideOther) same
  rw [OcclusionScope.pointers, Finset.card_image_of_injOn injective,
    Finset.card_range]

theorem mem_pointers (scope : OcclusionScope)
    (result : Option OcclusionResult) :
    result ∈ scope.pointers ↔ ∃ i < scope.count, scope.results i = result := by
  simp only [OcclusionScope.pointers, Finset.mem_image, Finset.mem_range]

theorem members_iff {other : OcclusionScope}
    (distinct : Distinct scope) (distinctOther : Distinct other) :
    (∀ result, scope.Member result ↔ other.Member result) ↔
      scope.pointers = other.pointers := by
  constructor
  · intro same
    ext result
    rw [mem_pointers, mem_pointers]
    cases result with
    | none =>
        refine iff_of_false ?_ ?_
        · rintro ⟨i, inside, none⟩
          obtain ⟨result, there⟩ := distinct.present i inside
          exact nomatch none.symm.trans there
        · rintro ⟨i, inside, none⟩
          obtain ⟨result, there⟩ := distinctOther.present i inside
          exact nomatch none.symm.trans there
    | some result => exact same result
  · intro same result
    have member : some result ∈ scope.pointers ↔
        some result ∈ other.pointers := by rw [same]
    rw [mem_pointers, mem_pointers] at member
    exact member

variable {owner : QueryScopeRangeOwner} {input : OcclusionScope}

theorem sameScope_iff {s : Nat} (distinct : Distinct input)
    (stored : Distinct (owner.scopes s)) :
    owner.sameScope input s = true ↔
      ∀ result, input.Member result ↔ (owner.scopes s).Member result := by
  rw [members_iff distinct stored]
  simp only [sameScope, Bool.and_eq_true, beq_iff_eq, List.all_eq_true,
    List.mem_range, contains_iff]
  constructor
  · rintro ⟨sameCount, contained⟩
    apply Finset.eq_of_subset_of_card_le
    · intro result member
      obtain ⟨i, inside, rfl⟩ := (mem_pointers _ _).mp member
      exact (mem_pointers _ _).mpr (contained i inside)
    · rw [distinct.card, stored.card]
      exact Nat.le_of_eq sameCount.symm
  · intro same
    constructor
    · rw [← distinct.card, ← stored.card, same]
    · intro i inside
      rw [← mem_pointers, ← same, mem_pointers]
      exact ⟨i, inside, rfl⟩

/-- An admitted input has no pointer twice. -/
theorem distinct_of_admitted
    (admitted : ∀ i < input.count, owner.admitsResult input i = true) :
    Distinct input := by
  have present : ∀ i < input.count, ∃ result,
      input.results i = some result := by
    intro i inside
    have admits := admitted i inside
    unfold admitsResult at admits
    split at admits
    · exact nomatch admits
    · rename_i result there
      exact ⟨result, there⟩
  have apart : ∀ j < input.count, ∀ i < j,
      input.results i ≠ input.results j := by
    intro j inside i before same
    obtain ⟨result, there⟩ := present j inside
    have admits := admitted j inside
    unfold admitsResult at admits
    rw [there] at admits
    simp only [Bool.and_eq_true, List.all_eq_true, List.mem_range] at admits
    have differs := admits.1.2 i before
    rw [same, there] at differs
    simp [sameIdentity] at differs
  refine ⟨present, ?_⟩
  intro i inside j insideOther same
  rcases Nat.lt_trichotomy i j with less | equal | more
  · exact absurd same (apart j insideOther i less)
  · exact equal
  · exact absurd same.symm (apart i inside j more)

/-- The stored scopes are sets of results, each set once. -/
structure ScopeTable (capacities : Capacities)
    (owner : QueryScopeRangeOwner) : Prop where
  fits : owner.scopeCount ≤ capacities.scopes
  nonempty : ∀ s < owner.scopeCount, 0 < (owner.scopes s).count
  bounded : ∀ s < owner.scopeCount,
    (owner.scopes s).count ≤ occlusionScopeCapacity
  distinct : ∀ s < owner.scopeCount, Distinct (owner.scopes s)
  once : ∀ s < owner.scopeCount, ∀ t < owner.scopeCount,
    (∀ result, (owner.scopes s).Member result ↔
      (owner.scopes t).Member result) → s = t

/-- The results that an identity names; the empty identity names none. -/
def Resolves (owner : QueryScopeRangeOwner) (id : QueryScopeIdentity)
    (result : OcclusionResult) : Prop :=
  0 < id.slot ∧ (owner.scopes (id.slot - 1)).Member result

/-- An identity is empty or names a stored scope of the writer. -/
def Named (owner : QueryScopeRangeOwner) (id : QueryScopeIdentity) : Prop :=
  id = {} ∨ (0 < id.slot ∧ id.slot ≤ owner.scopeCount ∧
    id.generation = owner.cursor.owner.storageGeneration)

variable {capacities : Capacities}

theorem slotFor_cases
    (table : ScopeTable capacities owner) (distinct : Distinct input)
    (nonempty : input.count ≠ 0) :
    (owner.slotFor input = owner.scopeCount ∧
        ∀ s < owner.scopeCount, ¬ ∀ result,
          input.Member result ↔ (owner.scopes s).Member result) ∨
      (owner.slotFor input < owner.scopeCount ∧ ∀ result,
        input.Member result ↔
          (owner.scopes (owner.slotFor input)).Member result) := by
  unfold slotFor
  rw [if_neg nonempty]
  cases found : (List.range owner.scopeCount).find?
      (owner.sameScope input) with
  | none =>
      refine .inl ⟨rfl, fun s inside same => ?_⟩
      have fails := List.find?_eq_none.mp found s (List.mem_range.mpr inside)
      exact fails ((sameScope_iff distinct (table.distinct s inside)).mpr same)
  | some s =>
      have inside := List.mem_range.mp (List.mem_of_find?_eq_some found)
      exact .inr ⟨inside, (sameScope_iff distinct
        (table.distinct s inside)).mp (List.find?_some found)⟩

theorem copy_results (target input : OcclusionScope) {i : Nat}
    (inside : i < input.count) :
    (target.copy input).results i = input.results i :=
  if_pos inside

theorem member_copy (target input : OcclusionScope)
    (result : OcclusionResult) :
    (target.copy input).Member result ↔ input.Member result := by
  constructor
  · rintro ⟨i, inside, there⟩
    rw [copy_results target input inside] at there
    exact ⟨i, inside, there⟩
  · rintro ⟨i, inside, there⟩
    refine ⟨i, inside, ?_⟩
    rw [copy_results target input inside]
    exact there

theorem Distinct.copy (distinct : Distinct input) (target : OcclusionScope) :
    Distinct (target.copy input) := by
  have same : ∀ i < input.count,
      (target.copy input).results i = input.results i := fun _ inside =>
    copy_results target input inside
  refine ⟨fun i inside => ?_, fun i inside j insideOther equal => ?_⟩
  · rw [same i inside]
    exact distinct.present i inside
  · rw [same i inside, same j insideOther] at equal
    exact distinct.injective i inside j insideOther equal

/-- The identity of an input at a slot. -/
def identityOf (owner : QueryScopeRangeOwner) (input : OcclusionScope)
    (slot : Nat) : QueryScopeIdentity :=
  if input.count ≠ 0 then
    { slot := slot + 1
      generation := owner.cursor.owner.storageGeneration }
  else {}

/-- What storing an input does to the scopes. -/
structure Stores (capacities : Capacities) (owner next : QueryScopeRangeOwner)
    (input : OcclusionScope) (id : QueryScopeIdentity) : Prop where
  table : ScopeTable capacities next
  grown : owner.scopeCount ≤ next.scopeCount
  kept : ∀ s < owner.scopeCount, next.scopes s = owner.scopes s
  named : Named next id
  resolves : ∀ result, Resolves next id result ↔ input.Member result

section

variable (table : ScopeTable capacities owner) (distinct : Distinct input)
include table distinct

theorem stores_fresh
    (nonempty : input.count ≠ 0)
    (bounded : input.count ≤ occlusionScopeCapacity)
    (plan : QueryRangeDecision)
    (sameOwner : plan.next.owner = owner.cursor.owner)
    (space : owner.scopeCount ≠ capacities.scopes)
    (unlike : ∀ s < owner.scopeCount, ¬ ∀ result,
      input.Member result ↔ (owner.scopes s).Member result) :
    let id : QueryScopeIdentity :=
      { slot := owner.scopeCount + 1
        generation := owner.cursor.owner.storageGeneration }
    Stores capacities owner
      (owner.commitAppend input owner.scopeCount true id plan) input id := by
  intro id
  generalize hnext : owner.commitAppend input owner.scopeCount true id plan =
    next
  have count : next.scopeCount = owner.scopeCount + 1 := by
    rw [← hnext]
    rfl
  have old : ∀ s < owner.scopeCount, next.scopes s = owner.scopes s := by
    intro s inside
    rw [← hnext]
    exact Function.update_of_ne (Nat.ne_of_lt inside) _ _
  have last : next.scopes owner.scopeCount =
      (owner.scopes owner.scopeCount).copy input := by
    rw [← hnext]
    exact Function.update_self _ _ _
  have apart : ∀ s < owner.scopeCount, ¬ ∀ result,
      (next.scopes owner.scopeCount).Member result ↔
        (next.scopes s).Member result := by
    intro s inside same
    apply unlike s inside
    intro result
    have equal := same result
    rw [last, old s inside, member_copy] at equal
    exact equal
  refine ⟨⟨?_, ?_, ?_, ?_, ?_⟩, ?_, old, ?_, ?_⟩
  · rw [count]
    exact Nat.lt_of_le_of_ne table.fits space
  · intro s inside
    rw [count] at inside
    rcases Nat.lt_succ_iff_lt_or_eq.mp inside with less | same
    · rw [old s less]
      exact table.nonempty s less
    · rw [same, last]
      exact Nat.pos_of_ne_zero nonempty
  · intro s inside
    rw [count] at inside
    rcases Nat.lt_succ_iff_lt_or_eq.mp inside with less | same
    · rw [old s less]
      exact table.bounded s less
    · rw [same, last]
      exact bounded
  · intro s inside
    rw [count] at inside
    rcases Nat.lt_succ_iff_lt_or_eq.mp inside with less | same
    · rw [old s less]
      exact table.distinct s less
    · rw [same, last]
      exact distinct.copy _
  · intro s inside t insideOther same
    rw [count] at inside insideOther
    rcases Nat.lt_succ_iff_lt_or_eq.mp inside with less | equal
    · rcases Nat.lt_succ_iff_lt_or_eq.mp insideOther with lessOther | equalOther
      · rw [old s less, old t lessOther] at same
        exact table.once s less t lessOther same
      · rw [equalOther] at same
        exact absurd (fun result => (same result).symm) (apart s less)
    · rcases Nat.lt_succ_iff_lt_or_eq.mp insideOther with lessOther | equalOther
      · rw [equal] at same
        exact absurd same (apart t lessOther)
      · rw [equal, equalOther]
  · rw [count]
    exact Nat.le_succ _
  · refine .inr ⟨Nat.succ_pos _, Nat.le_of_eq count.symm, ?_⟩
    rw [← hnext]
    exact congrArg WriterIdentity.storageGeneration sameOwner.symm
  · intro result
    refine (and_iff_right (Nat.succ_pos _)).trans ?_
    change (next.scopes owner.scopeCount).Member result ↔ _
    rw [last, member_copy]

theorem stores_commit
    (bounded : input.count ≤ occlusionScopeCapacity)
    (plan : QueryRangeDecision)
    (sameOwner : plan.next.owner = owner.cursor.owner)
    (room : (input.count != 0 && owner.slotFor input == owner.scopeCount) =
      true → owner.scopeCount ≠ capacities.scopes) :
    Stores capacities owner
      (owner.commitAppend input (owner.slotFor input)
        (input.count != 0 && owner.slotFor input == owner.scopeCount)
        (identityOf owner input (owner.slotFor input)) plan)
      input (identityOf owner input (owner.slotFor input)) := by
  generalize hid : identityOf owner input (owner.slotFor input) = id
  by_cases nonempty : input.count = 0
  · have noScope : (input.count != 0 &&
        owner.slotFor input == owner.scopeCount) = false := by
      simp [nonempty]
    have isEmpty : id = {} := by
      rw [← hid, identityOf, if_neg (not_not_intro nonempty)]
    rw [noScope, isEmpty]
    refine ⟨⟨table.fits, table.nonempty, table.bounded, table.distinct,
        table.once⟩, Nat.le_refl _, fun _ _ => rfl, .inl rfl,
      fun result => ?_⟩
    refine iff_of_false (fun resolves => Nat.lt_irrefl 0 resolves.1) ?_
    rintro ⟨i, inside, _⟩
    omega
  · have isNamed : id =
        { slot := owner.slotFor input + 1
          generation := owner.cursor.owner.storageGeneration } := by
      rw [← hid, identityOf, if_pos nonempty]
    rcases slotFor_cases table distinct nonempty with
      ⟨fresh, unlike⟩ | ⟨inside, same⟩
    · have newScope : (input.count != 0 &&
          owner.slotFor input == owner.scopeCount) = true := by
        simp [nonempty, fresh]
      have space := room newScope
      rw [newScope, isNamed, fresh]
      exact stores_fresh table distinct nonempty bounded plan sameOwner space
        unlike
    · have noScope : (input.count != 0 &&
          owner.slotFor input == owner.scopeCount) = false := by
        simp [Nat.ne_of_lt inside]
      rw [noScope, isNamed]
      refine ⟨⟨table.fits, table.nonempty, table.bounded, table.distinct,
          table.once⟩, Nat.le_refl _, fun _ _ => rfl,
        .inr ⟨Nat.succ_pos _, inside, ?_⟩, fun result => ?_⟩
      · exact congrArg WriterIdentity.storageGeneration sameOwner.symm
      · exact (and_iff_right (Nat.succ_pos _)).trans (same result).symm

end

end Dxmt9.QueryScope
