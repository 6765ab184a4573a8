import Dxmt9.QueryScope.ScopeTable

/-!
# The ranges of an owner

The ranges lie one behind the other from the first command to the last, each
over commands with the same results, and neighbours name different scopes.
-/

namespace Dxmt9.QueryScope

open QueryScopeRangeOwner

variable {capacities : Capacities} {owner next : QueryScopeRangeOwner}
  {input : OcclusionScope} {id : QueryScopeIdentity}
  {supplied : List OcclusionScope}

/-- The ranges are those of the inputs that were supplied, one for each
command. -/
structure RangeTable (capacities : Capacities)
    (owner : QueryScopeRangeOwner) (supplied : List OcclusionScope) :
    Prop where
  commands : supplied.length = owner.cursor.commands
  commandsFit : owner.cursor.commands ≤ owner.commandCapacity
  rangesFit : owner.cursor.ranges ≤ capacities.ranges
  nothing : owner.cursor.ranges = 0 → owner.cursor.commands = 0
  starts : 0 < owner.cursor.ranges → (owner.ranges 0).start = 0
  stops : 0 < owner.cursor.ranges →
    (owner.ranges (owner.cursor.ranges - 1)).stop = owner.cursor.commands
  nonempty : ∀ i < owner.cursor.ranges,
    (owner.ranges i).start < (owner.ranges i).stop
  bounded : ∀ i < owner.cursor.ranges,
    (owner.ranges i).stop ≤ owner.cursor.commands
  contiguous : ∀ i, i + 1 < owner.cursor.ranges →
    (owner.ranges (i + 1)).start = (owner.ranges i).stop
  maximal : ∀ i, i + 1 < owner.cursor.ranges →
    (owner.ranges (i + 1)).scope ≠ (owner.ranges i).scope
  last : 0 < owner.cursor.ranges →
    (owner.ranges (owner.cursor.ranges - 1)).scope = owner.cursor.last
  named : ∀ i < owner.cursor.ranges, Named owner (owner.ranges i).scope
  resolves : ∀ i < owner.cursor.ranges, ∀ command,
    (owner.ranges i).start ≤ command → command < (owner.ranges i).stop →
    ∀ scope ∈ supplied[command]?, ∀ result,
      Resolves owner (owner.ranges i).scope result ↔ scope.Member result

/-- What a plan that goes on says. -/
structure Goes (current : QueryRangeCursor) (scope : QueryScopeIdentity)
    (count : Nat) (limits : QueryRangeLimits) (plan : QueryRangeDecision) :
    Prop where
  fits : current.commands + count ≤ limits.commands
  action : plan.action =
    if current.ranges = 0 ∨ current.last ≠ scope then .newRange else .extend
  room : (current.ranges = 0 ∨ current.last ≠ scope) →
    current.ranges < limits.ranges
  next : plan.next =
    { current with
      commands := current.commands + count
      ranges := current.ranges +
        if current.ranges = 0 ∨ current.last ≠ scope then 1 else 0
      last := scope }

variable {count : Nat}

theorem plan_goes {current : QueryRangeCursor} {expected : WriterIdentity}
    {scope : QueryScopeIdentity} {limits : QueryRangeLimits}
    (positive : count ≠ 0)
    (unsealed : (planQueryRangeAppend current expected scope count
      limits).action ≠ .sealRequired)
    (admitted : (planQueryRangeAppend current expected scope count
      limits).action ≠ .invalid) :
    Goes current scope count limits
      (planQueryRangeAppend current expected scope count limits) := by
  unfold planQueryRangeAppend at unsealed admitted ⊢
  split at unsealed
  · rename_i refused
    rw [if_pos refused] at admitted
    exact absurd rfl admitted
  · rename_i accepted
    rw [if_neg accepted, if_neg positive]
    simp only [Bool.or_eq_true, decide_eq_true_eq, not_or, Nat.not_lt]
      at accepted
    have commandsFit : current.commands ≤ limits.commands := by
      exact accepted.1.1.1.1.2
    have rangesFit : current.ranges ≤ limits.ranges := by
      exact accepted.1.1.1.2
    dsimp only at unsealed ⊢
    split at unsealed
    · exact absurd rfl unsealed
    · rename_i roomy
      rw [if_neg roomy]
      simp only [Bool.or_eq_true, decide_eq_true_eq, Bool.and_eq_true,
        beq_iff_eq, not_or, not_and, Nat.not_lt] at roomy
      have isNew : (current.ranges == 0 || decide (current.last ≠ scope)) =
          decide (current.ranges = 0 ∨ current.last ≠ scope) := by
        rw [Bool.decide_or]
        rfl
      refine ⟨by omega, ?_, ?_, ?_⟩
      · simp only [isNew, decide_eq_true_eq]
      · intro isNewRange
        have notFull := roomy.2 isNewRange
        omega
      · rw [isNew]
        by_cases isNewRange : current.ranges = 0 ∨ current.last ≠ scope
        · rw [decide_eq_true isNewRange, if_pos isNewRange]
          rfl
        · rw [decide_eq_false isNewRange, if_neg isNewRange]
          rfl

variable {other : QueryScopeIdentity}

/-- A named identity stays named, and names the same results. -/
theorem Stores.named_kept (stores : Stores capacities owner next input id)
    (sameOwner : next.cursor.owner = owner.cursor.owner) (named : Named owner other) :
    Named next other := by
  rcases named with isEmpty | ⟨positive, inside, generation⟩
  · exact .inl isEmpty
  · refine .inr ⟨positive, Nat.le_trans inside stores.grown, ?_⟩
    rw [sameOwner]
    exact generation

theorem Stores.resolves_kept (stores : Stores capacities owner next input id) (named : Named owner other)
    (result : OcclusionResult) :
    Resolves next other result ↔ Resolves owner other result := by
  rcases named with rfl | ⟨positive, inside, _⟩
  · exact iff_of_false (fun resolves => Nat.lt_irrefl 0 resolves.1)
      (fun resolves => Nat.lt_irrefl 0 resolves.1)
  · have below : other.slot - 1 < owner.scopeCount := by omega
    unfold Resolves
    rw [stores.kept _ below]

variable {command : Nat}

theorem supplied_before
    (before : command < supplied.length) :
    (supplied ++ List.replicate count input)[command]? = supplied[command]? :=
  List.getElem?_append_left before

theorem supplied_behind {scope : OcclusionScope}
    (behind : supplied.length ≤ command)
    (there : scope ∈ (supplied ++ List.replicate count input)[command]?) :
    scope = input := by
  rw [List.getElem?_append_right behind, List.getElem?_replicate] at there
  split at there
  · exact (Option.some.inj there).symm
  · exact nomatch there

/-- What every append does to the cursor. -/
structure Counts (owner next : QueryScopeRangeOwner)
    (id : QueryScopeIdentity) (count : Nat) : Prop where
  positive : 0 < count
  fits : owner.cursor.commands + count ≤ owner.commandCapacity
  commands : next.cursor.commands = owner.cursor.commands + count
  last : next.cursor.last = id
  sameOwner : next.cursor.owner = owner.cursor.owner
  capacity : next.commandCapacity = owner.commandCapacity

section

variable (table : RangeTable capacities owner supplied)
  (stores : Stores capacities owner next input id)
  (counts : Counts owner next id count)
include table stores counts

theorem RangeTable.newRange
    (isNew : owner.cursor.ranges = 0 ∨ owner.cursor.last ≠ id)
    (room : owner.cursor.ranges < capacities.ranges)
    (ranges : next.cursor.ranges = owner.cursor.ranges + 1)
    (old : ∀ i < owner.cursor.ranges, next.ranges i = owner.ranges i)
    (added : next.ranges owner.cursor.ranges =
      { start := owner.cursor.commands
        stop := next.cursor.commands
        scope := id }) :
    RangeTable capacities next (supplied ++ List.replicate count input) := by
  have total := counts.commands
  have positive := counts.positive
  have split : ∀ i, i < next.cursor.ranges →
      i < owner.cursor.ranges ∨ i = owner.cursor.ranges := by
    intro i inside
    rw [ranges] at inside
    exact Nat.lt_succ_iff_lt_or_eq.mp inside
  have final : next.cursor.ranges - 1 = owner.cursor.ranges := by omega
  refine {
    commands := ?_
    commandsFit := ?_
    rangesFit := by rw [ranges]; exact room
    nothing := by omega
    starts := ?_
    stops := ?_
    nonempty := ?_
    bounded := ?_
    contiguous := ?_
    maximal := ?_
    last := ?_
    named := ?_
    resolves := ?_ }
  · rw [List.length_append, List.length_replicate, table.commands, total]
  · rw [counts.capacity, total]
    exact counts.fits
  · intro _
    rcases Nat.eq_zero_or_pos owner.cursor.ranges with none | some
    · have first := added
      rw [none] at first
      rw [first]
      exact table.nothing none
    · rw [old 0 some]
      exact table.starts some
  · intro _
    rw [final, added]
  · intro i inside
    rcases split i inside with less | rfl
    · rw [old i less]
      exact table.nonempty i less
    · rw [added]
      dsimp only
      omega
  · intro i inside
    rcases split i inside with less | rfl
    · rw [old i less]
      have bound := table.bounded i less
      omega
    · rw [added]
  · intro i inside
    rcases split (i + 1) inside with less | same
    · rw [old _ less, old i (by omega)]
      exact table.contiguous i less
    · have before : i < owner.cursor.ranges := by omega
      have isLast : i = owner.cursor.ranges - 1 := by omega
      rw [same, added, old i before, isLast]
      exact (table.stops (by omega)).symm
  · intro i inside
    rcases split (i + 1) inside with less | same
    · rw [old _ less, old i (by omega)]
      exact table.maximal i less
    · have before : i < owner.cursor.ranges := by omega
      have isLast : i = owner.cursor.ranges - 1 := by omega
      rw [same, added, old i before, isLast, table.last (by omega)]
      rcases isNew with none | differs
      · omega
      · exact Ne.symm differs
  · intro _
    rw [final, added, counts.last]
  · intro i inside
    rcases split i inside with less | rfl
    · rw [old i less]
      exact stores.named_kept counts.sameOwner (table.named i less)
    · rw [added]
      exact stores.named
  · intro i inside command lower upper scope there result
    rcases split i inside with less | rfl
    · rw [old i less] at lower upper ⊢
      have bound := table.bounded i less
      have before : command < supplied.length := by
        rw [table.commands]
        omega
      rw [supplied_before before] at there
      rw [stores.resolves_kept (table.named i less)]
      exact table.resolves i less command lower upper scope there result
    · rw [added] at lower upper ⊢
      have behind : supplied.length ≤ command := by
        rw [table.commands]
        exact lower
      rw [supplied_behind behind there]
      exact stores.resolves result

theorem RangeTable.extend
    (isLast : owner.cursor.last = id) (some : 0 < owner.cursor.ranges)
    (ranges : next.cursor.ranges = owner.cursor.ranges)
    (old : ∀ i < owner.cursor.ranges - 1, next.ranges i = owner.ranges i)
    (longer : next.ranges (owner.cursor.ranges - 1) =
      { owner.ranges (owner.cursor.ranges - 1) with
        stop := next.cursor.commands }) :
    RangeTable capacities next (supplied ++ List.replicate count input) := by
  have total := counts.commands
  have positive := counts.positive
  have split : ∀ i, i < next.cursor.ranges →
      i < owner.cursor.ranges - 1 ∨ i = owner.cursor.ranges - 1 := by
    intro i inside
    rw [ranges] at inside
    omega
  have start : ∀ i < owner.cursor.ranges,
      (next.ranges i).start = (owner.ranges i).start := by
    intro i inside
    rcases split i (by omega) with less | rfl
    · rw [old i less]
    · rw [longer]
  have scope : ∀ i < owner.cursor.ranges,
      (next.ranges i).scope = (owner.ranges i).scope := by
    intro i inside
    rcases split i (by omega) with less | rfl
    · rw [old i less]
    · rw [longer]
  refine {
    commands := ?_
    commandsFit := ?_
    rangesFit := by rw [ranges]; exact table.rangesFit
    nothing := by omega
    starts := ?_
    stops := ?_
    nonempty := ?_
    bounded := ?_
    contiguous := ?_
    maximal := ?_
    last := ?_
    named := ?_
    resolves := ?_ }
  · rw [List.length_append, List.length_replicate, table.commands, total]
  · rw [counts.capacity, total]
    exact counts.fits
  · intro _
    rw [start 0 some]
    exact table.starts some
  · intro _
    rw [ranges, longer]
  · intro i inside
    rcases split i inside with less | rfl
    · rw [old i less]
      exact table.nonempty i (by omega)
    · rw [longer]
      have before := table.nonempty _ (Nat.sub_lt some Nat.zero_lt_one)
      have bound := table.bounded _ (Nat.sub_lt some Nat.zero_lt_one)
      dsimp only
      omega
  · intro i inside
    rcases split i inside with less | rfl
    · rw [old i less]
      have bound := table.bounded i (by omega)
      omega
    · rw [longer]
  · intro i inside
    rw [ranges] at inside
    rw [start _ inside, old i (by omega)]
    exact table.contiguous i inside
  · intro i inside
    rw [ranges] at inside
    rw [scope _ inside, scope i (by omega)]
    exact table.maximal i inside
  · intro _
    rw [ranges, scope _ (Nat.sub_lt some Nat.zero_lt_one), table.last some,
      counts.last, isLast]
  · intro i inside
    rw [ranges] at inside
    rw [scope i inside]
    exact stores.named_kept counts.sameOwner (table.named i inside)
  · intro i inside command lower upper there isThere result
    rw [ranges] at inside
    rw [start i inside] at lower
    rw [scope i inside]
    rcases Nat.lt_or_ge command supplied.length with before | behind
    · rw [supplied_before before] at isThere
      rw [stores.resolves_kept (table.named i inside)]
      apply table.resolves i inside command lower _ there isThere
      rcases split i (by omega) with less | rfl
      · rw [old i less] at upper
        exact upper
      · rw [table.stops some, ← table.commands]
        exact before
    · have isFinal : i = owner.cursor.ranges - 1 := by
        rcases split i (by omega) with less | same
        · rw [old i less] at upper
          have bound := table.bounded i inside
          rw [← table.commands] at bound
          omega
        · exact same
      rw [isFinal, table.last some, isLast, supplied_behind behind isThere]
      exact stores.resolves result

end

/-- What an accepted append writes. -/
theorem RangeTable.commit {slot : Nat} {newScope : Bool}
    {plan : QueryRangeDecision}
    (table : RangeTable capacities owner supplied) (positive : 0 < count)
    (stores : Stores capacities owner
      (owner.commitAppend input slot newScope id plan) input id)
    (goes : Goes owner.cursor id count
      { commands := owner.commandCapacity, ranges := capacities.ranges }
      plan) :
    RangeTable capacities (owner.commitAppend input slot newScope id plan)
      (supplied ++ List.replicate count input) := by
  have counts : Counts owner
      (owner.commitAppend input slot newScope id plan) id count := by
    have cursor : (owner.commitAppend input slot newScope id plan).cursor =
        plan.next := rfl
    refine ⟨positive, goes.fits, ?_, ?_, ?_, rfl⟩
    · rw [cursor, goes.next]
    · rw [cursor, goes.next]
    · rw [cursor, goes.next]
  by_cases isNew : owner.cursor.ranges = 0 ∨ owner.cursor.last ≠ id
  · have action : plan.action = .newRange := by
      rw [goes.action, if_pos isNew]
    apply table.newRange stores counts isNew (goes.room isNew)
    · change plan.next.ranges = _
      rw [goes.next, if_pos isNew]
    · intro i inside
      dsimp only [commitAppend]
      rw [if_pos action]
      exact Function.update_of_ne (Nat.ne_of_lt inside) _ _
    · dsimp only [commitAppend]
      rw [if_pos action]
      exact Function.update_self _ _ _
  · have action : plan.action ≠ .newRange := by
      rw [goes.action, if_neg isNew]
      exact nofun
    rw [not_or, not_not] at isNew
    apply table.extend stores counts isNew.2 (Nat.pos_of_ne_zero isNew.1)
    · change plan.next.ranges = _
      rw [goes.next, if_neg (fun either => either.elim isNew.1
        (fun differs => differs isNew.2))]
      rfl
    · intro i inside
      dsimp only [commitAppend]
      rw [if_neg action]
      exact Function.update_of_ne (Nat.ne_of_lt inside) _ _
    · dsimp only [commitAppend]
      rw [if_neg action]
      exact Function.update_self _ _ _

end Dxmt9.QueryScope
