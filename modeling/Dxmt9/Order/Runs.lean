import Mathlib.Data.List.Basic

/-!
# Maximal runs

The runs of the indices that satisfy a predicate, found by one scan: skip what
does not satisfy it, then go on to the end of what does.
-/

namespace Dxmt9.Order

/-- The first index from one on, among as many as are left, that fails the
test; the end of them when none does. -/
def skipWhile (test : Nat → Bool) : Nat → Nat → Nat
  | 0, index => index
  | left + 1, index =>
      if test index then skipWhile test left (index + 1) else index

/-- Where a scan ends: all before it passed, and it is at the end or fails. -/
structure Skipped (test : Nat → Bool) (left index result : Nat) : Prop where
  lower : index ≤ result
  upper : result ≤ index + left
  passed : ∀ between, index ≤ between → between < result →
    test between = true
  failed : result < index + left → test result = false

theorem skipWhile_spec (test : Nat → Bool) (left index : Nat) :
    Skipped test left index (skipWhile test left index) := by
  induction left generalizing index with
  | zero =>
      exact ⟨Nat.le_refl _, Nat.le_refl _,
        fun between above below => absurd below (Nat.not_lt_of_le above),
        fun less => absurd less (Nat.lt_irrefl _)⟩
  | succ left induction =>
      rw [skipWhile]
      split
      · rename_i passes
        have rest := induction (index + 1)
        refine ⟨?_, ?_, ?_, ?_⟩
        · exact Nat.le_of_succ_le rest.lower
        · have upper := rest.upper
          omega
        · intro between above below
          rcases Nat.eq_or_lt_of_le above with same | behind
          · rw [← same]
            exact passes
          · exact rest.passed between behind below
        · intro less
          exact rest.failed (by omega)
      · rename_i fails
        exact ⟨Nat.le_refl _, Nat.le_add_right _ _,
          fun between above below => absurd below (Nat.not_lt_of_le above),
          fun _ => Bool.eq_false_iff.mpr fails⟩

/-- A run that neither the index before it nor the one behind it extends. -/
structure MaximalRun (Holds : Nat → Prop) (first count : Nat) : Prop where
  nonempty : 0 < count
  holds : ∀ index, first ≤ index → index < first + count → Holds index
  starts : first = 0 ∨ ¬ Holds (first - 1)
  stops : ¬ Holds (first + count)

/-- Two runs with the same first index are the same. -/
theorem MaximalRun.unique {Holds : Nat → Prop} {first count other : Nat}
    (run : MaximalRun Holds first count)
    (again : MaximalRun Holds first other) : count = other := by
  rcases Nat.lt_trichotomy count other with less | same | more
  · exact absurd (again.holds _ (Nat.le_add_right _ _) (by omega)) run.stops
  · exact same
  · exact absurd (run.holds _ (Nat.le_add_right _ _) (by omega)) again.stops

/-- The runs among the marked indices below a size, from an index on.  Every
round takes one run. -/
def runsFrom (marked : Nat → Bool) (size : Nat) : Nat → Nat → List (Nat × Nat)
  | 0, _ => []
  | rounds + 1, start =>
      let first := skipWhile (fun index => !marked index) (size - start) start
      if size ≤ first then []
      else
        let stop := skipWhile marked (size - (first + 1)) (first + 1)
        (first, stop - first) :: runsFrom marked size rounds stop

/-- An index is marked and below the size. -/
def MarkedBelow (marked : Nat → Bool) (size index : Nat) : Prop :=
  index < size ∧ marked index = true

variable {marked : Nat → Bool} {size : Nat}

variable {start : Nat}

/-- What one round finds: nothing is left, or the next run. -/
theorem round_cases (inside : start ≤ size)
    (fresh : MarkedBelow marked size start →
      start = 0 ∨ ¬ MarkedBelow marked size (start - 1)) :
    let first := skipWhile (fun index => !marked index) (size - start) start
    let stop := skipWhile marked (size - (first + 1)) (first + 1)
    (size ≤ first ∧ ∀ index, start ≤ index → ¬ MarkedBelow marked size index) ∨
      (first < size ∧ start ≤ first ∧ first < stop ∧ stop ≤ size ∧
        MaximalRun (MarkedBelow marked size) first (stop - first) ∧
        ∀ index, start ≤ index → index < first →
          ¬ MarkedBelow marked size index) := by
  intro first stop
  have skipped := skipWhile_spec (fun index => !marked index) (size - start)
    start
  have unmarked : ∀ index, start ≤ index → index < first →
      ¬ MarkedBelow marked size index := by
    intro index above below isMarked
    have passes := skipped.passed index above below
    rw [isMarked.2] at passes
    exact nomatch passes
  by_cases none : size ≤ first
  · refine .inl ⟨none, fun index above isMarked => ?_⟩
    exact unmarked index above (Nat.lt_of_lt_of_le isMarked.1 none) isMarked
  · have found : first < size := Nat.lt_of_not_le none
    have isFirst : marked first = true := by
      have fails := skipped.failed (by omega)
      simpa using fails
    have run := skipWhile_spec marked (size - (first + 1)) (first + 1)
    have before := run.lower
    have upper := run.upper
    refine .inr ⟨found, skipped.lower, before, ?_, ?_, unmarked⟩
    · omega
    · refine ⟨Nat.sub_pos_of_lt before, ?_, ?_, ?_⟩
      · intro index above below
        refine ⟨by omega, ?_⟩
        rcases Nat.eq_or_lt_of_le above with same | behind
        · rw [← same]
          exact isFirst
        · exact run.passed index behind (by omega)
      · rcases Nat.eq_or_lt_of_le skipped.lower with same | behind
        · change start = first at same
          rw [← same]
          apply fresh
          rw [same]
          exact ⟨found, isFirst⟩
        · exact .inr (unmarked _ (by omega) (by omega))
      · intro isMarked
        have same : first + (stop - first) = stop := by omega
        rw [same] at isMarked
        have fails := run.failed (by have := isMarked.1; omega)
        exact nomatch fails.symm.trans isMarked.2

variable {rounds : Nat}

/-- The scan finds exactly the maximal runs. -/
theorem mem_runsFrom (enough : size - start ≤ rounds) (inside : start ≤ size)
    (fresh : MarkedBelow marked size start →
      start = 0 ∨ ¬ MarkedBelow marked size (start - 1))
    (first count : Nat) :
    (first, count) ∈ runsFrom marked size rounds start ↔
      start ≤ first ∧ MaximalRun (MarkedBelow marked size) first count := by
  induction rounds generalizing start with
  | zero =>
      apply iff_of_false List.not_mem_nil
      rintro ⟨above, run⟩
      have isMarked := run.holds first (Nat.le_refl _)
        (Nat.lt_add_of_pos_right run.nonempty)
      have below := isMarked.1
      omega
  | succ rounds induction =>
      rw [runsFrom]
      rcases round_cases inside fresh with
        ⟨none, unmarked⟩ | ⟨found, lower, before, upper, run, unmarked⟩
      · rw [if_pos none]
        apply iff_of_false List.not_mem_nil
        rintro ⟨above, other⟩
        exact unmarked first above (other.holds first (Nat.le_refl _)
          (Nat.lt_add_of_pos_right other.nonempty))
      · rw [if_neg (Nat.not_le_of_lt found), List.mem_cons]
        generalize hfirst : skipWhile (fun index => !marked index)
          (size - start) start = begins at *
        generalize hstop : skipWhile marked (size - (begins + 1))
          (begins + 1) = stop at *
        have notStop : ¬ MarkedBelow marked size stop := by
          have stops := run.stops
          rwa [Nat.add_sub_cancel' (Nat.le_of_lt before)] at stops
        rw [induction (by omega) upper (fun isMarked =>
          absurd isMarked notStop)]
        constructor
        · rintro (same | ⟨above, other⟩)
          · cases same
            exact ⟨lower, run⟩
          · exact ⟨by omega, other⟩
        · rintro ⟨above, other⟩
          have isMarked := other.holds first (Nat.le_refl _)
            (Nat.lt_add_of_pos_right other.nonempty)
          have notBefore : begins ≤ first := by
            by_contra less
            exact unmarked first above (Nat.lt_of_not_le less) isMarked
          rcases Nat.eq_or_lt_of_le notBefore with same | behind
          · subst same
            exact .inl (Prod.ext rfl (other.unique run))
          · refine .inr ⟨?_, other⟩
            by_contra inRun
            rcases other.starts with zero | apart
            · omega
            · exact apart (run.holds (first - 1) (by omega) (by omega))

/-- Every run ends before the next one starts. -/
theorem runsFrom_increasing (inside : start ≤ size)
    (enough : size - start ≤ rounds)
    (fresh : MarkedBelow marked size start →
      start = 0 ∨ ¬ MarkedBelow marked size (start - 1)) :
    (runsFrom marked size rounds start).Pairwise fun run next =>
      run.1 + run.2 < next.1 := by
  induction rounds generalizing start with
  | zero => exact .nil
  | succ rounds induction =>
      rw [runsFrom]
      rcases round_cases inside fresh with
        ⟨none, unmarked⟩ | ⟨found, lower, before, upper, run, unmarked⟩
      · rw [if_pos none]
        exact .nil
      · rw [if_neg (Nat.not_le_of_lt found)]
        generalize skipWhile (fun index => !marked index)
          (size - start) start = begins at *
        generalize skipWhile marked (size - (begins + 1))
          (begins + 1) = stop at *
        have notStop : ¬ MarkedBelow marked size stop := by
          have stops := run.stops
          rwa [Nat.add_sub_cancel' (Nat.le_of_lt before)] at stops
        have freshStop : MarkedBelow marked size stop →
            stop = 0 ∨ ¬ MarkedBelow marked size (stop - 1) :=
          fun isMarked => absurd isMarked notStop
        have enoughStop : size - stop ≤ rounds := by omega
        refine List.pairwise_cons.mpr
          ⟨?_, induction upper enoughStop freshStop⟩
        rintro ⟨first, count⟩ member
        obtain ⟨above, other⟩ :=
          (mem_runsFrom enoughStop upper freshStop first count).mp member
        have isMarked := other.holds first (Nat.le_refl _)
          (Nat.lt_add_of_pos_right other.nonempty)
        rcases Nat.eq_or_lt_of_le above with same | behind
        · rw [same] at notStop
          exact absurd isMarked notStop
        · dsimp only
          omega

end Dxmt9.Order
