import Mathlib.Data.List.Basic

/-!
# Outcomes of fallible steps

A computation that gives a value or stops with a reason, and loops over such
steps: what holds at first and is kept by every step that succeeds holds of
the result, and the loop stops only with a reason that a step gave.
-/

namespace Dxmt9.Fallible

universe u

variable {ε σ τ : Type*} {α β : Type u}

/-- The value of a computation holds, or its reason to stop is expected. -/
def Outcome (fails : ε → Prop) (holds : α → Prop) : Except ε α → Prop
  | .ok value => holds value
  | .error reason => fails reason

theorem Outcome.mono {fails : ε → Prop} {holds holds' : α → Prop}
    {result : Except ε α} (outcome : Outcome fails holds result)
    (weaker : ∀ value, holds value → holds' value) :
    Outcome fails holds' result := by
  cases result with
  | ok value => exact weaker value outcome
  | error reason => exact outcome

/-- More reasons to stop are expected. -/
theorem Outcome.weaken {fails fails' : ε → Prop} {holds : α → Prop}
    {result : Except ε α} (outcome : Outcome fails holds result)
    (weaker : ∀ reason, fails reason → fails' reason) :
    Outcome fails' holds result := by
  cases result with
  | ok value => exact outcome
  | error reason => exact weaker reason outcome

/-- A computation behind another one. -/
theorem Outcome.bind {fails : ε → Prop} {holds : α → Prop}
    {holds' : β → Prop} {result : Except ε α} {continued : α → Except ε β}
    (outcome : Outcome fails holds result)
    (continues : ∀ value, holds value →
      Outcome fails holds' (continued value)) :
    Outcome fails holds' (result >>= continued) := by
  cases result with
  | ok value => exact continues value outcome
  | error reason => exact outcome

theorem Outcome.ite {fails : ε → Prop} {holds : α → Prop} {condition : Prop}
    [Decidable condition] {yes no : Except ε α}
    (accepted : condition → Outcome fails holds yes)
    (refused : ¬condition → Outcome fails holds no) :
    Outcome fails holds (if condition then yes else no) := by
  split
  · rename_i held
    exact accepted held
  · rename_i failed
    exact refused failed

/-- A loop over the numbers below a bound. -/
theorem outcome_foldlM_range {step : σ → Nat → Except ε σ}
    {fails : ε → Prop} {holds : Nat → σ → Prop} {count : Nat} {start : σ}
    (begins : holds 0 start)
    (advance : ∀ index state, index < count → holds index state →
      Outcome fails (holds (index + 1)) (step state index)) :
    Outcome fails (holds count) ((List.range count).foldlM step start) := by
  induction count with
  | zero => exact begins
  | succ count induction =>
      have front := induction fun index state inside =>
        advance index state (Nat.lt_succ_of_lt inside)
      rw [List.range_succ, List.foldlM_append]
      cases reached : (List.range count).foldlM step start with
      | error reason =>
          rw [reached] at front
          exact front
      | ok state =>
          rw [reached] at front
          have last := advance count state (Nat.lt_succ_self count) front
          change Outcome fails (holds (count + 1))
            ((fun result => List.foldlM step result [count]) state)
          dsimp only
          rw [List.foldlM_cons]
          cases stepped : step state count with
          | error reason =>
              rw [stepped] at last
              exact last
          | ok next =>
              rw [stepped] at last
              exact last

/-- A loop over items that keeps what holds. -/
theorem outcome_foldlM {step : σ → β → Except ε σ} {fails : ε → Prop}
    {holds : σ → Prop} {items : List β} {start : σ} (begins : holds start)
    (keeps : ∀ item ∈ items, ∀ state, holds state →
      Outcome fails holds (step state item)) :
    Outcome fails holds (items.foldlM step start) := by
  induction items generalizing start with
  | nil => exact begins
  | cons item rest induction =>
      rw [List.foldlM_cons]
      have first := keeps item (List.mem_cons_self ..) start begins
      cases stepped : step start item with
      | error reason =>
          rw [stepped] at first
          exact first
      | ok next =>
          rw [stepped] at first
          exact induction first fun later member =>
            keeps later (List.mem_cons_of_mem _ member)

/-! ## Accepted computations -/

/-- A computation gives a value. -/
def Accepts (result : Except ε α) : Prop :=
  Outcome (fun _ => False) (fun _ => True) result

theorem Accepts.bind {result : Except ε α} {continued : α → Except ε β}
    (accepts : Accepts result)
    (continues : ∀ value, Accepts (continued value)) :
    Accepts (result >>= continued) :=
  Outcome.bind accepts fun value _ => continues value

theorem accepts_of_bind {result : Except ε α} {continued : α → Except ε β}
    (accepts : Accepts (result >>= continued)) : Accepts result := by
  cases result with
  | ok value => exact trivial
  | error reason => exact accepts

/-- A loop gives a value just where each of its steps does. -/
theorem accepts_foldlM_iff {step : σ → β → Except ε σ}
    {accepted : β → Prop} {items : List β}
    (steps : ∀ item ∈ items, ∀ state,
      Accepts (step state item) ↔ accepted item) {start : σ} :
    Accepts (items.foldlM step start) ↔ ∀ item ∈ items, accepted item := by
  induction items generalizing start with
  | nil => exact iff_of_true trivial nofun
  | cons item rest induction =>
      rw [List.foldlM_cons, List.forall_mem_cons,
        ← steps item List.mem_cons_self start]
      cases stepped : step start item with
      | error reason => exact iff_of_false id fun both => both.1
      | ok next =>
          have later : Accepts (rest.foldlM step next) ↔ _ :=
            induction fun other member =>
              steps other (List.mem_cons_of_mem _ member)
          exact later.trans (Iff.of_eq (true_and _)).symm

/-- A search that has found what it looks for. -/
def found : Except ε Bool → Bool
  | .ok true => true
  | _ => false

theorem found_eq_false {result : Except ε Bool}
    (refused : ¬Accepts result) : found result = false := by
  cases result with
  | ok hit => exact absurd trivial refused
  | error reason => rfl

/-- A search whose tests all give a value. -/
theorem anyM_eq_ok {test : τ → Except ε Bool} {value : τ → Bool}
    {items : List τ} (tests : ∀ item ∈ items, test item = .ok (value item)) :
    items.anyM test = .ok (items.any value) := by
  induction items with
  | nil => rfl
  | cons item rest induction =>
      rw [List.anyM, tests item List.mem_cons_self, List.any_cons]
      cases value item with
      | true => rfl
      | false =>
          exact induction fun other member =>
            tests other (List.mem_cons_of_mem _ member)

theorem takeWhile_congr {p q : τ → Bool} {items : List τ}
    (same : ∀ item ∈ items, p item = q item) :
    items.takeWhile p = items.takeWhile q := by
  induction items with
  | nil => rfl
  | cons item rest induction =>
      rw [List.takeWhile_cons, List.takeWhile_cons,
        same item List.mem_cons_self, induction fun other member =>
          same other (List.mem_cons_of_mem _ member)]

/-- A search gives a value just where each test up to the first hit does. -/
theorem accepts_anyM_iff {test : τ → Except ε Bool} {items : List τ} :
    Accepts (items.anyM test) ↔
      ∀ item ∈ items.takeWhile (fun item => !found (test item)),
        Accepts (test item) := by
  induction items with
  | nil => exact iff_of_true trivial nofun
  | cons item rest induction =>
      rw [List.anyM, List.takeWhile_cons]
      cases tested : test item with
      | error reason =>
          apply iff_of_false id
          intro all
          have first := all item List.mem_cons_self
          rw [tested] at first
          exact first
      | ok hit =>
          cases hit with
          | true => exact iff_of_true trivial nofun
          | false =>
              change Accepts (rest.anyM test) ↔ ∀ other ∈ item :: _, _
              rw [List.forall_mem_cons, tested, induction]
              exact (Iff.of_eq (true_and _)).symm

theorem accepts_anyM {test : τ → Except ε Bool} {items : List τ}
    (accepts : ∀ item ∈ items, Accepts (test item)) :
    Accepts (items.anyM test) :=
  accepts_anyM_iff.mpr fun item member =>
    accepts item (List.takeWhile_subset _ member)

/-- A relation between the states before and after that every step keeps. -/
theorem foldlM_some_relation {step : σ → α → Option σ}
    (Related : σ → σ → Prop) (reflexive : ∀ state, Related state state)
    (transitive : ∀ {first second third}, Related first second →
      Related second third → Related first third)
    (steps : ∀ state item next, step state item = some next →
      Related state next)
    {items : List α} {start result : σ}
    (folded : items.foldlM step start = some result) :
    Related start result := by
  induction items generalizing start with
  | nil =>
      have same : start = result := Option.some.inj folded
      rw [same]
      exact reflexive result
  | cons item rest induction =>
      rw [List.foldlM_cons] at folded
      obtain ⟨next, stepped, continued⟩ := Option.bind_eq_some_iff.mp folded
      exact transitive (steps start item next stepped) (induction continued)

/-- A property of what is done and the state reached: where every step succeeds
and keeps it, the fold succeeds with it. -/
theorem foldlM_some_of_steps {step : σ → α → Option σ}
    {Reached : List α → σ → Prop} {items : List α}
    (steps : ∀ done item state, item ∈ items → Reached done state →
      ∃ next, step state item = some next ∧ Reached (done ++ [item]) next)
    {start : σ} (reached : Reached [] start) :
    ∃ result, items.foldlM step start = some result ∧
      Reached items result := by
  suffices general : ∀ rest done state, (∀ item ∈ rest, item ∈ items) →
      Reached done state → ∃ result, rest.foldlM step state = some result ∧
          Reached (done ++ rest) result from
    general items [] start (fun _ member => member) reached
  intro rest
  induction rest with
  | nil =>
      intro done state _ reached
      refine ⟨state, rfl, ?_⟩
      rw [List.append_nil]
      exact reached
  | cons item rest induction =>
      intro done state members reached
      have ⟨next, stepped, reachedNext⟩ :=
        steps done item state (members item List.mem_cons_self) reached
      have ⟨result, folded, reachedResult⟩ := induction (done ++ [item]) next
        (fun other member => members other (List.mem_cons_of_mem _ member))
        reachedNext
      refine ⟨result, ?_, ?_⟩
      · rw [List.foldlM_cons, stepped]
        exact folded
      · rw [List.append_assoc] at reachedResult
        exact reachedResult

/-- Nested loops go over the pairs in order. -/
theorem foldlM_nested {step : σ → α → β → Option σ} (outer : List α)
    (inner : List β) (start : σ) :
    outer.foldlM
        (fun state first =>
          inner.foldlM (fun state second => step state first second) state)
        start =
      (outer.flatMap fun first => inner.map fun second =>
        (first, second)).foldlM
          (fun state pair => step state pair.1 pair.2) start := by
  induction outer generalizing start with
  | nil => rfl
  | cons first rest induction =>
      rw [List.foldlM_cons, List.flatMap_cons, List.foldlM_append,
        List.foldlM_map]
      exact congrArg (Option.bind _) (funext induction)

end Dxmt9.Fallible
