import Mathlib.Algebra.Ring.Nat
import Mathlib.Data.List.Basic
import Mathlib.Data.List.Chain

/-!
# Runs and logs

A machine takes one input after another.  What holds at first and is kept by
every step holds after every run; what justifies every new entry of a log
justifies each of its entries by those before it.
-/

namespace Dxmt9.Transition

variable {σ ε : Type}

/-! ## Runs -/

/-- The state after a list of inputs. -/
def run (step : σ → ε → σ) (initial : σ) (inputs : List ε) : σ :=
  inputs.foldl step initial

@[simp] theorem run_nil (step : σ → ε → σ) (initial : σ) :
    run step initial [] = initial := rfl

theorem run_append (step : σ → ε → σ) (initial : σ)
    (front back : List ε) :
    run step initial (front ++ back) =
      run step (run step initial front) back :=
  List.foldl_append

/-- An invariant of the steps holds after every run. -/
theorem run_invariant {step : σ → ε → σ} {Invariant : σ → Prop}
    (preserved : ∀ state input, Invariant state → Invariant (step state input))
    {initial : σ} (holds : Invariant initial) (inputs : List ε) :
    Invariant (run step initial inputs) := by
  induction inputs generalizing initial with
  | nil => exact holds
  | cons input rest induction =>
      exact induction (preserved initial input holds)

/-- What one input brings about and no later one undoes holds at the end. -/
theorem run_established {step : σ → ε → σ} {Holds : σ → Prop}
    {input : ε} {after : List ε}
    (brought : ∀ state, Holds (step state input))
    (kept : ∀ later ∈ after, ∀ state, Holds state → Holds (step state later))
    (initial : σ) (before : List ε) :
    Holds (run step initial (before ++ input :: after)) := by
  rw [run_append]
  change Holds (run step (step _ input) after)
  generalize step (run step initial before) input = state,
    brought (run step initial before) = holds
  induction after generalizing state with
  | nil => exact holds
  | cons later rest induction =>
      exact induction
        (fun other member => kept other (List.mem_cons_of_mem later member))
        (step state later) (kept later List.mem_cons_self state holds)

/-- Every step of a run is taken where its input is allowed. -/
def Guarded (step : σ → ε → σ) (allowed : σ → ε → Prop) :
    σ → List ε → Prop
  | _, [] => True
  | state, input :: rest =>
      allowed state input ∧ Guarded step allowed (step state input) rest

/-- What every allowed step preserves holds after a guarded run. -/
theorem guarded_invariant {step : σ → ε → σ} {allowed : σ → ε → Prop}
    {Invariant : σ → Prop}
    (preserved : ∀ state input, Invariant state → allowed state input →
      Invariant (step state input))
    {initial : σ} (holds : Invariant initial) {inputs : List ε}
    (guarded : Guarded step allowed initial inputs) :
    Invariant (run step initial inputs) := by
  induction inputs generalizing initial with
  | nil => exact holds
  | cons input rest induction =>
      exact induction (preserved initial input holds guarded.1) guarded.2

/-- The same inputs are allowed, so the same runs are guarded. -/
theorem guarded_congr {step : σ → ε → σ} {allowed other : σ → ε → Prop}
    (same : ∀ state input, allowed state input ↔ other state input)
    {initial : σ} {inputs : List ε} :
    Guarded step allowed initial inputs ↔
      Guarded step other initial inputs := by
  induction inputs generalizing initial with
  | nil => exact Iff.rfl
  | cons input rest induction =>
      exact and_congr (same initial input) induction

/-- Every entry of the log is justified by the entries before it. -/
def Justified (reason : List ε → ε → Prop) (log : List ε) : Prop :=
  ∀ before entry after, log = before ++ entry :: after → reason before entry

theorem justified_nil (reason : List ε → ε → Prop) : Justified reason [] := by
  intro before entry after equal
  simp at equal

theorem append_singleton_eq {log before after : List ε} {last entry : ε}
    (equal : log ++ [last] = before ++ entry :: after) :
    (before = log ∧ entry = last) ∨
      ∃ rest, log = before ++ entry :: rest := by
  rcases List.eq_nil_or_concat after with rfl | ⟨rest, final, rfl⟩
  · obtain ⟨front, back⟩ := List.append_inj' equal rfl
    exact Or.inl ⟨front.symm, (List.singleton_inj.mp back).symm⟩
  · rw [List.concat_eq_append, ← List.cons_append,
      ← List.append_assoc] at equal
    exact Or.inr ⟨rest, (List.append_inj' equal rfl).1⟩

theorem Justified.snoc {reason : List ε → ε → Prop} {log : List ε}
    (justified : Justified reason log) {entry : ε}
    (justifies : reason log entry) : Justified reason (log ++ [entry]) := by
  intro before other after equal
  rcases append_singleton_eq equal with ⟨rfl, rfl⟩ | ⟨rest, split⟩
  · exact justifies
  · exact justified before other rest split

/-- A chain extends by an entry that follows its last one. -/
theorem isChain_snoc {follows : ε → ε → Prop} {log : List ε}
    (chain : log.IsChain follows) {entry : ε}
    (next : ∀ last, log.getLast? = some last → follows last entry) :
    (log ++ [entry]).IsChain follows := by
  rw [List.isChain_append]
  refine ⟨chain, List.isChain_singleton entry, ?_⟩
  intro last isLast first isFirst
  rw [List.head?_cons, Option.mem_some_iff] at isFirst
  subst isFirst
  exact next last isLast

end Dxmt9.Transition
