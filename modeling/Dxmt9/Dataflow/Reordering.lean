import Dxmt9.Dataflow.Liveness
import Dxmt9.Order.Precedes

/-!
# Reordering independent instructions

Two instructions depend on each other when one of them updates a cell that the
other uses or updates.  Under every interpretation, a program that keeps the
order of dependent instructions computes the same contents, and every observed
instruction sees the same.
-/

namespace Dxmt9.Dataflow.CellFlow

open Dxmt9.Order

variable {ι κ ν : Type} (flow : CellFlow ι κ)
  (effect : ι → (κ → Option ν) → κ → ν)

/-- One instruction updates a cell that the other one touches. -/
def Dependent (i j : ι) : Prop :=
  ∃ cell, flow.outputs i cell ∧ (flow.inputs j cell ∨ flow.outputs j cell) ∨
    flow.outputs j cell ∧ flow.inputs i cell

variable {i j : ι} {store : κ → ν}

theorem view_step (apart : ¬flow.Dependent i j) :
    flow.view j (flow.step effect store i) = flow.view j store := by
  refine flow.view_congr fun cell isInput => if_neg fun isOutput => ?_
  exact apart ⟨cell, Or.inl ⟨isOutput, Or.inl isInput⟩⟩

theorem Dependent.symm (dependent : flow.Dependent i j) :
    flow.Dependent j i := by
  obtain ⟨cell, ⟨isOutput, isInput | both⟩ | ⟨isOutput, isInput⟩⟩ := dependent
  · exact ⟨cell, Or.inr ⟨isOutput, isInput⟩⟩
  · exact ⟨cell, Or.inl ⟨both, Or.inr isOutput⟩⟩
  · exact ⟨cell, Or.inl ⟨isOutput, Or.inl isInput⟩⟩

/-- Independent instructions commute. -/
theorem step_comm (apart : ¬flow.Dependent i j) :
    flow.step effect (flow.step effect store i) j =
      flow.step effect (flow.step effect store j) i := by
  have behind : _ = flow.view j store := flow.view_step effect apart
  have front : _ = flow.view i store :=
    flow.view_step effect fun dependent => apart (dependent.symm flow)
  funext cell
  by_cases left : flow.outputs i cell
  · have right : ¬flow.outputs j cell := fun right =>
      apart ⟨cell, Or.inl ⟨left, Or.inr right⟩⟩
    simp only [step, if_pos left, if_neg right] at front ⊢
    rw [front]
  · simp only [step, if_neg left] at behind ⊢
    rw [behind]

/-- What an instruction shows does not depend on an independent one. -/
theorem observed_step (apart : ¬flow.Dependent i j) :
    flow.observed effect (flow.step effect store i) [j] =
      flow.observed effect store [j] := by
  unfold observed
  rw [flow.view_step effect apart]
  rfl

variable {before after program other : List ι}

/-- An instruction moves in front of those that it does not depend on. -/
theorem exec_front (apart : ∀ j ∈ before, ¬flow.Dependent j i) :
    flow.exec effect store (before ++ i :: after) =
        flow.exec effect store (i :: (before ++ after)) ∧
      (flow.observed effect store (before ++ i :: after)).Perm
        (flow.observed effect store (i :: (before ++ after))) := by
  induction before generalizing store with
  | nil => exact ⟨rfl, List.Perm.refl _⟩
  | cons j rest induction =>
      have first := apart j List.mem_cons_self
      have second := fun dependent => first (Dependent.symm flow dependent)
      have comm : flow.step effect (flow.step effect store j) i = _ :=
        flow.step_comm effect first
      obtain ⟨contents, seen⟩ := @induction (flow.step effect store j)
        fun k member => apart k (List.mem_cons_of_mem j member)
      refine ⟨contents.trans (congrArg
        (fun next => flow.exec effect next (rest ++ after)) comm), ?_⟩
      have front : ∀ store k program, flow.observed effect store
          (k :: program) = flow.observed effect store [k] ++
            flow.observed effect (flow.step effect store k) program :=
        fun store k => flow.observed_append effect store [k]
      rw [front _ i, flow.observed_step effect first, comm] at seen
      rw [List.cons_append, front store j, List.cons_append, front store i,
        front _ j (rest ++ after), flow.observed_step effect second]
      exact (seen.append_left _).trans (List.perm_append_comm_assoc ..)

/-- The order of independent instructions does not matter. -/
theorem exec_of_perm (perm : other.Perm program) (distinct : program.Nodup)
    (keeps : ∀ i j, flow.Dependent i j → Precedes program i j →
      Precedes other i j) :
    flow.exec effect store other = flow.exec effect store program ∧
      (flow.observed effect store other).Perm
        (flow.observed effect store program) := by
  induction program generalizing other store with
  | nil =>
      rw [perm.eq_nil]
      exact ⟨rfl, List.Perm.refl _⟩
  | cons i rest induction =>
      obtain ⟨before, after, rfl⟩ :=
        List.append_of_mem (perm.mem_iff.mpr List.mem_cons_self)
      have once := perm.nodup_iff.mpr distinct
      have apart : ∀ j ∈ before, ¬flow.Dependent j i := by
        intro j member dependent
        have early : Precedes (before ++ i :: after) j i :=
          List.Sublist.append (List.singleton_sublist.mpr member)
            (List.singleton_sublist.mpr List.mem_cons_self)
        have differ : j ≠ i := early.ne once
        have late : j ∈ rest := List.mem_of_ne_of_mem differ
          (perm.mem_iff.mp early.mem.1)
        exact (keeps i j (Dependent.symm flow dependent)
          (List.Sublist.cons_cons i (List.singleton_sublist.mpr late))).asymm
            once early
      obtain ⟨contents, seen⟩ :
          flow.exec effect store (before ++ i :: after) = _ ∧ _ :=
        flow.exec_front effect apart
      have remaining : (before ++ after).Perm rest :=
        (List.perm_middle.symm.trans perm).cons_inv
      obtain ⟨same, shown⟩ := @induction (flow.step effect store i) _ remaining
        distinct.of_cons fun j k dependent ordered =>
          (keeps j k dependent (ordered.mono (List.sublist_cons_self ..))).within
            once (List.Sublist.append_left (List.sublist_cons_self ..) _)
            (remaining.mem_iff.mpr ordered.mem.1)
            (remaining.mem_iff.mpr ordered.mem.2)
      refine ⟨contents.trans same, seen.trans ?_⟩
      have front := fun program => flow.observed_append effect store [i]
        program
      exact (List.Perm.of_eq (front _)).trans ((shown.append_left _).trans
        (List.Perm.of_eq (front _).symm))

end Dxmt9.Dataflow.CellFlow
