import Mathlib.Data.List.Basic

/-!
# Uninterpreted dataflow and liveness

A straight-line program is a list of instructions over cells.  Each
instruction sees the contents of its input cells, replaces the contents of its
output cells and may be observed.  Nothing else is known about what it
computes.  Under every interpretation, leaving instructions out changes no
observation and no final content exactly when none of them is useful in the
backward liveness analysis of the program.
-/

namespace Dxmt9.Dataflow

open Classical

/-- The cells an instruction uses and updates. -/
structure CellFlow (ι κ : Type) where
  inputs : ι → κ → Prop
  outputs : ι → κ → Prop
  observes : ι → Prop

namespace CellFlow

variable {ι κ : Type} (flow : CellFlow ι κ) (final : κ → Prop)

/-! ## Execution -/

section Execution

variable {ν : Type} (effect : ι → (κ → Option ν) → κ → ν)

/-- The contents that an instruction can see. -/
noncomputable def view (i : ι) (store : κ → ν) : κ → Option ν := fun cell =>
  if flow.inputs i cell then some (store cell) else none

noncomputable def step (store : κ → ν) (i : ι) : κ → ν := fun cell =>
  if flow.outputs i cell then effect i (flow.view i store) cell
  else store cell

noncomputable def exec (store : κ → ν) (program : List ι) : κ → ν :=
  program.foldl (flow.step effect) store

/-- What the observed instructions of a run have seen. -/
noncomputable def observed :
    (κ → ν) → List ι → List (ι × (κ → Option ν))
  | _, [] => []
  | store, i :: rest =>
      if flow.observes i then
        (i, flow.view i store) :: observed (flow.step effect store i) rest
      else observed (flow.step effect store i) rest

theorem exec_append (store : κ → ν) (first second : List ι) :
    flow.exec effect store (first ++ second) =
      flow.exec effect (flow.exec effect store first) second :=
  List.foldl_append

theorem observed_append (store : κ → ν) (first second : List ι) :
    flow.observed effect store (first ++ second) =
      flow.observed effect store first ++
        flow.observed effect (flow.exec effect store first) second := by
  induction first generalizing store with
  | nil => rfl
  | cons i rest induction =>
      simp only [List.cons_append, observed, induction]
      split <;> rfl

variable {store : κ → ν} {program : List ι}

theorem observed_mem
    {entry : ι × (κ → Option ν)}
    (member : entry ∈ flow.observed effect store program) :
    entry.1 ∈ program := by
  induction program generalizing store with
  | nil => exact absurd member List.not_mem_nil
  | cons i rest induction =>
      unfold observed at member
      split at member
      · rcases List.mem_cons.mp member with rfl | behind
        · exact List.mem_cons_self
        · exact List.mem_cons_of_mem i (induction behind)
      · exact List.mem_cons_of_mem i (induction member)

/-- Instructions that are not observed leave no trace. -/
theorem observed_eq_nil
    (silent : ∀ i ∈ program, ¬ flow.observes i) :
    flow.observed effect store program = [] := by
  induction program generalizing store with
  | nil => rfl
  | cons i rest induction =>
      rw [observed, if_neg (silent i List.mem_cons_self)]
      exact induction fun j member =>
        silent j (List.mem_cons_of_mem i member)

theorem view_congr {i : ι} {left right : κ → ν}
    (agree : ∀ cell, flow.inputs i cell → left cell = right cell) :
    flow.view i left = flow.view i right := by
  funext cell
  unfold view
  split
  · rename_i isInput
    rw [agree cell isInput]
  · rfl

end Execution

/--
The content of the cell before the program may matter.

It matters at the end if the cell is final; an instruction passes the need for
an output on to all of its inputs.
-/
def Needed : List ι → κ → Prop
  | [], cell => final cell
  | i :: rest, cell =>
      ((flow.observes i ∨ ∃ output, flow.outputs i output ∧
          Needed rest output) ∧ flow.inputs i cell) ∨
        (¬ flow.outputs i cell ∧ Needed rest cell)

/-- The instruction is observed or writes a cell that is needed. -/
def Useful (i : ι) (rest : List ι) : Prop :=
  flow.observes i ∨ ∃ output, flow.outputs i output ∧
    flow.Needed final rest output

variable {i : ι} {rest : List ι} {cell : κ}

theorem needed_input
    (useful : flow.Useful final i rest) (isInput : flow.inputs i cell) :
    flow.Needed final (i :: rest) cell :=
  Or.inl ⟨useful, isInput⟩

theorem needed_behind
    (kept : ¬ flow.outputs i cell) (needed : flow.Needed final rest cell) :
    flow.Needed final (i :: rest) cell :=
  Or.inr ⟨kept, needed⟩

/-- No instruction that is left out is useful where it stands. -/
def OmitsUseless (keep : ι → Bool) (program : List ι) : Prop :=
  ∀ before i after, program = before ++ i :: after → keep i = false →
    ¬ flow.Useful final i after

variable {keep : ι → Bool}

theorem OmitsUseless.tail
    (omits : flow.OmitsUseless final keep (i :: rest)) :
    flow.OmitsUseless final keep rest := fun before j after split =>
  omits (i :: before) j after (by rw [split, List.cons_append])

/-- Every interpretation of the kept instructions shows the same. -/
def Preserves (keep : ι → Bool) (program : List ι) : Prop :=
  ∀ (ν : Type) (effect : ι → (κ → Option ν) → κ → ν) (store : κ → ν),
    flow.observed effect store (program.filter keep) =
        flow.observed effect store program ∧
      ∀ cell, final cell →
        flow.exec effect store (program.filter keep) cell =
          flow.exec effect store program cell

variable {program : List ι}

/-- Stores that agree where it matters lead to the same observations. -/
theorem agree_of_omitsUseless {ν : Type}
    (effect : ι → (κ → Option ν) → κ → ν) (omits : flow.OmitsUseless final keep program)
    {left right : κ → ν}
    (agree : ∀ cell, flow.Needed final program cell → left cell = right cell) :
    flow.observed effect left (program.filter keep) =
        flow.observed effect right program ∧
      ∀ cell, final cell →
        flow.exec effect left (program.filter keep) cell =
          flow.exec effect right program cell := by
  induction program generalizing left right with
  | nil => exact ⟨rfl, agree⟩
  | cons i rest induction =>
      have rest_omits := OmitsUseless.tail flow final omits
      cases kept : keep i with
      | true =>
          rw [List.filter_cons_of_pos kept]
          have views : flow.Useful final i rest →
              flow.view i left = flow.view i right := fun useful =>
            flow.view_congr fun cell isInput =>
              agree cell (flow.needed_input final useful isInput)
          have next : ∀ cell, flow.Needed final rest cell →
              flow.step effect left i cell =
                flow.step effect right i cell := by
            intro cell needed
            unfold step
            split
            · rename_i isOutput
              rw [views (Or.inr ⟨cell, isOutput, needed⟩)]
            · rename_i notOutput
              exact agree cell (flow.needed_behind final notOutput needed)
          have others := induction rest_omits next
          refine ⟨?_, others.2⟩
          simp only [observed]
          split
          · rename_i isObserved
            rw [views (Or.inl isObserved), others.1]
          · exact others.1
      | false =>
          have useless := omits [] i rest rfl kept
          rw [List.filter_cons_of_neg (by simp [kept])]
          have next : ∀ cell, flow.Needed final rest cell →
              left cell = flow.step effect right i cell := by
            intro cell needed
            have notOutput : ¬ flow.outputs i cell := fun isOutput =>
              useless (Or.inr ⟨cell, isOutput, needed⟩)
            rw [step, if_neg notOutput]
            exact agree cell (flow.needed_behind final notOutput needed)
          have silent : ¬ flow.observes i := fun isObserved =>
            useless (Or.inl isObserved)
          have others := induction rest_omits next
          refine ⟨?_, others.2⟩
          rw [observed, if_neg silent]
          exact others.1

/-! ## A useful instruction leaves a trace

Interpret contents as sets of instructions and let every instruction add
itself to what it sees.
-/

/-- The instruction itself and everything that reached its inputs. -/
def mark (i : ι) (seen : κ → Option (ι → Prop)) (_ : κ) : ι → Prop :=
  fun origin => origin = i ∨
    ∃ cell contents, seen cell = some contents ∧ contents origin

/-- Some observation or final content shows the instruction. -/
def Shows (origin : ι) (observations : List (ι × (κ → Option (ι → Prop))))
    (store : κ → ι → Prop) : Prop :=
  (∃ entry ∈ observations, ∃ cell contents,
      entry.2 cell = some contents ∧ contents origin) ∨
    ∃ cell, final cell ∧ store cell origin

variable {origin : ι}

/-- A mark on a needed cell is shown in the end. -/
theorem shows_of_needed (cell : κ)
    {store : κ → ι → Prop} (marked : store cell origin)
    (needed : flow.Needed final program cell) :
    Shows final origin (flow.observed mark store program)
      (flow.exec mark store program) := by
  induction program generalizing cell store with
  | nil => exact Or.inr ⟨cell, needed, marked⟩
  | cons i rest induction =>
      have behind : Shows final origin
          (flow.observed mark (flow.step mark store i) rest)
          (flow.exec mark store (i :: rest)) →
          Shows final origin (flow.observed mark store (i :: rest))
            (flow.exec mark store (i :: rest)) := by
        rintro (⟨entry, member, shown⟩ | shown)
        · refine Or.inl ⟨entry, ?_, shown⟩
          unfold observed
          split
          · exact List.mem_cons_of_mem _ member
          · exact member
        · exact Or.inr shown
      rcases needed with ⟨useful, isInput⟩ | ⟨notOutput, needed⟩
      · have seen : flow.view i store cell = some (store cell) :=
          if_pos isInput
        rcases useful with isObserved | ⟨output, isOutput, needed⟩
        · refine Or.inl ⟨(i, flow.view i store), ?_, cell, _, seen, marked⟩
          rw [observed, if_pos isObserved]
          exact List.mem_cons_self
        · apply behind
          apply induction output _ needed
          rw [step, if_pos isOutput]
          exact Or.inr ⟨cell, _, seen, marked⟩
      · apply behind
        apply induction cell _ needed
        rw [step, if_neg notOutput]
        exact marked

/-- An instruction that is never executed is never shown. -/
theorem not_shows_of_absent
    (absent : origin ∉ program) (store : κ → ι → Prop)
    (unmarked : ∀ cell, ¬ store cell origin) :
    ¬ Shows final origin (flow.observed mark store program)
      (flow.exec mark store program) := by
  have unseen : ∀ {i : ι} {store : κ → ι → Prop},
      (∀ cell, ¬ store cell origin) → ∀ cell contents,
        flow.view i store cell = some contents → ¬ contents origin := by
    intro i store unmarked cell contents seen
    unfold view at seen
    split at seen
    · exact Option.some.inj seen ▸ unmarked cell
    · contradiction
  induction program generalizing store with
  | nil =>
      rintro (⟨_, member, _⟩ | ⟨cell, _, marked⟩)
      · exact absurd member List.not_mem_nil
      · exact unmarked cell marked
  | cons i rest induction =>
      rw [List.mem_cons, not_or] at absent
      have next : ∀ cell, ¬ flow.step mark store i cell origin := by
        intro cell
        unfold step
        split
        · rintro (equal | ⟨input, contents, seen, marked⟩)
          · exact absent.1 equal
          · exact unseen unmarked input contents seen marked
        · exact unmarked cell
      have others := induction absent.2 _ next
      rintro (⟨entry, member, cell, contents, seen, marked⟩ | marked)
      · unfold observed at member
        split at member
        · rcases List.mem_cons.mp member with rfl | behind
          · exact unseen unmarked cell contents seen marked
          · exact others (Or.inl ⟨entry, behind, cell, contents, seen, marked⟩)
        · exact others (Or.inl ⟨entry, member, cell, contents, seen, marked⟩)
      · exact others (Or.inr marked)

/-- Leaving instructions out is harmless exactly if they are useless. -/
theorem preserves_iff (keep : ι → Bool) (program : List ι) :
    flow.Preserves final keep program ↔
      flow.OmitsUseless final keep program := by
  constructor
  · rintro preserves before i after rfl omitted useful
    have absent : i ∉ (before ++ i :: after).filter keep := by
      simp [List.mem_filter, omitted]
    rcases preserves (ι → Prop) mark fun _ _ => False with
      ⟨observations, contents⟩
    -- The kept run shows nothing of `i`, so the full run must not either.
    have hidden : ¬ Shows final i
        (flow.observed mark (fun _ _ => False) (before ++ i :: after))
        (flow.exec mark (fun _ _ => False) (before ++ i :: after)) := by
      intro shown
      apply flow.not_shows_of_absent final absent (fun _ _ => False)
        fun _ => id
      rcases shown with shown | ⟨cell, isFinal, marked⟩
      · exact Or.inl (observations ▸ shown)
      · exact Or.inr ⟨cell, isFinal, contents cell isFinal ▸ marked⟩
    rcases useful with isObserved | ⟨output, isOutput, needed⟩
    · have member : (i, flow.view i (flow.exec mark (fun _ _ => False)
          before)) ∈ flow.observed mark (fun _ _ => False)
            (before ++ i :: after) := by
        rw [observed_append, observed, if_pos isObserved]
        exact List.mem_append_right _ List.mem_cons_self
      rw [← observations] at member
      exact absent (flow.observed_mem mark member)
    · apply hidden
      have marked : flow.step mark (flow.exec mark (fun _ _ => False)
          before) i output i := by
        rw [step, if_pos isOutput]
        exact Or.inl rfl
      rw [observed_append, exec_append]
      rcases flow.shows_of_needed final output marked needed with
        ⟨entry, member, shown⟩ | shown
      · refine Or.inl ⟨entry, List.mem_append_right _ ?_, shown⟩
        unfold observed
        split
        · exact List.mem_cons_of_mem _ member
        · exact member
      · exact Or.inr shown
  · exact fun omits ν effect store =>
      flow.agree_of_omitsUseless final effect omits fun _ _ => rfl

end CellFlow

end Dxmt9.Dataflow
