import Mathlib.Data.Finset.Card
import Mathlib.Data.Finset.Lattice.Lemmas
import Mathlib.Logic.Relation

/-!
# Worklist reachability

A depth-first worklist over an arbitrary successor function.  A node is
pushed at most once, when it is first marked, so a search whose fuel bounds
the number of admissible nodes visits everything reachable.  The search may
stop early at a target.
-/

namespace Dxmt9.Order

open Relation

/-- Marked nodes and the nodes still to be expanded. -/
structure Worklist (ν : Type*) where
  seen : List ν
  stack : List ν

namespace Worklist

variable {ν : Type*} [DecidableEq ν]

/-- Only the source is marked and waits for expansion. -/
def start (source : ν) : Worklist ν :=
  { seen := [source], stack := [source] }

/-- Mark and push an admissible node on its first visit. -/
def visit (admits : ν → Bool) (state : Worklist ν) (node : ν) :
    Worklist ν :=
  if admits node && !state.seen.contains node then
    { seen := node :: state.seen, stack := node :: state.stack }
  else state

/-- Scan successors in order; `none` when a target is met. -/
def scan (admits stop : ν → Bool) (state : Worklist ν) :
    List ν → Option (Worklist ν)
  | [] => some state
  | node :: rest =>
      if stop node then none
      else scan admits stop (state.visit admits node) rest

/-- Expand at most `fuel` nodes; `none` when a target is met. -/
def search (succ : ν → List ν) (admits stop : ν → Bool) :
    Nat → Worklist ν → Option (Worklist ν)
  | 0, state => some state
  | fuel + 1, state =>
      match state.stack with
      | [] => some state
      | current :: rest =>
          match scan admits stop { state with stack := rest }
              (succ current) with
          | none => none
          | some next => search succ admits stop fuel next

/-- One step to an admissible successor. -/
def Admissible (succ : ν → List ν) (admits : ν → Bool) (source target : ν) :
    Prop :=
  target ∈ succ source ∧ admits target = true

variable {succ : ν → List ν} {admits stop : ν → Bool}

theorem mem_visit_seen (state : Worklist ν) (node member : ν) :
    member ∈ (state.visit admits node).seen ↔
      member ∈ state.seen ∨ (member = node ∧ admits node = true) := by
  unfold visit
  split <;> rename_i admitted
  · simp only [Bool.and_eq_true] at admitted
    simp only [List.mem_cons]
    tauto
  · simp only [Bool.and_eq_true, Bool.not_eq_true', not_and,
      Bool.not_eq_false, List.contains_iff_mem] at admitted
    constructor
    · exact Or.inl
    · rintro (marked | ⟨rfl, admissible⟩)
      · exact marked
      · exact admitted admissible

theorem mem_visit_stack (state : Worklist ν) (node member : ν) :
    member ∈ (state.visit admits node).stack ↔
      member ∈ state.stack ∨
        (member = node ∧ admits node = true ∧ node ∉ state.seen) := by
  unfold visit
  split <;> rename_i admitted
  · simp only [Bool.and_eq_true, Bool.not_eq_true',
      List.contains_eq_mem, decide_eq_false_iff_not] at admitted
    simp only [List.mem_cons]
    tauto
  · simp only [Bool.and_eq_true, Bool.not_eq_true',
      List.contains_eq_mem, decide_eq_false_iff_not] at admitted
    constructor
    · exact Or.inl
    · rintro (waiting | ⟨rfl, admissible, fresh⟩)
      · exact waiting
      · exact absurd ⟨admissible, fresh⟩ admitted

theorem scan_eq_none_iff (admits stop : ν → Bool) (state : Worklist ν)
    (nodes : List ν) :
    scan admits stop state nodes = none ↔
      ∃ node ∈ nodes, stop node = true := by
  induction nodes generalizing state with
  | nil => simp [scan]
  | cons node rest induction =>
      by_cases target : stop node = true
      · simp [scan, target]
      · simp [scan, target, induction]

variable {state next : Worklist ν}

theorem mem_scan_seen {nodes : List ν}
    (scanned : scan admits stop state nodes = some next) (member : ν) :
    member ∈ next.seen ↔
      member ∈ state.seen ∨ (member ∈ nodes ∧ admits member = true) := by
  induction nodes generalizing state with
  | nil =>
      simp only [scan, Option.some.injEq] at scanned
      simp [scanned]
  | cons node rest induction =>
      simp only [scan] at scanned
      split at scanned
      · contradiction
      · rw [induction scanned, mem_visit_seen, List.mem_cons]
        constructor
        · rintro ((marked | ⟨rfl, admissible⟩) | ⟨later, admissible⟩)
          · exact Or.inl marked
          · exact Or.inr ⟨Or.inl rfl, admissible⟩
          · exact Or.inr ⟨Or.inr later, admissible⟩
        · rintro (marked | ⟨rfl | later, admissible⟩)
          · exact Or.inl (Or.inl marked)
          · exact Or.inl (Or.inr ⟨rfl, admissible⟩)
          · exact Or.inr ⟨later, admissible⟩

variable {member : ν}

theorem scan_keeps_stack {nodes : List ν}
    (scanned : scan admits stop state nodes = some next) (waiting : member ∈ state.stack) :
    member ∈ next.stack := by
  induction nodes generalizing state with
  | nil =>
      simp only [scan, Option.some.injEq] at scanned
      exact scanned ▸ waiting
  | cons node rest induction =>
      simp only [scan] at scanned
      split at scanned
      · contradiction
      · exact induction scanned
          ((mem_visit_stack state node member).mpr (Or.inl waiting))

/-- Whatever a scan marks for the first time, it also pushes. -/
theorem scan_pushes {nodes : List ν}
    (scanned : scan admits stop state nodes = some next) (marked : member ∈ next.seen)
    (fresh : member ∉ state.seen) : member ∈ next.stack := by
  induction nodes generalizing state with
  | nil =>
      simp only [scan, Option.some.injEq] at scanned
      exact absurd (scanned ▸ marked) fresh
  | cons node rest induction =>
      simp only [scan] at scanned
      split at scanned
      · contradiction
      · by_cases visited : member ∈ (state.visit admits node).seen
        · refine scan_keeps_stack scanned ?_
          rw [mem_visit_seen] at visited
          rw [mem_visit_stack]
          rcases visited with old | ⟨rfl, admissible⟩
          · exact absurd old fresh
          · exact Or.inr ⟨rfl, admissible, fresh⟩
        · exact induction scanned visited

/-- Unmarked nodes of the universe plus the nodes still to expand. -/
def pending (nodes : Finset ν) (state : Worklist ν) : Nat :=
  (nodes.filter (· ∉ state.seen)).card + state.stack.length

theorem pending_visit_le (nodes : Finset ν) (state : Worklist ν)
    (node : ν) (inside : admits node = true → node ∈ nodes) :
    pending nodes (state.visit admits node) ≤ pending nodes state := by
  unfold visit
  split <;> rename_i admitted
  · simp only [Bool.and_eq_true, Bool.not_eq_true',
      List.contains_eq_mem, decide_eq_false_iff_not] at admitted
    have shrinks : (nodes.filter (· ∉ node :: state.seen)).card <
          (nodes.filter (· ∉ state.seen)).card := by
      apply Finset.card_lt_card
      refine Finset.ssubset_iff_subset_ne.mpr ⟨?_, ?_⟩
      · intro member
        simp only [Finset.mem_filter, List.mem_cons, not_or]
        exact fun kept => ⟨kept.1, kept.2.2⟩
      · intro equal
        have unmarked : node ∈ nodes.filter (· ∉ state.seen) :=
          Finset.mem_filter.mpr ⟨inside admitted.1, admitted.2⟩
        rw [← equal] at unmarked
        simp at unmarked
    simp only [pending, List.length_cons]
    omega
  · exact le_rfl

theorem pending_scan_le (nodes : Finset ν)
    {successors : List ν}
    (inside : ∀ node ∈ successors, admits node = true → node ∈ nodes)
    (scanned : scan admits stop state successors = some next) :
    pending nodes next ≤ pending nodes state := by
  induction successors generalizing state with
  | nil =>
      simp only [scan, Option.some.injEq] at scanned
      exact scanned ▸ le_rfl
  | cons node rest induction =>
      simp only [scan] at scanned
      split at scanned
      · contradiction
      · exact (induction (fun member listed => inside member
            (List.mem_cons_of_mem node listed)) scanned).trans
          (pending_visit_le nodes state node (inside node List.mem_cons_self))

variable {source : ν}

/-- Starting inside the universe, its size bounds the pending work. -/
theorem pending_start_le {nodes : Finset ν}
    (inside : source ∈ nodes) :
    pending nodes (start source) ≤ nodes.card := by
  have smaller :
      (nodes.filter (· ∉ (start source).seen)).card < nodes.card := by
    apply Finset.card_lt_card
    refine ⟨Finset.filter_subset _ _, fun whole => ?_⟩
    have kept := whole inside
    simp [start] at kept
  unfold pending
  simp only [start, List.length_singleton] at smaller ⊢
  omega

/--
Marked nodes are reachable, and a marked node that no longer waits has no
target and no unmarked admissible node among its successors.
-/
structure Explored (succ : ν → List ν) (admits stop : ν → Bool)
    (source : ν) (state : Worklist ν) : Prop where
  reachable : ∀ node ∈ state.seen,
    ReflTransGen (Admissible succ admits) source node
  source_seen : source ∈ state.seen
  stack_seen : ∀ node ∈ state.stack, node ∈ state.seen
  expanded : ∀ node ∈ state.seen, node ∈ state.stack ∨
    ∀ next ∈ succ node,
      stop next = false ∧ (admits next = true → next ∈ state.seen)

omit [DecidableEq ν] in
theorem explored_start (source : ν) :
    Explored succ admits stop source (start source) where
  reachable node member := by
    rw [List.mem_singleton.mp member]
  source_seen := List.mem_singleton_self source
  stack_seen _ member := member
  expanded _ member := Or.inl member

/-- Expanding the top of the stack keeps the invariant. -/
theorem Explored.scan {current : ν} {rest : List ν}
    (explored : Explored succ admits stop source state)
    (top : state.stack = current :: rest)
    (scanned : scan admits stop { state with stack := rest }
      (succ current) = some next) :
    Explored succ admits stop source next where
  reachable node member := by
    rcases (mem_scan_seen scanned node).mp member with
      old | ⟨successor, admissible⟩
    · exact explored.reachable node old
    · have currentSeen :=
        explored.stack_seen current (top ▸ List.mem_cons_self)
      exact (explored.reachable current currentSeen).tail
        ⟨successor, admissible⟩
  source_seen :=
    (mem_scan_seen scanned source).mpr (Or.inl explored.source_seen)
  stack_seen := by
    intro node waiting
    have stays := scan_stack_seen scanned (fun member inside =>
      explored.stack_seen member (top ▸ List.mem_cons_of_mem _ inside))
    exact stays node waiting
  expanded node member := by
    by_cases fresh : node ∈ state.seen
    · have noTarget : ∀ next ∈ succ current, stop next = false := by
        intro successor inside
        by_contra target
        have blocked :=
          (scan_eq_none_iff admits stop
            { state with stack := rest } (succ current)).mpr
              ⟨successor, inside, by simpa using target⟩
        rw [blocked] at scanned
        contradiction
      by_cases isCurrent : node = current
      · right
        subst isCurrent
        intro successor inside
        exact ⟨noTarget successor inside, fun admissible =>
          (mem_scan_seen scanned successor).mpr (Or.inr ⟨inside, admissible⟩)⟩
      · rcases explored.expanded node fresh with waiting | done
        · left
          rw [top, List.mem_cons] at waiting
          exact scan_keeps_stack scanned (waiting.resolve_left isCurrent)
        · right
          intro successor inside
          exact ⟨(done successor inside).1, fun admissible =>
            (mem_scan_seen scanned successor).mpr
              (Or.inl ((done successor inside).2 admissible))⟩
    · exact Or.inl (scan_pushes scanned member fresh)
where
  scan_stack_seen {state next : Worklist ν} {nodes : List ν}
      (scanned : Worklist.scan admits stop state nodes = some next)
      (kept : ∀ node ∈ state.stack, node ∈ state.seen) :
      ∀ node ∈ next.stack, node ∈ next.seen := by
    induction nodes generalizing state with
    | nil =>
        simp only [Worklist.scan, Option.some.injEq] at scanned
        exact scanned ▸ kept
    | cons node rest induction =>
        simp only [Worklist.scan] at scanned
        split at scanned
        · contradiction
        · refine induction scanned ?_
          intro member waiting
          rw [mem_visit_stack] at waiting
          rw [mem_visit_seen]
          rcases waiting with old | ⟨equal, admissible, _⟩
          · exact Or.inl (kept member old)
          · exact Or.inr ⟨equal, admissible⟩

/-- A search that ends leaves nothing waiting; one that stops met a target. -/
def Settled (succ : ν → List ν) (admits stop : ν → Bool) (source : ν) :
    Option (Worklist ν) → Prop
  | some final =>
      Explored succ admits stop source final ∧ final.stack = []
  | none =>
      ∃ node target,
        ReflTransGen (Admissible succ admits) source node ∧
          target ∈ succ node ∧ stop target = true

/-- With enough fuel every search settles. -/
theorem search_settled (nodes : Finset ν)
    (inside : ∀ node, ∀ next ∈ succ node, admits next = true → next ∈ nodes)
    (fuel : Nat) (state : Worklist ν)
    (explored : Explored succ admits stop source state)
    (enough : pending nodes state ≤ fuel) :
    Settled succ admits stop source
      (search succ admits stop fuel state) := by
  induction fuel generalizing state with
  | zero =>
      have empty : state.stack = [] := by
        apply List.eq_nil_of_length_eq_zero
        unfold pending at enough
        omega
      exact ⟨explored, empty⟩
  | succ fuel induction =>
      cases top : state.stack with
      | nil =>
          simp only [search, top]
          exact ⟨explored, top⟩
      | cons current rest =>
          simp only [search, top]
          cases scanned : Worklist.scan admits stop
              { state with stack := rest } (succ current) with
          | none =>
              obtain ⟨target, successor, stops⟩ :=
                (scan_eq_none_iff _ _ _ _).mp scanned
              exact ⟨current, target, explored.reachable current
                  (explored.stack_seen current (top ▸ List.mem_cons_self)),
                successor, stops⟩
          | some next =>
              refine induction next (explored.scan top scanned) ?_
              have shrinks := pending_scan_le nodes (inside current) scanned
              unfold pending at shrinks enough ⊢
              simp only [top, List.length_cons] at enough
              simp only at shrinks
              omega

omit [DecidableEq ν] in
/-- Nothing outside the marked nodes is reachable once nothing waits. -/
theorem Explored.reachable_seen
    (explored : Explored succ admits stop source state)
    (finished : state.stack = []) {node : ν}
    (path : ReflTransGen (Admissible succ admits) source node) :
    node ∈ state.seen := by
  induction path with
  | refl => exact explored.source_seen
  | tail _ step seen =>
      rcases explored.expanded _ seen with waiting | done
      · simp [finished] at waiting
      · exact (done _ step.1).2 step.2

end Worklist

end Dxmt9.Order
