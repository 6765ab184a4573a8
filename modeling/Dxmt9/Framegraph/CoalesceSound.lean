import Dxmt9.Framegraph.MergePair
import Dxmt9.Framegraph.Optimizer

/-!
# Coalescing regroups the graph

A scan that succeeds establishes everything a merge needs, so each merge, and
by induction the whole fixpoint, regroups the graph.  The decision to merge a
pair never reads the report: neither the counters nor the diagnostics change
the resulting graph.
-/

namespace Dxmt9.Framegraph

open Relation
open Dxmt9.Order

/-- The part of a scan that decides. -/
def InterveningScan.decision (scan : InterveningScan) :
    List Nat × List Nat × Option InterveningFailure :=
  (scan.before, scan.after, scan.failure)

variable {reach : Nat → Nat → Bool} {graph : FrameGraph} {a b : Nat}

/-- Counting interveners does not influence the decision. -/
theorem scanIntervening_decision_congr {left right : Bool}
    {leftScan rightScan : InterveningScan} (xs : List Nat)
    (agree : leftScan.decision = rightScan.decision) :
    (scanIntervening reach graph left a b leftScan xs).decision =
      (scanIntervening reach graph right a b rightScan xs).decision := by
  have tallied : ∀ (collect : Bool) (scan : InterveningScan) pass,
      (scan.tally graph collect pass).decision = scan.decision := by
    intro collect scan pass
    cases collect <;> rfl
  induction xs generalizing leftScan rightScan with
  | nil => exact agree
  | cons x rest induction =>
      have agreeTallied :=
        ((tallied left leftScan (graph.pass x)).trans agree).trans
          (tallied right rightScan (graph.pass x)).symm
      simp only [InterveningScan.decision, Prod.mk.injEq] at agree agreeTallied
      unfold scanIntervening
      simp only
      split
      · simp [InterveningScan.decision, InterveningScan.fail, agree]
      · split
        · simp [InterveningScan.decision, InterveningScan.fail, agree]
        · split
          · simp [InterveningScan.decision, InterveningScan.fail, agreeTallied]
          · apply induction
            simp [InterveningScan.decision, InterveningScan.pushBefore,
              agreeTallied]
          · apply induction
            simp [InterveningScan.decision, InterveningScan.pushAfter,
              agreeTallied]

/-- What a successful scan says about the positions it visited. -/
structure ScanSucceeded (reach : Nat → Nat → Bool) (graph : FrameGraph)
    (a b : Nat) (xs before after : List Nat) : Prop where
  before_eq : before =
    xs.filter fun x => classifyIntervening reach a b x = .before
  after_eq : after =
    xs.filter fun x => classifyIntervening reach a b x = .after
  notBlocked : ∀ x ∈ xs, classifyIntervening reach a b x ≠ .blocked
  live : ∀ x ∈ xs, mergeable (graph.pass x) = true ∧
    validRanges graph (graph.pass x) = true

theorem scanIntervening_succeeded (xs : List Nat) (scan : InterveningScan)
    (success :
      (scanIntervening reach graph false a b scan xs).failure = none) :
    ∃ before after,
      ScanSucceeded reach graph a b xs before after ∧
      (scanIntervening reach graph false a b scan xs).before =
        scan.before ++ before ∧
      (scanIntervening reach graph false a b scan xs).after =
        scan.after ++ after := by
  induction xs generalizing scan with
  | nil =>
      exact ⟨[], [], ⟨rfl, rfl, by simp, by simp⟩, by simp [scanIntervening],
        by simp [scanIntervening]⟩
  | cons x rest induction =>
      unfold scanIntervening at success ⊢
      simp only at success ⊢
      split at success
      · simp [InterveningScan.fail] at success
      · rename_i isRender
        rw [if_neg isRender]
        split at success
        · simp [InterveningScan.fail] at success
        · rename_i intact
          rw [if_neg intact]
          have render : (graph.pass x).kind = .render := by
            simpa using isRender
          have xLive : mergeable (graph.pass x) = true ∧
              validRanges graph (graph.pass x) = true := by
            simp only [Bool.or_eq_true, Bool.not_eq_true', not_or,
              Bool.not_eq_true, Bool.not_eq_false] at intact
            simp [mergeable, render, intact]
          split at success <;> rename_i move
          · simp [InterveningScan.fail] at success
          · obtain ⟨before, after, rest', beforeEq, afterEq⟩ :=
              induction _ success
            refine ⟨x :: before, after, ⟨?_, ?_, ?_, ?_⟩, ?_, ?_⟩
            · simp [move, ← rest'.before_eq]
            · simp [move, ← rest'.after_eq]
            · simpa [move] using rest'.notBlocked
            · simpa [xLive] using rest'.live
            · rw [beforeEq]
              simp [InterveningScan.pushBefore, InterveningScan.tally]
            · rw [afterEq]
              simp [InterveningScan.pushBefore, InterveningScan.tally]
          · obtain ⟨before, after, rest', beforeEq, afterEq⟩ :=
              induction _ success
            refine ⟨before, x :: after, ⟨?_, ?_, ?_, ?_⟩, ?_, ?_⟩
            · simp [move, ← rest'.before_eq]
            · simp [move, ← rest'.after_eq]
            · simpa [move] using rest'.notBlocked
            · simpa [xLive] using rest'.live
            · rw [beforeEq]
              simp [InterveningScan.pushAfter, InterveningScan.tally]
            · rw [afterEq]
              simp [InterveningScan.pushAfter, InterveningScan.tally]

variable {x : Nat}

theorem classify_eq_before
    (move : classifyIntervening reach a b x = .before) :
    (reach a x = false ∧ reach b x = false) ∧
      (reach x a = true ∨ reach x b = true) := by
  revert move
  unfold classifyIntervening
  cases reach a x <;> cases reach b x <;> cases reach x a <;>
    cases reach x b <;> decide

theorem classify_eq_after
    (move : classifyIntervening reach a b x = .after) :
    reach x a = false ∧ reach x b = false := by
  revert move
  unfold classifyIntervening
  cases reach a x <;> cases reach b x <;> cases reach x a <;>
    cases reach x b <;> decide

variable {queries : FrameGraph → Nat → Nat → Bool}

theorem ScanSucceeded.movers
    (answers : AnswersPaths queries)
    (edges : graph.EdgesForward) (ordered : a < b)
    (inside : b < graph.passes.length) {before after : List Nat}
    (scan : ScanSucceeded (queries graph) graph a b (interveners a b)
      before after) :
    Movers graph.DependsStep a b before after := by
  have path : ∀ {source}, source < graph.passes.length → ∀ target,
      queries graph source target = true ↔
        ReflTransGen graph.DependsStep source target :=
    fun sourceInside target => answers graph edges _ sourceInside target
  have noPath : ∀ {source}, source < graph.passes.length → ∀ {target},
      queries graph source target = false →
        ¬ ReflTransGen graph.DependsStep source target := by
    intro source sourceInside target answer reached
    rw [(path sourceInside target).mpr reached] at answer
    contradiction
  have inBetween : ∀ {x}, x ∈ interveners a b → a < x ∧ x < b := by
    intro x member
    simp only [interveners, List.mem_range'_1] at member
    omega
  refine
    { split := ?_
      beforeSorted := ?_
      afterSorted := ?_
      beforeFree := ?_
      beforeFeeds := ?_
      afterFree := ?_ }
  · have complement : after = (interveners a b).filter fun x =>
        !decide (classifyIntervening (queries graph) a b x = .before) := by
      rw [scan.after_eq]
      refine List.filter_congr fun x member => ?_
      have notBlocked := scan.notBlocked x member
      cases move : classifyIntervening (queries graph) a b x <;> simp_all
    rw [scan.before_eq, complement]
    exact List.filter_append_perm _ _
  · rw [scan.before_eq]
    exact List.Pairwise.filter _ List.pairwise_lt_range'
  · rw [scan.after_eq]
    exact List.Pairwise.filter _ List.pairwise_lt_range'
  · intro x member
    rw [scan.before_eq, List.mem_filter, decide_eq_true_eq] at member
    obtain ⟨⟨noFirst, noSecond⟩, _⟩ := classify_eq_before member.2
    exact ⟨noPath (ordered.trans inside) noFirst, noPath inside noSecond⟩
  · intro x member
    rw [scan.before_eq, List.mem_filter, decide_eq_true_eq] at member
    have bounds := inBetween member.1
    obtain ⟨_, feeds⟩ := classify_eq_before member.2
    have xInside := bounds.2.trans inside
    exact feeds.imp (path xInside a).mp (path xInside b).mp
  · intro x member
    rw [scan.after_eq, List.mem_filter, decide_eq_true_eq] at member
    have bounds := inBetween member.1
    obtain ⟨noFirst, noSecond⟩ := classify_eq_after member.2
    have xInside := bounds.2.trans inside
    exact ⟨noPath xInside noFirst, noPath xInside noSecond⟩

/-! ## The decision behind one pair -/

/-- The pair may merge as far as the two passes themselves can tell. -/
def pairQualifies (graph : FrameGraph) (a b : Nat) : Bool :=
  mergeable (graph.pass a) && mergeable (graph.pass b) &&
    decide ((graph.pass a).targets = (graph.pass b).targets) &&
    validRanges graph (graph.pass a) && drawOnly graph (graph.pass b)

/-- The graph that trying one pair leaves, without any reporting. -/
def coalesceDecision (reach : Nat → Nat → Bool) (graph : FrameGraph)
    (a b : Nat) : Option FrameGraph :=
  if pairQualifies graph a b then
    let scan := scanIntervening reach graph false a b {} (interveners a b)
    match scan.failure with
    | some _ => none
    | none => some (mergePair graph a b scan.before scan.after)
  else none

/-- Between two equal boundary counts every pass is live and intact. -/
theorem hardBoundaries_eq
    (ordered : a < b) (inside : b < graph.passes.length)
    (live : ∀ x ∈ interveners a b, mergeable (graph.pass x) = true ∧
      validRanges graph (graph.pass x) = true) :
    hardBoundaries graph b = hardBoundaries graph (a + 1) := by
  have split : graph.passes.take b = graph.passes.take (a + 1) ++
        (interveners a b).map graph.pass := by
    apply List.ext_getElem
    · simp [interveners]
      omega
    · intro index left right
      simp only [List.length_take] at left
      by_cases low : index < a + 1
      · have bound : index < graph.passes.length := by omega
        rw [List.getElem_append_left (by simp; omega)]
        simp
      · rw [List.getElem_append_right (by simp; omega)]
        have bound : index < graph.passes.length := by omega
        have position : a + 1 + (index - (a + 1)) = index := by omega
        have taken : min (a + 1) graph.passes.length = a + 1 := by omega
        simp [interveners, FrameGraph.pass, taken, position, bound]
  unfold hardBoundaries
  rw [split, List.countP_append, Nat.add_eq_left, List.countP_eq_zero]
  intro pass member
  obtain ⟨x, listed, rfl⟩ := List.mem_map.mp member
  obtain ⟨liveRender, valid⟩ := live x listed
  simp only [mergeable, Bool.and_eq_true, decide_eq_true_eq,
    Bool.not_eq_true'] at liveRender
  simp [liveRender, valid]

/-- The scan decides alike whether or not the candidate is counted. -/
theorem scanIntervening_collect (reach : Nat → Nat → Bool)
    (graph : FrameGraph) (a b : Nat) (collect : Bool) :
    (scanIntervening reach graph collect a b {}
        (interveners a b)).decision =
      (scanIntervening reach graph false a b {}
        (interveners a b)).decision :=
  scanIntervening_decision_congr _ rfl

/-- Reporting never changes the outcome of an admissible pair. -/
theorem coalesceScanned_fst (ordered : a < b)
    (inside : b < graph.passes.length) (collect : Bool)
    (report : CoalesceReport)
    (qualified : pairQualifies graph a b = true) :
    (coalesceScanned reach graph collect a b report).1 =
      coalesceDecision reach graph a b := by
  have same := scanIntervening_collect reach graph a b collect
  simp only [InterveningScan.decision, Prod.mk.injEq] at same
  obtain ⟨beforeEq, afterEq, failureEq⟩ := same
  unfold coalesceScanned coalesceDecision
  rw [if_pos qualified]
  simp only
  cases outcome : (scanIntervening reach graph false a b {}
      (interveners a b)).failure with
  | some failure =>
      rw [failureEq, outcome]
      split <;> rfl
  | none =>
      -- All interveners are live, so the prefix counts agree.
      obtain ⟨_, _, succeeded, _⟩ := scanIntervening_succeeded _ _ outcome
      have equal := hardBoundaries_eq ordered inside succeeded.live
      rw [failureEq, outcome, beforeEq, afterEq]
      simp [equal]

/-- Reporting never changes what happens to a pair. -/
theorem coalescePair_fst (reach : Nat → Nat → Bool) (ordered : a < b) (inside : b < graph.passes.length)
    (report : CoalesceReport) :
    (coalescePair reach graph a b report).1 =
      coalesceDecision reach graph a b := by
  by_cases qualified : pairQualifies graph a b = true
  · have parts := qualified
    simp only [pairQualifies, Bool.and_eq_true, decide_eq_true_eq] at parts
    obtain ⟨⟨⟨⟨aLive, bLive⟩, targets⟩, aValid⟩, drawn⟩ := parts
    have bValid : validRanges graph (graph.pass b) = true := by
      simp only [drawOnly, Bool.and_eq_true] at drawn
      exact drawn.1
    simp only [coalescePair, coalesceMatching, aLive, bLive, targets,
      aValid, bValid, drawn, Bool.and_self, decide_true, if_true,
      Bool.not_true, Bool.or_self, Bool.false_eq_true, if_false]
    exact coalesceScanned_fst ordered inside _ _ qualified
  · have rejected : coalesceDecision reach graph a b = none := by
      simp [coalesceDecision, qualified]
    rw [rejected]
    simp only [pairQualifies, Bool.and_eq_true, decide_eq_true_eq] at qualified
    unfold coalescePair
    simp only
    split
    · rename_i header
      simp only [Bool.and_eq_true, decide_eq_true_eq] at header
      unfold coalesceMatching
      simp only
      split
      · rfl
      · rename_i valid
        simp only [Bool.or_eq_true, Bool.not_eq_true', not_or,
          Bool.not_eq_false] at valid
        split
        · rfl
        · rename_i drawn
          simp only [Bool.not_eq_true', Bool.not_eq_false] at drawn
          exact absurd ⟨⟨header, valid.1⟩, drawn⟩ qualified
    · rfl

theorem candidatePairs_bounds {count : Nat}
    (member : (a, b) ∈ candidatePairs count) : a < b ∧ b < count := by
  simp only [candidatePairs, List.mem_flatMap, List.mem_range, List.mem_map,
    List.mem_range'_1, Prod.mk.injEq] at member
  obtain ⟨first, _, second, _, rfl, rfl⟩ := member
  omega

theorem coalesceFirst_fst
    (pairs : List (Nat × Nat))
    (bounds : ∀ pair ∈ pairs,
      pair.1 < pair.2 ∧ pair.2 < graph.passes.length)
    (report : CoalesceReport) :
    (coalesceFirst reach graph pairs report).1 =
      pairs.findSome? fun pair =>
        coalesceDecision reach graph pair.1 pair.2 := by
  induction pairs generalizing report with
  | nil => rfl
  | cons pair rest induction =>
      obtain ⟨ordered, inside⟩ := bounds pair List.mem_cons_self
      have first := coalescePair_fst reach ordered inside report
      rw [List.findSome?_cons, ← first]
      unfold coalesceFirst
      cases tried : coalescePair reach graph pair.1 pair.2 report with
      | mk outcome next =>
          cases outcome with
          | some merged => simp
          | none =>
              simp only
              exact induction (fun other member => bounds other
                  (List.mem_cons_of_mem pair member)) next

/-- One step of the fixpoint without reporting. -/
def mergeOnce (queries : FrameGraph → Nat → Nat → Bool)
    (graph : FrameGraph) : Option FrameGraph :=
  (candidatePairs graph.passes.length).findSome? fun pair =>
    coalesceDecision (queries graph) graph pair.1 pair.2

/-- The fixpoint without reporting. -/
def mergeFixpoint (queries : FrameGraph → Nat → Nat → Bool) :
    Nat → FrameGraph → FrameGraph
  | 0, graph => graph
  | guard + 1, graph =>
      match mergeOnce queries graph with
      | some merged => mergeFixpoint queries guard merged
      | none => graph

theorem coalesceOnce_fst (queries : FrameGraph → Nat → Nat → Bool)
    (graph : FrameGraph) (report : CoalesceReport) :
    (coalesceOnce queries graph report).1 = mergeOnce queries graph :=
  coalesceFirst_fst _ (fun _ member => candidatePairs_bounds member) report

/-- Diagnostics and counters never change the coalesced graph. -/
theorem coalesceFixpoint_fst (queries : FrameGraph → Nat → Nat → Bool)
    (guard : Nat) (graph : FrameGraph) (report : CoalesceReport) :
    (coalesceFixpoint queries guard graph report).1 =
      mergeFixpoint queries guard graph := by
  induction guard generalizing graph report with
  | zero => rfl
  | succ guard induction =>
      have once := coalesceOnce_fst queries graph report
      unfold coalesceFixpoint mergeFixpoint
      cases tried : coalesceOnce queries graph report with
      | mk outcome next =>
          rw [tried] at once
          simp only at once
          rw [← once]
          cases outcome with
          | some merged => exact induction merged next
          | none => rfl

theorem pairQualifies_alike
    (qualified : pairQualifies graph a b = true) :
    (graph.pass b).mergeKey = (graph.pass a).mergeKey := by
  simp only [pairQualifies, mergeable, Bool.and_eq_true,
    decide_eq_true_eq, Bool.not_eq_true'] at qualified
  rcases qualified with ⟨⟨⟨⟨⟨aKind, aLive⟩, bKind, bLive⟩, targets⟩, _⟩, _⟩
  simp only [PassNode.mergeKey, aKind, bKind, aLive, bLive, targets]

variable {merged : FrameGraph}

section

variable (answers : AnswersPaths queries)
include answers

theorem coalesceDecision_plan
    (edges : graph.EdgesForward) (ordered : a < b)
    (inside : b < graph.passes.length)
    (decided : coalesceDecision (queries graph) graph a b = some merged) :
    pairQualifies graph a b = true ∧ ∃ before after,
      MergePlan graph a b before after ∧
        merged = mergePair graph a b before after ∧
        ∀ x ∈ interveners a b, mergeable (graph.pass x) = true := by
  unfold coalesceDecision at decided
  split at decided
  swap
  · contradiction
  rename_i qualified
  refine ⟨qualified, ?_⟩
  simp only at decided
  split at decided
  · contradiction
  · rename_i success
    obtain ⟨before, after, succeeded, beforeEq, afterEq⟩ :=
      scanIntervening_succeeded _ _ success
    rw [List.nil_append] at beforeEq afterEq
    refine ⟨before, after, ⟨ordered, inside, pairQualifies_alike qualified,
        succeeded.movers answers edges ordered inside⟩, ?_,
      fun x member => (succeeded.live x member).1⟩
    rw [beforeEq, afterEq] at decided
    exact (Option.some.inj decided).symm

theorem mergeOnce_plan (edges : graph.EdgesForward)
    (once : mergeOnce queries graph = some merged) :
    ∃ a b before after, pairQualifies graph a b = true ∧
      MergePlan graph a b before after ∧
        merged = mergePair graph a b before after := by
  obtain ⟨⟨a, b⟩, listed, decided⟩ := List.exists_of_findSome?_eq_some once
  obtain ⟨ordered, inside⟩ := candidatePairs_bounds listed
  obtain ⟨qualified, before, after, plan, equal, _⟩ :=
    coalesceDecision_plan answers edges ordered inside decided
  exact ⟨a, b, before, after, qualified, plan, equal⟩

theorem mergeFixpoint_regrouped (guard : Nat) (graph : FrameGraph)
    (wellFormed : graph.WellFormed) :
    ∃ classes, graph.Regrouped classes
      (mergeFixpoint queries guard graph) := by
  induction guard generalizing graph with
  | zero => exact ⟨_, wellFormed.regrouped_self⟩
  | succ guard induction =>
      unfold mergeFixpoint
      cases once : mergeOnce queries graph with
      | none => exact ⟨_, wellFormed.regrouped_self⟩
      | some merged =>
          obtain ⟨a, b, before, after, _, plan, rfl⟩ :=
            mergeOnce_plan answers wellFormed.toEdgesForward once
          have step := plan.regrouped wellFormed
          obtain ⟨classes, rest⟩ := induction _ (step.wellFormed wellFormed)
          exact ⟨_, step.comp rest wellFormed⟩

end

end Dxmt9.Framegraph
