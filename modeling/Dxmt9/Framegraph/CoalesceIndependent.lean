import Dxmt9.Framegraph.OptimizerSound
import Dxmt9.Framegraph.QueryRows

/-!
# Coalescing without its fast paths

The coalesced graph depends neither on the way reachability is answered nor
on what is reported.  Only the passes of the graph are ever asked about, so
two query functions that agree on them merge the same pairs.  A candidate
that is counted ends in exactly one of the counted outcomes.
-/

namespace Dxmt9.Framegraph

open Dxmt9.Order

/-- Equal answers for all passes of the graph. -/
def AgreeInside (count : Nat) (left right : Nat → Nat → Bool) : Prop :=
  ∀ source < count, ∀ target < count, left source target = right source target

variable {a b : Nat}

theorem classifyIntervening_congr {count : Nat}
    {left right : Nat → Nat → Bool} (agree : AgreeInside count left right)
    {x : Nat} (aInside : a < count) (bInside : b < count)
    (xInside : x < count) :
    classifyIntervening left a b x = classifyIntervening right a b x := by
  unfold classifyIntervening
  rw [agree a aInside x xInside, agree b bInside x xInside,
    agree x xInside a aInside, agree x xInside b bInside]

variable {graph : FrameGraph}

theorem scanIntervening_congr
    {left right : Nat → Nat → Bool}
    (agree : AgreeInside graph.passes.length left right) (collect : Bool) (aInside : a < graph.passes.length)
    (bInside : b < graph.passes.length) (scan : InterveningScan)
    (xs : List Nat) (inside : ∀ x ∈ xs, x < graph.passes.length) :
    scanIntervening left graph collect a b scan xs =
      scanIntervening right graph collect a b scan xs := by
  induction xs generalizing scan with
  | nil => rfl
  | cons x rest induction =>
      have moves := classifyIntervening_congr agree aInside bInside
        (inside x List.mem_cons_self)
      have later := fun scan => induction scan
        (fun y member => inside y (List.mem_cons_of_mem x member))
      simp only [scanIntervening, moves, later]

theorem coalesceDecision_congr
    {left right : Nat → Nat → Bool}
    (agree : AgreeInside graph.passes.length left right)
    (ordered : a < b) (inside : b < graph.passes.length) :
    coalesceDecision left graph a b = coalesceDecision right graph a b := by
  have scans := scanIntervening_congr agree false (ordered.trans inside)
    inside {} (interveners a b) (by
      intro x member
      simp only [interveners, List.mem_range'_1] at member
      omega)
  unfold coalesceDecision
  rw [scans]

theorem findSome?_congr {α β : Type*} {left right : α → Option β}
    (items : List α) (agree : ∀ item ∈ items, left item = right item) :
    items.findSome? left = items.findSome? right := by
  induction items with
  | nil => rfl
  | cons item rest induction =>
      rw [List.findSome?_cons, List.findSome?_cons,
        agree item List.mem_cons_self,
        induction fun other member =>
          agree other (List.mem_cons_of_mem item member)]

theorem mergeFixpoint_congr {left right : FrameGraph → Nat → Nat → Bool}
    (agree : ∀ graph : FrameGraph,
      AgreeInside graph.passes.length (left graph) (right graph))
    (guard : Nat) (graph : FrameGraph) :
    mergeFixpoint left guard graph = mergeFixpoint right guard graph := by
  have once : ∀ graph, mergeOnce left graph = mergeOnce right graph := by
    intro graph
    unfold mergeOnce
    apply findSome?_congr
    rintro ⟨a, b⟩ listed
    obtain ⟨ordered, inside⟩ := candidatePairs_bounds listed
    exact coalesceDecision_congr (agree graph) ordered inside
  induction guard generalizing graph with
  | zero => rfl
  | succ guard induction =>
      unfold mergeFixpoint
      rw [once graph]
      cases mergeOnce right graph with
      | none => rfl
      | some merged => exact induction merged

/-! ## Counted candidates -/

/-- The outcomes of counted candidates. -/
def returnOutcomes (stats : OptimizerStats) : Nat :=
  stats.passCoalesceReturnMerged + stats.passCoalesceReturnBlockedCycle +
    stats.passCoalesceReturnSecondNonDraw +
    stats.passCoalesceReturnNonRenderIntervener +
    stats.passCoalesceReturnMissingInvariant

/-- Candidates that have no outcome yet. -/
def undecided (stats : OptimizerStats) : Int :=
  stats.passCoalesceReturnCandidates - returnOutcomes stats

section Counters

variable (stats : OptimizerStats)

theorem undecided_countFailure (failure : InterveningFailure) :
    undecided (countFailure failure stats) = undecided stats - 1 := by
  cases failure <;>
    simp only [undecided, returnOutcomes, countFailure] <;> omega

theorem undecided_countInterveners (scan : InterveningScan) :
    undecided (countInterveners scan stats) = undecided stats :=
  rfl

theorem undecided_countCommandless :
    undecided (countCommandless stats) = undecided stats :=
  rfl

theorem undecided_countSecondNonDraw (collect activeSeed : Bool) :
    undecided (countSecondNonDraw collect activeSeed stats) =
      undecided stats - collect.toNat := by
  simp only [undecided, returnOutcomes, countSecondNonDraw]
  omega

theorem undecided_countRejected (collect activeSeed : Bool)
    (scan : InterveningScan) (failure : InterveningFailure) :
    undecided (countRejected collect activeSeed scan failure stats) =
      undecided stats - collect.toNat := by
  have collected : undecided
      (if collect then countFailure failure (countInterveners scan stats)
        else stats) = undecided stats - collect.toNat := by
    cases collect with
    | true =>
        exact (undecided_countFailure _ failure).trans
          (congrArg (· - 1) (undecided_countInterveners stats scan))
    | false => simp
  unfold countRejected
  simp only
  split
  · exact collected
  · exact collected

theorem undecided_countMerged (graph : FrameGraph)
    (collect activeSeed : Bool) (distance : Nat) (scan : InterveningScan) :
    undecided (countMerged graph collect activeSeed distance scan stats) =
      undecided stats - collect.toNat := by
  cases collect <;> cases activeSeed <;>
    simp [undecided, returnOutcomes, countMerged, countInterveners] <;> omega

end Counters

/-- What the counters of a report still owe an outcome. -/
def CoalesceReport.owes (report : CoalesceReport) : Option Int :=
  report.stats.map undecided

theorem owes_count (report : CoalesceReport)
    {update : OptimizerStats → OptimizerStats} {change : Int}
    (updates : ∀ stats, undecided (update stats) = undecided stats - change) :
    (report.count update).owes = report.owes.map (· - change) := by
  simp [CoalesceReport.owes, CoalesceReport.count, Function.comp_def, updates]

theorem beginReturnCandidate_owes (report : CoalesceReport) (a b : Nat) :
    (beginReturnCandidate report a b).2.owes =
        report.owes.map
          (· + ((beginReturnCandidate report a b).1.toNat : Int)) ∧
      ((beginReturnCandidate report a b).1 = true →
        (beginReturnCandidate report a b).2.tracker.isNone = false) := by
  have unchanged : report.owes = report.owes.map (· + ((0 : Nat) : Int)) := by
    cases report.owes <;> simp
  unfold beginReturnCandidate
  split
  · rename_i stats tracker collected tracked
    split
    · simp only [CoalesceReport.owes, Option.map_some, collected,
        Option.some.injEq, Option.isNone_some, implies_true, and_true]
      split <;> rename_i fresh
      · simp only [fresh, undecided, returnOutcomes, Bool.toNat_true]
        omega
      · simp [fresh]
    · exact ⟨unchanged, fun absurdly => nomatch absurdly⟩
  · exact ⟨unchanged, fun absurdly => nomatch absurdly⟩

section

variable (reach : Nat → Nat → Bool)
include reach

/-- A scanned candidate gets its outcome. -/
theorem coalesceScanned_owes (graph : FrameGraph)
    (collect : Bool) (a b : Nat) (report : CoalesceReport)
    (tracked : collect = true → report.tracker.isNone = false) :
    (coalesceScanned reach graph collect a b report).2.owes =
      report.owes.map (· - (collect.toNat : Int)) := by
  unfold coalesceScanned
  simp only
  split
  · rename_i skipped
    -- The skip needs the tracker to be absent.
    cases collect with
    | true =>
        rw [tracked rfl] at skipped
        simp at skipped
    | false => cases report.owes <;> simp
  · split
    · exact owes_count report fun stats =>
        undecided_countRejected stats collect _ _ _
    · simp only [reportMerge, CoalesceReport.owes, Option.map_map]
      congr 1
      funext stats
      exact undecided_countMerged stats graph collect _ _ _

theorem coalescePair_owes (graph : FrameGraph)
    (a b : Nat) (report : CoalesceReport) :
    (coalescePair reach graph a b report).2.owes = report.owes := by
  obtain ⟨begun, tracked⟩ := beginReturnCandidate_owes report a b
  unfold coalescePair coalesceMatching
  cases started : beginReturnCandidate report a b with
  | mk collect next =>
      rw [started] at begun tracked
      simp only at begun tracked ⊢
      -- Whatever bucket the candidate ends in, its debt is paid.
      have paid : next.owes.map (· - (collect.toNat : Int)) = report.owes := by
        rw [begun, Option.map_map]
        cases report.owes <;> simp
      split
      · split
        · rw [← paid]
          cases collect with
          | true =>
              exact owes_count next fun stats =>
                undecided_countFailure stats .missingInvariant
          | false => simp
        · have noted :
              (if collect && decide ((graph.pass b).commands.count = 0) then
                next.count countCommandless else next).owes = next.owes := by
            split
            · have same := owes_count next fun stats =>
                (undecided_countCommandless stats).trans (Int.sub_zero _).symm
              rw [same]
              cases next.owes <;> simp
            · rfl
          have stillTracked : collect = true →
              (if collect && decide ((graph.pass b).commands.count = 0) then
                next.count countCommandless else next).tracker.isNone =
                  false := by
            intro collecting
            have present := tracked collecting
            split
            · exact present
            · exact present
          split
          · rw [owes_count _ fun stats =>
              undecided_countSecondNonDraw stats collect _, noted, paid]
          · rw [coalesceScanned_owes reach graph collect a b _ stillTracked,
              noted, paid]
      · rfl

/-- No scan leaves a candidate without an outcome. -/
theorem coalesceFirst_owes (graph : FrameGraph)
    (pairs : List (Nat × Nat)) (report : CoalesceReport) :
    (coalesceFirst reach graph pairs report).2.owes = report.owes := by
  induction pairs generalizing report with
  | nil => rfl
  | cons pair rest induction =>
      have pairOwes := coalescePair_owes reach graph pair.1 pair.2 report
      unfold coalesceFirst
      cases tried : coalescePair reach graph pair.1 pair.2 report with
      | mk outcome next =>
          rw [tried] at pairOwes
          cases outcome with
          | some merged => exact pairOwes
          | none => exact (induction next).trans pairOwes

end

theorem coalesceFixpoint_owes (queries : FrameGraph → Nat → Nat → Bool)
    (guard : Nat) (graph : FrameGraph) (report : CoalesceReport) :
    (coalesceFixpoint queries guard graph report).2.owes = report.owes := by
  induction guard generalizing graph report with
  | zero => rfl
  | succ guard induction =>
      have onceOwes : (coalesceOnce queries graph report).2.owes =
          report.owes := coalesceFirst_owes _ _ _ _
      unfold coalesceFixpoint
      cases tried : coalesceOnce queries graph report with
      | mk outcome next =>
          rw [tried] at onceOwes
          cases outcome with
          | some merged => exact (induction merged next).trans onceOwes
          | none => exact onceOwes

/-- The debt of the counters is the same before and after coalescing. -/
theorem runPassCoalesce_owes (queries : FrameGraph → Nat → Nat → Bool)
    (graph : FrameGraph) (report : OptimizerReport) (collect : Bool) :
    (runPassCoalesce queries graph report collect).2.stats.map undecided =
      report.stats.map undecided :=
  coalesceFixpoint_owes queries graph.passes.length graph _

/--
Coalescing is independent of its fast paths and of diagnostics.

Whatever rows are kept, whatever was asked before each query, whether the
rows could be allocated and whatever is reported, the graph is the one of the
reference traversal without any report.  Counters that start without an
undecided candidate, in particular fresh ones, end without one.
-/
theorem runPassCoalesce_independent (graph : FrameGraph)
    (allocated : FrameGraph → Bool)
    (asked : FrameGraph → Nat → Nat → List (Nat × Nat))
    (report : OptimizerReport) (collect : Bool) :
    (runPassCoalesce GraphQueries.reaches graph report collect).1 =
        (runPassCoalesce reaches graph {} false).1 ∧
      (runPassCoalesce
          (fun current source target =>
            answerAfter current (allocated current)
              (asked current source target) source target)
          graph report collect).1 =
        (runPassCoalesce reaches graph {} false).1 ∧
      (runPassCoalesce reaches graph report collect).1 =
        (runPassCoalesce reaches graph {} false).1 ∧
      ∀ (queries : FrameGraph → Nat → Nat → Bool) (stats : OptimizerStats),
        report.stats = some stats →
          ∃ final,
            (runPassCoalesce queries graph report true).2.stats =
                some final ∧
              final.passCoalesceReturnCandidates + returnOutcomes stats =
                stats.passCoalesceReturnCandidates + returnOutcomes final := by
  refine ⟨?_, ?_, ?_, ?_⟩
  · rw [runPassCoalesce_fst, runPassCoalesce_fst,
      mergeFixpoint_congr fun current source sourceInside target inside =>
        graphQueries_reaches_eq current sourceInside inside]
  · rw [runPassCoalesce_fst, runPassCoalesce_fst,
      mergeFixpoint_congr fun current source sourceInside target inside =>
        answerAfter_eq current (allocated current) _ sourceInside inside]
  · rw [runPassCoalesce_fst, runPassCoalesce_fst]
  · intro queries stats collected
    have owed := runPassCoalesce_owes queries graph report true
    rw [collected, Option.map_some] at owed
    cases counted : (runPassCoalesce queries graph report true).2.stats with
    | none =>
        rw [counted] at owed
        contradiction
    | some final =>
        rw [counted, Option.map_some, Option.some.injEq] at owed
        refine ⟨final, rfl, ?_⟩
        simp only [undecided] at owed
        omega

end Dxmt9.Framegraph
