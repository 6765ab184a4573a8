import Dxmt9.Framegraph.Regrouped
import Dxmt9.Table.PackedRows

/-!
# Cached reachability rows

The `GraphQueries` of `fg_optimizer/passcoalesce.cpp` as they are stored: a
compressed adjacency table, one bit row for each pass and a mark for the rows
already filled.  Rows are filled on demand, in the order of the queries.
Whatever was asked before, an answer is the answer of the reference
traversal; the same holds when the rows were not allocated.
-/

namespace Dxmt9.Framegraph

open Relation
open Dxmt9.Order Dxmt9.Table

/-! ## The stored rows -/

/-- Key and value of each edge that the adjacency table keeps. -/
def adjacencyEntries (graph : FrameGraph) : List (Nat × Nat) :=
  (boundedEdges graph).map fun edge => (edge.srcPass, edge.dstPass)

structure QueryRows where
  adjacent : CompressedRows Nat
  rows : List BitRow
  ready : List Bool

/-- A row being filled and the passes that wait for expansion. -/
structure RowFill where
  row : BitRow
  stack : List Nat

/-- Mark and push a pass on its first visit. -/
def RowFill.visit (fill : RowFill) (target : Nat) : RowFill :=
  if fill.row.test target then fill
  else { row := fill.row.mark target, stack := target :: fill.stack }

/-- Expand the stack; every pass is pushed at most once. -/
def fillRow (adjacent : CompressedRows Nat) : Nat → RowFill → BitRow
  | 0, fill => fill.row
  | fuel + 1, fill =>
      match fill.stack with
      | [] => fill.row
      | current :: rest =>
          fillRow adjacent fuel
            ((adjacent.row current).foldl RowFill.visit
              { fill with stack := rest })

namespace QueryRows

/-- Nothing is filled yet. -/
def make (graph : FrameGraph) : QueryRows where
  adjacent := CompressedRows.build graph.passes.length
    (adjacencyEntries graph)
  rows := List.replicate graph.passes.length
    (BitRow.empty ((graph.passes.length + 63) / 64))
  ready := List.replicate graph.passes.length false

/-- Fill the row of `source` unless it is ready. -/
def prepare (queries : QueryRows) (source : Nat) : QueryRows :=
  if queries.ready.getD source false then queries
  else
    { queries with
      rows := queries.rows.modify source fun row =>
        fillRow queries.adjacent queries.rows.length
          { row := row.mark source, stack := [source] }
      ready := queries.ready.set source true }

/-- Read the bit of `target` in the row of `source`. -/
def answer (queries : QueryRows) (source target : Nat) : Bool :=
  (queries.rows.getD source []).test target

end QueryRows

/--
The queries of one scan: no rows are kept when the graph is oversize or the
scratch storage could not be allocated.
-/
def cachedQueries (graph : FrameGraph) (allocated : Bool) :
    Option QueryRows :=
  if GraphQueries.enabled graph && allocated then
    some (QueryRows.make graph)
  else none

/-- Answer one query and keep the row filled for it. -/
def askCached (graph : FrameGraph) (queries : Option QueryRows)
    (source target : Nat) : Bool × Option QueryRows :=
  match queries with
  | none => (reaches graph source target, none)
  | some rows =>
      let prepared := rows.prepare source
      (prepared.answer source target, some prepared)

/-- The answer after the queries of `asked` were answered in order. -/
def answerAfter (graph : FrameGraph) (allocated : Bool)
    (asked : List (Nat × Nat)) (source target : Nat) : Bool :=
  (askCached graph
    (asked.foldl
      (fun queries query => (askCached graph queries query.1 query.2).2)
      (cachedQueries graph allocated))
    source target).1

/-- One step along an edge to a pass of the graph. -/
def StepsInside (graph : FrameGraph) : Nat → Nat → Prop :=
  Worklist.Admissible (successors graph.edges)
    fun pass => decide (pass < graph.passes.length)

variable {graph : FrameGraph} {source target : Nat}

theorem StepsInside.inside
    (step : StepsInside graph source target) :
    target < graph.passes.length :=
  of_decide_eq_true step.2

theorem mem_successors_boundedEdges :
    target ∈ successors (boundedEdges graph) source ↔
      source < graph.passes.length ∧ StepsInside graph source target := by
  simp only [StepsInside, Worklist.Admissible, mem_successors, boundedEdges,
    List.mem_filter, Bool.and_eq_true, decide_eq_true_eq]
  constructor
  · rintro ⟨edge, ⟨member, sourceInside, targetInside⟩, rfl, rfl⟩
    exact ⟨sourceInside, ⟨edge, member, rfl, rfl⟩, targetInside⟩
  · rintro ⟨sourceInside, ⟨edge, member, rfl, rfl⟩, targetInside⟩
    exact ⟨edge, ⟨member, sourceInside, targetInside⟩, rfl, rfl⟩

section

variable (sourceInside : source < graph.passes.length)
include sourceInside

/-- Without a bound on the edges a traversal still settles inside. -/
theorem search_settled_inside (succ : Nat → List Nat)
    (admits stop : Nat → Bool)
    (inside : ∀ node, ∀ next ∈ succ node, admits next = true →
      next < graph.passes.length) :
    Worklist.Settled succ admits stop source
      (Worklist.search succ admits stop graph.passes.length
        (Worklist.start source)) := by
  refine Worklist.search_settled (Finset.range graph.passes.length) ?_
    graph.passes.length (Worklist.start source)
    (Worklist.explored_start source) ?_
  · intro node next successor admitted
    exact Finset.mem_range.mpr (inside node next successor admitted)
  · have bound := Worklist.pending_start_le (Finset.mem_range.mpr sourceInside)
    rwa [Finset.card_range] at bound

/-- The reference traversal decides paths in every graph. -/
theorem reaches_iff_inside
    (targetInside : target < graph.passes.length) :
    reaches graph source target = true ↔
      ReflTransGen (StepsInside graph) source target := by
  unfold reaches
  split <;> rename_i distinct
  · simp only [true_iff]
    exact distinct ▸ ReflTransGen.refl
  · have spec := search_settled_inside sourceInside (successors graph.edges)
      (fun pass => decide (pass < graph.passes.length))
      (fun pass => pass == target)
      (fun _ _ _ admitted => of_decide_eq_true admitted)
    cases outcome : Worklist.search (successors graph.edges)
        (fun pass => decide (pass < graph.passes.length))
        (fun pass => pass == target)
        graph.passes.length (Worklist.start source) with
    | some final =>
        rw [outcome] at spec
        simp only [Option.isNone_some, Bool.false_eq_true, false_iff]
        intro path
        -- The last edge of a path would leave an expanded pass.
        rcases ReflTransGen.cases_tail path with
          equal | ⟨last, reached, step⟩
        · exact distinct equal.symm
        · have seen := spec.1.reachable_seen spec.2 reached
          rcases spec.1.expanded last seen with waiting | done
          · simp [spec.2] at waiting
          · have clear := (done target step.1).1
            simp at clear
    | none =>
        rw [outcome] at spec
        simp only [Option.isNone_none, true_iff]
        obtain ⟨node, met, path, successor, isTarget⟩ := spec
        have equal : met = target := by simpa using isTarget
        subst equal
        exact path.tail ⟨successor, decide_eq_true targetInside⟩

/-- A path from a pass stays among the passes, hence among kept edges. -/
theorem path_bounded
    (path : ReflTransGen (StepsInside graph) source target) :
    target < graph.passes.length ∧
      ReflTransGen
        (Worklist.Admissible (successors (boundedEdges graph))
          fun _ => true) source target := by
  induction path with
  | refl => exact ⟨sourceInside, ReflTransGen.refl⟩
  | tail _ step induction =>
      exact ⟨step.inside, induction.2.tail
        ⟨mem_successors_boundedEdges.mpr ⟨induction.1, step⟩, rfl⟩⟩

/-- The traversal that fills a row stops at nothing. -/
theorem exists_filled :
    ∃ final, Worklist.search (successors (boundedEdges graph))
        (fun _ => true) (fun _ => false) graph.passes.length
        (Worklist.start source) = some final ∧
      ∀ target, target ∈ final.seen ↔
        ReflTransGen (StepsInside graph) source target := by
  have spec := search_settled_inside sourceInside
    (successors (boundedEdges graph)) (fun _ => true) (fun _ => false)
    (fun _ _ successor _ =>
      (mem_successors_boundedEdges.mp successor).2.inside)
  cases outcome : Worklist.search (successors (boundedEdges graph))
      (fun _ => true) (fun _ => false)
      graph.passes.length (Worklist.start source) with
  | some final =>
      rw [outcome] at spec
      refine ⟨final, rfl, fun target => ⟨fun member => ?_, fun path => ?_⟩⟩
      · exact ReflTransGen.mono
          (fun _ _ step => (mem_successors_boundedEdges.mp step.1).2)
          _ _ (spec.1.reachable target member)
      · exact spec.1.reachable_seen spec.2 (path_bounded sourceInside path).2
  | none =>
      rw [outcome] at spec
      obtain ⟨_, _, _, _, stops⟩ := spec
      contradiction

end

theorem row_adjacent (graph : FrameGraph)
    (inside : source < graph.passes.length) :
    (CompressedRows.build graph.passes.length
        (adjacencyEntries graph)).row source =
      successors (boundedEdges graph) source := by
  rw [CompressedRows.row_build _ inside]
  · simp [CompressedRows.valuesOf, adjacencyEntries, successors,
      List.filter_map, Function.comp_def]
  · intro entry member
    obtain ⟨edge, kept, rfl⟩ := List.mem_map.mp member
    simp only [boundedEdges, List.mem_filter, Bool.and_eq_true,
      decide_eq_true_eq] at kept
    exact kept.2.1

/-- The bits of a fill are the marks of a worklist over `count` passes. -/
structure Fills (count : Nat) (fill : RowFill) (state : Worklist Nat) :
    Prop where
  words : fill.row.length = (count + 63) / 64
  marks : ∀ pass < count, fill.row.test pass = state.seen.contains pass
  stack : fill.stack = state.stack
  waiting : ∀ pass ∈ state.stack, pass < count

variable {count : Nat}

theorem word_inside {pass : Nat} (inside : pass < count) :
    pass / 64 < (count + 63) / 64 := by
  omega

variable {fill : RowFill} {state : Worklist Nat}

theorem Fills.visit
    (fills : Fills count fill state)
    (inside : target < count) :
    Fills count (fill.visit target)
      (state.visit (fun _ => true) target) := by
  unfold RowFill.visit Worklist.visit
  rw [fills.marks target inside]
  cases marked : state.seen.contains target with
  | true => simpa using fills
  | false =>
      simp only [Bool.false_eq_true, if_false, Bool.not_false, Bool.and_true,
        if_true]
      refine ⟨?_, ?_, ?_, ?_⟩
      · rw [BitRow.length_mark, fills.words]
      · intro pass passInside
        rw [BitRow.test_mark _ _ _ (fills.words ▸ word_inside inside),
          fills.marks pass passInside, List.contains_cons, Bool.or_comm]
        rfl
      · rw [fills.stack]
      · intro pass member
        rcases List.mem_cons.mp member with rfl | old
        · exact inside
        · exact fills.waiting pass old

theorem Fills.scan
    (fills : Fills count fill state) (targets : List Nat)
    (inside : ∀ target ∈ targets, target < count) :
    ∃ next, Worklist.scan (fun _ => true) (fun _ => false) state targets =
        some next ∧
      Fills count (targets.foldl RowFill.visit fill) next := by
  induction targets generalizing fill state with
  | nil => exact ⟨state, rfl, fills⟩
  | cons target rest induction =>
      exact induction (fills.visit (inside target List.mem_cons_self))
        (fun other member => inside other (List.mem_cons_of_mem _ member))

/-- Filling a row follows the worklist search step by step. -/
theorem Fills.fillRow (fuel : Nat)
    {final : Worklist Nat}
    (fills : Fills graph.passes.length fill state)
    (found : Worklist.search (successors (boundedEdges graph))
      (fun _ => true) (fun _ => false) fuel state = some final) :
    ∀ pass < graph.passes.length,
      (Framegraph.fillRow (CompressedRows.build graph.passes.length
        (adjacencyEntries graph)) fuel fill).test pass =
        final.seen.contains pass := by
  induction fuel generalizing fill state with
  | zero =>
      obtain rfl := Option.some.inj found
      exact fills.marks
  | succ fuel induction =>
      unfold Framegraph.fillRow
      rw [fills.stack]
      cases top : state.stack with
      | nil =>
          simp only [Worklist.search, top] at found
          obtain rfl := Option.some.inj found
          exact fills.marks
      | cons current rest =>
          have expanding := fills.waiting current (top ▸ List.mem_cons_self)
          have popped : Fills graph.passes.length { fill with stack := rest }
              { state with stack := rest } :=
            { words := fills.words
              marks := fills.marks
              stack := rfl
              waiting := fun pass member => fills.waiting pass
                (top ▸ List.mem_cons_of_mem current member) }
          obtain ⟨next, scanned, filled⟩ := popped.scan
            (successors (boundedEdges graph) current)
            (fun target successor =>
              (mem_successors_boundedEdges.mp successor).2.inside)
          simp only [Worklist.search, top, scanned] at found
          simp only [row_adjacent graph expanding]
          exact induction filled found

/-- Ready rows answer for the paths; the others are still empty. -/
structure RowsKept (graph : FrameGraph) (queries : QueryRows) : Prop where
  adjacent : queries.adjacent =
    CompressedRows.build graph.passes.length (adjacencyEntries graph)
  rows : queries.rows.length = graph.passes.length
  ready : queries.ready.length = graph.passes.length
  filled : ∀ source < graph.passes.length,
    queries.ready.getD source false = true →
      ∀ target < graph.passes.length,
        queries.answer source target = reaches graph source target
  empty : ∀ source < graph.passes.length,
    queries.ready.getD source false = false →
      queries.rows.getD source [] =
        BitRow.empty ((graph.passes.length + 63) / 64)

theorem rowsKept_make (graph : FrameGraph) :
    RowsKept graph (QueryRows.make graph) := by
  refine ⟨rfl, by simp [QueryRows.make], by simp [QueryRows.make], ?_, ?_⟩
  · intro source inside ready
    simp [QueryRows.make, List.getD_eq_getElem?_getD, inside] at ready
  · intro source inside _
    simp [QueryRows.make, List.getD_eq_getElem?_getD, inside]

theorem fillRow_test
    (sourceInside : source < graph.passes.length)
    (targetInside : target < graph.passes.length) :
    (fillRow (CompressedRows.build graph.passes.length
        (adjacencyEntries graph)) graph.passes.length
      { row := (BitRow.empty ((graph.passes.length + 63) / 64)).mark source
        stack := [source] }).test target =
      reaches graph source target := by
  have start : Fills graph.passes.length
      { row := (BitRow.empty ((graph.passes.length + 63) / 64)).mark source
        stack := [source] } (Worklist.start source) := by
    refine ⟨by simp, ?_, rfl, ?_⟩
    · intro pass _
      rw [BitRow.test_mark _ _ _ (by simpa using word_inside sourceInside)]
      simp [Worklist.start]
    · intro pass member
      obtain rfl := List.mem_singleton.mp member
      exact sourceInside
  obtain ⟨final, found, seen⟩ := exists_filled sourceInside
  rw [start.fillRow graph.passes.length found target targetInside]
  apply Bool.eq_iff_iff.mpr
  rw [List.contains_iff_mem, seen,
    reaches_iff_inside sourceInside targetInside]

variable {queries : QueryRows}

theorem RowsKept.prepare
    (kept : RowsKept graph queries) (source : Nat) :
    RowsKept graph (queries.prepare source) := by
  unfold QueryRows.prepare
  split
  · exact kept
  · rename_i missing
    have unready : queries.ready.getD source false = false := by
      simpa using missing
    refine ⟨kept.adjacent, by simp [kept.rows], by simp [kept.ready], ?_, ?_⟩
    · intro pass inside ready target targetInside
      by_cases same : pass = source
      · subst same
        have old := kept.empty pass inside unready
        have bound : pass < queries.rows.length := kept.rows ▸ inside
        have row : queries.rows[pass] =
            BitRow.empty ((graph.passes.length + 63) / 64) := by
          simpa [List.getD_eq_getElem?_getD, bound] using old
        have filled := fillRow_test inside targetInside
        rw [← row, ← kept.adjacent, ← kept.rows] at filled
        simpa [QueryRows.answer, List.getD_eq_getElem?_getD, bound]
          using filled
      · have before : queries.ready.getD pass false = true := by
          simpa [List.getD_eq_getElem?_getD, Ne.symm same] using ready
        have answered := kept.filled pass inside before target targetInside
        simpa [QueryRows.answer, List.getD_eq_getElem?_getD, Ne.symm same]
          using answered
    · intro pass inside later
      have distinct : source ≠ pass := by
        rintro rfl
        simp [List.getD_eq_getElem?_getD, kept.ready, inside] at later
      have before : queries.ready.getD pass false = false := by
        simpa [List.getD_eq_getElem?_getD, distinct] using later
      have row := kept.empty pass inside before
      simpa [List.getD_eq_getElem?_getD, distinct] using row

theorem RowsKept.answer
    (kept : RowsKept graph queries)
    (sourceInside : source < graph.passes.length)
    (targetInside : target < graph.passes.length) :
    (queries.prepare source).answer source target =
      reaches graph source target := by
  apply (kept.prepare source).filled source sourceInside _ target targetInside
  unfold QueryRows.prepare
  split
  · assumption
  · simp [List.getD_eq_getElem?_getD, kept.ready, sourceInside]

/-- Whatever was asked before, the stored rows answer like the traversal. -/
theorem answerAfter_eq (graph : FrameGraph) (allocated : Bool)
    (asked : List (Nat × Nat)) (sourceInside : source < graph.passes.length)
    (targetInside : target < graph.passes.length) :
    answerAfter graph allocated asked source target =
      reaches graph source target := by
  have stored : ∀ (queries : Option QueryRows),
      (∀ rows ∈ queries, RowsKept graph rows) →
      ∀ rows ∈ asked.foldl
          (fun queries query => (askCached graph queries query.1 query.2).2)
          queries,
        RowsKept graph rows := by
    induction asked with
    | nil => exact fun queries kept => kept
    | cons query rest induction =>
        intro queries kept
        apply induction
        cases queries with
        | none => simp [askCached]
        | some rows =>
            intro prepared same
            obtain rfl := Option.some.inj same
            exact (kept rows rfl).prepare query.1
  have initial : ∀ rows ∈ cachedQueries graph allocated,
      RowsKept graph rows := by
    intro rows made
    unfold cachedQueries at made
    split at made
    · obtain rfl := Option.some.inj made
      exact rowsKept_make graph
    · contradiction
  unfold answerAfter
  cases reached : asked.foldl
      (fun queries query => (askCached graph queries query.1 query.2).2)
      (cachedQueries graph allocated) with
  | none => rfl
  | some rows =>
      exact (stored _ initial rows reached).answer sourceInside targetInside

/-- The row lists answer like the traversal, too. -/
theorem graphQueries_reaches_eq (graph : FrameGraph)
    (sourceInside : source < graph.passes.length)
    (targetInside : target < graph.passes.length) :
    GraphQueries.reaches graph source target =
      reaches graph source target := by
  unfold GraphQueries.reaches
  split
  · obtain ⟨final, found, seen⟩ := exists_filled sourceInside
    apply Bool.eq_iff_iff.mpr
    unfold reachableRow
    rw [found, reaches_iff_inside sourceInside targetInside]
    simpa using seen target
  · rfl

end Dxmt9.Framegraph
