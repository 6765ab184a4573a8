import Dxmt9.Framegraph.Regrouped
import Dxmt9.Framegraph.Optimizer

/-!
# The reorder is a topological sort

Every emission keeps the in-degrees equal to the number of unfinished
producers, so a pass is emitted only after all of its producers.  Whatever
the costs are, the resulting order never contradicts an edge.
-/

namespace Dxmt9.Framegraph

open Dxmt9.Order

/-- Edges into `p` from passes that are not emitted yet. -/
def unfinished (edges : List Edge) (order : List Nat) (p : Nat) : Nat :=
  edges.countP fun edge =>
    edge.dstPass == p && !order.contains edge.srcPass

theorem unfinished_cons (edge : Edge) (edges : List Edge)
    (order : List Nat) (p : Nat) :
    unfinished (edge :: edges) order p =
      unfinished edges order p +
        if edge.dstPass = p ∧ edge.srcPass ∉ order then 1 else 0 := by
  simp [unfinished, List.countP_cons]

/-- What holds after any number of emissions. -/
structure Emitting (graph : FrameGraph) (state : ReorderState) : Prop where
  nodup : state.newOrder.Nodup
  inside : ∀ p ∈ state.newOrder, p < graph.passes.length
  degreeLength : state.inDegree.length = graph.passes.length
  degrees : ∀ p < graph.passes.length, state.inDegree.getD p 0 =
    unfinished (sortEdges graph) state.newOrder p
  closed : ∀ p ∈ state.newOrder, ∀ producer,
    graph.DependsStep producer p → producer ∈ state.newOrder
  sorted : state.newOrder.Pairwise fun earlier later =>
    ¬ graph.DependsStep later earlier

variable {graph : FrameGraph}

theorem sortEdges_eq (edges : graph.EdgesForward) :
    sortEdges graph = graph.edges := by
  unfold sortEdges
  rw [List.filter_eq_self]
  intro edge member
  have forward := edges.forward edge member
  have inside := edges.inside edge member
  simp only [Bool.and_eq_true, decide_eq_true_eq]
  omega

theorem getD_foldl_release (consumers degrees : List Nat) (p : Nat) :
    (consumers.foldl (fun current q => current.modify q (· - 1))
      degrees).getD p 0 = degrees.getD p 0 - consumers.count p := by
  induction consumers generalizing degrees with
  | nil => simp
  | cons q rest induction =>
      rw [List.foldl_cons, induction, List.count_cons]
      by_cases same : q = p
      · subst same
        by_cases bound : q < degrees.length
        · simp [bound]
          omega
        · simp [bound]
      · simp [List.getD_eq_getElem?_getD, same]

theorem length_foldl_release (consumers degrees : List Nat) :
    (consumers.foldl (fun current q => current.modify q (· - 1))
      degrees).length = degrees.length := by
  induction consumers generalizing degrees with
  | nil => rfl
  | cons q rest induction => simp [induction]

variable {best : Nat}

/-- Emitting `best` finishes exactly its outgoing edges. -/
theorem unfinished_append (edges : List Edge) (order : List Nat) (fresh : best ∉ order) (p : Nat) :
    unfinished edges (order ++ [best]) p =
      unfinished edges order p -
        ((edges.filter fun edge => edge.srcPass == best).map
          Edge.dstPass).count p := by
  have total : unfinished edges order p =
      unfinished edges (order ++ [best]) p +
        ((edges.filter fun edge => edge.srcPass == best).map
          Edge.dstPass).count p := by
    induction edges with
    | nil => rfl
    | cons edge rest induction =>
        rw [unfinished_cons, unfinished_cons, induction, List.filter_cons]
        by_cases fromBest : edge.srcPass = best
        · have finished : edge.srcPass ∈ order ++ [best] := by
            simp [fromBest]
          by_cases toP : edge.dstPass = p
          · simp [fromBest, toP, fresh]
            omega
          · simp [fromBest, toP]
        · have unchanged : edge.srcPass ∉ order ++ [best] ↔
              edge.srcPass ∉ order := by
            simp [fromBest]
          simp only [unchanged, beq_iff_eq, fromBest, if_false]
          omega
  omega

theorem emitting_initial (graph : FrameGraph) :
    Emitting graph (initialReorderState graph) where
  nodup := List.nodup_nil
  inside _ member := absurd member List.not_mem_nil
  degreeLength := by simp [initialReorderState]
  degrees p bound := by
    simp [initialReorderState, unfinished, bound]
  closed _ member := absurd member List.not_mem_nil
  sorted := List.Pairwise.nil

variable {state : ReorderState}

theorem selectReady_ready (selected : selectReady graph state = some best) :
    best < graph.passes.length ∧ ready state best = true := by
  unfold selectReady at selected
  have invariant : ∀ (candidates : List Nat) (current : Option Nat),
      (∀ p ∈ current, p < graph.passes.length ∧ ready state p = true) →
      (∀ p ∈ candidates, p < graph.passes.length ∧
        ready state p = true) →
      ∀ p ∈ candidates.foldl (cheaper graph state) current,
        p < graph.passes.length ∧ ready state p = true := by
    intro candidates
    induction candidates with
    | nil => exact fun current holds _ => holds
    | cons candidate rest induction =>
        intro current holds all
        rw [List.foldl_cons]
        refine induction _ ?_
          fun p member => all p (List.mem_cons_of_mem _ member)
        have candidateReady := all candidate List.mem_cons_self
        intro p member
        cases current with
        | none =>
            simp only [cheaper, Option.mem_def, Option.some.injEq] at member
            exact member ▸ candidateReady
        | some current =>
            simp only [cheaper, Option.mem_def] at member
            split at member
            · exact Option.some.inj member ▸ candidateReady
            · exact holds p member
  refine invariant _ none (by simp) ?_ best selected
  intro p member
  simpa using member

/-- One emission keeps the invariant. -/
theorem Emitting.emit
    (emitting : Emitting graph state) (edges : graph.EdgesForward) (inside : best < graph.passes.length)
    (isReady : ready state best = true) :
    Emitting graph (emitPass graph state best) := by
  simp only [ready, Bool.and_eq_true, Bool.not_eq_true',
    List.contains_eq_mem, decide_eq_false_iff_not, decide_eq_true_eq]
    at isReady
  obtain ⟨fresh, degree⟩ := isReady
  have producers : ∀ producer, graph.DependsStep producer best →
      producer ∈ state.newOrder := by
    rintro producer ⟨edge, member, rfl, rfl⟩
    have none := emitting.degrees _ inside
    rw [degree, sortEdges_eq edges, unfinished, eq_comm,
      List.countP_eq_zero] at none
    have finished := none edge member
    simpa using finished
  refine
    { nodup := ?_
      inside := ?_
      degreeLength := ?_
      degrees := ?_
      closed := ?_
      sorted := ?_ }
  · simpa [emitPass, List.nodup_append] using
      ⟨emitting.nodup, fun p member equal => fresh (equal ▸ member)⟩
  · intro p member
    rcases List.mem_append.mp member with old | new
    · exact emitting.inside p old
    · exact List.mem_singleton.mp new ▸ inside
  · simp only [emitPass, length_foldl_release]
    exact emitting.degreeLength
  · intro p bound
    simp only [emitPass, getD_foldl_release]
    rw [unfinished_append _ _ fresh, emitting.degrees p bound]
  · intro p member producer step
    apply List.mem_append.mpr
    rcases List.mem_append.mp member with old | new
    · exact Or.inl (emitting.closed p old producer step)
    · rw [List.mem_singleton] at new
      exact Or.inl (producers producer (new ▸ step))
  · refine List.pairwise_append.mpr ⟨emitting.sorted,
      List.pairwise_singleton _ _, ?_⟩
    intro earlier earlierMember later laterMember step
    rw [List.mem_singleton] at laterMember
    subst laterMember
    exact fresh (emitting.closed earlier earlierMember later step)

variable {final : ReorderState}

/-- A finished run emitted as many passes as it took steps. -/
theorem reorderSteps_emitting
    (edges : graph.EdgesForward) (steps : Nat)
    (emitting : Emitting graph state)
    (finished : reorderSteps graph steps state = some final) :
    Emitting graph final ∧
      final.newOrder.length = state.newOrder.length + steps := by
  induction steps generalizing state with
  | zero =>
      simp only [reorderSteps, Option.some.injEq] at finished
      exact finished ▸ ⟨emitting, rfl⟩
  | succ steps induction =>
      unfold reorderSteps at finished
      cases selected : selectReady graph state with
      | none => simp [selected] at finished
      | some best =>
          rw [selected] at finished
          obtain ⟨inside, isReady⟩ := selectReady_ready selected
          obtain ⟨emitted, length⟩ :=
            induction (emitting.emit edges inside isReady) finished
          refine ⟨emitted, ?_⟩
          simp only [emitPass, List.length_append,
            List.length_singleton] at length
          omega

theorem reorder_regrouping
    (edges : graph.EdgesForward)
    (finished : reorderSteps graph graph.passes.length
      (initialReorderState graph) = some final) :
    Regrouping (alone final.newOrder) graph.passes.length
      graph.DependsStep := by
  obtain ⟨emitting, length⟩ :=
    reorderSteps_emitting edges _ (emitting_initial graph) finished
  refine Regrouping.permute ?_ emitting.sorted
  have subperm : List.Subperm final.newOrder
      (List.range graph.passes.length) :=
    emitting.nodup.subperm fun p member =>
      List.mem_range.mpr (emitting.inside p member)
  apply subperm.perm_of_length_le
  simp [length, initialReorderState]

variable {order : List Nat}

theorem classAt_alone {index : Nat}
    (bound : index < order.length) :
    classAt (alone order) index = [order[index]] := by
  simp [classAt, alone, bound]

/-- In an order every position is its own class. -/
theorem classOf_alone {count old : Nat}
    {edge : Nat → Nat → Prop}
    (regrouping : Regrouping (alone order) count edge)
    (inside : old < count) :
    classOf (alone order) old = order.idxOf old := by
  have listed : old ∈ order := by
    have complete := regrouping.complete
    rw [flatten_alone] at complete
    exact complete.mem_iff.mpr (List.mem_range.mpr inside)
  apply regrouping.classOf_eq
  rw [classAt_alone (List.idxOf_lt_length_of_mem listed)]
  simp

/-- Recomputed spans do not change the relabelled log. -/
theorem applyOrder_relabel (order : List Nat) (graph : FrameGraph)
    (label : Nat → Nat)
    (agree : ∀ node ∈ graph.resources, ∀ access ∈ node.accesses,
      order.idxOf access.passIndex = label access.passIndex)
    (inside : ∀ node ∈ graph.resources, ∀ access ∈ node.accesses,
      access.passIndex < graph.passes.length) :
    (applyOrder graph order).resources.map (ResourceNode.relabel id) =
      graph.resources.map (ResourceNode.relabel label) := by
  simp only [applyOrder, List.map_map]
  refine List.map_congr_left fun node member => ?_
  have log : node.accesses.map (fun access =>
      { access with
        passIndex :=
          if access.passIndex < graph.passes.length then
            order.idxOf access.passIndex
          else access.passIndex }) =
      node.accesses.map fun access =>
        { access with passIndex := label access.passIndex } := by
    refine List.map_congr_left fun access logged => ?_
    rw [if_pos (inside node member access logged),
      agree node member access logged]
  simp only [Function.comp_apply]
  rw [log]
  unfold ResourceNode.relabel
  split <;> rename_i shape
  · have empty : node.accesses = [] := by simpa using shape
    simp [empty]
  · simp

theorem applyOrder_regrouped
    (wellFormed : graph.WellFormed)
    (regrouping :
      Regrouping (alone order) graph.passes.length graph.DependsStep) :
    graph.Regrouped (alone order) (applyOrder graph order) := by
  have label : ∀ {old}, old < graph.passes.length →
      classOf (alone order) old = order.idxOf old :=
    fun inside => classOf_alone regrouping inside
  have passAt : ∀ {index} (bound : index < order.length),
      (applyOrder graph order).pass index = graph.pass order[index] := by
    intro index bound
    simp [applyOrder, FrameGraph.pass, bound]
  refine
    { regrouping := regrouping
      length := by simp [applyOrder, alone]
      depends := ?_
      commands := ?_
      leader := ?_
      uniform := ?_
      resources := ?_
      ranges := ?_ }
  · intro source target
    simp only [FrameGraph.DependsStep, applyOrder, Connects,
      List.mem_map, exists_exists_and_eq_and]
    constructor
    · rintro ⟨edge, member, rfl, rfl⟩
      have targetInside := wellFormed.inside edge member
      have sourceInside := (wellFormed.forward edge member).trans targetInside
      rw [if_pos sourceInside, if_pos targetInside, ← label sourceInside,
        ← label targetInside]
      refine ⟨fun equal => ?_, edge.srcPass, edge.dstPass,
        ⟨edge, member, rfl, rfl⟩, rfl, rfl⟩
      -- Equal classes of an order are equal positions.
      have sourceMember := regrouping.mem_classOf sourceInside
      have targetMember := regrouping.mem_classOf targetInside
      rw [equal] at sourceMember
      have bound := lt_of_mem_classAt targetMember
      rw [classAt_alone (by simpa [alone] using bound),
        List.mem_singleton] at sourceMember targetMember
      have forward := wellFormed.forward edge member
      omega
    · rintro ⟨_, _, _, ⟨edge, member, rfl, rfl⟩, rfl, rfl⟩
      have targetInside := wellFormed.inside edge member
      have sourceInside := (wellFormed.forward edge member).trans targetInside
      refine ⟨edge, member, ?_, ?_⟩
      · rw [if_pos sourceInside, label sourceInside]
      · rw [if_pos targetInside, label targetInside]
  · intro index bound
    have inside : index < order.length := by simpa [alone] using bound
    rw [classAt_alone inside, passAt inside]
    simp [FrameGraph.commandsOf, applyOrder]
  · intro index bound
    have inside : index < order.length := by simpa [alone] using bound
    exact ⟨order[index], [], classAt_alone inside,
      congrArg PassNode.header (passAt inside)⟩
  · intro index bound old member
    have inside : index < order.length := by simpa [alone] using bound
    rw [classAt_alone inside, List.mem_singleton] at member
    rw [member, passAt inside]
  · exact applyOrder_relabel order graph _
      (fun node member access logged =>
        (label (wellFormed.accesses node member access logged)).symm)
      wellFormed.accesses
  · intro pass member
    simp only [applyOrder, List.mem_map] at member
    obtain ⟨old, listed, rfl⟩ := member
    have complete := regrouping.complete
    rw [flatten_alone] at complete
    have inside := List.mem_range.mp (complete.mem_iff.mp listed)
    exact wellFormed.ranges _ (FrameGraph.pass_mem inside)

theorem runReorder_regrouped
    (wellFormed : graph.WellFormed) :
    ∃ classes, graph.Regrouped classes (runReorder graph) := by
  unfold runReorder
  split
  · exact ⟨_, wellFormed.regrouped_self⟩
  · split
    · exact ⟨_, wellFormed.regrouped_self⟩
    · rename_i final finished
      have regrouping := reorder_regrouping wellFormed.toEdgesForward finished
      exact ⟨_, applyOrder_regrouped wellFormed regrouping⟩

end Dxmt9.Framegraph
