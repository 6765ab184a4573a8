import Dxmt9.Framegraph.Builder
import Dxmt9.Framegraph.EmissionOrder

/-!
# Protected passes

`runDce` never drops a pass that is flagged or presents.  The merged pass of
the coalescer keeps only the flags of its first pass, so the protection of the
second one is lost.  The commands of protected passes survive exactly when
none of them is dead from the start and no group that lost its protection
passes the drop test.
-/

namespace Dxmt9.Framegraph

open Dxmt9.Order

/-- No source command is owned twice. -/
def FrameGraph.OwnedOnce (graph : FrameGraph) : Prop :=
  ((List.range graph.passes.length).flatMap graph.passCommands).Nodup

instance (graph : FrameGraph) : Decidable graph.OwnedOnce :=
  inferInstanceAs (Decidable (List.Nodup _))

/-- No command of a protected pass ends up in a dead pass. -/
def ProtectedSurvive (origin final : FrameGraph) : Prop :=
  ∀ p < origin.passes.length, dceProtected (origin.pass p) = true →
    ∀ command ∈ origin.passCommands p, ∀ q < final.passes.length,
      command ∈ final.passCommands q →
        (final.pass q).flags.dead = false

/-- Pass `q` of a later graph owns a command of a protected pass. -/
def HoldsProtected (origin later : FrameGraph) (q : Nat) : Prop :=
  ∃ p < origin.passes.length, dceProtected (origin.pass p) = true ∧
    ∃ command ∈ origin.passCommands p, command ∈ later.passCommands q

instance (origin later : FrameGraph) (q : Nat) :
    Decidable (HoldsProtected origin later q) :=
  inferInstanceAs (Decidable (∃ p < origin.passes.length, _ ∧ ∃ command ∈
    origin.passCommands p, command ∈ later.passCommands q))

/-- The graph that `runDce` receives. -/
def receivedByDce (graph : FrameGraph) (options : OptimizerOptions)
    (inputs : OptimizerInputs) : FrameGraph :=
  (runBeforeDce graph options inputs).1

namespace FrameGraph.Regrouped

variable {origin graph : FrameGraph} {classes : List (List Nat)}

variable {q command : Nat}

theorem mem_passCommands (regrouped : origin.Regrouped classes graph) (bound : q < classes.length) :
    command ∈ graph.passCommands q ↔
      ∃ p ∈ classAt classes q, command ∈ origin.passCommands p := by
  simp only [FrameGraph.passCommands]
  rw [regrouped.commands q bound, List.map_flatMap, List.mem_flatMap]

variable {p : Nat}

theorem mem_classOf_iff (regrouped : origin.Regrouped classes graph)
    (owned : origin.OwnedOnce)
    (inside : p < origin.passes.length) (bound : q < classes.length)
    (isOwned : command ∈ origin.passCommands p) :
    command ∈ graph.passCommands q ↔ p ∈ classAt classes q := by
  rw [regrouped.mem_passCommands bound]
  constructor
  · rintro ⟨other, member, otherOwned⟩
    have same := eq_of_nodup_flatMap owned
      (List.mem_range.mpr (regrouped.regrouping.lt_of_mem member))
      (List.mem_range.mpr inside) otherOwned isOwned
    exact same ▸ member
  · exact fun member => ⟨p, member, isOwned⟩

theorem dead_eq (regrouped : origin.Regrouped classes graph)
    (bound : q < classes.length) (member : p ∈ classAt classes q) :
    (graph.pass q).flags.dead = (origin.pass p).flags.dead :=
  (congrArg (fun key => key.2.2) (regrouped.uniform q bound p member)).symm

end FrameGraph.Regrouped

variable {origin graph : FrameGraph}

theorem protectedSurvive_runAfterDce
    (edges : graph.EdgesForward) (options : OptimizerOptions) :
    ProtectedSurvive origin (runAfterDce graph options) ↔
      ProtectedSurvive origin graph := by
  have transfer : ∀ left right : FrameGraph,
      (∀ commands, (∃ q < left.passes.length, (left.pass q).flags.dead = true ∧
            left.passCommands q = commands) →
        ∃ q < right.passes.length, (right.pass q).flags.dead = true ∧
          right.passCommands q = commands) →
      ProtectedSurvive origin right → ProtectedSurvive origin left := by
    intro left right dies survive p inside isProtected command owned q
      bound holds
    by_contra alive
    have isDead := Bool.eq_true_of_not_eq_false alive
    rcases dies _ ⟨q, bound, isDead, rfl⟩ with
      ⟨other, otherBound, otherDead, equal⟩
    have spared := survive p inside isProtected command owned other
      otherBound (equal.symm ▸ holds)
    rw [otherDead] at spared
    contradiction
  constructor
  · exact transfer _ _ fun commands =>
      (exists_runAfterDce_pass edges options true commands).mpr
  · exact transfer _ _ fun commands =>
      (exists_runAfterDce_pass edges options true commands).mp

theorem not_drop_of_protected
    {lookahead : DceLookaheadProof} {p : Nat} {pass : PassNode}
    (isProtected : dceProtected pass = true) :
    dceDecision graph lookahead p pass ≠ .drop := by
  simp [dceDecision, isProtected]

/-- Survival before elimination is a matter of the initial flags. -/
theorem protectedSurvive_regrouped
    {classes : List (List Nat)} (owned : origin.OwnedOnce)
    (regrouped : origin.Regrouped classes graph) :
    ProtectedSurvive origin graph ↔
      ∀ p < origin.passes.length, dceProtected (origin.pass p) = true →
        origin.passCommands p ≠ [] → (origin.pass p).flags.dead = false := by
  constructor
  · intro survive p inside isProtected bearing
    rcases List.exists_mem_of_ne_nil _ bearing with ⟨command, isOwned⟩
    have bound := regrouped.regrouping.classOf_lt inside
    have member := regrouped.regrouping.mem_classOf inside
    have holds := (regrouped.mem_classOf_iff owned inside bound
      isOwned).mpr member
    rw [← regrouped.dead_eq bound member]
    exact survive p inside isProtected command isOwned _
      (regrouped.length.symm ▸ bound) holds
  · intro live p inside isProtected command isOwned q qInside holds
    rw [regrouped.length] at qInside
    have member := (regrouped.mem_classOf_iff owned inside qInside
      isOwned).mp holds
    rw [regrouped.dead_eq qInside member]
    exact live p inside isProtected (List.ne_nil_of_mem isOwned)

/-- After elimination, no group without protection may be dropped. -/
theorem protectedSurvive_eliminated
    (lookahead : DceLookaheadProof) :
    ProtectedSurvive origin (eliminatedGraph graph lookahead) ↔
      ProtectedSurvive origin graph ∧
        ∀ q < graph.passes.length, HoldsProtected origin graph q →
          dceProtected (graph.pass q) = false →
            dceDecision graph lookahead q (graph.pass q) ≠ .drop := by
  have length : (eliminatedGraph graph lookahead).passes.length =
      graph.passes.length := by simp [eliminatedGraph]
  have fate : ∀ {q}, q < graph.passes.length →
      ((eliminatedGraph graph lookahead).pass q).flags.dead =
        diesUnder graph lookahead q := by
    intro q inside
    rw [eliminatedGraph_pass graph lookahead inside, diesUnder]
  constructor
  · intro survive
    have spared : ∀ {p command q}, p < origin.passes.length →
        dceProtected (origin.pass p) = true →
        command ∈ origin.passCommands p → q < graph.passes.length →
        command ∈ graph.passCommands q →
          diesUnder graph lookahead q = false := by
      intro p command q inside isProtected isOwned qInside holds
      rw [← fate qInside]
      apply survive p inside isProtected command isOwned q
        (length.symm ▸ qInside)
      rw [eliminatedGraph_passCommands]
      exact holds
    constructor
    · intro p inside isProtected command isOwned q qInside holds
      have lives := spared inside isProtected isOwned qInside holds
      rw [diesUnder_eq, Bool.or_eq_false_iff] at lives
      exact lives.1
    · rintro q qInside ⟨p, inside, isProtected, command, isOwned, holds⟩ _
      have lives := spared inside isProtected isOwned qInside holds
      rw [diesUnder_eq, Bool.or_eq_false_iff] at lives
      exact of_decide_eq_false lives.2
  · rintro ⟨survive, kept⟩ p inside isProtected command isOwned q qInside holds
    rw [length] at qInside
    rw [eliminatedGraph_passCommands] at holds
    rw [fate qInside, diesUnder_eq, Bool.or_eq_false_iff]
    refine ⟨survive p inside isProtected command isOwned q qInside holds,
      decide_eq_false ?_⟩
    cases guarded : dceProtected (graph.pass q) with
    | true => exact not_drop_of_protected guarded
    | false =>
        exact kept q qInside
          ⟨p, inside, isProtected, command, isOwned, holds⟩ guarded

/-- Draws to 1, 2 and 1 again; the last one holds an occlusion query. -/
def queriedReturn : FrameGraph :=
  let built := buildFrameGraph
    { commands := [.drawTo 1, .drawTo 2, .drawTo 1] } 0 {}
  { built with
    passes := built.passes.modify 2 fun pass =>
      { pass with flags := { containsOcclusionQuery := true } } }

theorem queriedReturn_wellFormed : queriedReturn.WellFormed where
  forward := by decide
  inside := by decide
  ranges := by decide
  accesses := by decide

end Dxmt9.Framegraph
