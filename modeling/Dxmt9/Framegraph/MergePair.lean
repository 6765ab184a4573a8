import Dxmt9.Framegraph.Regrouped

/-!
# One merge is a regrouping

`mergePair` rebuilds every array of the graph.  The new pass order, the
compacted ranges, the renumbered log and the deduplicated edges together are
the regrouping that merges two positions around their movers.
-/

namespace Dxmt9.Framegraph

open Relation
open Dxmt9.Order

/-- A finished pass keeps its header and owns the given references. -/
structure Materialized.Owns (built : Materialized) (pass original : PassNode)
    (draws : List DrawRef) (commands : List CommandRef) : Prop where
  header : pass.header = original.header
  commandSlice :
    (built.commands.drop pass.commands.first).take pass.commands.count =
      commands
  commandBound :
    pass.commands.first + pass.commands.count ≤ built.commands.length
  drawSlice :
    (built.draws.drop pass.draws.first).take pass.draws.count = draws
  drawBound : pass.draws.first + pass.draws.count ≤ built.draws.length

/-- Later pushes leave a finished pass alone. -/
theorem Materialized.Owns.push {built : Materialized}
    {pass original : PassNode} {draws : List DrawRef}
    {commands : List CommandRef}
    (owns : built.Owns pass original draws commands)
    (other : PassNode) (moreDraws : List DrawRef)
    (moreCommands : List CommandRef) :
    (built.push other moreDraws moreCommands).Owns pass original draws
      commands where
  header := owns.header
  commandSlice := (slice_append owns.commandBound).trans owns.commandSlice
  commandBound := by
    have bound := owns.commandBound
    simp only [Materialized.push, List.length_append]
    omega
  drawSlice := (slice_append owns.drawBound).trans owns.drawSlice
  drawBound := by
    have bound := owns.drawBound
    simp only [Materialized.push, List.length_append]
    omega

/-- The pass a source entry copies its header from. -/
def sourcePass (graph : FrameGraph) (a : Nat) : Option Nat → PassNode
  | none => graph.pass a
  | some source => graph.pass source

/-- The old passes behind a source entry. -/
def sourceMembers (a b : Nat) : Option Nat → List Nat
  | none => [a, b]
  | some source => [source]

theorem materializeSource_eq (graph : FrameGraph) (a b : Nat)
    (built : Materialized) (source : Option Nat) :
    materializeSource graph a b built source =
      built.push (sourcePass graph a source)
        ((sourceMembers a b source).flatMap fun old =>
          graph.drawsOf (graph.pass old))
        ((sourceMembers a b source).flatMap fun old =>
          graph.commandsOf (graph.pass old)) := by
  cases source <;> simp [materializeSource, sourcePass, sourceMembers]

theorem materialize_owns (graph : FrameGraph) (a b : Nat)
    (sources : List (Option Nat)) :
    let built := sources.foldl (materializeSource graph a b) {}
    built.passes.length = sources.length ∧
      ∀ (index : Nat) (inPasses : index < built.passes.length)
        (inSources : index < sources.length),
        built.Owns built.passes[index] (sourcePass graph a sources[index])
          ((sourceMembers a b sources[index]).flatMap fun old =>
            graph.drawsOf (graph.pass old))
          ((sourceMembers a b sources[index]).flatMap fun old =>
            graph.commandsOf (graph.pass old)) := by
  induction sources using List.reverseRecOn with
  | nil => exact ⟨rfl, fun index bound => absurd bound (Nat.not_lt_zero _)⟩
  | append_singleton init last induction =>
      obtain ⟨length, owned⟩ := induction
      simp only [List.foldl_append, List.foldl_cons, List.foldl_nil,
        materializeSource_eq]
      refine ⟨by simp [Materialized.push, length], ?_⟩
      intro index inPasses inSources
      by_cases old : index < init.length
      · have oldPass : index <
            (init.foldl (materializeSource graph a b) {}).passes.length :=
          length.symm ▸ old
        have kept := (owned index oldPass old).push (sourcePass graph a last)
          ((sourceMembers a b last).flatMap fun old =>
            graph.drawsOf (graph.pass old))
          ((sourceMembers a b last).flatMap fun old =>
            graph.commandsOf (graph.pass old))
        simpa [Materialized.push, List.getElem_append, old, oldPass] using kept
      · have newest : index = init.length := by
          simp only [List.length_append, List.length_singleton] at inSources
          omega
        subst newest
        constructor <;>
          simp [Materialized.push, PassNode.header, length]

/-! ## The new order -/

/-- The classes behind the entries of the new order. -/
def sourceClasses (a b : Nat) (sources : List (Option Nat)) :
    List (List Nat) :=
  sources.map (sourceMembers a b)

variable {count : Nat}

variable {a b : Nat} {before after : List Nat}

section

variable (ordered : a < b) (inside : b < count)
  (moved : ∀ x ∈ between a b, x ∈ before ∨ x ∈ after)
include ordered inside moved

/-- Spelled out, the new order is the order of the merged classes. -/
theorem newPassSources_eq :
    newPassSources count a b before after =
      (List.range a).map some ++ (before.map some ++ [none] ++
        (after.map some ++ (behind b count).map some)) := by
  have low : (List.range a).flatMap
      (newPassEntry a b before after) = (List.range a).map some := by
    rw [← List.flatMap_singleton' ((List.range a).map some), List.flatMap_map]
    refine List.flatMap_congr fun p member => ?_
    have bound := List.mem_range.mp member
    simp [newPassEntry, show p ≠ a by omega, show p ≠ b by omega,
      show ¬ a < p by omega]
  have middle : (between a b).flatMap
      (newPassEntry a b before after) = [] := by
    rw [List.flatMap_eq_nil_iff]
    intro p member
    have bounds := member
    simp only [between, List.mem_range'_1] at bounds
    rcases moved p member with early | late
    · simp [newPassEntry, show p ≠ a by omega, show p ≠ b by omega,
        show a < p by omega, show p < b by omega, early]
    · simp [newPassEntry, show p ≠ a by omega, show p ≠ b by omega,
        show a < p by omega, show p < b by omega, late]
  have high : (behind b count).flatMap
      (newPassEntry a b before after) = (behind b count).map some := by
    rw [← List.flatMap_singleton' ((behind b count).map some),
      List.flatMap_map]
    refine List.flatMap_congr fun p member => ?_
    simp only [behind, List.mem_range'_1] at member
    simp [newPassEntry, show p ≠ a by omega, show p ≠ b by omega,
      show ¬ p < b by omega]
  rw [newPassSources, range_split ordered inside, List.flatMap_append,
    List.flatMap_cons, List.flatMap_append, List.flatMap_cons, low, middle,
    high]
  simp [newPassEntry, show b ≠ a by omega]

theorem sourceClasses_eq :
    sourceClasses a b (newPassSources count a b before after) =
      mergeClasses count a b before after := by
  rw [newPassSources_eq ordered inside moved]
  simp [sourceClasses, mergeClasses, alone, sourceMembers, Function.comp_def]

end

/-- The entry of the new order that stands for an old pass. -/
def entryOf (a b old : Nat) : Option Nat :=
  if old = a ∨ old = b then none else some old

theorem mem_sourceMembers_entryOf (a b old : Nat) :
    old ∈ sourceMembers a b (entryOf a b old) := by
  unfold entryOf
  split <;> simp_all [sourceMembers]

variable {old : Nat}

theorem eq_entryOf {source : Option Nat}
    (member : old ∈ sourceMembers a b source)
    (notFirst : source ≠ some a) (notSecond : source ≠ some b) :
    source = entryOf a b old := by
  cases source with
  | none =>
      simp only [sourceMembers, List.mem_cons, List.not_mem_nil,
        or_false] at member
      simp [entryOf, member]
  | some position =>
      simp only [sourceMembers, List.mem_singleton] at member
      subst member
      simp only [ne_eq, Option.some.injEq] at notFirst notSecond
      simp [entryOf, notFirst, notSecond]

theorem oldToNew_entryOf (sources : List (Option Nat)) (a b old : Nat) :
    oldToNew sources a b old = sources.idxOf? (entryOf a b old) := by
  unfold oldToNew entryOf
  by_cases special : old = a ∨ old = b <;> simp [special]

variable {sources : List (Option Nat)}

theorem classAt_sourceClasses
    {index : Nat} (bound : index < sources.length) :
    classAt (sourceClasses a b sources) index =
      sourceMembers a b sources[index] := by
  simp [classAt, sourceClasses, bound]

/-- The renumbering sends an old pass to the class that contains it. -/
theorem oldToNew_eq
    {edge : Nat → Nat → Prop}
    (regrouping : Regrouping (sourceClasses a b sources) count edge)
    (notFirst : some a ∉ sources) (notSecond : some b ∉ sources)
    (inside : old < count) :
    oldToNew sources a b old =
      some (classOf (sourceClasses a b sources) old) := by
  have member := regrouping.mem_classOf inside
  have bound : classOf (sourceClasses a b sources) old < sources.length := by
    simpa [sourceClasses] using lt_of_mem_classAt member
  rw [classAt_sourceClasses bound] at member
  have listed := List.getElem_mem bound
  have isEntry := eq_entryOf member (fun equal => notFirst (equal ▸ listed))
    (fun equal => notSecond (equal ▸ listed))
  rw [isEntry] at listed
  obtain ⟨index, found⟩ :=
    Option.isSome_iff_exists.mp (List.isSome_idxOf?.mpr listed)
  obtain ⟨indexBound, equal, _⟩ := List.idxOf?_eq_some_iff.mp found
  have sameClass : classOf (sourceClasses a b sources) old = index := by
    apply regrouping.classOf_eq
    rw [classAt_sourceClasses indexBound, equal]
    exact mem_sourceMembers_entryOf a b old
  rw [oldToNew_entryOf, found, sameClass]

variable {remap : Nat → Option Nat}

/-- Renumbering one edge adds its renumbered ends, and nothing else. -/
theorem connects_remapEdge
    {kept : List Edge} {edge : Edge} {source target : Nat} :
    Connects (remapEdge count remap kept edge) source target ↔
      Connects kept source target ∨
        (edge.srcPass < count ∧ edge.dstPass < count ∧
          remap edge.srcPass = some source ∧
          remap edge.dstPass = some target ∧ source ≠ target) := by
  unfold remapEdge
  by_cases outside : edge.srcPass ≥ count ∨ edge.dstPass ≥ count
  · have dropped : (decide (edge.srcPass ≥ count) ||
        decide (edge.dstPass ≥ count)) = true := by simpa using outside
    rw [if_pos dropped]
    constructor
    · exact Or.inl
    · rintro (present | ⟨sourceInside, targetInside, _⟩)
      · exact present
      · omega
  · have stays : ¬ (decide (edge.srcPass ≥ count) ||
        decide (edge.dstPass ≥ count)) = true := by simpa using outside
    have inside : edge.srcPass < count ∧ edge.dstPass < count := by omega
    rw [if_neg stays]
    split
    · rename_i newSource newTarget sourceLabel targetLabel
      rw [sourceLabel, targetLabel]
      split
      · rename_i self
        constructor
        · exact Or.inl
        · rintro (present | ⟨_, _, sourceEq, targetEq, distinct⟩)
          · exact present
          · simp only [Option.some.injEq] at sourceEq targetEq
            omega
      · rename_i different
        split
        · rename_i duplicate
          constructor
          · exact Or.inl
          · rintro (present | ⟨_, _, sourceEq, targetEq, _⟩)
            · exact present
            · simp only [Option.some.injEq] at sourceEq targetEq
              exact sourceEq ▸ targetEq ▸ connects_of_hasEdge duplicate
        · rw [connects_append_singleton]
          simp only [Option.some.injEq]
          constructor
          · rintro (present | ⟨rfl, rfl⟩)
            · exact Or.inl present
            · exact Or.inr ⟨inside.1, inside.2, rfl, rfl, different⟩
          · rintro (present | ⟨_, _, sourceEq, targetEq, _⟩)
            · exact Or.inl present
            · exact Or.inr ⟨sourceEq, targetEq⟩
    · rename_i incomplete
      constructor
      · exact Or.inl
      · rintro (present | ⟨_, _, sourceEq, targetEq, _⟩)
        · exact present
        · exact absurd targetEq (incomplete _ _ sourceEq)

/-- A renumbered edge list relates exactly the renumbered ends. -/
theorem connects_foldl_remapEdge (edges kept : List Edge)
    (source target : Nat) :
    Connects (edges.foldl (remapEdge count remap) kept) source target ↔
      Connects kept source target ∨
        ∃ edge ∈ edges, edge.srcPass < count ∧ edge.dstPass < count ∧
          remap edge.srcPass = some source ∧
          remap edge.dstPass = some target ∧ source ≠ target := by
  induction edges generalizing kept with
  | nil => simp
  | cons head tail induction =>
      rw [List.foldl_cons, induction, connects_remapEdge, or_assoc]
      simp only [List.mem_cons, exists_eq_or_imp]

/-! ## The merged graph -/

/-- What a successful scan between `a` and `b` established. -/
structure MergePlan (graph : FrameGraph) (a b : Nat)
    (before after : List Nat) : Prop where
  ordered : a < b
  inside : b < graph.passes.length
  alike : (graph.pass b).mergeKey = (graph.pass a).mergeKey
  movers : Movers graph.DependsStep a b before after

namespace MergePlan

variable {graph : FrameGraph} {a b : Nat} {before after : List Nat}

/-- The classes of the merge. -/
def classes (_ : MergePlan graph a b before after) : List (List Nat) :=
  mergeClasses graph.passes.length a b before after

section

variable (plan : MergePlan graph a b before after)
include plan

theorem moved : ∀ x ∈ between a b, x ∈ before ∨ x ∈ after := fun _ member =>
  List.mem_append.mp (plan.movers.split.mem_iff.mpr member)

theorem sourceClasses_eq :
    sourceClasses a b
        (newPassSources graph.passes.length a b before after) =
      plan.classes :=
  Framegraph.sourceClasses_eq plan.ordered plan.inside plan.moved

theorem some_not_mem :
    some a ∉ newPassSources graph.passes.length a b before after ∧
      some b ∉ newPassSources graph.passes.length a b before after := by
  have ordered := plan.ordered
  have early : ∀ {x}, x ∈ before → a < x ∧ x < b :=
    plan.movers.before_between
  have late : ∀ {x}, x ∈ after → a < x ∧ x < b :=
    plan.movers.after_between
  rw [newPassSources_eq plan.ordered plan.inside plan.moved]
  simp only [List.mem_append, List.mem_map, List.mem_range,
    Option.some.injEq, exists_eq_right, List.mem_singleton,
    reduceCtorEq, behind, List.mem_range'_1, or_false]
  constructor
  · rintro (low | early' | late' | high)
    · omega
    · have := early early'
      omega
    · have := late late'
      omega
    · omega
  · rintro (low | early' | late' | high)
    · omega
    · have := early early'
      omega
    · have := late late'
      omega
    · omega

section

variable (edges : graph.EdgesForward)
include edges

theorem regrouping :
    Regrouping plan.classes graph.passes.length graph.DependsStep :=
  Regrouping.merge edges.step_forward plan.ordered plan.inside plan.movers

theorem renumber {old : Nat}
    (inside : old < graph.passes.length) :
    oldToNew (newPassSources graph.passes.length a b before after) a b
      old = some (classOf plan.classes old) := by
  have groups := plan.regrouping edges
  rw [← plan.sourceClasses_eq] at groups ⊢
  exact oldToNew_eq groups plan.some_not_mem.1 plan.some_not_mem.2 inside

theorem depends_iff (source target : Nat) :
    (mergePair graph a b before after).DependsStep source target ↔
      Relabelled plan.classes graph.DependsStep source target := by
  have remapped : ∀ {old}, old < graph.passes.length →
      (if old < graph.passes.length then
        oldToNew (newPassSources graph.passes.length a b before after) a b old
      else none) = some (classOf plan.classes old) := by
    intro old inside
    rw [if_pos inside]
    exact plan.renumber edges inside
  simp only [FrameGraph.DependsStep, mergePair, connects_foldl_remapEdge]
  constructor
  · rintro (⟨_, absent, _⟩ | ⟨edge, member, sourceInside, targetInside,
      sourceEq, targetEq, distinct⟩)
    · exact absurd absent List.not_mem_nil
    · rw [remapped sourceInside, Option.some.injEq] at sourceEq
      rw [remapped targetInside, Option.some.injEq] at targetEq
      exact ⟨distinct, edge.srcPass, edge.dstPass,
        ⟨edge, member, rfl, rfl⟩, sourceEq, targetEq⟩
  · rintro ⟨distinct, _, _, ⟨edge, member, rfl, rfl⟩, sourceEq, targetEq⟩
    have targetInside := edges.inside edge member
    have sourceInside := (edges.forward edge member).trans targetInside
    refine Or.inr ⟨edge, member, sourceInside, targetInside, ?_, ?_, distinct⟩
    · rw [remapped sourceInside, sourceEq]
    · rw [remapped targetInside, targetEq]

end

theorem relabel_resources
    (wellFormed : graph.WellFormed) :
    (mergePair graph a b before after).resources.map
        (ResourceNode.relabel id) =
      graph.resources.map (ResourceNode.relabel (classOf plan.classes)) := by
  simp only [mergePair, List.map_map]
  refine List.map_congr_left fun node member => ?_
  simp only [Function.comp_apply, ResourceNode.relabel, id_eq, List.map_map]
  congr 1
  refine List.map_congr_left fun access logged => ?_
  have inside := wellFormed.accesses node member access logged
  simp [remapAccess, inside, plan.renumber wellFormed.toEdgesForward inside]

theorem owns {index : Nat}
    (bound : index < plan.classes.length) :
    ∃ source,
      classAt plan.classes index = sourceMembers a b source ∧
      ((newPassSources graph.passes.length a b before after).foldl
        (materializeSource graph a b) {}).Owns
          ((mergePair graph a b before after).pass index)
          (sourcePass graph a source)
          ((sourceMembers a b source).flatMap fun old =>
            graph.drawsOf (graph.pass old))
          ((sourceMembers a b source).flatMap fun old =>
            graph.commandsOf (graph.pass old)) := by
  obtain ⟨length, owned⟩ := materialize_owns graph a b
    (newPassSources graph.passes.length a b before after)
  rw [← plan.sourceClasses_eq] at bound ⊢
  have inSources : index <
      (newPassSources graph.passes.length a b before after).length := by
    simpa [sourceClasses] using bound
  have inPasses := length.symm ▸ inSources
  refine ⟨_, classAt_sourceClasses inSources, ?_⟩
  have found : (mergePair graph a b before after).pass index =
      ((newPassSources graph.passes.length a b before after).foldl
        (materializeSource graph a b) {}).passes[index] := by
    simp [FrameGraph.pass, mergePair, inPasses]
  rw [found]
  exact owned index inPasses inSources

theorem length_eq :
    (mergePair graph a b before after).passes.length =
      plan.classes.length := by
  rw [← plan.sourceClasses_eq, sourceClasses, List.length_map]
  exact (materialize_owns graph a b _).1

theorem regrouped
    (wellFormed : graph.WellFormed) :
    graph.Regrouped plan.classes (mergePair graph a b before after) where
  regrouping := plan.regrouping wellFormed.toEdgesForward
  length := plan.length_eq
  depends := plan.depends_iff wellFormed.toEdgesForward
  commands index bound := by
    obtain ⟨source, listed, owned⟩ := plan.owns bound
    rw [listed]
    exact owned.commandSlice
  leader index bound := by
    obtain ⟨source, listed, owned⟩ := plan.owns bound
    rw [listed]
    cases source with
    | none => exact ⟨a, [b], rfl, owned.header⟩
    | some old => exact ⟨old, [], rfl, owned.header⟩
  uniform index bound old member := by
    obtain ⟨source, listed, owned⟩ := plan.owns bound
    have merged := PassNode.mergeKey_of_header owned.header
    rw [listed] at member
    rw [merged]
    cases source with
    | none =>
        rcases List.mem_pair.mp member with rfl | rfl
        · rfl
        · exact plan.alike
    | some source => exact congrArg _ (congrArg _
        (List.mem_singleton.mp member))
  resources := plan.relabel_resources wellFormed
  ranges pass member := by
    obtain ⟨index, bound, rfl⟩ := FrameGraph.exists_pass_eq member
    obtain ⟨_, _, owned⟩ := plan.owns (plan.length_eq ▸ bound)
    have commandBound := owned.commandBound
    have drawBound := owned.drawBound
    simp only [validRanges, validCommandRange, validDrawRange,
      Bool.and_eq_true, decide_eq_true_eq]
    simp only [mergePair] at commandBound drawBound ⊢
    omega

end

end MergePlan

end Dxmt9.Framegraph
