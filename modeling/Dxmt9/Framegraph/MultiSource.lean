import Dxmt9.Framegraph.PlanningSeed
import Dxmt9.Framegraph.Optimizer
import Mathlib.Data.List.Sort

/-!
# The multi-source planner

`fg_multi_source_planner.cpp` plans the replay of a window of up to eight
sources.  The source graphs are combined, an optional active-render seed is
applied, and only coalescing runs.  A plan that differs from the natural
order is published after it has been validated as a permutation in which no
command other than a draw crosses a command of another source; every other
exit returns the natural order.
-/

namespace Dxmt9.Framegraph

/-! ## Sources and locators -/

abbrev kMaxMultiSourcePlanningSources : Nat := 8

structure MultiSourcePlanningSource where
  payload : SourcePayloadView := {}
deriving DecidableEq

instance : Inhabited MultiSourcePlanningSource := ⟨{}⟩

namespace MultiSourcePlanningSource

def commandCount (source : MultiSourcePlanningSource) : Nat :=
  source.payload.commandCount

end MultiSourcePlanningSource

/-- Add one source to the running command count. -/
def validateSource (totalCommands : Nat)
    (source : MultiSourcePlanningSource) : Option Nat :=
  if !source.payload.valid || source.commandCount > u32Max ||
      totalCommands > u32Max - source.commandCount then none
  else some (totalCommands + source.commandCount)

/-- The total command count of an acceptable window. -/
def validateSources (sources : List MultiSourcePlanningSource) :
    Option Nat :=
  if sources.isEmpty || sources.length > kMaxMultiSourcePlanningSources then
    none
  else sources.foldlM validateSource 0

/-- A command of the window, named by its source and its position there. -/
structure RetainedSourceCommandLocator where
  retainedSourceIndex : Nat := 0
  commandIndex : Nat := 0
deriving DecidableEq, Inhabited

/-- The natural index of the first command of a source. -/
def sourceBase (sources : List MultiSourcePlanningSource) (index : Nat) :
    Nat :=
  ((sources.take index).map MultiSourcePlanningSource.commandCount).sum

/-- The position of a command in the natural order. -/
def naturalIndex (sources : List MultiSourcePlanningSource)
    (locator : RetainedSourceCommandLocator) : Nat :=
  sourceBase sources locator.retainedSourceIndex + locator.commandIndex

def commandAt (sources : List MultiSourcePlanningSource)
    (locator : RetainedSourceCommandLocator) : SourceCommandView :=
  (sources.getD locator.retainedSourceIndex default).payload.commandAt
    locator.commandIndex

/-- All commands of the window, source by source. -/
def naturalPlan (sources : List MultiSourcePlanningSource) :
    List RetainedSourceCommandLocator :=
  sources.zipIdx.flatMap fun (source, sourceIndex) =>
    (List.range source.commandCount).map fun commandIndex =>
      { retainedSourceIndex := sourceIndex, commandIndex := commandIndex }

/-- Walk from `sourceIndex` to the source that owns a flattened index. -/
def locateFrom (sourceIndex localIndex : Nat) :
    List MultiSourcePlanningSource → RetainedSourceCommandLocator
  | [] =>
      { retainedSourceIndex := sourceIndex, commandIndex := localIndex }
  | source :: rest =>
      if localIndex < source.commandCount then
        { retainedSourceIndex := sourceIndex, commandIndex := localIndex }
      else
        locateFrom (sourceIndex + 1) (localIndex - source.commandCount) rest

/-- The command with a flattened index. -/
def locateFlattened (sources : List MultiSourcePlanningSource)
    (flattenedIndex : Nat) : RetainedSourceCommandLocator :=
  locateFrom 0 flattenedIndex sources

inductive MultiSourceReplayValidation where
  | valid
  | invalidSource
  | invalidCommand
  | duplicate
  | missing
  | nonDrawCrossSourceMovement
deriving DecidableEq

/-- Mark one locator; an error is the verdict of the validator. -/
def markLocator (sources : List MultiSourcePlanningSource)
    (seen : List Bool) (locator : RetainedSourceCommandLocator) :
    Except MultiSourceReplayValidation (List Bool) :=
  match sources[locator.retainedSourceIndex]? with
  | none => .error .invalidSource
  | some source =>
      if locator.commandIndex ≥ source.commandCount then
        .error .invalidCommand
      else if seen.getD (naturalIndex sources locator) false then
        .error .duplicate
      else .ok (seen.set (naturalIndex sources locator) true)

def isNonDraw (sources : List MultiSourcePlanningSource)
    (locator : RetainedSourceCommandLocator) : Bool :=
  decide ((commandAt sources locator).kind ≠ .drawRun)

/--
Does a command that is no draw stand on the wrong side of another source?

`met` keeps for each source the extreme natural index met so far.
-/
def movementScan (sources : List MultiSourcePlanningSource)
    (exceeds : Nat → Nat → Bool) (extreme : Nat → Nat → Nat) :
    List (Option Nat) → List RetainedSourceCommandLocator → Bool
  | _, [] => false
  | met, locator :: rest =>
      let index := naturalIndex sources locator
      let crosses (other : Nat) : Bool :=
        decide (other ≠ locator.retainedSourceIndex) &&
          (met.getD other none).any fun bound => exceeds bound index
      if isNonDraw sources locator &&
          (List.range sources.length).any crosses then true
      else
        let bound :=
          ((met.getD locator.retainedSourceIndex none).map
            fun bound => extreme bound index).getD index
        movementScan sources exceeds extreme
          (met.set locator.retainedSourceIndex (some bound)) rest

/-- A later command of another source stands in front. -/
def prefixMaxMoved (sources : List MultiSourcePlanningSource)
    (commands : List RetainedSourceCommandLocator) : Bool :=
  movementScan sources (fun bound index => decide (bound > index)) max
    (List.replicate kMaxMultiSourcePlanningSources none) commands

/-- An earlier command of another source stands behind. -/
def suffixMinMoved (sources : List MultiSourcePlanningSource)
    (commands : List RetainedSourceCommandLocator) : Bool :=
  movementScan sources (fun bound index => decide (bound < index)) min
    (List.replicate kMaxMultiSourcePlanningSources none) commands.reverse

def validateMultiSourceReplayPermutation
    (sources : List MultiSourcePlanningSource)
    (commands : List RetainedSourceCommandLocator) :
    MultiSourceReplayValidation :=
  match validateSources sources with
  | none => .invalidSource
  | some totalCommands =>
      if commands.length < totalCommands then .missing
      else if commands.length > totalCommands then .duplicate
      else
        match commands.foldlM (markLocator sources)
            (List.replicate totalCommands false) with
        | .error validation => validation
        | .ok seen =>
            if !seen.all id then .missing
            else if prefixMaxMoved sources commands then
              .nonDrawCrossSourceMovement
            else if suffixMinMoved sources commands then
              .nonDrawCrossSourceMovement
            else .valid

/-! ## Plans and diagnostics -/

inductive MultiSourceReplayDisposition where
  | planned
  | naturalFifo
  | invalidInput
deriving DecidableEq

inductive MultiSourceSeedApplyDiagnostic where
  | notRequested
  | applied
  | invalid
  | incomplete
  | overflow
deriving DecidableEq

inductive MultiSourceActiveTargetMatchDiagnostic where
  | notRequested
  | absent
  | present
deriving DecidableEq

inductive MultiSourceFirstMatchingCommandDiagnostic where
  | none
  | drawRun
  | nonDraw
deriving DecidableEq

inductive MultiSourceMergeDiagnostic where
  | none
  | seedMerged
  | nonSeedOnly
deriving DecidableEq

/-- Exclusive terminal classification of one planning call. -/
inductive MultiSourcePlannerOutcome where
  | invalidInput
  | seedRejected
  | noActiveTargetMatch
  | noMerge
  | naturalAfterMerge
  | permutationRejected
  | movedHeadUnproved
  | planned
deriving DecidableEq

structure ActiveSeedMergeTargetWitness where
  retainedSourceIndex : Nat := 0
  commandIndex : Nat := 0
  mergeOrdinal : Nat := 0
  mergeDistance : Nat := 0
deriving DecidableEq

structure MultiSourceReplayDiagnostics where
  seedApply : MultiSourceSeedApplyDiagnostic := .notRequested
  activeTargetMatch : MultiSourceActiveTargetMatchDiagnostic := .notRequested
  firstMatchingCommand : MultiSourceFirstMatchingCommandDiagnostic := .none
  merge : MultiSourceMergeDiagnostic := .none
  outcome : MultiSourcePlannerOutcome := .invalidInput
  firstMatchingPassDistance : Nat := 0
  optimizerMergeCount : Nat := 0
  activeSeedMergeCount : Nat := 0
  activeSeedMergeDistanceTotal : Nat := 0
  activeSeedMergeDistanceMax : Nat := 0
  activeSeedCommandBefore : Nat := 0
  activeSeedCommandAfter : Nat := 0
  activeSeedEmptyIntervening : Nat := 0
  seedSecondNonDraw : Bool := false
  seedBlockedCycle : Bool := false
  interveningNonRender : Bool := false
  activeSeedMergeAttributionMissing : Bool := false
  activeSeedMergeWitnesses : List ActiveSeedMergeTargetWitness := []
  activeSeedMergeWitnessOverflow : Bool := false
  activeSeedMergeWitnessMismatch : Bool := false
deriving DecidableEq

structure MultiSourceReplayPlan where
  commands : List RetainedSourceCommandLocator := []
  disposition : MultiSourceReplayDisposition := .invalidInput
  validation : MultiSourceReplayValidation := .invalidSource
  diagnostics : MultiSourceReplayDiagnostics := {}
deriving DecidableEq

namespace MultiSourceReplayPlan

def valid (plan : MultiSourceReplayPlan) : Bool :=
  decide (plan.disposition ≠ .invalidInput) &&
    decide (plan.validation = .valid)

/-- Return the fallback with what has been diagnosed. -/
def stop (fallback : MultiSourceReplayPlan)
    (diagnostics : MultiSourceReplayDiagnostics)
    (outcome : MultiSourcePlannerOutcome) : MultiSourceReplayPlan :=
  { fallback with diagnostics := { diagnostics with outcome := outcome } }

end MultiSourceReplayPlan

/-- The validated natural order, or no plan for malformed sources. -/
def naturalFallback (sources : List MultiSourcePlanningSource) :
    MultiSourceReplayPlan :=
  match validateSources sources with
  | none => {}
  | some _ =>
      let commands := naturalPlan sources
      let validation :=
        validateMultiSourceReplayPermutation sources commands
      if validation = .valid then
        { commands := commands
          disposition := .naturalFifo
          validation := validation }
      else { validation := validation }

def seedApplyDiagnostic :
    ActiveRenderPlanningSeedResult → MultiSourceSeedApplyDiagnostic
  | .applied => .applied
  | .invalid => .invalid
  | .incomplete => .incomplete
  | .overflow => .overflow

/-- Inspect the first pass that continues the attachments of the seed. -/
def inspectActiveTargetMatch (graph : FrameGraph)
    (diagnostics : MultiSourceReplayDiagnostics) :
    MultiSourceReplayDiagnostics :=
  let continuesSeed (index : Nat) : Bool :=
    mergeable (graph.pass index) &&
      decide ((graph.pass index).targets = (graph.pass 0).targets)
  match (List.range' 1 (graph.passes.length - 1)).find? continuesSeed with
  | none => { diagnostics with activeTargetMatch := .absent }
  | some index =>
      let commands := (graph.pass index).commands
      let head := (graph.commands.getD commands.first default).kind
      { diagnostics with
        activeTargetMatch := .present
        firstMatchingPassDistance := min index u32Max
        firstMatchingCommand :=
          if commands.count ≠ 0 && commands.first < graph.commands.length &&
              commands.count ≤ graph.commands.length - commands.first then
            if head = .drawRun then .drawRun else .nonDraw
          else diagnostics.firstMatchingCommand
        interveningNonRender :=
          diagnostics.interveningNonRender ||
            (List.range' 1 (index - 1)).any fun intervening =>
              decide ((graph.pass intervening).kind ≠ .render) }

/-- The seed was merged into a live pass with commands. -/
def seedMerged (graph : FrameGraph) : Bool :=
  graph.passes.any fun pass =>
    pass.flags.activeRenderSeed && !pass.flags.dead &&
      decide (pass.commands.count ≠ 0)

/-! ## Merge diagnostics -/

/-- Locate the witnesses up to the first one that names no draw. -/
def locateWitnesses (sources : List MultiSourcePlanningSource) :
    List ActiveSeedMergeCommandWitness →
      List ActiveSeedMergeTargetWitness × Bool
  | [] => ([], false)
  | witness :: rest =>
      let locator :=
        locateFlattened sources witness.flattenedCommandIndex
      if witness.mergeDistance = 0 ||
          locator.retainedSourceIndex ≥ sources.length ||
          isNonDraw sources locator then
        ([], true)
      else
        let (located, mismatch) := locateWitnesses sources rest
        ({ retainedSourceIndex := locator.retainedSourceIndex
           commandIndex := locator.commandIndex
           mergeOrdinal := witness.mergeOrdinal
           mergeDistance := witness.mergeDistance } :: located, mismatch)

/-- Order by source, then command, then merge ordinal. -/
def witnessOrder (left right : ActiveSeedMergeTargetWitness) : Prop :=
  left.retainedSourceIndex < right.retainedSourceIndex ∨
    left.retainedSourceIndex = right.retainedSourceIndex ∧
      (left.commandIndex < right.commandIndex ∨
        left.commandIndex = right.commandIndex ∧
          left.mergeOrdinal ≤ right.mergeOrdinal)

instance : DecidableRel witnessOrder := fun _ _ =>
  inferInstanceAs (Decidable (_ ∨ _ ∧ (_ ∨ _ ∧ _)))

/-- Two neighbours name the same command. -/
def hasRepeatedTarget : List ActiveSeedMergeTargetWitness → Bool
  | previous :: current :: rest =>
      (decide (previous.retainedSourceIndex = current.retainedSourceIndex) &&
          decide (previous.commandIndex = current.commandIndex)) ||
        hasRepeatedTarget (current :: rest)
  | _ => false

/-- Publish the merge witnesses unless one of them is in doubt. -/
def publishWitnesses (sources : List MultiSourcePlanningSource)
    (sink : ActiveSeedMergeWitnessSink) (mergeCount : Nat)
    (diagnostics : MultiSourceReplayDiagnostics) :
    MultiSourceReplayDiagnostics :=
  if sink.overflow then
    { diagnostics with
      activeSeedMergeWitnessOverflow := true
      activeSeedMergeWitnesses := [] }
  else
    let (located, unlocated) := locateWitnesses sources sink.storage
    let sorted := located.insertionSort witnessOrder
    let mismatch :=
      unlocated || decide (located.length ≠ mergeCount) ||
        hasRepeatedTarget sorted
    { diagnostics with
      activeSeedMergeWitnessOverflow := false
      activeSeedMergeWitnessMismatch := mismatch
      activeSeedMergeWitnesses := if mismatch then [] else sorted }

/-- The attribution counters of a merged seed contradict each other. -/
def attributionMissing (diagnostics : MultiSourceReplayDiagnostics) : Bool :=
  let intervening :=
    diagnostics.activeSeedCommandBefore +
      diagnostics.activeSeedCommandAfter +
      diagnostics.activeSeedEmptyIntervening
  decide (diagnostics.activeSeedMergeCount = 0) ||
    decide (diagnostics.optimizerMergeCount <
      diagnostics.activeSeedMergeCount) ||
    decide (diagnostics.activeSeedMergeDistanceMax = 0) ||
    decide (diagnostics.activeSeedMergeDistanceTotal <
      diagnostics.activeSeedMergeCount) ||
    decide (diagnostics.activeSeedMergeDistanceMax >
      diagnostics.activeSeedMergeDistanceTotal) ||
    decide (intervening ≠ diagnostics.activeSeedMergeDistanceTotal -
      diagnostics.activeSeedMergeCount)

/-- Copy the counters of the optimizer run. -/
def recordStats (stats : OptimizerStats)
    (diagnostics : MultiSourceReplayDiagnostics) :
    MultiSourceReplayDiagnostics :=
  { diagnostics with
    seedSecondNonDraw := decide (stats.passCoalesceSecondNonDraw ≠ 0)
    seedBlockedCycle := decide (stats.passCoalesceBlockedCycle ≠ 0)
    optimizerMergeCount := stats.passCoalescedCount
    activeSeedMergeCount := stats.passCoalesceActiveSeedMergeCount
    activeSeedMergeDistanceTotal :=
      stats.passCoalesceActiveSeedMergeDistanceTotal
    activeSeedMergeDistanceMax :=
      stats.passCoalesceActiveSeedMergeDistanceMax
    activeSeedCommandBefore := stats.passCoalesceActiveSeedCommandBefore
    activeSeedCommandAfter := stats.passCoalesceActiveSeedCommandAfter
    activeSeedEmptyIntervening :=
      stats.passCoalesceActiveSeedEmptyIntervening }

/-- Everything diagnosed about one optimizer run. -/
def diagnoseMerges (sources : List MultiSourcePlanningSource)
    (optimized : FrameGraph) (stats : OptimizerStats)
    (witnesses : Option ActiveSeedMergeWitnessSink)
    (diagnostics : MultiSourceReplayDiagnostics) :
    MultiSourceReplayDiagnostics :=
  let counted := recordStats stats diagnostics
  let witnessed :=
    match witnesses with
    | none => counted
    | some sink =>
        publishWitnesses sources sink
          stats.passCoalesceActiveSeedMergeCount counted
  if stats.passCoalescedCount = 0 then { witnessed with merge := .none }
  else if seedMerged optimized then
    { witnessed with
      merge := .seedMerged
      activeSeedMergeAttributionMissing := attributionMissing witnessed }
  else { witnessed with merge := .nonSeedOnly }

structure FlattenScan where
  commands : List RetainedSourceCommandLocator := []
  seen : List Bool := []
deriving DecidableEq

/-- Locate one reference; `none` rejects the permutation. -/
def flattenCommand (sources : List MultiSourcePlanningSource)
    (commandBase : Nat) (scan : FlattenScan) (ref : CommandRef) :
    Option FlattenScan :=
  if ref.commandIndex ≥ commandBase ||
      scan.seen.getD ref.commandIndex false then none
  else
    let locator := locateFlattened sources ref.commandIndex
    if locator.retainedSourceIndex ≥ sources.length ||
        decide ((commandAt sources locator).kind ≠ ref.kind) then none
    else
      some
        { commands := scan.commands ++ [locator]
          seen := scan.seen.set ref.commandIndex true }

def flattenPass (sources : List MultiSourcePlanningSource)
    (commandBase : Nat) (graph : FrameGraph) (scan : FlattenScan)
    (pass : PassNode) : Option FlattenScan :=
  if pass.flags.dead || !validCommandRange graph pass then none
  else
    (graph.commandsOf pass).foldlM (flattenCommand sources commandBase) scan

/-- The commands of all passes in pass order, when each occurs once. -/
def flattenGraph (sources : List MultiSourcePlanningSource)
    (commandBase : Nat) (graph : FrameGraph) :
    Option (List RetainedSourceCommandLocator) :=
  match graph.passes.foldlM (flattenPass sources commandBase graph)
      { seen := List.replicate commandBase false } with
  | none => none
  | some scan => if scan.seen.all id then some scan.commands else none

/-- Append the graph of each source behind the graphs before it. -/
def appendSources (resolver : ResourceAliasResolver) :
    List MultiSourcePlanningSource → Nat → Nat → FrameGraph →
      Option FrameGraph
  | [], _, _, combined => some combined
  | source :: rest, sourceIndex, commandBase, combined =>
      let graph := buildFrameGraph source.payload sourceIndex resolver
      match appendSourceGraph combined graph commandBase with
      | none => none
      | some appended =>
          appendSources resolver rest (sourceIndex + 1)
            (commandBase + source.commandCount) appended

/-- The merge witnesses are collected only for a seeded graph. -/
def planningInputs (graph : FrameGraph) (collectWitnesses : Bool) :
    OptimizerInputs where
  report :=
    { stats := some {}
      witnesses :=
        if collectWitnesses then
          some { capacity := graph.passes.length - 1 }
        else none }

/-- Publish the flattened order unless one of the last checks fails. -/
def publishPlan (sources : List MultiSourcePlanningSource)
    (fallback : MultiSourceReplayPlan)
    (diagnostics : MultiSourceReplayDiagnostics) (optimized : FrameGraph)
    (seeded : Bool) (commands : List RetainedSourceCommandLocator) :
    MultiSourceReplayPlan :=
  let validation := validateMultiSourceReplayPermutation sources commands
  let head := commands.headD default
  if validation ≠ .valid then
    fallback.stop diagnostics .permutationRejected
  else if commands = fallback.commands then
    fallback.stop diagnostics .naturalAfterMerge
  else if seeded && decide (head ≠ fallback.commands.headD default) &&
      !activeRenderPlanningSeedProvesReplayHead optimized
        (naturalIndex sources head) then
    fallback.stop diagnostics .movedHeadUnproved
  else
    { commands := commands
      disposition := .planned
      validation := validation
      diagnostics := { diagnostics with outcome := .planned } }

/-- Coalesce the prepared graph and flatten it into a plan. -/
def planPreparedGraph (sources : List MultiSourcePlanningSource)
    (fallback : MultiSourceReplayPlan)
    (diagnostics : MultiSourceReplayDiagnostics) (graph : FrameGraph)
    (seeded collectWitnesses : Bool) : MultiSourceReplayPlan :=
  let (optimized, report) :=
    runOptimizer graph { passcoalesce := true }
      (planningInputs graph (collectWitnesses && seeded))
  let stats := report.stats.getD {}
  let diagnostics :=
    diagnoseMerges sources optimized stats report.witnesses diagnostics
  if stats.passCoalescedCount = 0 then
    fallback.stop diagnostics
      (if diagnostics.activeTargetMatch = .absent then .noActiveTargetMatch
      else .noMerge)
  else
    match flattenGraph sources (sourceBase sources sources.length)
        optimized with
    | none => fallback.stop diagnostics .permutationRejected
    | some commands =>
        publishPlan sources fallback diagnostics optimized seeded commands

/-- Plan one window; every rejected optimization is the natural order. -/
def planMultiSourcePassCoalesceReplay
    (sources : List MultiSourcePlanningSource)
    (activeRenderSeed : Option ActiveRenderPlanningSeed)
    (resolver : ResourceAliasResolver)
    (collectActiveSeedMergeWitnesses : Bool) : MultiSourceReplayPlan :=
  let fallback := naturalFallback sources
  if !fallback.valid then fallback
  else
    match appendSources resolver sources 0 0 {} with
    | none => fallback.stop fallback.diagnostics .invalidInput
    | some appended =>
        let combined := inferCombinedHazards appended
        match activeRenderSeed with
        | none =>
            planPreparedGraph sources fallback fallback.diagnostics combined
              false collectActiveSeedMergeWitnesses
        | some seed =>
            let (result, seeded) :=
              applyActiveRenderPlanningSeed combined seed resolver
            let diagnostics :=
              { fallback.diagnostics with
                seedApply := seedApplyDiagnostic result }
            if result ≠ .applied then
              fallback.stop diagnostics .seedRejected
            else
              planPreparedGraph sources fallback
                (inspectActiveTargetMatch seeded diagnostics) seeded true
                collectActiveSeedMergeWitnesses

end Dxmt9.Framegraph
