import Dxmt9.Framegraph.MultiSource
import Dxmt9.Tape.Entry

/-!
# The deferred terminal suffix

A source that draws to A, clears B and draws to B, followed by a source that
draws to A again, may replay the second draw to A in front of the suffix at
B.  The planner of `fg_multi_source_planner.cpp` derives the hazards of this
one movement by hand: it collects the canonical resources of both attachment
sets, and it looks the textures of the two draws up in them.
-/

namespace Dxmt9.Framegraph

open Dxmt9.Tape

/-! ## Sources and proofs -/

structure DeferredTerminalSuffixPlanningSourceView where
  payload : SourcePayloadView := {}
  source : SourceRef := {}
  sourceOrdinal : UInt64 := 0
  seqId : UInt64 := 0
deriving DecidableEq

structure SourceCommandRange where
  source : SourceRef := {}
  sourceOrdinal : UInt64 := 0
  seqId : UInt64 := 0
  commandBegin : Nat := 0
  commandCount : Nat := 0
deriving DecidableEq

abbrev kDeferredTerminalSuffixSourceCount : Nat := 2

abbrev kDeferredTerminalSuffixCommandCount : Nat := 4

/-- The ranges, seed and attachments of a movement, and both orders. -/
structure DeferredTerminalSuffixProof where
  currentPrefix : SourceCommandRange := {}
  currentSuffix : SourceCommandRange := {}
  successorHead : SourceCommandRange := {}
  activeRender : ActiveRenderPlanningSeed := {}
  currentAttachmentA : AttachmentSet := {}
  clearAttachmentB : AttachmentSet := {}
  naturalReplay : Vector RetainedSourceCommandLocator
      kDeferredTerminalSuffixCommandCount :=
    Vector.replicate _ {}
  joinedReplay : Vector RetainedSourceCommandLocator
      kDeferredTerminalSuffixCommandCount :=
    Vector.replicate _ {}
deriving DecidableEq

inductive DeferredTerminalSuffixDisposition where
  | invalidInput
  | staleIdentity
  | unsupportedShape
  | unsupportedBoundary
  | malformedRange
  | attachmentMismatch
  | dependencyWedged
  | incompleteCoverage
  | qualified
deriving DecidableEq

structure DeferredTerminalSuffixPlan where
  proof : DeferredTerminalSuffixProof := {}
  disposition : DeferredTerminalSuffixDisposition := .invalidInput
deriving DecidableEq

def DeferredTerminalSuffixPlan.qualified (plan : DeferredTerminalSuffixPlan) :
    Bool :=
  decide (plan.disposition = .qualified)

inductive DeferredTerminalSuffixReplayValidation where
  | valid
  | invalidProof
  | staleIdentity
  | invalidSource
  | invalidCommand
  | duplicate
  | missing
  | unsupportedMovement
deriving DecidableEq

/-- An attachment set with a sample count and a bound attachment. -/
def boundAttachmentSet (set : AttachmentSet) : Option AttachmentSet :=
  if set.sampleCount ≠ 0 && (set.colorCount ≠ 0 || set.depth ≠ 0) then
    some set
  else none

/-- The attachments of a well-formed draw; `none` is a false `valid`. -/
def drawAttachmentSet (source : SourceCommandView) : Option AttachmentSet :=
  match source.kind, source.drawRunRecord, source.hot with
  | .drawRun, some record, some hot =>
      if record.paramCount = 0 ||
          source.drawParamCount ≠ record.paramCount then none
      else if (Builder.boundTextures hot).contains 0 then none
      -- A bit beyond the texture stages remains in the mask.
      else if hot.textureMask >>> kMaxTextures ≠ 0 then none
      else
        boundAttachmentSet
          (bindDepthAttachment hot.depthStencil
            ((List.finRange kMaxRenderTargets).foldl
              (bindColorAttachment hot.colorAttachments) {}))
  | _, _, _ => none

/-- The attachments of a full clear. -/
def clearAttachmentSet (source : SourceCommandView)
    (aliasResolver : ResourceAliasResolver) : Option AttachmentSet :=
  match source.kind, source.clear with
  | .clear, some clear =>
      if clear.rectCount ≠ 0 ||
          !(clear.clearColor || clear.clearDepth || clear.clearStencil) then
        none
      else
        let colors : AttachmentSet :=
          if clear.clearColor then
            (List.finRange kMaxRenderTargets).foldl
              (bindColorAttachment clear.colorAttachments) {}
          else {}
        if clear.clearDepth || clear.clearStencil then
          if aliasResolver.depthStencilClearCoversResource
              clear.depthStencil.handle clear.clearDepth
              clear.clearStencil then
            boundAttachmentSet
              (bindDepthAttachment clear.depthStencil colors)
          else none
        else boundAttachmentSet colors
  | _, _ => none

def validSourceIdentity (source : DeferredTerminalSuffixPlanningSourceView) :
    Bool :=
  source.payload.valid && source.source.valid && source.sourceOrdinal != 0 &&
    source.seqId != 0 && decide (source.payload.commandCount ≤ u32Max)

/-- The successor is the next source and the next sequence. -/
def exactSuccessorIdentity
    (current successor : DeferredTerminalSuffixPlanningSourceView) : Bool :=
  validSourceIdentity current && validSourceIdentity successor &&
    current.source.id.index != successor.source.id.index &&
    current.sourceOrdinal != 0xffffffffffffffff &&
    current.seqId != 0xffffffffffffffff &&
    successor.sourceOrdinal == current.sourceOrdinal + 1 &&
    successor.seqId == current.seqId + 1

/-! ## Resources -/

abbrev kDeferredAttachmentResourceCapacity : Nat := kMaxRenderTargets + 1

/-- Add a canonical resource once; a handle without one is an error. -/
def appendCanonicalResource (aliasResolver : ResourceAliasResolver)
    (resources : List Handle) (raw : Handle) : Option (List Handle) :=
  if raw = 0 then some resources
  else
    let canonical := aliasResolver.apply raw
    if canonical = 0 then none
    else if resources.contains canonical then some resources
    else if resources.length = kDeferredAttachmentResourceCapacity then none
    else some (resources ++ [canonical])

/-- The canonical resources of an attachment set. -/
def collectAttachmentResources (attachments : AttachmentSet)
    (aliasResolver : ResourceAliasResolver) : Option (List Handle) :=
  if attachments.colorCount > kMaxRenderTargets ||
      attachments.colorCount > attachments.color.size then none
  else
    (Builder.boundColors attachments ++ [attachments.depth]).foldlM
      (appendCanonicalResource aliasResolver) []

def attachmentResourcesIntersect (left right : List Handle) : Bool :=
  left.any right.contains

/-- A draw samples one of the resources, by its own texture handles. -/
def drawReadsAttachmentResources (draw : SourceCommandView)
    (resources : List Handle) : Bool :=
  match draw.hot with
  -- Only reached for draws with state.
  | none => false
  | some hot => (Builder.boundTextures hot).any resources.contains

/-- The open pass writes every resource of the attachments. -/
def activeRenderSeedCoversAttachments (seed : ActiveRenderPlanningSeed)
    (attachments : AttachmentSet) (aliasResolver : ResourceAliasResolver) :
    Bool :=
  if !seed.complete || seed.targets ≠ attachments ||
      seed.dependencyCount = 0 ||
      seed.dependencyCount > seed.writeDependencies.size then false
  else
    let written := seed.writeDependencies.toList.take seed.dependencyCount
    let dependencies :=
      written.foldlM
        (fun resources raw =>
          if raw = 0 then none
          else appendCanonicalResource aliasResolver resources raw) []
    match dependencies, collectAttachmentResources attachments aliasResolver
      with
    | some dependencies, some targets =>
        targets.length != 0 && targets.all dependencies.contains
    | _, _ => false

def activeSeedsEqual (left right : ActiveRenderPlanningSeed) : Bool :=
  left.targets == right.targets &&
    left.writeDependencies == right.writeDependencies &&
    left.dependencyCount == right.dependencyCount &&
    left.complete == right.complete

def proofsEqual (left right : DeferredTerminalSuffixProof) : Bool :=
  left.currentPrefix == right.currentPrefix &&
    left.currentSuffix == right.currentSuffix &&
    left.successorHead == right.successorHead &&
    activeSeedsEqual left.activeRender right.activeRender &&
    left.currentAttachmentA == right.currentAttachmentA &&
    left.clearAttachmentB == right.clearAttachmentB &&
    left.naturalReplay == right.naturalReplay &&
    left.joinedReplay == right.joinedReplay

/-- Consecutive commands of a source. -/
def DeferredTerminalSuffixPlanningSourceView.range
    (source : DeferredTerminalSuffixPlanningSourceView)
    (commandBegin commandCount : Nat) : SourceCommandRange where
  source := source.source
  sourceOrdinal := source.sourceOrdinal
  seqId := source.seqId
  commandBegin := commandBegin
  commandCount := commandCount

/-- A, the clear of B, the draw to B, and the successor. -/
def suffixNaturalReplay : Vector RetainedSourceCommandLocator
    kDeferredTerminalSuffixCommandCount :=
  #v[⟨0, 0⟩, ⟨0, 1⟩, ⟨0, 2⟩, ⟨1, 0⟩]

/-- The successor moves in front of the clear of B. -/
def suffixJoinedReplay : Vector RetainedSourceCommandLocator
    kDeferredTerminalSuffixCommandCount :=
  #v[⟨0, 0⟩, ⟨1, 0⟩, ⟨0, 1⟩, ⟨0, 2⟩]

/-- The proof of a qualified plan. -/
def suffixProof
    (current successor : DeferredTerminalSuffixPlanningSourceView)
    (activeRender : ActiveRenderPlanningSeed)
    (currentATargets clearBTargets : AttachmentSet) :
    DeferredTerminalSuffixProof where
  currentPrefix := current.range 0 1
  currentSuffix := current.range 1 2
  successorHead := successor.range 0 1
  activeRender := activeRender
  currentAttachmentA := currentATargets
  clearAttachmentB := clearBTargets
  naturalReplay := suffixNaturalReplay
  joinedReplay := suffixJoinedReplay

/-- The checks on the four commands, once their shape is known. -/
def classifySuffixCommands
    (current successor : DeferredTerminalSuffixPlanningSourceView)
    (activeRender : ActiveRenderPlanningSeed)
    (aliasResolver : ResourceAliasResolver)
    (currentA clearB currentB successorA : SourceCommandView) :
    DeferredTerminalSuffixPlan :=
  match drawAttachmentSet currentA, drawAttachmentSet currentB,
      drawAttachmentSet successorA,
      clearAttachmentSet clearB aliasResolver with
  | some currentATargets, some currentBTargets, some successorATargets,
      some clearBTargets =>
      if activeRender.targets ≠ currentATargets ||
          successorATargets ≠ currentATargets ||
          clearBTargets ≠ currentBTargets ||
          currentATargets = currentBTargets then
        { disposition := .attachmentMismatch }
      else if !activeRenderSeedCoversAttachments activeRender
          currentATargets aliasResolver then
        { disposition := .incompleteCoverage }
      else
        match collectAttachmentResources currentATargets aliasResolver,
            collectAttachmentResources currentBTargets aliasResolver with
        | some resourcesA, some resourcesB =>
            if attachmentResourcesIntersect resourcesA resourcesB ||
                drawReadsAttachmentResources currentB resourcesA ||
                drawReadsAttachmentResources successorA resourcesB then
              { disposition := .dependencyWedged }
            else
              { proof := suffixProof current successor activeRender
                  currentATargets clearBTargets
                disposition := .qualified }
        | _, _ => { disposition := .incompleteCoverage }
  | _, _, _, _ => { disposition := .malformedRange }

def classifyDeferredTerminalSuffixReplay
    (current successor : DeferredTerminalSuffixPlanningSourceView)
    (activeRender : ActiveRenderPlanningSeed)
    (aliasResolver : ResourceAliasResolver) : DeferredTerminalSuffixPlan :=
  if !current.payload.valid || !successor.payload.valid then {}
  else if !exactSuccessorIdentity current successor then
    { disposition := .staleIdentity }
  else if current.payload.commandCount ≠ 3 ||
      successor.payload.commandCount ≠ 1 then
    { disposition := .unsupportedShape }
  else
    let currentA := current.payload.commandAt 0
    let clearB := current.payload.commandAt 1
    let currentB := current.payload.commandAt 2
    let successorA := successor.payload.commandAt 0
    if currentA.kind ≠ .drawRun || clearB.kind ≠ .clear ||
        currentB.kind ≠ .drawRun || successorA.kind ≠ .drawRun then
      { disposition := .unsupportedBoundary }
    else
      classifySuffixCommands current successor activeRender aliasResolver
        currentA clearB currentB successorA

def planDeferredTerminalSuffixReplay :
    DeferredTerminalSuffixPlanningSourceView →
      DeferredTerminalSuffixPlanningSourceView →
      ActiveRenderPlanningSeed → ResourceAliasResolver →
      DeferredTerminalSuffixPlan :=
  classifyDeferredTerminalSuffixReplay

/-- Mark one command of the replay. -/
def markSuffixCommand (seen : List Bool)
    (command : RetainedSourceCommandLocator) :
    Except DeferredTerminalSuffixReplayValidation (List Bool) :=
  if command.retainedSourceIndex ≥ kDeferredTerminalSuffixSourceCount then
    .error .invalidSource
  else
    let commandCount := if command.retainedSourceIndex = 0 then 3 else 1
    if command.commandIndex ≥ commandCount then .error .invalidCommand
    else
      let flattened :=
        if command.retainedSourceIndex = 0 then command.commandIndex
        else 3 + command.commandIndex
      if seen.getD flattened false then .error .duplicate
      else .ok (seen.set flattened true)

/-- The ranges of a proof name both sources. -/
def namesSources (proof : DeferredTerminalSuffixProof)
    (current successor : DeferredTerminalSuffixPlanningSourceView) : Bool :=
  let names (range : SourceCommandRange)
      (source : DeferredTerminalSuffixPlanningSourceView) : Bool :=
    range.source == source.source &&
      range.sourceOrdinal == source.sourceOrdinal &&
      range.seqId == source.seqId
  names proof.currentPrefix current && names proof.currentSuffix current &&
    names proof.successorHead successor

/-- The checks on the list of commands. -/
def validateSuffixCommands (proof : DeferredTerminalSuffixProof)
    (commands : List RetainedSourceCommandLocator) :
    DeferredTerminalSuffixReplayValidation :=
  if commands.length < kDeferredTerminalSuffixCommandCount then .missing
  else if commands.length > kDeferredTerminalSuffixCommandCount then
    .duplicate
  else
    match commands.foldlM markSuffixCommand
        (List.replicate kDeferredTerminalSuffixCommandCount false) with
    | .error verdict => verdict
    | .ok seen =>
        if seen.contains false then .missing
        else if commands ≠ proof.joinedReplay.toList then
          .unsupportedMovement
        else .valid

def validateDeferredTerminalSuffixReplay
    (current successor : DeferredTerminalSuffixPlanningSourceView)
    (activeRender : ActiveRenderPlanningSeed)
    (proof : DeferredTerminalSuffixProof)
    (commands : List RetainedSourceCommandLocator)
    (aliasResolver : ResourceAliasResolver) :
    DeferredTerminalSuffixReplayValidation :=
  if !namesSources proof current successor then .staleIdentity
  else
    let fresh :=
      classifyDeferredTerminalSuffixReplay current successor activeRender
        aliasResolver
    if fresh.disposition = .staleIdentity then .staleIdentity
    else if !fresh.qualified || !proofsEqual fresh.proof proof then
      .invalidProof
    else validateSuffixCommands proof commands

end Dxmt9.Framegraph
