import Dxmt9.Framegraph.DeferredSuffix
import Dxmt9.Framegraph.PassOutline

/-!
# Legality of the deferred suffix

Only the clear of B and the draw to B change their order with the successor.
The accesses that the graph builder records for these commands are writes of
the collected resources and reads of the bound textures, so a qualified plan
reorders no two conflicting commands.  The validator accepts the joined order
of a plan for its own sources and seed and nothing else.
-/

namespace Dxmt9.Framegraph

open Dxmt9.Order

/-! ## Accesses of one command -/

/-- What the builder records for a command in a graph of its own. -/
def commandAccesses (resolver : ResourceAliasResolver)
    (command : SourceCommandView) (handle : Handle) : List AccessKind :=
  (buildFrameGraph { commands := [command] } 0 resolver).accessesIn handle 0

/-- Both commands access one canonical resource and one of them writes. -/
def CommandsConflict (resolver : ResourceAliasResolver)
    (first second : SourceCommandView) : Prop :=
  ∃ handle, ∃ firstKind ∈ commandAccesses resolver first handle,
    ∃ secondKind ∈ commandAccesses resolver second handle,
      accessWrites firstKind = true ∨ accessWrites secondKind = true

section

variable {resolver : ResourceAliasResolver}
  {first second : SourceCommandView}

theorem CommandsConflict.symm (conflict : CommandsConflict resolver first
    second) : CommandsConflict resolver second first := by
  obtain ⟨handle, firstKind, inFirst, secondKind, inSecond, writes⟩ := conflict
  exact ⟨handle, secondKind, inSecond, firstKind, inFirst, writes.symm⟩

end

variable {kind : AccessKind} {handles : List Handle} {handle : Handle}

variable {resolver : ResourceAliasResolver}

theorem mem_notedAccesses
    {noted : AccessKind} {resolveAlias : Bool} :
    (handle, noted) ∈ notedAccesses resolver kind resolveAlias handles ↔
      noted = kind ∧ handle ≠ 0 ∧ ∃ raw ∈ handles, raw ≠ 0 ∧
        handle = if resolveAlias then resolver.apply raw else raw := by
  unfold notedAccesses
  rw [List.mem_filterMap]
  simp only [Bool.or_eq_true, decide_eq_true_eq, Option.ite_none_left_eq_some,
    not_or, Option.some.injEq, Prod.mk.injEq]
  constructor
  · rintro ⟨raw, member, ⟨bound, nonzero⟩, rfl, rfl⟩
    exact ⟨rfl, nonzero, raw, member, bound, rfl⟩
  · rintro ⟨rfl, nonzero, raw, member, bound, rfl⟩
    exact ⟨raw, member, ⟨bound, nonzero⟩, rfl, rfl⟩

theorem mem_accessesOf {pass : PassOutline} :
    kind ∈ pass.accessesOf handle ↔ (handle, kind) ∈ pass.accesses := by
  unfold PassOutline.accessesOf
  simp

theorem mem_commandAccesses
    {command : SourceCommandView} {outline : PassOutline}
    (only : passesFrom resolver none 0 [command] = [outline]) :
    kind ∈ commandAccesses resolver command handle ↔
      (handle, kind) ∈ outline.accesses := by
  have shows := buildFrameGraph_shows { commands := [command] } 0 resolver
  unfold commandAccesses
  rw [shows.log]
  change kind ∈ (List.getD (passesFrom resolver none 0 [command]) 0
    default).accessesOf handle ↔ _
  rw [only]
  exact mem_accessesOf

theorem mem_commandAccesses_draw
    {command : SourceCommandView} (draw : command.kind = .drawRun)
    {hot : FlatDrawStateRecord} (state : command.hot = some hot)
    (accessed : kind ∈ commandAccesses resolver command handle) :
    (∃ raw ∈ Builder.boundColors (attachmentSetFromHot hot) ++
        [(attachmentSetFromHot hot).depth],
      raw ≠ 0 ∧ handle = resolver.apply raw) ∨
      kind = .read ∧ handle ∈ Builder.boundTextures hot := by
  have only : passesFrom resolver none 0 [command] =
      [(PassOutline.opened (attachmentSetFromHot hot)
        (notedAccesses resolver .write true
            (Builder.boundColors (attachmentSetFromHot hot)) ++
          notedAccesses resolver .write true
            [(attachmentSetFromHot hot).depth])).addDraw command 0
        (notedAccesses resolver .read false
          (Builder.boundTextures hot))] := by
    simp [passesFrom, passEffect, draw, state, continuedPass]
  rw [mem_commandAccesses only] at accessed
  simp only [PassOutline.addDraw, PassOutline.opened, List.mem_append,
    mem_notedAccesses] at accessed
  rcases accessed with (colors | depth) | textures
  · obtain ⟨-, -, raw, member, bound, canonical⟩ := colors
    exact Or.inl ⟨raw, List.mem_append_left _ member, bound, canonical⟩
  · obtain ⟨-, -, raw, member, bound, canonical⟩ := depth
    exact Or.inl ⟨raw, List.mem_append_right _ member, bound, canonical⟩
  · obtain ⟨read, -, raw, member, -, rfl⟩ := textures
    exact Or.inr ⟨read, member⟩

theorem mem_commandAccesses_clear
    {command : SourceCommandView} (clears : command.kind = .clear)
    {clear : ClearCommandView} (state : command.clear = some clear)
    (accessed : kind ∈ commandAccesses resolver command handle) :
    ∃ raw ∈ Builder.boundColors (attachmentSetFromClear clear) ++
        [(attachmentSetFromClear clear).depth],
      raw ≠ 0 ∧ handle = resolver.apply raw := by
  have only : passesFrom resolver none 0 [command] =
      [PassOutline.ofClear (attachmentSetFromClear clear) 0
        (clearAccesses resolver clear)] := by
    simp [passesFrom, passEffect, clears, state]
  rw [mem_commandAccesses only] at accessed
  simp only [PassOutline.ofClear, PassOutline.opened, clearAccesses,
    List.mem_append, mem_notedAccesses] at accessed
  rcases accessed with colors | depth
  · obtain ⟨-, -, raw, member, bound, canonical⟩ := colors
    exact ⟨raw, List.mem_append_left _ member, bound, canonical⟩
  · obtain ⟨-, -, raw, member, bound, canonical⟩ := depth
    exact ⟨raw, List.mem_append_right _ member, bound, canonical⟩

variable {targets : AttachmentSet}

theorem boundAttachmentSet_some {set : AttachmentSet}
    (bound : boundAttachmentSet set = some targets) : targets = set := by
  unfold boundAttachmentSet at bound
  split at bound
  case isTrue => exact (Option.some.inj bound).symm
  case isFalse => exact nomatch bound

theorem drawAttachmentSet_some {command : SourceCommandView}
    (valid : drawAttachmentSet command = some targets) :
    command.kind = .drawRun ∧ ∃ hot, command.hot = some hot ∧
      targets = attachmentSetFromHot hot := by
  unfold drawAttachmentSet at valid
  split at valid
  case h_1 record hot kind _ state =>
    refine ⟨kind, hot, state, ?_⟩
    split at valid
    case isTrue => exact nomatch valid
    case isFalse =>
      split at valid
      case isTrue => exact nomatch valid
      case isFalse =>
        split at valid
        case isTrue => exact nomatch valid
        case isFalse => exact boundAttachmentSet_some valid
  case h_2 => exact nomatch valid

theorem clearAttachmentSet_some {command : SourceCommandView}
    (valid : clearAttachmentSet command resolver = some targets) :
    command.kind = .clear ∧ ∃ clear, command.clear = some clear ∧
      targets = attachmentSetFromClear clear := by
  unfold clearAttachmentSet at valid
  split at valid
  case h_1 clear kind state =>
    refine ⟨kind, clear, state, ?_⟩
    split at valid
    case isTrue => exact nomatch valid
    case isFalse =>
      unfold attachmentSetFromClear
      simp only at valid
      split at valid
      case isTrue depth =>
        rw [if_pos depth]
        split at valid
        case isTrue => exact boundAttachmentSet_some valid
        case isFalse => exact nomatch valid
      case isFalse depth =>
        rw [if_neg depth]
        exact boundAttachmentSet_some valid
  case h_2 => exact nomatch valid

/-- The four commands passed every check of the planner. -/
structure SuffixCommands (resolver : ResourceAliasResolver)
    (clearB currentB successorA : SourceCommandView)
    (targetsA targetsB : AttachmentSet) (resourcesA resourcesB : List Handle) :
    Prop where
  clear : clearAttachmentSet clearB resolver = some targetsB
  draw : drawAttachmentSet currentB = some targetsB
  moved : drawAttachmentSet successorA = some targetsA
  collectedA : collectAttachmentResources targetsA resolver = some resourcesA
  collectedB : collectAttachmentResources targetsB resolver = some resourcesB
  apart : attachmentResourcesIntersect resourcesA resourcesB = false
  drawReads : drawReadsAttachmentResources currentB resourcesA = false
  movedReads : drawReadsAttachmentResources successorA resourcesB = false

variable {current successor : DeferredTerminalSuffixPlanningSourceView}
  {activeRender : ActiveRenderPlanningSeed}

theorem classifySuffixCommands_qualified
    {currentA clearB currentB successorA : SourceCommandView}
    (qualified : (classifySuffixCommands current successor activeRender
      resolver currentA clearB currentB successorA).qualified = true) :
    ∃ targetsA targetsB resourcesA resourcesB,
      (classifySuffixCommands current successor activeRender resolver
          currentA clearB currentB successorA).proof =
        suffixProof current successor activeRender targetsA targetsB ∧
      SuffixCommands resolver clearB currentB successorA targetsA targetsB
        resourcesA resourcesB := by
  generalize result : classifySuffixCommands current successor activeRender
    resolver currentA clearB currentB successorA = plan at qualified ⊢
  unfold classifySuffixCommands at result
  split at result
  case h_2 => subst result; exact nomatch qualified
  case h_1 targetsA targetsB movedTargets clearTargets _ draw moved clear =>
    split at result
    case isTrue => subst result; exact nomatch qualified
    case isFalse matched =>
      simp only [Bool.or_eq_true, decide_eq_true_eq, not_or,
        not_not] at matched
      obtain ⟨⟨⟨-, sameA⟩, sameB⟩, -⟩ := matched
      subst sameA sameB
      split at result
      case isTrue => subst result; exact nomatch qualified
      case isFalse =>
        split at result
        case h_2 => subst result; exact nomatch qualified
        case h_1 resourcesA resourcesB collectedA collectedB =>
          split at result
          case isTrue => subst result; exact nomatch qualified
          case isFalse free =>
            simp only [Bool.or_eq_true, not_or, Bool.not_eq_true] at free
            obtain ⟨⟨apart, drawReads⟩, movedReads⟩ := free
            subst result
            exact ⟨_, _, resourcesA, resourcesB, rfl, clear, draw, moved,
              collectedA, collectedB, apart, drawReads, movedReads⟩

theorem planDeferredTerminalSuffixReplay_qualified
    (qualified : (planDeferredTerminalSuffixReplay current successor
      activeRender resolver).qualified = true) :
    ∃ targetsA targetsB resourcesA resourcesB,
      (planDeferredTerminalSuffixReplay current successor activeRender
          resolver).proof =
        suffixProof current successor activeRender targetsA targetsB ∧
      SuffixCommands resolver (current.payload.commandAt 1)
        (current.payload.commandAt 2) (successor.payload.commandAt 0)
        targetsA targetsB resourcesA resourcesB := by
  unfold planDeferredTerminalSuffixReplay at qualified ⊢
  generalize result : classifyDeferredTerminalSuffixReplay current successor
    activeRender resolver = plan at qualified ⊢
  unfold classifyDeferredTerminalSuffixReplay at result
  split at result
  case isTrue => subst result; exact nomatch qualified
  case isFalse =>
    split at result
    case isTrue => subst result; exact nomatch qualified
    case isFalse =>
      split at result
      case isTrue => subst result; exact nomatch qualified
      case isFalse =>
        simp only at result
        split at result
        case isTrue => subst result; exact nomatch qualified
        case isFalse =>
          subst result
          exact classifySuffixCommands_qualified qualified

/-! ## Hazards -/

variable {resources : List Handle} {raw : Handle}

/-- Collecting keeps what was collected. -/
theorem appendCanonicalResource_some
    {more : List Handle}
    (appended : appendCanonicalResource resolver resources raw = some more) :
    (∀ handle ∈ resources, handle ∈ more) ∧
      (raw ≠ 0 → resolver.apply raw ∈ more) := by
  unfold appendCanonicalResource at appended
  split at appended
  case isTrue null =>
    cases appended
    exact ⟨fun _ => id, fun bound => absurd null bound⟩
  case isFalse =>
    simp only at appended
    split at appended
    case isTrue => exact nomatch appended
    case isFalse =>
      split at appended
      case isTrue found =>
        cases appended
        exact ⟨fun _ => id, fun _ => List.contains_iff_mem.mp found⟩
      case isFalse =>
        split at appended
        case isTrue => exact nomatch appended
        case isFalse =>
          cases appended
          exact ⟨fun _ => List.mem_append_left _,
            fun _ => List.mem_append_right _ List.mem_cons_self⟩

theorem foldlM_appendCanonicalResource
    {collected : List Handle}
    (result : handles.foldlM (appendCanonicalResource resolver) resources =
      some collected) :
    (∀ handle ∈ resources, handle ∈ collected) ∧
      ∀ raw ∈ handles, raw ≠ 0 → resolver.apply raw ∈ collected := by
  induction handles generalizing resources with
  | nil =>
      cases result
      exact ⟨fun _ => id, fun _ member => nomatch member⟩
  | cons head tail induction =>
      rw [List.foldlM_cons, Option.bind_eq_bind,
        Option.bind_eq_some_iff] at result
      obtain ⟨more, appended, rest⟩ := result
      have step := appendCanonicalResource_some appended
      have later := induction rest
      constructor
      · intro handle member
        exact later.1 handle (step.1 handle member)
      · intro raw member bound
        cases member with
        | head => exact later.1 _ (step.2 bound)
        | tail _ member => exact later.2 raw member bound

theorem collectAttachmentResources_some
    {attachments : AttachmentSet}
    (collected : collectAttachmentResources attachments resolver =
      some resources)
    (member : raw ∈ Builder.boundColors attachments ++ [attachments.depth])
    (bound : raw ≠ 0) : resolver.apply raw ∈ resources := by
  unfold collectAttachmentResources at collected
  split at collected
  case isTrue => exact nomatch collected
  case isFalse =>
    exact (foldlM_appendCanonicalResource collected).2 raw member bound

section

variable {resolver : ResourceAliasResolver}

variable {command : SourceCommandView} {targets : AttachmentSet}
  {resources : List Handle} {handle : Handle} {kind : AccessKind}

theorem collected_or_sampled
    (valid : drawAttachmentSet command = some targets)
    (collected : collectAttachmentResources targets resolver = some resources)
    (accessed : kind ∈ commandAccesses resolver command handle) :
    handle ∈ resources ∨ kind = .read ∧
      ∀ others, drawReadsAttachmentResources command others = false →
        handle ∉ others := by
  obtain ⟨draw, hot, state, rfl⟩ := drawAttachmentSet_some valid
  rcases mem_commandAccesses_draw draw state accessed with
    ⟨raw, member, bound, rfl⟩ | ⟨read, sampled⟩
  · exact Or.inl (collectAttachmentResources_some collected member bound)
  · refine Or.inr ⟨read, fun others unread within => ?_⟩
    unfold drawReadsAttachmentResources at unread
    rw [state] at unread
    exact List.any_eq_false.mp unread handle sampled
      (List.contains_iff_mem.mpr within)

theorem collected_of_clear
    (valid : clearAttachmentSet command resolver = some targets)
    (collected : collectAttachmentResources targets resolver = some resources)
    (accessed : kind ∈ commandAccesses resolver command handle) :
    handle ∈ resources := by
  obtain ⟨clears, clear, state, rfl⟩ := clearAttachmentSet_some valid
  obtain ⟨raw, member, bound, rfl⟩ :=
    mem_commandAccesses_clear clears state accessed
  exact collectAttachmentResources_some collected member bound

variable {clearB currentB successorA : SourceCommandView}
  {targetsA targetsB : AttachmentSet} {resourcesA resourcesB : List Handle}

namespace SuffixCommands

section

variable (commands : SuffixCommands resolver clearB currentB successorA
    targetsA targetsB resourcesA resourcesB)
include commands

theorem not_mem_of_mem
    {handle : Handle} (inA : handle ∈ resourcesA) : handle ∉ resourcesB := by
  intro inB
  exact List.any_eq_false.mp commands.apart handle inA
    (List.contains_iff_mem.mpr inB)

theorem clear_free : ¬CommandsConflict resolver clearB successorA := by
  rintro ⟨handle, firstKind, cleared, secondKind, moved, -⟩
  have inB : handle ∈ resourcesB :=
    collected_of_clear commands.clear commands.collectedB cleared
  rcases collected_or_sampled commands.moved commands.collectedA moved with
    inA | ⟨-, apart⟩
  · exact commands.not_mem_of_mem inA inB
  · exact apart resourcesB commands.movedReads inB

theorem draw_free : ¬CommandsConflict resolver currentB successorA := by
  rintro ⟨handle, firstKind, drawn, secondKind, moved, writes⟩
  rcases collected_or_sampled commands.draw commands.collectedB drawn with
    inB | ⟨drawnRead, drawnApart⟩
  · rcases collected_or_sampled commands.moved commands.collectedA moved with
      inA | ⟨-, apart⟩
    · exact commands.not_mem_of_mem inA inB
    · exact apart resourcesB commands.movedReads inB
  · rcases collected_or_sampled commands.moved commands.collectedA moved with
      inA | ⟨movedRead, -⟩
    · exact drawnApart resourcesA commands.drawReads inA
    · -- Two reads.
      subst drawnRead movedRead
      rcases writes with write | write <;> exact nomatch write

end

end SuffixCommands

end

/-- Only the successor changes its order, with the two commands at B. -/
theorem suffix_order (first second : RetainedSourceCommandLocator) :
    (Precedes suffixNaturalReplay.toList first second ↔
      Precedes suffixJoinedReplay.toList first second) ∨
    (first, second) ∈ ([(⟨0, 1⟩, ⟨1, 0⟩), (⟨1, 0⟩, ⟨0, 1⟩),
      (⟨0, 2⟩, ⟨1, 0⟩), (⟨1, 0⟩, ⟨0, 2⟩)] :
      List (RetainedSourceCommandLocator × RetainedSourceCommandLocator)) := by
  have ordered : ∀ first ∈ suffixNaturalReplay.toList,
      ∀ second ∈ suffixNaturalReplay.toList,
        (Precedes suffixNaturalReplay.toList first second ↔
          Precedes suffixJoinedReplay.toList first second) ∨
        (first, second) ∈ ([(⟨0, 1⟩, ⟨1, 0⟩), (⟨1, 0⟩, ⟨0, 1⟩),
          (⟨0, 2⟩, ⟨1, 0⟩), (⟨1, 0⟩, ⟨0, 2⟩)] :
          List (RetainedSourceCommandLocator ×
            RetainedSourceCommandLocator)) := by
    decide
  have same : suffixJoinedReplay.toList.Perm suffixNaturalReplay.toList := by
    decide
  by_cases members : first ∈ suffixNaturalReplay.toList ∧
      second ∈ suffixNaturalReplay.toList
  · exact ordered first members.1 second members.2
  · refine Or.inl (iff_of_false (fun natural => members natural.mem)
      fun joined => members ?_)
    exact joined.mem.imp same.mem_iff.mp same.mem_iff.mp

/-! ## The validator -/

theorem activeSeedsEqual_iff {left right : ActiveRenderPlanningSeed} :
    activeSeedsEqual left right = true ↔ left = right := by
  cases left
  cases right
  simp [activeSeedsEqual, and_assoc]

theorem proofsEqual_iff {left right : DeferredTerminalSuffixProof} :
    proofsEqual left right = true ↔ left = right := by
  cases left
  cases right
  simp [proofsEqual, activeSeedsEqual_iff, and_assoc]

variable {seen : List Bool} {verdict : DeferredTerminalSuffixReplayValidation}

theorem markSuffixCommand_error
    {command : RetainedSourceCommandLocator}
    (refused : markSuffixCommand seen command = .error verdict) :
    verdict ≠ .valid := by
  unfold markSuffixCommand at refused
  generalize (if command.retainedSourceIndex = 0 then 3 else 1) =
    commandCount, (if command.retainedSourceIndex = 0 then
      command.commandIndex else 3 + command.commandIndex) =
    flattened at refused
  simp only at refused
  split at refused
  case isTrue => cases refused; decide
  case isFalse =>
    split at refused
    case isTrue => cases refused; decide
    case isFalse =>
      split at refused
      case isTrue => cases refused; decide
      case isFalse => exact nomatch refused

variable {commands : List RetainedSourceCommandLocator}

theorem foldlM_markSuffixCommand_error
    (refused : commands.foldlM markSuffixCommand seen = .error verdict) :
    verdict ≠ .valid := by
  induction commands generalizing seen with
  | nil => exact nomatch refused
  | cons command rest induction =>
      rw [List.foldlM_cons] at refused
      cases marked : markSuffixCommand seen command with
      | error first =>
          rw [marked] at refused
          cases refused
          exact markSuffixCommand_error marked
      | ok more =>
          rw [marked] at refused
          exact induction refused

variable {proof : DeferredTerminalSuffixProof}

theorem validateSuffixCommands_valid_iff
    (joined : proof.joinedReplay = suffixJoinedReplay) :
    validateSuffixCommands proof commands = .valid ↔
      commands = proof.joinedReplay.toList := by
  constructor
  · intro valid
    unfold validateSuffixCommands at valid
    split at valid
    case isTrue => exact nomatch valid
    case isFalse =>
      split at valid
      case isTrue => exact nomatch valid
      case isFalse =>
        split at valid
        case h_1 verdict refused =>
          exact absurd valid (foldlM_markSuffixCommand_error refused)
        case h_2 =>
          split at valid
          case isTrue => exact nomatch valid
          case isFalse =>
            split at valid
            case isTrue => exact nomatch valid
            case isFalse equal => exact not_not.mp equal
  · rintro rfl
    unfold validateSuffixCommands
    rw [joined]
    rfl

/-- The same source under the same ordinal and sequence. -/
structure SameIdentity
    (left right : DeferredTerminalSuffixPlanningSourceView) : Prop where
  source : left.source = right.source
  sourceOrdinal : left.sourceOrdinal = right.sourceOrdinal
  seqId : left.seqId = right.seqId

theorem SameIdentity.eq
    {left right : DeferredTerminalSuffixPlanningSourceView}
    (same : SameIdentity left right)
    (payload : left.payload = right.payload) : left = right := by
  cases left
  cases right
  obtain ⟨source, sourceOrdinal, seqId⟩ := same
  subst payload source sourceOrdinal seqId
  rfl

theorem namesSources_suffixProof
    {nextCurrent nextSuccessor :
      DeferredTerminalSuffixPlanningSourceView}
    {targetsA targetsB : AttachmentSet} :
    namesSources (suffixProof current successor activeRender targetsA
        targetsB) nextCurrent nextSuccessor = true ↔
      SameIdentity nextCurrent current ∧
        SameIdentity nextSuccessor successor := by
  simp only [namesSources, suffixProof,
    DeferredTerminalSuffixPlanningSourceView.range, Bool.and_eq_true,
    beq_iff_eq]
  constructor
  · rintro ⟨⟨⟨⟨source, ordinal⟩, seqId⟩, -⟩, ⟨next, nextOrdinal⟩, nextSeqId⟩
    exact ⟨⟨source.symm, ordinal.symm, seqId.symm⟩,
      next.symm, nextOrdinal.symm, nextSeqId.symm⟩
  · rintro ⟨⟨source, ordinal, seqId⟩, next, nextOrdinal, nextSeqId⟩
    have current := And.intro (And.intro source.symm ordinal.symm) seqId.symm
    exact ⟨⟨current, current⟩, ⟨next.symm, nextOrdinal.symm⟩, nextSeqId.symm⟩

/-- What the validator asks for. -/
theorem validateDeferredTerminalSuffixReplay_valid_iff :
    validateDeferredTerminalSuffixReplay current successor activeRender
        proof commands resolver = .valid ↔
      namesSources proof current successor = true ∧
        (planDeferredTerminalSuffixReplay current successor activeRender
          resolver).qualified = true ∧
        (planDeferredTerminalSuffixReplay current successor activeRender
          resolver).proof = proof ∧
        commands = proof.joinedReplay.toList := by
  constructor
  · intro valid
    unfold validateDeferredTerminalSuffixReplay at valid
    split at valid
    case isTrue => exact nomatch valid
    case isFalse named =>
      simp only at valid
      split at valid
      case isTrue => exact nomatch valid
      case isFalse =>
        split at valid
        case isTrue => exact nomatch valid
        case isFalse accepted =>
          simp only [Bool.or_eq_true, Bool.not_eq_true', not_or,
            Bool.not_eq_false, proofsEqual_iff] at accepted named
          obtain ⟨qualified, equal⟩ := accepted
          have joined : proof.joinedReplay = suffixJoinedReplay := by
            obtain ⟨_, _, _, _, fresh, -⟩ :=
              planDeferredTerminalSuffixReplay_qualified qualified
            rw [← equal]
            exact congrArg DeferredTerminalSuffixProof.joinedReplay fresh
          exact ⟨named, qualified, equal,
            (validateSuffixCommands_valid_iff joined).mp valid⟩
  · rintro ⟨named, qualified, equal, joinedOrder⟩
    obtain ⟨_, _, _, _, fresh, -⟩ :=
      planDeferredTerminalSuffixReplay_qualified qualified
    have joined : proof.joinedReplay = suffixJoinedReplay := by
      rw [← equal]
      exact congrArg DeferredTerminalSuffixProof.joinedReplay fresh
    have disposition : (classifyDeferredTerminalSuffixReplay current
        successor activeRender resolver).disposition = .qualified :=
      of_decide_eq_true qualified
    have proofs : proofsEqual (classifyDeferredTerminalSuffixReplay current
        successor activeRender resolver).proof proof = true :=
      proofsEqual_iff.mpr equal
    unfold validateDeferredTerminalSuffixReplay
      DeferredTerminalSuffixPlan.qualified
    simp only [named, disposition, proofs]
    exact (validateSuffixCommands_valid_iff joined).mpr joinedOrder

/--
The deferred suffix is a legal swap.

In a qualified plan, commands whose accesses conflict keep their order of the
natural replay, and for the same payloads and aliases the validator accepts a
list of commands against the proof exactly when it is the joined replay and
the identities of both sources and the seed are those of the plan.
-/
theorem deferredTerminalSuffix_legal
    (current successor : DeferredTerminalSuffixPlanningSourceView)
    (activeRender : ActiveRenderPlanningSeed)
    (aliasResolver : ResourceAliasResolver)
    (qualified : (planDeferredTerminalSuffixReplay current successor
      activeRender aliasResolver).qualified = true) :
    let proof := (planDeferredTerminalSuffixReplay current successor
      activeRender aliasResolver).proof
    let sources : List MultiSourcePlanningSource :=
      [⟨current.payload⟩, ⟨successor.payload⟩]
    (∀ first second, CommandsConflict aliasResolver
        (commandAt sources first) (commandAt sources second) →
      (Precedes proof.naturalReplay.toList first second ↔
        Precedes proof.joinedReplay.toList first second)) ∧
    ∀ (nextCurrent nextSuccessor : DeferredTerminalSuffixPlanningSourceView)
        (nextRender : ActiveRenderPlanningSeed)
        (commands : List RetainedSourceCommandLocator),
      nextCurrent.payload = current.payload →
      nextSuccessor.payload = successor.payload →
      (validateDeferredTerminalSuffixReplay nextCurrent nextSuccessor
          nextRender proof commands aliasResolver = .valid ↔
        commands = proof.joinedReplay.toList ∧
          SameIdentity nextCurrent current ∧
          SameIdentity nextSuccessor successor ∧
          nextRender = activeRender) := by
  obtain ⟨targetsA, targetsB, resourcesA, resourcesB, proofIs, checked⟩ :=
    planDeferredTerminalSuffixReplay_qualified qualified
  intro proof sources
  constructor
  · intro first second conflict
    have natural : proof.naturalReplay = suffixNaturalReplay :=
      congrArg DeferredTerminalSuffixProof.naturalReplay proofIs
    have joined : proof.joinedReplay = suffixJoinedReplay :=
      congrArg DeferredTerminalSuffixProof.joinedReplay proofIs
    rw [natural, joined]
    rcases suffix_order first second with same | moved
    · exact same
    · -- The moved pairs are free of conflicts.
      simp only [List.mem_cons, Prod.mk.injEq, List.not_mem_nil,
        or_false] at moved
      rcases moved with ⟨rfl, rfl⟩ | ⟨rfl, rfl⟩ | ⟨rfl, rfl⟩ | ⟨rfl, rfl⟩
      · exact absurd conflict checked.clear_free
      · exact absurd conflict.symm checked.clear_free
      · exact absurd conflict checked.draw_free
      · exact absurd conflict.symm checked.draw_free
  · intro nextCurrent nextSuccessor nextRender commands payload nextPayload
    rw [validateDeferredTerminalSuffixReplay_valid_iff]
    constructor
    · rintro ⟨named, requalified, equal, inOrder⟩
      rw [show proof = _ from proofIs, namesSources_suffixProof] at named
      obtain ⟨_, _, _, _, fresh, -⟩ :=
        planDeferredTerminalSuffixReplay_qualified requalified
      have seeds : nextRender = activeRender :=
        congrArg DeferredTerminalSuffixProof.activeRender
          (fresh.symm.trans (equal.trans proofIs))
      exact ⟨inOrder, named.1, named.2, seeds⟩
    · rintro ⟨inOrder, sameCurrent, sameSuccessor, rfl⟩
      cases sameCurrent.eq payload
      cases sameSuccessor.eq nextPayload
      refine ⟨?_, qualified, rfl, inOrder⟩
      rw [show proof = _ from proofIs, namesSources_suffixProof]
      exact ⟨sameCurrent, sameSuccessor⟩

/-- A source that draws to surface 1, then clears and draws to surface 2. -/
def twoTargetSource : DeferredTerminalSuffixPlanningSourceView where
  payload :=
    { commands := [.drawTo 1,
        { kind := .clear
          clear := some
            { colorAttachments := #v[{ handle := 2 }, {}, {}, {}]
              clearColor := true } },
        .drawTo 2] }
  source := { id := ⟨0, 1⟩, storage := ⟨0, 1, 1⟩ }
  sourceOrdinal := 1
  seqId := 1

/-- The next source draws to surface 1 again. -/
def returningSource : DeferredTerminalSuffixPlanningSourceView where
  payload := { commands := [.drawTo 1] }
  source := { id := ⟨1, 1⟩, storage := ⟨1, 1, 1⟩ }
  sourceOrdinal := 2
  seqId := 2

/-- The open pass writes surface 1. -/
def firstTargetSeed : ActiveRenderPlanningSeed where
  targets := { color := #v[1, 0, 0, 0, 0, 0, 0, 0], colorCount := 1 }
  writeDependencies := #v[1, 0, 0, 0, 0]
  dependencyCount := 1
  complete := true

/-- The clear stays in front of the draw to surface 2, and the joined replay
of the plan is accepted. -/
theorem deferredTerminalSuffix_legal_twoTargets :
    let proof := (planDeferredTerminalSuffixReplay twoTargetSource
      returningSource firstTargetSeed {}).proof
    Precedes proof.joinedReplay.toList ⟨0, 1⟩ ⟨0, 2⟩ ∧
      validateDeferredTerminalSuffixReplay twoTargetSource returningSource
        firstTargetSeed proof [⟨0, 0⟩, ⟨1, 0⟩, ⟨0, 1⟩, ⟨0, 2⟩] {} =
          .valid := by
  have legal := deferredTerminalSuffix_legal twoTargetSource returningSource
    firstTargetSeed {} (by decide +kernel)
  have conflict : CommandsConflict {}
      (commandAt [⟨twoTargetSource.payload⟩, ⟨returningSource.payload⟩]
        ⟨0, 1⟩)
      (commandAt [⟨twoTargetSource.payload⟩, ⟨returningSource.payload⟩]
        ⟨0, 2⟩) :=
    ⟨2, .clear, by decide +kernel, .write, by decide +kernel, Or.inl rfl⟩
  constructor
  · exact (legal.1 ⟨0, 1⟩ ⟨0, 2⟩ conflict).mp (by decide +kernel)
  · exact (legal.2 _ _ _ _ rfl rfl).mpr
      ⟨by decide +kernel, ⟨rfl, rfl, rfl⟩, ⟨rfl, rfl, rfl⟩, rfl⟩

end Dxmt9.Framegraph
