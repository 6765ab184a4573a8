import Dxmt9.Framegraph.BuilderInvariant

/-!
# Pass outlines

What the builder says about a payload, without its arrays: for each pass its
kind, its targets, the commands and draws it owns and the accesses it makes,
in order.  The outlines are computed by one recursion over the commands that
carries the open render pass.  A built graph shows exactly these outlines.
-/

namespace Dxmt9.Framegraph

/-! ## Outlines of a payload -/

/-- One pass without its array positions. -/
structure PassOutline where
  kind : PassKind := .render
  targets : AttachmentSet := {}
  commands : List CommandRef := []
  draws : List DrawRef := []
  /-- Canonical handles and access kinds, in order. -/
  accesses : List (Handle × AccessKind) := []
deriving DecidableEq

instance : Inhabited PassOutline := ⟨{}⟩

/-- The accesses that noting a list of handles leaves in the logs. -/
def notedAccesses (resolver : ResourceAliasResolver) (kind : AccessKind)
    (resolveAlias : Bool) (handles : List Handle) :
    List (Handle × AccessKind) :=
  handles.filterMap fun handle =>
    let canonical := if resolveAlias then resolver.apply handle else handle
    if handle = 0 || canonical = 0 then none else some (canonical, kind)

/-- The accesses of a clear: its colors, then depth and stencil. -/
def clearAccesses (resolver : ResourceAliasResolver)
    (clear : ClearCommandView) : List (Handle × AccessKind) :=
  let targets := attachmentSetFromClear clear
  notedAccesses resolver (Builder.clearColorAccess clear) true
      (Builder.boundColors targets) ++
    notedAccesses resolver (Builder.clearDepthStencilAccess resolver clear)
      true [targets.depth]

/-- The reference to the draws of a command. -/
def SourceCommandView.drawRef (command : SourceCommandView) (index : Nat) :
    DrawRef where
  commandIndex := index
  paramFirst :=
    (command.drawRunRecord.map DrawRunCommandRecord.firstParam).getD 0
  paramCount :=
    (command.drawRunRecord.map DrawRunCommandRecord.paramCount).getD
      command.drawParamCount

/-- What one command does to the passes. -/
inductive PassEffect where
  | skipped
  | drawn (targets : AttachmentSet)
      (writes reads : List (Handle × AccessKind))
  | cleared (targets : AttachmentSet) (accesses : List (Handle × AccessKind))
  | standalone (kind : PassKind) (accesses : List (Handle × AccessKind))

def transferEffect (resolver : ResourceAliasResolver) :
    Option TransferDesc → PassEffect
  | none => .skipped
  | some transfer =>
      .standalone .blit
        (notedAccesses resolver .read true [transfer.source] ++
          notedAccesses resolver .write true [transfer.destination])

def passEffect (resolver : ResourceAliasResolver)
    (command : SourceCommandView) : PassEffect :=
  match command.kind with
  | .drawRun =>
      match command.hot with
      | none => .skipped
      | some hot =>
          let targets := attachmentSetFromHot hot
          .drawn targets
            (notedAccesses resolver .write true
                (Builder.boundColors targets) ++
              notedAccesses resolver .write true [targets.depth])
            (notedAccesses resolver .read false (Builder.boundTextures hot))
  | .clear =>
      match command.clear with
      | none => .skipped
      | some clear =>
          .cleared (attachmentSetFromClear clear)
            (clearAccesses resolver clear)
  | .present =>
      .standalone .present
        (notedAccesses resolver .read true [command.present.getD 0])
  | .surfaceCopy => transferEffect resolver command.surfaceCopy
  | .stretchRect => transferEffect resolver command.stretchRect
  | .colorFill =>
      transferEffect resolver
        (command.colorFill.map fun dest => { destination := dest })
  | .depthResolve => transferEffect resolver command.depthResolve
  | .generateMipmaps =>
      match command.generateMipmaps with
      | none => .skipped
      | some texture =>
          .standalone .blit
            (notedAccesses resolver .readWrite false [texture])
  | .readback =>
      match command.readback with
      | none => .skipped
      | some source =>
          .standalone .blit (notedAccesses resolver .read true [source])

namespace PassOutline

/-- A render pass that nothing was drawn to yet. -/
def opened (targets : AttachmentSet)
    (accesses : List (Handle × AccessKind)) : PassOutline where
  targets := targets
  accesses := accesses

/-- One more draw with its texture reads. -/
def addDraw (pass : PassOutline) (command : SourceCommandView)
    (index : Nat) (reads : List (Handle × AccessKind)) : PassOutline :=
  { pass with
    commands := pass.commands ++ [{ commandIndex := index, kind := .drawRun }]
    draws := pass.draws ++ [command.drawRef index]
    accesses := pass.accesses ++ reads }

/-- The pass of a clear, before anything is drawn. -/
def ofClear (targets : AttachmentSet) (index : Nat)
    (accesses : List (Handle × AccessKind)) : PassOutline :=
  { opened targets accesses with
    commands := [{ commandIndex := index, kind := .clear }] }

/-- A pass of its own. -/
def single (kind : PassKind) (index : Nat) (command : SourceCommandView)
    (accesses : List (Handle × AccessKind)) : PassOutline where
  kind := kind
  commands := [{ commandIndex := index, kind := command.kind }]
  accesses := accesses

end PassOutline

/-- The open pass is the one that a draw to `targets` continues. -/
def continuedPass (current : Option PassOutline) (targets : AttachmentSet) :
    Option PassOutline :=
  current.filter fun pass => decide (pass.targets = targets)

/-- The outlines of the commands from position `index` on. -/
def passesFrom (resolver : ResourceAliasResolver) :
    Option PassOutline → Nat → List SourceCommandView → List PassOutline
  | current, _, [] => current.toList
  | current, index, command :: rest =>
      match passEffect resolver command with
      | .skipped => passesFrom resolver current (index + 1) rest
      | .drawn targets writes reads =>
          match continuedPass current targets with
          | some pass =>
              passesFrom resolver (some (pass.addDraw command index reads))
                (index + 1) rest
          | none =>
              current.toList ++
                passesFrom resolver
                  (some ((PassOutline.opened targets writes).addDraw command
                    index reads))
                  (index + 1) rest
      | .cleared targets accesses =>
          current.toList ++
            passesFrom resolver
              (some (PassOutline.ofClear targets index accesses))
              (index + 1) rest
      | .standalone kind accesses =>
          current.toList ++
            PassOutline.single kind index command accesses ::
              passesFrom resolver none (index + 1) rest

/-- The access kinds of a pass in the log of a resource. -/
def FrameGraph.accessesIn (graph : FrameGraph) (handle : Handle)
    (pass : Nat) : List AccessKind :=
  ((graph.resources.find? fun node => node.handle == handle).map
    fun node => (node.accesses.filter fun access =>
      access.passIndex == pass).map AccessLog.accessKind).getD []

def PassOutline.accessesOf (pass : PassOutline) (handle : Handle) :
    List AccessKind :=
  (pass.accesses.filter fun access => access.1 == handle).map Prod.snd

/-- A pass of the graph is the outline, up to the accesses. -/
structure FrameGraph.PassIs (graph : FrameGraph) (pass : PassNode)
    (outline : PassOutline) : Prop where
  kind : pass.kind = outline.kind
  targets : pass.targets = outline.targets
  commands : graph.commandsOf pass = outline.commands
  draws : graph.drawsOf pass = outline.draws
  commandCount : pass.commands.count = outline.commands.length
  drawCount : pass.draws.count = outline.draws.length
  commandBound :
    pass.commands.first + pass.commands.count ≤ graph.commands.length
  drawBound : pass.draws.first + pass.draws.count ≤ graph.draws.length

/-- The graph shows the outlines, and its last pass may grow. -/
structure FrameGraph.Shows (graph : FrameGraph)
    (outlines : List PassOutline) : Prop where
  passes : List.Forall₂ graph.PassIs graph.passes outlines
  log : ∀ handle pass,
    graph.accessesIn handle pass =
      (outlines.getD pass default).accessesOf handle
  last : ∀ pass ∈ graph.passes.getLast?,
    pass.commands.first + pass.commands.count = graph.commands.length ∧
      pass.draws.first + pass.draws.count = graph.draws.length

/-! ## Growing the arrays -/

theorem slice_concat {α : Type*} {items : List α} {item : α}
    {first count : Nat} (ends : first + count = items.length) :
    ((items ++ [item]).drop first).take (count + 1) =
      (items.drop first).take count ++ [item] := by
  rw [List.drop_append_of_le_length (by omega),
    List.take_of_length_le (by simp; omega),
    List.take_of_length_le (by simp; omega)]

theorem getD_concat {α : Type*} (items : List α) (item default : α)
    (index : Nat) :
    (items ++ [item]).getD index default =
      if index = items.length then item else items.getD index default := by
  simp only [List.getD_eq_getElem?_getD]
  rcases Nat.lt_trichotomy index items.length with inside | rfl | outside
  · rw [List.getElem?_append_left inside, if_neg (Nat.ne_of_lt inside)]
  · simp
  · rw [if_neg (Nat.ne_of_gt outside),
      List.getElem?_eq_none_iff.mpr (by simp; omega),
      List.getElem?_eq_none_iff.mpr (Nat.le_of_lt outside)]

theorem forall₂_concat {α β : Type*} {relation : α → β → Prop}
    {left : List α} {right : List β} {last : β}
    (related : List.Forall₂ relation left (right ++ [last])) :
    ∃ init final, left = init ++ [final] ∧ init.length = right.length ∧
      List.Forall₂ relation init right ∧ relation final last := by
  induction right generalizing left with
  | nil =>
      cases related with
      | cons head tail =>
          cases tail
          exact ⟨[], _, rfl, rfl, .nil, head⟩
  | cons item rest induction =>
      cases related with
      | cons head tail =>
          obtain ⟨init, final, rfl, length, front, back⟩ := induction tail
          exact ⟨_ :: init, final, rfl, congrArg (· + 1) length,
            .cons head front, back⟩

namespace FrameGraph

variable {graph : FrameGraph} {outlines : List PassOutline}
  {last : PassOutline}

/-- Longer arrays change no pass. -/
theorem PassIs.grow {grown : FrameGraph} {pass : PassNode}
    {outline : PassOutline} (shown : graph.PassIs pass outline)
    (moreCommands : List CommandRef) (moreDraws : List DrawRef)
    (commands : grown.commands = graph.commands ++ moreCommands)
    (draws : grown.draws = graph.draws ++ moreDraws) :
    grown.PassIs pass outline where
  kind := shown.kind
  targets := shown.targets
  commands := by
    unfold commandsOf
    rw [commands, slice_append shown.commandBound]
    exact shown.commands
  draws := by
    unfold drawsOf
    rw [draws, slice_append shown.drawBound]
    exact shown.draws
  commandCount := shown.commandCount
  drawCount := shown.drawCount
  commandBound := by
    rw [commands, List.length_append]
    exact shown.commandBound.trans (Nat.le_add_right _ _)
  drawBound := by
    rw [draws, List.length_append]
    exact shown.drawBound.trans (Nat.le_add_right _ _)

theorem Shows.length (shows : graph.Shows outlines) :
    graph.passes.length = outlines.length :=
  shows.passes.length_eq

theorem shows_empty (frameId : Nat) :
    ({ frameId := frameId } : FrameGraph).Shows [] where
  passes := .nil
  log handle pass := rfl
  last pass final := by simp at final

/-- Nothing that is shown depends on the other fields. -/
theorem Shows.congr {other : FrameGraph} (shows : graph.Shows outlines)
    (passes : other.passes = graph.passes) (draws : other.draws = graph.draws)
    (commands : other.commands = graph.commands)
    (log : ∀ handle pass,
      other.accessesIn handle pass = graph.accessesIn handle pass) :
    other.Shows outlines where
  passes := by
    rw [passes]
    exact shows.passes.imp fun _ _ shown => shown.grow [] []
      (by rw [commands, List.append_nil]) (by rw [draws, List.append_nil])
  log handle pass := (log handle pass).trans (shows.log handle pass)
  last := by
    rw [passes, commands, draws]
    exact shows.last

theorem Shows.pushPass (shows : graph.Shows outlines) (pass : PassNode) :
    (Builder.pushPass graph pass).Shows
      (outlines ++ [{ kind := pass.kind, targets := pass.targets }]) where
  passes := by
    apply List.rel_append
    · exact shows.passes.imp fun _ _ shown => shown.grow [] []
        (List.append_nil _).symm (List.append_nil _).symm
    · refine .cons ?_ .nil
      constructor <;> simp [commandsOf, drawsOf, Builder.pushPass]
  log handle index := by
    change graph.accessesIn handle index = _
    rw [shows.log, getD_concat]
    split
    · rename_i new
      rw [new, List.getD_eq_default _ _ (Nat.le_refl _)]
      rfl
    · rfl
  last final isLast := by
    simp only [Builder.pushPass, List.getLast?_concat, Option.mem_def,
      Option.some.injEq] at isLast
    subst isLast
    exact ⟨rfl, rfl⟩

theorem Shows.pushCommand (shows : graph.Shows (outlines ++ [last]))
    (command : CommandRef) :
    (Builder.pushCommand graph command outlines.length).Shows
      (outlines ++
        [{ last with commands := last.commands ++ [command] }]) := by
  obtain ⟨init, final, passesEq, length, front, back⟩ :=
    forall₂_concat shows.passes
  obtain ⟨commandEnd, drawEnd⟩ := shows.last final (by
    rw [passesEq, List.getLast?_concat]
    rfl)
  have grown : (Builder.pushCommand graph command outlines.length).passes =
      init ++ [{ final with
        commands :=
          { final.commands with count := final.commands.count + 1 } }] := by
    simp only [Builder.pushCommand]
    rw [passesEq, ← length, modify_last]
  have longer : (Builder.pushCommand graph command
      outlines.length).commands = graph.commands ++ [command] := rfl
  refine ⟨?_, ?_, ?_⟩
  · rw [grown]
    refine List.rel_append
      (front.imp fun _ _ shown => shown.grow [command] [] longer
        (List.append_nil _).symm) (.cons ?_ .nil)
    exact
      { kind := back.kind
        targets := back.targets
        commands := by
          unfold commandsOf
          rw [longer, slice_concat commandEnd]
          exact congrArg (· ++ [command]) back.commands
        draws := back.draws
        commandCount := by
          rw [List.length_append]
          exact congrArg (· + 1) back.commandCount
        drawCount := back.drawCount
        commandBound := by
          rw [longer, List.length_append, List.length_singleton]
          exact Nat.le_of_eq (congrArg (· + 1) commandEnd)
        drawBound := back.drawBound }
  · intro handle pass
    change graph.accessesIn handle pass = _
    rw [shows.log, getD_concat, getD_concat]
    split <;> rfl
  · intro pass isLast
    rw [grown, List.getLast?_concat] at isLast
    obtain rfl := Option.some.inj isLast
    refine ⟨?_, drawEnd⟩
    rw [longer, List.length_append, List.length_singleton]
    exact congrArg (· + 1) commandEnd

theorem Shows.pushDraw (shows : graph.Shows (outlines ++ [last]))
    (draw : DrawRef) :
    (Builder.pushDraw graph draw outlines.length).Shows
      (outlines ++ [{ last with draws := last.draws ++ [draw] }]) := by
  obtain ⟨init, final, passesEq, length, front, back⟩ :=
    forall₂_concat shows.passes
  obtain ⟨commandEnd, drawEnd⟩ := shows.last final (by
    rw [passesEq, List.getLast?_concat]
    rfl)
  have grown : (Builder.pushDraw graph draw outlines.length).passes =
      init ++ [{ final with
        draws := { final.draws with count := final.draws.count + 1 } }] := by
    simp only [Builder.pushDraw]
    rw [passesEq, ← length, modify_last]
  have longer : (Builder.pushDraw graph draw outlines.length).draws =
      graph.draws ++ [draw] := rfl
  refine ⟨?_, ?_, ?_⟩
  · rw [grown]
    refine List.rel_append (front.imp fun _ _ shown => shown.grow [] [draw]
        (List.append_nil _).symm longer) (.cons ?_ .nil)
    exact
      { kind := back.kind
        targets := back.targets
        commands := back.commands
        draws := by
          unfold drawsOf
          rw [longer, slice_concat drawEnd]
          exact congrArg (· ++ [draw]) back.draws
        commandCount := back.commandCount
        drawCount := by
          rw [List.length_append]
          exact congrArg (· + 1) back.drawCount
        commandBound := back.commandBound
        drawBound := by
          rw [longer, List.length_append, List.length_singleton]
          exact Nat.le_of_eq (congrArg (· + 1) drawEnd) }
  · intro handle pass
    change graph.accessesIn handle pass = _
    rw [shows.log, getD_concat, getD_concat]
    split <;> rfl
  · intro pass isLast
    rw [grown, List.getLast?_concat] at isLast
    obtain rfl := Option.some.inj isLast
    refine ⟨commandEnd, ?_⟩
    rw [longer, List.length_append, List.length_singleton]
    exact congrArg (· + 1) drawEnd

end FrameGraph

namespace Builder

theorem find?_storeResource (resources : List ResourceNode)
    (node : ResourceNode) (handle : Handle) :
    ((storeResource resources node).find? fun other =>
        other.handle == handle) =
      if node.handle = handle then some node
      else resources.find? fun other => other.handle == handle := by
  induction resources with
  | nil =>
      simp only [storeResource, List.find?_cons, List.find?_nil]
      split <;> rename_i same <;> simp_all
  | cons head tail induction =>
      unfold storeResource
      by_cases stored : head.handle = node.handle
      · rw [if_pos stored, List.find?_cons, List.find?_cons, stored]
        by_cases same : node.handle = handle
        · simp [same]
        · have other : (node.handle == handle) = false := by
            simpa using same
          simp [same, other]
      · rw [if_neg stored, List.find?_cons, List.find?_cons, induction]
        by_cases same : node.handle = handle
        · have other : (head.handle == handle) = false := by
            rw [← same]
            simpa using stored
          simp [same, other]
        · simp [same]

/-- Logging an access extends one log. -/
theorem accessesIn_noteCanonicalAccess (builder : Builder)
    (canonical : Handle) (passIndex : Nat) (kind : AccessKind)
    (stage : AccessStage) (handle : Handle) (pass : Nat) :
    (builder.noteCanonicalAccess canonical passIndex kind
        stage).graph.accessesIn handle pass =
      builder.graph.accessesIn handle pass ++
        if canonical = handle ∧ passIndex = pass then [kind] else [] := by
  have named := (resourceFor_spec builder canonical).1
  unfold FrameGraph.accessesIn noteCanonicalAccess
  simp only [find?_storeResource, recordAccess, named]
  by_cases same : canonical = handle
  · subst same
    simp only [if_true, true_and, Option.map_some, Option.getD_some,
      List.filter_append, List.map_append]
    congr 1
    · unfold resourceFor
      cases builder.graph.resources.find? fun node =>
          node.handle == canonical with
      | none => rfl
      | some node => rfl
    · by_cases inPass : passIndex = pass
      · simp [inPass]
      · simp [inPass]
  · simp [same]

variable {builder : Builder} {outlines : List PassOutline}
  {last : PassOutline} (resolver : ResourceAliasResolver)

omit resolver in
theorem shows_logged {graph other : FrameGraph}
    (shows : graph.Shows (outlines ++ [last]))
    (more : List (Handle × AccessKind)) (passes : other.passes = graph.passes)
    (draws : other.draws = graph.draws)
    (commands : other.commands = graph.commands)
    (log : ∀ handle pass, other.accessesIn handle pass =
      graph.accessesIn handle pass ++
        if pass = outlines.length then
          (more.filter fun access => access.1 == handle).map Prod.snd
        else []) :
    other.Shows
      (outlines ++ [{ last with accesses := last.accesses ++ more }]) where
  passes := by
    obtain ⟨init, final, passesEq, _, front, back⟩ :=
      forall₂_concat shows.passes
    have sameCommands : other.commands = graph.commands ++ [] := by
      rw [commands, List.append_nil]
    have sameDraws : other.draws = graph.draws ++ [] := by
      rw [draws, List.append_nil]
    rw [passes, passesEq]
    refine List.rel_append
      (front.imp fun _ _ shown => shown.grow [] [] sameCommands sameDraws)
      (.cons ?_ .nil)
    have grown := back.grow [] [] sameCommands sameDraws
    exact ⟨grown.kind, grown.targets, grown.commands, grown.draws,
      grown.commandCount, grown.drawCount, grown.commandBound,
      grown.drawBound⟩
  log handle pass := by
    rw [log, shows.log, getD_concat, getD_concat]
    split
    · simp [PassOutline.accessesOf]
    · rw [List.append_nil]
  last := by
    rw [passes, commands, draws]
    exact shows.last

theorem shows_noteAccess
    (shows : builder.graph.Shows (outlines ++ [last])) (handle : Handle)
    (kind : AccessKind) (stage : AccessStage) (resolveAlias : Bool) :
    (builder.noteAccess resolver handle outlines.length kind stage
        resolveAlias).graph.Shows
      (outlines ++
        [{ last with
          accesses := last.accesses ++
            notedAccesses resolver kind resolveAlias [handle] }]) := by
  unfold noteAccess
  split
  · rename_i null
    rw [show notedAccesses resolver kind resolveAlias [handle] = [] by
      simp [notedAccesses, null], List.append_nil]
    exact shows
  · rename_i bound
    have single : notedAccesses resolver kind resolveAlias [handle] =
        if (if resolveAlias then resolver.apply handle else handle) = 0
          then []
        else
          [(if resolveAlias then resolver.apply handle else handle,
            kind)] := by
      by_cases null :
          (if resolveAlias then resolver.apply handle else handle) = 0
      · simp only [notedAccesses, List.filterMap_cons, List.filterMap_nil,
          null, decide_true, Bool.or_true, if_true]
      · simp only [notedAccesses, List.filterMap_cons, List.filterMap_nil,
          bound, null, decide_false, Bool.or_false, Bool.false_eq_true,
          if_false]
    rw [single]
    simp only
    generalize (if resolveAlias = true then resolver.apply handle
      else handle) = canonical
    split
    · rw [List.append_nil]
      exact shows
    · refine shows_logged shows _ rfl rfl rfl fun other pass => ?_
      rw [accessesIn_noteCanonicalAccess]
      congr 1
      by_cases same : canonical = other
      · simp [same, eq_comm]
      · simp [same]

theorem notedAccesses_cons (kind : AccessKind) (resolveAlias : Bool)
    (handle : Handle) (rest : List Handle) :
    notedAccesses resolver kind resolveAlias (handle :: rest) =
      notedAccesses resolver kind resolveAlias [handle] ++
        notedAccesses resolver kind resolveAlias rest := by
  unfold notedAccesses
  rw [← List.singleton_append, List.filterMap_append]

theorem shows_noteAccesses {builder : Builder} {last : PassOutline}
    (shows : builder.graph.Shows (outlines ++ [last]))
    (kind : AccessKind) (stage : AccessStage) (resolveAlias : Bool)
    (handles : List Handle) :
    (noteAccesses resolver outlines.length kind stage resolveAlias handles
        builder).graph.Shows
      (outlines ++
        [{ last with
          accesses := last.accesses ++
            notedAccesses resolver kind resolveAlias handles }]) := by
  induction handles generalizing builder last with
  | nil =>
      rw [show notedAccesses resolver kind resolveAlias [] = [] from rfl,
        List.append_nil]
      exact shows
  | cons handle rest induction =>
      have noted := induction
        (shows_noteAccess resolver shows handle kind stage resolveAlias)
      rw [notedAccesses_cons, ← List.append_assoc]
      exact noted

theorem noteAccesses_state (passIndex : Nat) (kind : AccessKind)
    (stage : AccessStage) (resolveAlias : Bool) (handles : List Handle)
    (builder : Builder) :
    (noteAccesses resolver passIndex kind stage resolveAlias handles
        builder).currentPass = builder.currentPass ∧
      (noteAccesses resolver passIndex kind stage resolveAlias handles
        builder).openRenderPass = builder.openRenderPass := by
  induction handles generalizing builder with
  | nil => exact ⟨rfl, rfl⟩
  | cons handle rest induction =>
      have noted : (builder.noteAccess resolver handle passIndex kind stage
            resolveAlias).currentPass = builder.currentPass ∧
          (builder.noteAccess resolver handle passIndex kind stage
            resolveAlias).openRenderPass = builder.openRenderPass := by
        unfold noteAccess
        simp only
        generalize (if resolveAlias = true then resolver.apply handle
          else handle) = canonical
        split
        · exact ⟨rfl, rfl⟩
        · split
          · exact ⟨rfl, rfl⟩
          · exact ⟨rfl, rfl⟩
      have others := induction (builder.noteAccess resolver handle passIndex
        kind stage resolveAlias)
      exact ⟨others.1.trans noted.1, others.2.trans noted.2⟩

/-! ## The builder shows the outlines -/

/-- The builder between two commands: finished passes and the open one. -/
structure ShowsOpen (builder : Builder) (finished : List PassOutline)
    (current : Option PassOutline) : Prop where
  shows : builder.graph.Shows (finished ++ current.toList)
  isOpen : builder.openRenderPass = current.isSome
  position : builder.openRenderPass = true →
    builder.currentPass = finished.length

/-- A fresh render pass with accesses already noted is open. -/
theorem ShowsOpen.openPass {finished : List PassOutline}
    {current : Option PassOutline}
    (shown : builder.ShowsOpen finished current) (targets : AttachmentSet)
    (stateProfile : Nat) :
    (builder.openPass targets stateProfile).ShowsOpen
      (finished ++ current.toList)
      (some (PassOutline.opened targets [])) where
  shows := shown.shows.pushPass
    { kind := .render, targets := targets, stateProfile := stateProfile }
  isOpen := rfl
  position _ := shown.shows.length

variable {pass : PassOutline}

theorem ShowsOpen.noteAccesses {finished : List PassOutline} (shown : builder.ShowsOpen finished (some pass))
    (kind : AccessKind) (stage : AccessStage) (resolveAlias : Bool)
    (handles : List Handle) :
    (Builder.noteAccesses resolver builder.currentPass kind stage
        resolveAlias handles builder).ShowsOpen finished
      (some { pass with
        accesses := pass.accesses ++
          notedAccesses resolver kind resolveAlias handles }) := by
  have position := shown.position shown.isOpen
  obtain ⟨sameCurrent, sameOpen⟩ := noteAccesses_state resolver
    builder.currentPass kind stage resolveAlias handles builder
  refine ⟨?_, sameOpen.trans shown.isOpen, fun _ => sameCurrent.trans position⟩
  rw [position]
  exact shows_noteAccesses resolver shown.shows kind stage resolveAlias handles

theorem ShowsOpen.pushCommand {finished : List PassOutline} (shown : builder.ShowsOpen finished (some pass))
    (command : CommandRef) :
    ({ builder with
        graph := Builder.pushCommand builder.graph command
          builder.currentPass } : Builder).ShowsOpen finished
      (some { pass with commands := pass.commands ++ [command] }) where
  shows := by
    have position := shown.position shown.isOpen
    rw [position]
    exact shown.shows.pushCommand command
  isOpen := shown.isOpen
  position := shown.position

theorem ShowsOpen.pushDraw {finished : List PassOutline} (shown : builder.ShowsOpen finished (some pass))
    (draw : DrawRef) :
    ({ builder with
        graph := Builder.pushDraw builder.graph draw
          builder.currentPass } : Builder).ShowsOpen finished
      (some { pass with draws := pass.draws ++ [draw] }) where
  shows := by
    have position := shown.position shown.isOpen
    rw [position]
    exact shown.shows.pushDraw draw
  isOpen := shown.isOpen
  position := shown.position

theorem shows_setStateProfile {graph : FrameGraph}
    (shows : graph.Shows (outlines ++ [last])) (stateProfile : Nat) :
    ({ graph with
        passes := graph.passes.modify outlines.length fun node =>
          { node with stateProfile := stateProfile } } : FrameGraph).Shows
      (outlines ++ [last]) := by
  obtain ⟨init, final, passesEq, length, front, back⟩ :=
    forall₂_concat shows.passes
  have modified : (graph.passes.modify outlines.length fun node =>
      { node with stateProfile := stateProfile }) =
        init ++ [{ final with stateProfile := stateProfile }] := by
    rw [passesEq, ← length, modify_last]
  refine ⟨?_, shows.log, ?_⟩
  · rw [modified]
    refine List.rel_append (front.imp fun _ _ shown => shown.grow [] []
      (List.append_nil _).symm (List.append_nil _).symm) (.cons ?_ .nil)
    exact ⟨back.kind, back.targets, back.commands, back.draws,
      back.commandCount, back.drawCount, back.commandBound, back.drawBound⟩
  · intro pass isLast
    rw [modified, List.getLast?_concat] at isLast
    obtain rfl := Option.some.inj isLast
    exact shows.last final (by
      rw [passesEq, List.getLast?_concat]
      rfl)

theorem shows_targets {graph : FrameGraph}
    (shows : graph.Shows (outlines ++ [last])) :
    (graph.pass outlines.length).targets = last.targets := by
  obtain ⟨init, final, passesEq, length, _, back⟩ :=
    forall₂_concat shows.passes
  have isLast : graph.pass outlines.length = final := by
    unfold FrameGraph.pass
    rw [passesEq, getD_concat, if_pos length.symm]
  rw [isLast]
  exact back.targets

variable {finished : List PassOutline} {current : Option PassOutline}

variable {targets : AttachmentSet}

theorem ShowsOpen.enterDrawPass_continued (shown : builder.ShowsOpen finished current)
    (continued : continuedPass current targets = some pass)
    (stateProfile : Nat) :
    (builder.enterDrawPass resolver targets stateProfile).ShowsOpen finished
      (some pass) ∧ current = some pass := by
  obtain ⟨same, equal⟩ := Option.filter_eq_some_iff.mp continued
  subst same
  have position := shown.position shown.isOpen
  have shownTargets := shows_targets shown.shows
  rw [← position, of_decide_eq_true equal] at shownTargets
  refine ⟨?_, rfl⟩
  unfold Builder.enterDrawPass
  rw [if_neg (by simp [shown.isOpen, shownTargets])]
  split
  · refine ⟨?_, shown.isOpen, shown.position⟩
    rw [position]
    exact shows_setStateProfile shown.shows stateProfile
  · exact shown

theorem ShowsOpen.enterDrawPass_fresh
    (shown : builder.ShowsOpen finished current)
    (fresh : continuedPass current targets = none) (stateProfile : Nat) :
    (builder.enterDrawPass resolver targets stateProfile).ShowsOpen
      (finished ++ current.toList)
      (some (PassOutline.opened targets
        (notedAccesses resolver .write true (boundColors targets) ++
          notedAccesses resolver .write true [targets.depth]))) := by
  have opens : (!builder.openRenderPass ||
      decide ((builder.graph.pass builder.currentPass).targets ≠
        targets)) = true := by
    cases current with
    | none => simp [shown.isOpen]
    | some pass =>
        have position := shown.position shown.isOpen
        have shownTargets := shows_targets shown.shows
        rw [← position] at shownTargets
        have different : pass.targets ≠ targets := by
          simpa [continuedPass, Option.filter_eq_none_iff] using fresh
        simp [shownTargets, different]
  unfold Builder.enterDrawPass
  rw [if_pos opens]
  have opened := shown.openPass targets stateProfile
  have colors := opened.noteAccesses resolver .write .fragment true
    (boundColors targets)
  have same := noteAccesses_state resolver
    (builder.openPass targets stateProfile).currentPass .write .fragment true
    (boundColors targets) (builder.openPass targets stateProfile)
  have depth := colors.noteAccesses resolver .write .fragment true
    [targets.depth]
  rw [same.1] at depth
  exact depth

/-- One command turns `current` into `next`, finishing `closed`. -/
def OutlineStep (resolver : ResourceAliasResolver) (index : Nat)
    (command : SourceCommandView) (current : Option PassOutline)
    (closed : List PassOutline) (next : Option PassOutline) : Prop :=
  ∀ rest, passesFrom resolver current index (command :: rest) =
    closed ++ passesFrom resolver next (index + 1) rest

section

variable (shown : builder.ShowsOpen finished current)
include shown

theorem ShowsOpen.handleDrawRun
    (index : Nat) (command : SourceCommandView)
    (isDraw : command.kind = .drawRun) :
    ∃ closed next, OutlineStep resolver index command current closed next ∧
      (builder.handleDrawRun resolver index command).ShowsOpen
        (finished ++ closed) next := by
  unfold Builder.handleDrawRun
  cases state : command.hot with
  | none =>
      refine ⟨[], current, fun rest => ?_, by simpa using shown⟩
      simp [passesFrom, passEffect, isDraw, state]
  | some hot =>
      simp only
      set stateProfile := (command.drawRunRecord.map
        DrawRunCommandRecord.runStableBindingHash).getD 0
      -- What follows the entry is alike for a continued and a fresh pass.
      have drawn : ∀ {entered : Builder} {front pass},
          entered.ShowsOpen front (some pass) →
          ({ entered.recordTextureReads resolver hot entered.currentPass with
            graph := Builder.pushCommand (Builder.pushDraw
                (entered.recordTextureReads resolver hot
                  entered.currentPass).graph
                (command.drawRef index)
                (entered.recordTextureReads resolver hot
                  entered.currentPass).currentPass)
              { commandIndex := index, kind := .drawRun }
              (entered.recordTextureReads resolver hot
                entered.currentPass).currentPass } : Builder).ShowsOpen front
            (some (pass.addDraw command index
              (notedAccesses resolver .read false (boundTextures hot)))) := by
        intro entered front pass showsEntered
        have read := showsEntered.noteAccesses resolver .read .fragment false
          (boundTextures hot)
        exact (read.pushDraw (command.drawRef index)).pushCommand
          { commandIndex := index, kind := .drawRun }
      cases continued : continuedPass current (attachmentSetFromHot hot) with
      | some pass =>
          obtain ⟨entered, same⟩ := shown.enterDrawPass_continued resolver
            continued stateProfile
          refine ⟨[], _, fun rest => ?_, by
            rw [List.append_nil]
            exact drawn entered⟩
          simp [passesFrom, passEffect, isDraw, state, continued]
      | none =>
          have entered := shown.enterDrawPass_fresh resolver continued
            stateProfile
          refine ⟨current.toList, _, fun rest => ?_, drawn entered⟩
          simp [passesFrom, passEffect, isDraw, state, continued]

theorem ShowsOpen.handleClear
    (index : Nat) (command : SourceCommandView)
    (isClear : command.kind = .clear) :
    ∃ closed next, OutlineStep resolver index command current closed next ∧
      (builder.handleClear resolver index command).ShowsOpen
        (finished ++ closed) next := by
  unfold Builder.handleClear
  cases payload : command.clear with
  | none =>
      refine ⟨[], current, fun rest => ?_, by simpa using shown⟩
      simp [passesFrom, passEffect, isClear, payload]
  | some clear =>
      simp only
      have opened := shown.openPass (attachmentSetFromClear clear) 0
      have pushed := opened.pushCommand
        { commandIndex := index, kind := .clear }
      have colors := pushed.noteAccesses resolver (clearColorAccess clear)
        .fragment true (boundColors (attachmentSetFromClear clear))
      have depth := colors.noteAccesses resolver
        (clearDepthStencilAccess resolver clear) .fragment true
        [(attachmentSetFromClear clear).depth]
      rw [(noteAccesses_state resolver _ _ _ _ _ _).1] at depth
      refine ⟨current.toList, _, fun rest => ?_, depth⟩
      simp [passesFrom, passEffect, isClear, payload, PassOutline.ofClear,
        PassOutline.opened, clearAccesses]

theorem ShowsOpen.emitStandalonePass (kind : PassKind)
    (index : Nat) (command : SourceCommandView) :
    (builder.emitStandalonePass kind index command.kind).1.graph.Shows
        ((finished ++ current.toList) ++
          [PassOutline.single kind index command []]) ∧
      (builder.emitStandalonePass kind index command.kind).2 =
        (finished ++ current.toList).length := by
  have length := shown.shows.length
  have pushed := (shown.shows.pushPass { kind := kind }).pushCommand
    { commandIndex := index, kind := command.kind }
  refine ⟨?_, length⟩
  unfold Builder.emitStandalonePass
  simp only
  rw [length]
  exact pushed

end

/-- Nothing is open behind a pass of its own. -/
theorem shownClosed {outlines : List PassOutline}
    {builder : Builder} (shows : builder.graph.Shows (outlines ++ [pass]))
    (closed : builder.openRenderPass = false) :
    builder.ShowsOpen (outlines ++ [pass]) none where
  shows := by simpa using shows
  isOpen := closed
  position opened := by simp [closed] at opened

theorem noteAccess_openRenderPass (builder : Builder) (handle : Handle)
    (pass : Nat) (kind : AccessKind) (stage : AccessStage)
    (resolveAlias : Bool) :
    (builder.noteAccess resolver handle pass kind stage
      resolveAlias).openRenderPass = builder.openRenderPass :=
  (noteAccesses_state resolver pass kind stage resolveAlias [handle] builder).2

variable {index : Nat} {command : SourceCommandView}

theorem outlineStep_standalone
    {kind : PassKind} {accesses : List (Handle × AccessKind)}
    (effect : passEffect resolver command = .standalone kind accesses) :
    OutlineStep resolver index command current
      (current.toList ++ [PassOutline.single kind index command accesses])
      none := by
  intro rest
  simp [passesFrom, effect]

theorem outlineStep_skipped
    (effect : passEffect resolver command = .skipped) :
    OutlineStep resolver index command current [] current := by
  intro rest
  simp [passesFrom, effect]

section

variable (shown : builder.ShowsOpen finished current)
include shown

/-- A standalone pass whose accesses are noted right away. -/
theorem ShowsOpen.standaloneAccess (passKind : PassKind)
    (index : Nat) (command : SourceCommandView) (handle : Handle)
    (kind : AccessKind) (stage : AccessStage) (resolveAlias : Bool)
    (emitted : Builder × Nat)
    (isEmitted : emitted =
      builder.emitStandalonePass passKind index command.kind) :
    let noted := ({ emitted.1 with currentPass := emitted.2 } :
      Builder).noteAccess resolver handle emitted.2 kind stage resolveAlias
    noted.graph.Shows ((finished ++ current.toList) ++
        [PassOutline.single passKind index command
          (notedAccesses resolver kind resolveAlias [handle])]) ∧
      emitted.2 = (finished ++ current.toList).length ∧
      noted.openRenderPass = false := by
  subst isEmitted
  obtain ⟨shows, position⟩ := shown.emitStandalonePass passKind index command
  refine ⟨?_, position, noteAccess_openRenderPass _ _ _ _ _ _ _⟩
  have moved : ({ (builder.emitStandalonePass passKind index
        command.kind).1 with
      currentPass := (finished ++ current.toList).length } :
      Builder).graph.Shows ((finished ++ current.toList) ++
          [PassOutline.single passKind index command []]) := shows
  rw [position]
  exact shows_noteAccess resolver moved handle kind stage resolveAlias

theorem ShowsOpen.handlePresent
    (index : Nat) (command : SourceCommandView)
    (isPresent : command.kind = .present) :
    ∃ closed next, OutlineStep resolver index command current closed next ∧
      (builder.handlePresent resolver index command).ShowsOpen
        (finished ++ closed) next := by
  refine ⟨_, none, outlineStep_standalone resolver (by
    unfold passEffect
    rw [isPresent]), ?_⟩
  rw [← List.append_assoc]
  unfold Builder.handlePresent
  simp only
  by_cases source : command.present.getD 0 ≠ 0
  · obtain ⟨shows, _, closed⟩ := shown.standaloneAccess resolver .present
      index command (command.present.getD 0) .read .copy true _ rfl
    simp only [if_pos source]
    exact shownClosed (shows.congr rfl rfl rfl fun _ _ => rfl) closed
  · have null : notedAccesses resolver .read true
        [command.present.getD 0] = [] := by
      simp [notedAccesses, not_not.mp source]
    obtain ⟨shows, _⟩ := shown.emitStandalonePass .present index command
    simp only [if_neg source]
    rw [null]
    exact shownClosed (shows.congr rfl rfl rfl fun _ _ => rfl) rfl

theorem ShowsOpen.handleTransfer
    (index : Nat) (command : SourceCommandView)
    (transfer : Option TransferDesc)
    (effect : passEffect resolver command = transferEffect resolver transfer) :
    ∃ closed next, OutlineStep resolver index command current closed next ∧
      (builder.handleTransfer resolver index command.kind
        transfer).ShowsOpen (finished ++ closed) next := by
  cases transfer with
  | none =>
      refine ⟨[], current, outlineStep_skipped resolver effect, ?_⟩
      rw [List.append_nil]
      exact shown
  | some transfer =>
      refine ⟨_, none, outlineStep_standalone resolver effect, ?_⟩
      rw [← List.append_assoc]
      obtain ⟨reading, position, closed⟩ := shown.standaloneAccess resolver
        .blit index command transfer.source .read .copy true _ rfl
      unfold Builder.handleTransfer Builder.emitBlit
      simp only
      apply shownClosed
      · rw [position] at reading ⊢
        exact shows_noteAccess resolver reading transfer.destination .write
          .copy true
      · exact (noteAccess_openRenderPass resolver _ _ _ _ _ _).trans closed

theorem ShowsOpen.handleGenerateMipmaps (index : Nat)
    (command : SourceCommandView)
    (isGenerate : command.kind = .generateMipmaps) :
    ∃ closed next, OutlineStep resolver index command current closed next ∧
      (builder.handleGenerateMipmaps resolver index command).ShowsOpen
        (finished ++ closed) next := by
  unfold Builder.handleGenerateMipmaps
  cases texture : command.generateMipmaps with
  | none =>
      refine ⟨[], current, outlineStep_skipped resolver ?_, by
        simpa using shown⟩
      unfold passEffect
      rw [isGenerate, texture]
  | some handle =>
      refine ⟨_, none, outlineStep_standalone resolver (by
        unfold passEffect
        rw [isGenerate, texture]), ?_⟩
      rw [← List.append_assoc]
      obtain ⟨shows, _, closed⟩ := shown.standaloneAccess resolver .blit
        index command handle .readWrite .copy false _ rfl
      exact shownClosed shows closed

end

/-- Marking a readback leaves every log as it is. -/
theorem accessesIn_markReadback (builder : Builder) (source handle : Handle)
    (pass : Nat) :
    (builder.markReadback source).graph.accessesIn handle pass =
      builder.graph.accessesIn handle pass := by
  have named := (resourceFor_spec builder source).1
  unfold FrameGraph.accessesIn markReadback
  simp only [find?_storeResource, named]
  by_cases same : source = handle
  · subst same
    simp only [if_true, Option.map_some, Option.getD_some]
    unfold resourceFor
    cases builder.graph.resources.find? fun node =>
        node.handle == source with
    | none => rfl
    | some node => rfl
  · simp [same]

theorem ShowsOpen.handleReadback
    (shown : builder.ShowsOpen finished current) (index : Nat)
    (command : SourceCommandView) (isReadback : command.kind = .readback) :
    ∃ closed next, OutlineStep resolver index command current closed next ∧
      (builder.handleReadback resolver index command).ShowsOpen
        (finished ++ closed) next := by
  unfold Builder.handleReadback
  cases source : command.readback with
  | none =>
      refine ⟨[], current, outlineStep_skipped resolver ?_, by
        simpa using shown⟩
      unfold passEffect
      rw [isReadback, source]
  | some handle =>
      refine ⟨_, none, outlineStep_standalone resolver (by
        unfold passEffect
        rw [isReadback, source]), ?_⟩
      rw [← List.append_assoc]
      obtain ⟨shows, _, closed⟩ := shown.standaloneAccess resolver .blit
        index command handle .read .copy true _ rfl
      simp only
      split
      · exact shownClosed
          (shows.congr rfl rfl rfl (accessesIn_markReadback _ handle)) closed
      · exact shownClosed shows closed

theorem ShowsOpen.handleCommand (shown : builder.ShowsOpen finished current)
    (index : Nat) (command : SourceCommandView) :
    ∃ closed next, OutlineStep resolver index command current closed next ∧
      (Builder.handleCommand resolver builder index command).ShowsOpen
        (finished ++ closed) next := by
  unfold Builder.handleCommand
  split <;> rename_i isKind
  · exact shown.handleDrawRun resolver index command isKind
  · exact shown.handleClear resolver index command isKind
  · exact shown.handlePresent resolver index command isKind
  iterate 4
    · exact shown.handleTransfer resolver index command _ (by
        unfold passEffect
        rw [isKind])
  · exact shown.handleGenerateMipmaps resolver index command isKind
  · exact shown.handleReadback resolver index command isKind

theorem ShowsOpen.runFrom (commands : List SourceCommandView)
    {builder : Builder} {finished : List PassOutline}
    {current : Option PassOutline}
    (shown : builder.ShowsOpen finished current) (index : Nat) :
    (Builder.runFrom resolver builder index commands).graph.Shows
      (finished ++ passesFrom resolver current index commands) := by
  induction commands generalizing builder finished current index with
  | nil => exact shown.shows
  | cons command rest induction =>
      obtain ⟨closed, next, step, handled⟩ :=
        shown.handleCommand resolver index command
      rw [step rest, ← List.append_assoc]
      exact induction handled (index + 1)

end Builder

theorem buildFrameGraph_shows (payload : SourcePayloadView) (frameId : Nat)
    (resolver : ResourceAliasResolver) :
    (buildFrameGraph payload frameId resolver).Shows
      (passesFrom resolver none 0 payload.commands) := by
  have start : ({ graph := { frameId := frameId } } : Builder).ShowsOpen []
      none :=
    { shows := FrameGraph.shows_empty frameId
      isOpen := rfl
      position := fun opened => nomatch opened }
  exact start.runFrom resolver payload.commands 0

end Dxmt9.Framegraph
