import Dxmt9.Framegraph.BuiltGraph
import Dxmt9.Framegraph.OptimizerSound
import Dxmt9.Framegraph.PassOutline

/-!
# The plan of an unoptimized graph

With the default options only lifetimes and load actions are computed, so the
plan of a built graph follows the outlines of its payload: all draws, one
operation for each recorded standalone command, and balanced passes.  A clear
survives only as a load action.  That action is looked up under the handle of
the attachment while the access was logged under the canonical handle, and it
is a clear only when the access overwrites the whole resource.
-/

namespace Dxmt9.Framegraph

/-! ## What a plan has to carry -/

/-- The command leaves something in the frame graph. -/
def SourceCommandView.recorded (command : SourceCommandView) : Bool :=
  match command.kind with
  | .drawRun => command.hot.isSome
  | .clear => command.clear.isSome
  | .present => true
  | .surfaceCopy => command.surfaceCopy.isSome
  | .stretchRect => command.stretchRect.isSome
  | .colorFill => command.colorFill.isSome
  | .depthResolve => command.depthResolve.isSome
  | .generateMipmaps => command.generateMipmaps.isSome
  | .readback => command.readback.isSome

/-- The operation of a command that is a pass of its own. -/
def SourceCommandView.standaloneOp (command : SourceCommandView) :
    Option LinearOpKind :=
  match command.kind with
  | .drawRun | .clear => none
  | .present => some .present
  | .surfaceCopy | .stretchRect | .colorFill | .depthResolve
  | .generateMipmaps | .readback => some .blit

/-- References to the draw runs with state, in source order. -/
def drawsFrom (index : Nat) (commands : List SourceCommandView) :
    List DrawRef :=
  (commands.zipIdx index).filterMap fun entry =>
    if entry.1.kind = .drawRun && entry.1.hot.isSome then
      some (entry.1.drawRef entry.2)
    else none

/-- The owned command and the operation of every standalone command. -/
def standalonesFrom (index : Nat) (commands : List SourceCommandView) :
    List (List Nat × LinearOpKind) :=
  (commands.zipIdx index).filterMap fun entry =>
    entry.1.standaloneOp.map fun op => ([entry.2], op)

/-- Draws only inside their pass, and no pass left open. -/
def balancedOps : Option Nat → List LinearOp → Bool
  | current, [] => current.isNone
  | current, op :: rest =>
      match op.kind with
      | .beginPass => current.isNone && balancedOps (some op.passIndex) rest
      | .emitDraw =>
          decide (current = some op.passIndex) && balancedOps current rest
      | .endPass =>
          decide (current = some op.passIndex) && balancedOps none rest
      | .emitClear | .present | .blit =>
          current.isNone && balancedOps none rest

/-- The load action is a clear on every attachment of the clear. -/
def LoadsClear (policy : LoadStorePolicy) (clear : ClearCommandView) :
    Prop :=
  (clear.clearColor = true → ∀ slot : Fin kMaxRenderTargets,
    (clear.colorAttachments.get slot).handle ≠ 0 →
      policy.colorLoad[slot.val]? = some .clear) ∧
  ((clear.clearDepth || clear.clearStencil) = true →
    clear.depthStencil.handle ≠ 0 → policy.depthLoad = .clear)

/-- A standalone clear, or a pass that loads every attachment cleared. -/
def CarriesClear (graph : FrameGraph) (ops : List LinearOp) (index : Nat)
    (clear : ClearCommandView) : Prop :=
  ∃ op ∈ ops, index ∈ graph.passCommands op.passIndex ∧
    (op.kind = .emitClear ∨
      (op.kind = .beginPass ∧ LoadsClear op.loadStore clear))

/-- The plan of a graph loses nothing of a payload. -/
structure LosesNothing (payload : SourcePayloadView) (graph : FrameGraph) :
    Prop where
  draws : ((planLinearization graph).filter fun op =>
      op.kind == .emitDraw).map LinearOp.draw =
    drawsFrom 0 payload.commands
  standalones : ((planLinearization graph).filter fun op =>
      op.kind == .present || op.kind == .blit).map
        (fun op => (graph.passCommands op.passIndex, op.kind)) =
    standalonesFrom 0 payload.commands
  balanced : balancedOps none (planLinearization graph) = true
  clears : ∀ index clear, (payload.commandAt index).kind = .clear →
    (payload.commandAt index).clear = some clear →
      CarriesClear graph (planLinearization graph) index clear

/-- The attachments that a clear names. -/
def clearedHandles (clear : ClearCommandView) : List Handle :=
  ((if clear.clearColor then
      clear.colorAttachments.toList.map RenderTargetAttachment.handle
    else []) ++
    (if clear.clearDepth || clear.clearStencil then
      [clear.depthStencil.handle] else [])).filter fun handle => handle != 0

/-- The first access that the clear leaves in the log of `handle`. -/
def overwritesFirst (resolver : ResourceAliasResolver)
    (clear : ClearCommandView) (handle : Handle) : Bool :=
  ((clearAccesses resolver clear).find? fun access =>
    access.1 == handle).any fun access => decide (access.2 = .clear)

/-- The next recorded command is a draw to the same targets. -/
def drawnNext (targets : AttachmentSet) : List SourceCommandView → Bool
  | [] => false
  | command :: rest =>
      if command.recorded then
        decide (command.kind = .drawRun) &&
          decide (command.hot.map attachmentSetFromHot = some targets)
      else drawnNext targets rest

/--
The clear survives in front of the commands `rest`.

With a draw every attachment has to be overwritten under its own handle;
without a draw one of them is enough.
-/
def clearSurvives (resolver : ResourceAliasResolver)
    (clear : ClearCommandView) (rest : List SourceCommandView) : Bool :=
  if drawnNext (attachmentSetFromClear clear) rest then
    (clearedHandles clear).all (overwritesFirst resolver clear)
  else (clearedHandles clear).any (overwritesFirst resolver clear)

/-- An effect names the kind of its command and what it carries. -/
def PassEffect.Describes (command : SourceCommandView) : PassEffect → Prop
  | .skipped => command.recorded = false
  | .drawn targets _ reads =>
      command.kind = .drawRun ∧
        command.hot.map attachmentSetFromHot = some targets ∧
        ∀ access ∈ reads, access.2 = .read
  | .cleared targets _ =>
      command.kind = .clear ∧
        command.clear.map attachmentSetFromClear = some targets
  | .standalone kind _ =>
      command.recorded = true ∧
        ((kind = .present ∧ command.standaloneOp = some .present) ∨
          (kind = .blit ∧ command.standaloneOp = some .blit))

theorem notedAccesses_kind (resolver : ResourceAliasResolver)
    (kind : AccessKind) (resolveAlias : Bool) (handles : List Handle) :
    ∀ access ∈ notedAccesses resolver kind resolveAlias handles,
      access.2 = kind := by
  intro access member
  obtain ⟨handle, _, noted⟩ := List.mem_filterMap.mp member
  simp only at noted
  generalize (if resolveAlias = true then resolver.apply handle
    else handle) = canonical at noted
  split at noted
  · contradiction
  · exact congrArg Prod.snd (Option.some.inj noted).symm

variable {command : SourceCommandView}

theorem transferEffect_describes (resolver : ResourceAliasResolver) (transfer : Option TransferDesc)
    (recorded : command.recorded = transfer.isSome)
    (op : command.standaloneOp = some .blit) :
    (transferEffect resolver transfer).Describes command := by
  cases transfer with
  | none => exact recorded
  | some transfer => exact ⟨recorded, Or.inr ⟨rfl, op⟩⟩

theorem passEffect_describes (resolver : ResourceAliasResolver)
    (command : SourceCommandView) :
    (passEffect resolver command).Describes command := by
  unfold passEffect
  cases kind : command.kind with
  | drawRun =>
      cases hot : command.hot with
      | none =>
          simp [PassEffect.Describes, SourceCommandView.recorded, kind, hot]
      | some state =>
          exact ⟨kind, by simp [hot],
            notedAccesses_kind resolver .read false _⟩
  | clear =>
      cases clear : command.clear with
      | none =>
          simp [PassEffect.Describes, SourceCommandView.recorded, kind, clear]
      | some payload => exact ⟨kind, by simp [clear]⟩
  | present =>
      exact ⟨by simp [SourceCommandView.recorded, kind],
        Or.inl ⟨rfl, by simp [SourceCommandView.standaloneOp, kind]⟩⟩
  | surfaceCopy =>
      exact transferEffect_describes resolver _
        (by simp [SourceCommandView.recorded, kind])
        (by simp [SourceCommandView.standaloneOp, kind])
  | stretchRect =>
      exact transferEffect_describes resolver _
        (by simp [SourceCommandView.recorded, kind])
        (by simp [SourceCommandView.standaloneOp, kind])
  | colorFill =>
      exact transferEffect_describes resolver _
        (by simp [SourceCommandView.recorded, kind])
        (by simp [SourceCommandView.standaloneOp, kind])
  | depthResolve =>
      exact transferEffect_describes resolver _
        (by simp [SourceCommandView.recorded, kind])
        (by simp [SourceCommandView.standaloneOp, kind])
  | generateMipmaps =>
      cases texture : command.generateMipmaps with
      | none =>
          simp [PassEffect.Describes, SourceCommandView.recorded, kind,
            texture]
      | some handle =>
          exact ⟨by simp [SourceCommandView.recorded, kind, texture],
            Or.inr ⟨rfl, by simp [SourceCommandView.standaloneOp, kind]⟩⟩
  | readback =>
      cases source : command.readback with
      | none =>
          simp [PassEffect.Describes, SourceCommandView.recorded, kind, source]
      | some handle =>
          exact ⟨by simp [SourceCommandView.recorded, kind, source],
            Or.inr ⟨rfl, by simp [SourceCommandView.standaloneOp, kind]⟩⟩

/-- What one command does to the open pass, case by case. -/
inductive StepCase (resolver : ResourceAliasResolver) (index : Nat)
    (command : SourceCommandView) :
    Option PassOutline → List PassOutline → Option PassOutline → Prop
  | skipped {current} (unrecorded : command.recorded = false) :
      StepCase resolver index command current [] current
  | continued {pass : PassOutline} {reads : List (Handle × AccessKind)}
      (isDraw : command.kind = .drawRun)
      (targets : command.hot.map attachmentSetFromHot = some pass.targets)
      (reading : ∀ access ∈ reads, access.2 = .read) :
      StepCase resolver index command (some pass) []
        (some (pass.addDraw command index reads))
  | fresh {current} {targets : AttachmentSet}
      {writes reads : List (Handle × AccessKind)}
      (isDraw : command.kind = .drawRun)
      (hot : command.hot.map attachmentSetFromHot = some targets)
      (different : ∀ pass ∈ current, pass.targets ≠ targets) :
      StepCase resolver index command current current.toList
        (some ((PassOutline.opened targets writes).addDraw command index
          reads))
  | cleared {current} {clear : ClearCommandView}
      (isClear : command.kind = .clear)
      (payload : command.clear = some clear) :
      StepCase resolver index command current current.toList
        (some (PassOutline.ofClear (attachmentSetFromClear clear) index
          (clearAccesses resolver clear)))
  | standalone {current} {kind : PassKind}
      {accesses : List (Handle × AccessKind)}
      (recorded : command.recorded = true)
      (op : (kind = .present ∧ command.standaloneOp = some .present) ∨
        (kind = .blit ∧ command.standaloneOp = some .blit)) :
      StepCase resolver index command current
        (current.toList ++ [PassOutline.single kind index command accesses])
        none

theorem exists_stepCase (resolver : ResourceAliasResolver) (index : Nat)
    (command : SourceCommandView) (current : Option PassOutline) :
    ∃ closed next, StepCase resolver index command current closed next ∧
      Builder.OutlineStep resolver index command current closed next := by
  have described := passEffect_describes resolver command
  cases effect : passEffect resolver command with
  | skipped =>
      rw [effect] at described
      exact ⟨_, _, .skipped described, fun rest => by
        simp [passesFrom, effect]⟩
  | drawn targets writes reads =>
      rw [effect] at described
      obtain ⟨isDraw, hot, reading⟩ := described
      cases continued : continuedPass current targets with
      | some pass =>
          obtain ⟨rfl, equal⟩ := Option.filter_eq_some_iff.mp continued
          refine ⟨_, _, .continued isDraw
            (hot.trans (congrArg some (of_decide_eq_true equal).symm))
            reading, fun rest => ?_⟩
          simp [passesFrom, effect, continued]
      | none =>
          refine ⟨_, _, .fresh isDraw hot ?_, fun rest => by
            simp only [passesFrom, effect, continued]
            rfl⟩
          intro pass opened same
          have kept := Option.filter_eq_none_iff.mp continued pass opened
          simp [same] at kept
  | cleared targets accesses =>
      rw [effect] at described
      obtain ⟨isClear, payload⟩ := described
      obtain ⟨clear, present, rfl⟩ := Option.map_eq_some_iff.mp payload
      have logged : accesses = clearAccesses resolver clear := by
        unfold passEffect at effect
        rw [isClear, present] at effect
        simp only [PassEffect.cleared.injEq, true_and] at effect
        exact effect.symm
      refine ⟨_, _, .cleared isClear present, fun rest => ?_⟩
      simp [passesFrom, effect, logged]
  | standalone kind accesses =>
      rw [effect] at described
      refine ⟨current.toList ++
          [PassOutline.single kind index command accesses], none,
        .standalone described.1 described.2, fun rest => ?_⟩
      simp [passesFrom, effect]

/-! ## What the outlines contain -/

theorem drawsFrom_cons (index : Nat) (command : SourceCommandView)
    (rest : List SourceCommandView) :
    drawsFrom index (command :: rest) =
      (if command.kind = .drawRun && command.hot.isSome then
        [command.drawRef index] else []) ++ drawsFrom (index + 1) rest := by
  unfold drawsFrom
  rw [List.zipIdx_cons, List.filterMap_cons]
  simp only
  split <;> rename_i entry <;> split at entry <;> simp_all

/-- Every recorded draw run is drawn by exactly one outline, in order. -/
theorem flatMap_draws (resolver : ResourceAliasResolver)
    (current : Option PassOutline) (index : Nat)
    (commands : List SourceCommandView) :
    (passesFrom resolver current index commands).flatMap PassOutline.draws =
      current.toList.flatMap PassOutline.draws ++
        drawsFrom index commands := by
  induction commands generalizing current index with
  | nil => simp [passesFrom, drawsFrom]
  | cons command rest induction =>
      obtain ⟨closed, next, stepCase, step⟩ :=
        exists_stepCase resolver index command current
      rw [step rest, List.flatMap_append, induction, drawsFrom_cons,
        ← List.append_assoc, ← List.append_assoc]
      congr 1
      cases stepCase with
      | skipped unrecorded =>
          have absent : (decide (command.kind = .drawRun) &&
              command.hot.isSome) = false := by
            unfold SourceCommandView.recorded at unrecorded
            split at unrecorded <;> simp_all
          simp [absent]
      | continued isDraw targets _ =>
          have present : command.hot.isSome = true := by
            cases hot : command.hot with
            | none => simp [hot] at targets
            | some state => rfl
          simp [isDraw, present, PassOutline.addDraw]
      | fresh isDraw hot _ =>
          have present : command.hot.isSome = true := by
            cases state : command.hot with
            | none => simp [state] at hot
            | some state => rfl
          simp [isDraw, present, PassOutline.addDraw, PassOutline.opened]
      | cleared isClear _ =>
          simp [isClear, PassOutline.ofClear, PassOutline.opened]
      | standalone _ op =>
          have other : command.kind ≠ .drawRun := by
            intro isDraw
            simp [SourceCommandView.standaloneOp, isDraw] at op
          simp [other, PassOutline.single]

/-- Render passes, and passes of their own without draws. -/
def PassOutline.Proper (pass : PassOutline) : Prop :=
  pass.kind = .render ∨
    ((pass.kind = .present ∨ pass.kind = .blit) ∧ pass.draws = [])

variable {current next : Option PassOutline} {closed : List PassOutline}

theorem StepCase.render {resolver : ResourceAliasResolver} {index : Nat}
    (stepCase : StepCase resolver index command current closed next)
    (render : ∀ pass ∈ current, pass.kind = .render) :
    ∀ pass ∈ next, pass.kind = .render := by
  cases stepCase with
  | skipped _ => exact render
  | @continued opened _ _ _ _ =>
      intro pass same
      obtain rfl := Option.some.inj same
      exact (render opened rfl : opened.kind = .render)
  | fresh _ _ _ =>
      intro pass same
      obtain rfl := Option.some.inj same
      rfl
  | cleared _ _ =>
      intro pass same
      obtain rfl := Option.some.inj same
      rfl
  | standalone _ _ =>
      intro pass same
      contradiction

/-- A finished pass is the open one or a pass of its own. -/
theorem StepCase.closed_proper {resolver : ResourceAliasResolver}
    {index : Nat}
    (stepCase : StepCase resolver index command current closed next)
    (render : ∀ pass ∈ current, pass.kind = .render) :
    ∀ pass ∈ closed, pass.Proper := by
  have opened : ∀ pass ∈ current.toList, pass.Proper :=
    fun pass member => Or.inl (render pass (Option.mem_toList.mp member))
  cases stepCase with
  | skipped _ => simp
  | continued _ _ _ => simp
  | fresh _ _ _ => exact opened
  | cleared _ _ => exact opened
  | standalone _ op =>
      intro pass member
      rcases List.mem_append.mp member with old | new
      · exact opened pass old
      · obtain rfl := List.mem_singleton.mp new
        refine Or.inr ⟨?_, rfl⟩
        rcases op with ⟨rfl, _⟩ | ⟨rfl, _⟩
        · exact Or.inl rfl
        · exact Or.inr rfl

theorem passesFrom_proper (resolver : ResourceAliasResolver) (index : Nat)
    (commands : List SourceCommandView)
    (render : ∀ pass ∈ current, pass.kind = .render) :
    ∀ pass ∈ passesFrom resolver current index commands, pass.Proper := by
  induction commands generalizing current index with
  | nil =>
      exact fun pass member =>
        Or.inl (render pass (Option.mem_toList.mp member))
  | cons command rest induction =>
      obtain ⟨closed, next, stepCase, step⟩ :=
        exists_stepCase resolver index command current
      rw [step rest]
      intro pass member
      rcases List.mem_append.mp member with front | behind
      · exact stepCase.closed_proper render pass front
      · exact induction (index + 1) (stepCase.render render) pass behind

/-- The standalone commands that are recorded. -/
def recordedStandalonesFrom (index : Nat)
    (commands : List SourceCommandView) :
    List (List Nat × LinearOpKind) :=
  (commands.zipIdx index).filterMap fun entry =>
    if entry.1.recorded then
      entry.1.standaloneOp.map fun op => ([entry.2], op)
    else none

/-- The operation of a pass of its own. -/
def PassOutline.standaloneOp (pass : PassOutline) :
    Option (List Nat × LinearOpKind) :=
  let owned := pass.commands.map CommandRef.commandIndex
  match pass.kind with
  | .present => some (owned, .present)
  | .blit => some (owned, .blit)
  | .render | .compute | .sync => none

theorem recordedStandalonesFrom_cons (index : Nat)
    (command : SourceCommandView) (rest : List SourceCommandView) :
    recordedStandalonesFrom index (command :: rest) =
      (if command.recorded then
        command.standaloneOp.map fun op => ([index], op)
      else none).toList ++ recordedStandalonesFrom (index + 1) rest := by
  unfold recordedStandalonesFrom
  rw [List.zipIdx_cons, List.filterMap_cons]
  simp only
  split <;> rename_i entry <;> rw [entry] <;> rfl

theorem filterMap_standaloneOp (resolver : ResourceAliasResolver) (index : Nat)
    (commands : List SourceCommandView)
    (render : ∀ pass ∈ current, pass.kind = .render) :
    (passesFrom resolver current index commands).filterMap
        PassOutline.standaloneOp =
      recordedStandalonesFrom index commands := by
  have opened : ∀ {open' : Option PassOutline},
      (∀ pass ∈ open', pass.kind = .render) →
        open'.toList.filterMap PassOutline.standaloneOp = [] := by
    intro open' isRender
    cases open' with
    | none => rfl
    | some pass =>
        simp [PassOutline.standaloneOp, isRender pass rfl]
  induction commands generalizing current index with
  | nil => exact opened render
  | cons command rest induction =>
      obtain ⟨closed, next, stepCase, step⟩ :=
        exists_stepCase resolver index command current
      rw [step rest, List.filterMap_append,
        induction (index + 1) (stepCase.render render),
        recordedStandalonesFrom_cons]
      congr 1
      cases stepCase with
      | skipped unrecorded => simp [unrecorded]
      | continued isDraw _ _ =>
          simp [SourceCommandView.standaloneOp, isDraw]
      | fresh isDraw _ _ =>
          rw [opened render]
          simp [SourceCommandView.standaloneOp, isDraw]
      | cleared isClear _ =>
          rw [opened render]
          simp [SourceCommandView.standaloneOp, isClear]
      | standalone recorded op =>
          rw [List.filterMap_append, opened render, recorded]
          rcases op with ⟨rfl, op⟩ | ⟨rfl, op⟩
          · simp [op, PassOutline.standaloneOp, PassOutline.single]
          · simp [op, PassOutline.standaloneOp, PassOutline.single]

theorem standalonesFrom_cons (index : Nat) (command : SourceCommandView)
    (rest : List SourceCommandView) :
    standalonesFrom index (command :: rest) =
      (command.standaloneOp.map fun op => ([index], op)).toList ++
        standalonesFrom (index + 1) rest := by
  unfold standalonesFrom
  rw [List.zipIdx_cons, List.filterMap_cons]
  simp only
  split <;> rename_i entry <;> rw [entry] <;> rfl

theorem length_recordedStandalonesFrom_le (index : Nat)
    (commands : List SourceCommandView) :
    (recordedStandalonesFrom index commands).length ≤
      (standalonesFrom index commands).length := by
  induction commands generalizing index with
  | nil => exact Nat.le_refl _
  | cons command rest induction =>
      rw [recordedStandalonesFrom_cons, standalonesFrom_cons,
        List.length_append, List.length_append]
      apply Nat.add_le_add _ (induction (index + 1))
      split
      · exact Nat.le_refl _
      · exact Nat.zero_le _

theorem recordedStandalonesFrom_eq_iff (index : Nat)
    (commands : List SourceCommandView) :
    recordedStandalonesFrom index commands = standalonesFrom index commands ↔
      ∀ command ∈ commands, command.standaloneOp.isSome = true →
        command.recorded = true := by
  induction commands generalizing index with
  | nil => simp [recordedStandalonesFrom, standalonesFrom]
  | cons command rest induction =>
      rw [recordedStandalonesFrom_cons, standalonesFrom_cons,
        List.forall_mem_cons, ← induction (index + 1)]
      cases recorded : command.recorded with
      | true => simp
      | false =>
          cases op : command.standaloneOp with
          | none => simp
          | some kind =>
              have shorter :=
                length_recordedStandalonesFrom_le (index + 1) rest
              simp only [Bool.false_eq_true, if_false, Option.toList_none,
                List.nil_append, Option.map_some, Option.toList_some,
                List.singleton_append, Option.isSome_some, forall_const,
                false_and, iff_false]
              intro equal
              have lengths := congrArg List.length equal
              rw [List.length_cons] at lengths
              omega

/-- A later state of a pass: more draws and more texture reads. -/
structure Continues (pass later : PassOutline) : Prop where
  kind : later.kind = pass.kind
  targets : later.targets = pass.targets
  commands : ∃ more, later.commands = pass.commands ++ more
  draws : ∃ more, later.draws = pass.draws ++ more
  accesses : ∃ reads, later.accesses = pass.accesses ++ reads ∧
    ∀ access ∈ reads, access.2 = .read

theorem Continues.refl (pass : PassOutline) : Continues pass pass where
  kind := rfl
  targets := rfl
  commands := ⟨[], (List.append_nil _).symm⟩
  draws := ⟨[], (List.append_nil _).symm⟩
  accesses := ⟨[], (List.append_nil _).symm, by simp⟩

theorem continues_addDraw {pass later : PassOutline} {index : Nat}
    {reads : List (Handle × AccessKind)}
    (reading : ∀ access ∈ reads, access.2 = .read)
    (continued : Continues (pass.addDraw command index reads) later) :
    Continues pass later ∧ later.draws ≠ [] := by
  obtain ⟨commands, commandsEq⟩ := continued.commands
  obtain ⟨draws, drawsEq⟩ := continued.draws
  obtain ⟨accesses, accessesEq, later⟩ := continued.accesses
  refine ⟨⟨continued.kind, continued.targets,
    ⟨_, commandsEq.trans (List.append_assoc _ _ _)⟩,
    ⟨_, drawsEq.trans (List.append_assoc _ _ _)⟩,
    ⟨reads ++ accesses, accessesEq.trans (List.append_assoc _ _ _), ?_⟩⟩, ?_⟩
  · intro access member
    rcases List.mem_append.mp member with first | second
    · exact reading access first
    · exact later access second
  · rw [drawsEq]
    simp [PassOutline.addDraw]

/-- The open pass is the first outline; it is drawn to if a draw follows. -/
theorem passesFrom_some (resolver : ResourceAliasResolver)
    (pass : PassOutline) (index : Nat) (commands : List SourceCommandView) :
    ∃ later more,
      passesFrom resolver (some pass) index commands = later :: more ∧
        Continues pass later ∧
        (drawnNext pass.targets commands = true → later.draws ≠ []) ∧
        (drawnNext pass.targets commands = false →
          later.draws = pass.draws) := by
  induction commands generalizing pass index with
  | nil =>
      exact ⟨pass, [], rfl, .refl pass, by simp [drawnNext], fun _ => rfl⟩
  | cons command rest induction =>
      obtain ⟨closed, next, stepCase, step⟩ :=
        exists_stepCase resolver index command (some pass)
      rw [step rest]
      cases stepCase with
      | skipped unrecorded =>
          obtain ⟨later, more, split, continued, drawn, undrawn⟩ :=
            induction pass (index + 1)
          refine ⟨later, more, split, continued, ?_, ?_⟩
          · simpa [drawnNext, unrecorded] using drawn
          · simpa [drawnNext, unrecorded] using undrawn
      | continued isDraw targets reading =>
          obtain ⟨later, more, split, continued, _⟩ :=
            induction (pass.addDraw command index _) (index + 1)
          obtain ⟨whole, drawn⟩ := continues_addDraw reading continued
          have recorded : command.recorded = true := by
            cases hot : command.hot with
            | none => simp [hot] at targets
            | some state => simp [SourceCommandView.recorded, isDraw, hot]
          refine ⟨later, more, split, whole, fun _ => drawn, ?_⟩
          simp [drawnNext, recorded, isDraw, targets]
      | fresh isDraw hot different =>
          have recorded : command.recorded = true := by
            cases state : command.hot with
            | none => simp [state] at hot
            | some state =>
                simp [SourceCommandView.recorded, isDraw, state]
          refine ⟨pass, _, rfl, .refl pass, ?_, fun _ => rfl⟩
          have other := different pass rfl
          simp [drawnNext, recorded, hot, Ne.symm other]
      | cleared isClear payload =>
          refine ⟨pass, _, rfl, .refl pass, ?_, fun _ => rfl⟩
          simp [drawnNext, SourceCommandView.recorded, isClear, payload]
      | standalone recorded op =>
          refine ⟨pass, _, rfl, .refl pass, ?_, fun _ => rfl⟩
          have other : command.kind ≠ .drawRun := by
            intro isDraw
            simp [SourceCommandView.standaloneOp, isDraw] at op
          simp [drawnNext, recorded, other]

theorem exists_clear_outline (resolver : ResourceAliasResolver)
    (current : Option PassOutline) (index : Nat)
    {commands : List SourceCommandView} {offset : Nat} {clear : ClearCommandView}
    (present : commands[offset]? = some command)
    (isClear : command.kind = .clear)
    (payload : command.clear = some clear) :
    ∃ (position : Nat) (later : PassOutline),
      (passesFrom resolver current index commands)[position]? = some later ∧
        Continues (PassOutline.ofClear (attachmentSetFromClear clear)
          (index + offset) (clearAccesses resolver clear)) later ∧
        (later.draws = [] ↔ drawnNext (attachmentSetFromClear clear)
            (commands.drop (offset + 1)) = false) := by
  induction commands generalizing current index offset with
  | nil => simp at present
  | cons head rest induction =>
      obtain ⟨closed, next, stepCase, step⟩ :=
        exists_stepCase resolver index head current
      rw [step rest]
      cases offset with
      | zero =>
          obtain rfl : head = command := by simpa using present
          cases stepCase with
          | skipped unrecorded =>
              simp [SourceCommandView.recorded, isClear, payload] at unrecorded
          | continued isDraw _ _ => simp [isDraw] at isClear
          | fresh isDraw _ _ => simp [isDraw] at isClear
          | standalone _ op =>
              simp [SourceCommandView.standaloneOp, isClear] at op
          | cleared _ same =>
              obtain rfl := Option.some.inj (payload.symm.trans same)
              obtain ⟨later, more, split, continued, drawn, undrawn⟩ :=
                passesFrom_some resolver
                  (PassOutline.ofClear (attachmentSetFromClear clear) index
                    (clearAccesses resolver clear)) (index + 1) rest
              refine ⟨current.toList.length, later, ?_, continued, ?_⟩
              · rw [split, List.getElem?_append_right (Nat.le_refl _)]
                simp
              · have targets : (PassOutline.ofClear
                    (attachmentSetFromClear clear) index
                    (clearAccesses resolver clear)).targets =
                      attachmentSetFromClear clear := rfl
                rw [targets] at drawn undrawn
                cases next : drawnNext (attachmentSetFromClear clear)
                    rest with
                | true => simpa [next] using drawn next
                | false =>
                    have none : later.draws = [] := undrawn next
                    simpa [next] using none
      | succ offset =>
          obtain ⟨position, later, found, continued, drawn⟩ :=
            induction next (index + 1) (by simpa using present)
          refine ⟨closed.length + position, later, ?_, ?_, ?_⟩
          · rw [List.getElem?_append_right (Nat.le_add_right _ _),
              Nat.add_sub_cancel_left]
            exact found
          · rw [Nat.add_right_comm, Nat.add_assoc] at continued
            exact continued
          · simpa using drawn

theorem optimize_default (graph : FrameGraph) (inputs : OptimizerInputs) :
    optimize graph {} inputs = runLoadStore (runLifetime graph) :=
  rfl

/-- The load action of an attachment, from the outline of its pass. -/
def loadFrom (outline : PassOutline) (handle : Handle) : LoadAction :=
  if handle = 0 then .dontCare
  else if (outline.accessesOf handle).head? = some .clear then .clear
  else .load

variable {outlines : List PassOutline}

theorem colorLoadFor_eq {graph : FrameGraph}
    (shows : graph.Shows outlines) (handle : Handle) (pass : Nat) :
    colorLoadFor (runLifetime graph) handle pass =
      loadFrom (outlines.getD pass default) handle := by
  unfold colorLoadFor loadFrom
  rw [← shows.log handle pass]
  have kept : ∀ node : ResourceNode,
      (recomputeLifetime node).handle = node.handle ∧
        (recomputeLifetime node).accesses = node.accesses := by
    intro node
    unfold recomputeLifetime
    split <;> simp_all
  split
  · rfl
  · unfold FrameGraph.accessesIn runLifetime
    simp only [List.find?_map, Function.comp_def, (kept _).1]
    cases graph.resources.find? fun node => node.handle == handle with
    | none => simp
    | some node =>
        simp only [Option.map_some, Option.getD_some, clearedFirstInPass,
          (kept node).2, List.head?_map, List.head?_filter]
        cases node.accesses.find? fun access => access.passIndex == pass with
        | none => simp
        | some access => simp

/-- How a pass of the optimized graph is linearized. -/
structure FrameGraph.LinearizesAs (graph : FrameGraph) (pass : Nat)
    (outline : PassOutline) : Prop where
  kind : (graph.pass pass).kind = outline.kind
  alive : (graph.pass pass).flags.dead = false
  drawCount : (graph.pass pass).draws.count = outline.draws.length
  draws : graph.drawsOf (graph.pass pass) = outline.draws
  commands :
    graph.passCommands pass = outline.commands.map CommandRef.commandIndex
  loads : outline.kind = .render →
    (graph.pass pass).loadStore.colorLoad =
        outline.targets.color.map (loadFrom outline) ∧
      (graph.pass pass).loadStore.depthLoad =
        loadFrom outline outline.targets.depth

theorem linearizesAs_optimize {graph : FrameGraph} (shows : graph.Shows outlines)
    (unflagged : ∀ pass ∈ graph.passes, pass.flags = {})
    (inputs : OptimizerInputs) {pass : Nat} {outline : PassOutline}
    (listed : outlines[pass]? = some outline) :
    (optimize graph {} inputs).LinearizesAs pass outline := by
  rw [optimize_default]
  obtain ⟨inside, isOutline⟩ := List.getElem?_eq_some_iff.mp listed
  have passInside : pass < graph.passes.length := shows.length ▸ inside
  have shown : graph.PassIs graph.passes[pass] outline := by
    have related := List.forall₂_iff_get.mp shows.passes
    have here := related.2 pass passInside inside
    simpa [isOutline] using here
  have flags := unflagged graph.passes[pass] (List.getElem_mem passInside)
  have atPass : (runLoadStore (runLifetime graph)).pass pass =
      if graph.passes[pass].kind = .render then
        { graph.passes[pass] with
          loadStore := loadStoreFor (runLifetime graph) pass
            graph.passes[pass].targets }
      else graph.passes[pass] := by
    simp [FrameGraph.pass, runLoadStore, runLifetime, passInside]
  have fields : ((runLoadStore (runLifetime graph)).pass pass).kind =
        graph.passes[pass].kind ∧
      ((runLoadStore (runLifetime graph)).pass pass).flags =
        graph.passes[pass].flags ∧
      ((runLoadStore (runLifetime graph)).pass pass).draws =
        graph.passes[pass].draws ∧
      ((runLoadStore (runLifetime graph)).pass pass).commands =
        graph.passes[pass].commands := by
    rw [atPass]
    split
    · exact ⟨rfl, rfl, rfl, rfl⟩
    · exact ⟨rfl, rfl, rfl, rfl⟩
  obtain ⟨kind, sameFlags, draws, commands⟩ := fields
  refine
    { kind := kind.trans shown.kind
      alive := by rw [sameFlags, flags]
      drawCount := by rw [draws, shown.drawCount]
      draws := ?_
      commands := ?_
      loads := ?_ }
  · unfold FrameGraph.drawsOf
    rw [draws]
    exact shown.draws
  · unfold FrameGraph.passCommands FrameGraph.commandsOf
    rw [commands]
    exact congrArg (List.map CommandRef.commandIndex) shown.commands
  · intro render
    rw [atPass, if_pos (shown.kind.trans render), shown.targets]
    constructor
    · apply Vector.ext
      intro slot bound
      simp [loadStoreFor, colorLoadFor_eq shows, listed]
    · simp [loadStoreFor, colorLoadFor_eq shows, listed]

/-! ## Draws, standalone passes and balance -/

theorem flatMap_range_eq {α β : Type*} {items : List α} {left : Nat → List β}
    {right : α → List β}
    (agree : ∀ index item, items[index]? = some item →
      left index = right item) :
    (List.range items.length).flatMap left = items.flatMap right := by
  induction items using List.reverseRecOn with
  | nil => rfl
  | append_singleton items item induction =>
      rw [List.length_append, List.length_singleton, List.range_succ,
        List.flatMap_append, List.flatMap_append]
      congr 1
      · refine induction fun index other listed => agree index other ?_
        have inside := (List.getElem?_eq_some_iff.mp listed).1
        rw [List.getElem?_append_left inside, listed]
      · simpa using agree items.length item (by simp)

namespace FrameGraph.LinearizesAs

variable {graph : FrameGraph} {pass : Nat} {outline : PassOutline}

section

variable (shown : graph.LinearizesAs pass outline)
include shown

theorem count_eq_zero_iff :
    (graph.pass pass).draws.count = 0 ↔ outline.draws = [] := by
  rw [shown.drawCount, List.length_eq_zero_iff]

theorem linearizePass_undrawn
    (render : outline.kind = .render) (undrawn : outline.draws = []) :
    linearizePass graph pass =
      if passHasClearLoad (graph.pass pass) then
        [{ kind := .emitClear
           passIndex := pass
           attachments := (graph.pass pass).targets
           loadStore := (graph.pass pass).loadStore }]
      else [] := by
  simp [linearizePass, shown.alive, shown.kind, render, emitRenderPass,
    shown.count_eq_zero_iff.mpr undrawn]

theorem linearizePass_drawn
    (render : outline.kind = .render) (drawn : outline.draws ≠ []) :
    ∃ first : LinearOp, first.kind = .beginPass ∧ first.passIndex = pass ∧
      first.loadStore = (graph.pass pass).loadStore ∧
      linearizePass graph pass =
        first :: (outline.draws.map fun draw =>
          ({ kind := .emitDraw, passIndex := pass, draw := draw } :
            LinearOp)) ++
          [{ kind := .endPass, passIndex := pass }] := by
  have counted : (graph.pass pass).draws.count ≠ 0 :=
    fun zero => drawn (shown.count_eq_zero_iff.mp zero)
  refine ⟨{ kind := .beginPass
            passIndex := pass
            attachments := (graph.pass pass).targets
            loadStore := (graph.pass pass).loadStore
            draw := graph.draws.getD (graph.pass pass).draws.first
              default }, rfl, rfl, rfl, ?_⟩
  simp [linearizePass, shown.alive, shown.kind, render, emitRenderPass,
    counted, shown.draws]

theorem linearizePass_standalone
    (alone : outline.kind = .present ∨ outline.kind = .blit) :
    linearizePass graph pass = [emitStandaloneOp pass outline.kind] := by
  rcases alone with present | blit
  · simp [linearizePass, shown.alive, shown.kind, present]
  · simp [linearizePass, shown.alive, shown.kind, blit]

theorem draws_of_pass
    (proper : outline.Proper) :
    ((linearizePass graph pass).filter fun op =>
      op.kind == .emitDraw).map LinearOp.draw = outline.draws := by
  rcases proper with render | ⟨alone, undrawn⟩
  · by_cases undrawn : outline.draws = []
    · rw [shown.linearizePass_undrawn render undrawn, undrawn]
      split <;> rfl
    · obtain ⟨first, kind, _, _, ops⟩ :=
        shown.linearizePass_drawn render undrawn
      rw [ops]
      simp [kind, List.filter_map, Function.comp_def]
  · rw [shown.linearizePass_standalone alone, undrawn]
    rcases alone with present | blit
    · simp [present, emitStandaloneOp]
    · simp [blit, emitStandaloneOp]

theorem standalone_of_pass
    (proper : outline.Proper) :
    ((linearizePass graph pass).filter fun op =>
      op.kind == .present || op.kind == .blit).map
        (fun op => (graph.passCommands op.passIndex, op.kind)) =
      outline.standaloneOp.toList := by
  rcases proper with render | ⟨alone, _⟩
  · by_cases undrawn : outline.draws = []
    · rw [shown.linearizePass_undrawn render undrawn]
      split <;> simp [PassOutline.standaloneOp, render]
    · obtain ⟨first, kind, _, _, ops⟩ :=
        shown.linearizePass_drawn render undrawn
      rw [ops]
      simp [kind, List.filter_map, Function.comp_def,
        PassOutline.standaloneOp, render]
  · rw [shown.linearizePass_standalone alone]
    rcases alone with present | blit
    · simp [present, emitStandaloneOp, PassOutline.standaloneOp,
        shown.commands]
    · simp [blit, emitStandaloneOp, PassOutline.standaloneOp, shown.commands]

end

theorem balanced_draws (pass : Nat) (draws : List DrawRef)
    (rest : List LinearOp) :
    balancedOps (some pass)
        ((draws.map fun draw =>
          ({ kind := .emitDraw, passIndex := pass, draw := draw } :
            LinearOp)) ++ rest) =
      balancedOps (some pass) rest := by
  induction draws with
  | nil => rfl
  | cons draw draws induction => simpa [balancedOps] using induction

/-- Every pass leaves the plan as balanced as it was. -/
theorem balanced_of_pass (shown : graph.LinearizesAs pass outline)
    (proper : outline.Proper) (rest : List LinearOp) :
    balancedOps none (linearizePass graph pass ++ rest) =
      balancedOps none rest := by
  rcases proper with render | ⟨alone, _⟩
  · by_cases undrawn : outline.draws = []
    · rw [shown.linearizePass_undrawn render undrawn]
      split
      · simp [balancedOps]
      · rfl
    · obtain ⟨first, kind, position, _, ops⟩ :=
        shown.linearizePass_drawn render undrawn
      rw [ops, List.cons_append, List.cons_append, balancedOps, kind, position]
      simp only [Option.isNone_none, Bool.true_and]
      rw [List.append_assoc, balanced_draws]
      simp [balancedOps]
  · rw [shown.linearizePass_standalone alone]
    rcases alone with present | blit
    · simp [present, emitStandaloneOp, balancedOps]
    · simp [blit, emitStandaloneOp, balancedOps]

/-- Every operation names its pass. -/
theorem passIndex_of_mem (shown : graph.LinearizesAs pass outline)
    (proper : outline.Proper) {op : LinearOp}
    (member : op ∈ linearizePass graph pass) : op.passIndex = pass := by
  rcases proper with render | ⟨alone, _⟩
  · by_cases undrawn : outline.draws = []
    · rw [shown.linearizePass_undrawn render undrawn] at member
      split at member
      · obtain rfl := List.mem_singleton.mp member
        rfl
      · contradiction
    · obtain ⟨first, _, position, _, ops⟩ :=
        shown.linearizePass_drawn render undrawn
      rw [ops] at member
      simp only [List.cons_append, List.mem_cons, List.mem_append,
        List.mem_map, List.not_mem_nil, or_false] at member
      rcases member with rfl | ⟨draw, _, rfl⟩ | rfl
      · exact position
      · rfl
      · rfl
  · rw [shown.linearizePass_standalone alone, List.mem_singleton] at member
    rw [member]
    rfl

end FrameGraph.LinearizesAs

/-! ## Load actions of a clear -/

theorem toList_four {α : Type*} (items : Vector α kMaxRenderTargets) :
    items.toList = [items[0], items[1], items[2], items[3]] := by
  apply List.ext_getElem
  · simp
  · intro slot inside _
    have bound : slot < 4 := by simpa using inside
    match slot, bound with
    | 0, _ => simp
    | 1, _ => simp
    | 2, _ => simp
    | 3, _ => simp

theorem color_attachmentSetFromClear (clear : ClearCommandView) :
    (attachmentSetFromClear clear).color.toList =
      (if clear.clearColor then
        clear.colorAttachments.toList.map RenderTargetAttachment.handle
      else List.replicate kMaxRenderTargets 0) ++ List.replicate 4 0 := by
  have depthKeeps : ∀ set : AttachmentSet,
      (if clear.clearDepth || clear.clearStencil then
        bindDepthAttachment clear.depthStencil set else set).color =
          set.color := by
    intro set
    split <;> rfl
  unfold attachmentSetFromClear
  simp only [depthKeeps]
  split
  · rw [toList_four]
    rfl
  · rfl

theorem depth_attachmentSetFromClear (clear : ClearCommandView) :
    (attachmentSetFromClear clear).depth =
      if clear.clearDepth || clear.clearStencil then
        clear.depthStencil.handle
      else 0 := by
  have colorsKeep : (if clear.clearColor then
      (List.finRange kMaxRenderTargets).foldl
        (bindColorAttachment clear.colorAttachments) {}
      else ({} : AttachmentSet)).depth = 0 := by
    split <;> rfl
  unfold attachmentSetFromClear
  simp only
  split
  · rfl
  · exact colorsKeep

theorem mem_clearedHandles_iff (clear : ClearCommandView)
    (handle : Handle) :
    handle ∈ clearedHandles clear ↔
      handle ≠ 0 ∧
        (handle ∈ (attachmentSetFromClear clear).color.toList ∨
          handle = (attachmentSetFromClear clear).depth) := by
  rw [color_attachmentSetFromClear, depth_attachmentSetFromClear]
  unfold clearedHandles
  by_cases null : handle = 0
  · simp [null]
  · cases clear.clearColor <;>
      cases clear.clearDepth || clear.clearStencil <;> simp [null]

theorem loadFrom_clear_iff {resolver : ResourceAliasResolver}
    {clear : ClearCommandView} {index : Nat} {later : PassOutline}
    (continued : Continues (PassOutline.ofClear (attachmentSetFromClear clear)
      index (clearAccesses resolver clear)) later) (handle : Handle) :
    loadFrom later handle = .clear ↔
      handle ≠ 0 ∧ overwritesFirst resolver clear handle = true := by
  obtain ⟨reads, accesses, reading⟩ := continued.accesses
  have logged : later.accesses = clearAccesses resolver clear ++ reads :=
    accesses
  unfold loadFrom PassOutline.accessesOf overwritesFirst
  rw [logged]
  by_cases null : handle = 0
  · simp [null]
  · rw [if_neg null, List.head?_map, List.head?_filter, List.find?_append]
    cases (clearAccesses resolver clear).find? fun access =>
        access.1 == handle with
    | some access => simp [null]
    | none =>
        cases found : reads.find? fun access => access.1 == handle with
        | none => simp
        | some access =>
            have kind := reading access (List.mem_of_find?_eq_some found)
            simp [kind]

variable {graph : FrameGraph} {pass : Nat} {resolver : ResourceAliasResolver}
  {clear : ClearCommandView} {index : Nat} {later : PassOutline}

section

variable (shown : graph.LinearizesAs pass later)
  (continued : Continues (PassOutline.ofClear (attachmentSetFromClear clear)
    index (clearAccesses resolver clear)) later)
include shown continued

theorem passHasClearLoad_iff :
    passHasClearLoad (graph.pass pass) = true ↔
      (clearedHandles clear).any (overwritesFirst resolver clear) = true := by
  have targets : later.targets = attachmentSetFromClear clear :=
    continued.targets
  obtain ⟨color, depth⟩ := shown.loads continued.kind
  unfold passHasClearLoad
  rw [color, depth, targets, Bool.or_eq_true, ← Vector.any_toList,
    Vector.toList_map, List.any_map, List.any_eq_true, List.any_eq_true]
  simp only [Function.comp_apply, beq_iff_eq, loadFrom_clear_iff continued]
  constructor
  · rintro (⟨handle, member, bound, first⟩ | ⟨bound, first⟩)
    · exact ⟨handle, (mem_clearedHandles_iff clear handle).mpr
        ⟨bound, Or.inl member⟩, first⟩
    · exact ⟨_, (mem_clearedHandles_iff clear _).mpr
        ⟨bound, Or.inr rfl⟩, first⟩
  · rintro ⟨handle, member, first⟩
    obtain ⟨bound, colored | rfl⟩ :=
      (mem_clearedHandles_iff clear handle).mp member
    · exact Or.inl ⟨handle, colored, bound, first⟩
    · exact Or.inr ⟨bound, first⟩

theorem colorLoad_slot
    (colors : clear.clearColor = true) (slot : Fin kMaxRenderTargets) :
    (graph.pass pass).loadStore.colorLoad[slot.val]? =
      some (loadFrom later (clear.colorAttachments.get slot).handle) := by
  have targets : later.targets = attachmentSetFromClear clear :=
    continued.targets
  rw [(shown.loads continued.kind).1, targets, ← Vector.getElem?_toList,
    Vector.toList_map, color_attachmentSetFromClear, if_pos colors,
    List.getElem?_map, List.getElem?_append_left (by simp)]
  rw [List.getElem?_map, Vector.getElem?_toList,
    Vector.getElem?_eq_getElem slot.isLt]
  rfl

theorem loadsClear_iff :
    LoadsClear (graph.pass pass).loadStore clear ↔
      (clearedHandles clear).all (overwritesFirst resolver clear) = true := by
  have targets : later.targets = attachmentSetFromClear clear :=
    continued.targets
  have depth := (shown.loads continued.kind).2
  rw [targets, depth_attachmentSetFromClear] at depth
  unfold LoadsClear
  rw [depth]
  have colorLoads : (clear.clearColor = true → ∀ slot : Fin kMaxRenderTargets,
        (clear.colorAttachments.get slot).handle ≠ 0 →
          (graph.pass pass).loadStore.colorLoad[slot.val]? = some .clear) ↔
      (clear.clearColor = true → ∀ slot : Fin kMaxRenderTargets,
        (clear.colorAttachments.get slot).handle ≠ 0 →
          overwritesFirst resolver clear
            (clear.colorAttachments.get slot).handle = true) := by
    refine forall_congr' fun colors => forall_congr' fun slot =>
      forall_congr' fun bound => ?_
    rw [colorLoad_slot shown continued colors, Option.some.injEq,
      loadFrom_clear_iff continued]
    exact and_iff_right bound
  rw [colorLoads, List.all_eq_true]
  unfold clearedHandles
  constructor
  · rintro ⟨colorsFirst, depthFirst⟩ handle member
    obtain ⟨listed, bound⟩ := List.mem_filter.mp member
    have nonnull : handle ≠ 0 := by simpa using bound
    rcases List.mem_append.mp listed with colored | deep
    · split at colored
      · rename_i colors
        obtain ⟨attachment, present, rfl⟩ := List.mem_map.mp colored
        obtain ⟨slot, inside, rfl⟩ := List.mem_iff_getElem.mp present
        exact colorsFirst colors ⟨slot, by simpa using inside⟩ nonnull
      · contradiction
    · split at deep
      · rename_i aspects
        obtain rfl := List.mem_singleton.mp deep
        have cleared := depthFirst aspects nonnull
        rw [if_pos aspects, loadFrom_clear_iff continued] at cleared
        exact cleared.2
      · contradiction
  · intro first
    refine ⟨fun colors slot bound => ?_, fun aspects bound => ?_⟩
    · apply first
      rw [List.mem_filter]
      refine ⟨List.mem_append_left _ ?_, by simpa using bound⟩
      rw [if_pos colors]
      exact List.mem_map.mpr ⟨clear.colorAttachments.get slot,
        Vector.mem_toList_iff.mpr (Vector.getElem_mem slot.isLt), rfl⟩
    · rw [if_pos aspects, loadFrom_clear_iff continued]
      refine ⟨bound, first _ ?_⟩
      rw [List.mem_filter, if_pos aspects]
      exact ⟨List.mem_append_right _ (List.mem_singleton.mpr rfl),
        by simpa using bound⟩

theorem carriesClear_iff {rest : List SourceCommandView}
    (drawn : later.draws = [] ↔
      drawnNext (attachmentSetFromClear clear) rest = false)
    {ops : List LinearOp}
    (ofPass : ∀ op, op ∈ linearizePass graph pass ↔
      op ∈ ops ∧ index ∈ graph.passCommands op.passIndex) :
    CarriesClear graph ops index clear ↔
      clearSurvives resolver clear rest = true := by
  have carried : CarriesClear graph ops index clear ↔
      ∃ op ∈ linearizePass graph pass, op.kind = .emitClear ∨
        (op.kind = .beginPass ∧ LoadsClear op.loadStore clear) := by
    constructor
    · rintro ⟨op, member, owned, kind⟩
      exact ⟨op, (ofPass op).mpr ⟨member, owned⟩, kind⟩
    · rintro ⟨op, member, kind⟩
      obtain ⟨listed, owned⟩ := (ofPass op).mp member
      exact ⟨op, listed, owned, kind⟩
  rw [carried]
  unfold clearSurvives
  by_cases undrawn : later.draws = []
  · rw [drawn.mp undrawn, shown.linearizePass_undrawn continued.kind undrawn]
    simp only [Bool.false_eq_true, if_false]
    rw [← passHasClearLoad_iff shown continued]
    split <;> rename_i hasClear
    · simp [hasClear]
    · simp [hasClear]
  · have next : drawnNext (attachmentSetFromClear clear) rest = true := by
      cases next : drawnNext (attachmentSetFromClear clear) rest with
      | true => rfl
      | false => exact absurd (drawn.mpr next) undrawn
    obtain ⟨first, kind, _, policy, opsEq⟩ :=
      shown.linearizePass_drawn continued.kind undrawn
    rw [next, if_pos rfl, opsEq, ← loadsClear_iff shown continued, ← policy]
    constructor
    · rintro ⟨op, member, kinds⟩
      simp only [List.cons_append, List.mem_cons, List.mem_append,
        List.mem_map, List.not_mem_nil, or_false] at member
      rcases member with rfl | ⟨draw, _, rfl⟩ | rfl
      · rw [kind] at kinds
        simpa using kinds
      · simp at kinds
      · simp at kinds
    · intro loads
      exact ⟨first, by simp, Or.inr ⟨kind, loads⟩⟩

end

theorem passCommands_optimize_default (graph : FrameGraph)
    (inputs : OptimizerInputs) (pass : Nat) :
    (optimize graph {} inputs).passCommands pass =
      graph.passCommands pass := by
  have lifetime := runLifetime_sameShape graph
  have policies := runLoadStore_sameShape (runLifetime graph)
  rw [optimize_default]
  unfold FrameGraph.passCommands FrameGraph.commandsOf
  rw [policies.commandRange, policies.commands, lifetime.commandRange,
    lifetime.commands]

/--
The default plan of a built graph loses nothing exactly when every standalone
command carries its record and every clear survives.
-/
theorem losesNothing_iff (payload : SourcePayloadView) (frameId : Nat)
    (resolver : ResourceAliasResolver) (inputs : OptimizerInputs) :
    LosesNothing payload
        (optimize (buildFrameGraph payload frameId resolver) {} inputs) ↔
      (∀ command ∈ payload.commands, command.standaloneOp.isSome = true →
        command.recorded = true) ∧
      ∀ index clear, (payload.commandAt index).kind = .clear →
        (payload.commandAt index).clear = some clear →
          clearSurvives resolver clear
            (payload.commands.drop (index + 1)) = true := by
  set graph := buildFrameGraph payload frameId resolver
  set outlines := passesFrom resolver none 0 payload.commands
  have shows : graph.Shows outlines :=
    buildFrameGraph_shows payload frameId resolver
  have built : graph.Built := buildFrameGraph_built payload frameId resolver
  have shown : ∀ pass outline, outlines[pass]? = some outline →
      (optimize graph {} inputs).LinearizesAs pass outline :=
    fun _ _ listed => linearizesAs_optimize shows built.unflagged inputs listed
  have proper : ∀ (pass : Nat) (outline : PassOutline),
      outlines[pass]? = some outline → outline.Proper := by
    intro pass outline listed
    exact passesFrom_proper resolver 0 payload.commands
      (fun _ opened => by simp at opened) outline
      (List.mem_of_getElem? listed)
  have count : (optimize graph {} inputs).passes.length =
      outlines.length := by
    rw [optimize_default, ← shows.length]
    simp [runLoadStore, runLifetime]
  have plan : planLinearization (optimize graph {} inputs) =
      (List.range outlines.length).flatMap
        (linearizePass (optimize graph {} inputs)) := by
    rw [← count]
    rfl
  have draws : ((planLinearization (optimize graph {} inputs)).filter
      fun op => op.kind == .emitDraw).map LinearOp.draw =
        drawsFrom 0 payload.commands := by
    rw [plan, List.filter_flatMap, List.map_flatMap,
      flatMap_range_eq fun pass outline listed =>
        (shown pass outline listed).draws_of_pass
          (proper pass outline listed)]
    exact flatMap_draws resolver none 0 payload.commands
  have standalones : ((planLinearization (optimize graph {} inputs)).filter
      fun op => op.kind == .present || op.kind == .blit).map
        (fun op => ((optimize graph {} inputs).passCommands op.passIndex,
          op.kind)) =
        recordedStandalonesFrom 0 payload.commands := by
    rw [plan, List.filter_flatMap, List.map_flatMap,
      flatMap_range_eq fun pass outline listed =>
        (shown pass outline listed).standalone_of_pass
          (proper pass outline listed),
      ← List.filterMap_eq_flatMap_toList]
    exact filterMap_standaloneOp resolver 0 payload.commands
      (fun _ opened => by simp at opened)
  have balanced :
      balancedOps none (planLinearization (optimize graph {} inputs)) =
        true := by
    rw [plan]
    have each : ∀ positions : List Nat,
        (∀ pass ∈ positions, pass < outlines.length) →
          balancedOps none (positions.flatMap
            (linearizePass (optimize graph {} inputs))) = true := by
      intro positions inside
      induction positions with
      | nil => rfl
      | cons pass rest induction =>
          have listed := List.getElem?_eq_getElem
            (inside pass List.mem_cons_self)
          rw [List.flatMap_cons,
            (shown pass _ listed).balanced_of_pass (proper pass _ listed)]
          exact induction fun other member =>
            inside other (List.mem_cons_of_mem pass member)
    exact each _ fun pass member => List.mem_range.mp member
  have clears : ∀ index clear,
      (payload.commandAt index).kind = .clear →
        (payload.commandAt index).clear = some clear →
          (CarriesClear (optimize graph {} inputs)
              (planLinearization (optimize graph {} inputs)) index clear ↔
            clearSurvives resolver clear
              (payload.commands.drop (index + 1)) = true) := by
    intro index clear isClear cleared
    have present : payload.commands[index]? =
        some (payload.commandAt index) := by
      cases found : payload.commands[index]? with
      | none =>
          have absent : payload.commandAt index = default := by
            simp [SourcePayloadView.commandAt, List.getD_eq_getElem?_getD,
              found]
          rw [absent] at cleared
          contradiction
      | some command =>
          simp [SourcePayloadView.commandAt, List.getD_eq_getElem?_getD,
            found]
    obtain ⟨position, later, listed, continued, drawn⟩ :=
      exists_clear_outline resolver none 0 present isClear cleared
    rw [Nat.zero_add] at continued
    have shownPass := shown position later listed
    have owned : index ∈
        (optimize graph {} inputs).passCommands position := by
      obtain ⟨more, commands⟩ := continued.commands
      rw [shownPass.commands, commands]
      simp [PassOutline.ofClear]
    refine carriesClear_iff shownPass continued drawn fun op => ?_
    constructor
    · intro member
      have named := shownPass.passIndex_of_mem (proper position later listed)
        member
      refine ⟨?_, named ▸ owned⟩
      rw [plan, List.mem_flatMap]
      exact ⟨position, List.mem_range.mpr
        (List.getElem?_eq_some_iff.mp listed).1, member⟩
    · rintro ⟨member, ownedHere⟩
      rw [plan, List.mem_flatMap] at member
      obtain ⟨pass, inside, member⟩ := member
      have there := List.getElem?_eq_getElem (List.mem_range.mp inside)
      have named := (shown pass _ there).passIndex_of_mem
        (proper pass _ there) member
      rw [named, passCommands_optimize_default] at ownedHere
      rw [passCommands_optimize_default] at owned
      exact built.owner_unique ownedHere owned ▸ member
  constructor
  · intro kept
    refine ⟨?_, fun index clear isClear cleared =>
      (clears index clear isClear cleared).mp
        (kept.clears index clear isClear cleared)⟩
    exact (recordedStandalonesFrom_eq_iff 0 payload.commands).mp
      (standalones.symm.trans kept.standalones)
  · rintro ⟨recorded, survives⟩
    exact
      { draws := draws
        standalones := standalones.trans
          ((recordedStandalonesFrom_eq_iff 0 payload.commands).mpr recorded)
        balanced := balanced
        clears := fun index clear isClear cleared =>
          (clears index clear isClear cleared).mpr
            (survives index clear isClear cleared) }

/-- A full color clear of the surface `0x107`. -/
def surfaceClear : SourceCommandView where
  kind := .clear
  clear := some
    { colorAttachments := #v[{ handle := 0x107 }, {}, {}, {}]
      clearColor := true }

/-- The surface `0x107` belongs to the texture `7`. -/
def surfaceResolver : ResourceAliasResolver where
  resolve := some fun handle => if handle = 0x107 then 7 else handle

/-- The clear of an aliased surface without draws has no operation. -/
theorem surfaceClear_lost :
    ¬ LosesNothing { commands := [surfaceClear] }
      (optimize
        (buildFrameGraph { commands := [surfaceClear] } 0 surfaceResolver)
        {} {}) := by
  have empty : planLinearization
      (optimize
        (buildFrameGraph { commands := [surfaceClear] } 0 surfaceResolver)
        {} {}) = [] := by
    decide +kernel
  intro kept
  obtain ⟨op, member, _⟩ := kept.clears 0 _ rfl rfl
  rw [empty] at member
  contradiction

end Dxmt9.Framegraph
