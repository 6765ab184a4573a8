import Dxmt9.Framegraph.DefaultPlan
import Dxmt9.Framegraph.DeferredSuffixSound
import Dxmt9.Framegraph.EliminationSound

/-!
# Every surface of a command is logged

The access log of a pass names the surfaces of its commands by their canonical
handles, an updated one with a writing access.  So commands that depend on
each other belong to one pass or to passes that conflict.
-/

namespace Dxmt9.Framegraph

open Dxmt9.Dataflow

variable {surface : Handle}

theorem mem_boundColors
    {attachments : Vector RenderTargetAttachment kMaxRenderTargets}
    (bound : surface ≠ 0)
    (member : surface ∈
      attachments.toList.map RenderTargetAttachment.handle) :
    surface ∈ Builder.boundColors ((List.finRange kMaxRenderTargets).foldl
      (bindColorAttachment attachments) {}) := by
  rw [toList_four] at member
  change surface ∈ List.take
    (if attachments[3].handle ≠ 0 then 4
    else if attachments[2].handle ≠ 0 then 3
    else if attachments[1].handle ≠ 0 then 2
    else if attachments[0].handle ≠ 0 then 1 else 0)
    [attachments[0].handle, attachments[1].handle, attachments[2].handle,
      attachments[3].handle, 0, 0, 0, 0]
  simp only [List.map_cons, List.map_nil, List.mem_cons, List.not_mem_nil,
    or_false] at member
  rcases member with rfl | rfl | rfl | rfl <;> split <;> grind

/-- The surfaces that a render pass with these targets writes. -/
def AttachmentSet.bound (targets : AttachmentSet) : List Handle :=
  Builder.boundColors targets ++ [targets.depth]

theorem bound_of_drawn {hot : FlatDrawStateRecord}
    (drawn : surface ∈ drawnSurfaces hot) :
    surface ≠ 0 ∧ surface ∈ (attachmentSetFromHot hot).bound := by
  obtain ⟨member, bound⟩ := List.mem_filter.mp drawn
  have bound := of_decide_eq_true bound
  refine ⟨bound, List.mem_append.mpr ?_⟩
  exact (List.mem_append.mp member).imp_left (mem_boundColors bound)

theorem bound_of_cleared {clear : ClearCommandView}
    (cleared : surface ∈ clearedColors clear ++ clearedDepthStencil clear) :
    surface ≠ 0 ∧ surface ∈ (attachmentSetFromClear clear).bound := by
  rcases List.mem_append.mp cleared with color | depth
  · unfold clearedColors at color
    split at color
    · rename_i isColor
      obtain ⟨member, bound⟩ := List.mem_filter.mp color
      have bound := of_decide_eq_true bound
      refine ⟨bound, List.mem_append_left _ ?_⟩
      unfold attachmentSetFromClear
      rw [if_pos isColor]
      dsimp only
      split <;> exact mem_boundColors bound member
    · contradiction
  · unfold clearedDepthStencil at depth
    split at depth
    · rename_i isDepth
      obtain ⟨member, bound⟩ := List.mem_filter.mp depth
      refine ⟨of_decide_eq_true bound, List.mem_append_right _ ?_⟩
      rw [depth_attachmentSetFromClear, if_pos isDepth]
      exact member
    · contradiction

/-! ## One command -/

variable {resolver : ResourceAliasResolver}
  {accesses more : List (Handle × AccessKind)} {targets : AttachmentSet}
  {command : SourceCommandView}

/-- The attachments are logged as written. -/
def Attached (resolver : ResourceAliasResolver) (targets : AttachmentSet)
    (accesses : List (Handle × AccessKind)) : Prop :=
  ∀ surface ∈ targets.bound, surface ≠ 0 →
    ∃ kind, accessWrites kind = true ∧
      (resolver.apply surface, kind) ∈ accesses

/-- The surfaces of a command are logged, updated ones as written. -/
structure LogsSurfaces (resolver : ResourceAliasResolver)
    (accesses : List (Handle × AccessKind)) (command : SourceCommandView) :
    Prop where
  uses : ∀ surface, command.uses resolver surface →
    ∃ kind, (resolver.apply surface, kind) ∈ accesses
  updates : ∀ surface, command.updates resolver surface →
    ∃ kind, accessWrites kind = true ∧
      (resolver.apply surface, kind) ∈ accesses

theorem LogsSurfaces.mono (logs : LogsSurfaces resolver accesses command)
    (within : accesses ⊆ more) : LogsSurfaces resolver more command where
  uses surface used := (logs.uses surface used).imp fun _ logged =>
    within logged
  updates surface updated := (logs.updates surface updated).imp
    fun _ logged => logged.imp_right fun logged => within logged

/-- What the accesses of an effect have to cover. -/
def PassEffect.Covers (resolver : ResourceAliasResolver)
    (command : SourceCommandView) : PassEffect → Prop
  | .skipped => ∀ surface, ¬command.uses resolver surface ∧
      ¬command.updates resolver surface
  | .drawn targets writes reads => Attached resolver targets writes ∧
      ∀ accesses, Attached resolver targets accesses → reads ⊆ accesses →
        LogsSurfaces resolver accesses command
  | .cleared targets accesses => Attached resolver targets accesses ∧
      LogsSurfaces resolver accesses command
  | .standalone _ accesses => LogsSurfaces resolver accesses command

section

variable (named : ∀ surface, surface ≠ 0 → resolver.apply surface ≠ 0)
include named

theorem noted {kind : AccessKind} {handles : List Handle}
    (member : surface ∈ handles) (bound : surface ≠ 0) :
    (resolver.apply surface, kind) ∈
      notedAccesses resolver kind true handles :=
  mem_notedAccesses.mpr ⟨rfl, named surface bound, surface, member, bound, rfl⟩

theorem attached_noted {colors depth : AccessKind}
    (colorsWrite : accessWrites colors = true)
    (depthWrites : accessWrites depth = true) :
    Attached resolver targets
      (notedAccesses resolver colors true (Builder.boundColors targets) ++
        notedAccesses resolver depth true [targets.depth]) := by
  intro surface member bound
  rcases List.mem_append.mp member with color | depth
  · exact ⟨_, colorsWrite, List.mem_append_left _ (noted named color bound)⟩
  · exact ⟨_, depthWrites, List.mem_append_right _ (noted named depth bound)⟩

theorem transferEffect_covers (transfer : Option TransferDesc)
    (uses : ∀ surface, command.uses resolver surface →
      ∃ desc ∈ transfer, surface ≠ 0 ∧
        (surface = desc.source ∨ surface = desc.destination))
    (updates : ∀ surface, command.updates resolver surface →
      ∃ desc ∈ transfer, surface ≠ 0 ∧ surface = desc.destination) :
    (transferEffect resolver transfer).Covers resolver command := by
  cases transfer with
  | none =>
      refine fun surface => ⟨fun used => ?_, fun updated => ?_⟩
      · obtain ⟨_, absent, _⟩ := uses surface used
        cases absent
      · obtain ⟨_, absent, _⟩ := updates surface updated
        cases absent
  | some desc =>
      constructor
      · intro surface used
        obtain ⟨_, ⟨⟩, bound, source | destination⟩ := uses surface used
        · exact ⟨.read, List.mem_append_left _
            (noted named (List.mem_singleton.mpr source) bound)⟩
        · exact ⟨.write, List.mem_append_right _
            (noted named (List.mem_singleton.mpr destination) bound)⟩
      · intro surface updated
        obtain ⟨_, ⟨⟩, bound, destination⟩ := updates surface updated
        exact ⟨.write, rfl, List.mem_append_right _
          (noted named (List.mem_singleton.mpr destination) bound)⟩

theorem covers_read {kind : PassKind} {source : Handle}
    (uses : ∀ surface, command.uses resolver surface →
      surface = source ∧ surface ≠ 0)
    (updates : ∀ surface, ¬command.updates resolver surface) :
    (PassEffect.standalone kind (notedAccesses resolver .read true
      [source])).Covers resolver command where
  uses surface used := by
    obtain ⟨rfl, bound⟩ := uses surface used
    exact ⟨.read, noted named List.mem_cons_self bound⟩
  updates surface updated := absurd updated (updates surface)

theorem passEffect_covers (command : SourceCommandView) :
    (passEffect resolver command).Covers resolver command := by
  unfold passEffect
  cases kind : command.kind with
  | drawRun =>
      dsimp only
      cases state : command.hot with
      | none =>
          simp [PassEffect.Covers, SourceCommandView.uses,
            SourceCommandView.updates, kind, state]
      | some hot =>
          refine ⟨attached_noted named rfl rfl, fun accesses attached reads =>
            ⟨fun surface used => ?_, fun surface updated => ?_⟩⟩
          · simp only [SourceCommandView.uses, kind, state] at used
            obtain ⟨_, ⟨⟩, drawn | ⟨texture, bound, is⟩⟩ := used
            · obtain ⟨bound, member⟩ := bound_of_drawn drawn
              exact (attached surface member bound).imp fun _ => And.right
            · refine ⟨.read, reads (mem_notedAccesses.mpr
                ⟨rfl, named surface is.2.1, texture, bound, is.1, ?_⟩)⟩
              exact is.2.2
          · simp only [SourceCommandView.updates, kind, state] at updated
            obtain ⟨_, ⟨⟩, drawn⟩ := updated
            obtain ⟨bound, member⟩ := bound_of_drawn drawn
            exact attached surface member bound
  | clear =>
      dsimp only
      cases state : command.clear with
      | none =>
          simp [PassEffect.Covers, SourceCommandView.uses,
            SourceCommandView.updates, kind, state]
      | some clear =>
          have attached : Attached resolver (attachmentSetFromClear clear)
              (clearAccesses resolver clear) :=
            attached_noted named
              (by unfold Builder.clearColorAccess; split <;> rfl)
              (by unfold Builder.clearDepthStencilAccess; split <;> rfl)
          have logged : ∀ surface, surface ∈ clearedColors clear ++
              clearedDepthStencil clear → ∃ kind, accessWrites kind = true ∧
                (resolver.apply surface, kind) ∈
                  clearAccesses resolver clear := fun surface cleared =>
            attached surface (bound_of_cleared cleared).2
              (bound_of_cleared cleared).1
          refine ⟨attached, fun surface used => ?_, fun surface updated => ?_⟩
          · simp only [SourceCommandView.uses, kind, state] at used
            obtain ⟨_, ⟨⟩, preserved⟩ := used
            refine (logged surface ?_).imp fun _ => And.right
            unfold preservedSurfaces at preserved
            grind
          · simp only [SourceCommandView.updates, kind, state] at updated
            obtain ⟨_, ⟨⟩, cleared⟩ := updated
            exact logged surface cleared
  | present =>
      refine covers_read named (fun surface used => ?_) fun surface => ?_
      · simp only [SourceCommandView.uses, kind] at used
        rw [used.1]
        exact ⟨rfl, used.2⟩
      · simp [SourceCommandView.updates, kind]
  | generateMipmaps =>
      dsimp only
      cases state : command.generateMipmaps with
      | none =>
          simp [PassEffect.Covers, SourceCommandView.uses,
            SourceCommandView.updates, kind, state]
      | some texture =>
          have logged : ∀ surface, subresource resolver texture surface →
              (resolver.apply surface, AccessKind.readWrite) ∈
                notedAccesses resolver .readWrite false [texture] :=
            fun surface is => mem_notedAccesses.mpr ⟨rfl,
              named surface is.2.1, texture, List.mem_cons_self, is.1, is.2.2⟩
          constructor
          · intro surface used
            simp only [SourceCommandView.uses, kind, state] at used
            obtain ⟨_, ⟨⟩, is⟩ := used
            exact ⟨_, logged surface is⟩
          · intro surface updated
            simp only [SourceCommandView.updates, kind, state] at updated
            obtain ⟨_, ⟨⟩, is⟩ := updated
            exact ⟨_, rfl, logged surface is⟩
  | readback =>
      dsimp only
      cases state : command.readback with
      | none =>
          simp [PassEffect.Covers, SourceCommandView.uses,
            SourceCommandView.updates, kind, state]
      | some source =>
          refine covers_read named (fun surface used => ?_) fun surface => ?_
          · simp only [SourceCommandView.uses, kind, state] at used
            exact ⟨(Option.some.inj used.1).symm, used.2⟩
          · simp [SourceCommandView.updates, kind]
  | surfaceCopy | stretchRect | colorFill | depthResolve =>
      refine transferEffect_covers named _ ?_ ?_ <;>
        simp [SourceCommandView.transfer, SourceCommandView.uses,
          SourceCommandView.updates, kind]

/-- The outline owns the command and logs its surfaces. -/
def PassOutline.Logs (resolver : ResourceAliasResolver) (index : Nat)
    (command : SourceCommandView) (pass : PassOutline) : Prop :=
  (∃ reference ∈ pass.commands, reference.commandIndex = index) ∧
    LogsSurfaces resolver pass.accesses command

/-- The open pass logs its targets. -/
def OpenAttached (resolver : ResourceAliasResolver)
    (current : Option PassOutline) : Prop :=
  ∀ pass ∈ current, Attached resolver pass.targets pass.accesses

theorem outlineStep_logs {current : Option PassOutline} (index : Nat)
    (command : SourceCommandView) (attached : OpenAttached resolver current) :
    ∃ closed next,
      Builder.OutlineStep resolver index command current closed next ∧
        OpenAttached resolver next ∧
        (passEffect resolver command = .skipped ∨
          ∃ pass ∈ closed ++ next.toList,
            pass.Logs resolver index command) := by
  have covers := passEffect_covers named command
  cases effect : passEffect resolver command with
  | skipped => exact ⟨[], current, fun rest => by
      simp [passesFrom, effect], attached, Or.inl rfl⟩
  | drawn targets writes reads =>
      rw [effect] at covers
      have drawn : ∀ pass : PassOutline, pass.targets = targets →
          Attached resolver pass.targets pass.accesses →
            OpenAttached resolver (some (pass.addDraw command index reads)) ∧
              (pass.addDraw command index reads).Logs resolver index
                command := by
        rintro pass rfl attached
        have grown : Attached resolver pass.targets
            (pass.accesses ++ reads) := fun surface member bound =>
          (attached surface member bound).imp fun _ =>
            And.imp_right (List.mem_append_left _)
        refine ⟨?_, ⟨_, List.mem_append_right _ List.mem_cons_self, rfl⟩,
          covers.2 _ grown (List.subset_append_right ..)⟩
        rintro _ ⟨⟩
        exact grown
      cases continued : continuedPass current targets with
      | some pass =>
          obtain ⟨opened, equal⟩ := Option.filter_eq_some_iff.mp continued
          obtain ⟨next, logs⟩ := drawn pass (of_decide_eq_true equal)
            (attached pass opened)
          exact ⟨[], _, fun rest => by
            simp [passesFrom, effect, continued], next,
            Or.inr ⟨_, List.mem_cons_self, logs⟩⟩
      | none =>
          obtain ⟨next, logs⟩ := drawn (.opened targets writes) rfl covers.1
          exact ⟨current.toList, _, fun rest => by
            simp [passesFrom, effect, continued], next,
            Or.inr ⟨_, List.mem_append_right _ List.mem_cons_self, logs⟩⟩
  | cleared targets accesses =>
      rw [effect] at covers
      refine ⟨current.toList, some (.ofClear targets index accesses),
        fun rest => by simp [passesFrom, effect], ?_, Or.inr ⟨_,
          List.mem_append_right _ List.mem_cons_self,
          ⟨_, List.mem_cons_self, rfl⟩, covers.2⟩⟩
      rintro _ ⟨⟩
      exact covers.1
  | standalone kind accesses =>
      rw [effect] at covers
      have logs : (PassOutline.single kind index command accesses).Logs
          resolver index command := ⟨⟨_, List.mem_cons_self, rfl⟩, covers⟩
      refine ⟨current.toList ++ [.single kind index command accesses], none,
        fun rest => by simp [passesFrom, effect], ?_, Or.inr ⟨_,
          List.mem_append_left _ (List.mem_append_right _ List.mem_cons_self),
          logs⟩⟩
      exact fun _ absent => by cases absent

theorem passesFrom_logs {current : Option PassOutline} {index offset : Nat}
    {commands : List SourceCommandView}
    (attached : OpenAttached resolver current)
    (present : commands[offset]? = some command) :
    passEffect resolver command = .skipped ∨
      ∃ pass ∈ passesFrom resolver current index commands,
        pass.Logs resolver (index + offset) command := by
  induction commands generalizing current index offset with
  | nil => cases present
  | cons head rest induction =>
      obtain ⟨closed, next, step, opened, first⟩ :=
        outlineStep_logs named index head attached
      rw [step rest]
      cases offset with
      | succ offset =>
          rw [Nat.add_comm offset, ← Nat.add_assoc]
          exact (induction opened present).imp_right
            fun ⟨pass, member, logs⟩ =>
              ⟨pass, List.mem_append_right _ member, logs⟩
      | zero =>
          obtain rfl := Option.some.inj present
          refine first.imp_right ?_
          rintro ⟨pass, member, ⟨reference, owned, is⟩, logs⟩
          rcases List.mem_append.mp member with done | isNext
          · exact ⟨pass, List.mem_append_left _ done, ⟨reference, owned, is⟩,
              logs⟩
          -- Later draws leave what the open pass has logged.
          rw [Option.mem_toList.mp isNext]
          obtain ⟨later, more, split, continued, _⟩ :=
            passesFrom_some resolver pass (index + 1) rest
          obtain ⟨_, commands⟩ := continued.commands
          obtain ⟨_, accesses, _⟩ := continued.accesses
          refine ⟨later, List.mem_append_right _ ?_, ⟨reference, ?_, is⟩,
            logs.mono ?_⟩
          · rw [split]
            exact List.mem_cons_self
          · rw [commands]
            exact List.mem_append_left _ owned
          · rw [accesses]
            exact List.subset_append_left ..

end

end Dxmt9.Framegraph
