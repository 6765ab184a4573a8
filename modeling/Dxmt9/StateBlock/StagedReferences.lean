import Dxmt9.Queue.Ring
import Dxmt9.StateBlock.Transaction

/-!
# The staged references of a transaction

A call accounts for each reference that it retains or that was staged before
it: the reference is released, taken, or staged behind the call.
-/

namespace Dxmt9.StateBlock

open Dxmt9.Queue PeStateBlockTransactionState

/-! ## Counting staged references -/

/-- A slot with what it holds. -/
def StagedSlots.cell (staged : StagedSlots) (slot : Nat) :
    Bool × StateBlockValue :=
  (staged.occupied slot, staged.values slot)

/-- The cell holds a reference of a category. -/
def holds (category : StagedCategory) (reference : ComRef)
    (cell : Bool × StateBlockValue) : Bool :=
  cell.1 && { category := .staged category, raw := cell.2.raw } == reference

/-- How often a category holds a reference. -/
def StagedSlots.count (staged : StagedSlots) (category : StagedCategory)
    (reference : ComRef) : Nat :=
  cellCount staged.cell category.slots (holds category reference)

theorem count_preparedRefs (state : PeStateBlockTransactionState)
    (reference : ComRef) :
    state.preparedRefs.count reference =
      (stagedCategories.map fun category =>
        (state.staged category).count category reference).sum := by
  unfold preparedRefs
  rw [List.count_flatMap]
  congr 1
  apply List.map_congr_left
  intro category _
  change ((((List.range category.slots).filter
    (state.staged category).occupied).map
      (state.staged category).values).map _).count reference = _
  rw [List.map_map, List.count, List.countP_map, List.countP_filter]
  apply List.countP_congr
  intro slot _
  unfold holds StagedSlots.cell
  simp only [Function.comp, Bool.and_eq_true]
  exact and_comm

theorem count_setStaged (state : PeStateBlockTransactionState)
    (category : StagedCategory) (slots : StagedSlots) (reference : ComRef) :
    (state.setStaged category slots).preparedRefs.count reference +
        (state.staged category).count category reference =
      state.preparedRefs.count reference + slots.count category reference := by
  rw [count_preparedRefs, count_preparedRefs]
  unfold setStaged stagedCategories
  cases category <;>
    simp only [List.map_cons, List.map_nil, List.sum_cons, List.sum_nil,
      Function.update_self, ne_eq, reduceCtorEq, not_false_eq_true,
      Function.update_of_ne] <;>
    omega

theorem cell_update (staged : StagedSlots) (slot : Nat) (busy : Bool)
    (value : StateBlockValue) :
    (fun other => (Function.update staged.occupied slot busy other,
        Function.update staged.values slot value other)) =
      Function.update staged.cell slot (busy, value) := by
  funext other
  by_cases here : other = slot
  · rw [here, Function.update_self, Function.update_self, Function.update_self]
  · rw [Function.update_of_ne here, Function.update_of_ne here,
      Function.update_of_ne here]
    rfl

variable {category : StagedCategory} {slot : Nat}

theorem count_of_stage {staged slots : StagedSlots} {value : StateBlockValue}
    (succeeds : staged.stage category.slots slot value = some slots)
    (reference : ComRef) :
    slots.count category reference =
      staged.count category reference +
        (holds category reference (true, value)).toNat := by
  unfold StagedSlots.stage at succeeds
  split at succeeds
  · contradiction
  rename_i free
  simp only [not_or, not_not, Bool.not_eq_true] at free
  obtain rfl := Option.some.inj succeeds
  have counted := @cellCount_update _ staged.cell category.slots
    (holds category reference) slot free.1 (true, value)
  have vacant : holds category reference (staged.cell slot) = false := by
    unfold holds StagedSlots.cell
    rw [free.2]
    rfl
  rw [vacant] at counted
  unfold StagedSlots.count
  rw [← counted, ← cell_update]
  rfl

theorem count_of_take (staged : StagedSlots) (inside : slot < category.slots) (reference : ComRef) :
    staged.count category reference =
      (staged.take slot).1.count category reference +
        (holds category reference (staged.cell slot)).toNat := by
  have counted := @cellCount_update _ staged.cell category.slots
    (holds category reference) slot inside (false, default)
  rw [← cell_update] at counted
  exact counted.symm

theorem preparedRefs_empty (state : PeStateBlockTransactionState) :
    { state with staged := fun _ => {} }.preparedRefs = [] := by
  unfold preparedRefs StagedSlots.held
  rw [List.flatMap_eq_nil_iff]
  intro category _
  have none : (List.range category.slots).filter (fun _ => false) = [] :=
    List.filter_false _
  rw [none]
  rfl

theorem preparedRefs_of_none {state : PeStateBlockTransactionState}
    (none : state.hasPreparedApply = false) : state.preparedRefs = [] := by
  unfold preparedRefs StagedSlots.held
  rw [List.flatMap_eq_nil_iff]
  intro category member
  unfold hasPreparedApply at none
  rw [List.any_eq_false] at none
  have free := none category member
  rw [Bool.not_eq_true, List.any_eq_false] at free
  rw [List.filter_eq_nil_iff.mpr free]
  rfl

@[simp] theorem forEachOwnedComRef_clear (recorded : StateBlockRecorded) :
    recorded.clear.forEachOwnedComRef = [] := by
  unfold StateBlockRecorded.forEachOwnedComRef StateBlockRecorded.clear
  rw [List.flatMap_eq_nil_iff]
  intro category _
  have none : (List.range category.slots).filter (fun _ => false) = [] :=
    List.filter_false _
  rw [none]
  rfl

/-! ## Settling -/

/-- What an effect retains is released, taken, or still staged behind it. -/
def Settles (state : PeStateBlockTransactionState) (effect : Effect) :
    Prop :=
  ∀ reference,
    state.preparedRefs.count reference +
        effect.2.count (.retained reference) =
      effect.1.preparedRefs.count reference +
        effect.2.count (.released reference) +
        effect.2.count (.taken reference)

variable {state : PeStateBlockTransactionState}

theorem settles_of_staged {other : PeStateBlockTransactionState}
    (same : other.staged = state.staged) : Settles state (other, []) := by
  intro reference
  change _ = other.preparedRefs.count reference
  unfold preparedRefs
  rw [same]
  rfl

theorem Settles.trans {first second : Effect} (front : Settles state first)
    (back : Settles first.1 second) :
    Settles state (second.1, first.2 ++ second.2) := by
  intro reference
  have before := front reference
  have after := back reference
  simp only [List.count_append]
  omega

variable {effect : Effect}

theorem Settles.enter (settles : Settles state effect)
    (phase : PeStateBlockPhase) : Settles state (enter effect phase) :=
  settles

theorem count_map_of_ne (events : List ComRef) (tag : ComRef → RefEvent)
    (event : RefEvent) (other : ∀ reference, tag reference ≠ event) :
    (events.map tag).count event = 0 := by
  rw [List.count_eq_zero]
  intro member
  obtain ⟨reference, _, same⟩ := List.mem_map.mp member
  exact other reference same

theorem settles_discardRecorded : Settles state state.discardRecorded := by
  intro reference
  have retained := count_map_of_ne state.recorded.forEachOwnedComRef
    .discarded (.retained reference) nofun
  have released := count_map_of_ne state.recorded.forEachOwnedComRef
    .discarded (.released reference) nofun
  have taken := count_map_of_ne state.recorded.forEachOwnedComRef
    .discarded (.taken reference) nofun
  unfold discardRecorded
  rw [retained, released, taken]
  rfl

theorem settles_discardPrepared : Settles state state.discardPrepared := by
  intro reference
  have retained := count_map_of_ne state.preparedRefs .released
    (.retained reference) nofun
  have taken := count_map_of_ne state.preparedRefs .released
    (.taken reference) nofun
  have released : (state.preparedRefs.map RefEvent.released).count
      (.released reference) = state.preparedRefs.count reference := by
    rw [List.count, List.countP_map]
    apply List.countP_congr
    intro other _
    simp only [Function.comp, beq_iff_eq, RefEvent.released.injEq]
  unfold discardPrepared
  rw [preparedRefs_empty, retained, taken, released, List.count_nil]
  omega

section

variable (plan : PeStateBlockTransitionPlan)
include plan

theorem settles_discardCandidateOf :
    Settles state (state.discardCandidateOf plan) := by
  unfold discardCandidateOf
  split
  · exact settles_discardRecorded
  · exact settles_of_staged rfl

theorem settles_releaseStagedOf :
    Settles state (state.releaseStagedOf plan) := by
  unfold releaseStagedOf
  split
  · exact settles_discardPrepared
  · exact settles_of_staged rfl

theorem settles_discardOf :
    Settles state (state.discardOf plan) :=
  (settles_discardCandidateOf plan).trans (settles_releaseStagedOf plan)

end

theorem staged_invalidate :
    state.invalidateRecorderCapabilities.1.staged = state.staged := by
  unfold invalidateRecorderCapabilities
  split
  · rfl
  · rfl

theorem settles_of_invalidated
    (settles : Settles state.invalidateRecorderCapabilities.1 effect) :
    Settles state effect := by
  intro reference
  have after := settles reference
  unfold preparedRefs at *
  rw [staged_invalidate] at after
  exact after

theorem settles_poison : Settles state state.poison := by
  unfold poison
  simp only
  split
  · exact settles_of_staged rfl
  · exact (settles_of_invalidated (settles_discardOf _)).enter _

theorem settles_beginAccepted : Settles state state.beginAccepted.1 := by
  unfold beginAccepted
  simp only
  split
  · exact settles_of_staged rfl
  · split
    · exact settles_poison
    · exact settles_discardCandidateOf _

theorem settles_discardCandidateBy (event : PeStateBlockEvent) :
    Settles state (state.discardCandidateBy event) := by
  unfold discardCandidateBy
  simp only
  split
  · exact settles_of_staged rfl
  · exact (settles_discardCandidateOf _).enter _

theorem settles_failPreparedApply : Settles state state.failPreparedApply := by
  unfold failPreparedApply
  simp only
  split
  · exact settles_of_staged rfl
  · exact (settles_releaseStagedOf _).enter _

theorem settles_resetSucceeded : Settles state state.resetSucceeded := by
  unfold resetSucceeded
  simp only
  split
  · exact settles_of_staged rfl
  · exact (settles_of_invalidated (settles_releaseStagedOf _)).enter _

theorem settles_discardAll : Settles state state.discardAll := by
  unfold discardAll
  simp only
  split
  · exact settles_of_staged rfl
  · exact (settles_of_invalidated (settles_discardOf _)).enter _

theorem settles_stage (category : StagedCategory) (slot : Nat)
    (value : StateBlockValue) :
    Settles state (state.stage category slot value).1 := by
  unfold stage
  split
  · exact settles_of_staged rfl
  · split
    · exact settles_of_staged rfl
    · rename_i slots succeeds
      intro reference
      have staged := count_of_stage succeeds reference
      have moved := count_setStaged state category slots reference
      simp only [List.count_singleton, RefEvent.retained.injEq,
        beq_iff_eq, reduceCtorEq, if_false]
      unfold holds at staged
      by_cases same : { category := .staged category, raw := value.raw } =
          reference
      · rw [if_pos same]
        rw [same, Bool.true_and, beq_self_eq_true] at staged
        change _ = _ + 1 at staged
        omega
      · rw [if_neg same]
        rw [beq_false_of_ne same] at staged
        change _ = _ + 0 at staged
        omega

theorem settles_take (category : StagedCategory) (slot : Nat) :
    Settles state (state.take category slot).1 := by
  unfold take
  split
  · exact settles_of_staged rfl
  · rename_i checks
    simp only [not_or, not_not] at checks
    intro reference
    have taken := count_of_take (state.staged category) checks.2 reference
    have moved := count_setStaged state category
      ((state.staged category).take slot).1 reference
    unfold holds StagedSlots.cell at taken
    simp only
    split
    · rename_i occupied
      rw [occupied, Bool.true_and] at taken
      simp only [List.count_singleton, RefEvent.taken.injEq,
        beq_iff_eq, reduceCtorEq, if_false]
      by_cases same : { category := .staged category
                        raw := ((state.staged category).take slot).2.raw } =
          reference
      · rw [if_pos same]
        rw [show ({ category := .staged category
                    raw := ((state.staged category).values slot).raw } :
            ComRef) = reference from same, beq_self_eq_true] at taken
        change _ = _ + 1 at taken
        omega
      · rw [if_neg same]
        have other : ({ category := .staged category
                        raw := ((state.staged category).values slot).raw } :
            ComRef) ≠ reference := same
        rw [beq_false_of_ne other] at taken
        change _ = _ + 0 at taken
        omega
    · rename_i vacant
      rw [Bool.not_eq_true] at vacant
      rw [vacant] at taken
      change _ = _ + 0 at taken
      simp only [List.count_nil]
      omega

theorem settles_perform (call : TransactionCall) :
    Settles state (perform state call) := by
  cases call with
  | beginAccepted => exact settles_beginAccepted
  | beginFailed => exact settles_of_staged rfl
  | endPreEffectFailed => exact settles_of_staged rfl
  | abandonRecording => exact settles_discardCandidateBy _
  | failEnd => exact settles_discardCandidateBy _
  | enterEndPublication =>
      apply settles_of_staged
      unfold enterEndPublication
      simp only
      split <;> rfl
  | finishEndPublication published => exact settles_discardCandidateBy _
  | poison => exact settles_poison
  | markApplyPrepared =>
      apply settles_of_staged
      unfold markApplyPrepared
      simp only
      split <;> rfl
  | failPreparedApply => exact settles_failPreparedApply
  | finishPreparedApply =>
      apply settles_of_staged
      unfold finishPreparedApply
      simp only
      split <;> rfl
  | resetSucceeded => exact settles_resetSucceeded
  | resetFailed => exact settles_of_staged rfl
  | discardAll => exact settles_discardAll
  | discardPrepared => exact settles_discardPrepared
  | invalidateRecorderCapabilities =>
      exact settles_of_staged staged_invalidate
  | withWriter capability write =>
      apply settles_of_staged
      unfold withWriter
      split <;> rfl
  | stageTexture slot raw => exact settles_stage _ _ _
  | stageStream slot value => exact settles_stage _ _ _
  | stageVertexShader raw => exact settles_stage _ _ _
  | stagePixelShader raw => exact settles_stage _ _ _
  | stageIndexBuffer raw => exact settles_stage _ _ _
  | stageRenderTarget slot raw => exact settles_stage _ _ _
  | stageDepthStencil raw => exact settles_stage _ _ _
  | takeTexture slot => exact settles_take _ _
  | takeStream slot => exact settles_take _ _
  | takeVertexShader => exact settles_take _ _
  | takePixelShader => exact settles_take _ _
  | takeIndexBuffer => exact settles_take _ _
  | takeRenderTarget slot => exact settles_take _ _
  | takeDepthStencil => exact settles_take _ _

end Dxmt9.StateBlock
