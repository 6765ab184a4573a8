import Dxmt9.ReplayRollback.ReplayTransaction

/-!
# Runs of a replay transaction

Whatever a run captures and changes, an accepted rollback gives the device
back as it was at the beginning.
-/

namespace Dxmt9.ReplayRollback

open ReplayTransactionPhase

variable {T : StateTypes} {session next : ReplaySession T}
  {start : Device T} {checkpointed : Bool}

/-! ## Phases -/

/-- What the phase says about the calls that were accepted. -/
structure PhaseOk (accepted : List ReplayCall)
    (state : ReplayTransactionState) : Prop where
  effect : .startIrreversibleEffect ∈ accepted →
    state.phase.irreversible = true ∨ state.phase = failedStop
  destination : ∀ receipt, .receiveDestination receipt ∈ accepted →
    state.phase = destinationReceived ∨ state.phase = committed ∨
      state.phase = failedStop
  received : state.phase = destinationReceived →
    .receiveDestination state.destination ∈ accepted ∧
      state.destination.valid = true ∧
      state.destination.identity = state.identity ∧
      state.destination.commandCount = state.stagedCommandCount

/-- The event and the data of a call. -/
def ReplayCall.event : ReplayCall → ReplayTransactionEvent
  | .project _ => .projectState
  | .stage _ => .stageEmission
  | .startIrreversibleEffect => .startIrreversibleEffect
  | .receiveDestination _ => .receiveDestination
  | .commit => .commit
  | .rollback => .rollback
  | .failStop => .failStop

def ReplayCall.projection : ReplayCall → ReplayStateProjection
  | .project projection => projection
  | _ => {}

def ReplayCall.emission : ReplayCall → ReplayStagedEmission
  | .stage emission => emission
  | _ => {}

def ReplayCall.destination : ReplayCall → ReplayDestinationReceipt
  | .receiveDestination receipt => receipt
  | _ => {}

/-- What a call does to the state of the transaction. -/
def ReplayTransactionState.advanced (state : ReplayTransactionState)
    (call : ReplayCall) : ReplayTransactionTransition :=
  advanceReplayTransaction state call.event call.projection call.emission
    call.destination

theorem advanced_cases (state : ReplayTransactionState) (call : ReplayCall) :
    (state.advanced call).accepted = false ∧
        (state.advanced call).state = state ∨
      (state.advanced call).accepted = true ∧
        state.phase.terminal = false ∧
        replayEventAllowed state call.projection call.emission
          call.destination call.event = true ∧
        (state.advanced call).state =
          replayEventApplied state call.projection call.emission
            call.destination call.event := by
  unfold ReplayTransactionState.advanced advanceReplayTransaction
  split
  · exact Or.inl ⟨rfl, rfl⟩
  rename_i running
  rw [Bool.not_eq_true] at running
  split
  · rename_i allowed
    exact Or.inr ⟨rfl, running, allowed, rfl⟩
  · exact Or.inl ⟨rfl, rfl⟩

/-- Before a destination, only an effect has been recorded. -/
theorem PhaseOk.early {accepted : List ReplayCall}
    {state : ReplayTransactionState} (ok : PhaseOk accepted state)
    (early : state.phase = created ∨ state.phase = projecting ∨
      state.phase = staged ∨ state.phase = effectStarted) :
    (.startIrreversibleEffect ∈ accepted → state.phase = effectStarted) ∧
      ∀ receipt, .receiveDestination receipt ∉ accepted := by
  constructor
  · intro member
    have late := ok.effect member
    rcases early with same | same | same | same
    all_goals rw [same] at late ⊢
    all_goals revert late
    all_goals decide
  · intro receipt member
    have late := ok.destination receipt member
    rcases early with same | same | same | same
    all_goals rw [same] at late
    all_goals revert late
    all_goals decide

theorem phaseOk_of_early {accepted : List ReplayCall}
    {state : ReplayTransactionState}
    (effect : .startIrreversibleEffect ∈ accepted →
      state.phase = effectStarted)
    (none : ∀ receipt, .receiveDestination receipt ∉ accepted)
    (notReceived : state.phase ≠ destinationReceived) :
    PhaseOk accepted state where
  effect := by
    intro member
    rw [effect member]
    exact Or.inl rfl
  destination := fun receipt member => absurd member (none receipt)
  received := fun received => absurd received notReceived

theorem mem_snoc_of_ne {accepted : List ReplayCall} {call other : ReplayCall}
    (different : other ≠ call) (member : other ∈ accepted ++ [call]) :
    other ∈ accepted := by
  rcases List.mem_append.mp member with before | new
  · exact before
  · exact absurd (List.mem_singleton.mp new) different

theorem phaseOk_keep {accepted : List ReplayCall}
    {state next : ReplayTransactionState} {call : ReplayCall}
    (ok : PhaseOk accepted state)
    (early : state.phase = created ∨ state.phase = projecting ∨
      state.phase = staged ∨ state.phase = effectStarted)
    (noEffect : .startIrreversibleEffect ≠ call)
    (noDestination : ∀ receipt, .receiveDestination receipt ≠ call)
    {phase : ReplayTransactionPhase} (other : phase ≠ destinationReceived)
    (isPhase : next.phase =
      if state.phase = effectStarted then effectStarted else phase) :
    PhaseOk (accepted ++ [call]) next := by
  obtain ⟨effect, none⟩ := ok.early early
  apply phaseOk_of_early
  · intro member
    rw [isPhase, if_pos (effect (mem_snoc_of_ne noEffect member))]
  · intro receipt member
    exact none receipt (mem_snoc_of_ne (noDestination receipt) member)
  · rw [isPhase]
    split
    · exact ReplayTransactionPhase.noConfusion
    · exact other

theorem PhaseOk.advance {accepted : List ReplayCall}
    {state : ReplayTransactionState} (ok : PhaseOk accepted state)
    {call : ReplayCall} (running : state.phase.terminal = false)
    (allowed : replayEventAllowed state call.projection call.emission
      call.destination call.event = true) :
    PhaseOk (accepted ++ [call])
      (replayEventApplied state call.projection call.emission
        call.destination call.event) := by
  cases call with
  | project projection =>
      have early : state.phase = created ∨ state.phase = projecting ∨
          state.phase = staged ∨ state.phase = effectStarted := by
        have notReceived := (of_decide_eq_true allowed).1
        revert running notReceived
        cases state.phase <;> decide
      exact @phaseOk_keep _ _ _ _ ok early ReplayCall.noConfusion
        (fun _ => ReplayCall.noConfusion) projecting
        ReplayTransactionPhase.noConfusion rfl
  | stage emission =>
      have early : state.phase = created ∨ state.phase = projecting ∨
          state.phase = staged ∨ state.phase = effectStarted := by
        rcases (of_decide_eq_true allowed).1 with same | same | same
        · exact Or.inr (Or.inl same)
        · exact Or.inr (Or.inr (Or.inl same))
        · exact Or.inr (Or.inr (Or.inr same))
      exact @phaseOk_keep _ _ _ _ ok early ReplayCall.noConfusion
        (fun _ => ReplayCall.noConfusion) staged
        ReplayTransactionPhase.noConfusion rfl
  | startIrreversibleEffect =>
      have early : state.phase = created ∨ state.phase = projecting ∨
          state.phase = staged ∨ state.phase = effectStarted := by
        rcases of_decide_eq_true allowed with same | same | same | same
        · exact Or.inr (Or.inr (Or.inr same))
        · exact Or.inl same
        · exact Or.inr (Or.inl same)
        · exact Or.inr (Or.inr (Or.inl same))
      apply phaseOk_of_early
      · exact fun _ => rfl
      · intro receipt member
        exact (ok.early early).2 receipt
          (mem_snoc_of_ne ReplayCall.noConfusion member)
      · exact ReplayTransactionPhase.noConfusion
  | receiveDestination receipt =>
      obtain ⟨-, valid, identity, count⟩ := of_decide_eq_true allowed
      exact
        { effect := fun _ => Or.inl rfl
          destination := fun _ _ => Or.inl rfl
          received := fun _ =>
            ⟨List.mem_append_right _ (List.mem_singleton.mpr rfl), valid,
              identity, count⟩ }
  | commit =>
      exact
        { effect := fun _ => Or.inl rfl
          destination := fun _ _ => Or.inr (Or.inl rfl)
          received := fun received => nomatch received }
  | rollback =>
      have early : state.phase = created ∨ state.phase = projecting ∨
          state.phase = staged := by
        change (!state.phase.irreversible) = true at allowed
        revert running allowed
        cases state.phase <;> decide
      obtain ⟨effect, none⟩ := ok.early (by
        rcases early with same | same | same
        · exact Or.inl same
        · exact Or.inr (Or.inl same)
        · exact Or.inr (Or.inr (Or.inl same)))
      apply phaseOk_of_early
      · intro member
        have started := effect (mem_snoc_of_ne ReplayCall.noConfusion member)
        rw [started] at early
        rcases early with same | same | same
        all_goals exact nomatch same
      · intro receipt member
        exact none receipt (mem_snoc_of_ne ReplayCall.noConfusion member)
      · exact ReplayTransactionPhase.noConfusion
  | failStop =>
      exact
        { effect := fun _ => Or.inr rfl
          destination := fun _ _ => Or.inr (Or.inr rfl)
          received := fun received => nomatch received }

/-- A call that is refused, or one that advances the transaction and, at an
end, forgets what could be rolled back. -/
inductive CallResult (session : ReplaySession T) (call : ReplayCall) :
    ReplaySession T × Bool → Prop where
  | refused : CallResult session call (session, false)
  | kept (running : session.transaction.state.phase.terminal = false)
      (allowed : replayEventAllowed session.transaction.state call.projection
        call.emission call.destination call.event = true)
      (keeps : call ≠ .commit ∧ call ≠ .rollback ∧ call ≠ .failStop) :
      CallResult session call
        ({ transaction :=
            { session.transaction with
              state := replayEventApplied session.transaction.state
                call.projection call.emission call.destination call.event }
           device := session.device
           accepted := session.accepted ++ [call] }, true)
  | ended (running : session.transaction.state.phase.terminal = false)
      (allowed : replayEventAllowed session.transaction.state call.projection
        call.emission call.destination call.event = true)
      (ends : call = .commit ∨ call = .failStop) :
      CallResult session call
        ({ transaction :=
            { state := replayEventApplied session.transaction.state
                call.projection call.emission call.destination call.event }
           device := session.device
           accepted := session.accepted ++ [call] }, true)
  | rolledBack (running : session.transaction.state.phase.terminal = false)
      (reversible : session.transaction.state.phase.irreversible = false)
      (isRollback : call = .rollback) :
      CallResult session call
        ({ transaction :=
            { state := replayEventApplied session.transaction.state
                call.projection call.emission call.destination call.event }
           device :=
            match session.transaction.progress with
            | some checkpoint =>
                { state := session.transaction.journal.restore
                    session.device.state
                  submittedSequenceId := checkpoint.submittedSequenceId
                  activeOcclusionCount := checkpoint.activeOcclusionCount }
            | none =>
                { session.device with
                  state := session.transaction.journal.restore
                    session.device.state }
           accepted := session.accepted ++ [call] }, true)

theorem advance_cases (transaction : ReplayTransaction T)
    (call : ReplayCall) :
    transaction.advance call.event call.projection call.emission
          call.destination = (transaction, false) ∨
      transaction.state.phase.terminal = false ∧
      replayEventAllowed transaction.state call.projection call.emission
        call.destination call.event = true ∧
      transaction.advance call.event call.projection call.emission
          call.destination =
        ({ transaction with
            state := replayEventApplied transaction.state call.projection
              call.emission call.destination call.event }, true) := by
  unfold ReplayTransaction.advance
  dsimp only
  change (if (transaction.state.advanced call).accepted = false then _
    else ({ transaction with
        state := (transaction.state.advanced call).state }, true)) = _ ∨
    _ ∧ _ ∧ (if (transaction.state.advanced call).accepted = false then _
      else ({ transaction with
        state := (transaction.state.advanced call).state }, true)) = _
  rcases advanced_cases transaction.state call with
    ⟨refused, -⟩ | ⟨accepted, running, allowed, applied⟩
  · rw [if_pos refused]
    exact Or.inl rfl
  · rw [accepted, if_neg Bool.noConfusion, applied]
    exact Or.inr ⟨running, allowed, rfl⟩

theorem callResult_keep (session : ReplaySession T) {call : ReplayCall}
    (keeps : call ≠ .commit ∧ call ≠ .rollback ∧ call ≠ .failStop)
    {result : ReplayTransaction T × Bool}
    (isResult : result = session.transaction.advance call.event
      call.projection call.emission call.destination) :
    CallResult session call
      (session.settle call (result.1, session.device, result.2)) := by
  rcases advance_cases session.transaction call with
    refused | ⟨running, allowed, applied⟩
  · rw [isResult, refused]
    exact CallResult.refused
  · rw [isResult, applied]
    exact CallResult.kept running allowed keeps

theorem callResult_end (session : ReplaySession T) {call : ReplayCall}
    (ends : call = .commit ∨ call = .failStop)
    {result : ReplayTransaction T × Bool}
    (isResult : result =
      if (session.transaction.advance call.event call.projection
          call.emission call.destination).2 = false then
        session.transaction.advance call.event call.projection call.emission
          call.destination
      else
        ((session.transaction.advance call.event call.projection
          call.emission call.destination).1.settled, true)) :
    CallResult session call
      (session.settle call (result.1, session.device, result.2)) := by
  rcases advance_cases session.transaction call with
    refused | ⟨running, allowed, applied⟩
  · rw [isResult, refused]
    exact CallResult.refused
  · rw [isResult, applied]
    exact CallResult.ended running allowed ends

theorem call_result (session : ReplaySession T) (call : ReplayCall) :
    CallResult session call (session.call call) := by
  cases call with
  | project projection => exact callResult_keep session (by simp) rfl
  | stage emission => exact callResult_keep session (by simp) rfl
  | startIrreversibleEffect => exact callResult_keep session (by simp) rfl
  | receiveDestination receipt =>
      exact callResult_keep session (by simp) rfl
  | commit => exact callResult_end session (Or.inl rfl) rfl
  | failStop => exact callResult_end session (Or.inr rfl) rfl
  | rollback =>
      change CallResult session .rollback (session.settle .rollback
          (session.transaction.rollback session.device))
      unfold ReplayTransaction.rollback
      dsimp only
      rcases advance_cases session.transaction .rollback with
        refused | ⟨running, allowed, applied⟩
      · change session.transaction.advance .rollback {} {} {} = _ at refused
        rw [refused]
        exact CallResult.refused
      · change session.transaction.advance .rollback {} {} {} = _ at applied
        rw [applied]
        have reversible : session.transaction.state.phase.irreversible =
            false := by
          change (!session.transaction.state.phase.irreversible) = true
            at allowed
          rw [Bool.not_eq_true'] at allowed
          exact allowed
        have rolled := @CallResult.rolledBack T session .rollback running
          reversible rfl
        unfold ReplaySession.settle
        dsimp only
        cases progress : session.transaction.progress with
        | none =>
            rw [progress] at rolled
            exact rolled
        | some checkpoint =>
            rw [progress] at rolled
            exact rolled

/-- What holds of every session of a run that began on a device. -/
structure SessionOk (start : Device T) (checkpointed : Bool)
    (session : ReplaySession T) : Prop where
  journal : JournalOk session.transaction.journal
  phase : PhaseOk session.accepted session.transaction.state
  undoes : session.transaction.state.phase.terminal = false →
    Memory.Undoes session.transaction.journal.saved
      session.device.state.component start.state.component
  progress : session.transaction.state.phase.terminal = false →
    session.transaction.progress =
      if checkpointed then some start.replayProgressCheckpoint else none

section

variable (ok : SessionOk start checkpointed session)
include ok

theorem SessionOk.call
    (call : ReplayCall) :
    SessionOk start checkpointed (session.call call).1 := by
  have result := call_result session call
  generalize session.call call = outcome at result
  cases result with
  | refused => exact ok
  | kept running allowed keeps =>
      exact
        { journal := ok.journal
          phase := ok.phase.advance running allowed
          undoes := fun _ => ok.undoes running
          progress := fun _ => ok.progress running }
  | ended running allowed ends =>
      have terminal : (replayEventApplied session.transaction.state
          call.projection call.emission call.destination
          call.event).phase.terminal = true := by
        rcases ends with rfl | rfl <;> rfl
      exact
        { journal := emptyJournal_ok
          phase := ok.phase.advance running allowed
          undoes := fun open_ => nomatch terminal.symm.trans open_
          progress := fun open_ => nomatch terminal.symm.trans open_ }
  | rolledBack running reversible isRollback =>
      subst isRollback
      have allowed : replayEventAllowed session.transaction.state
          ReplayCall.rollback.projection ReplayCall.rollback.emission
          ReplayCall.rollback.destination ReplayCall.rollback.event =
            true := by
        change (!session.transaction.state.phase.irreversible) = true
        rw [reversible]
        rfl
      exact
        { journal := emptyJournal_ok
          phase := ok.phase.advance running allowed
          undoes := fun open_ => nomatch open_
          progress := fun open_ => nomatch open_ }

theorem SessionOk.step
    (step : ReplayStep session next) : SessionOk start checkpointed next := by
  cases step with
  | capture call =>
      exact
        { journal := ok.journal.capture call
          phase := ok.phase
          undoes := fun running =>
            (ok.undoes running).capture (captures_capture ok.journal call)
          progress := ok.progress }
  | mutate changed only =>
      exact
        { journal := ok.journal
          phase := ok.phase
          undoes := fun running => (ok.undoes running).change only
          progress := ok.progress }
  | progress submitted occlusions =>
      exact ⟨ok.journal, ok.phase, ok.undoes, ok.progress⟩
  | call call => exact ok.call call

theorem SessionOk.run
    (steps : Relation.ReflTransGen ReplayStep session next) :
    SessionOk start checkpointed next := by
  induction steps with
  | refl => exact ok
  | tail _ last induction => exact induction.step last

end

/-- The session that a transaction begins, over the device if its progress is
to be restored as well. -/
def beginSession (prior : ReplayTransaction T)
    (identity : ReplaySourceIdentity) (start : Device T)
    (checkpointed : Bool) (firstRecordOrdinal : UInt32) : ReplaySession T :=
  { transaction := prior.begin identity
      (if checkpointed then some start else none) firstRecordOrdinal
    device := start }

theorem beginSession_ok (prior : ReplayTransaction T)
    (identity : ReplaySourceIdentity) (start : Device T)
    (checkpointed : Bool) (firstRecordOrdinal : UInt32) :
    SessionOk start checkpointed
      (beginSession prior identity start checkpointed firstRecordOrdinal) where
  journal := emptyJournal_ok
  phase :=
    { effect := fun member => nomatch member
      destination := fun _ member => nomatch member
      received := fun received => nomatch received }
  undoes := fun _ => by
    have empty : (beginSession prior identity start checkpointed
        firstRecordOrdinal).transaction.journal.saved = fun _ => none := by
      funext component
      cases component <;> rfl
    rw [empty]
    exact Memory.undoes_empty _
  progress := fun _ => by
    cases checkpointed <;> rfl

theorem changesOnly_key {journal : DeviceStateUndoJournal T}
    (ok : JournalOk journal) {state changed : DeviceState T}
    {name : TableName} {key : Nat}
    (captured : (journal.tables name).entries key ≠ none)
    (slots : changed.slot = state.slot)
    (constants : changed.constants = state.constants)
    (others : ∀ other, other ≠ name → changed.table other = state.table other)
    (values : ∀ other, other ≠ key →
      (changed.table name).values other = (state.table name).values other)
    (words : ∀ word, word ≠ StateValueTable.word key →
      (changed.table name).occupied word = (state.table name).occupied word ∧
        (changed.table name).dirty word = (state.table name).dirty word) :
    Memory.ChangesOnly journal.saved state.component changed.component := by
  obtain ⟨-, -, wordSaved⟩ := ok.entries name key captured
  obtain ⟨-, totalsSaved⟩ := ok.words name _ wordSaved
  intro component absent
  cases component with
  | slot other => exact congrFun slots other
  | constant kind index => exact congrFun (congrFun constants kind) index
  | tableValue other otherKey =>
      by_cases same : other = name
      · subst same
        apply values
        rintro rfl
        exact captured absent
      · change (changed.table other).values otherKey =
          (state.table other).values otherKey
        rw [others other same]
  | tableWord other word =>
      by_cases same : other = name
      · subst same
        obtain ⟨occupied, dirty⟩ := words word (by
          rintro rfl
          exact wordSaved absent)
        exact Prod.ext occupied dirty
      · change ((changed.table other).occupied word,
          (changed.table other).dirty word) = _
        rw [others other same]
        rfl
  | tableTotals other =>
      by_cases same : other = name
      · subst same
        exact absurd absent totalsSaved
      · change ((changed.table other).count,
          (changed.table other).rollingHash) = _
        rw [others other same]
        rfl

theorem set_elsewhere {α : Type} [DecidableEq α]
    (entryHash : Nat → α → UInt64) (table : StateValueTable α) (key : Nat)
    (value : α) :
    (∀ other, other ≠ key →
      (table.set entryHash key value).values other = table.values other) ∧
    ∀ word, word ≠ StateValueTable.word key →
      (table.set entryHash key value).occupied word = table.occupied word ∧
        (table.set entryHash key value).dirty word = table.dirty word := by
  unfold StateValueTable.set
  dsimp only
  split
  · exact ⟨fun _ _ => rfl, fun _ _ => ⟨rfl, rfl⟩⟩
  · constructor
    · exact fun other different => Function.update_of_ne different _ _
    · intro word different
      constructor
      · dsimp only
        split
        · rfl
        · exact Function.update_of_ne different _ _
      · exact Function.update_of_ne different _ _

theorem erase_elsewhere {α : Type} (entryHash : Nat → α → UInt64) (zero : α)
    (table : StateValueTable α) (key : Nat) :
    (∀ other, other ≠ key →
      (table.erase entryHash zero key).values other = table.values other) ∧
    ∀ word, word ≠ StateValueTable.word key →
      (table.erase entryHash zero key).occupied word = table.occupied word ∧
        (table.erase entryHash zero key).dirty word = table.dirty word := by
  unfold StateValueTable.erase
  dsimp only
  split
  · exact ⟨fun _ _ => rfl, fun _ _ => ⟨rfl, rfl⟩⟩
  · exact ⟨fun other different => Function.update_of_ne different _ _,
      fun word different =>
        ⟨Function.update_of_ne different _ _,
          Function.update_of_ne different _ _⟩⟩

theorem changesOnly_renderStates {journal : DeviceStateUndoJournal T}
    (ok : JournalOk journal) (state : DeviceState T) {key : Nat}
    (captured : (journal.tables .renderStates).entries key ≠ none)
    (entryHash : Nat → UInt32 → UInt64) (value : UInt32) :
    Memory.ChangesOnly journal.saved state.component
        { state with
          renderStates := state.renderStates.set entryHash key
            value : DeviceState T }.component ∧
      Memory.ChangesOnly journal.saved state.component
        { state with
          renderStates := state.renderStates.erase entryHash 0
            key : DeviceState T }.component := by
  have others : ∀ (table : StateValueTable UInt32) (other : TableName),
      other ≠ .renderStates →
        DeviceState.table { state with renderStates := table } other =
          state.table other := by
    intro table other different
    cases other with
    | renderStates => exact absurd rfl different
    | _ => rfl
  have slots : ∀ table : StateValueTable UInt32,
      DeviceState.slot { state with renderStates := table } =
        state.slot := by
    intro table
    funext slot
    cases slot with
    | shader vertex => cases vertex <;> rfl
    | _ => rfl
  constructor
  · obtain ⟨values, words⟩ := set_elsewhere entryHash state.renderStates key
      value
    exact changesOnly_key ok captured (slots _) rfl (others _) values words
  · obtain ⟨values, words⟩ := erase_elsewhere entryHash 0
      state.renderStates key
    exact changesOnly_key ok captured (slots _) rfl (others _) values words

/-- What a run of a transaction promises about the device it began on. -/
structure RollbackExact (start : Device T) (checkpointed : Bool)
    (session : ReplaySession T) : Prop where
  /-- An accepted rollback restores the state, and the progress too when the
  transaction took a checkpoint. -/
  restored : (session.call .rollback).2 = true →
    (session.call .rollback).1.device.state = start.state ∧
      (checkpointed = true → (session.call .rollback).1.device = start)
  reversible : (session.call .rollback).2 = true →
    .startIrreversibleEffect ∉ session.accepted ∧
      ∀ receipt, .receiveDestination receipt ∉ session.accepted
  committed : (session.call .commit).2 = true →
    ∃ receipt, .receiveDestination receipt ∈ session.accepted ∧
      receipt.valid = true ∧
      receipt.identity = session.transaction.state.identity ∧
      receipt.commandCount = session.transaction.state.stagedCommandCount
  /-- The journal never overflows, and no capture in range fails. -/
  clean : session.transaction.journal.overflowed = false
  captured : ∀ call : CaptureCall, call.Valid →
    (session.transaction.journal.capture session.device.state call).2 = true
  rejected : ∀ call, (session.call call).2 = false →
    (session.call call).1 = session

theorem SessionOk.rollbackExact
    (ok : SessionOk start checkpointed session) :
    RollbackExact start checkpointed session := by
  constructor
  case restored =>
    intro accepted
    have result := call_result session .rollback
    generalize session.call .rollback = outcome at accepted result
    cases result with
    | refused => exact nomatch accepted
    | kept running allowed keeps => exact absurd rfl keeps.2.1
    | ended running allowed ends =>
        rcases ends with end_ | end_
        all_goals exact nomatch end_
    | rolledBack running reversible isRollback =>
        have same : session.transaction.journal.restore
            session.device.state = start.state := by
          apply DeviceState.ext_components
          rw [restore_components ok.journal]
          exact (ok.undoes running).writeBack_eq
        dsimp only
        rw [ok.progress running, same]
        cases checkpointed with
        | false => exact ⟨rfl, fun checkpointed => nomatch checkpointed⟩
        | true => exact ⟨rfl, fun _ => rfl⟩
  case reversible =>
    intro accepted
    have result := call_result session .rollback
    generalize session.call .rollback = outcome at accepted result
    cases result with
    | refused => exact nomatch accepted
    | kept running allowed keeps => exact absurd rfl keeps.2.1
    | ended running allowed ends =>
        rcases ends with end_ | end_
        all_goals exact nomatch end_
    | rolledBack running reversible isRollback =>
        constructor
        · intro member
          rcases ok.phase.effect member with late | late
          · exact nomatch reversible.symm.trans late
          · rw [late] at running
            exact nomatch running
        · intro receipt member
          rcases ok.phase.destination receipt member with
            late | late | late
          · rw [late] at reversible
            exact nomatch reversible
          · rw [late] at reversible
            exact nomatch reversible
          · rw [late] at running
            exact nomatch running
  case committed =>
    intro accepted
    have result := call_result session .commit
    generalize session.call .commit = outcome at accepted result
    cases result with
    | refused => exact nomatch accepted
    | kept running allowed keeps => exact absurd rfl keeps.1
    | rolledBack running reversible isRollback => exact nomatch isRollback
    | ended running allowed ends =>
        exact ⟨_, ok.phase.received (of_decide_eq_true allowed)⟩
  case clean => exact ok.journal.clean
  case captured =>
    intro call valid
    rcases @capture_saves T _ session.device.state ok.journal call with
      ⟨invalid, -⟩ | ⟨-, captured, -⟩
    · exact absurd valid invalid
    · exact captured
  case rejected =>
    intro call refused
    have result := call_result session call
    generalize session.call call = outcome at refused result
    cases result with
    | refused => rfl
    | kept running allowed keeps => exact nomatch refused
    | ended running allowed ends => exact nomatch refused
    | rolledBack running reversible isRollback => exact nomatch refused

/-- Whatever a run captures, and however often it changes what it captured, a
rollback that is accepted gives the device back. -/
theorem replayRollback_exact (T : StateTypes) (prior : ReplayTransaction T)
    (identity : ReplaySourceIdentity) (start : Device T)
    (checkpointed : Bool) (firstRecordOrdinal : UInt32)
    (session : ReplaySession T)
    (run : Relation.ReflTransGen ReplayStep
      (beginSession prior identity start checkpointed firstRecordOrdinal)
      session) :
    RollbackExact start checkpointed session :=
  ((beginSession_ok prior identity start checkpointed
    firstRecordOrdinal).run run).rollbackExact

/-- Every value is a number. -/
def numberTypes : StateTypes :=
  { Viewport := Nat, Rect := Nat, Material := Nat, Light := Nat, Buffer := Nat
    IndexType := Nat, VertexDeclaration := Nat, Shader := Nat, Texture := Nat
    Attachment := Nat, ClipPlane := Nat, Matrix := Nat }

def emptyTable {α : Type} (value : α) : StateValueTable α :=
  { values := fun _ => value, occupied := fun _ => 0, dirty := fun _ => 0
    count := 0, rollingHash := 0 }

/-- A device of numbers on which nothing was set. -/
def idleDevice : Device numberTypes where
  state :=
    { viewport := (0 : Nat), scissorRect := (0 : Nat), scissorEnabled := false
      renderStates := emptyTable 0
      textureStageStates := fun _ => emptyTable 0
      samplerStates := fun _ => emptyTable 0
      transforms := emptyTable (0 : Nat)
      lights := fun _ => (0 : Nat), lightEnabled := fun _ => false
      material := (0 : Nat), streamBuffers := fun _ => none
      streamOffsets := fun _ => 0, streamStrides := fun _ => 0
      streamFrequencies := fun _ => 1, indexBuffer := none
      indexType := (0 : Nat), vertexDecl := (0 : Nat), fvf := 0
      vertexShader := (0 : Nat), pixelShader := (0 : Nat)
      constants := fun _ _ _ => 0, textures := fun _ => none
      renderTargets := fun _ => (0 : Nat), depthStencil := (0 : Nat)
      clipPlanes := fun _ => (0 : Nat), inScene := false }
  submittedSequenceId := 0
  activeOcclusionCount := 0

/-- The session that captured one render state and then set it. -/
def renderStateSession : ReplaySession numberTypes :=
  let captured :=
    (beginSession {} { sequence := 1, source := 1, lastSource := 1 }
      idleDevice true 0).capture (.renderState 7)
  { captured with
    device := { captured.device with
      state := { captured.device.state with
        renderStates := captured.device.state.renderStates.set
          (fun key value => UInt64.ofNat key * 31 + value.toUInt64) 7 2 } } }

theorem replayRollback_exact_renderState :
    (renderStateSession.call .rollback).1.device = idleDevice := by
  have ok := beginSession_ok {}
    { sequence := 1, source := 1, lastSource := 1 } idleDevice true 0
  have exact_ := replayRollback_exact numberTypes {}
    { sequence := 1, source := 1, lastSource := 1 } idleDevice true 0
    renderStateSession
    (.tail (.tail .refl (.capture _ (.renderState 7)))
      (.mutate _ _ (changesOnly_renderStates
        (ok.step (.capture _ (.renderState 7))).journal _
        (by decide) _ _).1))
  exact (exact_.restored rfl).2 rfl

end Dxmt9.ReplayRollback
