import Dxmt9.ReplayOffload.QueueCalls
import Dxmt9.Transition.Run

/-!
# Histories of the replay offload queue

Whatever order its producers, its consumer and its stop are in, the queue
hands out each accepted item once and in the order of the line; the numbers
grow along the line, and the counter is the sum of the charges.
-/

namespace Dxmt9.ReplayOffload

open Dxmt9.Queue Dxmt9.Transition

/-! ## Calls -/

inductive LedgerCall where
  | markStopped
  | latchStopped
  | publishFailure
  | latchPoisoned
  | publishReplayed (chunk : RawCommandChunk)
  | publishMutationReplayed (task : BufferMutationTask)

def ReplayDrainLedger.perform (ledger : ReplayDrainLedger) :
    LedgerCall → ReplayDrainLedger
  | .markStopped => ledger.markStopped
  | .latchStopped => ledger.latchStopped
  | .publishFailure => ledger.publishFailure
  | .latchPoisoned => ledger.latchPoisoned
  | .publishReplayed chunk => ledger.publishReplayed chunk
  | .publishMutationReplayed task => ledger.publishMutationReplayed task

/-- The calls of any number of producers and of the one consumer.  A
reservation is named by its id. -/
inductive QueueCall where
  | push (chunk : RawCommandChunk) (tracked allocates : Bool)
  | pushStateBlockApply (task : Option StateBlockApplyTask)
      (tracked allocates : Bool)
  | reserveMutation (bytes : UInt64) (allocates : Bool)
  | commitMutation (id : Nat) (task : Option BufferMutationTask)
  | releaseMutation (id : Nat)
  | pop
  | drainRemaining
  | markReplayDone
  | stop
  | failNextPushForTest (point : ReplayQueueFailurePoint)
  | ledger (call : LedgerCall)

/-- A queue and its ledger; the numbers of the reservations that were issued,
by their ids; what was accepted, and what was popped or drained. -/
structure QueueWorld where
  queue : ReplayOffloadQueue
  ledger : ReplayDrainLedger := {}
  issued : Nat → Option Nat := fun _ => none
  accepted : List ReplayQueuePayload := []
  taken : List ReplayQueueItem := []

/-- What a push has adopted. -/
def PushResult.adopted {ε : Type} (result : PushResult ε) :
    List ReplayQueuePayload :=
  if result.disposition = .rejectedPreEffect then []
  else (result.queue.queue.getLast?.map (·.payload)).toList

namespace QueueWorld

def pushed {ε : Type} (world : QueueWorld) :
    Option (PushResult ε) → QueueWorld
  | none => world
  | some result =>
      { world with
        queue := result.queue
        ledger := result.ledger
        accepted := world.accepted ++ result.adopted }

def reserved (world : QueueWorld) :
    Option (ReplayOffloadQueue × ReplayDrainLedger ×
      ReplayQueueMutationReservation) → QueueWorld
  | none => world
  | some (queue, ledger, reservation) =>
      { world with
        queue := queue
        ledger := ledger
        issued :=
          if reservation.valid then
            Function.update world.issued reservation.id
              (some reservation.replaySeq)
          else world.issued }

def commit (world : QueueWorld)
    (reservation : ReplayQueueMutationReservation)
    (task : Option BufferMutationTask) : QueueWorld :=
  let committed := world.queue.commitMutation world.ledger reservation task
  { world with
    queue := committed.1
    ledger := committed.2.1
    accepted := world.accepted ++
      if committed.2.2 then
        task.toList.map fun staged => .mutation
          { staged with replaySeq := reservation.replaySeq }
      else [] }

def popHead (world : QueueWorld) : QueueWorld :=
  match world.queue.pop with
  | .popped _ next =>
      { world with
        queue := next
        taken := world.taken ++ world.queue.queue.head?.toList }
  | _ => world

/-- A call.  A producer that waits has not called yet; a chunk or a task that
is pushed has no number of its own; and only a reservation that was issued is
committed or released. -/
def step (world : QueueWorld) : QueueCall → QueueWorld
  | .push chunk tracked allocates =>
      world.pushed (world.queue.pushWithDisposition world.ledger
        { chunk with replaySeq := 0 } tracked allocates)
  | .pushStateBlockApply task tracked allocates =>
      world.pushed (world.queue.pushStateBlockApply world.ledger
        (task.map fun _ => {}) tracked allocates)
  | .reserveMutation bytes allocates =>
      world.reserved
        (world.queue.reserveMutation world.ledger bytes allocates)
  | .commitMutation id task =>
      match world.issued id with
      | none => world
      | some seq => world.commit { id := id, replaySeq := seq } task
  | .releaseMutation id =>
      match world.issued id with
      | none => world
      | some seq =>
          { world with
            queue :=
              world.queue.releaseMutation { id := id, replaySeq := seq } }
  | .pop => world.popHead
  | .drainRemaining =>
      let drained := world.queue.drainRemaining
      { world with
        queue := drained.1
        taken := world.taken ++ drained.2 }
  | .markReplayDone => { world with queue := world.queue.markReplayDone }
  | .stop => { world with queue := world.queue.stop }
  | .failNextPushForTest point =>
      { world with queue := world.queue.failNextPushForTest point }
  | .ledger call => { world with ledger := world.ledger.perform call }

/-- The line of the queue behind what it has handed out. -/
def line (world : QueueWorld) : Line ReplayQueueItem :=
  ⟨world.taken, world.queue.queue⟩

end QueueWorld

/-- The queue after calls. -/
def runQueue (maxChunks maxBytes : UInt64) (calls : List QueueCall) :
    QueueWorld :=
  run QueueWorld.step
    { queue := { maxChunks := maxChunks, maxBytes := maxBytes } } calls

/-! ## What a call changes -/

/-- A step changes the line, and issues at most the next reservation. -/
structure QueueStep (world next : QueueWorld) : Prop where
  change : ∃ joined handed,
    QueueChange (ReplayQueueItem.ordinal next.issued) world.ledger.nextSeq
      next.ledger.nextSeq world.queue next.queue joined handed ∧
    next.accepted = world.accepted ++ joined.map (·.payload) ∧
    next.taken = world.taken ++ handed
  places : ∀ item ∈ next.queue.queue, item.placeholder = true →
    item ∈ world.queue.queue ∨
      item.reservationId = world.queue.nextReservationId ∧
        ∃ seq, next.issued item.reservationId = some seq
  kept : ∀ id seq, world.issued id = some seq → next.issued id = some seq
  fresh : ∀ id seq, next.issued id = some seq →
    world.issued id = some seq ∨ id = world.queue.nextReservationId ∧
      id < next.queue.nextReservationId
  ids : world.queue.nextReservationId ≤ next.queue.nextReservationId
  numbers : world.ledger.nextSeq ≤ next.ledger.nextSeq
  maxBytes : next.queue.maxBytes = world.queue.maxBytes

variable {world : QueueWorld}

/-- A step that neither moves the line nor issues a reservation. -/
theorem queueStep_keep {queue : ReplayOffloadQueue}
    {ledger : ReplayDrainLedger} (items : queue.queue = world.queue.queue)
    (bytes : queue.queuedBytes = world.queue.queuedBytes)
    (ids : queue.nextReservationId = world.queue.nextReservationId)
    (numbers : world.ledger.nextSeq ≤ ledger.nextSeq)
    (maxBytes : queue.maxBytes = world.queue.maxBytes) :
    QueueStep world { world with queue := queue, ledger := ledger } where
  change := ⟨[], [], .keep items bytes, (List.append_nil _).symm,
    (List.append_nil _).symm⟩
  places _ member _ := Or.inl (items ▸ member)
  kept _ _ found := found
  fresh _ _ found := Or.inl found
  ids := ids.ge
  numbers := numbers
  maxBytes := maxBytes

theorem queueStep_refl : QueueStep world world :=
  queueStep_keep rfl rfl rfl le_rfl rfl

variable {next : QueueWorld}

theorem queueStep_move
    {joined handed : List ReplayQueueItem}
    (change : QueueChange (ReplayQueueItem.ordinal world.issued)
      world.ledger.nextSeq next.ledger.nextSeq world.queue next.queue
      joined handed)
    (issued : next.issued = world.issued)
    (accepted : next.accepted = world.accepted ++ joined.map (·.payload))
    (taken : next.taken = world.taken ++ handed)
    (places : ∀ item ∈ next.queue.queue, item.placeholder = true →
      item ∈ world.queue.queue)
    (ids : next.queue.nextReservationId = world.queue.nextReservationId)
    (numbers : world.ledger.nextSeq ≤ next.ledger.nextSeq)
    (maxBytes : next.queue.maxBytes = world.queue.maxBytes) :
    QueueStep world next where
  change := ⟨joined, handed, issued ▸ change, accepted, taken⟩
  places item member empty := Or.inl (places item member empty)
  kept _ _ found := issued ▸ found
  fresh _ _ found := Or.inl (issued ▸ found)
  ids := ids.ge
  numbers := numbers
  maxBytes := maxBytes

theorem queueStep_rejected {ε : Type} {brought : Option ε}
    {result : PushResult ε}
    (rejected : Rejected world.queue world.ledger brought result) :
    QueueStep world (world.pushed (some result)) := by
  have same : world.pushed (some result) =
      { world with queue := result.queue, ledger := world.ledger } := by
    unfold QueueWorld.pushed PushResult.adopted
    simp only [rejected.disposition, rejected.ledger, if_true, List.append_nil]
  rw [same]
  apply queueStep_keep
  · rw [rejected.queue]
  · rw [rejected.queue]
  · rw [rejected.queue]
  · exact le_rfl
  · rw [rejected.queue]

variable {item : ReplayQueueItem}

theorem queueStep_adopted {ε : Type}
    {result : PushResult ε}
    (adopted : Adopted world.queue item result)
    (there : item.placeholder = false)
    (fresh : Line.NumberedIn (ReplayQueueItem.ordinal world.issued)
      world.ledger.nextSeq result.ledger.nextSeq item)
    (numbers : world.ledger.nextSeq ≤ result.ledger.nextSeq) :
    QueueStep world (world.pushed (some result)) := by
  have change : QueueChange (ReplayQueueItem.ordinal world.issued)
      world.ledger.nextSeq (world.pushed (some result)).ledger.nextSeq
      world.queue (world.pushed (some result)).queue [item] [] :=
    .join item there fresh adopted.room adopted.items adopted.bytes
  apply queueStep_move change rfl
  · change world.accepted ++ result.adopted = _
    unfold PushResult.adopted
    rw [if_neg adopted.disposition, adopted.items, List.getLast?_concat]
    rfl
  · exact (List.append_nil _).symm
  · intro other member empty
    change other ∈ result.queue.queue at member
    rw [adopted.items] at member
    rcases List.mem_append.mp member with old | new
    · exact old
    · rw [List.mem_singleton] at new
      rw [new, there] at empty
      contradiction
  · exact adopted.nextReservationId
  · exact numbers
  · exact adopted.maxBytes

theorem numberedIn_of_none {issued : Nat → Option Nat} {low high : Nat} (none : item.ordinal issued = none) :
    Line.NumberedIn (ReplayQueueItem.ordinal issued) low high item := by
  intro value found
  rw [none] at found
  contradiction

theorem eq_of_ite_none {seq value : Nat}
    (found : (if seq = 0 then none else some seq) = some value) :
    value = seq := by
  split at found
  · contradiction
  · exact (Option.some.inj found).symm

theorem queueStep_push (chunk : RawCommandChunk) (tracked allocates : Bool) :
    QueueStep world (world.step (.push chunk tracked allocates)) := by
  change QueueStep world (world.pushed _)
  cases done : world.queue.pushWithDisposition world.ledger
      { chunk with replaySeq := 0 } tracked allocates with
  | none => exact queueStep_refl
  | some result =>
      rcases push_cases done with rejected | ⟨_, adopted, ledger⟩ |
        ⟨_, adopted, ledger⟩
      · exact queueStep_rejected rejected
      · have next := @nextSeq_publishAccepted world.ledger
          { chunk with replaySeq := 0 }
        rw [← ledger] at next
        apply queueStep_adopted adopted rfl
        · intro value found
          have taken : value = world.ledger.nextSeq := eq_of_ite_none found
          rw [taken, next]
          exact ⟨le_rfl, Nat.lt_succ_self _⟩
        · rw [next]
          exact Nat.le_succ _
      · apply queueStep_adopted adopted rfl
        · exact numberedIn_of_none rfl
        · rw [ledger]

theorem queueStep_pushStateBlockApply (task : Option StateBlockApplyTask)
    (tracked allocates : Bool) :
    QueueStep world
      (world.step (.pushStateBlockApply task tracked allocates)) := by
  change QueueStep world (world.pushed _)
  cases done : world.queue.pushStateBlockApply world.ledger
      (task.map fun _ => {}) tracked allocates with
  | none => exact queueStep_refl
  | some result =>
      rcases pushStateBlockApply_cases done with rejected |
        ⟨apply, brought, ⟨_, adopted, ledger⟩ | ⟨_, adopted, ledger⟩⟩
      · exact queueStep_rejected rejected
      · have next : result.ledger.nextSeq = world.ledger.nextSeq + 1 := by
          rw [ledger]
          rfl
        apply queueStep_adopted adopted rfl
        · intro value found
          have taken : value = world.ledger.nextSeq := eq_of_ite_none found
          rw [taken, next]
          exact ⟨le_rfl, Nat.lt_succ_self _⟩
        · rw [next]
          exact Nat.le_succ _
      · obtain ⟨_, _, fresh⟩ := Option.map_eq_some_iff.mp brought
        apply queueStep_adopted adopted rfl
        · apply numberedIn_of_none
          rw [← fresh]
          rfl
        · rw [ledger]

theorem queueStep_reserve (positive : 0 < world.queue.nextReservationId)
    (below : ∀ id seq, world.issued id = some seq →
      id < world.queue.nextReservationId)
    (bytes : UInt64) (allocates : Bool) :
    QueueStep world (world.step (.reserveMutation bytes allocates)) := by
  change QueueStep world (world.reserved _)
  cases done : world.queue.reserveMutation world.ledger bytes allocates with
  | none => exact queueStep_refl
  | some result =>
      rcases reserve_cases done with rfl | ⟨room, rfl⟩
      · exact queueStep_refl
      · have valid : ReplayQueueMutationReservation.valid
            { id := world.queue.nextReservationId
              replaySeq := world.ledger.nextSeq } = true :=
          bne_iff_ne.mpr positive.ne'
        unfold QueueWorld.reserved
        simp only [valid, if_true]
        constructor
        · refine ⟨[], [], ?_, (List.append_nil _).symm,
            (List.append_nil _).symm⟩
          refine .reserve ⟨.placeholder world.queue.nextReservationId, bytes⟩
            rfl ?_ room rfl rfl
          intro value found
          have taken : Function.update world.issued
              world.queue.nextReservationId (some world.ledger.nextSeq)
              world.queue.nextReservationId = some value := found
          rw [Function.update_self] at taken
          rw [← Option.some.inj taken]
          exact ⟨le_rfl, Nat.lt_succ_self _⟩
        · intro item member _
          rcases List.mem_append.mp member with old | new
          · exact Or.inl old
          · rw [List.mem_singleton] at new
            rw [new]
            exact Or.inr ⟨rfl, _, Function.update_self _ _ _⟩
        · intro id seq found
          exact (Function.update_of_ne (below id seq found).ne _ _).trans found
        · intro id seq found
          by_cases next : id = world.queue.nextReservationId
          · refine Or.inr ⟨next, ?_⟩
            rw [next]
            exact Nat.lt_succ_self _
          · exact Or.inl ((Function.update_of_ne next _ _).symm.trans found)
        · exact Nat.le_succ _
        · exact Nat.le_succ _
        · rfl

theorem queueStep_commit (id : Nat) (task : Option BufferMutationTask) :
    QueueStep world (world.step (.commitMutation id task)) := by
  cases issued : world.issued id with
  | none =>
      have same : world.step (.commitMutation id task) = world := by
        simp only [QueueWorld.step, issued]
      rw [same]
      exact queueStep_refl
  | some seq =>
      have step : world.step (.commitMutation id task) =
          world.commit { id := id, replaySeq := seq } task := by
        simp only [QueueWorld.step, issued]
      rw [step]
      unfold QueueWorld.commit
      rcases commit_cases world.queue world.ledger
          { id := id, replaySeq := seq } task with dropped |
        ⟨staged, front, place, back, brought, before, named, empty, done⟩
      · rw [dropped]
        simp only [Bool.false_eq_true, if_false, List.append_nil]
        exact queueStep_refl
      · have same : ReplayQueueItem.ordinal world.issued
              { place with
                payload := .mutation { staged with replaySeq := seq } } =
            ReplayQueueItem.ordinal world.issued place := by
          unfold ReplayQueueItem.ordinal
          rw [ReplayQueueItem.exists_of_placeholder empty, named]
          exact issued.symm
        rw [done, brought]
        apply queueStep_move
        · exact QueueChange.fill front back place _ empty rfl same rfl before
            rfl rfl
        · rfl
        · rfl
        · exact (List.append_nil _).symm
        · intro other member placeholder
          rw [before]
          simp only [List.mem_append, List.mem_cons] at member ⊢
          rcases member with old | rfl | old
          · exact Or.inl old
          · contradiction
          · exact Or.inr (Or.inr old)
        · rfl
        · exact (nextSeq_publishMutationAccepted _).ge
        · rfl

theorem queueStep_release (id : Nat) :
    QueueStep world (world.step (.releaseMutation id)) := by
  cases issued : world.issued id with
  | none =>
      have same : world.step (.releaseMutation id) = world := by
        simp only [QueueWorld.step, issued]
      rw [same]
      exact queueStep_refl
  | some seq =>
      have step : world.step (.releaseMutation id) =
          { world with
            queue := world.queue.releaseMutation
              { id := id, replaySeq := seq } } := by
        simp only [QueueWorld.step, issued]
      rw [step]
      rcases release_cases world.queue { id := id, replaySeq := seq } with
        ⟨same, _⟩ | ⟨front, place, back, before, named, empty, done⟩
      · rw [same]
        exact queueStep_refl
      · rw [done]
        apply queueStep_move
        · exact QueueChange.giveUp front back place empty before rfl rfl
        · rfl
        · exact (List.append_nil _).symm
        · exact (List.append_nil _).symm
        · intro other member _
          rw [before]
          simp only [List.mem_append, List.mem_cons] at member ⊢
          rcases member with old | old
          · exact Or.inl old
          · exact Or.inr (Or.inr old)
        · rfl
        · exact le_rfl
        · rfl

theorem queueStep_pop : QueueStep world (world.step .pop) := by
  change QueueStep world world.popHead
  unfold QueueWorld.popHead
  split
  · rename_i item next popped
    obtain ⟨head, rest, before, there, _, rfl⟩ := pop_cases popped
    apply queueStep_move
    · exact QueueChange.hand rest head there before rfl rfl
    · rfl
    · exact (List.append_nil _).symm
    · rw [before]
      rfl
    · intro other member _
      rw [before]
      exact List.mem_cons_of_mem head member
    · rfl
    · exact le_rfl
    · rfl
  · exact queueStep_refl

theorem queueStep_drain : QueueStep world (world.step .drainRemaining) := by
  apply queueStep_move
  · exact QueueChange.drain rfl rfl
  · rfl
  · exact (List.append_nil _).symm
  · rfl
  · intro other member _
    exact absurd member List.not_mem_nil
  · rfl
  · exact le_rfl
  · rfl

theorem queueStep_ledger (call : LedgerCall) :
    QueueStep world (world.step (.ledger call)) := by
  apply queueStep_keep rfl rfl rfl
  · cases call with
    | markStopped =>
        change _ ≤ world.ledger.markStopped.nextSeq
        unfold ReplayDrainLedger.markStopped
        split <;> exact le_rfl
    | latchStopped => exact le_rfl
    | publishFailure => exact le_rfl
    | latchPoisoned => exact le_rfl
    | publishReplayed chunk => exact (nextSeq_publishReplayed chunk).ge
    | publishMutationReplayed task =>
        exact (nextSeq_publishMutationReplayed task).ge
  · rfl

/-- What holds of the line and of the reservations that were issued. -/
structure QueueInvariant (world : QueueWorld) : Prop where
  numbered : Line.Numbered (ReplayQueueItem.ordinal world.issued)
    world.ledger.nextSeq world.line
  accepted : world.accepted.Perm
    ((world.line.present ReplayQueueItem.placeholder).map (·.payload))
  there : ∀ item ∈ world.taken, item.placeholder = false
  named : ∀ item ∈ world.queue.queue, item.placeholder = true →
    ∃ seq, world.issued item.reservationId = some seq
  issued : ∀ id seq, world.issued id = some seq →
    0 < id ∧ id < world.queue.nextReservationId
  ids : 0 < world.queue.nextReservationId

theorem queueInvariant_initial (maxChunks maxBytes : UInt64) :
    QueueInvariant
      { queue := { maxChunks := maxChunks, maxBytes := maxBytes } } where
  numbered := ⟨List.Pairwise.nil, fun _ member => nomatch member⟩
  accepted := List.Perm.refl _
  there _ member := nomatch member
  named _ member := nomatch member
  issued _ _ found := nomatch found
  ids := Nat.zero_lt_one

section

variable (invariant : QueueInvariant world)
include invariant

/-- A place keeps its number, whatever is issued later. -/
theorem QueueInvariant.ordinal_eq (step : QueueStep world next) (member : item ∈ world.line.places) :
    item.ordinal next.issued = item.ordinal world.issued := by
  unfold ReplayQueueItem.ordinal
  split
  · rename_i id payload
    have empty : item.placeholder = true := by
      unfold ReplayQueueItem.placeholder
      rw [payload]
    have named : item.reservationId = id := by
      unfold ReplayQueueItem.reservationId
      rw [payload]
    rcases List.mem_append.mp member with taken | waiting
    · rw [invariant.there item taken] at empty
      contradiction
    · obtain ⟨seq, found⟩ := invariant.named item waiting empty
      rw [named] at found
      rw [found]
      exact step.kept id seq found
  · rfl
  · rfl
  · rfl

theorem QueueInvariant.step (step : QueueStep world next) :
    QueueInvariant next := by
  obtain ⟨joined, handed, change, accepted, taken⟩ := step.change
  have moves := change.moves world.taken
  rw [← taken] at moves
  constructor
  · apply moves.numbered step.numbers
    exact invariant.numbered.congr fun item member =>
      invariant.ordinal_eq step member
  · rw [accepted]
    apply (invariant.accepted.append_right _).trans
    rw [← List.map_append]
    exact moves.present_perm.map _
  · intro item member
    rw [taken] at member
    rcases List.mem_append.mp member with old | new
    · exact invariant.there item old
    · cases change with
      | hand back head there before items bytes =>
          rw [List.mem_singleton] at new
          rw [new]
          exact there
      | drain items bytes =>
          have there := (List.mem_filter.mp new).2
          rw [Bool.not_eq_true'] at there
          exact there
      | _ => contradiction
  · intro item member empty
    rcases step.places item member empty with old | ⟨_, new⟩
    · obtain ⟨seq, found⟩ := invariant.named item old empty
      exact ⟨seq, step.kept _ _ found⟩
    · exact new
  · intro id seq found
    rcases step.fresh id seq found with old | ⟨new, below⟩
    · exact ⟨(invariant.issued id seq old).1,
        (invariant.issued id seq old).2.trans_le step.ids⟩
    · exact ⟨new ▸ invariant.ids, below⟩
  · exact invariant.ids.trans_le step.ids

theorem QueueInvariant.queueStep
    (call : QueueCall) : QueueStep world (world.step call) := by
  cases call with
  | push chunk tracked allocates => exact queueStep_push _ _ _
  | pushStateBlockApply task tracked allocates =>
      exact queueStep_pushStateBlockApply _ _ _
  | reserveMutation bytes allocates =>
      exact queueStep_reserve invariant.ids
        (fun id seq found => (invariant.issued id seq found).2) _ _
  | commitMutation id task => exact queueStep_commit _ _
  | releaseMutation id => exact queueStep_release _
  | pop => exact queueStep_pop
  | drainRemaining => exact queueStep_drain
  | markReplayDone => exact queueStep_keep rfl rfl rfl le_rfl rfl
  | stop => exact queueStep_keep rfl rfl rfl le_rfl rfl
  | failNextPushForTest point => exact queueStep_keep rfl rfl rfl le_rfl rfl
  | ledger call => exact queueStep_ledger call

end

section

variable (maxChunks maxBytes : UInt64) (calls : List QueueCall)
include maxChunks maxBytes calls

theorem runQueue_concat (call : QueueCall) :
    runQueue maxChunks maxBytes (calls ++ [call]) =
      (runQueue maxChunks maxBytes calls).step call :=
  run_append _ _ _ _

theorem runQueue_invariant :
    QueueInvariant (runQueue maxChunks maxBytes calls) :=
  run_invariant
    (fun _ call invariant => invariant.step (invariant.queueStep call))
    (queueInvariant_initial maxChunks maxBytes) calls

end

end Dxmt9.ReplayOffload
