import Dxmt9.ReplayOffload.QueueChange

/-!
# The calls on the replay offload queue

What each call does: a push adopts one item or rejects it and changes nothing;
a reservation adds its place; a commit fills it and a release removes it.
-/

namespace Dxmt9.ReplayOffload

open Dxmt9.Queue

variable {queue : ReplayOffloadQueue} {ledger : ReplayDrainLedger}

@[simp] theorem nextSeq_updateTarget (ledger : ReplayDrainLedger)
    (update : ReplayDrainTarget → ReplayDrainTarget)
    (target : Option TargetId) :
    (ledger.updateTarget update target).nextSeq = ledger.nextSeq := by
  cases target <;> rfl

theorem nextSeq_updateTargets (ledger : ReplayDrainLedger)
    (update : ReplayDrainTarget → ReplayDrainTarget)
    (targets : List (Option TargetId)) :
    (targets.foldl (fun current => current.updateTarget update)
      ledger).nextSeq = ledger.nextSeq := by
  induction targets generalizing ledger with
  | nil => rfl
  | cons target rest induction =>
      exact (induction _).trans (nextSeq_updateTarget ledger update target)

@[simp] theorem nextSeq_publishAccepted (chunk : RawCommandChunk) :
    (ledger.publishAcceptedLocked chunk).1.nextSeq = ledger.nextSeq + 1 :=
  nextSeq_updateTargets _ _ _

@[simp] theorem nextSeq_publishMutationAccepted (task : BufferMutationTask) :
    (ledger.publishMutationAcceptedLocked task).nextSeq = ledger.nextSeq :=
  nextSeq_updateTarget _ _ _

@[simp] theorem nextSeq_publishMutationReplayed (task : BufferMutationTask) :
    (ledger.publishMutationReplayed task).nextSeq = ledger.nextSeq :=
  nextSeq_updateTarget _ _ _

@[simp] theorem nextSeq_publishReplayed (chunk : RawCommandChunk) :
    (ledger.publishReplayed chunk).nextSeq = ledger.nextSeq :=
  nextSeq_updateTargets _ _ _

/-! ## Pushes -/

/-- A rejected push has changed nothing but a test's failure point, and its
caller still owns what it brought. -/
structure Rejected {ε : Type} (queue : ReplayOffloadQueue)
    (ledger : ReplayDrainLedger) (brought : Option ε)
    (result : PushResult ε) : Prop where
  disposition : result.disposition = .rejectedPreEffect
  caller : result.caller = brought
  ledger : result.ledger = ledger
  queue : result.queue =
    { queue with
      testOnlyFailurePoint := result.queue.testOnlyFailurePoint }

/-- A push that is not rejected has adopted one item. -/
structure Adopted {ε : Type} (queue : ReplayOffloadQueue)
    (item : ReplayQueueItem) (result : PushResult ε) : Prop where
  disposition : result.disposition ≠ .rejectedPreEffect
  caller : result.caller = none
  items : result.queue.queue = queue.queue ++ [item]
  bytes : result.queue.queuedBytes = queue.queuedBytes + item.chargedBytes
  maxBytes : result.queue.maxBytes = queue.maxBytes
  nextReservationId :
    result.queue.nextReservationId = queue.nextReservationId
  room : queue.Room item.chargedBytes

theorem rejected_reject {ε : Type} (brought : Option ε) :
    Rejected queue ledger brought (queue.reject ledger brought) :=
  ⟨rfl, rfl, rfl, rfl⟩

theorem rejected_beforeAdoption {ε : Type} (brought : Option ε) :
    Rejected queue ledger brought
      ({ queue with testOnlyFailurePoint := .none }.reject ledger brought) :=
  ⟨rfl, rfl, rfl, rfl⟩

variable {item : ReplayQueueItem}

theorem adopted_accept {ε : Type}
    (room : queue.Room item.chargedBytes) (ledger : ReplayDrainLedger) :
    @Adopted ε queue item ((queue.adopt item).accept ledger) := by
  unfold ReplayOffloadQueue.accept ReplayOffloadQueue.settleAdoption
  split
  · exact ⟨nofun, rfl, rfl, rfl, rfl, rfl, room⟩
  · exact ⟨nofun, rfl, rfl, rfl, rfl, rfl, room⟩

variable {bytes : UInt64}

theorem room_of_admissible
    (admissible : queue.admissible bytes = true)
    (running : queue.stopped ≠ true) : queue.Room bytes := by
  unfold ReplayOffloadQueue.admissible at admissible
  rw [Bool.eq_false_of_not_eq_true running, Bool.false_or,
    Bool.and_eq_true, Bool.or_eq_true,
    List.isEmpty_iff, decide_eq_true_eq] at admissible
  exact Or.inr admissible.2

variable {tracked allocates : Bool}

theorem push_cases {chunk : RawCommandChunk}
    {result : PushResult RawCommandChunk}
    (done : queue.pushWithDisposition ledger chunk tracked allocates =
      some result) :
    Rejected queue ledger (some chunk) result ∨
      (tracked = true ∧
        Adopted queue ⟨.chunk (ledger.publishAcceptedLocked chunk).2,
          chunk.recordBytes.toUInt64⟩ result ∧
        result.ledger = (ledger.publishAcceptedLocked chunk).1) ∨
      (tracked = false ∧
        Adopted queue ⟨.chunk chunk, chunk.recordBytes.toUInt64⟩ result ∧
        result.ledger = ledger) := by
  unfold ReplayOffloadQueue.pushWithDisposition at done
  simp only at done
  split at done
  · contradiction
  rename_i admissible
  rw [Bool.not_eq_false] at admissible
  split at done
  · exact Or.inl (Option.some.inj done ▸ rejected_reject _)
  rename_i running
  have room := room_of_admissible admissible running
  split at done
  · exact Or.inl (Option.some.inj done ▸ rejected_beforeAdoption _)
  split at done
  · rename_i isTracked
    split at done
    · exact Or.inl (Option.some.inj done ▸ rejected_reject _)
    split at done
    · exact Or.inl (Option.some.inj done ▸ rejected_reject _)
    obtain rfl := Option.some.inj done
    exact Or.inr (Or.inl ⟨isTracked, adopted_accept room _, rfl⟩)
  · rename_i untracked
    rw [Bool.not_eq_true] at untracked
    split at done
    · exact Or.inl (Option.some.inj done ▸ rejected_reject _)
    obtain rfl := Option.some.inj done
    exact Or.inr (Or.inr ⟨untracked, adopted_accept room _, rfl⟩)

theorem pushStateBlockApply_cases {task : Option StateBlockApplyTask} {result : PushResult StateBlockApplyTask}
    (done : queue.pushStateBlockApply ledger task tracked allocates =
      some result) :
    Rejected queue ledger task result ∨
      ∃ apply, task = some apply ∧
        ((tracked = true ∧
          Adopted queue ⟨.stateBlockApply
            (ledger.publishStateBlockApplyAcceptedLocked apply).2, 0⟩
              result ∧
          result.ledger =
            (ledger.publishStateBlockApplyAcceptedLocked apply).1) ∨
        (tracked = false ∧
          Adopted queue ⟨.stateBlockApply apply, 0⟩ result ∧
          result.ledger = ledger)) := by
  unfold ReplayOffloadQueue.pushStateBlockApply at done
  split at done
  · exact Or.inl (Option.some.inj done ▸ rejected_reject _)
  rename_i apply
  have room : queue.Room 0 := Or.inl rfl
  split at done
  · contradiction
  split at done
  · exact Or.inl (Option.some.inj done ▸ rejected_reject _)
  split at done
  · exact Or.inl (Option.some.inj done ▸ rejected_beforeAdoption _)
  split at done
  · rename_i isTracked
    split at done
    · exact Or.inl (Option.some.inj done ▸ rejected_reject _)
    split at done
    · exact Or.inl (Option.some.inj done ▸ rejected_reject _)
    obtain rfl := Option.some.inj done
    exact Or.inr ⟨apply, rfl, Or.inl ⟨isTracked, adopted_accept room _, rfl⟩⟩
  · rename_i untracked
    rw [Bool.not_eq_true] at untracked
    split at done
    · exact Or.inl (Option.some.inj done ▸ rejected_reject _)
    obtain rfl := Option.some.inj done
    exact Or.inr ⟨apply, rfl, Or.inr ⟨untracked, adopted_accept room _, rfl⟩⟩

/-- A reservation is refused and changes nothing, or it takes the next number
and stands at the end of the queue. -/
theorem reserve_cases
    {result : ReplayOffloadQueue × ReplayDrainLedger ×
      ReplayQueueMutationReservation}
    (done : queue.reserveMutation ledger bytes allocates = some result) :
    result = (queue, ledger, {}) ∨
      queue.Room bytes ∧ result =
        ({ queue.adopt ⟨.placeholder queue.nextReservationId, bytes⟩ with
            nextReservationId := queue.nextReservationId + 1 },
          { ledger with nextSeq := ledger.nextSeq + 1 },
          { id := queue.nextReservationId, replaySeq := ledger.nextSeq }) := by
  unfold ReplayOffloadQueue.reserveMutation at done
  split at done
  · contradiction
  rename_i admissible
  rw [Bool.not_eq_false] at admissible
  split at done
  · exact Or.inl (Option.some.inj done).symm
  rename_i running
  split at done
  · exact Or.inl (Option.some.inj done).symm
  split at done
  · exact Or.inl (Option.some.inj done).symm
  exact Or.inr ⟨room_of_admissible admissible running,
    (Option.some.inj done).symm⟩

variable {id : Nat} {items : List ReplayQueueItem}

theorem fillReservation_cases {task : BufferMutationTask}
    {filled : List ReplayQueueItem}
    (found : ReplayOffloadQueue.fillReservation id task items = some filled) :
    ∃ front place back, items = front ++ place :: back ∧
      place.reservationId = id ∧
      filled = front ++ { place with payload := .mutation task } :: back := by
  induction items generalizing filled with
  | nil => contradiction
  | cons item rest induction =>
      unfold ReplayOffloadQueue.fillReservation at found
      split at found
      · rename_i named
        exact ⟨[], item, rest, rfl, named, (Option.some.inj found).symm⟩
      · obtain ⟨tail, later, rfl⟩ := Option.map_eq_some_iff.mp found
        obtain ⟨front, place, back, rfl, named, rfl⟩ := induction later
        exact ⟨item :: front, place, back, rfl, named, rfl⟩

theorem eraseReservation_cases
    {erased : ReplayQueueItem × List ReplayQueueItem}
    (found : ReplayOffloadQueue.eraseReservation id items = some erased) :
    ∃ front back, items = front ++ erased.1 :: back ∧
      erased.1.reservationId = id ∧ erased.2 = front ++ back := by
  induction items generalizing erased with
  | nil => contradiction
  | cons item rest induction =>
      unfold ReplayOffloadQueue.eraseReservation at found
      split at found
      · rename_i named
        rw [← Option.some.inj found]
        exact ⟨[], rest, rfl, named, rfl⟩
      · obtain ⟨later, tail, rfl⟩ := Option.map_eq_some_iff.mp found
        obtain ⟨front, back, split, named, left⟩ := induction tail
        refine ⟨item :: front, back, ?_, named, ?_⟩
        · rw [split]
          rfl
        · rw [left]
          rfl

theorem eraseReservation_none
    (absent : ReplayOffloadQueue.eraseReservation id items = none) :
    ∀ item ∈ items, item.reservationId ≠ id := by
  induction items with
  | nil => exact fun _ member => absurd member List.not_mem_nil
  | cons item rest induction =>
      unfold ReplayOffloadQueue.eraseReservation at absent
      split at absent
      · contradiction
      · rename_i other
        rw [Option.map_eq_none_iff] at absent
        intro place member
        rcases List.mem_cons.mp member with rfl | later
        · exact other
        · exact induction absent place later

theorem commit_cases (queue : ReplayOffloadQueue) (ledger : ReplayDrainLedger)
    (reservation : ReplayQueueMutationReservation)
    (task : Option BufferMutationTask) :
    queue.commitMutation ledger reservation task = (queue, ledger, false) ∨
      ∃ staged front place back, task = some staged ∧
        queue.queue = front ++ place :: back ∧
        place.reservationId = reservation.id ∧
        place.placeholder = true ∧
        queue.commitMutation ledger reservation task =
          ({ queue with
              queue := front ++
                { place with
                  payload := .mutation
                    { staged with replaySeq := reservation.replaySeq } } ::
                back },
            ledger.publishMutationAcceptedLocked
              { staged with replaySeq := reservation.replaySeq }, true) := by
  unfold ReplayOffloadQueue.commitMutation
  split
  · exact Or.inl rfl
  rename_i staged
  split
  · exact Or.inl rfl
  rename_i valid
  have nonzero : reservation.id ≠ 0 := by
    intro zero
    unfold ReplayQueueMutationReservation.valid at valid
    rw [zero] at valid
    exact valid rfl
  simp only
  split
  · exact Or.inl rfl
  · rename_i items found
    obtain ⟨front, place, back, split, named, rfl⟩ :=
      fillReservation_cases found
    exact Or.inr ⟨staged, front, place, back, rfl, split, named,
      ReplayQueueItem.placeholder_of_reservationId named nonzero, rfl⟩

theorem commit_of_gone {reservation : ReplayQueueMutationReservation}
    (gone : ∀ item ∈ queue.queue, item.reservationId ≠ reservation.id)
    (task : Option BufferMutationTask) :
    queue.commitMutation ledger reservation task = (queue, ledger, false) := by
  rcases commit_cases queue ledger reservation task with dropped |
    ⟨staged, front, place, back, _, split, named, _⟩
  · exact dropped
  · exact absurd named (gone place (by rw [split]; simp))

theorem release_cases (queue : ReplayOffloadQueue)
    (reservation : ReplayQueueMutationReservation) :
    (queue.releaseMutation reservation = queue ∧
        (reservation.id ≠ 0 →
          ∀ item ∈ queue.queue, item.reservationId ≠ reservation.id)) ∨
      ∃ front place back, queue.queue = front ++ place :: back ∧
        place.reservationId = reservation.id ∧
        place.placeholder = true ∧
        queue.releaseMutation reservation =
          { queue with
            queue := front ++ back
            queuedBytes := queue.queuedBytes - place.chargedBytes } := by
  unfold ReplayOffloadQueue.releaseMutation
  split
  · rename_i invalid
    refine Or.inl ⟨rfl, fun nonzero => absurd ?_ nonzero⟩
    unfold ReplayQueueMutationReservation.valid at invalid
    rw [bne_eq_false_iff_eq] at invalid
    exact invalid
  rename_i valid
  have nonzero : reservation.id ≠ 0 := by
    intro zero
    unfold ReplayQueueMutationReservation.valid at valid
    rw [zero] at valid
    exact valid rfl
  split
  · rename_i absent
    exact Or.inl ⟨rfl, fun _ => eraseReservation_none absent⟩
  · rename_i item items found
    obtain ⟨front, back, split, named, left⟩ := eraseReservation_cases found
    refine Or.inr ⟨front, item, back, split, named,
      ReplayQueueItem.placeholder_of_reservationId named nonzero, ?_⟩
    rw [show items = front ++ back from left]

/-- The consumer takes the head of the queue, and never a place holder. -/
theorem pop_cases {next : ReplayOffloadQueue}
    (popped : queue.pop = .popped item next) :
    ∃ head rest, queue.queue = head :: rest ∧ head.placeholder = false ∧
      item = ReplayOffloadQueue.rawOrdinalHint head rest ∧
      next = { queue with
        queue := rest
        queuedBytes := queue.queuedBytes - head.chargedBytes
        inFlight := true } := by
  unfold ReplayOffloadQueue.pop at popped
  split at popped
  · split at popped <;> contradiction
  rename_i head rest items
  split at popped
  · split at popped <;> contradiction
  rename_i there
  rw [Bool.not_eq_true] at there
  injection popped with first second
  exact ⟨head, rest, items, there, first.symm, second.symm⟩

end Dxmt9.ReplayOffload
