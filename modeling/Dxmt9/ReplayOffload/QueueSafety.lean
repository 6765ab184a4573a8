import Dxmt9.ReplayOffload.QueueHistory

/-!
# Safety of the replay offload queue

The queue is a FIFO that hands each accepted item out once; it stops at a
reservation that is not settled; its counter never wraps; and what is rejected
or comes too late changes nothing.
-/

namespace Dxmt9.ReplayOffload

open Dxmt9.Queue Dxmt9.Transition

variable {world : QueueWorld}

/-- A reservation charges the size of an object in memory. -/
def QueueCall.Sized : QueueCall → Prop
  | .reserveMutation bytes _ => bytes.toNat < kHalfSize
  | _ => True

/-- Each item is charged the size of an object. -/
def Charged (items : List ReplayQueueItem) : Prop :=
  ∀ item ∈ items, item.chargedBytes.toNat < kHalfSize

theorem charged_concat {items : List ReplayQueueItem}
    (charged : Charged items) {item : ReplayQueueItem}
    (sized : item.chargedBytes.toNat < kHalfSize) :
    Charged (items ++ [item]) := by
  intro other member
  rcases List.mem_append.mp member with old | new
  · exact charged other old
  · rw [List.mem_singleton] at new
    rw [new]
    exact sized

theorem charged_pushed {ε : Type} {result : PushResult ε}
    (charged : Charged world.queue.queue)
    (cases : (∃ brought, Rejected world.queue world.ledger brought result) ∨
      ∃ item, Adopted world.queue item result ∧
        item.chargedBytes.toNat < kHalfSize) :
    Charged (world.pushed (some result)).queue.queue := by
  change Charged result.queue.queue
  rcases cases with ⟨brought, rejected⟩ | ⟨item, adopted, sized⟩
  · rw [rejected.queue]
    exact charged
  · rw [adopted.items]
    exact charged_concat charged sized

theorem recordBytes_lt (bytes : UInt32) :
    bytes.toUInt64.toNat < kHalfSize := by
  rw [UInt32.toNat_toUInt64]
  apply bytes.toNat_lt.trans
  decide

variable {call : QueueCall}

theorem charged_step (charged : Charged world.queue.queue) (sized : call.Sized) :
    Charged (world.step call).queue.queue := by
  cases call with
  | push chunk tracked allocates =>
      change Charged (world.pushed _).queue.queue
      cases done : world.queue.pushWithDisposition world.ledger
          { chunk with replaySeq := 0 } tracked allocates with
      | none => exact charged
      | some result =>
          apply charged_pushed charged
          rcases push_cases done with rejected | ⟨_, adopted, _⟩ |
            ⟨_, adopted, _⟩
          · exact Or.inl ⟨_, rejected⟩
          · exact Or.inr ⟨_, adopted, recordBytes_lt _⟩
          · exact Or.inr ⟨_, adopted, recordBytes_lt _⟩
  | pushStateBlockApply task tracked allocates =>
      change Charged (world.pushed _).queue.queue
      cases done : world.queue.pushStateBlockApply world.ledger
          (task.map fun _ => {}) tracked allocates with
      | none => exact charged
      | some result =>
          apply charged_pushed charged
          rcases pushStateBlockApply_cases done with rejected |
            ⟨_, _, ⟨_, adopted, _⟩ | ⟨_, adopted, _⟩⟩
          · exact Or.inl ⟨_, rejected⟩
          · exact Or.inr ⟨_, adopted, Nat.two_pow_pos 63⟩
          · exact Or.inr ⟨_, adopted, Nat.two_pow_pos 63⟩
  | reserveMutation bytes allocates =>
      change Charged (world.reserved _).queue.queue
      cases done : world.queue.reserveMutation world.ledger bytes
          allocates with
      | none => exact charged
      | some result =>
          rcases reserve_cases done with rfl | ⟨_, rfl⟩
          · exact charged
          · exact charged_concat charged sized
  | commitMutation id task =>
      cases issued : world.issued id with
      | none =>
          simp only [QueueWorld.step, issued]
          exact charged
      | some seq =>
          simp only [QueueWorld.step, issued, QueueWorld.commit]
          rcases commit_cases world.queue world.ledger
              { id := id, replaySeq := seq } task with dropped |
            ⟨staged, front, place, back, _, before, _, _, done⟩
          · rw [dropped]
            exact charged
          · rw [done]
            rw [before] at charged
            intro item member
            simp only [List.mem_append, List.mem_cons] at member
            rcases member with old | rfl | old
            · exact charged item (by simp [old])
            · exact charged place (by simp)
            · exact charged item (by simp [old])
  | releaseMutation id =>
      cases issued : world.issued id with
      | none =>
          simp only [QueueWorld.step, issued]
          exact charged
      | some seq =>
          simp only [QueueWorld.step, issued]
          rcases release_cases world.queue { id := id, replaySeq := seq } with
            ⟨same, _⟩ | ⟨front, place, back, before, _, _, done⟩
          · rw [same]
            exact charged
          · rw [done]
            rw [before] at charged
            intro item member
            simp only [List.mem_append] at member
            rcases member with old | old
            · exact charged item (by simp [old])
            · exact charged item (by simp [old])
  | pop =>
      change Charged world.popHead.queue.queue
      unfold QueueWorld.popHead
      split
      · rename_i popped
        obtain ⟨head, rest, before, _, _, rfl⟩ := pop_cases popped
        rw [before] at charged
        exact fun item member =>
          charged item (List.mem_cons_of_mem head member)
      · exact charged
  | drainRemaining => exact fun _ member => absurd member List.not_mem_nil
  | markReplayDone => exact charged
  | stop => exact charged
  | failNextPushForTest point => exact charged
  | ledger call => exact charged

theorem runQueue_accounted {maxChunks maxBytes : UInt64}
    (bounded : maxBytes.toNat ≤ kHalfSize) {calls : List QueueCall}
    (sized : ∀ call ∈ calls, call.Sized) :
    Accounted (runQueue maxChunks maxBytes calls).queue ∧
      Charged (runQueue maxChunks maxBytes calls).queue.queue ∧
      (runQueue maxChunks maxBytes calls).queue.maxBytes = maxBytes := by
  induction calls using List.reverseRecOn with
  | nil =>
      exact ⟨⟨rfl, Nat.zero_le _⟩,
        fun _ member => absurd member List.not_mem_nil, rfl⟩
  | append_singleton front call induction =>
      obtain ⟨accounted, charged, same⟩ := induction fun other member =>
        sized other (List.mem_append_left _ member)
      rw [runQueue_concat]
      have step := (runQueue_invariant maxChunks maxBytes front).queueStep call
      have next := charged_step charged (sized call (by simp))
      obtain ⟨joined, handed, change, _, _⟩ := step.change
      refine ⟨change.accounted ?_ next accounted, next, ?_⟩
      · rw [same]
        exact bounded
      · rw [step.maxBytes]
        exact same

/-- A reservation was issued, and its place is no longer in the queue. -/
structure Gone (world : QueueWorld) (id : Nat) : Prop where
  issued : id < world.queue.nextReservationId
  positive : 0 < id
  absent : ∀ item ∈ world.queue.queue, item.reservationId ≠ id

variable {id : Nat}

theorem Gone.step (gone : Gone world id) {next : QueueWorld}
    (step : QueueStep world next) : Gone next id where
  issued := gone.issued.trans_le step.ids
  positive := gone.positive
  absent item member named := by
    have empty := ReplayQueueItem.placeholder_of_reservationId named
      gone.positive.ne'
    rcases step.places item member empty with old | ⟨new, _⟩
    · exact gone.absent item old named
    · rw [new] at named
      exact absurd gone.issued (named ▸ lt_irrefl _)

variable {place : ReplayQueueItem}

theorem QueueInvariant.place_unique (invariant : QueueInvariant world)
    {front back : List ReplayQueueItem}
    (split : world.queue.queue = front ++ place :: back)
    (empty : place.placeholder = true) :
    ∀ item ∈ front ++ back,
      item.reservationId ≠ place.reservationId := by
  obtain ⟨seq, found⟩ := invariant.named place (by rw [split]; simp) empty
  have payload := ReplayQueueItem.exists_of_placeholder empty
  have positive := (invariant.issued _ seq found).1
  have numbered : ∀ item : ReplayQueueItem,
      item.reservationId = place.reservationId →
        item.ordinal world.issued = some seq := by
    intro item named
    have holds := ReplayQueueItem.placeholder_of_reservationId named
      positive.ne'
    unfold ReplayQueueItem.ordinal
    rw [ReplayQueueItem.exists_of_placeholder holds, named]
    exact found
  intro item member named
  rcases List.mem_append.mp member with before | after
  · obtain ⟨start, rest, rfl⟩ := List.append_of_mem before
    have places : world.line.places =
        (world.taken ++ start) ++ item :: (rest ++ place :: back) := by
      unfold QueueWorld.line Line.places
      rw [split]
      simp only [List.append_assoc, List.cons_append]
    exact invariant.numbered.number_inj places (numbered item named)
      (numbered place rfl)
  · obtain ⟨middle, rest, rfl⟩ := List.append_of_mem after
    have places : world.line.places =
        (world.taken ++ front) ++ place :: (middle ++ item :: rest) := by
      unfold QueueWorld.line Line.places
      rw [split, List.append_assoc]
    exact invariant.numbered.number_inj places (numbered place rfl)
      (numbered item named)

variable {seq : Nat}

section

variable (invariant : QueueInvariant world)
  (issued : world.issued id = some seq)
include invariant issued

theorem gone_of_release :
    Gone (world.step (.releaseMutation id)) id := by
  obtain ⟨positive, below⟩ := invariant.issued id seq issued
  simp only [QueueWorld.step, issued]
  rcases release_cases world.queue { id := id, replaySeq := seq } with
    ⟨same, absent⟩ | ⟨front, place, back, before, named, empty, done⟩
  · rw [same]
    exact ⟨below, positive, absent positive.ne'⟩
  · rw [done]
    refine ⟨below, positive, fun item member => ?_⟩
    rw [show id = place.reservationId from named.symm]
    exact invariant.place_unique before empty item member

theorem gone_of_drain :
    Gone (world.step .drainRemaining) id :=
  ⟨(invariant.issued id seq issued).2, (invariant.issued id seq issued).1,
    fun _ member => absurd member List.not_mem_nil⟩

end

/-- Calls that settle a reservation without a commit. -/
def Settles (id : Nat) (call : QueueCall) : Prop :=
  call = .releaseMutation id ∨ call = .drainRemaining

section

variable (maxChunks maxBytes : UInt64) (front back : List QueueCall)
include maxChunks maxBytes front back

theorem gone_after
    (issued : (runQueue maxChunks maxBytes front).issued id = some seq)
    (settles : Settles id call) :
    Gone (runQueue maxChunks maxBytes (front ++ call :: back)) id := by
  induction back using List.reverseRecOn with
  | nil =>
      rw [runQueue_concat]
      have invariant := runQueue_invariant maxChunks maxBytes front
      rcases settles with rfl | rfl
      · exact gone_of_release invariant issued
      · exact gone_of_drain invariant issued
  | append_singleton back last induction =>
      rw [← List.cons_append, ← List.append_assoc, runQueue_concat]
      exact induction.step ((runQueue_invariant _ _ _).queueStep last)

/-- Handing out only adds at the end, and what is present stays in order. -/
theorem runQueue_fifo :
    (runQueue maxChunks maxBytes front).taken <+:
        (runQueue maxChunks maxBytes (front ++ back)).taken ∧
      ((runQueue maxChunks maxBytes front).line.present
        ReplayQueueItem.placeholder).Sublist
        ((runQueue maxChunks maxBytes (front ++ back)).line.present
          ReplayQueueItem.placeholder) := by
  induction back using List.reverseRecOn with
  | nil =>
      rw [List.append_nil]
      exact ⟨List.prefix_rfl, List.Sublist.refl _⟩
  | append_singleton back call induction =>
      rw [← List.append_assoc, runQueue_concat]
      have step :=
        (runQueue_invariant maxChunks maxBytes (front ++ back)).queueStep call
      obtain ⟨joined, handed, change, _, taken⟩ := step.change
      have moves := change.moves
        (runQueue maxChunks maxBytes (front ++ back)).taken
      rw [← taken] at moves
      exact ⟨induction.1.trans moves.taken_prefix,
        induction.2.trans moves.present_sublist⟩

end

/-- What a queue keeps, whatever calls were made on it. -/
structure QueueSafe (maxChunks maxBytes : UInt64) (calls : List QueueCall) :
    Prop where
  /-- The numbers grow along the line, reserved places included. -/
  ordered : ((runQueue maxChunks maxBytes calls).line.places.filterMap
    (ReplayQueueItem.ordinal
      (runQueue maxChunks maxBytes calls).issued)).Pairwise (· < ·)
  /-- Each accepted item was handed out once, or waits. -/
  once : (runQueue maxChunks maxBytes calls).accepted.Perm
    (((runQueue maxChunks maxBytes calls).line.present
      ReplayQueueItem.placeholder).map (·.payload))
  /-- Items are handed out in the order of the line. -/
  fifo : ∀ front back, calls = front ++ back →
    (runQueue maxChunks maxBytes front).taken <+:
        (runQueue maxChunks maxBytes calls).taken ∧
      ((runQueue maxChunks maxBytes front).line.present
        ReplayQueueItem.placeholder).Sublist
        ((runQueue maxChunks maxBytes calls).line.present
          ReplayQueueItem.placeholder)
  /-- The consumer takes the head, and never a reserved place. -/
  head : ∀ item next,
    (runQueue maxChunks maxBytes calls).queue.pop = .popped item next →
      ∃ front rest,
        (runQueue maxChunks maxBytes calls).queue.queue = front :: rest ∧
          front.placeholder = false ∧ next.queue = rest ∧
          item = ReplayOffloadQueue.rawOrdinalHint front rest
  /-- Nothing was handed out past a reservation that is not settled. -/
  blocked : ∀ place ∈ (runQueue maxChunks maxBytes calls).queue.queue,
    place.placeholder = true →
    ∃ seq, (runQueue maxChunks maxBytes calls).issued place.reservationId =
        some seq ∧
      ∀ item ∈ (runQueue maxChunks maxBytes calls).taken, ∀ value,
        item.ordinal (runQueue maxChunks maxBytes calls).issued =
          some value → value < seq
  /-- The counter is the sum of the charges. -/
  bytes : maxBytes.toNat ≤ kHalfSize → (∀ call ∈ calls, call.Sized) →
    (runQueue maxChunks maxBytes calls).queue.queuedBytes.toNat =
      chargedBytes (runQueue maxChunks maxBytes calls).queue.queue
  /-- A rejected push or reservation changes nothing. -/
  rejectedPush : ∀ chunk tracked allocates result,
    (runQueue maxChunks maxBytes calls).queue.pushWithDisposition
        (runQueue maxChunks maxBytes calls).ledger chunk tracked allocates =
      some result → result.disposition = .rejectedPreEffect →
    Rejected (runQueue maxChunks maxBytes calls).queue
      (runQueue maxChunks maxBytes calls).ledger (some chunk) result
  rejectedApply : ∀ task tracked allocates result,
    (runQueue maxChunks maxBytes calls).queue.pushStateBlockApply
        (runQueue maxChunks maxBytes calls).ledger task tracked allocates =
      some result → result.disposition = .rejectedPreEffect →
    Rejected (runQueue maxChunks maxBytes calls).queue
      (runQueue maxChunks maxBytes calls).ledger task result
  rejectedReserve : ∀ bytes allocates queue ledger reservation,
    (runQueue maxChunks maxBytes calls).queue.reserveMutation
        (runQueue maxChunks maxBytes calls).ledger bytes allocates =
      some (queue, ledger, reservation) → reservation.valid = false →
    queue = (runQueue maxChunks maxBytes calls).queue ∧
      ledger = (runQueue maxChunks maxBytes calls).ledger
  /-- A commit after a release or a drain publishes nothing. -/
  stale : ∀ front call back id seq task, calls = front ++ call :: back →
    (runQueue maxChunks maxBytes front).issued id = some seq →
    Settles id call →
    (runQueue maxChunks maxBytes calls).queue.commitMutation
        (runQueue maxChunks maxBytes calls).ledger
        { id := id, replaySeq := seq } task =
      ((runQueue maxChunks maxBytes calls).queue,
        (runQueue maxChunks maxBytes calls).ledger, false)

theorem QueueInvariant.blocked (invariant : QueueInvariant world) (member : place ∈ world.queue.queue)
    (empty : place.placeholder = true) :
    ∃ seq, world.issued place.reservationId = some seq ∧
      ∀ item ∈ world.taken, ∀ value,
        item.ordinal world.issued = some value → value < seq := by
  obtain ⟨seq, found⟩ := invariant.named place member empty
  refine ⟨seq, found, fun item taken value numbered => ?_⟩
  have placed : place.ordinal world.issued = some seq := by
    unfold ReplayQueueItem.ordinal
    rw [ReplayQueueItem.exists_of_placeholder empty]
    exact found
  have ordered := invariant.numbered.ordered
  unfold QueueWorld.line Line.places at ordered
  rw [List.filterMap_append, List.pairwise_append] at ordered
  exact ordered.2.2 value (List.mem_filterMap.mpr ⟨item, taken, numbered⟩)
    seq (List.mem_filterMap.mpr ⟨place, member, placed⟩)

/-- Whatever producers, consumer and stop do, and in whatever order, the
queue is a FIFO with reservations that hands each item out once. -/
theorem queue_exactly_once (maxChunks maxBytes : UInt64)
    (calls : List QueueCall) : QueueSafe maxChunks maxBytes calls where
  ordered := (runQueue_invariant maxChunks maxBytes calls).numbered.ordered
  once := (runQueue_invariant maxChunks maxBytes calls).accepted
  fifo := by
    rintro front back rfl
    exact runQueue_fifo maxChunks maxBytes front back
  head _ _ popped := by
    obtain ⟨head, rest, items, there, hinted, rfl⟩ := pop_cases popped
    exact ⟨head, rest, items, there, rfl, hinted⟩
  blocked _ member empty :=
    (runQueue_invariant maxChunks maxBytes calls).blocked member empty
  bytes bounded sized := (runQueue_accounted bounded sized).1.total
  rejectedPush chunk tracked allocates result done rejected := by
    rcases push_cases done with same | ⟨_, adopted, _⟩ | ⟨_, adopted, _⟩
    · exact same
    · exact absurd rejected adopted.disposition
    · exact absurd rejected adopted.disposition
  rejectedApply task tracked allocates result done rejected := by
    rcases pushStateBlockApply_cases done with same |
      ⟨_, _, ⟨_, adopted, _⟩ | ⟨_, adopted, _⟩⟩
    · exact same
    · exact absurd rejected adopted.disposition
    · exact absurd rejected adopted.disposition
  rejectedReserve bytes allocates queue ledger reservation done invalid := by
    rcases reserve_cases done with refused | ⟨_, reserved⟩
    · exact ⟨congrArg Prod.fst refused,
        congrArg (fun result => result.2.1) refused⟩
    · have positive := (runQueue_invariant maxChunks maxBytes calls).ids
      have id := congrArg (fun result => result.2.2.id) reserved
      have zero : reservation.id = 0 := by
        unfold ReplayQueueMutationReservation.valid at invalid
        rw [bne_eq_false_iff_eq] at invalid
        exact invalid
      exact absurd (zero.symm.trans id) positive.ne
  stale := by
    rintro front call back id seq task rfl issued settles
    exact commit_of_gone
      (gone_after maxChunks maxBytes front back issued settles).absent task

end Dxmt9.ReplayOffload
