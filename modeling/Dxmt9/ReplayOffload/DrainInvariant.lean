import Dxmt9.ReplayOffload.ProducerPublications

/-!
# The invariant of the replay drains

Whatever waits in the line has a higher number than anything that was
published as replayed, and the worker has applied all that it took but the
item at hand.
-/

namespace Dxmt9.ReplayOffload

open Dxmt9.Queue Dxmt9.Transition

variable {world next : QueueWorld}

/-! ## The invariant -/

theorem QueueChange.ordinal_cases {number : ReplayQueueItem → Option Nat}
    {low high : Nat} {queue next : ReplayOffloadQueue}
    {joined handed : List ReplayQueueItem}
    (change : QueueChange number low high queue next joined handed) :
    ∀ item ∈ next.queue, ∀ value, number item = some value →
      (∃ old ∈ queue.queue, number old = some value) ∨ low ≤ value := by
  intro item member value found
  cases change with
  | keep items bytes => exact Or.inl ⟨item, items ▸ member, found⟩
  | join new there fresh room items bytes =>
      rw [items] at member
      rcases List.mem_append.mp member with old | last
      · exact Or.inl ⟨item, old, found⟩
      · rw [List.mem_singleton] at last
        rw [last] at found
        exact Or.inr (fresh value found).1
  | reserve place empty fresh room items bytes =>
      rw [items] at member
      rcases List.mem_append.mp member with old | last
      · exact Or.inl ⟨item, old, found⟩
      · rw [List.mem_singleton] at last
        rw [last] at found
        exact Or.inr (fresh value found).1
  | fill front back place new empty there same charge before items bytes =>
      rw [items] at member
      rw [before]
      simp only [List.mem_append, List.mem_cons] at member ⊢
      rcases member with old | rfl | old
      · exact Or.inl ⟨item, Or.inl old, found⟩
      · exact Or.inl ⟨place, Or.inr (Or.inl rfl), same ▸ found⟩
      · exact Or.inl ⟨item, Or.inr (Or.inr old), found⟩
  | giveUp front back place empty before items bytes =>
      rw [items] at member
      rw [before]
      simp only [List.mem_append, List.mem_cons] at member ⊢
      rcases member with old | old
      · exact Or.inl ⟨item, Or.inl old, found⟩
      · exact Or.inl ⟨item, Or.inr (Or.inr old), found⟩
  | hand back head there before items bytes =>
      rw [items] at member
      rw [before]
      exact Or.inl ⟨item, List.mem_cons_of_mem head member, found⟩
  | drain items bytes =>
      rw [items] at member
      exact absurd member List.not_mem_nil

/-- The highest number that was replayed for a target. -/
def QueueWorld.replayedSeq (world : QueueWorld) (target : TargetId) : Nat :=
  (world.ledger.targets target).lastReplayedSeq

def QueueWorld.queuedSeq (world : QueueWorld) (target : TargetId) : Nat :=
  (world.ledger.targets target).lastQueuedSeq

/-- What holds of the numbers, whatever the worker is about. -/
structure LedgerInvariant (world : QueueWorld) (applied : List Nat) :
    Prop where
  queue : QueueInvariant world
  queuedBelow : QueuedBelow world
  replayedBelow : ∀ target, world.replayedSeq target < world.ledger.nextSeq
  positive : ∀ payload ∈ world.accepted, 0 < payload.seq
  queued : ∀ payload ∈ world.accepted, ∀ target, payload.Names target →
    payload.seq ≤ world.queuedSeq target
  /-- What waits has a higher number than what was replayed. -/
  waiting : ∀ item ∈ world.queue.queue, ∀ value,
    item.ordinal world.issued = some value →
      ∀ target, world.replayedSeq target < value
  unreplayed : ∀ payload ∈ world.accepted, ∀ target, payload.Names target →
    payload.seq ∈ applied ∨ world.replayedSeq target < payload.seq

variable {applied : List Nat}

theorem LedgerInvariant.step (invariant : LedgerInvariant world applied)
    (step : QueueStep world next) (publishes : Publishes world next) :
    LedgerInvariant next applied := by
  obtain ⟨payloads, accepted, fresh⟩ := publishes.joined
  have replayed : ∀ target,
      next.replayedSeq target = world.replayedSeq target :=
    publishes.replayed
  have above : ∀ payload ∈ payloads, ∀ target,
      world.replayedSeq target < payload.seq := by
    intro payload member target
    rcases (fresh payload member).1 with drawn | ⟨place, waits, number⟩
    · exact (invariant.replayedBelow target).trans_le drawn
    · exact invariant.waiting place waits payload.seq number target
  constructor
  · exact invariant.queue.step step
  · exact publishes.below
  · intro target
    rw [replayed]
    exact (invariant.replayedBelow target).trans_le step.numbers
  · intro payload member
    rw [accepted] at member
    rcases List.mem_append.mp member with old | new
    · exact invariant.positive payload old
    · exact (Nat.zero_le _).trans_lt (above payload new 0)
  · intro payload member target names
    rw [accepted] at member
    rcases List.mem_append.mp member with old | new
    · exact (invariant.queued payload old target names).trans
        (publishes.grows target)
    · exact (fresh payload new).2 target names
  · obtain ⟨joined, handed, change, _, _⟩ := step.change
    intro item member value found target
    rw [replayed]
    rcases change.ordinal_cases item member value found with
      ⟨old, before, number⟩ | drawn
    · have same := invariant.queue.ordinal_eq step
        (List.mem_append_right world.taken before)
      rw [same] at number
      exact invariant.waiting old before value number target
    · exact (invariant.replayedBelow target).trans_le drawn
  · intro payload member target names
    rw [replayed]
    rw [accepted] at member
    rcases List.mem_append.mp member with old | new
    · exact invariant.unreplayed payload old target names
    · exact Or.inr (above payload new target)

theorem ordinal_of_there {item : ReplayQueueItem}
    (there : item.placeholder = false) (positive : 0 < item.payload.seq)
    (issued : Nat → Option Nat) :
    item.ordinal issued = some item.payload.seq := by
  obtain ⟨payload, charge⟩ := item
  cases payload with
  | placeholder id => contradiction
  | mutation task => rfl
  | stateBlockApply task => exact if_neg positive.ne'
  | chunk raw => exact if_neg positive.ne'

section

variable (invariant : LedgerInvariant world applied)
include invariant

theorem LedgerInvariant.place_of_accepted
    {payload : ReplayQueuePayload} (member : payload ∈ world.accepted) :
    (∃ item ∈ world.taken, item.payload = payload) ∨
      ∃ item ∈ world.queue.queue, item.payload = payload ∧
        item.ordinal world.issued = some payload.seq := by
  have present := invariant.queue.accepted.subset member
  obtain ⟨item, found, rfl⟩ := List.mem_map.mp present
  rcases List.mem_append.mp found with taken | waits
  · exact Or.inl ⟨item, taken, rfl⟩
  · obtain ⟨queued, there⟩ := List.mem_filter.mp waits
    rw [Bool.not_eq_true'] at there
    exact Or.inr ⟨item, queued, rfl,
      ordinal_of_there there (invariant.positive _ member) _⟩

variable {item : ReplayQueueItem}

theorem LedgerInvariant.accepted_of_taken
    (taken : item ∈ world.taken) : item.payload ∈ world.accepted :=
  invariant.queue.accepted.symm.subset
    (List.mem_map.mpr ⟨item, List.mem_append_left _ taken, rfl⟩)

theorem LedgerInvariant.accepted_of_queued
    (queued : item ∈ world.queue.queue) (there : item.placeholder = false) :
    item.payload ∈ world.accepted := by
  apply invariant.queue.accepted.symm.subset
  apply List.mem_map.mpr
  refine ⟨item, List.mem_append_right _ (List.mem_filter.mpr ?_), rfl⟩
  exact ⟨queued, by rw [there]; rfl⟩

theorem LedgerInvariant.ordinal_of_taken
    (taken : item ∈ world.taken) :
    item.ordinal world.issued = some item.payload.seq :=
  ordinal_of_there (invariant.queue.there item taken)
    (invariant.positive _ (invariant.accepted_of_taken taken)) _

theorem LedgerInvariant.taken_lt
    (taken : item ∈ world.taken) {place : ReplayQueueItem}
    (waits : place ∈ world.queue.queue) {value : Nat}
    (number : place.ordinal world.issued = some value) :
    item.payload.seq < value := by
  have ordered := invariant.queue.numbered.ordered
  unfold QueueWorld.line Line.places at ordered
  rw [List.filterMap_append, List.pairwise_append] at ordered
  exact ordered.2.2 _
    (List.mem_filterMap.mpr ⟨item, taken, invariant.ordinal_of_taken taken⟩)
    value (List.mem_filterMap.mpr ⟨place, waits, number⟩)

end

/-! ## The worker -/

/-- What the worker is about agrees with what it has taken. -/
structure DrainInvariant (world : ReplayWorld) : Prop where
  ledger : LedgerInvariant world.base world.applied
  /-- Until it fails or leaves, the worker has applied all that it took but
  the item at hand. -/
  live : world.worker.Live → ∀ item ∈ world.base.taken,
    item.payload.seq ∈ world.applied ∨
      ∃ payload, world.worker = .popped payload ∧
        payload.seq = item.payload.seq
  held : ∀ payload,
    world.worker = .popped payload ∨ world.worker = .applied payload →
      ∃ item ∈ world.base.taken, item.payload.seq = payload.seq ∧
        ∀ target, payload.Names target ↔ item.payload.Names target
  above : ∀ payload, world.worker = .popped payload →
    ∀ target, world.base.replayedSeq target < payload.seq
  kept : world.worker.Live → world.discarded = []
  closing : ∀ calls, world.worker = .closing calls →
    ∀ call ∈ calls, call ∈ failStop
  /-- A reader of what was given up is never told that it has caught up. -/
  discarded : ∀ payload ∈ world.discarded, ∀ target, payload.Names target →
    world.base.replayedSeq target < payload.seq ∧
      payload.seq ≤ world.base.queuedSeq target

theorem drainInvariant_initial (maxChunks maxBytes : UInt64) :
    DrainInvariant
      { base :=
          { queue := { maxChunks := maxChunks, maxBytes := maxBytes } } } where
  ledger :=
    { queue := queueInvariant_initial maxChunks maxBytes
      queuedBelow := fun _ => Nat.zero_lt_one
      replayedBelow := fun _ => Nat.zero_lt_one
      positive := fun _ member => nomatch member
      queued := fun _ member => nomatch member
      waiting := fun _ member => nomatch member
      unreplayed := fun _ member => nomatch member }
  live _ _ member := nomatch member
  held _ about := by rcases about with about | about <;> contradiction
  above _ about := nomatch about
  kept _ := rfl
  closing _ about := nomatch about
  discarded _ member := nomatch member

variable {device : ReplayWorld}

/-- How the worker goes on when the step is not about an item. -/
inductive GoesOn : ReplayWorker → ReplayWorker → Prop where
  | same (worker : ReplayWorker) : GoesOn worker worker
  | resume : GoesOn .published .idle
  | close (call : QueueCall) (rest : List QueueCall) :
      GoesOn (.closing (call :: rest)) (.closing rest)

/-- A step that publishes nothing as replayed and takes nothing. -/
theorem DrainInvariant.base_step (invariant : DrainInvariant device)
    {base : QueueWorld} (step : QueueStep device.base base)
    (publishes : Publishes device.base base)
    (taken : base.taken = device.base.taken) {worker : ReplayWorker}
    (goesOn : GoesOn device.worker worker) :
    DrainInvariant { device with base := base, worker := worker } := by
  have replayed : ∀ target,
      base.replayedSeq target = device.base.replayedSeq target :=
    publishes.replayed
  constructor
  · exact invariant.ledger.step step publishes
  · intro live item member
    change item ∈ base.taken at member
    rw [taken] at member
    generalize about : device.worker = before at goesOn
    cases goesOn with
    | same worker => exact about ▸ invariant.live (about ▸ live) item member
    | resume =>
        rcases invariant.live (about ▸ trivial) item member with done |
          ⟨_, at_hand, _⟩
        · exact Or.inl done
        · rw [about] at at_hand
          contradiction
    | close call rest => exact live.elim
  · intro payload at_hand
    change ∃ item ∈ base.taken, _
    rw [taken]
    generalize about : device.worker = before at goesOn
    cases goesOn with
    | same worker => exact invariant.held payload (about ▸ at_hand)
    | resume => rcases at_hand with at_hand | at_hand <;> contradiction
    | close call rest => rcases at_hand with at_hand | at_hand <;> contradiction
  · intro payload at_hand target
    change base.replayedSeq target < payload.seq
    rw [replayed]
    generalize about : device.worker = before at goesOn
    cases goesOn with
    | same worker => exact invariant.above payload (about ▸ at_hand) target
    | resume => contradiction
    | close call rest => contradiction
  · intro live
    generalize about : device.worker = before at goesOn
    cases goesOn with
    | same worker => exact invariant.kept (about ▸ live)
    | resume => exact invariant.kept (about ▸ trivial)
    | close call rest => exact live.elim
  · intro calls leaving call member
    generalize about : device.worker = before at goesOn
    cases goesOn with
    | same worker => exact invariant.closing calls (about ▸ leaving) call member
    | resume => contradiction
    | close first rest =>
        injection leaving with same
        rw [← same] at member
        exact invariant.closing _ about call (List.mem_cons_of_mem first member)
  · intro payload member target names
    obtain ⟨below, queued⟩ := invariant.discarded payload member target names
    change base.replayedSeq target < payload.seq ∧
      payload.seq ≤ base.queuedSeq target
    rw [replayed]
    exact ⟨below, queued.trans (publishes.grows target)⟩

theorem DrainInvariant.producer (invariant : DrainInvariant device)
    (call : ProducerCall) :
    DrainInvariant (device.step (.producer call)) :=
  invariant.base_step (invariant.ledger.queue.queueStep _)
    (publishes_producer invariant.ledger.queue invariant.ledger.queuedBelow
      call)
    (taken_producer call) (.same _)

theorem publishes_failStop (below : QueuedBelow world) {call : QueueCall}
    (member : call ∈ failStop) :
    Publishes world (world.step call) ∧
      (world.step call).taken = world.taken := by
  unfold failStop at member
  simp only [List.mem_cons, List.not_mem_nil, or_false] at member
  rcases member with rfl | rfl | rfl | rfl
  iterate 4 · exact ⟨publishes_nothing below rfl rfl le_rfl, rfl⟩

theorem DrainInvariant.close (invariant : DrainInvariant device) :
    DrainInvariant (device.step .close) := by
  simp only [ReplayWorld.step]
  split
  · rename_i call rest about
    have member := invariant.closing _ about call List.mem_cons_self
    obtain ⟨publishes, taken⟩ :=
      publishes_failStop invariant.ledger.queuedBelow member
    apply invariant.base_step (invariant.ledger.queue.queueStep call)
      publishes taken
    rw [about]
    exact .close call rest
  · exact invariant

theorem DrainInvariant.markDone (invariant : DrainInvariant device) :
    DrainInvariant (device.step .markDone) := by
  simp only [ReplayWorld.step]
  split
  · rename_i about
    apply invariant.base_step (invariant.ledger.queue.queueStep _)
      (publishes_nothing invariant.ledger.queuedBelow rfl rfl le_rfl) rfl
    rw [about]
    exact .resume
  · exact invariant

/-- The hint changes neither the number of an item nor what it names. -/
theorem rawOrdinalHint_same (item : ReplayQueueItem)
    (rest : List ReplayQueueItem) :
    (ReplayOffloadQueue.rawOrdinalHint item rest).payload.seq =
        item.payload.seq ∧
      ∀ target,
        (ReplayOffloadQueue.rawOrdinalHint item rest).payload.Names target ↔
          item.payload.Names target := by
  unfold ReplayOffloadQueue.rawOrdinalHint
  split
  · rename_i chunk next payload
    split
    · rw [payload]
      exact ⟨rfl, fun _ => Iff.rfl⟩
    · exact ⟨rfl, fun _ => Iff.rfl⟩
  · exact ⟨rfl, fun _ => Iff.rfl⟩

theorem DrainInvariant.pop (invariant : DrainInvariant device) :
    DrainInvariant (device.step .pop) := by
  simp only [ReplayWorld.step]
  split
  case h_2 => exact invariant
  rename_i idle
  unfold ReplayWorld.workerPop
  split
  · rename_i item queue popped
    obtain ⟨head, rest, before, there, rfl, rfl⟩ := pop_cases popped
    obtain ⟨seq, names⟩ := rawOrdinalHint_same head rest
    have next : device.base.step .pop =
        { device.base with
          queue := { device.base.queue with
            queue := rest
            queuedBytes := device.base.queue.queuedBytes - head.chargedBytes
            inFlight := true }
          taken := device.base.taken ++ [head] } := by
      change device.base.popHead = _
      unfold QueueWorld.popHead
      rw [popped, before]
      rfl
    have queued : head ∈ device.base.queue.queue := by rw [before]; simp
    have positive := invariant.ledger.positive _
      (invariant.ledger.accepted_of_queued queued there)
    have number := ordinal_of_there there positive device.base.issued
    have publishes : Publishes device.base (device.base.step .pop) := by
      rw [next]
      exact publishes_nothing invariant.ledger.queuedBelow rfl rfl le_rfl
    have ledger := invariant.ledger.step queueStep_pop publishes
    rw [next] at ledger ⊢
    constructor
    · exact ledger
    · intro _ other member
      rcases List.mem_append.mp member with old | new
      · rcases invariant.live (by rw [idle]; trivial) other old with done |
          ⟨_, about, _⟩
        · exact Or.inl done
        · rw [idle] at about
          contradiction
      · rw [List.mem_singleton] at new
        rw [new]
        exact Or.inr ⟨_, rfl, seq⟩
    · rintro payload (about | about)
      · injection about with same
        rw [← same]
        exact ⟨head, List.mem_append_right _ List.mem_cons_self, seq.symm,
          names⟩
      · contradiction
    · intro payload about target
      injection about with same
      rw [← same, seq]
      exact invariant.ledger.waiting head queued _ number target
    · intro _
      exact invariant.kept (by rw [idle]; trivial)
    · intro calls about
      contradiction
    · exact invariant.discarded
  · constructor
    · exact invariant.ledger
    · exact fun live => live.elim
    · rintro payload (about | about) <;> contradiction
    · intro payload about
      contradiction
    · exact fun live => live.elim
    · intro calls about call member
      injection about with same
      rw [← same] at member
      exact absurd member List.not_mem_nil
    · exact invariant.discarded
  · exact invariant

theorem DrainInvariant.apply (invariant : DrainInvariant device)
    (succeeds : Bool) : DrainInvariant (device.step (.apply succeeds)) := by
  simp only [ReplayWorld.step]
  split
  case h_2 => exact invariant
  rename_i payload about
  unfold ReplayWorld.workerApply
  cases succeeds with
  | true =>
      rw [if_pos rfl]
      constructor
      · exact { invariant.ledger with
          unreplayed := fun other member target names =>
            (invariant.ledger.unreplayed other member target names).imp_left
              fun done => List.mem_append_left _ done }
      · intro _ item taken
        rcases invariant.live (by rw [about]; trivial) item taken with done |
          ⟨other, at_hand, same⟩
        · exact Or.inl (List.mem_append_left _ done)
        · rw [about] at at_hand
          injection at_hand with equal
          rw [← same, ← equal]
          exact Or.inl (List.mem_append_right _ List.mem_cons_self)
      · rintro other (at_hand | at_hand)
        · contradiction
        · injection at_hand with equal
          rw [← equal]
          exact invariant.held payload (Or.inl about)
      · intro other at_hand
        contradiction
      · intro _
        exact invariant.kept (by rw [about]; trivial)
      · intro calls leaving
        contradiction
      · exact invariant.discarded
  | false =>
      rw [if_neg nofun]
      constructor
      · exact invariant.ledger
      · exact fun live => live.elim
      · rintro other (at_hand | at_hand) <;> contradiction
      · intro other at_hand
        contradiction
      · exact fun live => live.elim
      · intro calls leaving call member
        injection leaving with same
        rw [same]
        exact member
      · intro other member target names
        rcases List.mem_append.mp member with old | new
        · exact invariant.discarded other old target names
        · rw [List.mem_singleton] at new
          rw [new] at names ⊢
          obtain ⟨item, taken, seq, same⟩ :=
            invariant.held payload (Or.inl about)
          refine ⟨invariant.above payload about target, ?_⟩
          rw [← seq]
          exact invariant.ledger.queued item.payload
            (invariant.ledger.accepted_of_taken taken) target
            ((same target).mp names)

theorem DrainInvariant.drain (invariant : DrainInvariant device) :
    DrainInvariant (device.step .drain) := by
  simp only [ReplayWorld.step]
  split
  case h_2 => exact invariant
  rename_i about
  have publishes : Publishes device.base (device.base.step .drainRemaining) :=
    publishes_nothing invariant.ledger.queuedBelow rfl rfl le_rfl
  constructor
  · exact invariant.ledger.step queueStep_drain publishes
  · intro live
    change device.worker.Live at live
    rw [about] at live
    exact live.elim
  · intro payload at_hand
    change device.worker = _ ∨ device.worker = _ at at_hand
    rw [about] at at_hand
    rcases at_hand with at_hand | at_hand <;> contradiction
  · intro payload at_hand
    change device.worker = _ at at_hand
    rw [about] at at_hand
    contradiction
  · intro live
    change device.worker.Live at live
    rw [about] at live
    exact live.elim
  · exact invariant.closing
  · intro payload member target names
    rcases List.mem_append.mp member with old | new
    · exact invariant.discarded payload old target names
    · obtain ⟨item, drained, rfl⟩ := List.mem_map.mp new
      obtain ⟨queued, there⟩ := List.mem_filter.mp drained
      rw [Bool.not_eq_true'] at there
      have accepted := invariant.ledger.accepted_of_queued queued there
      have number := ordinal_of_there there
        (invariant.ledger.positive _ accepted) device.base.issued
      exact ⟨invariant.ledger.waiting item queued _ number target,
        invariant.ledger.queued _ accepted target names⟩

variable {payload : ReplayQueuePayload}

theorem nextSeq_replayed {call : LedgerCall}
    (publishes : payload.replayed = some call) (ledger : ReplayDrainLedger) :
    (ledger.perform call).nextSeq = ledger.nextSeq := by
  cases payload with
  | placeholder id => contradiction
  | stateBlockApply task => contradiction
  | mutation task =>
      obtain rfl := Option.some.inj publishes
      exact nextSeq_publishMutationReplayed task
  | chunk raw =>
      obtain rfl := Option.some.inj publishes
      exact nextSeq_publishReplayed raw

/-- Publishing as replayed raises the targets that are named, and no other
number. -/
theorem replayed_cases {call : LedgerCall}
    (publishes : payload.replayed = some call) (target : TargetId) :
    (world.step (.ledger call)).queuedSeq target = world.queuedSeq target ∧
      ((world.step (.ledger call)).replayedSeq target =
          world.replayedSeq target ∨
        payload.Names target ∧
          (world.step (.ledger call)).replayedSeq target =
            max (world.replayedSeq target) payload.seq) := by
  classical
  have changed := targets_replayed publishes world.ledger target
  change ((world.ledger.perform call).targets target).lastQueuedSeq =
      (world.ledger.targets target).lastQueuedSeq ∧
    (((world.ledger.perform call).targets target).lastReplayedSeq =
        (world.ledger.targets target).lastReplayedSeq ∨
      payload.Names target ∧
        ((world.ledger.perform call).targets target).lastReplayedSeq =
          max (world.ledger.targets target).lastReplayedSeq payload.seq)
  rw [changed]
  split
  · rename_i names
    exact ⟨rfl, Or.inr ⟨names, rfl⟩⟩
  · exact ⟨rfl, Or.inl rfl⟩

/-- What is applied may be published: all that is accepted and still to be
applied waits behind it. -/
theorem DrainInvariant.ledger_publish (invariant : DrainInvariant device) (about : device.worker = .applied payload)
    {call : LedgerCall} (publishes : payload.replayed = some call) :
    LedgerInvariant (device.base.step (.ledger call)) device.applied := by
  obtain ⟨item, taken, seq, _⟩ := invariant.held payload (Or.inr about)
  have numbers := nextSeq_replayed publishes device.base.ledger
  have drawn : payload.seq < device.base.ledger.nextSeq := by
    rw [← seq]
    exact invariant.ledger.queue.numbered.below item
      (List.mem_append_left _ taken) _
      (invariant.ledger.ordinal_of_taken taken)
  constructor
  · exact invariant.ledger.queue.step (queueStep_ledger call)
  · intro target
    have same := (@replayed_cases device.base _ _ publishes target).1
    change (device.base.step (.ledger call)).queuedSeq target < _
    rw [same]
    exact (invariant.ledger.queuedBelow target).trans_eq numbers.symm
  · intro target
    change _ < (device.base.ledger.perform call).nextSeq
    rw [numbers]
    rcases (@replayed_cases device.base _ _ publishes target).2 with same |
      ⟨_, raised⟩
    · rw [same]
      exact invariant.ledger.replayedBelow target
    · rw [raised]
      exact max_lt (invariant.ledger.replayedBelow target) drawn
  · exact invariant.ledger.positive
  · intro other member target names
    rw [(@replayed_cases device.base _ _ publishes target).1]
    exact invariant.ledger.queued other member target names
  · intro place queued value number target
    have before := invariant.ledger.waiting place queued value number target
    rcases (@replayed_cases device.base _ _ publishes target).2 with same |
      ⟨_, raised⟩
    · rw [same]
      exact before
    · rw [raised]
      apply max_lt before
      rw [← seq]
      exact invariant.ledger.taken_lt taken queued number
  · intro other member target names
    rcases invariant.ledger.unreplayed other member target names with done |
      before
    · exact Or.inl done
    · rcases (@replayed_cases device.base _ _ publishes target).2 with same |
        ⟨_, raised⟩
      · rw [same]
        exact Or.inr before
      · rcases invariant.ledger.place_of_accepted member with
          ⟨old, found, rfl⟩ | ⟨place, queued, _, number⟩
        · rcases invariant.live (by rw [about]; trivial) old found with
            done | ⟨_, popped, _⟩
          · exact Or.inl done
          · rw [about] at popped
            contradiction
        · right
          rw [raised]
          apply max_lt before
          rw [← seq]
          exact invariant.ledger.taken_lt taken queued number

theorem DrainInvariant.publish (invariant : DrainInvariant device) :
    DrainInvariant (device.step .publish) := by
  simp only [ReplayWorld.step]
  split
  case h_2 => exact invariant
  rename_i payload about
  have alive : device.worker.Live := by
    rw [about]
    trivial
  have all : ∀ item ∈ device.base.taken,
      item.payload.seq ∈ device.applied := by
    intro item taken
    rcases invariant.live alive item taken with done | ⟨_, popped, _⟩
    · exact done
    · rw [about] at popped
      contradiction
  unfold ReplayWorld.workerPublish
  split
  · constructor
    · exact invariant.ledger
    · exact fun _ item taken => Or.inl (all item taken)
    · rintro other (at_hand | at_hand) <;> contradiction
    · intro other at_hand
      contradiction
    · exact fun _ => invariant.kept alive
    · intro calls leaving
      contradiction
    · exact invariant.discarded
  · rename_i call publishes
    constructor
    · exact invariant.ledger_publish about publishes
    · exact fun _ item taken => Or.inl (all item taken)
    · rintro other (at_hand | at_hand) <;> contradiction
    · intro other at_hand
      contradiction
    · exact fun _ => invariant.kept alive
    · intro calls leaving
      contradiction
    · intro other member
      change other ∈ device.discarded at member
      rw [invariant.kept alive] at member
      exact absurd member List.not_mem_nil

theorem DrainInvariant.step (invariant : DrainInvariant device)
    (call : ReplayCall) : DrainInvariant (device.step call) := by
  cases call with
  | producer call => exact invariant.producer call
  | pop => exact invariant.pop
  | apply succeeds => exact invariant.apply succeeds
  | publish => exact invariant.publish
  | markDone => exact invariant.markDone
  | close => exact invariant.close
  | drain => exact invariant.drain

theorem runReplay_invariant (maxChunks maxBytes : UInt64)
    (calls : List ReplayCall) :
    DrainInvariant (runReplay maxChunks maxBytes calls) :=
  run_invariant (fun _ call invariant => invariant.step call)
    (drainInvariant_initial maxChunks maxBytes) calls

end Dxmt9.ReplayOffload
