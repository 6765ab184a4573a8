import Dxmt9.Queue.ReservedLine
import Dxmt9.ReplayOffload.OffloadQueue

/-!
# Changes of the replay offload queue

Each call on the queue is one of a few changes of its line of items, with the
charge that goes with it.
-/

namespace Dxmt9.ReplayOffload

open Dxmt9.Queue

namespace ReplayQueueItem

/-- The number of an item; a place holder has that of its reservation, and an
item that was pushed past the ledger has none. -/
def ordinal (issued : Nat → Option Nat) (item : ReplayQueueItem) :
    Option Nat :=
  match item.payload with
  | .placeholder id => issued id
  | .mutation task => some task.replaySeq
  | .stateBlockApply task =>
      if task.replaySeq = 0 then none else some task.replaySeq
  | .chunk chunk => if chunk.replaySeq = 0 then none else some chunk.replaySeq

variable {item : ReplayQueueItem}

theorem exists_of_placeholder
    (empty : item.placeholder = true) :
    item.payload = .placeholder item.reservationId := by
  unfold placeholder at empty
  unfold reservationId
  split at empty
  · rename_i id payload
    rw [payload]
  · contradiction

theorem placeholder_of_reservationId {id : Nat}
    (named : item.reservationId = id) (valid : id ≠ 0) :
    item.placeholder = true := by
  unfold reservationId at named
  unfold placeholder
  split at named
  · rfl
  · exact absurd named.symm valid

end ReplayQueueItem

/-- There is room for a charge. -/
def ReplayOffloadQueue.Room (queue : ReplayOffloadQueue) (bytes : UInt64) :
    Prop :=
  bytes = 0 ∨ queue.queue = [] ∨ queue.queuedBytes + bytes ≤ queue.maxBytes

/-- A change of the queue: what joins its line, and what is handed out. -/
inductive QueueChange (number : ReplayQueueItem → Option Nat)
    (low high : Nat) (queue next : ReplayOffloadQueue) :
    List ReplayQueueItem → List ReplayQueueItem → Prop where
  | keep (items : next.queue = queue.queue)
      (bytes : next.queuedBytes = queue.queuedBytes) :
      QueueChange number low high queue next [] []
  | join (item : ReplayQueueItem) (there : item.placeholder = false)
      (fresh : Line.NumberedIn number low high item)
      (room : queue.Room item.chargedBytes)
      (items : next.queue = queue.queue ++ [item])
      (bytes : next.queuedBytes = queue.queuedBytes + item.chargedBytes) :
      QueueChange number low high queue next [item] []
  | reserve (place : ReplayQueueItem) (empty : place.placeholder = true)
      (fresh : Line.NumberedIn number low high place)
      (room : queue.Room place.chargedBytes)
      (items : next.queue = queue.queue ++ [place])
      (bytes : next.queuedBytes = queue.queuedBytes + place.chargedBytes) :
      QueueChange number low high queue next [] []
  | fill (front back : List ReplayQueueItem) (place item : ReplayQueueItem)
      (empty : place.placeholder = true) (there : item.placeholder = false)
      (same : number item = number place)
      (charge : item.chargedBytes = place.chargedBytes)
      (before : queue.queue = front ++ place :: back)
      (items : next.queue = front ++ item :: back)
      (bytes : next.queuedBytes = queue.queuedBytes) :
      QueueChange number low high queue next [item] []
  | giveUp (front back : List ReplayQueueItem) (place : ReplayQueueItem)
      (empty : place.placeholder = true)
      (before : queue.queue = front ++ place :: back)
      (items : next.queue = front ++ back)
      (bytes : next.queuedBytes = queue.queuedBytes - place.chargedBytes) :
      QueueChange number low high queue next [] []
  | hand (back : List ReplayQueueItem) (item : ReplayQueueItem)
      (there : item.placeholder = false)
      (before : queue.queue = item :: back)
      (items : next.queue = back)
      (bytes : next.queuedBytes = queue.queuedBytes - item.chargedBytes) :
      QueueChange number low high queue next [] [item]
  | drain (items : next.queue = []) (bytes : next.queuedBytes = 0) :
      QueueChange number low high queue next []
        (queue.queue.filter fun item => !item.placeholder)

variable {number : ReplayQueueItem → Option Nat} {low high : Nat}
  {queue next : ReplayOffloadQueue} {joined handed : List ReplayQueueItem}

theorem QueueChange.moves
    (change : QueueChange number low high queue next joined handed)
    (taken : List ReplayQueueItem) :
    Line.Moves ReplayQueueItem.placeholder number low high
      ⟨taken, queue.queue⟩ joined ⟨taken ++ handed, next.queue⟩ := by
  cases change with
  | keep items bytes =>
      rw [items, List.append_nil]
      exact .keep _
  | join item there fresh room items bytes =>
      rw [items, List.append_nil]
      exact .join _ _ item there fresh
  | reserve place empty fresh room items bytes =>
      rw [items, List.append_nil]
      exact .reserve _ _ place empty fresh
  | fill front back place item empty there same charge before items bytes =>
      rw [before, items, List.append_nil]
      exact .fill _ front back place item empty there same
  | giveUp front back place empty before items bytes =>
      rw [before, items, List.append_nil]
      exact .giveUp _ front back place empty
  | hand back item there before items bytes =>
      rw [before, items]
      exact .hand _ back item there
  | drain items bytes =>
      rw [items]
      exact .drain _ _

/-! ## Charges -/

/-- What the items of a queue are charged together. -/
def chargedBytes (items : List ReplayQueueItem) : Nat :=
  (items.map fun item => item.chargedBytes.toNat).sum

@[simp] theorem chargedBytes_nil : chargedBytes [] = 0 := rfl

@[simp] theorem chargedBytes_cons (item : ReplayQueueItem)
    (rest : List ReplayQueueItem) :
    chargedBytes (item :: rest) =
      item.chargedBytes.toNat + chargedBytes rest := rfl

@[simp] theorem chargedBytes_append (front back : List ReplayQueueItem) :
    chargedBytes (front ++ back) = chargedBytes front + chargedBytes back := by
  unfold chargedBytes
  rw [List.map_append, List.sum_append]

/-- Half of the numbers of the machine: no object is larger. -/
def kHalfSize : Nat := 2 ^ 63

/-- The counter is the sum of the charges, which are those of objects. -/
structure Accounted (queue : ReplayOffloadQueue) : Prop where
  total : queue.queuedBytes.toNat = chargedBytes queue.queue
  half : queue.queuedBytes.toNat ≤ kHalfSize

variable {bytes : UInt64}

section

variable (accounted : Accounted queue)
include accounted

/-- A charge for which there is room does not overflow the counter. -/
theorem Accounted.add
    (bounded : queue.maxBytes.toNat ≤ kHalfSize)
    (object : bytes.toNat < kHalfSize) (room : queue.Room bytes) :
    (queue.queuedBytes + bytes).toNat = queue.queuedBytes.toNat + bytes.toNat ∧
      (queue.queuedBytes + bytes).toNat ≤ kHalfSize := by
  have half := accounted.half
  have exact : (queue.queuedBytes + bytes).toNat =
      queue.queuedBytes.toNat + bytes.toNat := by
    rw [UInt64.toNat_add]
    apply Nat.mod_eq_of_lt
    unfold kHalfSize at *
    omega
  refine ⟨exact, ?_⟩
  rcases room with rfl | empty | fits
  · rw [exact]
    exact half
  · have none := accounted.total
    rw [empty, chargedBytes_nil] at none
    rw [exact, none, Nat.zero_add]
    exact object.le
  · exact (UInt64.le_iff_toNat_le.mp fits).trans bounded

theorem Accounted.sub
    {rest : Nat} (part : chargedBytes queue.queue = bytes.toNat + rest) :
    (queue.queuedBytes - bytes).toNat = rest := by
  have total := accounted.total
  have held : bytes ≤ queue.queuedBytes := by
    rw [UInt64.le_iff_toNat_le]
    omega
  rw [UInt64.toNat_sub_of_le _ _ held]
  omega

theorem Accounted.of_part {items : List ReplayQueueItem}
    (part : chargedBytes queue.queue = bytes.toNat + chargedBytes items)
    (left : next.queue = items)
    (counted : next.queuedBytes = queue.queuedBytes - bytes) :
    Accounted next := by
  have rest := accounted.sub part
  have total := accounted.total
  have half := accounted.half
  constructor
  · rw [counted, left, rest]
  · rw [counted, rest]
    omega

end

/-- The charges of a change: none that is added is larger than an object. -/
theorem QueueChange.accounted
    (change : QueueChange number low high queue next joined handed)
    (bounded : queue.maxBytes.toNat ≤ kHalfSize)
    (objects : ∀ item ∈ next.queue, item.chargedBytes.toNat < kHalfSize)
    (accounted : Accounted queue) : Accounted next := by
  cases change with
  | keep items bytes =>
      exact ⟨by rw [items, bytes]; exact accounted.total,
        by rw [bytes]; exact accounted.half⟩
  | join item there fresh room items bytes =>
      have object := objects item (by rw [items]; simp)
      obtain ⟨exact, half⟩ := accounted.add bounded object room
      constructor
      · rw [bytes, items, exact, accounted.total]
        simp
      · rw [bytes]
        exact half
  | reserve place empty fresh room items bytes =>
      have object := objects place (by rw [items]; simp)
      obtain ⟨exact, half⟩ := accounted.add bounded object room
      constructor
      · rw [bytes, items, exact, accounted.total]
        simp
      · rw [bytes]
        exact half
  | fill front back place item empty there same charge before items bytes =>
      constructor
      · rw [bytes, items, accounted.total, before]
        simp [charge]
      · rw [bytes]
        exact accounted.half
  | giveUp front back place empty before items bytes =>
      apply accounted.of_part _ items bytes
      rw [before]
      simp only [chargedBytes_append, chargedBytes_cons]
      omega
  | hand back item there before items bytes =>
      apply accounted.of_part _ items bytes
      rw [before]
      rfl
  | drain items bytes =>
      constructor
      · rw [bytes, items]
        rfl
      · rw [bytes]
        exact Nat.zero_le _

end Dxmt9.ReplayOffload
