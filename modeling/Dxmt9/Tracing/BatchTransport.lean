import Dxmt9.Transition.Run
import Mathlib.Logic.Function.Basic

/-!
# The transport of trace batches

Producers fill blocks of one storage, a consumer empties them, and the state
word of a block says who may touch it.  Every atomic operation of a party is a
step of its own; what a party reads and writes between two of them goes with
the earlier one, and a record is copied in a step of its own.
-/

namespace Dxmt9.Tracing

open Dxmt9.Transition Function

/-- What `configure` accepts; no product of these numbers leaves 32 bits. -/
structure Configuration where
  maxProducers : Nat
  events : UInt32
  threshold : UInt32
  generation : UInt64
  positive : threshold ≠ 0
  roomy : 4 * threshold.toNat ≤ events.toNat

/-- The check of `configure`. -/
def configure (maxProducers : Nat) (events threshold : UInt32)
    (generation : UInt64) : Option Configuration :=
  if accepted : threshold ≠ 0 ∧ 4 * threshold.toNat ≤ events.toNat then
    some { maxProducers, events, threshold, generation
           positive := accepted.1, roomy := accepted.2 }
  else none

namespace Configuration

def producers (transport : Configuration) : Nat :=
  min transport.maxProducers
    (transport.events.toNat / (4 * transport.threshold.toNat))

def slots (transport : Configuration) : Nat :=
  transport.producers * 2 + 2

/-- The records of a block: two blocks a producer, two for reports. -/
def capacity (transport : Configuration) (block : Nat) : UInt32 :=
  if block < transport.producers * 2 then transport.threshold
  else .ofNat ((transport.events.toNat -
    transport.producers * 2 * transport.threshold.toNat) / 2)

/-- Where the records of a block begin in the storage. -/
def offset (transport : Configuration) : Nat → Nat
  | 0 => 0
  | block + 1 => transport.offset block + (transport.capacity block).toNat

end Configuration

inductive BlockState
  | free | producerOwned | published | consumerOwned
deriving DecidableEq

structure Block where
  state : BlockState := .free
  count : UInt32 := 0
  sequence : UInt64 := 0

structure Producer where
  current : Option Nat := none
  servicedEpoch : UInt64 := 0

/-- The arguments of an append.  What `prepare` makes of a record may depend
on the call, so it is told the place of the record. -/
structure AppendCall (Record : Type) where
  producer : Nat
  records : List Record
  report : Bool
  generation : UInt64
  prepare : Nat → Record → Record
  included : Record → Bool

variable {Record : Type}

namespace AppendCall

/-- The 32-bit count of the records to deliver. -/
def accepted (call : AppendCall Record) : UInt32 :=
  .ofNat (call.records.countP call.included)

/-- What a batch writes for its first records. -/
def written (call : AppendCall Record) : Nat → List Record
  | 0 => []
  | done + 1 =>
      call.written done ++
        match call.records[done]? with
        | some record =>
            if call.included record then [call.prepare done record] else []
        | none => []

/-- All that a batch has to deliver. -/
def prepared (call : AppendCall Record) : List Record :=
  call.written call.records.length

end AppendCall

/-! ## Parties -/

/-- What follows the publication of a block. -/
inductive Next (Record : Type)
  | fit (epoch : UInt64) (call : AppendCall Record)
  | claim (call : AppendCall Record)
  | done (call : AppendCall Record)
  | close (index : Nat)

/-- The producer that lets go of its block when it is published. -/
def Next.owner : Next Record → Option Nat
  | .fit _ call | .claim call => some call.producer
  | .done call => if call.report then none else some call.producer
  | .close index => some index

/-- The operation that a party is about to make. -/
inductive Position (Record : Type)
  | idle
  | load (call : AppendCall Record)
  | claim (call : AppendCall Record) (index : Nat)
  | write (call : AppendCall Record) (block done : Nat)
  | fetch (block : Nat) (next : Next Record)
  | store (block : Nat) (next : Next Record)
  | close (index : Nat)
  | closed

inductive Agent
  | thread (index : Nat)
  | controller
deriving DecidableEq

/-- Where a drain is; a final one began after the partial blocks were
closed. -/
inductive Consumer
  | idle
  | scan (index : Nat) (final : Bool)
  | own (index : Nat) (final : Bool)
deriving DecidableEq

/-- A block as the consumer is given it. -/
structure Delivery (Record : Type) where
  block : Nat
  records : List Record
  generation : UInt64
  sequence : UInt64

structure State (Record : Type) where
  blocks : Nat → Block
  storage : Nat → Record
  producer : Nat → Producer
  epoch : UInt64
  sequence : UInt64
  position : Agent → Position Record
  consumer : Consumer
  /-- The appends that have returned, with their answers. -/
  returned : List (AppendCall Record × Bool)
  delivered : List (Delivery Record)
  /-- A final drain has ended. -/
  drained : Bool

/-- The state that `configure` leaves. -/
def State.initial [Inhabited Record] : State Record where
  blocks _ := {}
  storage _ := default
  producer _ := {}
  epoch := 0
  sequence := 0
  position _ := .idle
  consumer := .idle
  returned := []
  delivered := []
  drained := false

namespace State

variable (transport : Configuration)

def goto (state : State Record) (agent : Agent)
    (position : Position Record) : State Record :=
  { state with position := update state.position agent position }

def answer (state : State Record) (agent : Agent)
    (call : AppendCall Record) (result : Bool) : State Record :=
  { state.goto agent .idle with
    returned := state.returned ++ [(call, result)] }

def setBlock (state : State Record) (block : Nat) (value : Block) :
    State Record :=
  { state with blocks := update state.blocks block value }

def setCurrent (state : State Record) (producer : Nat)
    (current : Option Nat) : State Record :=
  { state with
    producer := update state.producer producer
      { state.producer producer with current } }

def serve (state : State Record) (producer : Nat) (epoch : UInt64) :
    State Record :=
  { state with
    producer := update state.producer producer
      { state.producer producer with servicedEpoch := epoch } }

/-- The producer keeps no block. -/
def clear (state : State Record) : Option Nat → State Record
  | some producer => state.setCurrent producer none
  | none => state

/-! ## Appending -/

/-- The checks before an append touches what others see. -/
def begin (state : State Record) (agent : Agent)
    (call : AppendCall Record) : State Record :=
  if call.accepted = 0 then state.answer agent call true
  else if call.generation ≠ transport.generation ∨
      transport.producers ≤ call.producer ∨ call.records = [] then
    state.answer agent call false
  else if call.report then
    state.goto agent (.claim call (transport.producers * 2))
  else state.goto agent (.load call)

/-- From the served epoch on: the batch goes into the block that is kept, or
that block is published, or another one is claimed. -/
def fit (state : State Record) (agent : Agent) (epoch : UInt64)
    (call : AppendCall Record) : State Record :=
  let served := state.serve call.producer epoch
  if call.accepted > transport.capacity (call.producer * 2) then
    served.answer agent call false
  else
    match (state.producer call.producer).current with
    | none => served.goto agent (.claim call (call.producer * 2))
    | some block =>
        if call.accepted >
            transport.capacity block - (state.blocks block).count then
          served.goto agent (.fetch block (.claim call))
        else served.goto agent (.write call block 0)

def load (state : State Record) (agent : Agent)
    (call : AppendCall Record) : State Record :=
  match (state.producer call.producer).current with
  | none => state.fit transport agent state.epoch call
  | some block =>
      if (state.producer call.producer).servicedEpoch ≠ state.epoch then
        state.goto agent (.fetch block (.fit state.epoch call))
      else state.fit transport agent state.epoch call

/-- The loop over blocks ends here. -/
def claimEnd (call : AppendCall Record) : Nat :=
  if call.report then transport.slots else call.producer * 2 + 2

/-- A free block, now empty, is the party's. -/
def acquire (state : State Record) (call : AppendCall Record)
    (index : Nat) : State Record :=
  let owned := state.setBlock index
    { state.blocks index with state := .producerOwned, count := 0 }
  if call.report then owned else owned.setCurrent call.producer (some index)

/-- One exchange of the loop over the blocks of a producer or of reports. -/
def claim (state : State Record) (agent : Agent)
    (call : AppendCall Record) (index : Nat) : State Record :=
  if claimEnd transport call ≤ index then state.answer agent call false
  else if call.report ∧ call.accepted > transport.capacity index then
    state.goto agent (.claim call (index + 1))
  else if (state.blocks index).state = .free then
    (state.acquire call index).goto agent (.write call index 0)
  else state.goto agent (.claim call (index + 1))

/-- A record behind those that a block has. -/
def put (state : State Record) (block : Nat) (record : Record) :
    State Record :=
  let value := state.blocks block
  { state.setBlock block { value with count := value.count + 1 } with
    storage := update state.storage
      (transport.offset block + value.count.toNat) record }

/-- One record of the copying loop, or its end. -/
def write (state : State Record) (agent : Agent)
    (call : AppendCall Record) (block done : Nat) : State Record :=
  match call.records[done]? with
  | some record =>
      let copied := if call.included record then
          state.put transport block (call.prepare done record)
        else state
      copied.goto agent (.write call block (done + 1))
  | none =>
      if call.report ∨
          (state.blocks block).count = transport.capacity block then
        state.goto agent (.fetch block (.done call))
      else state.answer agent call true

def fetch (state : State Record) (agent : Agent) (block : Nat)
    (next : Next Record) : State Record :=
  let sequence := state.sequence + 1
  { (state.setBlock block { state.blocks block with sequence }).goto agent
      (.store block next) with sequence }

/-- The block is ready for the consumer, and its producer keeps none. -/
def letGo (state : State Record) (block : Nat) (owner : Option Nat) :
    State Record :=
  (state.setBlock block
    { state.blocks block with state := .published }).clear owner

def store (state : State Record) (agent : Agent) (block : Nat)
    (next : Next Record) : State Record :=
  let published := state.letGo block next.owner
  match next with
  | .fit epoch call => published.fit transport agent epoch call
  | .claim call => published.goto agent (.claim call (call.producer * 2))
  | .done call => published.answer agent call true
  | .close index => published.goto agent (.close (index + 1))

/-- The next producer of the loop that closes the partial blocks. -/
def close (state : State Record) (agent : Agent) (index : Nat) :
    State Record :=
  if transport.producers ≤ index then state.goto agent .closed
  else
    match (state.producer index).current with
    | none => state.goto agent (.close (index + 1))
    | some block => state.goto agent (.fetch block (.close index))

/-- A party makes the operation that it is about to make. -/
def advance (state : State Record) (agent : Agent) : State Record :=
  match state.position agent with
  | .idle | .closed => state
  | .load call => state.load transport agent call
  | .claim call index => state.claim transport agent call index
  | .write call block done => state.write transport agent call block done
  | .fetch block next => state.fetch agent block next
  | .store block next => state.store transport agent block next
  | .close index => state.close transport agent index

/-- The initialized records of a block. -/
def view (state : State Record) (block : Nat) : List Record :=
  (List.range (state.blocks block).count.toNat).map fun index =>
    state.storage (transport.offset block + index)

def delivery (state : State Record) (block : Nat) : Delivery Record where
  block := block
  records := state.view transport block
  generation := transport.generation
  sequence := (state.blocks block).sequence

def drain (state : State Record) : State Record :=
  match state.consumer with
  | .idle =>
      let final := match state.position .controller with
        | .closed => true
        | _ => false
      { state with consumer := .scan 0 final }
  | .scan index final =>
      if transport.slots ≤ index then
        { state with consumer := .idle, drained := state.drained || final }
      else if (state.blocks index).state = .published then
        { state.setBlock index
            { state.blocks index with state := .consumerOwned } with
          consumer := .own index final }
      else { state with consumer := .scan (index + 1) final }
  | .own index final =>
      { state.setBlock index { state.blocks index with state := .free } with
        consumer := .scan (index + 1) final
        delivered := state.delivered ++ [state.delivery transport index] }

end State

inductive Action (Record : Type)
  | call (thread : Nat) (call : AppendCall Record)
  | advance (agent : Agent)
  | requestPartials
  | closePartials
  | drain

/-- One step of one party. -/
def State.step (transport : Configuration) (state : State Record) :
    Action Record → State Record
  | .call thread call =>
      match state.position (.thread thread) with
      | .idle => state.begin transport (.thread thread) call
      | _ => state
  | .advance agent => state.advance transport agent
  | .requestPartials => { state with epoch := state.epoch + 1 }
  | .closePartials =>
      match state.position .controller with
      | .idle => state.goto .controller (.close 0)
      | _ => state
  | .drain => state.drain transport

/-- How the transport is used: a thread appends under its own index, where
reports go by any; the partial blocks are closed when all writers have
finished, and no append begins after that. -/
def Disciplined (state : State Record) : Action Record → Prop
  | .call thread call =>
      (call.report = true ∨ call.producer = thread) ∧
        state.position .controller = .idle
  | .closePartials => ∀ thread, state.position (.thread thread) = .idle
  | _ => True

/-- No count wraps: neither that of a batch nor the sequence of blocks. -/
def Counts (state : State Record) : Action Record → Prop
  | .call _ call => call.records.countP call.included < 2 ^ 32
  | .advance _ => state.sequence.toNat + 1 < 2 ^ 64
  | _ => True

/-- The state that a schedule reaches. -/
def reach [Inhabited Record] (transport : Configuration)
    (schedule : List (Action Record)) : State Record :=
  run (State.step transport) State.initial schedule

end Dxmt9.Tracing
