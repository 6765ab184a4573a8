import Dxmt9.Tracing.BatchTransport
import Mathlib.Tactic.Ring

/-!
# Who holds a block

A block is free, or kept by its producer between two appends, or in the hands
of one party, or sealed for the consumer.  The phases of the blocks say so,
with the batches that a block holds, and every step changes the phase of at
most one block.
-/

namespace Dxmt9.Tracing

open Dxmt9.Transition Function

/-! ## The slices of the storage -/

namespace Configuration

variable {transport : Configuration}

/-- The blocks of the producers take at most half of the storage. -/
theorem producers_storage :
    transport.producers * 2 * transport.threshold.toNat * 2 ≤
      transport.events.toNat := by
  have few : transport.producers ≤
      transport.events.toNat / (4 * transport.threshold.toNat) :=
    Nat.min_le_right _ _
  calc transport.producers * 2 * transport.threshold.toNat * 2
      = transport.producers * (4 * transport.threshold.toNat) := by ring
    _ ≤ transport.events.toNat / (4 * transport.threshold.toNat) *
          (4 * transport.threshold.toNat) := Nat.mul_le_mul_right _ few
    _ ≤ transport.events.toNat := Nat.div_mul_le_self _ _

variable {block : Nat}

theorem capacity_producer
    (low : block < transport.producers * 2) :
    transport.capacity block = transport.threshold := if_pos low

theorem capacity_report
    (high : transport.producers * 2 ≤ block) :
    (transport.capacity block).toNat =
      (transport.events.toNat -
        transport.producers * 2 * transport.threshold.toNat) / 2 := by
  unfold capacity
  rw [if_neg (by omega), UInt32.toNat_ofNat']
  apply Nat.mod_eq_of_lt
  have := transport.events.toNat_lt
  omega

variable {other : Nat}

theorem offset_mono (before : block ≤ other) :
    transport.offset block ≤ transport.offset other := by
  induction other with
  | zero => rw [Nat.le_zero.mp before]
  | succ other induction =>
      rcases Nat.le_succ_iff.mp before with earlier | rfl
      · exact (induction earlier).trans (Nat.le_add_right _ _)
      · exact le_rfl

theorem offset_low (low : block ≤ transport.producers * 2) :
    transport.offset block = block * transport.threshold.toNat := by
  induction block with
  | zero => exact (Nat.zero_mul _).symm
  | succ block induction =>
      unfold offset
      rw [induction (by omega), capacity_producer (by omega), Nat.succ_mul]

/-- The blocks fit into the storage. -/
theorem offset_slots :
    transport.offset transport.slots ≤ transport.events.toNat := by
  have half := transport.producers_storage
  change transport.offset (transport.producers * 2) + _ + _ ≤ _
  rw [offset_low le_rfl, capacity_report le_rfl,
    capacity_report (Nat.le_succ _)]
  omega

/-- The slices of two blocks do not meet. -/
theorem offset_apart {index step : Nat}
    (differ : other ≠ block)
    (within : index < (transport.capacity block).toNat)
    (inside : step < (transport.capacity other).toNat) :
    transport.offset block + index ≠ transport.offset other + step := by
  rcases Nat.lt_or_gt_of_ne differ with before | after
  · have ends : transport.offset other + (transport.capacity other).toNat ≤
        transport.offset block := offset_mono before
    omega
  · have ends : transport.offset block + (transport.capacity block).toNat ≤
        transport.offset other := offset_mono after
    omega

/-- The producer whose block it is, or none for a block of reports. -/
def owner (transport : Configuration) (block : Nat) : Option Nat :=
  if block < transport.producers * 2 then some (block / 2) else none

theorem owner_eq_some {producer : Nat} :
    transport.owner block = some producer ↔
      block < transport.producers * 2 ∧ block / 2 = producer := by
  unfold owner
  split <;> simp_all

theorem owner_eq_none :
    transport.owner block = none ↔ transport.producers * 2 ≤ block := by
  unfold owner
  split <;> simp_all

end Configuration

variable {Record : Type} {transport : Configuration}

/-! ## Batches -/

namespace AppendCall

variable {call : AppendCall Record}

/-- The producer that a batch goes by, or none for a report. -/
def owner (call : AppendCall Record) : Option Nat :=
  if call.report then none else some call.producer

variable {done : Nat}

theorem length_written :
    (call.written done).length =
      (call.records.take done).countP call.included := by
  induction done with
  | zero => simp [written]
  | succ done induction =>
      unfold written
      rw [List.length_append, induction, List.take_add_one, List.countP_append]
      cases call.records[done]? with
      | none => rfl
      | some record =>
          cases chosen : call.included record <;> simp [chosen]

theorem length_prepared :
    call.prepared.length = call.records.countP call.included := by
  unfold prepared
  rw [length_written, List.take_length]

theorem length_written_le :
    (call.written done).length ≤ call.prepared.length := by
  rw [length_written, length_prepared]
  exact (List.take_sublist _ _).countP_le

theorem written_past (ended : call.records.length ≤ done) :
    call.written done = call.prepared := by
  unfold prepared
  induction done, ended using Nat.le_induction with
  | base => rfl
  | succ done ended induction =>
      have nothing : call.written (done + 1) = call.written done := by
        rw [written, List.getElem?_eq_none ended]
        exact List.append_nil _
      rw [nothing, induction]

/-- The call counts its records and is for a configured producer. -/
structure Ready (transport : Configuration) (call : AppendCall Record) :
    Prop where
  counted : call.records.countP call.included < 2 ^ 32
  some : call.accepted ≠ 0
  inside : call.producer < transport.producers

theorem toNat_accepted
    (counted : call.records.countP call.included < 2 ^ 32) :
    call.accepted.toNat = call.prepared.length := by
  unfold accepted
  rw [UInt32.toNat_ofNat', Nat.mod_eq_of_lt counted, length_prepared]

end AppendCall

/-- What batches put into a block one after another. -/
def flat (calls : List (AppendCall Record)) : List Record :=
  calls.flatMap AppendCall.prepared

variable {call : AppendCall Record}

theorem flat_snoc {calls : List (AppendCall Record)} :
    flat (calls ++ [call]) = flat calls ++ call.prepared := by
  unfold flat
  rw [List.flatMap_append, List.flatMap_singleton]

namespace Position

/-- The block in the hands of a party. -/
def held : Position Record → Option Nat
  | .write _ block _ | .fetch block _ | .store block _ => some block
  | _ => none

/-- What a party has written of a batch that has not returned. -/
def inflight : Position Record → List Record
  | .write call _ done => call.written done
  | .fetch _ (.done call) | .store _ (.done call) => call.prepared
  | _ => []

/-- The producers whose blocks have been closed. -/
def swept : Position Record → Nat → Prop
  | .close index, producer
  | .fetch _ (.close index), producer
  | .store _ (.close index), producer => producer < index
  | .closed, _ => True
  | _, _ => False

/-- The batch has room in the block. -/
def Fits (transport : Configuration) (calls : List (AppendCall Record)) :
    Position Record → Prop
  | .write call block _ =>
      (flat calls).length + call.prepared.length ≤
        (transport.capacity block).toNat
  | _ => True

end Position

/-- An append of a thread, under its own index where it is no report. -/
structure Runs (transport : Configuration) (agent : Agent)
    (call : AppendCall Record) : Prop where
  ready : call.Ready transport
  thread : agent ≠ .controller
  own : call.report = false → agent = .thread call.producer

/-- What a party does next is in order. -/
def Next.Valid (transport : Configuration) (agent : Agent) :
    Next Record → Prop
  | .fit _ call => Runs transport agent call ∧ call.report = false
  | .claim call =>
      Runs transport agent call ∧ call.report = false ∧
        call.accepted ≤ transport.capacity (call.producer * 2)
  | .done call => Runs transport agent call
  | .close _ => agent = .controller

/-- The operation that a party is about to make is in order. -/
def Position.Valid (transport : Configuration) (agent : Agent) :
    Position Record → Prop
  | .idle => True
  | .load call => Runs transport agent call ∧ call.report = false
  | .claim call index =>
      Runs transport agent call ∧
        (call.report = true → transport.producers * 2 ≤ index) ∧
        (call.report = false → call.producer * 2 ≤ index ∧
          call.accepted ≤ transport.capacity (call.producer * 2))
  | .write call block done =>
      Runs transport agent call ∧ transport.owner block = call.owner ∧
        done ≤ call.records.length
  | .fetch block next | .store block next =>
      next.Valid transport agent ∧ next.owner = transport.owner block
  | .close _ | .closed => agent = .controller

/-! ## Phases -/

/-- What a block is to the parties, with the batches in it. -/
inductive Phase (Record : Type)
  | free
  | kept (calls : List (AppendCall Record))
  | busy (agent : Agent) (calls : List (AppendCall Record))
  | sealed (calls : List (AppendCall Record))

/-- The batches of a block. -/
def Phase.calls : Phase Record → List (AppendCall Record)
  | .free => []
  | .kept calls | .busy _ calls | .sealed calls => calls

variable {state next : State Record} {phase : Nat → Phase Record}

/-- The block that a producer keeps between its appends. -/
def State.current (state : State Record) (producer : Nat) : Option Nat :=
  (state.producer producer).current

/-- A block that its producer keeps or a party has in hand. -/
structure Open (transport : Configuration) (state : State Record)
    (block : Nat) (calls : List (AppendCall Record))
    (position : Position Record) : Prop where
  owned : (state.blocks block).state = .producerOwned
  current : ∀ producer, transport.owner block = some producer →
    state.current producer = some block
  records : state.view transport block = flat calls ++ position.inflight
  fits : position.Fits transport calls

/-- The phase describes the block. -/
def Phase.Describes (transport : Configuration) (state : State Record)
    (block : Nat) : Phase Record → Prop
  | .free => (state.blocks block).state = .free
  | .kept calls =>
      transport.owner block ≠ none ∧ Open transport state block calls .idle
  | .busy agent calls =>
      (state.position agent).held = some block ∧
        (transport.owner block = none → calls = []) ∧
        Open transport state block calls (state.position agent)
  | .sealed calls =>
      ((state.blocks block).state = .published ∨
        (state.blocks block).state = .consumerOwned) ∧
        state.view transport block = flat calls

/-- The producer of a batch that needs another block keeps none. -/
def Position.Claims (state : State Record) (position : Position Record) :
    Prop :=
  ∀ call index, position = .claim call index →
    call.report = false → state.current call.producer = none

/-- No producer that the controller has passed keeps a block. -/
def Position.Clears (state : State Record) (agent : Agent)
    (position : Position Record) : Prop :=
  agent = .controller → ∀ producer, position.swept producer →
    state.current producer = none

/-- The party may have a block of the producer in hand. -/
def Agent.Serves (agent : Agent) (producer : Nat) : Prop :=
  agent = .thread producer ∨ agent = .controller

/-- The phases describe a state in which every party does its part. -/
structure Owned (transport : Configuration) (state : State Record)
    (phase : Nat → Phase Record) : Prop where
  described : ∀ block < transport.slots,
    (phase block).Describes transport state block
  bounded : ∀ block < transport.slots,
    (state.blocks block).count.toNat ≤ (transport.capacity block).toNat
  held : ∀ agent block, (state.position agent).held = some block →
    block < transport.slots ∧ ∃ calls, phase block = .busy agent calls
  current : ∀ producer block, state.current producer = some block →
    transport.owner block = some producer ∧
      ((∃ calls, phase block = .kept calls) ∨
        ∃ agent calls, phase block = .busy agent calls)
  consumed : ∀ block final, state.consumer = .own block final →
    block < transport.slots ∧ (state.blocks block).state = .consumerOwned
  consumer : ∀ block < transport.slots,
    (state.blocks block).state = .consumerOwned →
      ∃ final, state.consumer = .own block final
  valid : ∀ agent, (state.position agent).Valid transport agent
  claims : ∀ agent, (state.position agent).Claims state
  quiet : state.position .controller ≠ .idle →
    ∀ thread, state.position (.thread thread) = .idle
  swept : (state.position .controller).Clears state .controller
  final : ∀ index, (state.consumer = .scan index true ∨
      state.consumer = .own index true) →
    state.position .controller = .closed ∧
      ∀ block < index, (state.blocks block).state = .free
  drained : state.drained = true →
    state.position .controller = .closed ∧
      ∀ block < transport.slots, (state.blocks block).state = .free

/-! ## One block changes hands -/

variable {block : Nat} {position : Position Record}

/-- A block that another state shows in the same way is as open there. -/
theorem Open.congr
    {other : Position Record}
    (opened : Open transport state block calls position)
    (blocks : next.blocks block = state.blocks block)
    (view : next.view transport block = state.view transport block)
    (current : ∀ producer, transport.owner block = some producer →
      next.current producer = some block)
    (same : other = position) : Open transport next block calls other where
  owned := by rw [blocks]; exact opened.owned
  current := current
  records := by rw [view, same]; exact opened.records
  fits := by rw [same]; exact opened.fits

/-- What a party does to one block: nothing else is touched. -/
structure Touches (transport : Configuration) (state next : State Record)
    (agent : Agent) (block : Nat) : Prop where
  blocks : ∀ other ≠ block, next.blocks other = state.blocks other
  views : ∀ other ≠ block, other < transport.slots →
    next.view transport other = state.view transport other
  positions : ∀ other ≠ agent, next.position other = state.position other
  consumer : next.consumer = state.consumer
  drained : next.drained = state.drained
  current : ∀ producer, transport.owner block ≠ some producer →
    next.current producer = state.current producer

/-- The block belongs to nobody else. -/
def Phase.MineFor (agent : Agent) : Phase Record → Prop
  | .free | .kept _ => True
  | .busy other _ => other = agent
  | .sealed _ => False

/-- The block is kept or in the hands of a party. -/
def Phase.Opened : Phase Record → Prop
  | .kept _ | .busy _ _ => True
  | _ => False

variable {value : Phase Record}

theorem Phase.Opened.cases (opened : value.Opened) :
    (∃ calls, value = .kept calls) ∨
      ∃ agent calls, value = .busy agent calls := by
  cases value with
  | kept calls => exact Or.inl ⟨calls, rfl⟩
  | busy agent calls => exact Or.inr ⟨agent, calls, rfl⟩
  | free => exact opened.elim
  | «sealed» calls => exact opened.elim

variable {agent : Agent}

/-- A block that is ready for the consumer or with it. -/
def State.Handed (state : State Record) (block : Nat) : Prop :=
  (state.blocks block).state = .published ∨
    (state.blocks block).state = .consumerOwned

theorem Owned.unhanded
    (owned : Owned transport state phase) (inside : block < transport.slots)
    (mine : (phase block).MineFor agent) : ¬state.Handed block := by
  intro handed
  have described := owned.described block inside
  cases known : phase block with
  | free =>
      rw [known] at described
      rcases handed with is | is <;> cases described.symm.trans is
  | kept calls =>
      rw [known] at described
      rcases handed with is | is <;> cases described.2.owned.symm.trans is
  | busy other calls =>
      rw [known] at described
      rcases handed with is | is <;> cases described.2.2.owned.symm.trans is
  | «sealed» calls =>
      rw [known] at mine
      exact mine

/-- The party may act: a thread until the partial blocks are being closed. -/
def State.Active (state : State Record) : Agent → Prop
  | .thread _ => state.position .controller = .idle
  | .controller => state.position .controller ≠ .idle ∧
      state.position .controller ≠ .closed

theorem State.Active.unclosed (active : state.Active agent) :
    state.position .controller ≠ .closed := by
  cases agent with
  | thread index =>
      intro closed
      rw [show state.position .controller = .idle from active] at closed
      cases closed
  | controller => exact active.2

/-- What one party does leaves the threads at rest once they are. -/
theorem Owned.stays_quiet
    (owned : Owned transport state phase) (active : state.Active agent)
    (positions : ∀ other ≠ agent, next.position other = state.position other)
    (moving : next.position .controller ≠ .idle) (thread : Nat) :
    next.position (.thread thread) = .idle := by
  cases agent with
  | thread index =>
      rw [positions .controller Agent.noConfusion] at moving
      exact absurd active moving
  | controller =>
      rw [positions _ Agent.noConfusion]
      exact owned.quiet active.1 thread

/-- A thread sweeps nothing, as the controller rests while it acts. -/
theorem State.Active.swept (active : state.Active agent)
    (positions : ∀ other ≠ agent, next.position other = state.position other)
    (clears : (next.position agent).Clears next agent) :
    (next.position .controller).Clears next .controller := by
  cases agent with
  | thread index =>
      intro _ producer swept
      rw [positions .controller Agent.noConfusion,
        show state.position .controller = .idle from active] at swept
      exact swept.elim
  | controller => exact clears

theorem Owned.exchange
    (owned : Owned transport state phase)
    (touches : Touches transport state next agent block)
    (inside : block < transport.slots) (active : state.Active agent)
    (mine : (phase block).MineFor agent)
    (before : ∀ other, (state.position agent).held = some other →
      other = block)
    (alone : ∀ producer, transport.owner block = some producer →
      state.current producer = none ∨ state.current producer = some block)
    (described : value.Describes transport next block)
    (unconsumed : (next.blocks block).state ≠ .consumerOwned)
    (bounded : (next.blocks block).count.toNat ≤
      (transport.capacity block).toNat)
    (held : ∀ other, (next.position agent).held = some other →
      other = block ∧ ∃ calls, value = .busy agent calls)
    (current : ∀ producer, transport.owner block = some producer →
      next.current producer = none ∨
        next.current producer = some block ∧ value.Opened)
    (valid : (next.position agent).Valid transport agent)
    (claims : (next.position agent).Claims next)
    (own : ∀ producer, transport.owner block = some producer →
      agent.Serves producer)
    (clears : (next.position agent).Clears next agent) :
    Owned transport next (update phase block value) where
  described other within := by
    by_cases same : other = block
    · rw [same, update_self]
      exact described
    rw [update_of_ne same]
    have known := owned.described other within
    have kept : ∀ producer, transport.owner other = some producer →
        state.current producer = some other →
        next.current producer = some other := by
      intro producer ours has
      by_cases theirs : transport.owner block = some producer
      · rcases alone producer theirs with empty | full
        · rw [empty] at has
          cases has
        · rw [full, Option.some.injEq] at has
          exact absurd has.symm same
      · rw [touches.current producer theirs]
        exact has
    cases is : phase other with
    | free =>
        rw [is] at known
        change (next.blocks other).state = _
        rw [touches.blocks other same]
        exact known
    | kept calls =>
        rw [is] at known
        exact ⟨known.1, known.2.congr (touches.blocks other same)
          (touches.views other same within)
          (fun producer ours =>
            kept producer ours (known.2.current producer ours)) rfl⟩
    | busy party calls =>
        rw [is] at known
        have else_ : party ≠ agent := by
          rintro rfl
          exact same (before other known.1)
        have stays := touches.positions party else_
        refine ⟨by rw [stays]; exact known.1, known.2.1, ?_⟩
        exact known.2.2.congr (touches.blocks other same)
          (touches.views other same within)
          (fun producer ours =>
            kept producer ours (known.2.2.current producer ours)) stays
    | «sealed» calls =>
        rw [is] at known
        change (_ ∨ _) ∧ _
        rw [touches.blocks other same, touches.views other same within]
        exact known
  bounded other within := by
    by_cases same : other = block
    · rw [same]
      exact bounded
    · rw [touches.blocks other same]
      exact owned.bounded other within
  held party other holds := by
    by_cases same : party = agent
    · subst same
      obtain ⟨rfl, calls, rfl⟩ := held other holds
      exact ⟨inside, calls, update_self ..⟩
    · rw [touches.positions party same] at holds
      obtain ⟨within, calls, busy⟩ := owned.held party other holds
      refine ⟨within, calls, ?_⟩
      rw [update_of_ne, busy]
      rintro rfl
      rw [busy] at mine
      exact same mine
  current producer other has := by
    by_cases ours : transport.owner block = some producer
    · rcases current producer ours with empty | ⟨full, opened⟩
      · rw [empty] at has
        cases has
      · rw [full, Option.some.injEq] at has
        subst has
        rw [update_self]
        exact ⟨ours, opened.cases⟩
    · rw [touches.current producer ours] at has
      obtain ⟨theirs, opened⟩ := owned.current producer other has
      have differ : other ≠ block := by
        rintro rfl
        exact ours theirs
      rw [update_of_ne differ]
      exact ⟨theirs, opened⟩
  consumed other final reading := by
    rw [touches.consumer] at reading
    obtain ⟨within, consumed⟩ := owned.consumed other final reading
    have differ : other ≠ block := by
      rintro rfl
      exact owned.unhanded within mine (Or.inr consumed)
    rw [touches.blocks other differ]
    exact ⟨within, consumed⟩
  consumer other within consumed := by
    have differ : other ≠ block := by
      rintro rfl
      exact unconsumed consumed
    rw [touches.blocks other differ] at consumed
    rw [touches.consumer]
    exact owned.consumer other within consumed
  valid party := by
    by_cases same : party = agent
    · rw [same]
      exact valid
    · rw [touches.positions party same]
      exact owned.valid party
  claims party call index at_ batch := by
    by_cases same : party = agent
    · subst same
      exact claims call index at_ batch
    rw [touches.positions party same] at at_
    have empty := owned.claims party call index at_ batch
    by_cases ours : transport.owner block = some call.producer
    · have valid := owned.valid party
      rw [at_] at valid
      have thread := valid.1.own batch
      rcases own call.producer ours with is | is
      · exact absurd (thread.trans is.symm) same
      · subst is
        rw [thread, owned.quiet active.1] at at_
        cases at_
    · rw [touches.current call.producer ours]
      exact empty
  quiet := owned.stays_quiet active touches.positions
  swept := active.swept touches.positions clears
  final index reading := by
    rw [touches.consumer] at reading
    exact absurd (owned.final index reading).1 active.unclosed
  drained done := by
    rw [touches.drained] at done
    exact absurd (owned.drained done).1 active.unclosed

/-! ## No block changes hands -/

/-- Parties move on with empty hands, and no producer's block changes. -/
structure Turns (transport : Configuration) (state next : State Record) :
    Prop where
  storage : next.storage = state.storage
  current : ∀ producer, next.current producer = state.current producer
  moved : ∀ party, next.position party = state.position party ∨
    (state.position party).held = none ∧
      (next.position party).held = none ∧
      (next.position party).Valid transport party
  claims : ∀ party, (next.position party).Claims next
  quiet : next.position .controller ≠ .idle →
    ∀ thread, next.position (.thread thread) = .idle
  swept : (next.position .controller).Clears next .controller

/-- Nobody moves. -/
theorem Owned.rests (owned : Owned transport state phase)
    (storage : next.storage = state.storage)
    (producer : next.producer = state.producer)
    (position : next.position = state.position) :
    Turns transport state next := by
  have current : next.current = state.current :=
    congrArg (fun kept index => (kept index).current) producer
  refine ⟨storage, congrFun current, fun party => Or.inl ?_, ?_, ?_, ?_⟩ <;>
    rw [position]
  · unfold Position.Claims
    rw [current]
    exact owned.claims
  · exact owned.quiet
  · unfold Position.Clears
    rw [current]
    exact owned.swept

theorem Turns.held (turns : Turns transport state next) :
    (next.position agent).held = some block ↔
      (state.position agent).held = some block := by
  rcases turns.moved agent with same | ⟨before, after, -⟩
  · rw [same]
  · rw [before, after]

/-- Records outside of the slice of a block leave its view alone. -/
theorem State.view_congr
    (count : (next.blocks block).count = (state.blocks block).count)
    (records : ∀ step < (state.blocks block).count.toNat,
      next.storage (transport.offset block + step) =
        state.storage (transport.offset block + step)) :
    next.view transport block = state.view transport block := by
  unfold State.view
  rw [count]
  exact List.map_congr_left fun step member =>
    records step (List.mem_range.mp member)

/-- The blocks are as full as they were, and as old. -/
def Tallies (state next : State Record) : Prop :=
  ∀ block, (next.blocks block).count = (state.blocks block).count ∧
    (next.blocks block).sequence = (state.blocks block).sequence

theorem Turns.view (turns : Turns transport state next)
    (tallies : Tallies state next) :
    next.view transport block = state.view transport block :=
  State.view_congr (tallies block).1 fun _ _ => by rw [turns.storage]

variable {other : Nat → Phase Record}

/-- Blocks change that nobody keeps or has in hand. -/
theorem Owned.turn (owned : Owned transport state phase)
    (turns : Turns transport state next) (tallies : Tallies state next)
    (opened : ∀ block, (phase block).Opened →
      other block = phase block ∧ next.blocks block = state.blocks block)
    (described : ∀ block < transport.slots, ¬(phase block).Opened →
      (other block).Describes transport next block)
    (consumed : ∀ block final, next.consumer = .own block final →
      block < transport.slots ∧ (next.blocks block).state = .consumerOwned)
    (consumer : ∀ block < transport.slots,
      (next.blocks block).state = .consumerOwned →
        ∃ final, next.consumer = .own block final)
    (final : ∀ index, (next.consumer = .scan index true ∨
        next.consumer = .own index true) →
      next.position .controller = .closed ∧
        ∀ block < index, (next.blocks block).state = .free)
    (drained : next.drained = true →
      next.position .controller = .closed ∧
        ∀ block < transport.slots, (next.blocks block).state = .free) :
    Owned transport next other where
  described block inside := by
    by_cases held : (phase block).Opened
    · obtain ⟨same, blocks⟩ := opened block held
      have known := owned.described block inside
      have keeps : ∀ {calls : List (AppendCall Record)} {position},
          Open transport state block calls position →
            Open transport next block calls position := fun opened =>
        opened.congr blocks (turns.view tallies)
          (fun producer ours => (turns.current producer).trans
            (opened.current producer ours)) rfl
      rw [same]
      rcases held.cases with ⟨calls, is⟩ | ⟨agent, calls, is⟩
      · rw [is] at known ⊢
        exact ⟨known.1, keeps known.2⟩
      · rw [is] at known ⊢
        refine ⟨turns.held.mpr known.1, known.2.1, ?_⟩
        rcases turns.moved agent with same | ⟨before, -, -⟩
        · rw [same]
          exact keeps known.2.2
        · rw [known.1] at before
          cases before
    · exact described block inside held
  bounded block inside := by
    rw [(tallies block).1]
    exact owned.bounded block inside
  held agent block holds := by
    obtain ⟨inside, calls, busy⟩ :=
      owned.held agent block (turns.held.mp holds)
    have same := (opened block (by rw [busy]; trivial)).1
    exact ⟨inside, calls, same.trans busy⟩
  current producer block has := by
    rw [turns.current] at has
    obtain ⟨own, kept⟩ := owned.current producer block has
    have same := (opened block (by
      rcases kept with ⟨calls, is⟩ | ⟨agent, calls, is⟩ <;>
        rw [is] <;> trivial)).1
    rw [same]
    exact ⟨own, kept⟩
  consumed := consumed
  consumer := consumer
  valid agent := by
    rcases turns.moved agent with same | ⟨-, -, valid⟩
    · rw [same]
      exact owned.valid agent
    · exact valid
  claims := turns.claims
  quiet := turns.quiet
  swept := turns.swept
  final := final
  drained := drained

theorem Phase.Describes.congr
    (described : value.Describes transport state block)
    (closed : ¬value.Opened)
    (word : (next.blocks block).state = (state.blocks block).state ∨
      (state.blocks block).state = .published ∧
        (next.blocks block).state = .consumerOwned)
    (view : next.view transport block = state.view transport block) :
    value.Describes transport next block := by
  cases value with
  | free =>
      rcases word with same | ⟨was, -⟩
      · exact same.trans described
      · exact absurd (described.symm.trans was) (by decide)
  | «sealed» calls =>
      refine ⟨?_, view.trans described.2⟩
      rcases word with same | ⟨-, now⟩
      · rw [same]
        exact described.1
      · exact Or.inr now
  | kept calls => exact absurd trivial closed
  | busy agent calls => exact absurd trivial closed

/-- Neither the blocks nor the consumer change. -/
structure Still (state next : State Record) : Prop where
  blocks : next.blocks = state.blocks
  consumer : next.consumer = state.consumer
  drained : next.drained = state.drained
  delivered : next.delivered = state.delivered
  sequence : next.sequence = state.sequence

/-- One party goes to a position, and blocks stay as they are. -/
structure Moves (state next : State Record) (agent : Agent)
    (position : Position Record) : Prop extends Still state next where
  storage : next.storage = state.storage
  current : ∀ producer, next.current producer = state.current producer
  moved : next.position = update state.position agent position

theorem Moves.others {party : Agent}
    (moves : Moves state next agent position) (differ : party ≠ agent) :
    next.position party = state.position party := by
  rw [moves.moved, update_of_ne differ]

theorem Moves.self
    (moves : Moves state next agent position) :
    next.position agent = position := by
  rw [moves.moved, update_self]

theorem Moves.goto : Moves state (state.goto agent position) agent position :=
  ⟨⟨rfl, rfl, rfl, rfl, rfl⟩, rfl, fun _ => rfl, rfl⟩

theorem Moves.answer {call : AppendCall Record} {result : Bool} :
    Moves state (state.answer agent call result) agent .idle :=
  ⟨⟨rfl, rfl, rfl, rfl, rfl⟩, rfl, fun _ => rfl, rfl⟩

/-- A served epoch is nothing that a block shows. -/
theorem Moves.serve
    {producer : Nat} {epoch : UInt64}
    (moves : Moves (state.serve producer epoch) next agent position) :
    Moves state next agent position :=
  { moves with
    current := fun other => by
      rw [moves.current]
      change (update state.producer producer { state.producer producer with
        servicedEpoch := epoch } other).current = _
      by_cases same : other = producer
      · subst same
        rw [update_self]
        rfl
      · rw [update_of_ne same]
        rfl }

/-- A party with empty hands goes where it takes nothing. -/
theorem Owned.turns
    (owned : Owned transport state phase) (active : state.Active agent)
    (empty : (state.position agent).held = none)
    (moves : Moves state next agent position)
    (after : position.held = none) (valid : position.Valid transport agent)
    (claims : position.Claims state) (clears : position.Clears next agent) :
    Turns transport state next where
  storage := moves.storage
  current := moves.current
  moved party := by
    by_cases same : party = agent
    · subst same
      rw [moves.self]
      exact Or.inr ⟨empty, after, valid⟩
    · exact Or.inl (moves.others same)
  claims party call index at_ batch := by
    rw [moves.current]
    by_cases same : party = agent
    · subst same
      exact claims call index (moves.self.symm.trans at_) batch
    · rw [moves.others same] at at_
      exact owned.claims party call index at_ batch
  quiet := owned.stays_quiet active fun _ => moves.others
  swept := active.swept (fun _ => moves.others)
    (by rw [moves.self]; exact clears)

end Dxmt9.Tracing
