import Dxmt9.Tracing.BatchOwnership
import Mathlib.Data.List.Perm.Basic
import Mathlib.Data.List.Nodup
import Mathlib.Data.List.Flatten

/-!
# What the blocks of a transport have carried

The blocks that have been published, in that order, with the batches in each:
the ledger of a run.  Each of them was given to the consumer or waits for it,
and with the batches of the kept blocks they are the appends that succeeded.
-/

namespace Dxmt9.Tracing

open Function

variable {Record : Type} {transport : Configuration}
  {state next : State Record} {phase other : Nat → Phase Record}

variable {index : Nat}

/-- Of a concatenation over indices, one part is exchanged. -/
theorem perm_flatMap_range {α : Type} {count : Nat}
    (inside : index < count) (before after : Nat → List α)
    (same : ∀ other ≠ index, after other = before other) :
    ((List.range count).flatMap after ++ before index).Perm
      ((List.range count).flatMap before ++ after index) := by
  have split := List.perm_cons_erase (List.mem_range.mpr inside)
  have rest : ((List.range count).erase index).flatMap after =
      ((List.range count).erase index).flatMap before := by
    apply List.flatMap_congr
    intro other member
    exact same other fun equal =>
      List.nodup_range.not_mem_erase (equal ▸ member)
  have first := split.flatMap_right after
  have second := split.flatMap_right before
  rw [List.flatMap_cons, rest] at first
  rw [List.flatMap_cons] at second
  refine (first.append_right _).trans (List.Perm.trans ?_
    (second.append_right _).symm)
  rw [List.append_assoc (before index)]
  exact List.perm_append_comm.trans
    (List.perm_append_comm.append_left (before index))

/-! ## The ledger -/

/-- A published block with its batches. -/
structure Entry (Record : Type) where
  delivery : Delivery Record
  calls : List (AppendCall Record)

/-- The appends that answered true and had something to deliver. -/
def State.successes (state : State Record) : List (AppendCall Record) :=
  (state.returned.filter fun answer =>
    answer.2 && answer.1.records.any answer.1.included).map Prod.fst

/-- The sealed block that waits for the consumer. -/
def waiting (transport : Configuration) (state : State Record)
    (phase : Nat → Phase Record) (block : Nat) : List (Entry Record) :=
  match phase block with
  | .sealed calls => [⟨state.delivery transport block, calls⟩]
  | _ => []

/-- The batches of the block that a producer keeps. -/
def openCalls (state : State Record) (phase : Nat → Phase Record)
    (owner : Option Nat) : List (AppendCall Record) :=
  match owner.bind state.current with
  | some block => (phase block).calls
  | none => []

variable {producer block : Nat}

theorem openCalls_some
    (kept : state.current producer = some block) :
    openCalls state phase (some producer) = (phase block).calls := by
  unfold openCalls
  rw [Option.bind_some, kept]

theorem openCalls_none
    (empty : state.current producer = none) :
    openCalls state phase (some producer) = [] := by
  unfold openCalls
  rw [Option.bind_some, empty]

variable {owner : Option Nat}

/-- What happens to a block of another producer does not matter. -/
theorem openCalls_congr
    (current : ∀ producer, owner = some producer →
      next.current producer = state.current producer)
    (same : ∀ producer block, owner = some producer →
      state.current producer = some block → other block = phase block) :
    openCalls next other owner = openCalls state phase owner := by
  cases owner with
  | none => rfl
  | some producer =>
      cases has : state.current producer with
      | none =>
          rw [openCalls_none has,
            openCalls_none ((current producer rfl).trans has)]
      | some block =>
          rw [openCalls_some has,
            openCalls_some ((current producer rfl).trans has),
            same producer block rfl has]

variable {agent : Agent} {value : Phase Record}

/-- The blocks that other producers keep stay as they are. -/
theorem Owned.openCalls_away
    (owned : Owned transport state phase)
    (touches : Touches transport state next agent block)
    (differ : transport.owner block ≠ owner) :
    openCalls next (update phase block value) owner =
      openCalls state phase owner := by
  apply openCalls_congr
  · rintro producer rfl
    exact touches.current producer differ
  · rintro producer index rfl has
    apply update_of_ne
    rintro rfl
    exact differ (owned.current producer index has).1

/-- The batches of one producer, or the reports. -/
def ofOwner (owner : Option Nat) (calls : List (AppendCall Record)) :
    List (AppendCall Record) :=
  calls.filter fun call => call.owner = owner

@[simp] theorem ofOwner_append
    {front back : List (AppendCall Record)} :
    ofOwner owner (front ++ back) =
      ofOwner owner front ++ ofOwner owner back := List.filter_append ..

variable {calls : List (AppendCall Record)}

theorem ofOwner_all
    (ours : ∀ call ∈ calls, call.owner = owner) :
    ofOwner owner calls = calls :=
  List.filter_eq_self.mpr fun call member =>
    decide_eq_true (ours call member)

theorem ofOwner_none {theirs : Option Nat} (differ : theirs ≠ owner)
    (all : ∀ call ∈ calls, call.owner = theirs) :
    ofOwner owner calls = [] :=
  List.filter_eq_nil_iff.mpr fun call member =>
    fun chosen => differ
      ((all call member).symm.trans (of_decide_eq_true chosen))

/-- Blocks of one producer were published in the order of their sequence. -/
def Rising (transport : Configuration) (early late : Entry Record) : Prop :=
  transport.owner early.delivery.block =
      transport.owner late.delivery.block →
    transport.owner late.delivery.block ≠ none →
      early.delivery.sequence < late.delivery.sequence

/-- The sequence of a block is behind those that its producer has
published. -/
def Ahead (transport : Configuration) (state : State Record)
    (published : List (Entry Record)) (block : Nat) : Prop :=
  (state.blocks block).sequence ≤ state.sequence ∧
    ∀ entry ∈ published, transport.owner entry.delivery.block =
        transport.owner block → transport.owner block ≠ none →
      entry.delivery.sequence < (state.blocks block).sequence

structure Ledger (transport : Configuration) (state : State Record)
    (phase : Nat → Phase Record) (published given : List (Entry Record)) :
    Prop where
  history : given.map Entry.delivery = state.delivered
  pending : published.Perm (given ++
    (List.range transport.slots).flatMap (waiting transport state phase))
  whole : ∀ entry ∈ published, entry.delivery.records = flat entry.calls ∧
    ∀ call ∈ entry.calls,
      call.owner = transport.owner entry.delivery.block
  phases : ∀ block, ∀ call ∈ (phase block).calls,
    call.owner = transport.owner block
  order : ∀ owner, ofOwner owner (published.flatMap Entry.calls) ++
    openCalls state phase owner = ofOwner owner state.successes
  rising : published.Pairwise (Rising transport)
  below : ∀ entry ∈ published, entry.delivery.sequence ≤ state.sequence
  ahead : ∀ agent block after, state.position agent = .store block after →
    Ahead transport state published block

/-- A step that may publish blocks and return appends. -/
theorem Ledger.extend {published given : List (Entry Record)}
    (ledger : Ledger transport state phase published given)
    (added : List (Entry Record))
    (delivered : next.delivered = state.delivered)
    (successes : next.successes = state.successes ++ calls)
    (waits : ((List.range transport.slots).flatMap
        (waiting transport state phase) ++ added).Perm
      ((List.range transport.slots).flatMap (waiting transport next other)))
    (whole : ∀ entry ∈ added, entry.delivery.records = flat entry.calls ∧
      ∀ call ∈ entry.calls,
        call.owner = transport.owner entry.delivery.block)
    (phases : ∀ block, ∀ call ∈ (other block).calls,
      call.owner = transport.owner block)
    (order : ∀ owner, ofOwner owner (added.flatMap Entry.calls) ++
      openCalls next other owner =
        openCalls state phase owner ++ ofOwner owner calls)
    (rising : (published ++ added).Pairwise (Rising transport))
    (sequence : state.sequence ≤ next.sequence)
    (below : ∀ entry ∈ added, entry.delivery.sequence ≤ next.sequence)
    (ahead : ∀ agent block after, next.position agent = .store block after →
      Ahead transport next (published ++ added) block) :
    Ledger transport next other (published ++ added) given where
  history := ledger.history.trans delivered.symm
  pending := by
    refine (ledger.pending.append_right added).trans ?_
    rw [List.append_assoc]
    exact waits.append_left given
  whole entry member :=
    (List.mem_append.mp member).elim (ledger.whole entry) (whole entry)
  phases := phases
  order owner := by
    rw [List.flatMap_append, ofOwner_append, List.append_assoc, order,
      ← List.append_assoc, ledger.order, successes, ofOwner_append]
  rising := rising
  below entry member := (List.mem_append.mp member).elim
    (fun old => UInt64.le_trans (ledger.below entry old) sequence)
    (below entry)
  ahead := ahead

theorem waiting_congr (same : other block = phase block)
    (shown : next.delivery transport block = state.delivery transport block) :
    waiting transport next other block =
      waiting transport state phase block := by
  unfold waiting
  rw [same, shown]

theorem waiting_nil (agent : Agent)
    (mine : (phase block).MineFor agent) :
    waiting transport state phase block = [] := by
  unfold waiting
  cases is : phase block with
  | «sealed» calls =>
      rw [is] at mine
      exact mine.elim
  | free => rfl
  | kept calls => rfl
  | busy party calls => rfl

theorem Touches.delivery
    (touches : Touches transport state next agent block)
    (differ : index ≠ block) (inside : index < transport.slots) :
    next.delivery transport index = state.delivery transport index := by
  unfold State.delivery
  rw [touches.views index differ inside, touches.blocks index differ]

/-- A block changes hands and gains batches. -/
theorem openCalls_gain
    (owned : Owned transport state phase)
    (touches : Touches transport state next agent block)
    (gained : value.calls = (phase block).calls ++ calls)
    (ours : ∀ call ∈ calls, call.owner = transport.owner block)
    (report : transport.owner block = none → calls = [])
    (current : ∀ producer, transport.owner block = some producer →
      next.current producer = some block ∧
        (state.current producer = some block ∨
          state.current producer = none ∧ (phase block).calls = []))
    (owner : Option Nat) :
    openCalls next (update phase block value) owner =
      openCalls state phase owner ++ ofOwner owner calls := by
  by_cases same : transport.owner block = owner
  · rw [ofOwner_all fun call member => (ours call member).trans same]
    cases owner with
    | none =>
        rw [report same]
        rfl
    | some producer =>
        obtain ⟨after, before⟩ := current producer same
        rw [openCalls_some after, update_self, gained]
        rcases before with full | ⟨empty, fresh⟩
        · rw [openCalls_some full]
        · rw [openCalls_none empty, fresh]
  · rw [ofOwner_none same ours, List.append_nil]
    exact owned.openCalls_away touches same

theorem openCalls_published
    (value : Phase Record) (owned : Owned transport state phase)
    (touches : Touches transport state next agent block)
    (theirs : ∀ call ∈ (phase block).calls, call.owner = transport.owner block)
    (ours : ∀ call ∈ calls, call.owner = transport.owner block)
    (report : transport.owner block = none → (phase block).calls = [])
    (current : ∀ producer, transport.owner block = some producer →
      next.current producer = none ∧ state.current producer = some block)
    (owner : Option Nat) :
    ofOwner owner ((phase block).calls ++ calls) ++
        openCalls next (update phase block value) owner =
      openCalls state phase owner ++ ofOwner owner calls := by
  rw [ofOwner_append]
  by_cases same : transport.owner block = owner
  · rw [ofOwner_all fun call member => (theirs call member).trans same]
    cases owner with
    | none =>
        rw [report same]
        exact List.append_nil _
    | some producer =>
        obtain ⟨after, before⟩ := current producer same
        rw [openCalls_none after, openCalls_some before]
        exact List.append_nil _
  · rw [ofOwner_none same theirs, ofOwner_none same ours,
      owned.openCalls_away touches same]
    exact (List.append_nil _).symm

/-- A state whose phases and ledger are known. -/
def Sound (transport : Configuration) (state : State Record) : Prop :=
  ∃ phase published given, Owned transport state phase ∧
    Ledger transport state phase published given

variable {published given : List (Entry Record)}

/-- Without a publication the ledger grows by appends alone. -/
theorem Ledger.hold
    (ledger : Ledger transport state phase published given)
    (calls : List (AppendCall Record))
    (delivered : next.delivered = state.delivered)
    (successes : next.successes = state.successes ++ calls)
    (waits : ∀ block < transport.slots, waiting transport next other block =
      waiting transport state phase block)
    (phases : ∀ block, ∀ call ∈ (other block).calls,
      call.owner = transport.owner block)
    (order : ∀ owner, openCalls next other owner =
      openCalls state phase owner ++ ofOwner owner calls)
    (sequence : state.sequence ≤ next.sequence)
    (ahead : ∀ agent block after, next.position agent = .store block after →
      Ahead transport next published block) :
    Ledger transport next other published given := by
  have same : (List.range transport.slots).flatMap
      (waiting transport next other) = (List.range transport.slots).flatMap
          (waiting transport state phase) :=
    List.flatMap_congr fun block member =>
      waits block (List.mem_range.mp member)
  have extended := ledger.extend [] delivered successes
    (by rw [same, List.append_nil])
    (fun entry member => absurd member List.not_mem_nil) phases
    (fun owner => order owner)
    (by rw [List.append_nil]; exact ledger.rising) sequence
    (fun entry member => absurd member List.not_mem_nil)
    (by rw [List.append_nil]; exact ahead)
  rw [List.append_nil] at extended
  exact extended

theorem Turns.delivery (turns : Turns transport state next)
    (tallies : Tallies state next) (block : Nat) :
    next.delivery transport block = state.delivery transport block := by
  unfold State.delivery
  rw [turns.view tallies, (tallies block).2]

/-- Parties with empty hands leave the ledger as it is. -/
theorem Ledger.turn
    (ledger : Ledger transport state phase published given)
    (turns : Turns transport state next) (tallies : Tallies state next)
    (delivered : next.delivered = state.delivered)
    (successes : next.successes = state.successes)
    (sequence : next.sequence = state.sequence) :
    Ledger transport next phase published given := by
  refine ledger.hold [] delivered (by rw [successes, List.append_nil])
    (fun block _ => waiting_congr rfl (turns.delivery tallies block))
    ledger.phases (fun owner => ?_)
    (by rw [sequence]; exact UInt64.le_refl _) fun agent block after at_ => ?_
  · change _ = _ ++ []
    rw [List.append_nil]
    exact openCalls_congr (fun producer _ => turns.current producer)
      fun _ _ _ _ => rfl
  · unfold Ahead
    rw [sequence, (tallies block).2]
    rcases turns.moved agent with same | ⟨-, empty, -⟩
    · exact ledger.ahead agent block after (same.symm.trans at_)
    · rw [at_] at empty
      cases empty

/-- What is known is kept by a step, and so is what was handed on. -/
structure Leads (transport : Configuration) (state next : State Record) :
    Prop where
  sound : Sound transport next
  handed : ∀ block < transport.slots, state.Handed block →
    next.delivery transport block = state.delivery transport block

/-- The parties move on, and no block changes. -/
theorem Leads.turn (owned : Owned transport state phase)
    (ledger : Ledger transport state phase published given)
    (turns : Turns transport state next)
    (still : Still state next) (successes : next.successes = state.successes)
    (closed : state.position .controller = .closed →
      next.position .controller = .closed) :
    Leads transport state next := by
  have tallies : Tallies state next := fun block => by
    rw [still.blocks]
    exact ⟨rfl, rfl⟩
  refine ⟨⟨phase, published, given, owned.turn turns tallies
    (fun block _ => ⟨rfl, congrFun still.blocks block⟩)
    (fun block inside closed => (owned.described block inside).congr closed
      (Or.inl (by rw [still.blocks])) (turns.view tallies)) ?_ ?_ ?_ ?_,
    ledger.turn turns tallies still.delivered successes still.sequence⟩,
    fun block _ _ => turns.delivery tallies block⟩
  · rw [still.blocks, still.consumer]
    exact owned.consumed
  · rw [still.blocks, still.consumer]
    exact owned.consumer
  · rw [still.blocks, still.consumer]
    exact fun index reading =>
      (owned.final index reading).imp_left closed
  · rw [still.blocks, still.drained]
    exact fun done => (owned.drained done).imp_left closed

end Dxmt9.Tracing
