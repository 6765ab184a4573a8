import Dxmt9.Tracing.BatchSteps

/-!
# Every appended batch is delivered

The consumer keeps the phases and the ledger as well, so they hold along every
schedule.  Once a final drain has ended the ledger is what was delivered.
-/

namespace Dxmt9.Tracing

open Function Dxmt9.Transition

variable {Record : Type} {transport : Configuration}
  {state next : State Record} {phase other : Nat → Phase Record}
  {published given : List (Entry Record)}

variable {block index : Nat} {final : Bool}

/-- Outside of the hands of the parties the state word tells the phase. -/
theorem Owned.unopened (owned : Owned transport state phase)
    (inside : block < transport.slots)
    (ready : (state.blocks block).state ≠ .producerOwned) :
    ¬(phase block).Opened := by
  intro opened
  have known := owned.described block inside
  rcases opened.cases with ⟨calls, is⟩ | ⟨agent, calls, is⟩
  · rw [is] at known
    exact ready known.2.owned
  · rw [is] at known
    exact ready known.2.2.owned

/-- After the partial blocks are closed nothing is in hand. -/
theorem Owned.closed_free
    (owned : Owned transport state phase) (inside : block < transport.slots)
    (closed : state.position .controller = .closed)
    (unhanded : ¬state.Handed block) :
    (state.blocks block).state = .free := by
  have known := owned.described block inside
  cases is : phase block with
  | free =>
      rw [is] at known
      exact known
  | kept calls =>
      rw [is] at known
      obtain ⟨producer, own⟩ := Option.ne_none_iff_exists'.mp known.1
      have has := known.2.current producer own
      rw [owned.swept rfl producer (by rw [closed]; trivial)] at has
      cases has
  | busy agent calls =>
      rw [is] at known
      have holds := known.1
      cases agent with
      | thread index =>
          rw [owned.quiet (by rw [closed]; nofun) index] at holds
          cases holds
      | controller =>
          rw [closed] at holds
          cases holds
  | «sealed» calls =>
      rw [is] at known
      exact absurd known.1 unhanded

/-- The state word of one block is exchanged. -/
structure Reworded (state next : State Record) (index : Nat)
    (word : BlockState) : Prop where
  tallies : Tallies state next
  others : ∀ block ≠ index, next.blocks block = state.blocks block
  word : (next.blocks index).state = word

theorem State.reworded {word : BlockState}
    (blocks : next.blocks = update state.blocks index
      { state.blocks index with state := word }) :
    Reworded state next index word where
  tallies block := by
    rw [blocks]
    by_cases same : block = index
    · rw [same, update_self]
      exact ⟨rfl, rfl⟩
    · rw [update_of_ne same]
      exact ⟨rfl, rfl⟩
  others block differ := by rw [blocks, update_of_ne differ]
  word := by rw [blocks, update_self]

section

variable (owned : Owned transport state phase)
  (ledger : Ledger transport state phase published given)
include owned ledger

theorem Leads.take (reading : state.consumer = .scan index final)
    (within : index < transport.slots)
    (ready : (state.blocks index).state = .published)
    (nobody : ∀ block < transport.slots,
      (state.blocks block).state ≠ .consumerOwned)
    (words : Reworded state next index .consumerOwned)
    (consumer : next.consumer = .own index final)
    (rest : { state with
      blocks := next.blocks, consumer := next.consumer } = next) :
    Leads transport state next := by
  obtain ⟨tallies, others, word⟩ := words
  revert tallies others word consumer
  rw [← rest]
  intro consumer tallies others word
  have sealed_ := owned.unopened within (by rw [ready]; decide)
  have turns : Turns transport state { state with
      blocks := next.blocks, consumer := next.consumer } :=
    owned.rests rfl rfl rfl
  refine ⟨⟨phase, published, given, owned.turn turns tallies
    (fun block opened => ⟨rfl, others block fun same =>
      sealed_ (by rw [← same]; exact opened)⟩)
    (fun block inside closed => (owned.described block inside).congr
      closed ?_ (turns.view tallies))
    (fun block last is => ?_) (fun block inside consumed => ?_)
    (fun block is => ?_) (fun done => ?_),
    ledger.turn turns tallies rfl rfl rfl⟩,
    fun block _ _ => turns.delivery tallies block⟩
  · by_cases same : block = index
    · rw [same]
      exact Or.inr ⟨ready, word⟩
    · exact Or.inl (congrArg Block.state (others block same))
  · rw [consumer] at is
    cases is
    exact ⟨within, word⟩
  · by_cases same : block = index
    · rw [same]
      exact ⟨final, consumer⟩
    · rw [others block same] at consumed
      exact absurd consumed (nobody block inside)
  · rw [consumer] at is
    rcases is with is | is
    · cases is
    · cases is
      refine (owned.final index (Or.inl reading)).imp_right
        fun free other before => ?_
      rw [others other (by omega)]
      exact free other before
  · have free := (owned.drained done).2 index within
    rw [ready] at free
    cases free

theorem Leads.release (reading : state.consumer = .own index final)
    (words : Reworded state next index .free)
    (consumer : next.consumer = .scan (index + 1) final)
    (delivered : next.delivered =
      state.delivered ++ [state.delivery transport index])
    (rest : { state with
      blocks := next.blocks, consumer := next.consumer
      delivered := next.delivered } = next) :
    Leads transport state next := by
  obtain ⟨tallies, others, word⟩ := words
  revert tallies others word consumer delivered
  rw [← rest]
  intro consumer delivered tallies others word
  obtain ⟨within, taken⟩ := owned.consumed index final reading
  have sealed_ := owned.unopened within (by rw [taken]; decide)
  have turns : Turns transport state { state with
      blocks := next.blocks, consumer := next.consumer
      delivered := next.delivered } := owned.rests rfl rfl rfl
  have known := owned.described index within
  obtain ⟨calls, is⟩ : ∃ calls, phase index = .sealed calls := by
    cases is : phase index with
    | free =>
        rw [is] at known
        cases known.symm.trans taken
    | kept calls => exact absurd (by rw [is]; trivial) sealed_
    | busy agent calls => exact absurd (by rw [is]; trivial) sealed_
    | «sealed» calls => exact ⟨calls, rfl⟩
  have waits : waiting transport state phase index =
      [⟨state.delivery transport index, calls⟩] := by
    unfold waiting
    rw [is]
  refine ⟨⟨update phase index .free, published,
    given ++ [⟨state.delivery transport index, calls⟩],
    owned.turn turns tallies (fun block opened => ?_)
    (fun block inside closed => ?_)
    (fun block last is => by rw [consumer] at is; cases is)
    (fun block inside consumed => ?_) (fun block is => ?_)
    (fun done => ?_),
    { history := ?_, pending := ?_, whole := ledger.whole, phases := ?_
      order := ?_, rising := ledger.rising, below := ledger.below
      ahead := ?_ }⟩, fun block _ _ => turns.delivery tallies block⟩
  · have differ : block ≠ index := by
      rintro rfl
      exact sealed_ opened
    exact ⟨update_of_ne differ .., others block differ⟩
  · by_cases same : block = index
    · rw [same, update_self]
      exact word
    · rw [update_of_ne same]
      exact (owned.described block inside).congr closed
        (Or.inl (congrArg Block.state (others block same)))
        (turns.view tallies)
  · by_cases same : block = index
    · rw [same, word] at consumed
      cases consumed
    · rw [others block same] at consumed
      obtain ⟨last, own⟩ := owned.consumer block inside consumed
      rw [reading] at own
      cases own
      exact absurd rfl same
  · rw [consumer] at is
    rcases is with is | is
    · cases is
      obtain ⟨closed, free⟩ := owned.final index (Or.inr reading)
      refine ⟨closed, fun other before => ?_⟩
      rcases Nat.lt_succ_iff_lt_or_eq.mp before with earlier | rfl
      · rw [others other (by omega)]
        exact free other earlier
      · exact word
    · cases is
  · have free := (owned.drained done).2 index within
    rw [taken] at free
    cases free
  · rw [List.map_append, ledger.history]
    exact delivered.symm
  · have moves := perm_flatMap_range within
      (waiting transport state phase) (waiting transport
        { state with blocks := next.blocks, consumer := next.consumer
                     delivered := next.delivered }
        (update phase index .free)) fun other differ =>
      waiting_congr (update_of_ne differ ..) (turns.delivery tallies other)
    rw [waits, waiting_nil .controller (by rw [update_self]; trivial),
      List.append_nil] at moves
    refine ledger.pending.trans ?_
    rw [List.append_assoc]
    exact ((List.perm_append_comm.trans moves).symm).append_left given
  · intro block call member
    by_cases same : block = index
    · rw [same, update_self] at member
      exact absurd member List.not_mem_nil
    · rw [update_of_ne same] at member
      exact ledger.phases block call member
  · intro owner
    refine (congrArg _ (openCalls_congr (fun _ _ => rfl)
      fun producer block own has => ?_)).trans (ledger.order owner)
    apply update_of_ne
    rintro rfl
    have kept := (owned.current producer block has).2
    rw [is] at kept
    rcases kept with ⟨calls, is⟩ | ⟨agent, calls, is⟩ <;> cases is
  · intro agent block after at_
    unfold Ahead
    rw [(tallies block).2]
    exact ledger.ahead agent block after at_

end

theorem Leads.drain (sound : Sound transport state) :
    Leads transport state (state.drain transport) := by
  obtain ⟨phase, published, given, owned, ledger⟩ := sound
  -- a move of the consumer that changes no block
  have moves : ∀ (consumer : Consumer) (drained : Bool),
      (∀ block final, consumer ≠ .own block final) →
      (∀ block < transport.slots,
        (state.blocks block).state ≠ .consumerOwned) →
      (∀ index, consumer = .scan index true →
        state.position .controller = .closed ∧
          ∀ block < index, (state.blocks block).state = .free) →
      (drained = true → state.position .controller = .closed ∧
        ∀ block < transport.slots, (state.blocks block).state = .free) →
      Leads transport state { state with consumer, drained } := by
    intro consumer drained unread nobody final done
    have turns : Turns transport state { state with consumer, drained } :=
      owned.rests rfl rfl rfl
    have tallies : Tallies state { state with consumer, drained } :=
      fun _ => ⟨rfl, rfl⟩
    exact ⟨⟨phase, published, given, owned.turn turns tallies
      (fun _ _ => ⟨rfl, rfl⟩)
      (fun block inside closed => (owned.described block inside).congr
        closed (Or.inl rfl) rfl)
      (fun block final is => absurd is (unread block final))
      (fun block inside consumed => absurd consumed (nobody block inside))
      (fun index is => is.elim (final index)
        fun own => absurd own (unread index true)) done,
      ledger.turn turns tallies rfl rfl rfl⟩, fun _ _ _ => rfl⟩
  have nobody : (∀ index final, state.consumer ≠ .own index final) →
      ∀ block < transport.slots,
        (state.blocks block).state ≠ .consumerOwned := by
    intro unread block inside consumed
    obtain ⟨final, own⟩ := owned.consumer block inside consumed
    exact unread block final own
  unfold State.drain
  cases reading : state.consumer with
  | idle =>
      refine moves _ _ (fun _ _ is => by cases is)
        (nobody (by rw [reading]; nofun)) (fun index is => ?_) owned.drained
      injection is with zero closed
      subst zero
      refine ⟨?_, fun block before => absurd before (Nat.not_lt_zero _)⟩
      split at closed
      · assumption
      · cases closed
  | scan index final =>
      have unread := nobody (by rw [reading]; nofun)
      dsimp only
      split
      · rename_i ended
        refine moves _ _ (fun _ _ is => by cases is) unread
          (fun _ is => by cases is) (fun done => ?_)
        rcases Bool.or_eq_true_iff.mp done with before | rfl
        · exact owned.drained before
        · exact (owned.final index (Or.inl reading)).imp_right
            fun free block inside => free block (by omega)
      rename_i within
      rw [Nat.not_le] at within
      split
      · rename_i ready
        exact Leads.take owned ledger reading within ready unread
          (State.reworded rfl) rfl rfl
      · rename_i unready
        refine moves _ _ (fun _ _ is => by cases is) unread
          (fun next is => ?_) owned.drained
        cases is
        obtain ⟨closed, free⟩ := owned.final index (Or.inl reading)
        refine ⟨closed, fun block before => ?_⟩
        rcases Nat.lt_succ_iff_lt_or_eq.mp before with earlier | rfl
        · exact free block earlier
        · exact owned.closed_free within closed fun handed =>
            handed.elim unready (unread block within)
  | own index final =>
      exact Leads.release owned ledger reading (State.reworded rfl) rfl rfl
        rfl

variable {action : Action Record}

section

variable (sound : Sound transport state)
  (used : Disciplined state action ∧ Counts state action)
include sound used

theorem Leads.step :
    Leads transport state (state.step transport action) := by
  obtain ⟨used, counts⟩ := used
  have rest : Leads transport state state := ⟨sound, fun _ _ _ => rfl⟩
  cases action with
  | call thread call =>
      unfold State.step
      dsimp only
      split
      · rename_i idle
        obtain ⟨phase, published, given, owned, ledger⟩ := sound
        exact Leads.begin owned ledger idle used counts
      · exact rest
  | advance agent => exact Leads.advance sound counts
  | requestPartials =>
      obtain ⟨phase, published, given, owned, ledger⟩ := sound
      exact Leads.turn owned ledger (owned.rests rfl rfl rfl)
        ⟨rfl, rfl, rfl, rfl, rfl⟩ rfl id
  | closePartials =>
      unfold State.step
      dsimp only
      split
      · rename_i idle
        obtain ⟨phase, published, given, owned, ledger⟩ := sound
        have moves : Moves state (state.goto .controller (.close 0))
            .controller (.close 0) := Moves.goto
        refine Leads.turn owned ledger
          { storage := rfl, current := fun _ => rfl
            moved := fun party => ?_
            claims := fun party call index at_ => ?_
            quiet := fun _ thread => ?_
            swept := fun _ producer before => ?_ } moves.toStill rfl
          fun closed => ?_
        · by_cases same : party = .controller
          · subst same
            rw [moves.self]
            exact Or.inr ⟨by rw [idle]; rfl, rfl, rfl⟩
          · exact Or.inl (moves.others same)
        · by_cases same : party = .controller
          · subst same
            rw [moves.self] at at_
            cases at_
          · exact owned.claims party call index
              ((moves.others same).symm.trans at_)
        · exact (moves.others Agent.noConfusion).trans (used thread)
        · rw [moves.self] at before
          exact absurd before (Nat.not_lt_zero _)
        · rw [idle] at closed
          cases closed
      · exact rest
  | drain => exact Leads.drain sound

theorem Sound.step :
    Sound transport (state.step transport action) :=
  (Leads.step sound used).sound

end

theorem Sound.initial [Inhabited Record] :
    Sound transport (State.initial : State Record) :=
  ⟨fun _ => .free, [], [],
    { described := fun _ _ => rfl
      bounded := fun _ _ => Nat.zero_le _
      held := fun _ _ is => by cases is
      current := fun _ _ is => by cases is
      consumed := fun _ _ is => by cases is
      consumer := fun _ _ is => by cases is
      valid := fun _ => trivial
      claims := fun _ _ _ is => by cases is
      quiet := fun moving => absurd rfl moving
      swept := fun _ _ is => is.elim
      final := fun _ is => by rcases is with is | is <;> cases is
      drained := fun is => by cases is },
    { history := rfl
      pending := List.Perm.of_eq
        (List.flatMap_eq_nil_iff.mpr fun _ _ => rfl).symm
      whole := fun _ member => absurd member List.not_mem_nil
      phases := fun _ _ member => absurd member List.not_mem_nil
      order := fun owner => by cases owner <;> rfl
      rising := List.Pairwise.nil
      below := fun _ member => absurd member List.not_mem_nil
      ahead := fun _ _ _ is => by cases is }⟩

/-- The schedule keeps to the use of the transport, and no count wraps. -/
def Proper [Inhabited Record] (transport : Configuration)
    (schedule : List (Action Record)) : Prop :=
  Guarded (State.step transport)
    (fun state action => Disciplined state action ∧ Counts state action)
    State.initial schedule

theorem sound_reach [Inhabited Record] {schedule : List (Action Record)}
    (proper : Proper transport schedule) :
    Sound transport (reach transport schedule) :=
  guarded_invariant (fun _ _ sound used => sound.step used) Sound.initial
    proper

/-! ## Delivery -/

/-- The deliveries of the blocks of one producer. -/
def State.deliveriesOf (transport : Configuration) (state : State Record)
    (producer : Nat) : List (Delivery Record) :=
  state.delivered.filter fun delivery =>
    transport.owner delivery.block = some producer

/-- Each delivered block is a row of whole batches, the batches are those of
the appends that succeeded, each once, and the blocks of a producer hold them
in the order of the appends when they are put in the order of their
sequence. -/
structure DeliversWhole (transport : Configuration) (state : State Record) :
    Prop where
  once : ∃ batches : List (List (AppendCall Record)),
    state.delivered.map Delivery.records = batches.map flat ∧
      batches.flatten.Perm state.successes
  order : ∀ producer, ∃ blocks : List (Delivery Record),
    blocks.Perm (state.deliveriesOf transport producer) ∧
      blocks.Pairwise (fun early late => early.sequence < late.sequence) ∧
      blocks.flatMap Delivery.records =
        flat (ofOwner (some producer) state.successes)

theorem perm_of_owners {front back : List (AppendCall Record)}
    (same : ∀ owner, ofOwner owner front = ofOwner owner back) :
    front.Perm back := by
  classical
  rw [List.perm_iff_count]
  intro call
  have counted : ∀ calls : List (AppendCall Record),
      calls.count call = (ofOwner call.owner calls).count call :=
    fun calls => (List.count_filter (by simp)).symm
  rw [counted front, same, ← counted back]

variable {owner : Option Nat}

/-- The batches of a producer are those of its blocks. -/
theorem ofOwner_entries {entries : List (Entry Record)}
    (owners : ∀ entry ∈ entries, ∀ call ∈ entry.calls,
      call.owner = transport.owner entry.delivery.block) :
    ofOwner owner (entries.flatMap Entry.calls) =
      (entries.filter fun entry =>
        transport.owner entry.delivery.block = owner).flatMap
          Entry.calls := by
  induction entries with
  | nil => rfl
  | cons entry rest induction =>
      have ours := owners entry List.mem_cons_self
      rw [List.flatMap_cons, ofOwner_append, List.filter_cons,
        induction fun other member =>
          owners other (List.mem_cons_of_mem entry member)]
      by_cases same : transport.owner entry.delivery.block = owner
      · rw [if_pos (decide_eq_true same), List.flatMap_cons,
          ofOwner_all fun call member => (ours call member).trans same]
      · rw [if_neg (by simpa using same), ofOwner_none same ours]
        rfl

theorem Ledger.delivers
    (ledger : Ledger transport state phase published given)
    (empty : ∀ block < transport.slots,
      waiting transport state phase block = [])
    (closed : ∀ owner, openCalls state phase owner = []) :
    DeliversWhole transport state := by
  have all : published.Perm given := by
    have pending := ledger.pending
    rw [List.flatMap_eq_nil_iff.mpr fun block member =>
      empty block (List.mem_range.mp member), List.append_nil] at pending
    exact pending
  have order : ∀ owner, ofOwner owner (published.flatMap Entry.calls) =
      ofOwner owner state.successes := by
    intro owner
    rw [← ledger.order, closed, List.append_nil]
  refine ⟨⟨given.map Entry.calls, ?_, ?_⟩, fun producer =>
    ⟨(published.filter fun entry =>
      transport.owner entry.delivery.block = some producer).map
        Entry.delivery, ?_, ?_, ?_⟩⟩
  · rw [← ledger.history, List.map_map, List.map_map]
    exact List.map_congr_left fun entry member =>
      (ledger.whole entry (all.mem_iff.mpr member)).1
  · rw [← List.flatMap_def]
    exact (all.symm.flatMap_right _).trans (perm_of_owners order)
  · unfold State.deliveriesOf
    rw [← ledger.history, List.filter_map]
    exact (all.filter _).map _
  · rw [List.pairwise_map]
    refine (ledger.rising.filter _).imp_of_mem fun early late rises => ?_
    have first := of_decide_eq_true (List.mem_filter.mp early).2
    have second := of_decide_eq_true (List.mem_filter.mp late).2
    exact rises (first.trans second.symm) (by rw [second]; nofun)
  · rw [← order, ofOwner_entries fun entry member =>
      (ledger.whole entry member).2, List.flatMap_map]
    unfold flat
    rw [List.flatMap_assoc]
    exact List.flatMap_congr fun entry member =>
      (ledger.whole entry (List.mem_filter.mp member).1).1

/-- After every proper schedule that ends with the closing of the partial
blocks and a drain, each appended batch has been delivered whole and once, and
those of a producer in order. -/
theorem reach_delivers [Inhabited Record] (transport : Configuration)
    (schedule : List (Action Record)) (proper : Proper transport schedule)
    (drained : (reach transport schedule).drained = true) :
    DeliversWhole transport (reach transport schedule) := by
  obtain ⟨phase, published, given, owned, ledger⟩ := sound_reach proper
  obtain ⟨closed, free⟩ := owned.drained drained
  refine ledger.delivers (fun block inside => ?_) fun owner => ?_
  · apply waiting_nil .controller
    rw [owned.phase_free inside (free block inside)]
    trivial
  · cases owner with
    | none => rfl
    | some producer =>
        exact openCalls_none
          (owned.swept rfl producer (by rw [closed]; trivial))

/-- One producer with two blocks of two records. -/
def small : Configuration where
  maxProducers := 1
  events := 8
  threshold := 2
  generation := 7
  positive := by decide
  roomy := by decide

/-- One record is appended, and the partial block is closed and drained. -/
def partialRun : List (Action Nat) :=
  .call 0 { producer := 0, records := [31, 32], report := false
            generation := 7, prepare := fun _ record => record
            included := fun record => record == 31 } ::
    List.replicate 5 (.advance (.thread 0)) ++
      .closePartials :: List.replicate 5 (.advance .controller) ++
        List.replicate 7 .drain

theorem proper_partialRun : Proper small partialRun := by
  have counts : ∀ state : State Nat, state.sequence = 0 ∨ state.sequence = 1 →
        state.sequence.toNat + 1 < 2 ^ 64 := by
    intro state early
    rcases early with is | is <;> rw [is] <;> decide
  refine ⟨⟨⟨Or.inr rfl, rfl⟩,
    Nat.lt_of_le_of_lt List.countP_le_length (by decide)⟩, ?_⟩
  iterate 5 refine ⟨⟨trivial, counts _ (Or.inl rfl)⟩, ?_⟩
  refine ⟨⟨fun thread => ?_, trivial⟩, ?_⟩
  · cases thread <;> rfl
  iterate 2 refine ⟨⟨trivial, counts _ (Or.inl rfl)⟩, ?_⟩
  iterate 3 refine ⟨⟨trivial, counts _ (Or.inr rfl)⟩, ?_⟩
  iterate 7 refine ⟨⟨trivial, trivial⟩, ?_⟩
  exact trivial

theorem reach_delivers_partial :
    (reach small partialRun).drained = true ∧
      DeliversWhole small (reach small partialRun) := by
  have drained : (reach small partialRun).drained = true := by decide +kernel
  exact ⟨drained, reach_delivers small partialRun proper_partialRun drained⟩

/-- What the parties may rely on. -/
structure Exclusive (transport : Configuration) (state : State Record) :
    Prop where
  /-- A record is copied into the slice of a block that its party alone has
  in hand. -/
  copied : ∀ agent call block done record,
    state.position agent = .write call block done →
    call.records[done]? = some record → call.included record = true →
      (state.blocks block).state = .producerOwned ∧
        (∀ other, (state.position other).held = some block →
          other = agent) ∧
        (state.blocks block).count < transport.capacity block ∧
        transport.offset block + (state.blocks block).count.toNat <
          transport.events.toNat ∧
        ∀ other ≠ block, ∀ index < (transport.capacity other).toNat,
          transport.offset block + (state.blocks block).count.toNat ≠
            transport.offset other + index
  /-- No step changes a block that has been handed on. -/
  handed : ∀ action, Disciplined state action ∧ Counts state action →
    ∀ block < transport.slots, state.Handed block →
      (state.step transport action).delivery transport block =
        state.delivery transport block

/-- In every reachable state a block is written by one party, within its
slice, and never once it is published. -/
theorem reach_exclusive [Inhabited Record] (transport : Configuration)
    (schedule : List (Action Record)) (proper : Proper transport schedule) :
    Exclusive transport (reach transport schedule) := by
  have sound := sound_reach proper
  refine ⟨fun agent call block done record at_ found chosen => ?_,
    fun action used => (Leads.step sound used).handed⟩
  obtain ⟨phase, published, given, owned, -⟩ := sound
  have holds : ((reach transport schedule).position agent).held =
      some block := by
    rw [at_]
    rfl
  obtain ⟨inside, calls, busy, -, opened⟩ := owned.opened holds
  have room := owned.room at_ found chosen
  refine ⟨opened.owned, fun other reaches => ?_, room, ?_,
    fun other differ index within =>
      Configuration.offset_apart differ room within⟩
  · obtain ⟨-, others, taken⟩ := owned.held other block reaches
    rw [busy] at taken
    cases taken
    rfl
  · have ends : transport.offset block + (transport.capacity block).toNat ≤
        transport.offset transport.slots :=
      Configuration.offset_mono (Nat.succ_le_of_lt inside)
    have := transport.offset_slots
    omega

theorem reach_exclusive_partial :
    Exclusive small (reach small partialRun) :=
  reach_exclusive small partialRun proper_partialRun

end Dxmt9.Tracing
