import Dxmt9.Tracing.BatchLedger

/-!
# The steps of the parties

Every step of a thread and of the controller keeps the phases and the ledger,
and the blocks that have been handed on.
-/

namespace Dxmt9.Tracing

open Function Dxmt9.Transition

variable {Record : Type} {transport : Configuration}
  {state next : State Record} {phase : Nat → Phase Record}
  {published given : List (Entry Record)} {agent : Agent} {block : Nat}
  {producer index done : Nat} {call : AppendCall Record}
  {position : Position Record} {calls : List (AppendCall Record)}
  {epoch : UInt64}

theorem State.current_setCurrent {other : Nat}
    {current : Option Nat} :
    (state.setCurrent producer current).current other =
      if other = producer then current else state.current other := by
  change (update state.producer producer
    { state.producer producer with current } other).current = _
  by_cases same : other = producer
  · subst same
    rw [if_pos rfl, update_self]
  · rw [if_neg same, update_of_ne same]
    rfl

variable {owner : Option Nat}

theorem State.current_letGo :
    (state.letGo block owner).current producer =
      if owner = some producer then none else state.current producer := by
  cases owner with
  | none => exact (if_neg nofun).symm
  | some kept =>
      refine State.current_setCurrent.trans ?_
      simp only [Option.some.injEq, eq_comm]
      rfl

theorem State.letGo_fields :
    (state.letGo block owner).blocks = update state.blocks block
        { state.blocks block with state := .published } ∧
      (state.letGo block owner).storage = state.storage ∧
      (state.letGo block owner).position = state.position ∧
      (state.letGo block owner).consumer = state.consumer ∧
      (state.letGo block owner).drained = state.drained ∧
      (state.letGo block owner).delivered = state.delivered ∧
      (state.letGo block owner).returned = state.returned ∧
      (state.letGo block owner).sequence = state.sequence := by
  cases owner <;> exact ⟨rfl, rfl, rfl, rfl, rfl, rfl, rfl, rfl⟩

@[simp] theorem State.length_view :
    (state.view transport index).length =
      (state.blocks index).count.toNat := by
  unfold State.view
  rw [List.length_map, List.length_range]

/-! ## Batches and answers -/

variable {record value : Record}

theorem written_skip (found : call.records[done]? = some record)
    (skipped : call.included record = false) :
    call.written (done + 1) = call.written done := by
  rw [AppendCall.written, found]
  dsimp only
  rw [skipped]
  exact List.append_nil _

theorem written_take (found : call.records[done]? = some record)
    (chosen : call.included record = true) :
    call.written (done + 1) =
      call.written done ++ [call.prepare done record] := by
  rw [AppendCall.written, found]
  dsimp only
  rw [chosen]
  rfl

theorem State.view_put
    (room : (state.blocks index).count.toNat + 1 < 2 ^ 32) :
    (state.put transport index value).view transport index =
      state.view transport index ++ [value] := by
  have count : ((state.put transport index value).blocks index).count.toNat =
      (state.blocks index).count.toNat + 1 := by
    have same : (state.put transport index value).blocks index =
        { state.blocks index with
          count := (state.blocks index).count + 1 } := update_self ..
    rw [same, UInt32.toNat_add]
    exact Nat.mod_eq_of_lt room
  unfold State.view
  rw [count, List.range_succ, List.map_append, List.map_singleton]
  refine congr_arg₂ (· ++ ·) (List.map_congr_left fun step member => ?_)
    (congrArg (fun record => [record]) (update_self ..))
  have := List.mem_range.mp member
  exact update_of_ne (by omega) ..

theorem successes_false :
    (state.answer agent call false).successes = state.successes := by
  unfold State.successes State.answer
  rw [List.filter_append, List.map_append]
  exact List.append_nil _

theorem successes_true
    (returned : next.returned = state.returned ++ [(call, true)]) :
    next.successes = state.successes ++
      if call.records.any call.included then [call] else [] := by
  unfold State.successes
  rw [returned, List.filter_append, List.map_append]
  cases chosen : call.records.any call.included <;>
    simp [chosen]

/-- A batch that is under way has something to deliver. -/
theorem Runs.some
    (runs : Runs transport agent call) :
    call.records.any call.included = true := by
  by_contra silent
  apply runs.ready.some
  have none_ := AppendCall.toNat_accepted runs.ready.counted
  rw [AppendCall.length_prepared, List.countP_eq_zero.mpr] at none_
  · exact UInt32.toNat_inj.mp none_
  · intro record member chosen
    exact silent (List.any_eq_true.mpr ⟨record, member, chosen⟩)

/-- What taking a free block changes. -/
structure Acquired (transport : Configuration) (state next : State Record)
    (index : Nat) : Prop where
  blocks : next.blocks = update state.blocks index
    { state.blocks index with state := .producerOwned, count := 0 }
  storage : next.storage = state.storage
  position : next.position = state.position
  consumer : next.consumer = state.consumer
  drained : next.drained = state.drained
  delivered : next.delivered = state.delivered
  returned : next.returned = state.returned
  sequence : next.sequence = state.sequence
  current : ∀ producer, next.current producer =
    if transport.owner index = some producer then some index
    else state.current producer

theorem State.acquired
    (own : transport.owner index = call.owner) :
    Acquired transport state (state.acquire call index) index := by
  unfold AppendCall.owner at own
  unfold State.acquire
  dsimp only
  split
  · rename_i report
    rw [if_pos report] at own
    refine ⟨rfl, rfl, rfl, rfl, rfl, rfl, rfl, rfl, fun producer => ?_⟩
    rw [own]
    exact (if_neg nofun).symm
  · rename_i batch
    rw [if_neg batch] at own
    refine ⟨rfl, rfl, rfl, rfl, rfl, rfl, rfl, rfl, fun producer => ?_⟩
    rw [State.current_setCurrent, own]
    simp only [Option.some.injEq, eq_comm]
    rfl

theorem claim_owner
    (inside : call.producer < transport.producers)
    (reports : call.report = true → transport.producers * 2 ≤ index)
    (batches : call.report = false → call.producer * 2 ≤ index)
    (below : index < State.claimEnd transport call) :
    index < transport.slots ∧ transport.owner index = call.owner := by
  unfold State.claimEnd Configuration.slots at below
  unfold Configuration.slots AppendCall.owner
  cases report : call.report with
  | true =>
      rw [report] at below
      exact ⟨below, Configuration.owner_eq_none.mpr (reports report)⟩
  | false =>
      rw [report] at below
      have first := batches report
      simp only [Bool.false_eq_true, if_false] at below ⊢
      exact ⟨by omega, Configuration.owner_eq_some.mpr ⟨by omega, by omega⟩⟩

/-- Where a party stands does not matter to the block that it looks for. -/
theorem State.fit_goto (position : Position Record) :
    (state.goto agent position).fit transport agent epoch call =
      state.fit transport agent epoch call := by
  unfold State.fit
  dsimp only [State.goto, State.serve, State.answer]
  rw [update_idem]
  split
  · rfl
  · split
    · rw [update_idem]
    · rw [update_idem, update_idem]
      rfl

/-! ## What is known of a party -/

section

variable (owned : Owned transport state phase)
include owned

section

variable (holds : (state.position agent).held = some block)
include holds

theorem Owned.opened :
    block < transport.slots ∧ ∃ calls, phase block = .busy agent calls ∧
      (transport.owner block = none → calls = []) ∧
      Open transport state block calls (state.position agent) := by
  obtain ⟨inside, calls, busy⟩ := owned.held agent block holds
  have described := owned.described block inside
  rw [busy] at described
  exact ⟨inside, calls, busy, described.2⟩

theorem Owned.holder
    (own : transport.owner block = some producer) :
    agent.Serves producer := by
  have valid := owned.valid agent
  have appends : ∀ call : AppendCall Record, Runs transport agent call →
      transport.owner block = call.owner → agent = .thread producer := by
    intro call runs same
    rw [own] at same
    unfold AppendCall.owner at same
    split at same
    · cases same
    · rename_i serves
      rw [Option.some.injEq] at same
      rw [same]
      exact runs.own (Bool.eq_false_iff.mpr serves)
  have follows : ∀ after : Next Record, after.Valid transport agent →
      after.owner = transport.owner block → agent.Serves producer := by
    intro after valid same
    have ours := same.trans own
    cases after with
    | fit epoch call =>
        obtain rfl := Option.some.inj ours
        exact Or.inl (valid.1.own valid.2)
    | claim call =>
        obtain rfl := Option.some.inj ours
        exact Or.inl (valid.1.own valid.2.1)
    | done call => exact Or.inl (appends call valid same.symm)
    | close index => exact Or.inr valid
  cases at_ : state.position agent with
  | write call index done =>
      rw [at_] at valid holds
      obtain rfl := Option.some.inj holds
      exact Or.inl (appends call valid.1 valid.2.1)
  | fetch index after =>
      rw [at_] at valid holds
      obtain rfl := Option.some.inj holds
      exact follows after valid.1 valid.2
  | store index after =>
      rw [at_] at valid holds
      obtain rfl := Option.some.inj holds
      exact follows after valid.1 valid.2
  | idle => rw [at_] at holds; cases holds
  | load call => rw [at_] at holds; cases holds
  | claim call index => rw [at_] at holds; cases holds
  | close index => rw [at_] at holds; cases holds
  | closed => rw [at_] at holds; cases holds

end

/-- A party that is at something acts. -/
theorem Owned.active
    (busy : state.position agent ≠ .idle)
    (unclosed : state.position agent ≠ .closed) : state.Active agent := by
  cases agent with
  | thread index =>
      by_contra moving
      exact busy (owned.quiet moving index)
  | controller => exact ⟨busy, unclosed⟩

theorem Owned.active_of_held
    (holds : (state.position agent).held = some block) :
    state.Active agent :=
  owned.active (fun is => by rw [is] at holds; cases holds)
    (fun is => by rw [is] at holds; cases holds)

theorem Owned.kept (active : state.Active agent) (mine : agent.Serves producer)
    (empty : (state.position agent).held = none)
    (has : state.current producer = some block) :
    ∃ calls, phase block = .kept calls ∧ block < transport.slots ∧
      transport.owner block = some producer ∧
      Open transport state block calls .idle := by
  obtain ⟨own, kept⟩ := owned.current producer block has
  have inside : block < transport.slots := by
    have low := (Configuration.owner_eq_some.mp own).1
    unfold Configuration.slots
    omega
  have described := owned.described block inside
  rcases kept with ⟨calls, is⟩ | ⟨party, calls, is⟩
  · rw [is] at described
    exact ⟨calls, is, inside, own, described.2⟩
  · rw [is] at described
    have holds := described.1
    have other : party ≠ agent := by
      rintro rfl
      rw [empty] at holds
      cases holds
    exfalso
    have stopped : ∀ resting, state.position resting = .idle →
        resting = party → False := by
      rintro resting idle rfl
      rw [idle] at holds
      cases holds
    rcases owned.holder holds own with is | is <;>
      rcases mine with as | as <;> subst is as
    · exact other rfl
    · exact stopped _ (owned.quiet active.1 producer) rfl
    · exact stopped _ active rfl
    · exact other rfl

theorem Owned.phase_free
    (inside : block < transport.slots)
    (free : (state.blocks block).state = .free) : phase block = .free := by
  have described := owned.described block inside
  cases is : phase block with
  | free => rfl
  | kept calls =>
      rw [is] at described
      exact absurd (described.2.owned.symm.trans free) (by decide)
  | busy party calls =>
      rw [is] at described
      exact absurd (described.2.2.owned.symm.trans free) (by decide)
  | «sealed» calls =>
      rw [is] at described
      rcases described.1 with known | known <;>
        exact absurd (known.symm.trans free) (by decide)

/-- A copied record leaves the other blocks alone. -/
theorem Owned.touches_put
    (room : (state.blocks index).count.toNat <
      (transport.capacity index).toNat) :
    Touches transport state
      ((state.put transport index value).goto agent position) agent
      index where
  blocks other differ := update_of_ne differ ..
  views other differ inside := by
    apply State.view_congr
    · exact congrArg Block.count (update_of_ne differ ..)
    · intro step lower
      exact update_of_ne (Configuration.offset_apart differ room
        (Nat.lt_of_lt_of_le lower (owned.bounded other inside))).symm ..
  positions other differ := update_of_ne differ ..
  consumer := rfl
  drained := rfl
  current _ _ := rfl

theorem Owned.room
    (at_ : state.position agent = .write call block done)
    (found : call.records[done]? = some record)
    (chosen : call.included record = true) :
    (state.blocks block).count.toNat < (transport.capacity block).toNat := by
  have holds : (state.position agent).held = some block := by rw [at_]; rfl
  obtain ⟨-, calls, -, -, opened⟩ := owned.opened holds
  have length := congrArg List.length opened.records
  have fits := opened.fits
  rw [at_] at length fits
  change _ ≤ (transport.capacity block).toNat at fits
  rw [State.length_view, List.length_append] at length
  change _ = _ + (call.written done).length at length
  have bound : (call.written (done + 1)).length ≤
      call.prepared.length := AppendCall.length_written_le
  rw [written_take found chosen, List.length_append,
    List.length_singleton] at bound
  omega

end

/-- Moving on with a block in hand leaves the block as it is. -/
theorem Open.goto
    (opened : Open transport state block calls (state.position agent))
    (same : position.inflight = (state.position agent).inflight)
    (fits : position.Fits transport calls) :
    Open transport (state.goto agent position) block calls position where
  owned := opened.owned
  current := opened.current
  records := by rw [same]; exact opened.records
  fits := fits

theorem Touches.goto :
    Touches transport state (state.goto agent position) agent block where
  blocks _ _ := rfl
  views _ _ _ := rfl
  positions _ differ := update_of_ne differ ..
  consumer := rfl
  drained := rfl
  current _ _ := rfl

section

variable (owned : Owned transport state phase)
  (ledger : Ledger transport state phase published given)
include owned ledger

/-- Without a publication, one block changes hands and may gain batches. -/
theorem Leads.exchange (value : Phase Record)
    (calls : List (AppendCall Record))
    (touches : Touches transport state next agent block)
    (self : next.position agent = position)
    (inside : block < transport.slots) (active : state.Active agent)
    (mine : (phase block).MineFor agent)
    (before : ∀ other, (state.position agent).held = some other →
      other = block)
    (opened : value.Opened) (kept : value.MineFor agent)
    (described : value.Describes transport next block)
    (bounded : (next.blocks block).count.toNat ≤
      (transport.capacity block).toNat)
    (held : ∀ other, position.held = some other →
      other = block ∧ ∃ calls, value = .busy agent calls)
    (valid : position.Valid transport agent) (claims : position.Claims next)
    (own : ∀ producer, transport.owner block = some producer →
      agent.Serves producer)
    (clears : position.Clears next agent)
    (gained : value.calls = (phase block).calls ++ calls)
    (ours : ∀ call ∈ calls, call.owner = transport.owner block)
    (report : transport.owner block = none → calls = [])
    (current : ∀ producer, transport.owner block = some producer →
      next.current producer = some block ∧
        (state.current producer = some block ∨
          state.current producer = none ∧ (phase block).calls = []))
    (delivered : next.delivered = state.delivered)
    (successes : next.successes = state.successes ++ calls)
    (sequence : state.sequence ≤ next.sequence)
    (ahead : ∀ after, position = .store block after →
      Ahead transport next published block) :
    Leads transport state next := by
  subst self
  have unconsumed : (next.blocks block).state ≠ .consumerOwned := by
    intro consumed
    rcases opened.cases with ⟨batches, rfl⟩ | ⟨party, batches, rfl⟩
    · cases described.2.owned.symm.trans consumed
    · cases described.2.2.owned.symm.trans consumed
  refine ⟨⟨update phase block value, published, given,
    owned.exchange touches inside active mine before
      (fun producer is => (current producer is).2.symm.imp_left And.left)
      described unconsumed bounded held
      (fun producer is => Or.inr ⟨(current producer is).1, opened⟩) valid
      claims own clears,
    ledger.hold calls delivered successes ?_ ?_
      (openCalls_gain owned touches gained ours report current) sequence ?_⟩,
    fun index within handed => touches.delivery (fun same =>
      owned.unhanded inside mine (same ▸ handed)) within⟩
  · intro index within
    by_cases same : index = block
    · subst same
      rw [waiting_nil agent mine]
      exact waiting_nil agent (by rw [update_self]; exact kept)
    · exact waiting_congr (update_of_ne same ..) (touches.delivery same within)
  · intro index call member
    by_cases same : index = block
    · subst same
      rw [update_self, gained, List.mem_append] at member
      exact member.elim (ledger.phases index call) (ours call)
    · rw [update_of_ne same] at member
      exact ledger.phases index call member
  · intro party index after at_
    by_cases same : party = agent
    · subst same
      obtain ⟨rfl, -⟩ := held index (by rw [at_]; rfl)
      exact ahead after at_
    · rw [touches.positions party same] at at_
      obtain ⟨-, batches, busy⟩ := owned.held party index (by rw [at_]; rfl)
      have differ : index ≠ block := by
        rintro rfl
        rw [busy] at mine
        exact same mine
      unfold Ahead
      rw [touches.blocks index differ]
      exact (ledger.ahead party index after at_).imp_left
        fun below => UInt64.le_trans below sequence

theorem Leads.resume (active : state.Active agent)
    (empty : (state.position agent).held = none)
    (serves : agent.Serves producer)
    (has : state.current producer = some block)
    (moves : Moves state next agent position)
    (successes : next.successes = state.successes)
    (holds : position.held = some block) (fresh : position.inflight = [])
    (fits : ∀ calls, block < transport.slots →
      Open transport state block calls .idle → position.Fits transport calls)
    (valid : transport.owner block = some producer →
      position.Valid transport agent)
    (unpublished : ∀ after, position ≠ .store block after)
    (clears : position.Clears next agent) : Leads transport state next := by
  obtain ⟨calls, kept, inside, own, opened⟩ :=
    owned.kept active serves empty has
  have view : ∀ index, next.view transport index =
      state.view transport index := fun index =>
    State.view_congr (by rw [moves.blocks]) fun _ _ => by rw [moves.storage]
  have currents : ∀ producer, transport.owner block = some producer →
      next.current producer = some block := fun producer is =>
    (moves.current producer).trans (opened.current producer is)
  have touches : Touches transport state next agent block :=
    { blocks := fun _ _ => by rw [moves.blocks]
      views := fun index _ _ => view index
      positions := fun _ => moves.others
      consumer := moves.consumer
      drained := moves.drained
      current := fun producer _ => moves.current producer }
  refine Leads.exchange owned ledger (.busy agent calls) [] touches
    moves.self inside active (by rw [kept]; trivial)
    (fun other has => by rw [empty] at has; cases has) trivial rfl
    ⟨by rw [moves.self]; exact holds,
      fun report => (by cases own.symm.trans report), ?_⟩
    (by rw [moves.blocks]; exact owned.bounded block inside)
    (fun other has => ?_) (valid own) (fun call index at_ => ?_)
    (fun other is => by
      rw [own, Option.some.injEq] at is
      exact is ▸ serves)
    clears (by rw [kept]; exact (List.append_nil _).symm)
    (List.forall_mem_nil _) (fun _ => rfl)
    (fun producer is => ⟨currents producer is,
      Or.inl (opened.current producer is)⟩) moves.delivered
    (by rw [successes, List.append_nil])
    (by rw [moves.sequence]; exact UInt64.le_refl _)
    (fun after at_ => absurd at_ (unpublished after))
  · rw [moves.self]
    exact
      { owned := by rw [moves.blocks]; exact opened.owned
        current := currents
        records := by rw [view, fresh]; exact opened.records
        fits := fits calls inside opened }
  · rw [holds, Option.some.injEq] at has
    exact ⟨has.symm, calls, rfl⟩
  · rw [at_] at holds
    cases holds

omit owned ledger in
/-- A thread sweeps nothing. -/
theorem Runs.clears (runs : Runs transport agent call) :
    position.Clears next agent :=
  fun controls => absurd controls runs.thread

theorem Leads.move (active : state.Active agent)
    (empty : (state.position agent).held = none)
    (thread : agent ≠ .controller) (moves : Moves state next agent position)
    (successes : next.successes = state.successes)
    (after : position.held = none) (valid : position.Valid transport agent)
    (claims : position.Claims state) : Leads transport state next :=
  Leads.turn owned ledger (owned.turns active empty moves after valid claims
      (fun mine => absurd mine thread)) moves.toStill successes
    fun closed => absurd closed active.unclosed

/-- The block stays in the hands of the party. -/
theorem Leads.keep (holds : (state.position agent).held = some block)
    (touches : Touches transport state next agent block)
    (self : next.position agent = position) (held : position.held = some block)
    (kept : ∀ calls, Open transport state block calls
      (state.position agent) → Open transport next block calls position)
    (bounded : (next.blocks block).count.toNat ≤
      (transport.capacity block).toNat)
    (valid : position.Valid transport agent)
    (clears : position.Clears next agent)
    (delivered : next.delivered = state.delivered)
    (returned : next.returned = state.returned)
    (sequence : state.sequence ≤ next.sequence)
    (ahead : ∀ after, position = .store block after →
      Ahead transport next published block) :
    Leads transport state next := by
  obtain ⟨inside, calls, busy, report, opened⟩ := owned.opened holds
  have after := kept calls opened
  refine Leads.exchange owned ledger (.busy agent calls) [] touches self
    inside (owned.active_of_held holds) (by rw [busy]; rfl)
    (fun other has => Option.some.inj (has.symm.trans holds)) trivial rfl
    ⟨by rw [self]; exact held, report, by rw [self]; exact after⟩
    bounded (fun other has => ?_) valid
    (fun call index at_ => by rw [at_] at held; cases held)
    (fun producer ours => owned.holder holds ours) clears
    (by rw [busy]; exact (List.append_nil _).symm)
    (List.forall_mem_nil _) (fun _ => rfl)
    (fun producer ours => ⟨after.current producer ours,
      Or.inl (opened.current producer ours)⟩) delivered
    (by unfold State.successes; rw [returned, List.append_nil]) sequence
    ahead
  rw [held] at has
  exact ⟨(Option.some.inj has).symm, calls, rfl⟩

theorem Leads.fit (epoch : UInt64) (active : state.Active agent)
    (empty : (state.position agent).held = none)
    (runs : Runs transport agent call) (batch : call.report = false) :
    Leads transport state (state.fit transport agent epoch call) := by
  unfold State.fit
  dsimp only
  split
  · exact Leads.move owned ledger active empty runs.thread
      Moves.answer.serve successes_false rfl trivial
      (fun _ _ is => by cases is)
  rename_i small
  have small := UInt32.not_lt.mp small
  split
  · rename_i none_
    refine Leads.move owned ledger active empty runs.thread
      Moves.goto.serve rfl rfl ⟨runs, fun report => ?_, fun _ =>
        ⟨Nat.le_refl _, small⟩⟩ (fun other index is _ => ?_)
    · rw [batch] at report
      cases report
    · cases is
      exact none_
  rename_i index has
  split
  · exact Leads.resume owned ledger active empty (Or.inl (runs.own batch))
      has Moves.goto.serve rfl rfl rfl (fun _ _ _ => trivial)
      (fun own => ⟨⟨runs, batch, small⟩, own.symm⟩)
      (fun _ is => by cases is) runs.clears
  · rename_i fits
    refine Leads.resume owned ledger active empty (Or.inl (runs.own batch))
      has Moves.goto.serve rfl rfl rfl (fun calls inside opened => ?_)
      (fun own => ⟨runs, ?_, Nat.zero_le _⟩) (fun _ is => by cases is)
      runs.clears
    · have room : (state.blocks index).count ≤ transport.capacity index :=
        owned.bounded index inside
      have fits := UInt32.le_iff_toNat_le.mp (UInt32.not_lt.mp fits)
      rw [UInt32.toNat_sub_of_le _ _ room,
        AppendCall.toNat_accepted runs.ready.counted] at fits
      have length := congrArg List.length opened.records
      rw [State.length_view, List.length_append] at length
      have room := UInt32.le_iff_toNat_le.mp room
      change (flat calls).length + _ ≤ _
      change _ = _ + 0 at length
      omega
    · rw [own, AppendCall.owner, batch]
      rfl

theorem Leads.load (at_ : state.position agent = .load call) :
    Leads transport state (state.load transport agent call) := by
  have valid := owned.valid agent
  rw [at_] at valid
  obtain ⟨runs, batch⟩ := valid
  have active : state.Active agent := owned.active
    (by rw [at_]; nofun) (by rw [at_]; nofun)
  have empty : (state.position agent).held = none := by rw [at_]; rfl
  unfold State.load
  split
  · exact Leads.fit owned ledger _ active empty runs batch
  rename_i index has
  split
  · exact Leads.resume owned ledger active empty
      (Or.inl (runs.own batch)) has Moves.goto rfl rfl rfl
      (fun _ _ _ => trivial) (fun own => ⟨⟨runs, batch⟩, own.symm⟩)
      (fun _ is => by cases is) runs.clears
  · exact Leads.fit owned ledger _ active empty runs batch

theorem Leads.begin {thread : Nat}
    (idle : state.position (.thread thread) = .idle)
    (used : Disciplined state (.call thread call))
    (counts : Counts state (.call thread call)) :
    Leads transport state (state.begin transport (.thread thread) call) := by
  have empty : (state.position (.thread thread)).held = none := by
    rw [idle]
    rfl
  have moves : ∀ {next position},
      Moves state next (.thread thread) position →
        next.successes = state.successes → position.held = none →
          position.Valid transport (.thread thread) →
            position.Claims state → Leads transport state next :=
    Leads.move owned ledger used.2 empty Agent.noConfusion
  unfold State.begin
  split
  · rename_i nothing
    refine moves Moves.answer ?_ rfl trivial (fun _ _ is => by cases is)
    have counted := AppendCall.toNat_accepted counts
    rw [nothing, AppendCall.length_prepared] at counted
    rw [successes_true rfl, if_neg, List.append_nil]
    rw [List.any_eq_true]
    rintro ⟨record, member, chosen⟩
    exact List.countP_eq_zero.mp counted.symm record member chosen
  rename_i some
  split
  · exact moves Moves.answer successes_false rfl trivial
      (fun _ _ is => by cases is)
  rename_i checked
  simp only [not_or, Nat.not_le] at checked
  have runs : Runs transport (.thread thread) call :=
    { ready := ⟨counts, some, checked.2.1⟩
      thread := Agent.noConfusion
      own := fun batch => by
        rcases used.1 with report | own
        · rw [report] at batch
          cases batch
        · rw [own] }
  split
  · rename_i report
    refine moves Moves.goto rfl rfl
      ⟨runs, fun _ => Nat.le_refl _, fun batch => ?_⟩ fun other index is => ?_
    · rw [report] at batch
      cases batch
    · intro batch
      cases is
      rw [report] at batch
      cases batch
  · rename_i batch
    exact moves Moves.goto rfl rfl ⟨runs, Bool.eq_false_iff.mpr batch⟩
      (fun _ _ is => by cases is)

theorem Leads.claim (at_ : state.position agent = .claim call index) :
    Leads transport state (state.claim transport agent call index) := by
  have valid := owned.valid agent
  rw [at_] at valid
  obtain ⟨runs, reports, batches⟩ := valid
  have active : state.Active agent := owned.active
    (by rw [at_]; nofun) (by rw [at_]; nofun)
  have empty : (state.position agent).held = none := by rw [at_]; rfl
  have onward : Leads transport state
      (state.goto agent (.claim call (index + 1))) := by
    refine Leads.move owned ledger active empty runs.thread Moves.goto rfl
      rfl ⟨runs, fun report => Nat.le_succ_of_le (reports report),
        fun batch => ⟨Nat.le_succ_of_le (batches batch).1,
          (batches batch).2⟩⟩ fun other next is batch => ?_
    cases is
    exact owned.claims agent call index at_ batch
  unfold State.claim
  split
  · exact Leads.move owned ledger active empty runs.thread Moves.answer
      successes_false rfl trivial (fun _ _ is => by cases is)
  rename_i below
  rw [Nat.not_le] at below
  obtain ⟨inside, own⟩ := claim_owner runs.ready.inside reports
    (fun batch => (batches batch).1) below
  split
  · exact onward
  rename_i roomy
  split
  swap
  · exact onward
  rename_i free
  have is := owned.phase_free inside free
  have producers : ∀ producer, transport.owner index = some producer →
      call.report = false ∧ call.producer = producer := by
    intro producer ours
    rw [own] at ours
    unfold AppendCall.owner at ours
    split at ours
    · cases ours
    · rename_i batch
      exact ⟨Bool.eq_false_iff.mpr batch, Option.some.inj ours⟩
  have small : call.accepted ≤ transport.capacity index := by
    cases report : call.report with
    | true => exact UInt32.not_lt.mp fun large => roomy ⟨report, large⟩
    | false =>
        have low : transport.owner index = some call.producer := by
          rw [own, AppendCall.owner, report]
          rfl
        have low := (Configuration.owner_eq_some.mp low).1
        have known := runs.ready.inside
        have small := (batches report).2
        rw [Configuration.capacity_producer (by omega)] at small
        rwa [Configuration.capacity_producer low]
  have acquired : Acquired transport state (state.acquire call index)
      index := State.acquired own
  revert acquired
  generalize state.acquire call index = next
  intro acquired
  have touches : Touches transport state
      (next.goto agent (.write call index 0)) agent index :=
    { blocks := fun other differ => by
        change next.blocks other = _
        rw [acquired.blocks, update_of_ne differ]
      views := fun other differ _ => by
        apply State.view_congr
        · change (next.blocks other).count = _
          rw [acquired.blocks, update_of_ne differ]
        · intro step _
          exact congrFun acquired.storage _
      positions := fun other differ => by
        change update next.position _ _ _ = _
        rw [update_of_ne differ, acquired.position]
      consumer := acquired.consumer
      drained := acquired.drained
      current := fun producer differ =>
        (acquired.current producer).trans (if_neg differ) }
  have self : (next.goto agent (.write call index 0)).position agent =
      .write call index 0 := update_self ..
  have value : (next.goto agent (.write call index 0)).blocks index =
      { state.blocks index with state := .producerOwned, count := 0 } :=
    (congrFun acquired.blocks index).trans (update_self ..)
  have kept : ∀ producer, transport.owner index = some producer →
      (next.goto agent (.write call index 0)).current producer =
        some index := fun producer ours =>
    (acquired.current producer).trans (if_pos ours)
  have blank : (next.goto agent (.write call index 0)).view transport
      index = [] := by
    apply List.eq_nil_of_length_eq_zero
    rw [State.length_view, value]
    rfl
  refine Leads.exchange owned ledger (.busy agent []) [] touches self inside
    active (by rw [is]; trivial)
    (fun other has => by rw [empty] at has; cases has) trivial rfl
    ⟨by rw [self]; rfl, fun _ => rfl, ?_⟩
    (by rw [value]; exact Nat.zero_le _)
    (fun other has => ⟨(Option.some.inj has).symm, [], rfl⟩)
    ⟨runs, own, Nat.zero_le _⟩ (fun other next at_ => by cases at_)
    (fun producer ours => ?_) runs.clears (by rw [is]; rfl)
    (List.forall_mem_nil _) (fun _ => rfl)
    (fun producer ours => ⟨kept producer ours, Or.inr ⟨?_, by rw [is]; rfl⟩⟩)
    acquired.delivered ?_ ?_ (fun after at_ => by cases at_)
  · exact
      { owned := by rw [value]
        current := kept
        records := by rw [blank, self]; rfl
        fits := by
          rw [self]
          change 0 + _ ≤ _
          rw [Nat.zero_add, ← AppendCall.toNat_accepted runs.ready.counted]
          exact UInt32.le_iff_toNat_le.mp small }
  · obtain ⟨batch, rfl⟩ := producers producer ours
    exact Or.inl (runs.own batch)
  · obtain ⟨batch, rfl⟩ := producers producer ours
    exact owned.claims agent call index at_ batch
  · rw [List.append_nil]
    unfold State.successes
    exact congrArg (fun answers => List.map _ (List.filter _ answers))
      acquired.returned
  · change _ ≤ next.sequence
    rw [acquired.sequence]
    exact UInt64.le_refl _

theorem Leads.write (at_ : state.position agent = .write call block done) :
    Leads transport state (state.write transport agent call block done) := by
  have valid := owned.valid agent
  rw [at_] at valid
  obtain ⟨runs, own, within⟩ := valid
  have holds : (state.position agent).held = some block := by rw [at_]; rfl
  obtain ⟨inside, calls, busy, report, opened⟩ := owned.opened holds
  unfold State.write
  cases found : call.records[done]? with
  | some record =>
      have more : done + 1 ≤ call.records.length :=
        (List.getElem?_eq_some_iff.mp found).1
      dsimp only
      split
      · rename_i chosen
        have grown := written_take found chosen
        have room := owned.room at_ found chosen
        have small := (transport.capacity block).toNat_lt
        have value : ((state.put transport block
            (call.prepare done record)).goto agent
              (.write call block (done + 1))).blocks block =
            { state.blocks block with
              count := (state.blocks block).count + 1 } := update_self ..
        refine Leads.keep owned ledger holds (owned.touches_put (by omega))
          (update_self ..) rfl (fun others had => ?_) ?_ ⟨runs, own, more⟩
          runs.clears rfl rfl (UInt64.le_refl _) (fun _ is => by cases is)
        · exact
            { owned := by rw [value]; exact had.owned
              current := had.current
              records := by
                refine (State.view_put (by omega)).trans ?_
                rw [had.records, at_]
                change _ = _ ++ call.written (done + 1)
                rw [grown]
                exact List.append_assoc ..
              fits := by
                have := had.fits
                rw [at_] at this
                exact this }
        · rw [value, UInt32.toNat_add]
          exact (Nat.mod_le _ _).trans (by
            change _ + 1 ≤ _
            omega)
      · rename_i skipped
        refine Leads.keep owned ledger holds Touches.goto (update_self ..)
          rfl (fun others had => had.goto ?_ ?_)
          (owned.bounded block inside) ⟨runs, own, more⟩ runs.clears rfl rfl
          (UInt64.le_refl _) (fun _ is => by cases is)
        · rw [at_]
          exact written_skip found (Bool.eq_false_iff.mpr skipped)
        · have := had.fits
          rw [at_] at this
          exact this
  | none =>
      have ended := AppendCall.written_past
        (List.getElem?_eq_none_iff.mp found)
      dsimp only
      split
      · refine Leads.keep owned ledger holds Touches.goto (update_self ..)
          rfl (fun others had => had.goto ?_ trivial)
          (owned.bounded block inside) ⟨runs, own.symm⟩ runs.clears rfl rfl
          (UInt64.le_refl _) (fun _ is => by cases is)
        rw [at_]
        exact ended.symm
      · rename_i partly
        rw [not_or] at partly
        have served : transport.owner block = some call.producer := by
          rw [own, AppendCall.owner, if_neg partly.1]
        have records := opened.records
        rw [at_] at records
        change _ = _ ++ call.written done at records
        rw [ended, ← flat_snoc] at records
        refine Leads.exchange owned ledger (.kept (calls ++ [call])) [call]
          ⟨fun _ _ => rfl, fun _ _ _ => rfl,
            fun _ differ => update_of_ne differ .., rfl, rfl,
            fun _ _ => rfl⟩ (update_self ..) inside
          (owned.active_of_held holds) (by rw [busy]; rfl)
          (fun other has => Option.some.inj (has.symm.trans holds)) trivial
          trivial ⟨by rw [served]; nofun, ?_⟩ (owned.bounded block inside)
          (fun other has => by cases has) trivial
          (fun other index is => by cases is)
          (fun producer ours => owned.holder holds ours) runs.clears
          (by rw [busy]; rfl)
          (fun other member => by
            rw [List.mem_singleton.mp member]; exact own.symm)
          (fun none_ => by rw [served] at none_; cases none_)
          (fun producer ours => ⟨opened.current producer ours,
            Or.inl (opened.current producer ours)⟩) rfl
          (by rw [successes_true rfl, if_pos runs.some]) (UInt64.le_refl _)
          (fun after is => by cases is)
        exact
          { owned := opened.owned
            current := opened.current
            records := records.trans (List.append_nil _).symm
            fits := trivial }

variable {after : Next Record}

theorem Leads.fetch (at_ : state.position agent = .fetch block after)
    (counts : state.sequence.toNat + 1 < 2 ^ 64) :
    Leads transport state (state.fetch agent block after) := by
  have valid := owned.valid agent
  rw [at_] at valid
  have holds : (state.position agent).held = some block := by rw [at_]; rfl
  have inside := (owned.opened holds).1
  have rises : state.sequence < state.sequence + 1 := by
    rw [UInt64.lt_iff_toNat_lt, UInt64.toNat_add]
    change _ < (_ + 1) % 2 ^ 64
    rw [Nat.mod_eq_of_lt counts]
    exact Nat.lt_succ_self _
  have value : (state.fetch agent block after).blocks block =
      { state.blocks block with sequence := state.sequence + 1 } :=
    update_self ..
  have view : (state.fetch agent block after).view transport block =
      state.view transport block :=
    State.view_congr (by rw [value]) fun _ _ => rfl
  have touches : Touches transport state (state.fetch agent block after)
      agent block :=
    { blocks := fun other differ => update_of_ne differ ..
      views := fun other differ _ => State.view_congr
        (congrArg Block.count (update_of_ne differ ..)) fun _ _ => rfl
      positions := fun other differ => update_of_ne differ ..
      consumer := rfl
      drained := rfl
      current := fun _ _ => rfl }
  have self : (state.fetch agent block after).position agent =
      .store block after := update_self ..
  refine Leads.keep owned ledger holds touches self rfl
    (fun calls had => ?_) (by rw [value]; exact owned.bounded block inside)
    valid (fun controls producer swept => ?_) rfl rfl
    (UInt64.le_of_lt rises) (fun other is => ?_)
  · exact
      { owned := by rw [value]; exact had.owned
        current := had.current
        records := by
          rw [view, had.records, at_]
          cases after <;> rfl
        fits := trivial }
  · apply owned.swept rfl producer
    rw [← controls, at_]
    cases after with
    | close index => exact swept
    | fit epoch call => exact swept
    | claim call => exact swept
    | done call => exact swept
  · cases is
    unfold Ahead
    rw [value]
    exact ⟨UInt64.le_refl _, fun entry member _ _ =>
      UInt64.lt_of_le_of_lt (ledger.below entry member) rises⟩

section

variable (at_ : state.position agent = .store block after)
include at_

theorem Leads.publish {news : List (AppendCall Record)}
    (moves : Moves (state.letGo block after.owner) next agent position)
    (successes : next.successes = state.successes ++ news)
    (inflight : (Position.store block after).inflight = flat news)
    (ours : ∀ call ∈ news, call.owner = transport.owner block)
    (empty : position.held = none) (valid : position.Valid transport agent)
    (claims : position.Claims next)
    (clears : position.Clears next agent) : Leads transport state next := by
  have holds : (state.position agent).held = some block := by rw [at_]; rfl
  obtain ⟨inside, calls, busy, report, opened⟩ := owned.opened holds
  have own := owned.valid agent
  rw [at_] at own
  obtain ⟨blocks, storage, moved, consumer, drained, delivered, -, sequence⟩ :=
    @State.letGo_fields _ state block after.owner
  have current : ∀ producer, next.current producer =
      if transport.owner block = some producer then none
      else state.current producer := by
    intro producer
    rw [moves.current, State.current_letGo, own.2]
  have blocks := moves.blocks.trans blocks
  have storage := moves.storage.trans storage
  have self := moves.self
  have value : next.blocks block =
      { state.blocks block with state := .published } := by
    rw [blocks, update_self]
  have touches : Touches transport state next agent block :=
    { blocks := fun other differ => by rw [blocks, update_of_ne differ]
      views := fun other differ _ => State.view_congr
        (by rw [blocks, update_of_ne differ]) fun _ _ => by rw [storage]
      positions := fun other differ =>
        (moves.others differ).trans (congrFun moved other)
      consumer := moves.consumer.trans consumer
      drained := moves.drained.trans drained
      current := fun producer differ =>
        (current producer).trans (if_neg differ) }
  have view : next.view transport block = flat (calls ++ news) := by
    have same : next.view transport block = state.view transport block :=
      State.view_congr (by rw [value]) fun _ _ => by rw [storage]
    rw [same, opened.records, at_, inflight]
    exact List.flatMap_append.symm
  have fresh : waiting transport next
      (update phase block (.sealed (calls ++ news))) block =
        [⟨next.delivery transport block, calls ++ news⟩] := by
    unfold waiting
    rw [update_self]
  have batches : ∀ call ∈ calls ++ news,
      call.owner = transport.owner block := by
    intro call member
    rcases List.mem_append.mp member with old | new
    · apply ledger.phases block call
      rw [busy]
      exact old
    · exact ours call new
  have before : (phase block).calls = calls := by rw [busy]; rfl
  have mine : (phase block).MineFor agent := by rw [busy]; rfl
  obtain ⟨below, ahead⟩ := ledger.ahead agent block after at_
  have rises : ∀ entry ∈ published, Rising transport entry
      ⟨next.delivery transport block, calls ++ news⟩ := by
    intro entry member same open_
    change _ < (next.blocks block).sequence
    rw [value]
    exact ahead entry member same open_
  have sequence := moves.sequence.trans sequence
  refine ⟨⟨update phase block (.sealed (calls ++ news)),
    published ++ [⟨next.delivery transport block, calls ++ news⟩], given,
    owned.exchange touches inside (owned.active_of_held holds) mine
      (fun other has => Option.some.inj (has.symm.trans holds))
      (fun producer is => Or.inr (opened.current producer is))
      ⟨Or.inl (by rw [value]), view⟩ (by rw [value]; nofun)
      (by rw [value]; exact owned.bounded block inside)
      (fun other has => by rw [self, empty] at has; cases has)
      (fun producer is => Or.inl ((current producer).trans (if_pos is)))
      (by rw [self]; exact valid) (by rw [self]; exact claims)
      (fun producer is => owned.holder holds is)
      (by rw [self]; exact clears),
    ledger.extend _ (moves.delivered.trans delivered) successes ?_ ?_ ?_ ?_ ?_
      (by rw [sequence]; exact UInt64.le_refl _) ?_ ?_⟩,
    fun index within handed => touches.delivery (fun same =>
      owned.unhanded inside mine (same ▸ handed)) within⟩
  · have moves := perm_flatMap_range inside
      (waiting transport state phase) (waiting transport next
        (update phase block (.sealed (calls ++ news))))
      fun other differ => ?_
    · rw [waiting_nil agent mine, fresh, List.append_nil] at moves
      exact moves.symm
    · unfold waiting State.delivery
      rw [update_of_ne differ, touches.blocks other differ]
      have same : next.view transport other = state.view transport other :=
        State.view_congr (by rw [touches.blocks other differ])
          fun _ _ => by rw [storage]
      rw [same]
  · intro entry member
    rw [List.mem_singleton.mp member]
    exact ⟨view, batches⟩
  · intro index call member
    by_cases same : index = block
    · subst same
      rw [update_self] at member
      exact batches call member
    · rw [update_of_ne same] at member
      exact ledger.phases index call member
  · intro owner
    have published := openCalls_published (.sealed (calls ++ news))
      owned touches (ledger.phases block) ours
      (fun none_ => before.trans (report none_))
      (fun producer is => ⟨(current producer).trans (if_pos is),
        opened.current producer is⟩) owner
    rw [before] at published
    rw [List.flatMap_singleton]
    exact published
  · rw [List.pairwise_append]
    exact ⟨ledger.rising, List.pairwise_singleton _ _,
      fun entry member late is => by
        rw [List.mem_singleton.mp is]
        exact rises entry member⟩
  · intro entry member
    rw [List.mem_singleton.mp member, sequence]
    change (next.blocks block).sequence ≤ _
    rw [value]
    exact below
  · intro party index follows position_
    have differ : party ≠ agent := by
      rintro rfl
      rw [← self, position_] at empty
      cases empty
    rw [touches.positions party differ] at position_
    have reaches : (state.position party).held = some index := by
      rw [position_]
      rfl
    obtain ⟨-, others, taken, -, other⟩ := owned.opened reaches
    have apart : index ≠ block := by
      rintro rfl
      rw [busy] at taken
      cases taken
      exact differ rfl
    obtain ⟨lower, early⟩ := ledger.ahead party index follows position_
    unfold Ahead
    rw [touches.blocks index apart, sequence]
    refine ⟨lower, fun entry member same open_ => ?_⟩
    rcases List.mem_append.mp member with old | new
    · exact early entry old same open_
    · rw [List.mem_singleton.mp new] at same
      obtain ⟨producer, is⟩ := Option.ne_none_iff_exists'.mp open_
      have first := opened.current producer (same.trans is)
      rw [other.current producer is, Option.some.injEq] at first
      exact absurd first apart

theorem Leads.store :
    Leads transport state (state.store transport agent block after) := by
  have valid := owned.valid agent
  rw [at_] at valid
  obtain ⟨follows, own⟩ := valid
  obtain ⟨blocks, -, moved, -, -, -, returned, -⟩ :=
    @State.letGo_fields _ state block after.owner
  have current : ∀ producer, after.owner = some producer →
      (state.letGo block after.owner).current producer = none :=
    fun producer is => State.current_letGo.trans (if_pos is)
  unfold State.store
  dsimp only
  cases after with
  | fit epoch call =>
      obtain ⟨runs, batch⟩ := follows
      have first := Leads.publish owned ledger at_
        (Moves.goto : Moves _ _ agent .idle) (List.append_nil _).symm rfl
        (List.forall_mem_nil _) rfl trivial
        (fun _ _ is => by cases is) runs.clears
      obtain ⟨⟨phase', published', given', owned', ledger'⟩, handed⟩ := first
      change Leads transport state
        ((state.letGo block (some call.producer)).fit transport agent epoch
          call)
      rw [← State.fit_goto .idle]
      have active : ((state.letGo block (some call.producer)).goto agent
          .idle).Active agent := by
        have holds : (state.position agent).held = some block := by
          rw [at_]
          rfl
        have active := owned.active_of_held holds
        rw [runs.own batch] at active ⊢
        have rests : ((state.letGo block (some call.producer)).goto
            (.thread call.producer) .idle).position .controller =
              state.position .controller :=
          (Moves.goto.others Agent.noConfusion).trans (congrFun moved _)
        exact rests.trans active
      have empty : (((state.letGo block (some call.producer)).goto agent
          .idle).position agent).held = none := by
        rw [Moves.goto.self]
        rfl
      have second := Leads.fit owned' ledger' epoch active empty runs batch
      refine ⟨second.sound, fun index inside before =>
        (second.handed index inside ?_).trans (handed index inside before)⟩
      unfold State.Handed
      rw [Moves.goto.blocks, blocks]
      by_cases same : index = block
      · rw [same, update_self]
        exact Or.inl rfl
      · rw [update_of_ne same]
        exact before
  | claim call =>
      obtain ⟨runs, batch, small⟩ := follows
      refine Leads.publish owned ledger at_ Moves.goto
        (List.append_nil _).symm rfl
        (List.forall_mem_nil _) rfl
        ⟨runs, fun report => ?_, fun _ => ⟨Nat.le_refl _, small⟩⟩
        (fun other index is _ => ?_) runs.clears
      · rw [batch] at report
        cases report
      · cases is
        exact current _ rfl
  | done call =>
      refine Leads.publish owned ledger at_ Moves.answer
        (?_ : _ = state.successes ++ [call]) (List.append_nil _).symm ?_ rfl
        trivial (fun _ _ is => by cases is) follows.clears
      · rw [successes_true rfl, if_pos follows.some]
        unfold State.successes
        rw [returned]
      · intro other member
        rw [List.mem_singleton.mp member]
        exact own
  | close index =>
      refine Leads.publish owned ledger at_ Moves.goto
        (List.append_nil _).symm rfl
        (List.forall_mem_nil _) rfl follows
        (fun _ _ is => by cases is) (fun controls producer swept => ?_)
      rcases Nat.lt_succ_iff_lt_or_eq.mp swept with earlier | rfl
      · change (state.letGo block (some index)).current producer = none
        rw [State.current_letGo]
        split
        · rfl
        · apply owned.swept rfl producer
          rw [← controls, at_]
          exact earlier
      · exact current _ rfl

end

theorem Leads.close (at_ : state.position agent = .close index) :
    Leads transport state (state.close transport agent index) := by
  have controls : agent = .controller := by
    have valid := owned.valid agent
    rw [at_] at valid
    exact valid
  subst controls
  have active : state.Active .controller := owned.active
    (by rw [at_]; nofun) (by rw [at_]; nofun)
  have empty : (state.position .controller).held = none := by
    rw [at_]
    rfl
  have earlier : ∀ producer < index, state.current producer = none :=
    fun producer before =>
      owned.swept rfl producer (by rw [at_]; exact before)
  have onward : ∀ {position : Position Record}, position.held = none →
      position.Valid transport .controller → position.Claims state →
      (∀ producer, position.swept producer → state.current producer = none) →
      Leads transport state (state.goto .controller position) :=
    fun after valid claims swept =>
      Leads.turn owned ledger (owned.turns active empty Moves.goto after
        valid claims fun _ => swept) Moves.goto.toStill rfl
        fun closed => absurd closed active.2
  unfold State.close
  split
  · rename_i ended
    refine onward rfl rfl (fun _ _ is => by cases is) fun producer _ => ?_
    cases has : state.current producer with
    | none => rfl
    | some kept =>
        have := Configuration.owner_eq_some.mp
          (owned.current producer kept has).1
        rw [earlier producer (by omega)] at has
        cases has
  · split
    · rename_i nothing
      refine onward rfl rfl (fun _ _ is => by cases is)
        fun producer before => ?_
      rcases Nat.lt_succ_iff_lt_or_eq.mp before with lower | rfl
      · exact earlier producer lower
      · exact nothing
    · rename_i kept has
      exact Leads.resume owned ledger active empty (Or.inr rfl) has
        Moves.goto rfl rfl rfl (fun _ _ _ => trivial)
        (fun own => ⟨rfl, own.symm⟩) (fun _ is => by cases is)
        (fun _ producer => earlier producer)

end

/-- Every operation of a party keeps the phases and the ledger. -/
theorem Leads.advance (sound : Sound transport state)
    (counts : Counts state (.advance agent)) :
    Leads transport state (state.advance transport agent) := by
  obtain ⟨phase, published, given, owned, ledger⟩ := sound
  have rest : Leads transport state state :=
    ⟨⟨phase, published, given, owned, ledger⟩, fun _ _ _ => rfl⟩
  unfold State.advance
  cases at_ : state.position agent with
  | idle => exact rest
  | closed => exact rest
  | load call => exact Leads.load owned ledger at_
  | claim call index => exact Leads.claim owned ledger at_
  | write call block done => exact Leads.write owned ledger at_
  | fetch block next => exact Leads.fetch owned ledger at_ counts
  | store block next => exact Leads.store owned ledger at_
  | close index => exact Leads.close owned ledger at_

end Dxmt9.Tracing
