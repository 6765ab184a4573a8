import Dxmt9.QueryScope.RangeTable
import Dxmt9.Transition.Run

/-!
# Runs of a range owner

Whatever calls an owner is given, its ranges partition the commands by their
results, a refused call changes nothing, and its marker is bound once or
cancelled.
-/

namespace Dxmt9.QueryScope

open QueryScopeRangeOwner Dxmt9.Transition

variable {capacities : Capacities} {owner next : QueryScopeRangeOwner}
  {input : OcclusionScope} {supplied : List OcclusionScope}

/-- An append that changes nothing, or one that commits. -/
theorem append_cases (capacities : Capacities) (owner : QueryScopeRangeOwner)
    (expected : WriterIdentity) (input : OcclusionScope)
    (commands : UInt32) {appended : QueryRangeStatus × QueryScopeRangeOwner}
    (appends : owner.append capacities expected input commands = appended) :
    let slot := owner.slotFor input
    let newScope := input.count != 0 && slot == owner.scopeCount
    (appended.2 = owner ∧ (appended.1 = .accepted → commands = 0)) ∨
      (appended.1 = .accepted ∧ commands ≠ 0 ∧ owner.phase = .writing ∧
        Distinct input ∧ input.count ≤ occlusionScopeCapacity ∧
        (newScope = true → owner.scopeCount ≠ capacities.scopes) ∧
        ∃ plan, Goes owner.cursor (identityOf owner input slot)
            commands.toNat
            { commands := owner.commandCapacity
              ranges := capacities.ranges } plan ∧
          appended.2 = owner.commitAppend input slot newScope
            (identityOf owner input slot) plan) := by
  intro slot newScope
  rw [← appends]
  clear appends
  unfold append
  split
  · exact .inl ⟨rfl, nofun⟩
  · rename_i called
    simp only [Bool.or_eq_true, decide_eq_true_eq, not_or, not_not,
      Bool.not_eq_true', Bool.not_eq_false] at called
    have sameOwner : expected = owner.cursor.owner := called.1.1.2
    split
    · exact .inl ⟨rfl, nofun⟩
    · rename_i admitted
      rw [Bool.not_eq_true', Bool.not_eq_false, List.all_eq_true] at admitted
      have distinct : Distinct input := distinct_of_admitted
        fun i inside => admitted i (List.mem_range.mpr inside)
      split
      · rename_i zero
        exact .inl ⟨rfl, fun _ => zero⟩
      · rename_i positive
        dsimp only
        split
        · exact .inl ⟨rfl, nofun⟩
        · rename_i room
          have identity : (if input.count ≠ 0 then
              ({ slot := owner.slotFor input + 1
                 generation := expected.storageGeneration } :
                QueryScopeIdentity)
              else {}) = identityOf owner input slot := by
            rw [sameOwner]
            rfl
          rw [identity]
          split
          · exact .inl ⟨rfl, nofun⟩
          · rename_i unsealed
            split
            · exact .inl ⟨rfl, nofun⟩
            · rename_i valid
              have count : commands.toNat ≠ 0 := fun zero =>
                positive (UInt32.toNat_inj.mp zero)
              refine .inr ⟨rfl, positive, called.1.1.1, distinct,
                Nat.le_of_not_lt called.2, ?_, _, plan_goes count unsealed
                  valid, rfl⟩
              intro isNew isFull
              apply room
              rw [Bool.and_eq_true, beq_iff_eq]
              exact ⟨isNew, isFull⟩

/-! ## What stays -/

/-- The cursor, the ranges and the scopes are as before. -/
structure SameRanges (owner next : QueryScopeRangeOwner) : Prop where
  cursor : next.cursor = owner.cursor
  commandCapacity : next.commandCapacity = owner.commandCapacity
  scopeCount : next.scopeCount = owner.scopeCount
  scopes : ∀ s < owner.scopeCount, next.scopes s = owner.scopes s
  ranges : ∀ i < owner.cursor.ranges, next.ranges i = owner.ranges i

/-- Nothing that can be read has changed. -/
structure Unchanged (owner next : QueryScopeRangeOwner) : Prop
    extends SameRanges owner next where
  endCount : next.endCount = owner.endCount
  ends : ∀ i < owner.endCount, next.ends i = owner.ends i
  endState : next.endState = owner.endState
  phase : next.phase = owner.phase

theorem unchanged_refl (owner : QueryScopeRangeOwner) :
    Unchanged owner owner :=
  ⟨⟨rfl, rfl, rfl, fun _ _ => rfl, fun _ _ => rfl⟩, rfl, fun _ _ => rfl, rfl,
    rfl⟩

variable {id : QueryScopeIdentity}

/-- What a failed preparation takes back is all that was written. -/
theorem restore_commit {slot : Nat} {newScope : Bool} {plan : QueryRangeDecision}
    (fresh : newScope = true → slot = owner.scopeCount) :
    Unchanged owner
      ((owner.commitAppend input slot newScope id plan).restore owner) where
  cursor := rfl
  commandCapacity := rfl
  scopeCount := rfl
  scopes s inside := by
    dsimp only [restore]
    rw [if_neg (fun bounds => Nat.not_lt_of_le bounds.1 inside)]
    dsimp only [commitAppend]
    split
    · rename_i isNew
      rw [fresh isNew]
      exact Function.update_of_ne (Nat.ne_of_lt inside) _ _
    · rfl
  ranges i inside := by
    dsimp only [restore]
    rw [if_pos (Nat.ne_of_gt (Nat.zero_lt_of_lt inside))]
    rcases Nat.eq_or_lt_of_le (Nat.le_sub_one_of_lt inside) with rfl | less
    · exact Function.update_self _ _ _
    · rw [Function.update_of_ne (Nat.ne_of_lt less)]
      dsimp only [commitAppend]
      split
      · exact Function.update_of_ne (Nat.ne_of_lt inside) _ _
      · exact Function.update_of_ne (Nat.ne_of_lt less) _ _
  endCount := rfl
  ends _ _ := rfl
  endState := rfl
  phase := rfl

theorem ScopeTable.kept (table : ScopeTable capacities owner)
    (same : SameRanges owner next) : ScopeTable capacities next := by
  refine ⟨?_, ?_, ?_, ?_, ?_⟩
  · rw [same.scopeCount]
    exact table.fits
  · intro s inside
    rw [same.scopeCount] at inside
    rw [same.scopes s inside]
    exact table.nonempty s inside
  · intro s inside
    rw [same.scopeCount] at inside
    rw [same.scopes s inside]
    exact table.bounded s inside
  · intro s inside
    rw [same.scopeCount] at inside
    rw [same.scopes s inside]
    exact table.distinct s inside
  · intro s inside t insideOther members
    rw [same.scopeCount] at inside insideOther
    rw [same.scopes s inside, same.scopes t insideOther] at members
    exact table.once s inside t insideOther members

section

variable (named : Named owner id) (same : SameRanges owner next)
include named same

theorem named_kept : Named next id := by
  unfold Named
  rw [same.scopeCount, same.cursor]
  exact named

theorem resolves_kept (result : OcclusionResult) :
    Resolves next id result ↔ Resolves owner id result := by
  rcases named with rfl | ⟨positive, inside, _⟩
  · exact iff_of_false (fun resolves => Nat.lt_irrefl 0 resolves.1)
      (fun resolves => Nat.lt_irrefl 0 resolves.1)
  · have below : id.slot - 1 < owner.scopeCount := by omega
    unfold Resolves
    rw [same.scopes _ below]

end

theorem RangeTable.kept (table : RangeTable capacities owner supplied)
    (same : SameRanges owner next) : RangeTable capacities next supplied := by
  have ranges : ∀ i < next.cursor.ranges, next.ranges i = owner.ranges i := by
    intro i inside
    rw [same.cursor] at inside
    exact same.ranges i inside
  refine {
    commands := by rw [same.cursor]; exact table.commands
    commandsFit := by
      rw [same.cursor, same.commandCapacity]
      exact table.commandsFit
    rangesFit := by rw [same.cursor]; exact table.rangesFit
    nothing := by rw [same.cursor]; exact table.nothing
    starts := fun some => by
      rw [ranges 0 some]
      rw [same.cursor] at some
      exact table.starts some
    stops := fun some => by
      rw [ranges _ (Nat.sub_lt some Nat.zero_lt_one)]
      rw [same.cursor] at some ⊢
      exact table.stops some
    nonempty := fun i inside => by
      rw [ranges i inside]
      rw [same.cursor] at inside
      exact table.nonempty i inside
    bounded := fun i inside => by
      rw [ranges i inside]
      rw [same.cursor] at inside ⊢
      exact table.bounded i inside
    contiguous := fun i inside => by
      rw [ranges _ inside, ranges i (Nat.lt_of_succ_lt inside)]
      rw [same.cursor] at inside
      exact table.contiguous i inside
    maximal := fun i inside => by
      rw [ranges _ inside, ranges i (Nat.lt_of_succ_lt inside)]
      rw [same.cursor] at inside
      exact table.maximal i inside
    last := fun some => by
      rw [ranges _ (Nat.sub_lt some Nat.zero_lt_one)]
      rw [same.cursor] at some ⊢
      exact table.last some
    named := fun i inside => by
      rw [ranges i inside]
      rw [same.cursor] at inside
      exact named_kept (table.named i inside) same
    resolves := ?_ }
  intro i inside command lower upper scope there result
  rw [ranges i inside] at lower upper ⊢
  rw [same.cursor] at inside
  rw [resolves_kept (table.named i inside) same]
  exact table.resolves i inside command lower upper scope there result

/-- The ENDs are in order, none behind the last command. -/
structure EndTable (capacities : Capacities)
    (owner : QueryScopeRangeOwner) : Prop where
  fits : owner.endCount ≤ capacities.ends
  bounded : ∀ i < owner.endCount,
    (owner.ends i).commandEnd ≤ owner.cursor.commands
  ordered : ∀ i j, i ≤ j → j < owner.endCount →
    (owner.ends i).commandEnd ≤ (owner.ends j).commandEnd

/-- The ENDs stay where they are while commands are added. -/
theorem EndTable.grown (table : EndTable capacities owner)
    (count : next.endCount = owner.endCount)
    (ends : ∀ i < owner.endCount, next.ends i = owner.ends i)
    (commands : owner.cursor.commands ≤ next.cursor.commands) :
    EndTable capacities next := by
  refine ⟨?_, ?_, ?_⟩
  · rw [count]
    exact table.fits
  · intro i inside
    rw [count] at inside
    rw [ends i inside]
    exact Nat.le_trans (table.bounded i inside) commands
  · intro i j before inside
    rw [count] at inside
    rw [ends i (Nat.lt_of_le_of_lt before inside), ends j inside]
    exact table.ordered i j before inside

theorem EndTable.add (table : EndTable capacities owner)
    (room : owner.endCount ≠ capacities.ends)
    (count : next.endCount = owner.endCount + 1)
    (old : ∀ i < owner.endCount, next.ends i = owner.ends i)
    (added : (next.ends owner.endCount).commandEnd = owner.cursor.commands)
    (cursor : next.cursor = owner.cursor) : EndTable capacities next := by
  have bounded : ∀ i < next.endCount,
      (next.ends i).commandEnd ≤ owner.cursor.commands := by
    intro i inside
    rw [count] at inside
    rcases Nat.lt_succ_iff_lt_or_eq.mp inside with less | rfl
    · rw [old i less]
      exact table.bounded i less
    · exact Nat.le_of_eq added
  refine ⟨?_, ?_, ?_⟩
  · rw [count]
    exact Nat.lt_of_le_of_ne table.fits room
  · rw [cursor]
    exact bounded
  · intro i j before inside
    have limit := bounded i (Nat.lt_of_le_of_lt before inside)
    rw [count] at inside
    rcases Nat.lt_succ_iff_lt_or_eq.mp inside with less | rfl
    · rw [old i (Nat.lt_of_le_of_lt before less), old j less]
      exact table.ordered i j before less
    · rw [added]
      exact limit

/-- A call, with what its callbacks do. -/
inductive Call where
  | append (expected : WriterIdentity) (input : OcclusionScope)
      (commands : UInt32)
  | appendWithPayload (expected : WriterIdentity) (input : OcclusionScope)
      (commands : UInt32) (prepareThrows : Bool)
  | end_ (expected : WriterIdentity) (initializer : UInt64)
      (factory : WriterIdentity → FactoryOutcome)
  | seal_ (expected : WriterIdentity)
  | bindPublished (expected : WriterIdentity) (sequence : UInt64)
  | cancelUnpublished

/-- An owner with what it was given: the input of each accepted command, and
the sequences that its marker was bound to. -/
structure QueryRun where
  owner : QueryScopeRangeOwner
  supplied : List OcclusionScope := []
  binds : List UInt64 := []

def QueryRun.start (writer : WriterIdentity) (commandCapacity : UInt32) :
    QueryRun :=
  { owner := makeOwner writer commandCapacity }

/-- The commands of an append that was accepted. -/
def QueryRun.accept (run : QueryRun) (input : OcclusionScope)
    (commands : UInt32) (result : QueryRangeStatus × QueryScopeRangeOwner) :
    QueryRun :=
  { run with
    owner := result.2
    supplied :=
      if result.1 = .accepted then
        run.supplied ++ List.replicate commands.toNat input
      else run.supplied }

/-- One call, and whether it was accepted. -/
def QueryRun.call (capacities : Capacities) (run : QueryRun) :
    Call → Bool × QueryRun
  | .append expected input commands =>
      let result := run.owner.append capacities expected input commands
      (result.1 == .accepted, run.accept input commands result)
  | .appendWithPayload expected input commands prepareThrows =>
      let result := run.owner.appendWithPayload capacities expected input
        commands prepareThrows
      (result.1 == .accepted, run.accept input commands result)
  | .end_ expected initializer factory =>
      let result := run.owner.end_ capacities expected initializer factory
      (result.1 == .accepted, { run with owner := result.2 })
  | .seal_ expected =>
      let result := run.owner.seal_ expected
      (result.1, { run with owner := result.2 })
  | .bindPublished expected sequence =>
      let result := run.owner.bindPublished expected sequence
      (result.1,
        { run with
          owner := result.2
          binds :=
            if result.1 && run.owner.endState.isSome then
              run.binds ++ [sequence]
            else run.binds })
  | .cancelUnpublished =>
      (true, { run with owner := run.owner.cancelUnpublished })

def QueryRun.step (capacities : Capacities) (run : QueryRun)
    (call : Call) : QueryRun :=
  (run.call capacities call).2

/-- The marker is unbound until the owner is published or cancelled, then bound
or cancelled for good. -/
structure MarkerState (run : QueryRun) : Prop where
  waits : run.owner.phase = .writing ∨ run.owner.phase = .sealed →
    run.binds = [] ∧ ∀ marker ∈ run.owner.endState,
      marker.owner = run.owner.cursor.owner ∧ marker.sequence = 0 ∧
        marker.cancelled = false
  bound : run.owner.phase = .published →
    run.binds = run.owner.endState.toList.map EndMarker.sequence ∧
      ∀ marker ∈ run.owner.endState,
        marker.sequence ≠ 0 ∧ marker.cancelled = false
  dropped : run.owner.phase = .cancelled →
    run.binds = [] ∧ ∀ marker ∈ run.owner.endState,
      marker.sequence = 0 ∧ marker.cancelled = true
  writer : run.owner.phase = .sealed ∨ run.owner.phase = .published →
    run.owner.cursor.owner.valid = true

theorem MarkerState.unchanged {run after : QueryRun}
    (state : MarkerState run) (phase : after.owner.phase = run.owner.phase)
    (endState : after.owner.endState = run.owner.endState)
    (writer : after.owner.cursor.owner = run.owner.cursor.owner)
    (binds : after.binds = run.binds) : MarkerState after := by
  refine ⟨?_, ?_, ?_, ?_⟩
  · rw [phase, endState, writer, binds]
    exact state.waits
  · rw [phase, endState, binds]
    exact state.bound
  · rw [phase, endState, binds]
    exact state.dropped
  · rw [phase, writer]
    exact state.writer

/-! ## Soundness -/

/-- The tables and the marker of an owner agree with what it was given. -/
structure OwnerSound (capacities : Capacities) (run : QueryRun) : Prop where
  scopes : ScopeTable capacities run.owner
  ranges : RangeTable capacities run.owner run.supplied
  ends : EndTable capacities run.owner
  marker : MarkerState run

variable {run after : QueryRun}

/-- What only changes parts that cannot be read keeps the agreement. -/
theorem OwnerSound.unchanged (sound : OwnerSound capacities run)
    (same : Unchanged run.owner after.owner)
    (supplied : after.supplied = run.supplied)
    (binds : after.binds = run.binds) : OwnerSound capacities after where
  scopes := sound.scopes.kept same.toSameRanges
  ranges := by
    rw [supplied]
    exact sound.ranges.kept same.toSameRanges
  ends := sound.ends.grown same.endCount same.ends
    (Nat.le_of_eq (congrArg QueryRangeCursor.commands same.cursor.symm))
  marker := sound.marker.unchanged same.phase same.endState
    (congrArg QueryRangeCursor.owner same.cursor) binds

/-- The agreement at the start. -/
theorem sound_start (capacities : Capacities) (writer : WriterIdentity)
    (commandCapacity : UInt32) :
    OwnerSound capacities (.start writer commandCapacity) where
  scopes := ⟨Nat.zero_le _, fun _ inside => absurd inside (Nat.not_lt_zero _),
    fun _ inside => absurd inside (Nat.not_lt_zero _),
    fun _ inside => absurd inside (Nat.not_lt_zero _),
    fun _ inside => absurd inside (Nat.not_lt_zero _)⟩
  ranges := {
    commands := rfl
    commandsFit := Nat.zero_le _
    rangesFit := Nat.zero_le _
    nothing := fun _ => rfl
    starts := fun some => absurd some (Nat.not_lt_zero _)
    stops := fun some => absurd some (Nat.not_lt_zero _)
    nonempty := fun _ inside => absurd inside (Nat.not_lt_zero _)
    bounded := fun _ inside => absurd inside (Nat.not_lt_zero _)
    contiguous := fun _ inside => absurd inside (Nat.not_lt_zero _)
    maximal := fun _ inside => absurd inside (Nat.not_lt_zero _)
    last := fun some => absurd some (Nat.not_lt_zero _)
    named := fun _ inside => absurd inside (Nat.not_lt_zero _)
    resolves := fun _ inside => absurd inside (Nat.not_lt_zero _) }
  ends := ⟨Nat.zero_le _, fun _ inside => absurd inside (Nat.not_lt_zero _),
    fun _ _ _ inside => absurd inside (Nat.not_lt_zero _)⟩
  marker := ⟨fun _ => ⟨rfl, nofun⟩, nofun, nofun, by rintro (h | h) <;> cases h⟩

/-- An append keeps the agreement. -/
theorem sound_append (sound : OwnerSound capacities run)
    (expected : WriterIdentity) (input : OcclusionScope) (commands : UInt32) :
    OwnerSound capacities (run.accept input commands
      (run.owner.append capacities expected input commands)) := by
  generalize appends : run.owner.append capacities expected input commands =
    appended
  rcases append_cases capacities run.owner expected input commands appends
    with ⟨same, empty⟩ | ⟨accepted, positive, phase, distinct, bounded, room,
      plan, goes, commits⟩
  · apply sound.unchanged
    · change Unchanged run.owner appended.2
      rw [same]
      exact unchanged_refl _
    · change (if appended.1 = .accepted then _ else _) = run.supplied
      split
      · rename_i accepted
        rw [empty accepted]
        exact List.append_nil _
      · rfl
    · rfl
  · have sameOwner : plan.next.owner = run.owner.cursor.owner := by
      rw [goes.next]
    have count : 0 < commands.toNat :=
      Nat.pos_of_ne_zero fun zero => positive (UInt32.toNat_inj.mp zero)
    have stores := stores_commit sound.scopes distinct bounded plan sameOwner
      room
    have ranges := sound.ranges.commit count stores goes
    obtain ⟨status, next⟩ := appended
    cases accepted
    dsimp only at commits
    cases commits
    refine ⟨stores.table, ranges, sound.ends.grown rfl (fun _ _ => rfl) ?_,
      sound.marker.unchanged rfl rfl sameOwner rfl⟩
    change _ ≤ plan.next.commands
    rw [goes.next]
    exact Nat.le_add_right _ _

theorem append_refused {expected : WriterIdentity} {commands : UInt32}
    (refused : (owner.append capacities expected input commands).1 ≠
      .accepted) :
    (owner.append capacities expected input commands).2 = owner := by
  rcases append_cases capacities owner expected input commands rfl with
    ⟨same, _⟩ | ⟨accepted, _⟩
  · exact same
  · exact absurd accepted refused

variable {result : QueryRangeStatus × QueryScopeRangeOwner}

theorem appendWithPayload_cases (capacities : Capacities)
    (owner : QueryScopeRangeOwner) (expected : WriterIdentity)
    (input : OcclusionScope) (commands : UInt32) (prepareThrows : Bool)
    (appends : owner.appendWithPayload capacities expected input commands
      prepareThrows = result) :
    result = owner.append capacities expected input commands ∨
      (result.1 = .allocationFailed ∧ Unchanged owner result.2) := by
  rw [← appends]
  clear appends
  unfold appendWithPayload
  dsimp only
  split
  · exact .inl rfl
  · rename_i called
    simp only [Bool.or_eq_true, decide_eq_true_eq, beq_iff_eq, not_or,
      not_not] at called
    split
    · refine .inr ⟨rfl, ?_⟩
      rcases append_cases capacities owner expected input commands rfl with
        ⟨_, empty⟩ | ⟨_, _, _, _, _, _, plan, _, commits⟩
      · exact absurd (empty called.1) called.2
      · rw [commits]
        apply restore_commit
        intro isNew
        rw [Bool.and_eq_true, beq_iff_eq] at isNew
        exact isNew.2
    · exact .inl (Prod.ext called.1.symm rfl)

/-- An END keeps the agreement: it stands at the last command, and its marker
is the one of the owner. -/
theorem end_cases (capacities : Capacities) (owner : QueryScopeRangeOwner)
    (expected : WriterIdentity) (initializer : UInt64)
    (factory : WriterIdentity → FactoryOutcome)
    (ends : owner.end_ capacities expected initializer factory = result) :
    (result.2 = owner ∧ result.1 ≠ .accepted) ∨
      (result.1 = .accepted ∧ owner.phase = .writing ∧
        owner.endCount ≠ capacities.ends ∧
        ∃ marker : EndMarker, marker.owner = owner.cursor.owner ∧
          marker.sequence = 0 ∧ marker.cancelled = false ∧
          result.2 =
            { owner with
              endState := some marker
              ends := Function.update owner.ends owner.endCount
                { commandEnd := owner.cursor.commands
                  initializer := initializer }
              endCount := owner.endCount + 1 }) := by
  rw [← ends]
  clear ends
  unfold end_
  split
  · exact .inl ⟨rfl, nofun⟩
  · rename_i called
    simp only [Bool.or_eq_true, decide_eq_true_eq, not_or, not_not,
      Bool.not_eq_true', Bool.not_eq_false] at called
    split
    · exact .inl ⟨rfl, nofun⟩
    · rename_i room
      dsimp only
      split
      · exact .inl ⟨rfl, nofun⟩
      · exact .inl ⟨rfl, nofun⟩
      · rename_i marker staged
        split
        · exact .inl ⟨rfl, nofun⟩
        · rename_i fresh
          simp only [Bool.or_eq_true, decide_eq_true_eq, not_or, not_not,
            bne_iff_ne, Bool.not_eq_true] at fresh
          exact .inr ⟨rfl, called.1.1.1, room, marker,
            fresh.1.1.trans called.1.1.2, fresh.1.2, fresh.2, rfl⟩

theorem sound_end (sound : OwnerSound capacities run)
    (expected : WriterIdentity) (initializer : UInt64)
    (factory : WriterIdentity → FactoryOutcome) :
    OwnerSound capacities
      { run with
        owner :=
          (run.owner.end_ capacities expected initializer factory).2 } := by
  generalize ends : run.owner.end_ capacities expected initializer factory =
    result
  rcases end_cases capacities run.owner expected initializer factory ends with
    ⟨same, _⟩ | ⟨_, writing, room, marker, isOwner, unbound, kept, next⟩
  · rw [same]
    exact sound
  · rw [next]
    have same : SameRanges run.owner
        { run.owner with
          endState := some marker
          ends := Function.update run.owner.ends run.owner.endCount
            { commandEnd := run.owner.cursor.commands
              initializer := initializer }
          endCount := run.owner.endCount + 1 } :=
      ⟨rfl, rfl, rfl, fun _ _ => rfl, fun _ _ => rfl⟩
    refine ⟨sound.scopes.kept same, sound.ranges.kept same,
      sound.ends.add room rfl ?_ ?_ rfl, ?_⟩
    · exact fun i inside => Function.update_of_ne (Nat.ne_of_lt inside) _ _
    · dsimp only
      rw [Function.update_self]
    · refine ⟨fun _ => ⟨(sound.marker.waits (.inl writing)).1, ?_⟩, ?_, ?_,
        sound.marker.writer⟩
      · intro other isMarker
        rw [← Option.some.inj isMarker]
        exact ⟨isOwner, unbound, kept⟩
      · intro published
        exact nomatch writing.symm.trans published
      · intro cancelled
        exact nomatch writing.symm.trans cancelled

/-- A marker that waits is bound when its owner is published. -/
theorem bind_waiting {marker : EndMarker} {writer : WriterIdentity}
    {sequence : UInt64} (isOwner : marker.owner = writer)
    (unbound : marker.sequence = 0) (kept : marker.cancelled = false)
    (valid : writer.valid = true) (positive : sequence ≠ 0) :
    marker.bind writer sequence =
      (true, { marker with sequence := sequence }) := by
  unfold EndMarker.bind canBindEnd
  rw [if_pos]
  simp [isOwner, unbound, kept, valid, positive]

section

variable (sound : OwnerSound capacities run)
include sound

section

variable (expected : WriterIdentity)
include expected

/-- The owner is published under a sequence, and its marker is bound to it; or
the call is refused. -/
theorem bindPublished_cases (sequence : UInt64) :
    run.owner.bindPublished expected sequence = (false, run.owner) ∨
      (run.owner.phase = .sealed ∧ sequence ≠ 0 ∧
        run.owner.bindPublished expected sequence =
          (true,
            { run.owner with
              endState := run.owner.endState.map fun marker =>
                { marker with sequence := sequence }
              phase := .published })) := by
  unfold bindPublished
  split
  · exact .inl rfl
  · rename_i called
    simp only [Bool.or_eq_true, decide_eq_true_eq, not_or, not_not,
      beq_iff_eq] at called
    have isSealed := called.1.1
    refine .inr ⟨isSealed, called.2, ?_⟩
    cases isMarker : run.owner.endState with
    | none => rfl
    | some marker =>
        obtain ⟨_, waits⟩ := sound.marker.waits (.inr isSealed)
        obtain ⟨isOwner, unbound, kept⟩ := waits marker isMarker
        have valid := sound.marker.writer (.inl isSealed)
        have binds : marker.bind expected sequence =
            (true, { marker with sequence := sequence }) := by
          rw [called.1.2]
          exact bind_waiting isOwner unbound kept valid called.2
        dsimp only
        rw [binds]
        rfl

theorem sound_bind (sequence : UInt64) :
    OwnerSound capacities
      (run.step capacities (.bindPublished expected sequence)) := by
  dsimp only [QueryRun.step, QueryRun.call]
  rcases bindPublished_cases sound expected sequence with
    refused | ⟨isSealed, positive, bound⟩
  · rw [refused]
    exact sound.unchanged (unchanged_refl _) rfl rfl
  · rw [bound]
    obtain ⟨noBinds, waits⟩ := sound.marker.waits (.inr isSealed)
    have same : SameRanges run.owner
        { run.owner with
          endState := run.owner.endState.map fun marker =>
            { marker with sequence := sequence }
          phase := .published } :=
      ⟨rfl, rfl, rfl, fun _ _ => rfl, fun _ _ => rfl⟩
    refine ⟨sound.scopes.kept same, sound.ranges.kept same,
      sound.ends.grown rfl (fun _ _ => rfl) (Nat.le_refl _), ?_, ?_, nofun,
      fun _ => sound.marker.writer (.inl isSealed)⟩
    · rintro (writing | isSealed)
      · exact nomatch writing
      · exact nomatch isSealed
    · intro _
      cases isMarker : run.owner.endState with
      | none => exact ⟨noBinds, nofun⟩
      | some marker =>
          refine ⟨?_, ?_⟩
          · dsimp only
            rw [noBinds]
            rfl
          · intro other isOther
            rw [← Option.some.inj isOther]
            exact ⟨positive, (waits marker isMarker).2.2⟩

theorem sound_seal :
    OwnerSound capacities (run.step capacities (.seal_ expected)) := by
  dsimp only [QueryRun.step, QueryRun.call, seal_]
  split
  · exact sound.unchanged (unchanged_refl _) rfl rfl
  · rename_i called
    simp only [Bool.or_eq_true, decide_eq_true_eq, not_or, not_not,
      beq_iff_eq, Bool.not_eq_true', Bool.not_eq_false] at called
    have same : SameRanges run.owner { run.owner with phase := .sealed } :=
      ⟨rfl, rfl, rfl, fun _ _ => rfl, fun _ _ => rfl⟩
    refine ⟨sound.scopes.kept same, sound.ranges.kept same,
      sound.ends.grown rfl (fun _ _ => rfl) (Nat.le_refl _),
      fun _ => sound.marker.waits (.inl called.1.1.1), nofun, nofun,
      fun _ => ?_⟩
    change run.owner.cursor.owner.valid = true
    rw [← called.1.2]
    exact called.1.1.2

end

theorem sound_cancel :
    OwnerSound capacities
      { run with owner := run.owner.cancelUnpublished } := by
  unfold cancelUnpublished
  split
  · exact sound.unchanged (unchanged_refl _) rfl rfl
  · rename_i unfinished
    have waiting : run.owner.phase = .writing ∨
        run.owner.phase = .sealed := by
      cases phase : run.owner.phase with
      | writing => exact .inl rfl
      | sealed => exact .inr rfl
      | published => exact absurd (.inl phase) unfinished
      | cancelled => exact absurd (.inr phase) unfinished
    obtain ⟨noBinds, waits⟩ := sound.marker.waits waiting
    have same : SameRanges run.owner
        { run.owner with
          endState := run.owner.endState.map EndMarker.cancel
          phase := .cancelled } :=
      ⟨rfl, rfl, rfl, fun _ _ => rfl, fun _ _ => rfl⟩
    refine ⟨sound.scopes.kept same, sound.ranges.kept same,
      sound.ends.grown rfl (fun _ _ => rfl) (Nat.le_refl _), ?_, nofun,
      fun _ => ⟨noBinds, ?_⟩, ?_⟩
    · rintro (writing | isSealed)
      · exact nomatch writing
      · exact nomatch isSealed
    · intro marker isMarker
      obtain ⟨before, isBefore, rfl⟩ := Option.mem_map.mp isMarker
      exact ⟨(waits before isBefore).2.1, rfl⟩
    · rintro (isSealed | published)
      · exact nomatch isSealed
      · exact nomatch published

/-- Every call keeps the agreement. -/
theorem OwnerSound.step (call : Call) :
    OwnerSound capacities (run.step capacities call) := by
  cases call with
  | append expected input commands =>
      exact sound_append sound expected input commands
  | appendWithPayload expected input commands prepareThrows =>
      change OwnerSound capacities (run.accept input commands
        (run.owner.appendWithPayload capacities expected input commands
          prepareThrows))
      generalize appends : run.owner.appendWithPayload capacities expected
        input commands prepareThrows = result
      rcases appendWithPayload_cases capacities run.owner expected input
        commands prepareThrows appends with same | ⟨failed, restored⟩
      · rw [same]
        exact sound_append sound expected input commands
      · apply sound.unchanged restored
        · change (if result.1 = .accepted then _ else _) = run.supplied
          rw [failed]
          rfl
        · rfl
  | end_ expected initializer factory =>
      exact sound_end sound expected initializer factory
  | seal_ expected => exact sound_seal sound expected
  | bindPublished expected sequence => exact sound_bind sound expected sequence
  | cancelUnpublished => exact sound_cancel sound

/-- A refused call changes nothing that can be read. -/
theorem OwnerSound.refused {call : Call}
    (refused : (run.call capacities call).1 = false) :
    Unchanged run.owner (run.call capacities call).2.owner := by
  cases call with
  | append expected input commands =>
      have notAccepted : (run.owner.append capacities expected input
          commands).1 ≠ .accepted := beq_eq_false_iff_ne.mp refused
      change Unchanged run.owner (run.owner.append capacities expected input
        commands).2
      rw [append_refused notAccepted]
      exact unchanged_refl _
  | appendWithPayload expected input commands prepareThrows =>
      have notAccepted : (run.owner.appendWithPayload capacities expected
          input commands prepareThrows).1 ≠ .accepted :=
        beq_eq_false_iff_ne.mp refused
      change Unchanged run.owner (run.owner.appendWithPayload capacities
        expected input commands prepareThrows).2
      rcases appendWithPayload_cases capacities run.owner expected input
        commands prepareThrows rfl with same | ⟨_, restored⟩
      · rw [same] at notAccepted ⊢
        rw [append_refused notAccepted]
        exact unchanged_refl _
      · exact restored
  | end_ expected initializer factory =>
      have notAccepted : (run.owner.end_ capacities expected initializer
          factory).1 ≠ .accepted := beq_eq_false_iff_ne.mp refused
      change Unchanged run.owner (run.owner.end_ capacities expected
        initializer factory).2
      rcases end_cases capacities run.owner expected initializer factory rfl
        with ⟨same, _⟩ | ⟨accepted, _⟩
      · rw [same]
        exact unchanged_refl _
      · exact absurd accepted notAccepted
  | seal_ expected =>
      dsimp only [QueryRun.call, seal_] at refused ⊢
      split at refused
      · rename_i called
        rw [if_pos called]
        exact unchanged_refl _
      · exact nomatch refused
  | bindPublished expected sequence =>
      dsimp only [QueryRun.call] at refused ⊢
      rcases bindPublished_cases sound expected sequence with
        same | ⟨_, _, bound⟩
      · rw [same]
        exact unchanged_refl _
      · rw [bound] at refused
        exact nomatch refused
  | cancelUnpublished => exact nomatch refused

end

end Dxmt9.QueryScope
