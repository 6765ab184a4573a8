import Dxmt9.SessionRelease.ClosedPrefix
import Dxmt9.SessionRelease.OrderedDelivery

/-!
# Reuse of a closed prefix is sound

A close acknowledges like the transport itself.  An acknowledgement by reuse
is one that the transport grants, behind a chain of closes of the same prefix
that starts at a certified run of the helper and is not interrupted.
-/

namespace Dxmt9.SessionRelease

open SessionReleaseState

namespace ClosedPrefixWitness

variable {transport : SessionReleaseState}
  {snapshot : SessionReleaseSnapshot} {context : ClosedPrefixContext}
  {outcome : ClosedPrefixOutcome} {rawCoverage sequenceCoverage : UInt64}

/-- A rejected certification leaves the transport as it is; a certificate is
of an acknowledgement. -/
theorem acknowledgeAndCertify_cases (transport : SessionReleaseState)
    (snapshot : SessionReleaseSnapshot) (context : ClosedPrefixContext)
    (outcome : ClosedPrefixOutcome)
    (rawCoverage sequenceCoverage : UInt64) :
    acknowledgeAndCertify transport snapshot context outcome rawCoverage
        sequenceCoverage = (transport, none) ∨
      ∃ witness : ClosedPrefixWitness,
        witness.context = context ∧
        witness.acknowledged = snapshot.event ∧
        transport.peekNext = some snapshot ∧
        transport.acknowledge snapshot .passClosed rawCoverage
          sequenceCoverage = (.acknowledged, transport.withoutNext snapshot) ∧
        acknowledgeAndCertify transport snapshot context outcome rawCoverage
            sequenceCoverage =
          (transport.withoutNext snapshot, some witness) := by
  unfold acknowledgeAndCertify
  split
  · rcases transport.acknowledge_cases snapshot .passClosed rawCoverage
        sequenceCoverage with
      ⟨result, notAcknowledged, rejected⟩ | ⟨peeked, _, _, accepted⟩
    · left
      simp only [rejected]
      exact if_neg notAcknowledged
    · right
      simp only [accepted]
      exact ⟨_, rfl, rfl, peeked, trivial, rfl⟩
  · exact Or.inl rfl

end ClosedPrefixWitness

namespace ClosedPrefixCoordinator

theorem acknowledgeClose_eq (coordinator : ClosedPrefixCoordinator)
    (transport : SessionReleaseState) (snapshot : SessionReleaseSnapshot)
    (outcome : ClosedPrefixOutcome)
    (rawCoverage sequenceCoverage publishedSequence : UInt64) :
    let done := coordinator.acknowledgeClose transport snapshot outcome
      rawCoverage sequenceCoverage publishedSequence
    (done.1, done.2.1) =
      transport.acknowledge snapshot .passClosed rawCoverage
        sequenceCoverage := by
  intro done
  unfold done acknowledgeClose
  simp only
  rcases ClosedPrefixWitness.acknowledgeAndCertify_cases transport snapshot
      _ outcome rawCoverage sequenceCoverage with
    rejected | ⟨witness, _, _, _, accepted, certified⟩
  · rw [rejected]
  · rw [certified, accepted]

theorem acknowledgeClose_witness {coordinator : ClosedPrefixCoordinator}
    {transport : SessionReleaseState} {snapshot : SessionReleaseSnapshot}
    {outcome : ClosedPrefixOutcome}
    {rawCoverage sequenceCoverage publishedSequence : UInt64}
    {witness : ClosedPrefixWitness}
    (left : (coordinator.acknowledgeClose transport snapshot outcome
      rawCoverage sequenceCoverage publishedSequence).2.2.witness =
        some witness) :
    (coordinator.acknowledgeClose transport snapshot outcome rawCoverage
        sequenceCoverage publishedSequence).1 = .acknowledged ∧
      (coordinator.acknowledgeClose transport snapshot outcome rawCoverage
        sequenceCoverage publishedSequence).2.2.context = witness.context ∧
      witness.context.publishedSequence = publishedSequence ∧
      witness.acknowledged = snapshot.event ∧
      transport.peekNext = some snapshot := by
  unfold acknowledgeClose at *
  simp only at *
  rcases ClosedPrefixWitness.acknowledgeAndCertify_cases transport snapshot
      { coordinator.context with
        publishedSequence := publishedSequence
        encoderQuiescent := !coordinator.context.stopped } outcome
      rawCoverage sequenceCoverage with
    rejected | ⟨certificate, context, acknowledged, peeked, _, certified⟩
  · rw [rejected] at left
    contradiction
  · rw [certified] at left ⊢
    obtain rfl := Option.some.inj left
    refine ⟨rfl, context.symm, ?_, acknowledged, peeked⟩
    rw [context]

theorem tryAcknowledgeReuse_cases (coordinator : ClosedPrefixCoordinator)
    (transport : SessionReleaseState) (snapshot : SessionReleaseSnapshot)
    (writer : SessionReleaseWriter) (rangesEnabled : Bool)
    (publishedSequence sequenceCoverage : UInt64)
    (contextSideEffectsAbsent : Bool) (rawCoverage : UInt64) :
    let done := coordinator.tryAcknowledgeReuse transport snapshot writer
      rangesEnabled publishedSequence sequenceCoverage
      contextSideEffectsAbsent rawCoverage
    done.succeeded = false ∧ done.transport = transport ∧
        done.coordinator = coordinator ∧ done.rawCoverage = rawCoverage ∨
      ∃ witness renewed : ClosedPrefixWitness,
        done.succeeded = true ∧
        coordinator.witness = some witness ∧
        done.coordinator = { coordinator with witness := some renewed } ∧
        renewed.context = coordinator.context ∧
        renewed.acknowledged = snapshot.event ∧
        publishedSequence = coordinator.context.publishedSequence ∧
        transport.acknowledgedOrdinal = witness.acknowledged.ordinal ∧
        transport.peekNext = some snapshot ∧
        done.rawCoverage = max rawCoverage snapshot.event.fenceRawOrdinal ∧
        transport.acknowledge snapshot .passClosed
            (max rawCoverage snapshot.event.fenceRawOrdinal)
            sequenceCoverage =
          (.acknowledged, done.transport) ∧
        done.transport = transport.withoutNext snapshot := by
  intro done
  unfold done tryAcknowledgeReuse
  simp only
  cases held : coordinator.witness with
  | none => exact Or.inl ⟨rfl, rfl, rfl, rfl⟩
  | some witness =>
      simp only
      split
      · exact Or.inl ⟨rfl, rfl, rfl, rfl⟩
      · rename_i checks
        simp only [not_or, Bool.not_eq_false, ne_eq, not_not] at checks
        obtain ⟨_, published, _, permits⟩ := checks
        have last : transport.acknowledgedOrdinal =
            witness.acknowledged.ordinal := by
          unfold ClosedPrefixWitness.permits at permits
          simp only [Bool.and_eq_true, beq_iff_eq] at permits
          exact permits.1.1.1.1.2
        rcases ClosedPrefixWitness.acknowledgeAndCertify_cases transport
            snapshot coordinator.context .noActivePass
            (max rawCoverage snapshot.event.fenceRawOrdinal)
            sequenceCoverage with
          rejected |
            ⟨renewed, context, acknowledged, peeked, accepted, certified⟩
        · rw [rejected]
          exact Or.inl ⟨rfl, rfl, rfl, rfl⟩
        · rw [certified]
          exact Or.inr ⟨witness, renewed, rfl, rfl, rfl, context,
            acknowledged, published, last, peeked, rfl, accepted, rfl⟩

end ClosedPrefixCoordinator

/-! ## The chain behind a witness -/

namespace ClosedPrefixQueue

/-- How many events the transport has acknowledged. -/
def acknowledgedCount (queue : ClosedPrefixQueue) : Nat :=
  (acknowledgedOrdinals queue.transport.log).length

/-- The journal ends with a certified run of the helper and the reuses of its
prefix, and nothing else. -/
def Uninterrupted (journal : List PrefixEvent) (sequence : UInt64)
    (last : SessionReleaseEvent) : Prop :=
  ∃ before root reused,
    journal = before ++
      .certified root sequence :: reused.map PrefixEvent.reused ∧
    (∀ event ∈ root :: reused, ClosesAt event sequence) ∧
    (root :: reused).getLast? = some last

/-- What a witness says of the journal: no change of the encoder since the
helper has run, and an uninterrupted chain while its event is the last one
acknowledged. -/
structure Certifies (queue : ClosedPrefixQueue)
    (witness : ClosedPrefixWitness) : Prop where
  context : queue.coordinator.context = witness.context
  behind : witness.acknowledged.ordinal.toNat ≤ queue.acknowledgedCount
  chain : witness.acknowledged.ordinal.toNat = queue.acknowledgedCount →
    Uninterrupted queue.journal witness.context.publishedSequence
      witness.acknowledged

/-- What holds of the queue after every call. -/
structure Sound (queue : ClosedPrefixQueue) : Prop where
  ordered : queue.transport.Ordered
  certifies : ∀ witness, queue.coordinator.witness = some witness →
    Certifies queue witness

theorem sound_create (identity : UInt64) :
    Sound { coordinator := ClosedPrefixCoordinator.create identity } where
  ordered := Transport.ordered_run []
  certifies := fun _ held => nomatch held

variable {queue : ClosedPrefixQueue}

theorem count_eq (ordered : queue.transport.Ordered) :
    queue.transport.state.acknowledgedOrdinal.toNat =
      queue.acknowledgedCount :=
  ordered.1.sound.acknowledgedOrdinal

variable {snapshot : SessionReleaseSnapshot}

theorem peeked_ordinal (ordered : queue.transport.Ordered)
    (peeked : queue.transport.state.peekNext = some snapshot) :
    snapshot.event.ordinal.toNat = queue.acknowledgedCount + 1 := by
  have sound := ordered.1.sound
  rw [sound.peekNext_eq] at peeked
  obtain ⟨rest, split⟩ := List.head?_eq_some_iff.mp peeked
  exact sound.first_ordinal split

theorem ordered_acknowledge (ordered : queue.transport.Ordered)
    {state : SessionReleaseState} {coordinator : ClosedPrefixCoordinator}
    {rawCoverage sequenceCoverage : UInt64} {event : PrefixEvent}
    (accepted : queue.transport.state.acknowledge snapshot .passClosed
      rawCoverage sequenceCoverage = (.acknowledged, state)) :
    (queue.acknowledge state coordinator snapshot rawCoverage
      sequenceCoverage event).transport.Ordered := by
  have stepped := Transport.ordered_step queue.transport
    (.acknowledge snapshot .passClosed rawCoverage sequenceCoverage) ordered
  simp only [Transport.step, accepted, if_true] at stepped
  exact stepped

theorem acknowledgedCount_acknowledge (state : SessionReleaseState)
    (coordinator : ClosedPrefixCoordinator) (snapshot : SessionReleaseSnapshot)
    (rawCoverage sequenceCoverage : UInt64) (event : PrefixEvent) :
    (queue.acknowledge state coordinator snapshot rawCoverage
      sequenceCoverage event).acknowledgedCount =
        queue.acknowledgedCount + 1 := by
  unfold acknowledgedCount acknowledge acknowledgedOrdinals
  rw [List.filterMap_append, List.length_append]
  rfl

theorem acknowledgedCount_transport (call : Call) :
    (queue.step (.transport call)).acknowledgedCount =
      queue.acknowledgedCount +
        (call.acknowledges queue.transport.state).toList.length := by
  have posted : ∀ result : SessionReleasePostResult,
      (acknowledgedOrdinals (queue.transport.log ++
        postEffects result)).length = queue.acknowledgedCount := by
    intro result
    unfold acknowledgedCount acknowledgedOrdinals postEffects
    rw [List.filterMap_append]
    split <;> exact congrArg List.length (List.append_nil _)
  cases call with
  | tryPostOrdered => exact posted _
  | requestTerminal => exact posted _
  | peekNext => rfl
  | acknowledge snapshot completion coveredRawOrdinal coveredSeqId =>
      unfold acknowledgedCount step Transport.step Call.acknowledges
      simp only
      split
      · unfold acknowledgedOrdinals
        rw [List.filterMap_append, List.length_append]
        rfl
      · rfl

theorem sound_transport (sound : Sound queue) (call : Call) :
    Sound (queue.step (.transport call)) where
  ordered := Transport.ordered_step queue.transport call sound.ordered
  certifies := by
    intro witness held
    have certifies := sound.certifies witness held
    have behind := certifies.behind
    have counted := @acknowledgedCount_transport queue call
    cases acknowledges : call.acknowledges queue.transport.state with
    | none =>
        rw [acknowledges] at counted
        change _ = queue.acknowledgedCount at counted
        have journal : (queue.step (.transport call)).journal =
            queue.journal := by
          change queue.journal ++
            ((call.acknowledges queue.transport.state).map
              PrefixEvent.acknowledged).toList = _
          rw [acknowledges]
          exact List.append_nil _
        refine ⟨certifies.context, counted ▸ behind, ?_⟩
        rw [counted, journal]
        exact certifies.chain
    | some event =>
        -- The event that is acknowledged now is a later one.
        rw [acknowledges] at counted
        change _ = queue.acknowledgedCount + 1 at counted
        refine ⟨certifies.context, by omega, fun last => ?_⟩
        omega

theorem sound_acknowledgeClose (sound : Sound queue)
    (snapshot : SessionReleaseSnapshot) (outcome : ClosedPrefixOutcome)
    (rawCoverage sequenceCoverage publishedSequence : UInt64) :
    Sound (queue.step (.acknowledgeClose snapshot outcome rawCoverage
      sequenceCoverage publishedSequence)) := by
  have plain := queue.coordinator.acknowledgeClose_eq queue.transport.state
    snapshot outcome rawCoverage sequenceCoverage publishedSequence
  have witnessed := @ClosedPrefixCoordinator.acknowledgeClose_witness
    queue.coordinator queue.transport.state snapshot outcome rawCoverage
    sequenceCoverage publishedSequence
  unfold step
  simp only at plain ⊢
  generalize queue.coordinator.acknowledgeClose queue.transport.state
    snapshot outcome rawCoverage sequenceCoverage publishedSequence =
      done at plain witnessed ⊢
  rcases queue.transport.state.acknowledge_cases snapshot .passClosed
      rawCoverage sequenceCoverage with
    ⟨result, notAcknowledged, rejected⟩ | ⟨peeked, _, _, accepted⟩
  · rw [rejected] at plain
    obtain ⟨isResult, isState⟩ := Prod.mk.inj plain
    rw [if_pos (isResult ▸ notAcknowledged), isState]
    refine ⟨sound.ordered, fun witness held => ?_⟩
    exact absurd ((witnessed held).1.symm.trans isResult)
      (Ne.symm notAcknowledged)
  · rw [accepted] at plain
    obtain ⟨isResult, isState⟩ := Prod.mk.inj plain
    rw [if_neg (not_not.mpr isResult), isState]
    refine ⟨ordered_acknowledge sound.ordered accepted, fun witness held => ?_⟩
    obtain ⟨_, context, published, acknowledged, _⟩ := witnessed held
    have ordinal := peeked_ordinal sound.ordered peeked
    have counted := @acknowledgedCount_acknowledge queue
      (queue.transport.state.withoutNext snapshot) done.2.2 snapshot
      rawCoverage sequenceCoverage
    change done.2.2.witness = some witness at held
    refine ⟨context, ?_, fun _ => ?_⟩
    · rw [counted, acknowledged]
      exact ordinal.le
    · refine ⟨queue.journal, snapshot.event, [], ?_, ?_, ?_⟩
      · unfold acknowledge
        rw [held, published]
        rfl
      · intro event member
        rw [List.mem_singleton.mp member, ← acknowledged]
        exact witness.closes
      · rw [acknowledged]
        rfl

theorem sound_tryAcknowledgeReuse (sound : Sound queue)
    (snapshot : SessionReleaseSnapshot) (writer : SessionReleaseWriter)
    (rangesEnabled : Bool) (publishedSequence sequenceCoverage : UInt64)
    (contextSideEffectsAbsent : Bool) (rawCoverage : UInt64) :
    Sound (queue.step (.tryAcknowledgeReuse snapshot writer rangesEnabled
      publishedSequence sequenceCoverage contextSideEffectsAbsent
      rawCoverage)) := by
  have cases := queue.coordinator.tryAcknowledgeReuse_cases
    queue.transport.state snapshot writer rangesEnabled publishedSequence
    sequenceCoverage contextSideEffectsAbsent rawCoverage
  unfold step
  simp only at cases ⊢
  generalize queue.coordinator.tryAcknowledgeReuse queue.transport.state
    snapshot writer rangesEnabled publishedSequence sequenceCoverage
    contextSideEffectsAbsent rawCoverage = done at cases ⊢
  rcases cases with
    ⟨failed, transport, coordinator, _⟩ |
      ⟨witness, renewed, succeeded, held, coordinator, context,
        acknowledged, _, last, peeked, raw, accepted, _⟩
  · rw [failed, transport, coordinator]
    exact sound
  · rw [succeeded, if_pos rfl, raw]
    refine ⟨ordered_acknowledge sound.ordered accepted,
      fun other isRenewed => ?_⟩
    have ordinal := peeked_ordinal sound.ordered peeked
    have counted := @acknowledgedCount_acknowledge queue done.transport
      done.coordinator snapshot (max rawCoverage
        snapshot.event.fenceRawOrdinal) sequenceCoverage
      (.reused snapshot.event)
    change done.coordinator.witness = some other at isRenewed
    rw [coordinator] at isRenewed
    obtain rfl := Option.some.inj isRenewed
    have certifies := sound.certifies witness held
    have current : witness.acknowledged.ordinal.toNat =
        queue.acknowledgedCount := by
      rw [← last]
      exact count_eq sound.ordered
    obtain ⟨before, root, reused, journal, closes, _⟩ :=
      certifies.chain current
    have same : renewed.context = witness.context :=
      context.trans certifies.context
    refine ⟨?_, ?_, fun _ => ?_⟩
    · change done.coordinator.context = renewed.context
      rw [coordinator, context]
    · rw [counted, acknowledged]
      exact ordinal.le
    · refine ⟨before, root, reused ++ [snapshot.event], ?_, ?_, ?_⟩
      · unfold acknowledge
        rw [journal, same, List.map_append, List.append_assoc,
          List.cons_append]
        rfl
      · intro event member
        rw [← List.cons_append, List.mem_append, List.mem_singleton] at member
        rcases member with before | rfl
        · rw [same]
          exact closes event before
        · rw [← acknowledged]
          exact renewed.closes
      · rw [← List.cons_append, List.getLast?_append, acknowledged]
        rfl

theorem sound_step (queue : ClosedPrefixQueue) (call : PrefixCall)
    (sound : Sound queue) : Sound (queue.step call) := by
  cases call with
  | transport call => exact sound_transport sound call
  | beginMutation => exact ⟨sound.ordered, fun _ held => nomatch held⟩
  | stop => exact ⟨sound.ordered, fun _ held => nomatch held⟩
  | acknowledgeClose snapshot outcome rawCoverage sequenceCoverage
      publishedSequence =>
      exact sound_acknowledgeClose sound snapshot outcome rawCoverage
        sequenceCoverage publishedSequence
  | tryAcknowledgeReuse snapshot writer rangesEnabled publishedSequence
      sequenceCoverage contextSideEffectsAbsent rawCoverage =>
      exact sound_tryAcknowledgeReuse sound snapshot writer rangesEnabled
        publishedSequence sequenceCoverage contextSideEffectsAbsent
        rawCoverage

theorem runPrefix_sound (identity : UInt64) (calls : List PrefixCall) :
    Sound (runPrefix identity calls) :=
  Transition.run_invariant sound_step (sound_create identity) calls

/-- Behind every interleaving of calls, a close acknowledges like the
transport; a reuse that fails changes nothing; and one that succeeds is an
acknowledgement that the transport grants, directly behind an uninterrupted
chain of closes of the same published sequence. -/
theorem closed_prefix_reuse_sound (identity : UInt64)
    (calls : List PrefixCall) :
    let queue := runPrefix identity calls
    (∀ snapshot outcome rawCoverage sequenceCoverage publishedSequence,
      let done := queue.coordinator.acknowledgeClose queue.transport.state
        snapshot outcome rawCoverage sequenceCoverage publishedSequence
      (done.1, done.2.1) =
        queue.transport.state.acknowledge snapshot .passClosed rawCoverage
          sequenceCoverage) ∧
      ∀ snapshot writer rangesEnabled publishedSequence sequenceCoverage
          contextSideEffectsAbsent rawCoverage,
        let done := queue.coordinator.tryAcknowledgeReuse
          queue.transport.state snapshot writer rangesEnabled
          publishedSequence sequenceCoverage contextSideEffectsAbsent
          rawCoverage
        (done.succeeded = false →
          done.transport = queue.transport.state ∧
            done.coordinator = queue.coordinator ∧
            done.rawCoverage = rawCoverage) ∧
        (done.succeeded = true →
          queue.transport.state.acknowledge snapshot .passClosed
              done.rawCoverage sequenceCoverage =
            (.acknowledged, done.transport) ∧
          ∃ last, Uninterrupted queue.journal publishedSequence last) := by
  intro queue
  have sound : Sound queue := runPrefix_sound identity calls
  constructor
  · intro snapshot outcome rawCoverage sequenceCoverage publishedSequence
    exact queue.coordinator.acknowledgeClose_eq queue.transport.state
      snapshot outcome rawCoverage sequenceCoverage publishedSequence
  · intro snapshot writer rangesEnabled publishedSequence sequenceCoverage
      contextSideEffectsAbsent rawCoverage done
    rcases queue.coordinator.tryAcknowledgeReuse_cases
        queue.transport.state snapshot writer rangesEnabled
        publishedSequence sequenceCoverage contextSideEffectsAbsent
        rawCoverage with
      ⟨failed, unchanged⟩ |
        ⟨witness, renewed, succeeded, held, _, _, _, published, last, _,
          raw, accepted, _⟩
    · refine ⟨fun _ => unchanged, fun succeeded => ?_⟩
      exact nomatch failed.symm.trans succeeded
    · refine ⟨fun failed => ?_,
        fun _ => ⟨raw ▸ accepted, witness.acknowledged, ?_⟩⟩
      · exact nomatch succeeded.symm.trans failed
      have certifies := sound.certifies witness held
      rw [published, certifies.context]
      apply certifies.chain
      rw [← last]
      exact count_eq sound.ordered

/-- An observation of the prefix up to the fifth sequence. -/
def observation (ordinal fenceRawOrdinal : UInt64) :
    SessionReleaseSnapshot :=
  orderedSnapshot
    { ordinal := ordinal
      reason := .directObservation
      action := .closePass
      fenceRawOrdinal := fenceRawOrdinal
      fenceSeqId := 5 }

example :
    (runPrefix 1
      [.transport (.tryPostOrdered .directObservation .closePass 1 5),
        .acknowledgeClose (observation 1 1) .closed 1 5 5,
        .transport (.tryPostOrdered .directObservation .closePass 2 5),
        .tryAcknowledgeReuse (observation 2 2) .retainQueryRange true 5 5
          true 1]).journal =
      [.certified (observation 1 1).event 5,
        .reused (observation 2 2).event] := by
  decide

end ClosedPrefixQueue

end Dxmt9.SessionRelease
