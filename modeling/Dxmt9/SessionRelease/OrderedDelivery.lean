import Dxmt9.SessionRelease.PendingReleases

/-!
# Ordered delivery of releases

The log of a run against its transport: the ordinals posted are those
acknowledged followed by those pending, each pending event is at its current
value, and the fences follow the waterline.
-/

namespace Dxmt9.SessionRelease

open Dxmt9.Transition SessionReleaseState

/-! ## Readings of the log -/

/-- The snapshot of an accepted post. -/
def Effect.acceptance : Effect → Option SessionReleaseSnapshot
  | .posted snapshot => some snapshot
  | .advanced snapshot => some snapshot
  | .acknowledged _ _ _ _ => none

def acceptances (log : List Effect) : List SessionReleaseSnapshot :=
  log.filterMap Effect.acceptance

/-- The ordinal of a new event. -/
def Effect.postedOrdinal : Effect → Option UInt64
  | .posted snapshot => some snapshot.event.ordinal
  | _ => none

def postedOrdinals (log : List Effect) : List UInt64 :=
  log.filterMap Effect.postedOrdinal

def Effect.acknowledgedOrdinal : Effect → Option UInt64
  | .acknowledged snapshot _ _ _ => some snapshot.event.ordinal
  | _ => none

def acknowledgedOrdinals (log : List Effect) : List UInt64 :=
  log.filterMap Effect.acknowledgedOrdinal

/-- The value and the generation of an event as last accepted. -/
def current (log : List Effect) (ordinal : UInt64) :
    Option SessionReleaseSnapshot :=
  (acceptances log).reverse.find? fun snapshot =>
    snapshot.event.ordinal == ordinal

variable {effect : Effect} {snapshot : SessionReleaseSnapshot}

section

variable (log : List Effect) (accepts : effect.acceptance = some snapshot)
include log accepts

theorem acceptances_snoc :
    acceptances (log ++ [effect]) = acceptances log ++ [snapshot] := by
  rw [acceptances, List.filterMap_append, List.filterMap_cons, accepts]
  rfl

theorem current_snoc (ordinal : UInt64) :
    current (log ++ [effect]) ordinal =
      if snapshot.event.ordinal = ordinal then some snapshot
      else current log ordinal := by
  unfold current
  rw [acceptances_snoc log accepts, List.reverse_append,
    List.reverse_singleton, List.singleton_append, List.find?_cons]
  by_cases same : snapshot.event.ordinal = ordinal
  · rw [if_pos same, same, beq_self_eq_true]
  · rw [if_neg same, beq_eq_false_iff_ne.mpr same]

end

/-- An acknowledgement names an event at its current value and generation,
with both fences covered and its action completed; ordered events are posted
before any terminal request. -/
def Reason (before : List Effect) : Effect → Prop
  | .posted snapshot =>
      snapshot.origin = .ordered →
        ∀ earlier ∈ acceptances before, earlier.origin = .ordered
  | .advanced snapshot => snapshot.origin = .terminal
  | .acknowledged snapshot completion coveredRawOrdinal coveredSeqId =>
      current before snapshot.event.ordinal = some snapshot ∧
        sessionReleaseFenceCovered snapshot.event coveredRawOrdinal
          coveredSeqId = true ∧
        sessionReleaseCompletionSatisfies snapshot.event.action
          completion = true

/-- The fences of one snapshot are not after those of another. -/
def FencesLe (earlier later : SessionReleaseSnapshot) : Prop :=
  earlier.event.fenceRawOrdinal ≤ later.event.fenceRawOrdinal ∧
    earlier.event.fenceSeqId ≤ later.event.fenceSeqId

namespace Transport

/-- Accepted fences never step back from the waterline. -/
structure Fenced (transport : Transport) : Prop where
  ordered : (acceptances transport.log).Pairwise FencesLe
  waterline : ∀ snapshot ∈ acceptances transport.log,
    snapshot.event.fenceRawOrdinal ≤ transport.state.lastFenceRawOrdinal ∧
      snapshot.event.fenceSeqId ≤ transport.state.lastFenceSeqId
  latched : transport.state.terminal.active = true →
    transport.state.terminal.event.fenceRawOrdinal =
        transport.state.lastFenceRawOrdinal ∧
      transport.state.terminal.event.fenceSeqId =
        transport.state.lastFenceSeqId

variable {transport : Transport} {snapshot : SessionReleaseSnapshot}
  {state : SessionReleaseState}

theorem Fenced.accept (fenced : transport.Fenced)
    {effect : Effect}
    (accepts : effect.acceptance = some snapshot)
    (rawOrdinal : transport.state.lastFenceRawOrdinal ≤
      snapshot.event.fenceRawOrdinal)
    (seqId : transport.state.lastFenceSeqId ≤ snapshot.event.fenceSeqId)
    (newRaw : state.lastFenceRawOrdinal = snapshot.event.fenceRawOrdinal)
    (newSeq : state.lastFenceSeqId = snapshot.event.fenceSeqId)
    (latched : state.terminal.active = true →
      state.terminal.event = snapshot.event) :
    Fenced { state := state, log := transport.log ++ [effect] } := by
  have dominates : ∀ earlier ∈ acceptances transport.log,
      FencesLe earlier snapshot := by
    intro earlier member
    obtain ⟨rawBound, seqBound⟩ := fenced.waterline earlier member
    exact ⟨UInt64.le_trans rawBound rawOrdinal, UInt64.le_trans seqBound seqId⟩
  constructor
  · rw [acceptances_snoc _ accepts, List.pairwise_append]
    refine ⟨fenced.ordered, List.pairwise_singleton _ _, ?_⟩
    intro earlier member last isLast
    obtain rfl := List.mem_singleton.mp isLast
    exact dominates earlier member
  · intro earlier member
    rw [acceptances_snoc _ accepts, List.mem_append,
      List.mem_singleton] at member
    rw [newRaw, newSeq]
    rcases member with before | rfl
    · exact dominates earlier before
    · exact ⟨UInt64.le_refl _, UInt64.le_refl _⟩
  · intro active
    rw [newRaw, newSeq, latched active]
    exact ⟨rfl, rfl⟩

/-- The acknowledged ordinals, then the pending ones, are those posted; what
is pending is current. -/
structure Delivers (transport : Transport) : Prop where
  sound : transport.state.Sound (acknowledgedOrdinals transport.log).length
  posted : (postedOrdinals transport.log).map UInt64.toNat =
    List.range' 1 ((acknowledgedOrdinals transport.log).length +
      transport.state.pending.length)
  acknowledged : (acknowledgedOrdinals transport.log).map UInt64.toNat =
    List.range' 1 (acknowledgedOrdinals transport.log).length
  current : ∀ snapshot ∈ transport.state.pending,
    current transport.log snapshot.event.ordinal = some snapshot
  requested : transport.state.terminalRequested = false →
    ∀ snapshot ∈ acceptances transport.log, snapshot.origin = .ordered
  justified : Justified Reason transport.log

theorem delivers_initial : Delivers {} := by
  constructor
  · exact SessionReleaseState.sound_initial
  · rfl
  · rfl
  · intro snapshot member
    contradiction
  · intro _ snapshot member
    contradiction
  · exact justified_nil Reason

theorem fenced_initial : Fenced {} := by
  constructor
  · exact List.Pairwise.nil
  · intro snapshot member
    contradiction
  · intro active
    contradiction

section

variable (delivers : transport.Delivers)
include delivers

/-- A new event extends the pending ones. -/
theorem Delivers.post
    (ordinal : snapshot.event.ordinal = transport.state.nextOrdinal)
    (pending : state.pending = transport.state.pending ++ [snapshot])
    (sound : state.Sound (acknowledgedOrdinals transport.log).length)
    (running : snapshot.origin = .ordered →
      transport.state.terminalRequested = false)
    (requested : state.terminalRequested = false →
      transport.state.terminalRequested = false ∧
        snapshot.origin = .ordered) :
    Delivers { state := state, log := transport.log ++ [.posted snapshot] }
    := by
  have sameAcknowledged :
      acknowledgedOrdinals (transport.log ++ [.posted snapshot]) =
        acknowledgedOrdinals transport.log := by
    rw [acknowledgedOrdinals, List.filterMap_append]
    exact List.append_nil _
  have accepts := acceptances_snoc transport.log
    (rfl : (Effect.posted snapshot).acceptance = some snapshot)
  constructor
  · rw [sameAcknowledged]
    exact sound
  · have grown : postedOrdinals (transport.log ++ [.posted snapshot]) =
        postedOrdinals transport.log ++ [snapshot.event.ordinal] := by
      rw [postedOrdinals, List.filterMap_append]
      rfl
    simp only [sameAcknowledged, grown, pending, List.map_append,
      delivers.posted, List.length_append, List.length_singleton]
    rw [← Nat.add_assoc, List.range'_concat, List.map_singleton, ordinal,
      delivers.sound.next]
    congr 2
    omega
  · rw [sameAcknowledged]
    exact delivers.acknowledged
  · intro other member
    simp only [pending, List.mem_append, List.mem_singleton] at member
    rw [current_snoc _ rfl]
    rcases member with before | rfl
    · have apart : snapshot.event.ordinal ≠ other.event.ordinal := by
        intro same
        have behind := delivers.sound.ordinal_lt_next before
        rw [← ordinal, same] at behind
        exact UInt64.lt_irrefl _ behind
      rw [if_neg apart]
      exact delivers.current other before
    · exact if_pos rfl
  · intro stillRunning other member
    obtain ⟨wasRunning, origin⟩ := requested stillRunning
    rw [accepts, List.mem_append, List.mem_singleton] at member
    rcases member with before | rfl
    · exact delivers.requested wasRunning other before
    · exact origin
  · apply delivers.justified.snoc
    intro isOrdered
    exact delivers.requested (running isOrdered)

theorem Delivers.advance
    {earlier : SessionReleaseSnapshot}
    {front : List SessionReleaseSnapshot}
    (ordinal : snapshot.event.ordinal = earlier.event.ordinal)
    (before : transport.state.pending = front ++ [earlier])
    (after : state.pending = front ++ [snapshot])
    (sound : state.Sound (acknowledgedOrdinals transport.log).length)
    (origin : snapshot.origin = .terminal)
    (requested : state.terminalRequested = true) :
    Delivers { state := state, log := transport.log ++ [.advanced snapshot] }
    := by
  have sameAcknowledged :
      acknowledgedOrdinals (transport.log ++ [.advanced snapshot]) =
        acknowledgedOrdinals transport.log := by
    rw [acknowledgedOrdinals, List.filterMap_append]
    exact List.append_nil _
  have samePosted : postedOrdinals (transport.log ++ [.advanced snapshot]) =
        postedOrdinals transport.log := by
    rw [postedOrdinals, List.filterMap_append]
    exact List.append_nil _
  constructor
  · rw [sameAcknowledged]
    exact sound
  · have sameLength : state.pending.length =
        transport.state.pending.length := by
      rw [before, after, List.length_append, List.length_append]
      rfl
    simp only [sameAcknowledged, samePosted, sameLength]
    exact delivers.posted
  · rw [sameAcknowledged]
    exact delivers.acknowledged
  · intro other member
    simp only [after, List.mem_append, List.mem_singleton] at member
    rw [current_snoc _ rfl]
    rcases member with inFront | rfl
    · have apart : snapshot.event.ordinal ≠ other.event.ordinal := by
        rw [ordinal]
        exact (delivers.sound.ordinal_ne_last before inFront).symm
      rw [if_neg apart]
      apply delivers.current other
      rw [before]
      exact List.mem_append_left _ inFront
    · exact if_pos rfl
  · intro stillRunning
    rw [requested] at stillRunning
    contradiction
  · exact delivers.justified.snoc origin

theorem Delivers.acknowledge
    {completion : SessionReleaseCompletion}
    {coveredRawOrdinal coveredSeqId : UInt64}
    (peeked : transport.state.peekNext = some snapshot)
    (covered : sessionReleaseFenceCovered snapshot.event coveredRawOrdinal
      coveredSeqId = true)
    (completed : sessionReleaseCompletionSatisfies snapshot.event.action
      completion = true) :
    Delivers
      { state := transport.state.withoutNext snapshot
        log := transport.log ++
          [.acknowledged snapshot completion coveredRawOrdinal
            coveredSeqId] } := by
  rw [delivers.sound.peekNext_eq, List.head?_eq_some_iff] at peeked
  obtain ⟨rest, split⟩ := peeked
  have shrunk := delivers.sound.pending_withoutNext split
  have member : snapshot ∈ transport.state.pending := by
    rw [split]
    exact List.mem_cons_self
  have grown : acknowledgedOrdinals (transport.log ++
        [.acknowledged snapshot completion coveredRawOrdinal coveredSeqId]) =
      acknowledgedOrdinals transport.log ++ [snapshot.event.ordinal] := by
    rw [acknowledgedOrdinals, List.filterMap_append]
    rfl
  have sameAccepted : acceptances (transport.log ++
        [.acknowledged snapshot completion coveredRawOrdinal coveredSeqId]) =
      acceptances transport.log := by
    rw [acceptances, List.filterMap_append]
    exact List.append_nil _
  have samePosted : postedOrdinals (transport.log ++
        [.acknowledged snapshot completion coveredRawOrdinal coveredSeqId]) =
      postedOrdinals transport.log := by
    rw [postedOrdinals, List.filterMap_append]
    exact List.append_nil _
  constructor
  · rw [grown, List.length_append]
    exact delivers.sound.withoutNext split
  · have posted := delivers.posted
    rw [split, List.length_cons] at posted
    simp only [samePosted, posted, grown, shrunk, List.length_append,
      List.length_singleton]
    congr 1
    omega
  · rw [grown, List.map_append, delivers.acknowledged, List.length_append,
      List.length_singleton, List.range'_concat, List.map_singleton,
      delivers.sound.first_ordinal split]
    congr 2
    omega
  · intro other isPending
    simp only [shrunk] at isPending
    have before : other ∈ transport.state.pending := by
      rw [split]
      exact List.mem_cons_of_mem _ isPending
    unfold SessionRelease.current
    rw [sameAccepted]
    exact delivers.current other before
  · intro running
    rw [sameAccepted]
    apply delivers.requested
    rw [← running]
    simp only [withoutNext]
    cases snapshot.origin with
    | ordered => rfl
    | terminal => rfl
  · exact delivers.justified.snoc
      ⟨delivers.current snapshot member, covered, completed⟩

end

/-! ## Runs -/

/-- What holds of the transport and its log after every call. -/
def Ordered (transport : Transport) : Prop :=
  transport.Delivers ∧ transport.Fenced

theorem postEffects_rejected {status : SessionReleasePostStatus}
    (notPosted : status ≠ .posted) (notAdvanced : status ≠ .advanced)
    (snapshot : SessionReleaseSnapshot) :
    postEffects { status := status, snapshot := snapshot } = [] := by
  cases status with
  | posted => contradiction
  | advanced => contradiction
  | full => rfl
  | invalid => rfl
  | stopped => rfl
  | exhausted => rfl

theorem Fenced.latch_behind
    (fenced : transport.Fenced)
    (active : transport.state.terminal.active = true) :
    transport.state.terminal.event.fenceRawOrdinal ≤
        transport.state.lastFenceRawOrdinal ∧
      transport.state.terminal.event.fenceSeqId ≤
        transport.state.lastFenceSeqId := by
  obtain ⟨rawOrdinal, seqId⟩ := fenced.latched active
  rw [rawOrdinal, seqId]
  exact ⟨UInt64.le_refl _, UInt64.le_refl _⟩

section

variable (ordered : transport.Ordered) (reason : SessionReleaseReason)
include ordered reason

theorem ordered_step_tryPostOrdered
    (action : SessionReleaseAction) (fenceRawOrdinal fenceSeqId : UInt64) :
    (transport.step
      (.tryPostOrdered reason action fenceRawOrdinal fenceSeqId)).Ordered
    := by
  obtain ⟨delivers, fenced⟩ := ordered
  rcases transport.state.tryPostOrdered_cases reason action fenceRawOrdinal
      fenceSeqId with
    ⟨status, notPosted, notAdvanced, rejected⟩ |
      ⟨event, running, space, allocates, accepted⟩
  · simp only [step, rejected, List.append_nil,
      postEffects_rejected notPosted notAdvanced]
    exact ⟨delivers, fenced⟩
  · have inactive : transport.state.terminal.active = false := by
      rw [Bool.eq_false_iff]
      intro active
      rw [delivers.sound.requested active] at running
      contradiction
    obtain ⟨pending, sound⟩ :=
      delivers.sound.withOrdered space inactive allocates
    simp only [step, accepted, postEffects]
    constructor
    · exact delivers.post allocates.ordinal pending sound
        (fun _ => running) (fun _ => ⟨running, rfl⟩)
    · apply fenced.accept rfl allocates.rawOrdinal allocates.seqId rfl rfl
      exact fun active =>
        absurd (inactive.symm.trans active) Bool.false_ne_true

theorem ordered_step_requestTerminal
    (fenceRawOrdinal fenceSeqId : UInt64) :
    (transport.step
      (.requestTerminal reason fenceRawOrdinal fenceSeqId)).Ordered := by
  obtain ⟨delivers, fenced⟩ := ordered
  rcases transport.state.requestTerminal_cases fenced.latch_behind reason
      fenceRawOrdinal fenceSeqId with
    ⟨status, notPosted, notAdvanced, rejected⟩ |
      ⟨latch, inactive, active, generation, allocates, accepted⟩ |
      ⟨latch, wasActive, active, generation, ordinal, rawOrdinal, seqId,
        accepted⟩
  · simp only [step, rejected, List.append_nil,
      postEffects_rejected notPosted notAdvanced]
    exact ⟨delivers, fenced⟩
  · obtain ⟨pending, sound⟩ := delivers.sound.postTerminal inactive active
      generation allocates
    simp only [step, accepted, postEffects]
    constructor
    · apply delivers.post allocates.ordinal pending sound
      · intro isOrdered
        contradiction
      · intro stillRunning
        contradiction
    · exact fenced.accept rfl allocates.rawOrdinal allocates.seqId rfl rfl
        (fun _ => rfl)
  · obtain ⟨⟨front, before, after⟩, sound⟩ :=
      delivers.sound.advanceTerminal wasActive active generation ordinal
    simp only [step, accepted, postEffects]
    constructor
    · have sameOrdinal : (terminalSnapshot latch).event.ordinal =
          (terminalSnapshot transport.state.terminal).event.ordinal :=
        ordinal
      exact delivers.advance sameOrdinal before after sound rfl rfl
    · exact fenced.accept rfl rawOrdinal seqId rfl rfl (fun _ => rfl)

end

theorem ordered_step_acknowledge
    (ordered : transport.Ordered) (snapshot : SessionReleaseSnapshot)
    (completion : SessionReleaseCompletion)
    (coveredRawOrdinal coveredSeqId : UInt64) :
    (transport.step
      (.acknowledge snapshot completion coveredRawOrdinal
        coveredSeqId)).Ordered := by
  obtain ⟨delivers, fenced⟩ := ordered
  rcases transport.state.acknowledge_cases snapshot completion
      coveredRawOrdinal coveredSeqId with
    ⟨result, notAcknowledged, rejected⟩ |
      ⟨peeked, covered, completed, accepted⟩
  · simp only [step, rejected]
    rw [if_neg notAcknowledged]
    exact ⟨delivers, fenced⟩
  · simp only [step, accepted, if_true]
    constructor
    · exact delivers.acknowledge peeked covered completed
    · have sameAccepted : acceptances (transport.log ++
            [.acknowledged snapshot completion coveredRawOrdinal
              coveredSeqId]) = acceptances transport.log := by
        rw [acceptances, List.filterMap_append]
        exact List.append_nil _
      constructor
      · rw [sameAccepted]
        exact fenced.ordered
      · rw [sameAccepted]
        simp only [withoutNext]
        cases snapshot.origin with
        | ordered => exact fenced.waterline
        | terminal => exact fenced.waterline
      · simp only [withoutNext]
        cases snapshot.origin with
        | ordered => exact fenced.latched
        | terminal =>
            intro active
            contradiction

theorem ordered_step (transport : Transport) (call : Call)
    (ordered : transport.Ordered) : (transport.step call).Ordered := by
  cases call with
  | tryPostOrdered reason action fenceRawOrdinal fenceSeqId =>
      exact ordered_step_tryPostOrdered ordered reason action
        fenceRawOrdinal fenceSeqId
  | requestTerminal reason fenceRawOrdinal fenceSeqId =>
      exact ordered_step_requestTerminal ordered reason fenceRawOrdinal
        fenceSeqId
  | peekNext => exact ordered
  | acknowledge snapshot completion coveredRawOrdinal coveredSeqId =>
      exact ordered_step_acknowledge ordered snapshot completion
        coveredRawOrdinal coveredSeqId

theorem ordered_run (calls : List Call) :
    (run Transport.step {} calls).Ordered :=
  run_invariant ordered_step ⟨delivers_initial, fenced_initial⟩ calls

section

variable (delivers : transport.Delivers)
include delivers

theorem Delivers.posted_increasing :
    (postedOrdinals transport.log).Pairwise (· < ·) := by
  have increasing : ((postedOrdinals transport.log).map
      UInt64.toNat).Pairwise (· < ·) := by
    rw [delivers.posted]
    exact List.pairwise_lt_range'
  rw [List.pairwise_map] at increasing
  refine increasing.imp ?_
  intro left right less
  exact UInt64.lt_iff_toNat_lt.mpr less

/-- No event is skipped: those acknowledged are the first ones posted. -/
theorem Delivers.acknowledged_prefix :
    acknowledgedOrdinals transport.log <+:
      postedOrdinals transport.log := by
  have injective : Function.Injective UInt64.toNat :=
    fun _ _ => UInt64.toNat_inj.mp
  rw [← List.prefix_map_iff_of_injective injective, delivers.acknowledged,
    delivers.posted, ← List.range'_append_1]
  exact List.prefix_append _ _

theorem Delivers.peekNext_eq :
    transport.state.peekNext =
      ((postedOrdinals transport.log)[
        (acknowledgedOrdinals transport.log).length]?).bind
          (SessionRelease.current transport.log) := by
  have length := congrArg List.length delivers.posted
  rw [List.length_map, List.length_range'] at length
  rw [delivers.sound.peekNext_eq]
  cases split : transport.state.pending with
  | nil =>
      rw [split, List.length_nil] at length
      rw [List.getElem?_eq_none (by omega)]
      rfl
  | cons first rest =>
      have member : first ∈ transport.state.pending := by
        rw [split]
        exact List.mem_cons_self
      have posted := delivers.posted
      rw [split, List.length_cons] at length posted
      have inside : (acknowledgedOrdinals transport.log).length <
          (postedOrdinals transport.log).length := by omega
      have ordinal : (postedOrdinals transport.log)[
          (acknowledgedOrdinals transport.log).length] =
            first.event.ordinal := by
        rw [← UInt64.toNat_inj, delivers.sound.first_ordinal split]
        have cell : ((postedOrdinals transport.log).map UInt64.toNat)[
            (acknowledgedOrdinals transport.log).length]? =
              some ((acknowledgedOrdinals transport.log).length + 1) := by
          rw [posted, List.getElem?_range' (by omega)]
          congr 1
          omega
        rw [List.getElem?_map, List.getElem?_eq_getElem inside,
          Option.map_some] at cell
        exact Option.some.inj cell
      rw [List.getElem?_eq_getElem inside, ordinal, Option.bind_some,
        delivers.current first member]
      rfl

end

theorem step_rejected (fenced : transport.Fenced)
    {call : Call} (rejected : call.accepted transport.state = false) :
    transport.step call = transport := by
  cases call with
  | tryPostOrdered reason action fenceRawOrdinal fenceSeqId =>
      simp only [Call.accepted] at rejected
      rcases transport.state.tryPostOrdered_cases reason action
          fenceRawOrdinal fenceSeqId with
        ⟨status, notPosted, notAdvanced, result⟩ | ⟨event, _, _, _, result⟩
      · simp only [step, result, List.append_nil,
          postEffects_rejected notPosted notAdvanced]
      · rw [result] at rejected
        contradiction
  | requestTerminal reason fenceRawOrdinal fenceSeqId =>
      simp only [Call.accepted] at rejected
      rcases transport.state.requestTerminal_cases fenced.latch_behind reason
          fenceRawOrdinal fenceSeqId with
        ⟨status, notPosted, notAdvanced, result⟩ |
          ⟨latch, _, _, _, _, result⟩ | ⟨latch, _, _, _, _, _, _, result⟩
      · simp only [step, result, List.append_nil,
          postEffects_rejected notPosted notAdvanced]
      · rw [result] at rejected
        contradiction
      · rw [result] at rejected
        contradiction
  | peekNext => rfl
  | acknowledge snapshot completion coveredRawOrdinal coveredSeqId =>
      simp only [Call.accepted] at rejected
      rcases transport.state.acknowledge_cases snapshot completion
          coveredRawOrdinal coveredSeqId with
        ⟨result, notAcknowledged, same⟩ | ⟨_, _, _, same⟩
      · simp only [step, same]
        rw [if_neg notAcknowledged]
      · rw [same] at rejected
        contradiction

/-- Over every sequence of calls the transport is an ordered queue that
delivers each event exactly once, at its current value and behind its
fences. -/
theorem releases_ordered_exactly_once (calls : List Call) :
    let transport := run Transport.step {} calls
    (postedOrdinals transport.log).Pairwise (· < ·) ∧
      acknowledgedOrdinals transport.log <+: postedOrdinals transport.log ∧
      transport.state.peekNext =
        ((postedOrdinals transport.log)[
          (acknowledgedOrdinals transport.log).length]?).bind
            (SessionRelease.current transport.log) ∧
      Justified Reason transport.log ∧
      (acceptances transport.log).Pairwise FencesLe ∧
      (transport.state.terminal.active = true →
        ∀ snapshot ∈ acceptances transport.log,
          FencesLe snapshot (terminalSnapshot transport.state.terminal)) ∧
      ∀ call, call.accepted transport.state = false →
        transport.step call = transport := by
  intro transport
  obtain ⟨delivers, fenced⟩ : transport.Ordered := ordered_run calls
  refine ⟨delivers.posted_increasing, delivers.acknowledged_prefix,
    delivers.peekNext_eq, delivers.justified, fenced.ordered, ?_, ?_⟩
  · intro active snapshot member
    obtain ⟨rawOrdinal, seqId⟩ := fenced.latched active
    obtain ⟨rawBound, seqBound⟩ := fenced.waterline snapshot member
    constructor
    · exact rawOrdinal.symm ▸ rawBound
    · exact seqId.symm ▸ seqBound
  · intro call rejected
    exact step_rejected fenced rejected

end Transport

end Dxmt9.SessionRelease
