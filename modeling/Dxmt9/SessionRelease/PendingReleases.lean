import Dxmt9.SessionRelease.SessionReleaseState

/-!
# The pending releases

The pending events are the ring followed by the latch.  Their ordinals are
consecutive from the last acknowledged one, so peeking returns the first and
acknowledging removes it.
-/

namespace Dxmt9.SessionRelease

open Dxmt9.Queue

namespace SessionReleaseState

/-! ## What each call does -/

theorem allocateOrdinal_cases (state : SessionReleaseState) :
    state.allocateOrdinal = (0, state) ∨
      state.nextOrdinal ≠ 0 ∧
        (state.nextOrdinal + 1).toNat = state.nextOrdinal.toNat + 1 ∧
        state.allocateOrdinal =
          (state.nextOrdinal,
            { state with nextOrdinal := state.nextOrdinal + 1 }) := by
  unfold allocateOrdinal
  split
  · exact Or.inl rfl
  · rename_i open_
    simp only [Bool.or_eq_true, beq_iff_eq, not_or] at open_
    refine Or.inr ⟨open_.1, ?_, rfl⟩
    have bound := state.nextOrdinal.toNat_lt
    have top : maxUInt64.toNat = 2 ^ 64 - 1 := rfl
    have one : (1 : UInt64).toNat = 1 := rfl
    have below : state.nextOrdinal.toNat ≠ 2 ^ 64 - 1 :=
      fun same => open_.2 (UInt64.toNat_inj.mp (same.trans top.symm))
    rw [UInt64.toNat_add, one]
    omega

/-- The state behind an accepted ordered post. -/
def withOrdered (state : SessionReleaseState) (event : SessionReleaseEvent) :
    SessionReleaseState :=
  { state with
    nextOrdinal := state.nextOrdinal + 1
    ordered := state.ordered.set state.orderedTail event
    orderedTail := nextIndex state.orderedTail
    orderedCount := state.orderedCount + 1
    lastFenceRawOrdinal := event.fenceRawOrdinal
    lastFenceSeqId := event.fenceSeqId }

/-- The guards of a new ordinal at fences not before the waterline. -/
structure Allocates (state : SessionReleaseState)
    (event : SessionReleaseEvent) : Prop where
  ordinal : event.ordinal = state.nextOrdinal
  nonzero : state.nextOrdinal ≠ 0
  next : (state.nextOrdinal + 1).toNat = state.nextOrdinal.toNat + 1
  rawOrdinal : state.lastFenceRawOrdinal ≤ event.fenceRawOrdinal
  seqId : state.lastFenceSeqId ≤ event.fenceSeqId

/-- An ordered post is rejected without a trace or appends its event. -/
theorem tryPostOrdered_cases (state : SessionReleaseState)
    (reason : SessionReleaseReason) (action : SessionReleaseAction)
    (fenceRawOrdinal fenceSeqId : UInt64) :
    (∃ status, status ≠ .posted ∧ status ≠ .advanced ∧
        state.tryPostOrdered reason action fenceRawOrdinal fenceSeqId =
          ({ status := status }, state)) ∨
      ∃ event, state.terminalRequested = false ∧
        state.orderedCount ≠ state.ordered.length ∧ state.Allocates event ∧
        state.tryPostOrdered reason action fenceRawOrdinal fenceSeqId =
          ({ status := .posted, snapshot := orderedSnapshot event },
            state.withOrdered event) := by
  unfold tryPostOrdered
  split
  · exact Or.inl ⟨.stopped, by decide, by decide, rfl⟩
  · rename_i running
    split
    · exact Or.inl ⟨.invalid, by decide, by decide, rfl⟩
    · rename_i wellFormed
      simp only [fenceNotBefore, Bool.or_eq_true, Bool.not_eq_true',
        Bool.and_eq_false_iff, decide_eq_false_iff_not, not_or, not_not]
        at wellFormed
      unfold postQueued
      split
      · exact Or.inl ⟨.full, by decide, by decide, rfl⟩
      · rename_i space
        rcases state.allocateOrdinal_cases with
          exhausted | ⟨nonzero, next, allocated⟩
        · simp only [exhausted]
          exact Or.inl ⟨.exhausted, by decide, by decide, rfl⟩
        · simp only [allocated]
          rw [if_neg nonzero]
          refine Or.inr ⟨_, Bool.eq_false_iff.mpr running, ?_, ?_, rfl⟩
          · exact fun same => space (beq_iff_eq.mpr same)
          · exact ⟨rfl, nonzero, next, wellFormed.2.1, wellFormed.2.2⟩

/-- The state behind an accepted terminal request. -/
def withTerminal (state : SessionReleaseState) (latch : Latch) :
    SessionReleaseState :=
  { state with
    terminal := latch
    lastFenceRawOrdinal := latch.event.fenceRawOrdinal
    lastFenceSeqId := latch.event.fenceSeqId
    terminalRequested := true }

def terminalSnapshot (latch : Latch) : SessionReleaseSnapshot :=
  { origin := .terminal
    event := latch.event
    generation := latch.generation }

theorem le_max_waterline (fence waterline : UInt64) :
    waterline ≤ max fence waterline := by
  have unfolded : max fence waterline =
      if fence ≤ waterline then waterline else fence := rfl
  rw [unfolded]
  split
  · exact UInt64.le_refl waterline
  · rename_i above
    exact UInt64.le_of_lt (UInt64.not_le.mp above)

theorem max_of_behind {latched waterline fence : UInt64}
    (behind : latched ≤ waterline) (ahead : waterline ≤ fence) :
    max latched fence = fence := by
  exact if_pos (UInt64.le_trans behind ahead)

theorem generation_succ_ne_zero {generation : UInt64}
    (below : generation ≠ maxUInt64) : generation + 1 ≠ 0 := by
  intro wraps
  apply below
  have same : generation = 0 - 1 := by
    rw [← wraps]
    grind
  rw [same]
  rfl

theorem requestTerminal_cases (state : SessionReleaseState)
    (behind : state.terminal.active = true →
      state.terminal.event.fenceRawOrdinal ≤ state.lastFenceRawOrdinal ∧
        state.terminal.event.fenceSeqId ≤ state.lastFenceSeqId)
    (reason : SessionReleaseReason) (fenceRawOrdinal fenceSeqId : UInt64) :
    (∃ status, status ≠ .posted ∧ status ≠ .advanced ∧
        state.requestTerminal reason fenceRawOrdinal fenceSeqId =
          ({ status := status }, state)) ∨
      (∃ latch, state.terminal.active = false ∧ latch.active = true ∧
        latch.generation ≠ 0 ∧ state.Allocates latch.event ∧
        state.requestTerminal reason fenceRawOrdinal fenceSeqId =
          ({ status := .posted, snapshot := terminalSnapshot latch },
            { state.withTerminal latch with
              nextOrdinal := state.nextOrdinal + 1 })) ∨
      ∃ latch, state.terminal.active = true ∧ latch.active = true ∧
        latch.generation ≠ 0 ∧
        latch.event.ordinal = state.terminal.event.ordinal ∧
        state.lastFenceRawOrdinal ≤ latch.event.fenceRawOrdinal ∧
        state.lastFenceSeqId ≤ latch.event.fenceSeqId ∧
        state.requestTerminal reason fenceRawOrdinal fenceSeqId =
          ({ status := .advanced, snapshot := terminalSnapshot latch },
            state.withTerminal latch) := by
  have rawBound : state.lastFenceRawOrdinal ≤
      max fenceRawOrdinal state.lastFenceRawOrdinal :=
    le_max_waterline _ _
  have seqBound : state.lastFenceSeqId ≤ max fenceSeqId state.lastFenceSeqId :=
    le_max_waterline _ _
  unfold requestTerminal
  split
  · exact Or.inl ⟨.invalid, by decide, by decide, rfl⟩
  · split
    · exact Or.inl ⟨.stopped, by decide, by decide, rfl⟩
    · unfold postOrAdvanceLatch
      have inOrder : fenceNotBefore
          (max fenceRawOrdinal state.lastFenceRawOrdinal)
          (max fenceSeqId state.lastFenceSeqId)
          state.lastFenceRawOrdinal state.lastFenceSeqId = true := by
        simp only [fenceNotBefore, rawBound, seqBound, decide_true,
          Bool.and_self]
      simp only [inOrder, Bool.not_true]
      rw [if_neg Bool.false_ne_true]
      cases active : state.terminal.active with
      | true =>
          obtain ⟨rawBehind, seqBehind⟩ := behind active
          rw [if_pos rfl, max_of_behind rawBehind rawBound,
            max_of_behind seqBehind seqBound]
          split
          · exact Or.inl ⟨.exhausted, by decide, by decide, rfl⟩
          · rename_i below
            rw [beq_iff_eq] at below
            refine Or.inr (Or.inr ⟨
              { event :=
                  { state.terminal.event with
                    fenceRawOrdinal :=
                      max fenceRawOrdinal state.lastFenceRawOrdinal
                    fenceSeqId := max fenceSeqId state.lastFenceSeqId
                    reason :=
                      if reason = .deviceLoss then reason
                      else state.terminal.event.reason }
                generation := state.terminal.generation + 1
                active := true },
              rfl, rfl, generation_succ_ne_zero below, rfl, rawBound,
              seqBound, rfl⟩)
      | false =>
          rw [if_neg Bool.false_ne_true]
          rcases state.allocateOrdinal_cases with
            exhausted | ⟨nonzero, next, allocated⟩
          · simp only [exhausted]
            exact Or.inl ⟨.exhausted, by decide, by decide, rfl⟩
          · simp only [allocated]
            rw [if_neg nonzero]
            refine Or.inr (Or.inl ⟨
              { event :=
                  { ordinal := state.nextOrdinal
                    reason := reason
                    action := .submitSession
                    fenceRawOrdinal :=
                      max fenceRawOrdinal state.lastFenceRawOrdinal
                    fenceSeqId := max fenceSeqId state.lastFenceSeqId }
                generation := 1
                active := true },
              trivial, rfl, (by decide : (1 : UInt64) ≠ 0),
              ⟨rfl, nonzero, next, rawBound, seqBound⟩, rfl⟩)

/-! ## The pending events -/

/-- The ring followed by the latch. -/
def pending (state : SessionReleaseState) : List SessionReleaseSnapshot :=
  (window state.ordered state.orderedHead state.orderedCount).map
      orderedSnapshot ++
    if state.terminal.active then [terminalSnapshot state.terminal] else []

/-- The shape of the ring, and pending ordinals without a gap after the
acknowledged ones. -/
structure Sound (state : SessionReleaseState) (acknowledged : Nat) :
    Prop where
  sized : state.ordered.length = kMaxOrderedSessionReleaseEvents
  head : state.orderedHead < kMaxOrderedSessionReleaseEvents
  count : state.orderedCount ≤ kMaxOrderedSessionReleaseEvents
  tail : state.orderedTail =
    (state.orderedHead + state.orderedCount) %
      kMaxOrderedSessionReleaseEvents
  ordinals : state.pending.map (fun snapshot =>
      snapshot.event.ordinal.toNat) =
    List.range' (acknowledged + 1) state.pending.length
  next : state.nextOrdinal.toNat =
    acknowledged + 1 + state.pending.length
  generation : ∀ snapshot ∈ state.pending, snapshot.generation ≠ 0
  acknowledgedOrdinal : state.acknowledgedOrdinal.toNat = acknowledged
  requested : state.terminal.active = true →
    state.terminalRequested = true

theorem sound_initial : Sound {} 0 := by
  constructor
  · rfl
  · decide
  · decide
  · rfl
  · rfl
  · rfl
  · intro snapshot member
    contradiction
  · rfl
  · intro active
    contradiction

variable {state : SessionReleaseState} {acknowledged : Nat}
  {snapshot : SessionReleaseSnapshot}

theorem Sound.valid_of_mem (sound : state.Sound acknowledged)
    (member : snapshot ∈ state.pending) : snapshot.valid = true := by
  have listed : snapshot.event.ordinal.toNat ∈
      state.pending.map (fun snapshot => snapshot.event.ordinal.toNat) :=
    List.mem_map_of_mem member
  rw [sound.ordinals, List.mem_range'_1] at listed
  have nonzero : snapshot.event.ordinal ≠ 0 := by
    intro isZero
    have zero : (0 : UInt64).toNat = 0 := rfl
    rw [isZero, zero] at listed
    omega
  simp only [SessionReleaseSnapshot.valid, SessionReleaseEvent.valid,
    Bool.and_eq_true, bne_iff_ne]
  exact ⟨nonzero, sound.generation snapshot member⟩

variable {first : SessionReleaseSnapshot} {rest : List SessionReleaseSnapshot}

theorem Sound.head_le
    (sound : state.Sound acknowledged)
    (split : state.pending = first :: rest) (member : snapshot ∈ state.pending) :
    first.event.ordinal ≤ snapshot.event.ordinal := by
  have ordinals := sound.ordinals
  have listed : snapshot.event.ordinal.toNat ∈
      state.pending.map (fun snapshot => snapshot.event.ordinal.toNat) :=
    List.mem_map_of_mem member
  rw [ordinals, List.mem_range'_1] at listed
  rw [split, List.map_cons, List.length_cons, List.range'_succ] at ordinals
  have start := (List.cons_eq_cons.mp ordinals).1
  rw [UInt64.le_iff_toNat_le]
  omega

variable {candidate : SessionReleaseSnapshot}

theorem consider_none
    (valid : candidate.valid = true) :
    consider none candidate = some candidate := by
  unfold consider
  rw [valid]
  rfl

theorem consider_later {found : SessionReleaseSnapshot}
    (later : found.event.ordinal ≤ candidate.event.ordinal) :
    consider (some found) candidate = some found := by
  unfold consider
  split
  · rfl
  · exact if_neg (UInt64.not_lt.mpr later)

section

variable (sound : state.Sound acknowledged)
include sound

/-- Peeking returns the first pending event. -/
theorem Sound.peekNext_eq : state.peekNext = state.pending.head? := by
  have inside : state.orderedHead < state.ordered.length := by
    rw [sound.sized]
    exact sound.head
  have latched : state.terminal.active = true →
      terminalSnapshot state.terminal ∈ state.pending := by
    intro active
    unfold pending
    rw [if_pos active]
    exact List.mem_append_right _ List.mem_cons_self
  unfold peekNext orderedEmpty
  cases count : state.orderedCount with
  | zero =>
      unfold pending
      rw [count]
      cases active : state.terminal.active with
      | false =>
          unfold snapshotFor
          rw [active]
          rfl
      | true =>
          have valid := sound.valid_of_mem (latched active)
          unfold snapshotFor
          rw [active]
          exact consider_none valid
  | succ before =>
      have split : state.pending =
          orderedSnapshot (state.ordered.getD state.orderedHead default) ::
            state.pending.tail := by
        unfold pending
        rw [count, window_cons _ inside]
        rfl
      have first : orderedSnapshot
          (state.ordered.getD state.orderedHead default) ∈ state.pending := by
        rw [split]
        exact List.mem_cons_self
      rw [split, List.head?_cons]
      have found := consider_none (sound.valid_of_mem first)
      cases active : state.terminal.active with
      | false =>
          unfold snapshotFor
          rw [active]
          exact found
      | true =>
          have ordered := sound.head_le split (latched active)
          unfold snapshotFor
          rw [active]
          exact (congrArg (consider · _) found).trans (consider_later ordered)

theorem Sound.ordinal_lt_next
    (member : snapshot ∈ state.pending) :
    snapshot.event.ordinal < state.nextOrdinal := by
  have listed : snapshot.event.ordinal.toNat ∈
      state.pending.map (fun snapshot => snapshot.event.ordinal.toNat) :=
    List.mem_map_of_mem member
  rw [sound.ordinals, List.mem_range'_1] at listed
  rw [UInt64.lt_iff_toNat_lt, sound.next]
  exact listed.2

theorem Sound.ordinal_ne_last
    {front : List SessionReleaseSnapshot} {last : SessionReleaseSnapshot}
    (split : state.pending = front ++ [last]) (member : snapshot ∈ front) :
    snapshot.event.ordinal ≠ last.event.ordinal := by
  have ordinals := sound.ordinals
  rw [split, List.map_append] at ordinals
  have unique : (List.range' (acknowledged + 1)
      (front ++ [last]).length).Nodup := List.nodup_range'
  rw [← ordinals, List.nodup_append] at unique
  intro same
  exact unique.2.2 _ (List.mem_map_of_mem member) _
    (List.mem_map_of_mem List.mem_cons_self) (congrArg UInt64.toNat same)

theorem Sound.first_ordinal
    (split : state.pending = first :: rest) :
    first.event.ordinal.toNat = acknowledged + 1 := by
  have ordinals := sound.ordinals
  rw [split, List.map_cons, List.length_cons, List.range'_succ] at ordinals
  exact (List.cons_eq_cons.mp ordinals).1

end

theorem Sound.withOrdered (sound : state.Sound acknowledged)
    {event : SessionReleaseEvent}
    (space : state.orderedCount ≠ state.ordered.length)
    (inactive : state.terminal.active = false)
    (allocates : state.Allocates event) :
    (state.withOrdered event).pending =
        state.pending ++ [orderedSnapshot event] ∧
      (state.withOrdered event).Sound acknowledged := by
  have room : state.orderedCount < state.ordered.length := by
    have count := sound.count
    rw [← sound.sized] at count
    omega
  have grown : (state.withOrdered event).pending =
      state.pending ++ [orderedSnapshot event] := by
    simp only [pending, SessionReleaseState.withOrdered, inactive]
    rw [sound.tail, ← sound.sized, window_push room, List.map_append]
    simp
  refine ⟨grown, ?_⟩
  constructor
  · simp only [SessionReleaseState.withOrdered, List.length_set]
    exact sound.sized
  · exact sound.head
  · rw [sound.sized] at room
    exact room
  · simp only [SessionReleaseState.withOrdered, nextIndex]
    rw [sound.tail, Nat.mod_add_mod, Nat.add_assoc]
  · rw [grown, List.map_append, sound.ordinals, List.length_append,
      List.length_singleton, List.range'_concat]
    simp only [List.map_cons, List.map_nil, orderedSnapshot,
      allocates.ordinal, sound.next]
    simp
  · rw [grown, List.length_append, List.length_singleton]
    simp only [SessionReleaseState.withOrdered]
    rw [allocates.next, sound.next]
    rfl
  · intro snapshot member
    rw [grown, List.mem_append, List.mem_singleton] at member
    rcases member with before | rfl
    · exact sound.generation snapshot before
    · exact (by decide : (1 : UInt64) ≠ 0)
  · exact sound.acknowledgedOrdinal
  · exact sound.requested

variable {latch : Latch}

theorem Sound.postTerminal (sound : state.Sound acknowledged)
    (inactive : state.terminal.active = false)
    (active : latch.active = true) (generation : latch.generation ≠ 0)
    (allocates : state.Allocates latch.event) :
    SessionReleaseState.pending
        { state.withTerminal latch with
          nextOrdinal := state.nextOrdinal + 1 } =
        state.pending ++ [terminalSnapshot latch] ∧
      SessionReleaseState.Sound
        { state.withTerminal latch with
          nextOrdinal := state.nextOrdinal + 1 } acknowledged := by
  have grown : SessionReleaseState.pending
        { state.withTerminal latch with
          nextOrdinal := state.nextOrdinal + 1 } =
      state.pending ++ [terminalSnapshot latch] := by
    simp only [pending, withTerminal, inactive, active]
    simp
  refine ⟨grown, ?_⟩
  constructor
  · exact sound.sized
  · exact sound.head
  · exact sound.count
  · exact sound.tail
  · rw [grown, List.map_append, sound.ordinals, List.length_append,
      List.length_singleton, List.range'_concat]
    simp only [List.map_cons, List.map_nil, terminalSnapshot,
      allocates.ordinal, sound.next]
    simp
  · rw [grown, List.length_append, List.length_singleton]
    simp only
    rw [allocates.next, sound.next]
    rfl
  · intro snapshot member
    rw [grown, List.mem_append, List.mem_singleton] at member
    rcases member with before | rfl
    · exact sound.generation snapshot before
    · exact generation
  · exact sound.acknowledgedOrdinal
  · exact fun _ => rfl

/-- A later terminal request replaces the latch at the end. -/
theorem Sound.advanceTerminal (sound : state.Sound acknowledged)
    (wasActive : state.terminal.active = true)
    (active : latch.active = true) (generation : latch.generation ≠ 0)
    (ordinal : latch.event.ordinal = state.terminal.event.ordinal) :
    (∃ front, state.pending = front ++ [terminalSnapshot state.terminal] ∧
        (state.withTerminal latch).pending =
          front ++ [terminalSnapshot latch]) ∧
      (state.withTerminal latch).Sound acknowledged := by
  have before : state.pending =
      (window state.ordered state.orderedHead state.orderedCount).map
          orderedSnapshot ++ [terminalSnapshot state.terminal] := by
    rw [pending, if_pos wasActive]
  have after : (state.withTerminal latch).pending =
      (window state.ordered state.orderedHead state.orderedCount).map
          orderedSnapshot ++ [terminalSnapshot latch] := by
    simp only [pending, withTerminal, active, if_true]
  refine ⟨⟨_, before, after⟩, ?_⟩
  have sameLength : (state.withTerminal latch).pending.length =
      state.pending.length := by
    rw [before, after, List.length_append, List.length_append]
    rfl
  constructor
  · exact sound.sized
  · exact sound.head
  · exact sound.count
  · exact sound.tail
  · rw [sameLength, ← sound.ordinals, before, after]
    simp only [List.map_append, List.map_cons, List.map_nil,
      terminalSnapshot, ordinal]
  · rw [sameLength]
    exact sound.next
  · intro snapshot member
    rw [after, List.mem_append, List.mem_singleton] at member
    rcases member with ordered | rfl
    · apply sound.generation snapshot
      rw [before]
      exact List.mem_append_left _ ordered
    · exact generation
  · exact sound.acknowledgedOrdinal
  · exact fun _ => rfl

/-- The state behind the acknowledgement of the next event. -/
def withoutNext (state : SessionReleaseState)
    (snapshot : SessionReleaseSnapshot) : SessionReleaseState :=
  match snapshot.origin with
  | .ordered =>
      { state with
        ordered := state.ordered.set state.orderedHead {}
        orderedHead := nextIndex state.orderedHead
        orderedCount := state.orderedCount - 1
        acknowledgedOrdinal := snapshot.event.ordinal }
  | .terminal =>
      { state with
        terminal := {}
        acknowledgedOrdinal := snapshot.event.ordinal }

/-- An acknowledgement is rejected without a trace, or names the next event
as it is, covered and completed. -/
theorem acknowledge_cases (state : SessionReleaseState)
    (snapshot : SessionReleaseSnapshot) (completion : SessionReleaseCompletion)
    (coveredRawOrdinal coveredSeqId : UInt64) :
    (∃ result, result ≠ .acknowledged ∧
        state.acknowledge snapshot completion coveredRawOrdinal
          coveredSeqId = (result, state)) ∨
      state.peekNext = some snapshot ∧
        sessionReleaseFenceCovered snapshot.event coveredRawOrdinal
          coveredSeqId = true ∧
        sessionReleaseCompletionSatisfies snapshot.event.action
          completion = true ∧
        state.acknowledge snapshot completion coveredRawOrdinal
          coveredSeqId = (.acknowledged, state.withoutNext snapshot) := by
  unfold acknowledge
  split
  · exact Or.inl ⟨.invalid, by decide, rfl⟩
  · cases peeked : state.peekNext with
    | none => exact Or.inl ⟨.notNext, by decide, rfl⟩
    | some next =>
        simp only
        split
        · exact Or.inl ⟨.notNext, by decide, rfl⟩
        · rename_i sameOrdinal
          split
          · exact Or.inl ⟨.stale, by decide, rfl⟩
          · rename_i sameValue
            simp only [Bool.or_eq_true, decide_eq_true_eq, bne_iff_ne,
              not_or, not_not] at sameOrdinal sameValue
            have equal : next = snapshot := by
              cases next
              cases snapshot
              simp only [SessionReleaseSnapshot.mk.injEq]
              exact ⟨sameOrdinal.1, sameValue.2, sameValue.1⟩
            subst equal
            split
            · exact Or.inl ⟨.fenceNotCovered, by decide, rfl⟩
            · rename_i covered
              split
              · exact Or.inl ⟨.actionNotCompleted, by decide, rfl⟩
              · rename_i completed
                simp only [Bool.not_eq_true', Bool.not_eq_false]
                  at covered completed
                refine Or.inr ⟨rfl, covered, completed, ?_⟩
                unfold withoutNext
                cases next.origin with
                | ordered => rfl
                | terminal => rfl

/-- The pending events behind an acknowledgement. -/
theorem Sound.pending_withoutNext (sound : state.Sound acknowledged)
    (split : state.pending = snapshot :: rest) :
    (state.withoutNext snapshot).pending = rest := by
  have inside : state.orderedHead < state.ordered.length := by
    rw [sound.sized]
    exact sound.head
  unfold pending at split
  cases count : state.orderedCount with
  | zero =>
      rw [count] at split
      cases active : state.terminal.active with
      | false =>
          rw [active] at split
          contradiction
      | true =>
          rw [active] at split
          obtain ⟨rfl, rfl⟩ := List.cons_eq_cons.mp split
          simp [pending, withoutNext, terminalSnapshot, count]
  | succ before =>
      rw [count, window_cons _ inside] at split
      obtain ⟨rfl, rfl⟩ := List.cons_eq_cons.mp split
      have space : before < state.ordered.length := by
        have bound := sound.count
        rw [sound.sized]
        omega
      simp only [pending, withoutNext, orderedSnapshot, count,
        Nat.add_sub_cancel, nextIndex]
      rw [← sound.sized, window_pop inside space, window_cons _ inside,
        List.tail_cons]
      rfl

theorem Sound.withoutNext (sound : state.Sound acknowledged)
    (split : state.pending = snapshot :: rest) :
    (state.withoutNext snapshot).Sound (acknowledged + 1) := by
  have shrunk := sound.pending_withoutNext split
  have ordinals := sound.ordinals
  rw [split, List.map_cons, List.length_cons, List.range'_succ] at ordinals
  obtain ⟨first, others⟩ := List.cons_eq_cons.mp ordinals
  have next := sound.next
  rw [split, List.length_cons] at next
  have generation : ∀ other ∈ rest, other.generation ≠ 0 := by
    intro other member
    apply sound.generation other
    rw [split]
    exact List.mem_cons_of_mem _ member
  have requested := sound.requested
  cases origin : snapshot.origin with
  | ordered =>
      have counted : 0 < state.orderedCount := by
        by_contra none
        have count : state.orderedCount = 0 := by omega
        unfold pending at split
        rw [count] at split
        cases active : state.terminal.active with
        | false =>
            rw [active] at split
            contradiction
        | true =>
            rw [active] at split
            obtain ⟨rfl, _⟩ := List.cons_eq_cons.mp split
            contradiction
      have count := sound.count
      have tail := sound.tail
      have after : state.withoutNext snapshot =
          { state with
            ordered := state.ordered.set state.orderedHead {}
            orderedHead := nextIndex state.orderedHead
            orderedCount := state.orderedCount - 1
            acknowledgedOrdinal := snapshot.event.ordinal } := by
        unfold SessionReleaseState.withoutNext
        rw [origin]
      rw [after] at shrunk ⊢
      constructor
      · simp only [List.length_set]
        exact sound.sized
      · exact Nat.mod_lt _ (by decide)
      · exact Nat.le_trans (Nat.sub_le _ _) count
      · simp only [nextIndex]
        rw [ringIndex_ringIndex, tail]
        congr 1
        omega
      · rw [shrunk]
        exact others
      · rw [shrunk]
        simp only
        omega
      · rw [shrunk]
        exact generation
      · exact first
      · exact requested
  | terminal =>
      have after : state.withoutNext snapshot =
          { state with
            terminal := {}
            acknowledgedOrdinal := snapshot.event.ordinal } := by
        unfold SessionReleaseState.withoutNext
        rw [origin]
      rw [after] at shrunk ⊢
      constructor
      · exact sound.sized
      · exact sound.head
      · exact sound.count
      · exact sound.tail
      · rw [shrunk]
        exact others
      · rw [shrunk]
        simp only
        omega
      · rw [shrunk]
        exact generation
      · exact first
      · intro active
        contradiction

end SessionReleaseState

end Dxmt9.SessionRelease
