import Dxmt9.DirectSource.Lifecycle

/-!
# Records of the direct source lifecycle

What holds of one record under the log of the accepted events, and why every
move of the record keeps it: credits are conserved, publication happens once,
and a phase of the settlement comes after the steps that lead to it.
-/

namespace Dxmt9.DirectSource

open Dxmt9.Transition

/-! ## Credit

The credits of a record are conserved exactly when they sum to the aggregate
as natural numbers: the guards leave no room for a wrapped sum. -/

theorem creditSumFits_iff (retained staged detached : UInt64) :
    creditSumFits retained staged detached = true ↔
      retained.toNat + staged.toNat + detached.toNat < 2 ^ 64 := by
  have top : maxUInt64.toNat = 2 ^ 64 - 1 := rfl
  have retainedBound := retained.toNat_lt
  have stagedBound := staged.toNat_lt
  have detachedBound := detached.toNat_lt
  unfold creditSumFits
  rw [Bool.and_eq_true, decide_eq_true_eq, decide_eq_true_eq,
    UInt64.le_iff_toNat_le, UInt64.le_iff_toNat_le, UInt64.toNat_add,
    UInt64.toNat_sub_of_le, UInt64.toNat_sub_of_le, top]
  · omega
  · rw [UInt64.le_iff_toNat_le]
    omega
  · rw [UInt64.le_iff_toNat_le]
    omega

theorem creditSum_toNat {retained staged detached : UInt64}
    (fits : retained.toNat + staged.toNat + detached.toNat < 2 ^ 64) :
    (retained + staged + detached).toNat =
      retained.toNat + staged.toNat + detached.toNat := by
  rw [UInt64.toNat_add, UInt64.toNat_add]
  omega

theorem directCreditConserved_iff (record : LifecycleRecord) :
    directCreditConserved record = true ↔
      record.retainedCredit.toNat + record.stagedCredit.toNat +
        record.detachedCredit.toNat = record.aggregateCredit.toNat := by
  have bound := record.aggregateCredit.toNat_lt
  unfold directCreditConserved
  rw [Bool.and_eq_true, creditSumFits_iff, beq_iff_eq, ← UInt64.toNat_inj]
  constructor
  · rintro ⟨fits, equal⟩
    rw [← equal, creditSum_toNat fits]
  · intro equal
    have fits : record.retainedCredit.toNat + record.stagedCredit.toNat +
        record.detachedCredit.toNat < 2 ^ 64 := equal ▸ bound
    exact ⟨fits, (creditSum_toNat fits).trans equal⟩

/-! ## Ordinals -/

/-- The next raw and span pair: the next span of the same raw, or the first
span of a later one. -/
def Follows (prior next : LogicalOrdinal) : Prop :=
  (next.raw = prior.raw ∧ next.span.toNat = prior.span.toNat + 1) ∨
    (prior.raw < next.raw ∧ next.span = 0)

/-- The raw and span pairs in lexicographic order. -/
def Before (prior next : LogicalOrdinal) : Prop :=
  prior.raw < next.raw ∨
    (prior.raw = next.raw ∧ prior.span.toNat < next.span.toNat)

theorem Follows.before {prior next : LogicalOrdinal}
    (follows : Follows prior next) : Before prior next := by
  rcases follows with ⟨sameRaw, nextSpan⟩ | ⟨laterRaw, _⟩
  · exact Or.inr ⟨sameRaw.symm, by omega⟩
  · exact Or.inl laterRaw

theorem Before.trans {first second third : LogicalOrdinal}
    (left : Before first second) (right : Before second third) :
    Before first third := by
  unfold Before at *
  grind

/-- The pairs follow one another from the first span of a raw on. -/
structure SpanOrdered (ordinals : List LogicalOrdinal) : Prop where
  starts : ∀ first, ordinals.head? = some first → first.span = 0
  follows : ordinals.IsChain Follows

variable {ordinals : List LogicalOrdinal}

/-- Such a sequence increases strictly. -/
theorem SpanOrdered.increasing
    (ordered : SpanOrdered ordinals) : ordinals.Pairwise Before := by
  have trans : IsTrans LogicalOrdinal Before := ⟨fun _ _ _ => Before.trans⟩
  rw [← List.isChain_iff_pairwise]
  exact ordered.follows.imp fun _ _ => Follows.before

/-- The frontier of a sequence: its last entry, zeros before the first. -/
def frontier (ordinals : List LogicalOrdinal) : LogicalOrdinal :=
  ordinals.getLast?.getD {}

@[simp] theorem frontier_snoc (ordinals : List LogicalOrdinal)
    (ordinal : LogicalOrdinal) : frontier (ordinals ++ [ordinal]) = ordinal := by
  simp [frontier]

/-- The guard against the frontier extends the sequence. -/
theorem SpanOrdered.snoc
    (ordered : SpanOrdered ordinals)
    (named : ∀ ordinal ∈ ordinals, ordinal.raw ≠ 0) {next : LogicalOrdinal}
    (after : directLogicalOrdinalAfter next (frontier ordinals) = true) :
    SpanOrdered (ordinals ++ [next]) := by
  unfold directLogicalOrdinalAfter at after
  rcases List.eq_nil_or_concat ordinals with rfl | ⟨front, last, rfl⟩
  · constructor
    · intro first isFirst
      simp only [frontier, List.getLast?_nil, Option.getD_none, if_pos,
        Bool.and_eq_true, beq_iff_eq] at after
      obtain rfl := Option.some.inj isFirst
      exact after.1.2
    · exact List.isChain_singleton next
  · rw [List.concat_eq_append] at *
    rw [frontier_snoc, if_neg (named last (by simp))] at after
    constructor
    · intro first isFirst
      apply ordered.starts first
      cases front with
      | nil => exact isFirst
      | cons head rest => exact isFirst
    · apply isChain_snoc ordered.follows
      intro prior isPrior
      rw [List.getLast?_concat] at isPrior
      obtain rfl := Option.some.inj isPrior
      have top : maxUInt32.toNat = 2 ^ 32 - 1 := rfl
      have bound := last.span.toNat_lt
      split at after
      · rename_i sameRaw
        simp only [Bool.and_eq_true, bne_iff_ne, beq_iff_eq, Ne,
          ← UInt32.toNat_inj] at after
        refine Or.inl ⟨sameRaw, ?_⟩
        rw [after.1.2, UInt32.toNat_add]
        have one : (1 : UInt32).toNat = 1 := rfl
        omega
      · simp only [Bool.and_eq_true, decide_eq_true_eq, beq_iff_eq] at after
        exact Or.inr after.1

/-- The accepted actions of one source, in order. -/
def actionsOf (identity : Identity) (log : List LifecycleEvent) :
    List Action :=
  (log.filter fun event => event.identity == identity).map
    LifecycleEvent.action

/-- The ordinals of the accepted events with this action, in order. -/
def ordinalsOf (action : Action) (log : List LifecycleEvent) :
    List LogicalOrdinal :=
  (log.filter fun event => event.action == action).map
    fun event => event.identity.ordinal

variable {identity : Identity} {event : LifecycleEvent}

theorem actionsOf_snoc_self
    {log : List LifecycleEvent}
    (named : event.identity = identity) :
    actionsOf identity (log ++ [event]) =
      actionsOf identity log ++ [event.action] := by
  simp [actionsOf, named]

theorem actionsOf_sublist (identity : Identity) (log : List LifecycleEvent)
    (event : LifecycleEvent) :
    (actionsOf identity log).Sublist
      (actionsOf identity (log ++ [event])) :=
  ((List.sublist_append_left log [event]).filter _).map _

theorem ordinalsOf_snoc (action : Action) (log : List LifecycleEvent)
    (event : LifecycleEvent) :
    ordinalsOf action (log ++ [event]) =
      if event.action = action then
        ordinalsOf action log ++ [event.identity.ordinal]
      else ordinalsOf action log := by
  unfold ordinalsOf
  by_cases same : event.action = action
  · simp [same]
  · simp [same]

/-! ## Records -/

/-- The settlement steps that a phase presupposes. -/
def presupposed : Phase → List Action
  | .completed => [.complete]
  | .detached => [.complete, .detach]
  | .restored => [.complete, .detach, .restore]
  | _ => []

/-- Phases before publication. -/
def Unpublished (phase : Phase) : Prop :=
  phase ∈ [Phase.rawOwned, .planned, .admitted, .effected, .receiptOwned]

/-- What holds of one record under the log. -/
structure RecordOk (log : List LifecycleEvent) (record : LifecycleRecord) :
    Prop where
  conserved : record.retainedCredit.toNat + record.stagedCredit.toNat +
    record.detachedCredit.toNat = record.aggregateCredit.toNat
  sibling : record.physicalCreditOwner = false →
    record.aggregateCredit = 0
  unstaged : record.phase = .detached → record.stagedCredit = 0
  returned : record.phase = .restored ∨ record.phase = .reclaimed →
    record.retainedCredit = record.aggregateCredit ∧
      record.stagedCredit = 0 ∧ record.detachedCredit = 0
  unpublished : Unpublished record.phase → record.publicationCount = 0
  once : record.publicationCount.toNat ≤ 1
  settled : (presupposed record.phase).Sublist
    (actionsOf record.identity log)

variable {record : LifecycleRecord}

theorem RecordOk.later {log : List LifecycleEvent}
    (ok : RecordOk log record) (event : LifecycleEvent) :
    RecordOk (log ++ [event]) record :=
  { ok with settled := ok.settled.trans (actionsOf_sublist _ log event) }

variable {after : LifecycleRecord}

/-- A record stays sound when only its phase and its witness move on. -/
theorem RecordOk.advance {log : List LifecycleEvent}
    (ok : RecordOk log record) (identity : after.identity = record.identity)
    (retained : after.retainedCredit = record.retainedCredit)
    (staged : after.stagedCredit = record.stagedCredit)
    (detached : after.detachedCredit = record.detachedCredit)
    (aggregate : after.aggregateCredit = record.aggregateCredit)
    (owner : after.physicalCreditOwner = record.physicalCreditOwner)
    (count : after.publicationCount = record.publicationCount)
    (early : Unpublished after.phase → Unpublished record.phase)
    (plain : after.phase ≠ .detached ∧ after.phase ≠ .restored ∧
      after.phase ≠ .reclaimed)
    (settled : (presupposed after.phase).Sublist
      (actionsOf record.identity (log ++ [event]))) :
    RecordOk (log ++ [event]) after where
  conserved := by
    rw [retained, staged, detached, aggregate]
    exact ok.conserved
  sibling sibling := by
    rw [aggregate]
    exact ok.sibling (owner ▸ sibling)
  unstaged isDetached := absurd isDetached plain.1
  returned isReturned := by
    rcases isReturned with isRestored | isReclaimed
    · exact absurd isRestored plain.2.1
    · exact absurd isReclaimed plain.2.2
  unpublished isEarly := by
    rw [count]
    exact ok.unpublished (early isEarly)
  once := by
    rw [count]
    exact ok.once
  settled := by
    rw [identity]
    exact settled

theorem guard_ok {α β : Type} {refused : Prop} [Decidable refused]
    {error : α} {value result : β} :
    (if refused then Except.error error else Except.ok value) =
      Except.ok result ↔ ¬ refused ∧ value = result := by
  split
  · rename_i yes
    exact ⟨nofun, fun no => absurd yes no.1⟩
  · rename_i no
    exact ⟨fun equal => ⟨no, Except.ok.inj equal⟩, fun both =>
      congrArg Except.ok both.2⟩

variable {state : LifecycleState}

/-- A move keeps what identifies the record, and moves one frontier at most:
the one of its action. -/
theorem moveRecord_frame {next : LifecycleState}
    (moved : moveRecord state record event = .ok (next, after)) :
    after.identity = record.identity ∧
      after.physicalCreditOwner = record.physicalCreditOwner ∧
      next = { state with
        lastPublished := if event.action = .publish then
          event.identity.ordinal else state.lastPublished
        lastReclaimed := if event.action = .reclaim then
          event.identity.ordinal else state.lastReclaimed } := by
  unfold moveRecord at moved
  cases known : event.action with
  | importRaw => simp [known] at moved
  | rollbackPreEffect => simp [known] at moved
  | failStop =>
      simp only [known, Except.ok.injEq, Prod.mk.injEq] at moved
      obtain ⟨rfl, rfl⟩ := moved
      exact ⟨rfl, rfl, rfl⟩
  | admitWitness =>
      simp only [known] at moved
      split at moved
      · contradiction
      · simp only [guard_ok, Prod.mk.injEq] at moved
        obtain ⟨_, rfl, rfl⟩ := moved
        exact ⟨rfl, rfl, rfl⟩
  | effectCut =>
      simp only [known] at moved
      split at moved
      · contradiction
      · simp only [guard_ok, Prod.mk.injEq] at moved
        obtain ⟨_, rfl, rfl⟩ := moved
        exact ⟨rfl, rfl, rfl⟩
  | reclaim =>
      simp only [known] at moved
      split at moved
      · contradiction
      · split at moved
        · contradiction
        · simp only [guard_ok, Prod.mk.injEq] at moved
          obtain ⟨_, rfl, rfl⟩ := moved
          exact ⟨rfl, rfl, rfl⟩
  | _ =>
      simp only [known, guard_ok, Prod.mk.injEq] at moved
      obtain ⟨_, rfl, rfl⟩ := moved
      exact ⟨rfl, rfl, rfl⟩

theorem nothing_presupposed {log : List Action} {phase : Phase}
    (free : presupposed phase = []) : (presupposed phase).Sublist log := by
  rw [free]
  exact List.nil_sublist log

theorem settled_snoc {log : List LifecycleEvent} (named : event.identity = identity)
    {before : List Action} (settled : before.Sublist (actionsOf identity log)) :
    (before ++ [event.action]).Sublist
      (actionsOf identity (log ++ [event])) := by
  rw [actionsOf_snoc_self named]
  exact settled.append (List.Sublist.refl _)

theorem creditDetaches_iff (valid : directEventCreditValid event = true)
    (sibling : record.physicalCreditOwner = false → record.aggregateCredit = 0)
    (detaches : creditDetaches record event = true) :
    event.retainedCredit.toNat + event.detachedCredit.toNat =
      record.aggregateCredit.toNat := by
  unfold directEventCreditValid at valid
  rw [creditSumFits_iff] at valid
  unfold creditDetaches at detaches
  cases owner : record.physicalCreditOwner with
  | true =>
      simp only [owner, Bool.and_eq_true, beq_iff_eq, if_true] at detaches
      rw [← detaches.2.2, UInt64.toNat_add]
      omega
  | false =>
      simp only [owner, Bool.and_eq_true, beq_iff_eq, Bool.false_eq_true,
        if_false] at detaches
      rw [detaches.2.1, detaches.2.2, sibling owner]
      rfl

theorem creditReturned_iff
    (sibling : record.physicalCreditOwner = false → record.aggregateCredit = 0)
    (returned : creditReturned record event = true) :
    event.retainedCredit = record.aggregateCredit := by
  unfold creditReturned at returned
  cases owner : record.physicalCreditOwner with
  | true =>
      simp only [owner, Bool.and_eq_true, beq_iff_eq, if_true] at returned
      exact returned.2
  | false =>
      simp only [owner, Bool.and_eq_true, beq_iff_eq, Bool.false_eq_true,
        if_false] at returned
      rw [returned.2, sibling owner]

/-- Every move leaves a sound record. -/
theorem moveRecord_ok {log : List LifecycleEvent}
    {next : LifecycleState} (ok : RecordOk log record)
    (named : event.identity = record.identity)
    (valid : directEventCreditValid event = true)
    (moved : moveRecord state record event = .ok (next, after)) :
    RecordOk (log ++ [event]) after := by
  have kept := (ok.later event).settled
  unfold moveRecord at moved
  cases known : event.action with
  | importRaw => simp [known] at moved
  | rollbackPreEffect => simp [known] at moved
  | plan =>
      simp only [known, guard_ok, Prod.mk.injEq, Bool.or_eq_true,
        decide_eq_true_eq, not_or, not_not] at moved
      obtain ⟨⟨phase, _⟩, rfl, rfl⟩ := moved
      exact ok.advance rfl rfl rfl rfl rfl rfl rfl
        (fun _ => by simp [Unpublished, phase]) (by simp)
        (nothing_presupposed rfl)
  | admitWitness =>
      simp only [known] at moved
      split at moved
      · contradiction
      · rename_i fresh
        simp only [Bool.or_eq_true, decide_eq_true_eq, not_or,
          not_not] at fresh
        simp only [guard_ok, Prod.mk.injEq] at moved
        obtain ⟨_, rfl, rfl⟩ := moved
        exact ok.advance rfl rfl rfl rfl rfl rfl rfl
          (fun _ => by simp [Unpublished, fresh.1.1]) (by simp)
          (nothing_presupposed rfl)
  | effectCut =>
      simp only [known] at moved
      split at moved
      · contradiction
      · rename_i fresh
        simp only [Bool.or_eq_true, decide_eq_true_eq, not_or,
          not_not] at fresh
        simp only [guard_ok, Prod.mk.injEq] at moved
        obtain ⟨_, rfl, rfl⟩ := moved
        exact ok.advance rfl rfl rfl rfl rfl rfl rfl
          (fun _ => by simp [Unpublished, fresh.1.1]) (by simp)
          (nothing_presupposed rfl)
  | destinationReceipt =>
      simp only [known, guard_ok, Prod.mk.injEq, Bool.or_eq_true,
        decide_eq_true_eq, not_or, not_not] at moved
      obtain ⟨⟨phase, _⟩, rfl, rfl⟩ := moved
      exact ok.advance rfl rfl rfl rfl rfl rfl rfl
        (fun _ => by simp [Unpublished, phase]) (by simp)
        (nothing_presupposed rfl)
  | publish =>
      simp only [known, guard_ok, Prod.mk.injEq, Bool.or_eq_true,
        decide_eq_true_eq, not_or, not_not] at moved
      obtain ⟨⟨⟨phase, _⟩, _⟩, rfl, rfl⟩ := moved
      have first := ok.unpublished (by simp [Unpublished, phase])
      exact
        { ok with
          unstaged := nofun
          returned := fun impossible => by simp at impossible
          unpublished := fun early => by simp [Unpublished] at early
          once := by simp only [first]; decide
          settled := nothing_presupposed rfl }
  | encode =>
      simp only [known, guard_ok, Prod.mk.injEq, Bool.or_eq_true,
        decide_eq_true_eq, not_or, not_not] at moved
      obtain ⟨_, rfl, rfl⟩ := moved
      exact ok.advance rfl rfl rfl rfl rfl rfl rfl
        (fun early => by simp [Unpublished] at early) (by simp)
        (nothing_presupposed rfl)
  | complete =>
      simp only [known, guard_ok, Prod.mk.injEq, Bool.or_eq_true,
        decide_eq_true_eq, not_or, not_not] at moved
      obtain ⟨_, rfl, rfl⟩ := moved
      have settled := settled_snoc named (List.nil_sublist
        (actionsOf record.identity log))
      rw [known] at settled
      exact ok.advance rfl rfl rfl rfl rfl rfl rfl
        (fun early => by simp [Unpublished] at early) (by simp) settled
  | detach =>
      simp only [known, guard_ok, Prod.mk.injEq, Bool.or_eq_true,
        Bool.not_eq_true', decide_eq_true_eq, not_or, not_not,
        Bool.not_eq_false] at moved
      obtain ⟨⟨⟨_, phase⟩, detaches⟩, rfl, rfl⟩ := moved
      have settled := ok.settled
      rw [phase] at settled
      have extended := settled_snoc named settled
      rw [known] at extended
      exact
        { ok with
          conserved := creditDetaches_iff valid ok.sibling detaches
          unstaged := fun _ => rfl
          returned := fun impossible => by simp at impossible
          unpublished := fun early => by simp [Unpublished] at early
          settled := extended }
  | restore =>
      simp only [known, guard_ok, Prod.mk.injEq, Bool.or_eq_true,
        Bool.not_eq_true', decide_eq_true_eq, not_or, not_not,
        Bool.not_eq_false] at moved
      obtain ⟨⟨phase, returned⟩, rfl, rfl⟩ := moved
      have whole := creditReturned_iff ok.sibling returned
      have unstaged := ok.unstaged phase
      have settled := ok.settled
      rw [phase] at settled
      have extended := settled_snoc named settled
      rw [known] at extended
      exact
        { ok with
          conserved := by simp [whole, unstaged]
          unstaged := nofun
          returned := fun _ => ⟨whole, unstaged, rfl⟩
          unpublished := fun early => by simp [Unpublished] at early
          settled := extended }
  | poisonAbandon =>
      simp only [known, guard_ok, Prod.mk.injEq, Bool.or_eq_true,
        Bool.not_eq_true', decide_eq_true_eq, not_or, not_not,
        Bool.not_eq_false] at moved
      obtain ⟨⟨phase, returned⟩, rfl, rfl⟩ := moved
      have whole := creditReturned_iff ok.sibling returned
      exact
        { ok with
          conserved := by simp [whole, ok.unstaged phase]
          unstaged := nofun
          returned := fun impossible => by simp at impossible
          unpublished := fun early => by simp [Unpublished] at early
          settled := nothing_presupposed rfl }
  | reclaim =>
      simp only [known] at moved
      split at moved
      · contradiction
      · split at moved
        · contradiction
        · rename_i isRestored
          simp only [guard_ok, Prod.mk.injEq] at moved
          obtain ⟨_, rfl, rfl⟩ := moved
          have returned := ok.returned (Or.inl (not_not.mp isRestored))
          exact
            { ok with
              unstaged := nofun
              returned := fun _ => returned
              unpublished := fun early => by simp [Unpublished] at early
              settled := nothing_presupposed rfl }
  | failStop =>
      simp only [known, Except.ok.injEq, Prod.mk.injEq] at moved
      obtain ⟨rfl, rfl⟩ := moved
      exact ok.advance rfl rfl rfl rfl rfl rfl rfl
        (fun early => by simp [Unpublished] at early) (by simp)
        (nothing_presupposed rfl)

end Dxmt9.DirectSource
