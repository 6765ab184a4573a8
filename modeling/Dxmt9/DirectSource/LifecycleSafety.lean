import Dxmt9.DirectSource.LifecycleRecords

/-!
# Safety of the direct source lifecycle

One invariant ties the state of the reducer to the log of the accepted events.
Every event that is not rejected keeps it, so it holds after any sequence of
events and batches.
-/

namespace Dxmt9.DirectSource

open Dxmt9.Transition

/-! ## The observer -/

/-- The state of the reducer and the events it has accepted. -/
structure Observed where
  state : LifecycleState := {}
  log : List LifecycleEvent := []

inductive Call where
  | event (event : LifecycleEvent)
  | batch (events : List LifecycleEvent)
      (requireSinglePhysicalCreditOwner : Bool)

/-- A call leaves the state that the reducer leaves; the log grows by the
events of a call without error. -/
def Observed.step (observed : Observed) : Call → Observed
  | .event event =>
      let result := reduceDirectSourceLifecycle observed.state event
      { state := result.1
        log := if result.2 = .none then observed.log ++ [event]
          else observed.log }
  | .batch events requireSinglePhysicalCreditOwner =>
      let result := reduceDirectSourceLifecycleBatch observed.state events
        requireSinglePhysicalCreditOwner
      { state := result.1
        log := if result.2 = .none then observed.log ++ events
          else observed.log }

/-- Both records would hold the credit of one payload. -/
def SharesCredit (left right : LifecycleRecord) : Prop :=
  left.physicalCreditOwner = true ∧ right.physicalCreditOwner = true ∧
    directPhysicalCreditKeyEqual left.identity right.identity = true

/-- A reclaim comes after the settlement of its source. -/
def ReclaimSettled (before : List LifecycleEvent) (event : LifecycleEvent) :
    Prop :=
  event.action = .reclaim →
    [Action.complete, .detach, .restore].Sublist
      (actionsOf event.identity before)

/-- What holds of the state under the log. -/
structure Invariant (state : LifecycleState) (log : List LifecycleEvent) :
    Prop where
  records : ∀ record ∈ state.records, RecordOk log record
  imported : state.lastImported = frontier
    (state.records.map fun record => record.identity.ordinal)
  owners : state.records.Pairwise fun left right => ¬ SharesCredit left right
  named : ∀ event ∈ log, event.identity.rawOrdinal ≠ 0
  published : SpanOrdered (ordinalsOf .publish log)
  lastPublished : state.lastPublished = frontier (ordinalsOf .publish log)
  reclaimed : SpanOrdered (ordinalsOf .reclaim log)
  lastReclaimed : state.lastReclaimed = frontier (ordinalsOf .reclaim log)
  settled : Justified ReclaimSettled log

theorem spanOrdered_nil : SpanOrdered [] where
  starts _ impossible := nomatch impossible
  follows := List.isChain_nil

theorem invariant_initial : Invariant {} [] where
  records _ impossible := absurd impossible List.not_mem_nil
  imported := rfl
  owners := List.Pairwise.nil
  named _ impossible := absurd impossible List.not_mem_nil
  published := spanOrdered_nil
  lastPublished := rfl
  reclaimed := spanOrdered_nil
  lastReclaimed := rfl
  settled := justified_nil ReclaimSettled

variable {state : LifecycleState} {log : List LifecycleEvent}

theorem Invariant.ordinals_named (invariant : Invariant state log)
    (action : Action) :
    ∀ ordinal ∈ ordinalsOf action log, ordinal.raw ≠ 0 := by
  intro ordinal member
  obtain ⟨event, isAction, rfl⟩ := List.mem_map.mp member
  exact invariant.named event (List.mem_of_mem_filter isAction)

variable {next : LifecycleState} {event : LifecycleEvent}

/-- An accepted event that leaves both frontiers alone only extends the
log. -/
theorem Invariant.extend (invariant : Invariant state log) (raw : event.identity.rawOrdinal ≠ 0)
    (quiet : event.action ≠ .publish ∧ event.action ≠ .reclaim)
    (records : ∀ record ∈ next.records, RecordOk (log ++ [event]) record)
    (imported : next.lastImported = frontier
      (next.records.map fun record => record.identity.ordinal))
    (owners : next.records.Pairwise fun left right =>
      ¬ SharesCredit left right)
    (lastPublished : next.lastPublished = state.lastPublished)
    (lastReclaimed : next.lastReclaimed = state.lastReclaimed) :
    Invariant next (log ++ [event]) where
  records := records
  imported := imported
  owners := owners
  named other member := by
    rcases List.mem_append.mp member with old | new
    · exact invariant.named other old
    · rw [List.mem_singleton.mp new]
      exact raw
  published := by
    rw [ordinalsOf_snoc, if_neg quiet.1]
    exact invariant.published
  lastPublished := by
    rw [lastPublished, ordinalsOf_snoc, if_neg quiet.1]
    exact invariant.lastPublished
  reclaimed := by
    rw [ordinalsOf_snoc, if_neg quiet.2]
    exact invariant.reclaimed
  lastReclaimed := by
    rw [lastReclaimed, ordinalsOf_snoc, if_neg quiet.2]
    exact invariant.lastReclaimed
  settled := invariant.settled.snoc fun isReclaim =>
    absurd isReclaim quiet.2

variable {phase : Phase}

theorem newRecord_ok
    (valid : directEventCreditValid event = true)
    (carries : siblingCarriesCredit event = false)
    (early : phase = .admitted ∨ phase = .rawOwned) (witness : UInt64) :
    RecordOk log (newRecord phase witness event) := by
  unfold directEventCreditValid at valid
  rw [creditSumFits_iff] at valid
  constructor
  · exact (creditSum_toNat valid).symm
  · intro sibling
    simp only [newRecord] at sibling
    simp only [siblingCarriesCredit, sibling, Bool.not_false,
      Bool.true_and, Bool.or_eq_false_iff, bne_eq_false_iff_eq] at carries
    simp [newRecord, carries]
  · intro isDetached
    rcases early with rfl | rfl
    · contradiction
    · contradiction
  · intro isReturned
    rcases early with rfl | rfl
    · simp [newRecord] at isReturned
    · simp [newRecord] at isReturned
  · exact fun _ => rfl
  · exact Nat.zero_le 1
  · rcases early with rfl | rfl
    · exact List.nil_sublist _
    · exact List.nil_sublist _

theorem not_sharesCredit
    (free : physicalOwnerError state event = .none) (phase : Phase)
    (witness : UInt64) : ∀ prior ∈ state.records,
      ¬ SharesCredit prior (newRecord phase witness event) := by
  rintro prior member ⟨priorOwner, owner, sameKey⟩
  have owned : state.records.any (fun prior => prior.physicalCreditOwner &&
      directPhysicalCreditKeyEqual prior.identity event.identity) = true :=
    List.any_eq_true.mpr ⟨prior, member, by
      rw [priorOwner, Bool.true_and]
      exact sameKey⟩
  simp only [newRecord] at owner
  simp [physicalOwnerError, owner, owned] at free

theorem Invariant.append (invariant : Invariant state log) (raw : event.identity.rawOrdinal ≠ 0)
    (valid : directEventCreditValid event = true)
    (carries : siblingCarriesCredit event = false)
    (free : physicalOwnerError state event = .none)
    (early : phase = .admitted ∨ phase = .rawOwned) (witness : UInt64)
    (quiet : event.action ≠ .publish ∧ event.action ≠ .reclaim) :
    Invariant (state.append (newRecord phase witness event))
      (log ++ [event]) := by
  apply invariant.extend raw quiet
  · intro record member
    rcases List.mem_append.mp member with old | new
    · exact (invariant.records record old).later event
    · rw [List.mem_singleton.mp new]
      exact newRecord_ok valid carries early witness
  · simp [LifecycleState.append]
  · refine List.pairwise_append.mpr ⟨invariant.owners,
      List.pairwise_singleton _ _, ?_⟩
    intro prior member record new
    rw [List.mem_singleton.mp new]
    exact not_sharesCredit free phase witness prior member
  · rfl
  · rfl

/-! ## One event -/

/-- An event either keeps the invariant or is rejected without a trace. -/
def Reduces (state : LifecycleState) (log : List LifecycleEvent)
    (event : LifecycleEvent) (result : LifecycleState × LifecycleError) :
    Prop :=
  (result.2 = .none ∧ Invariant result.1 (log ++ [event])) ∨
    (result.2 ≠ .none ∧ result.1 = state)

variable {error : LifecycleError}

theorem Reduces.rejected (isError : error ≠ .none) :
    Reduces state log event (state, error) :=
  Or.inr ⟨isError, rfl⟩

section

variable (invariant : Invariant state log)
  (raw : event.identity.rawOrdinal ≠ 0)
include invariant raw

theorem admitWitness_reduces
    (valid : directEventCreditValid event = true)
    (action : event.action = .admitWitness) :
    Reduces state log event (admitWitness state event) := by
  unfold admitWitness
  split
  · exact .rejected (by decide)
  · split
    · exact .rejected (by decide)
    · split
      · exact .rejected (by decide)
      · split
        · exact .rejected (by decide)
        · rename_i carries
          split
          · rename_i refused
            exact .rejected refused
          · rename_i free
            have appended := invariant.append raw valid
              (Bool.eq_false_iff.mpr carries) (not_not.mp free)
              (Or.inl rfl) event.witnessGeneration (by simp [action])
            have ok : RecordOk log
                (newRecord .admitted event.witnessGeneration event) :=
              newRecord_ok valid (Bool.eq_false_iff.mpr carries)
                (Or.inl rfl) event.witnessGeneration
            -- The late credit check never fails.
            have conserved := (directCreditConserved_iff _).mpr ok.conserved
            exact Or.inl ⟨by simp only [conserved, if_true], appended⟩

theorem importRaw_reduces
    (valid : directEventCreditValid event = true)
    (action : event.action = .importRaw) :
    Reduces state log event (importRaw state event) := by
  unfold importRaw
  split
  · exact .rejected (by decide)
  · split
    · exact .rejected (by decide)
    · split
      · exact .rejected (by decide)
      · split
        · exact .rejected (by decide)
        · rename_i carries
          split
          · rename_i refused
            exact .rejected refused
          · rename_i free
            exact Or.inl ⟨rfl, invariant.append raw valid
              (Bool.eq_false_iff.mpr carries) (not_not.mp free)
              (Or.inr rfl) 0 (by simp [action])⟩

theorem rollbackPreEffect_reduces
    (action : event.action = .rollbackPreEffect) (index : Nat)
    (record : LifecycleRecord) :
    Reduces state log event (rollbackPreEffect state index record) := by
  unfold rollbackPreEffect
  split
  · exact .rejected (by decide)
  · split
    · exact .rejected (by decide)
    · refine Or.inl ⟨rfl, ?_⟩
      have shorter := List.dropLast_sublist state.records
      apply invariant.extend raw (by simp [action])
      · intro prior member
        exact (invariant.records prior (shorter.subset member)).later event
      · simp only [frontier, List.getLast?_map]
        cases state.records.dropLast.getLast? with
        | none => rfl
        | some prior => rfl
      · exact invariant.owners.sublist shorter
      · rfl
      · rfl

end

variable {index : Nat}

/-- A pairwise relation survives an update that it does not observe. -/
theorem pairwise_set {α : Type} {related : α → α → Prop} {items : List α}
    (pairwise : items.Pairwise related) {old new : α}
    (present : items[index]? = some old)
    (left : ∀ other, related other old → related other new)
    (right : ∀ other, related old other → related new other) :
    (items.set index new).Pairwise related := by
  induction items generalizing index with
  | nil => exact pairwise
  | cons head rest induction =>
      obtain ⟨first, others⟩ := List.pairwise_cons.mp pairwise
      cases index with
      | zero =>
          obtain rfl := Option.some.inj present
          exact List.pairwise_cons.mpr
            ⟨fun other member => right other (first other member), others⟩
      | succ index =>
          refine List.pairwise_cons.mpr ⟨?_, induction others present⟩
          intro other member
          rcases List.mem_or_eq_of_mem_set member with old | rfl
          · exact first other old
          · exact left _ (first _ (List.mem_of_getElem? present))

variable {record after : LifecycleRecord}

theorem directLogicalOrdinalAfter_of_publish
    (action : event.action = .publish)
    (moved : moveRecord state record event = .ok (next, after)) :
    directLogicalOrdinalAfter event.identity.ordinal state.lastPublished =
      true := by
  simp only [moveRecord, action, guard_ok, Bool.or_eq_true, not_or,
    Bool.not_eq_true', Bool.not_eq_false] at moved
  exact moved.1.2

theorem directLogicalOrdinalAfter_of_reclaim
    (action : event.action = .reclaim)
    (moved : moveRecord state record event = .ok (next, after)) :
    record.phase = .restored ∧
      directLogicalOrdinalAfter event.identity.ordinal state.lastReclaimed =
        true := by
  simp only [moveRecord, action] at moved
  split at moved
  · contradiction
  · split at moved
    · contradiction
    · rename_i isRestored
      simp only [guard_ok, Bool.or_eq_true, not_or, Bool.not_eq_true',
        Bool.not_eq_false] at moved
      exact ⟨not_not.mp isRestored, moved.1.2⟩

theorem Invariant.move (invariant : Invariant state log) (raw : event.identity.rawOrdinal ≠ 0)
    (present : state.records[index]? = some record)
    (named : event.identity = record.identity)
    (ok : RecordOk (log ++ [event]) after)
    (moved : moveRecord state record event = .ok (next, after))
    (count : UInt32) :
    Invariant
      { next with
        records := next.records.set index
          { after with transitionCount := count } }
      (log ++ [event]) := by
  obtain ⟨identity, owner, rfl⟩ := moveRecord_frame moved
  constructor
  · intro other member
    rcases List.mem_or_eq_of_mem_set member with old | rfl
    · exact (invariant.records other old).later event
    · exact { ok with }
  · simp only [invariant.imported, List.map_set, identity]
    congr 1
    apply List.ext_getElem?
    intro other
    rw [List.getElem?_set]
    split
    · rename_i same
      subst same
      have bound := (List.getElem?_eq_some_iff.mp present).1
      rw [List.length_map, if_pos bound, List.getElem?_map, present]
      rfl
    · rfl
  · apply pairwise_set invariant.owners present
    · intro other free shares
      apply free
      unfold SharesCredit at *
      rw [← owner, ← identity]
      exact shares
    · intro other free shares
      apply free
      unfold SharesCredit at *
      rw [← owner, ← identity]
      exact shares
  · intro other member
    rcases List.mem_append.mp member with old | new
    · exact invariant.named other old
    · rw [List.mem_singleton.mp new]
      exact raw
  · rw [ordinalsOf_snoc]
    split
    · rename_i isPublish
      apply invariant.published.snoc (invariant.ordinals_named _)
      rw [← invariant.lastPublished]
      exact directLogicalOrdinalAfter_of_publish isPublish moved
    · exact invariant.published
  · rw [ordinalsOf_snoc]
    split
    · rw [frontier_snoc]
    · exact invariant.lastPublished
  · rw [ordinalsOf_snoc]
    split
    · rename_i isReclaim
      apply invariant.reclaimed.snoc (invariant.ordinals_named _)
      rw [← invariant.lastReclaimed]
      exact (directLogicalOrdinalAfter_of_reclaim isReclaim moved).2
    · exact invariant.reclaimed
  · rw [ordinalsOf_snoc]
    by_cases isReclaim : event.action = .reclaim
    · simp [isReclaim]
    · simp [isReclaim, invariant.lastReclaimed]
  · apply invariant.settled.snoc
    intro isReclaim
    have isRestored := (directLogicalOrdinalAfter_of_reclaim isReclaim moved).1
    have settled :=
      (invariant.records record (List.mem_of_getElem? present)).settled
    rw [isRestored, ← named] at settled
    exact settled

theorem moveRecord_error
    (refused : moveRecord state record event = .error error) :
    error ≠ .none := by
  unfold moveRecord at refused
  split at refused <;> grind

theorem reduceRecord_reduces (invariant : Invariant state log) (raw : event.identity.rawOrdinal ≠ 0)
    (valid : directEventCreditValid event = true)
    (present : state.records[index]? = some record)
    (named : event.identity = record.identity) :
    Reduces state log event (reduceRecord state index record event) := by
  unfold reduceRecord
  split
  · rename_i action
    exact rollbackPreEffect_reduces invariant raw action index record
  · split
    · rename_i error refused
      exact .rejected (moveRecord_error refused)
    · rename_i next after moved
      have ok := moveRecord_ok
        (invariant.records record (List.mem_of_getElem? present)) named valid
        moved
      have conserved := (directCreditConserved_iff after).mpr ok.conserved
      refine Or.inl ⟨?_, ?_⟩
      · have counted : directCreditConserved { after with
            transitionCount := after.transitionCount + 1 } = true := conserved
        simp only [counted, if_true]
      · exact invariant.move raw present named ok moved _

/-- One event keeps the invariant or is rejected without a trace. -/
theorem reduceDirectSourceLifecycle_reduces (invariant : Invariant state log)
    (event : LifecycleEvent) :
    Reduces state log event (reduceDirectSourceLifecycle state event) := by
  unfold reduceDirectSourceLifecycle
  split
  · exact .rejected (by decide)
  · rename_i wellFormed
    simp only [Bool.or_eq_true, not_or, Bool.not_eq_true',
      Bool.not_eq_false] at wellFormed
    obtain ⟨⟨validIdentity, _⟩, valid⟩ := wellFormed
    have raw : event.identity.rawOrdinal ≠ 0 := by
      simp only [Identity.valid, Bool.and_eq_true, bne_iff_ne] at validIdentity
      exact validIdentity.1.1.1.1.1.1.1.1
    have refusedError : (if event.partialAdoption then .partialAdoption
        else LifecycleError.invalidIdentity) ≠ .none := by
      split
      · decide
      · decide
    simp only
    split
    · rename_i unknown
      exact admitWitness_reduces invariant raw valid unknown.1
    · split
      · rename_i action
        exact importRaw_reduces invariant raw valid action
      · split
        · exact .rejected refusedError
        · rename_i index found
          split
          · exact .rejected refusedError
          · rename_i record present
            split
            · exact .rejected refusedError
            · have named := List.of_findIdx?_eq_some found
              rw [present] at named
              exact reduceRecord_reduces invariant raw valid present
                (beq_iff_eq.mp named).symm

variable {events : List LifecycleEvent}

theorem reduceAll_kept
    (invariant : Invariant state log)
    (accepted : (reduceAll state events).2 = .none) :
    Invariant (reduceAll state events).1 (log ++ events) := by
  induction events generalizing state log with
  | nil =>
      rw [List.append_nil]
      exact invariant
  | cons event rest induction =>
      rw [List.append_cons]
      unfold reduceAll at accepted ⊢
      rcases reduceDirectSourceLifecycle_reduces invariant event with
        ⟨isNone, kept⟩ | ⟨refused, _⟩
      · simp only [if_pos isNone] at accepted ⊢
        exact induction kept accepted
      · simp only [if_neg refused] at accepted
        exact absurd accepted refused

variable {single : Bool}

theorem batch_rejected
    (refused : (reduceDirectSourceLifecycleBatch state events single).2 ≠
      .none) :
    (reduceDirectSourceLifecycleBatch state events single).1 = state := by
  unfold reduceDirectSourceLifecycleBatch at *
  split
  · rfl
  · rename_i owned
    simp only [if_neg owned] at refused
    simp only
    split
    · rename_i isNone
      simp only [if_pos isNone] at refused
      exact absurd isNone refused
    · rfl

theorem batch_accepted
    (invariant : Invariant state log)
    (accepted : (reduceDirectSourceLifecycleBatch state events single).2 =
      .none) :
    Invariant (reduceDirectSourceLifecycleBatch state events single).1
      (log ++ events) := by
  unfold reduceDirectSourceLifecycleBatch at *
  split
  · rename_i refused
    rw [if_pos refused] at accepted
    exact absurd accepted refused.2
  · rename_i owned
    simp only [if_neg owned] at accepted
    simp only
    split
    · rename_i isNone
      exact reduceAll_kept invariant isNone
    · rename_i refused
      simp only [if_neg refused] at accepted
      exact absurd accepted refused

theorem Observed.step_kept (observed : Observed) (call : Call)
    (invariant : Invariant observed.state observed.log) :
    Invariant (observed.step call).state (observed.step call).log := by
  cases call with
  | event event =>
      simp only [step]
      rcases reduceDirectSourceLifecycle_reduces invariant event with
        ⟨accepted, kept⟩ | ⟨refused, same⟩
      · rw [if_pos accepted]
        exact kept
      · rw [if_neg refused, same]
        exact invariant
  | batch events single =>
      simp only [step]
      split
      · rename_i accepted
        exact batch_accepted invariant accepted
      · rename_i refused
        rw [batch_rejected refused]
        exact invariant

theorem Observed.run_kept (calls : List Call) :
    Invariant (run Observed.step {} calls).state
      (run Observed.step {} calls).log := by
  apply @run_invariant _ _ _ fun observed : Observed =>
    DirectSource.Invariant observed.state observed.log
  · exact Observed.step_kept
  · exact invariant_initial

/-- After any calls, whatever was rejected: a rejection leaves no trace, the
credits of each source sum to its aggregate, each source was published at most
once, publications and reclaims are in order of raw and span, a reclaim comes
after completion, detach and restore with the credit back, one source holds
the credit of a payload, and the frontier is the newest record. -/
theorem direct_source_lifecycle_safe (calls : List Call) :
    let observed := run Observed.step {} calls
    (∀ event,
        (reduceDirectSourceLifecycle observed.state event).2 ≠ .none →
          (reduceDirectSourceLifecycle observed.state event).1 =
            observed.state) ∧
      (∀ events single,
        (reduceDirectSourceLifecycleBatch observed.state events single).2 ≠
            .none →
          (reduceDirectSourceLifecycleBatch observed.state events single).1 =
            observed.state) ∧
      (∀ record ∈ observed.state.records,
        record.retainedCredit.toNat + record.stagedCredit.toNat +
          record.detachedCredit.toNat = record.aggregateCredit.toNat) ∧
      (∀ record ∈ observed.state.records,
        record.publicationCount.toNat ≤ 1) ∧
      SpanOrdered (ordinalsOf .publish observed.log) ∧
      (ordinalsOf .publish observed.log).Pairwise Before ∧
      SpanOrdered (ordinalsOf .reclaim observed.log) ∧
      (ordinalsOf .reclaim observed.log).Pairwise Before ∧
      (∀ before event after,
        observed.log = before ++ event :: after → event.action = .reclaim →
          [Action.complete, .detach, .restore].Sublist
            (actionsOf event.identity before)) ∧
      (∀ record ∈ observed.state.records, record.phase = .reclaimed →
        record.retainedCredit = record.aggregateCredit ∧
          record.stagedCredit = 0 ∧ record.detachedCredit = 0) ∧
      (observed.state.records.Pairwise fun left right =>
        ¬ SharesCredit left right) ∧
      observed.state.lastImported = frontier
        (observed.state.records.map fun record =>
          record.identity.ordinal) := by
  have invariant := Observed.run_kept calls
  refine ⟨?_, fun _ _ => batch_rejected, ?_, ?_, invariant.published,
    invariant.published.increasing, invariant.reclaimed,
    invariant.reclaimed.increasing, invariant.settled, ?_, invariant.owners,
    invariant.imported⟩
  · intro event refused
    rcases reduceDirectSourceLifecycle_reduces invariant event with
      ⟨accepted, _⟩ | ⟨_, same⟩
    · exact absurd accepted refused
    · exact same
  · exact fun record member => (invariant.records record member).conserved
  · exact fun record member => (invariant.records record member).once
  · intro record member isReclaimed
    exact (invariant.records record member).returned (Or.inr isReclaimed)

/-- An identity in the first slot. -/
def sampleIdentity (raw : UInt64) (page : UInt32) : Identity :=
  { rawOrdinal := raw
    sourceOrdinal := raw
    seqId := raw
    sourceGeneration := 1
    storageGeneration := 1
    destinationSlot := 0
    sourceIndex := 0
    firstPage := page
    pageCount := 1 }

/-- The events that admit and publish a source. -/
def samplePublication (identity : Identity) : List Call :=
  [.admitWitness, .effectCut, .destinationReceipt, .publish].map fun action =>
    .event
      { identity := identity
        action := action
        schemaRevision := 1
        witnessGeneration := 1
        retainedCredit := 8
        physicalCreditOwner := true }

/-- Two sources may be published before either is encoded. -/
theorem two_publications_outstanding :
    (run Observed.step {} (samplePublication (sampleIdentity 1 0) ++
      samplePublication (sampleIdentity 2 1))).state.records.countP
        (fun record => record.phase == .published) = 2 := by
  decide +kernel

end Dxmt9.DirectSource
