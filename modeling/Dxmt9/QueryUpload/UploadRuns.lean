import Dxmt9.QueryUpload.UploadTracker

/-!
# Runs of a query upload tracker

Whatever calls a tracker is given, its watermark is the longest run of uploads
that were observed complete in order.
-/

namespace Dxmt9.QueryUpload

open Dxmt9.Queue UploadTracker

variable {Buffer : Type} [Inhabited Buffer] {capacity : Nat}

namespace Run

variable {run : Run Buffer capacity}

/-! ## The history of a run -/

omit [Inhabited Buffer] in
theorem uploads_snoc (tracker : UploadTracker Buffer capacity)
    (events : List (Event Buffer)) (event : Event Buffer) :
    uploads { tracker := tracker, events := events ++ [event] } =
      uploads { tracker := tracker, events := events } ++
        event.upload?.toList := by
  unfold uploads
  rw [List.filterMap_append, List.filterMap_cons]
  cases event.upload? <;> rfl

omit [Inhabited Buffer] in
theorem observed_snoc (tracker : UploadTracker Buffer capacity)
    (events : List (Event Buffer)) (event : Event Buffer) :
    observed { tracker := tracker, events := events ++ [event] } =
      observed { tracker := tracker, events := events } ++
        event.completions := by
  unfold observed
  rw [List.flatMap_append, List.flatMap_singleton]

/-- A poll with at least the signal of an earlier one answers at least as
much. -/
def NotBelow (earlier later : Event Buffer) : Prop :=
  ∀ signaled observations result signaled' observations' result',
    earlier = .polled signaled observations result →
      later = .polled signaled' observations' result' →
        signaled ≤ signaled' → result ≤ result'

/-- What every step of a run keeps. -/
structure Sound (run : Run Buffer capacity) : Prop where
  holds : run.tracker.Holds run.uploads run.observed
  failed : run.tracker.failed = run.events.any Event.isFailure
  polls : ∀ signaled observations result,
    .polled signaled observations result ∈ run.events →
      result ≤ signaled ∧ result ≤ run.tracker.completed
  ordered : run.events.Pairwise NotBelow

theorem initial_sound (positive : 0 < capacity) :
    (initial : Run Buffer capacity).Sound where
  holds :=
    { length := List.length_replicate ..
      inside := positive
      count := Nat.zero_le capacity
      split := rfl
      values := rfl
      completed := rfl
      published := Nat.zero_lt_succ _ }
  failed := rfl
  polls := fun _ _ _ member => nomatch member
  ordered := List.Pairwise.nil

variable {tracker : UploadTracker Buffer capacity} {event : Event Buffer}

section

variable (sound : run.Sound)
include sound

/-- A step whose event is no poll keeps the order of the polls. -/
theorem Sound.next
    (holds : tracker.Holds (run.uploads ++ event.upload?.toList)
      (run.observed ++ event.completions))
    (failed : tracker.failed = (run.tracker.failed || event.isFailure))
    (completed : run.tracker.completed ≤ tracker.completed)
    (polled : ∀ signaled observations result,
      event = .polled signaled observations result →
        result = min tracker.completed signaled) :
    Sound { tracker := tracker, events := run.events ++ [event] } where
  holds := by
    rw [uploads_snoc, observed_snoc]
    exact holds
  failed := by
    rw [List.any_append, failed, sound.failed, List.any_cons, List.any_nil,
      Bool.or_false]
  polls := by
    intro signaled observations result member
    cases List.mem_append.mp member with
    | inl earlier =>
        have bounds := sound.polls signaled observations result earlier
        exact ⟨bounds.1, bounds.2.trans completed⟩
    | inr last =>
        rw [polled signaled observations result
          (List.mem_singleton.mp last).symm]
        exact ⟨Nat.min_le_right .., Nat.min_le_left ..⟩
  ordered := by
    apply List.pairwise_append.mpr
    refine ⟨sound.ordered, List.pairwise_singleton .., ?_⟩
    intro earlier member later last
    rw [List.mem_singleton.mp last]
    intro signaled observations result signaled' observations' result'
      shape shape' larger
    rw [shape] at member
    have bounds := sound.polls signaled observations result member
    rw [polled signaled' observations' result' shape']
    exact Nat.le_min.mpr ⟨bounds.2.trans completed, bounds.1.trans larger⟩

theorem Sound.quiet
    (same : tracker = if event.isFailure = true then run.tracker.fail
      else run.tracker)
    (nothing : event.upload? = none) (unseen : event.completions = [])
    (other : ∀ signaled observations result,
      event ≠ .polled signaled observations result) :
    Sound { tracker := tracker, events := run.events ++ [event] } := by
  subst same
  apply sound.next
  · rw [nothing, unseen, Option.toList_none, List.append_nil, List.append_nil]
    split
    · exact sound.holds.fail
    · exact sound.holds
  · split
    · rename_i failure
      rw [failure, Bool.or_true]
      rfl
    · rename_i success
      rw [Bool.eq_false_iff.mpr success, Bool.or_false]
  · split <;> exact Nat.le_refl _
  · intro signaled observations result shape
    exact absurd shape (other signaled observations result)

theorem Sound.step (taken : Step Buffer) :
    (run.step taken).Sound := by
  cases taken with
  | admission hasEvent next =>
      rw [Run.step]
      cases outcome : (run.tracker.admitNext hasEvent next).2 with
      | true =>
          exact sound.quiet (admitNext_true outcome).1 rfl rfl
            (fun _ _ _ shape => nomatch shape)
      | false =>
          exact sound.quiet (admitNext_false outcome) rfl rfl
            (fun _ _ _ shape => nomatch shape)
  | append buffer value =>
      cases outcome : (run.tracker.append buffer value).2 with
      | false =>
          rw [Run.step, outcome]
          exact sound.quiet (append_of_rejected outcome) rfl rfl
            (fun _ _ _ shape => nomatch shape)
      | true =>
          rw [Run.step, outcome]
          apply sound.next
          · change (run.tracker.append buffer value).1.Holds _
              (run.observed ++ [])
            rw [List.append_nil]
            exact sound.holds.append outcome
          · rw [append_of_accepted outcome]
            exact (Bool.or_false _).symm
          · rw [append_of_accepted outcome]
          · exact fun _ _ _ shape => nomatch shape
  | poll signaled statusOf =>
      have drained := drained statusOf sound.holds
        (Nat.le_refl run.tracker.count)
      apply sound.next
      · change (drain statusOf run.tracker.count run.tracker).1.Holds
          (run.uploads ++ []) _
        rw [List.append_nil]
        exact drained.holds
      · exact drained.failed
      · rw [sound.holds.completed]
        have counted := drained.holds.completed
        rw [List.length_append] at counted
        exact (Nat.le_add_right ..).trans_eq counted.symm
      · intro signaled' observations' result' shape
        cases shape
        rfl
  | fail =>
      exact sound.quiet rfl rfl rfl (fun _ _ _ shape => nomatch shape)

theorem Sound.steps (taken : List (Step Buffer)) :
    (run.steps taken).Sound := by
  induction taken generalizing run with
  | nil => exact sound
  | cons next rest induction => exact induction (sound.step next)

theorem Sound.observedThrough_iff {value : Nat} :
    run.ObservedThrough value ↔ value ≤ run.tracker.completed := by
  unfold ObservedThrough
  rw [sound.holds.split_values.1]
  constructor
  · intro front
    have lengths := front.length_le
    rwa [List.length_range', List.length_range'] at lengths
  · intro below
    refine ⟨List.range' (1 + value) (run.tracker.completed - value), ?_⟩
    rw [List.range'_append_1, Nat.add_sub_cancel' below]

theorem Sound.isGreatest (signaled : Nat) :
    IsGreatest {value | value ≤ signaled ∧ run.ObservedThrough value}
      (min run.tracker.completed signaled) := by
  constructor
  · exact ⟨Nat.min_le_right .., sound.observedThrough_iff.mpr
      (Nat.min_le_left ..)⟩
  · intro value member
    exact Nat.le_min.mpr ⟨sound.observedThrough_iff.mp member.2, member.1⟩

/-- A poll after the given calls answers the largest value, not above the
signal, up to which every upload is complete by now. -/
theorem Sound.isGreatest_complete
    (unfailed : run.tracker.failed = false) (signaled : Nat)
    (statusOf : Buffer → UploadStatus)
    (kept : ∀ upload ∈ run.observed, statusOf upload.buffer = .complete) :
    IsGreatest {value | value ≤ signaled ∧
        value ≤ run.tracker.published ∧
        ∀ upload ∈ run.uploads, upload.value ≤ value →
          statusOf upload.buffer = .complete}
      (run.tracker.poll signaled statusOf).result := by
  have drained := drained statusOf sound.holds (Nat.le_refl run.tracker.count)
  have published : (drain statusOf run.tracker.count run.tracker).1.published
      = run.tracker.published := by
    rw [← drained.holds.length_uploads, sound.holds.length_uploads]
  have total := drained.holds.total
  constructor
  · refine ⟨Nat.min_le_right .., ?_, ?_⟩
    · have below := Nat.min_le_left
        (drain statusOf run.tracker.count run.tracker).1.completed signaled
      change min _ _ ≤ _
      omega
    · intro upload member below
      have inside : upload.value ≤
          (drain statusOf run.tracker.count run.tracker).1.completed :=
        below.trans (Nat.min_le_left ..)
      rw [drained.holds.split] at member
      cases List.mem_append.mp member with
      | inr waiting =>
          have value := List.mem_map_of_mem (f := (·.value)) waiting
          rw [drained.holds.split_values.2, List.mem_range'_1] at value
          omega
      | inl seen =>
          cases List.mem_append.mp seen with
          | inl earlier => exact kept upload earlier
          | inr now =>
              obtain ⟨observation, known, rfl⟩ := List.mem_map.mp now
              have told := List.mem_filter.mp known
              rw [← drained.told observation told.1]
              exact of_decide_eq_true told.2
  · rintro value ⟨below, exists_, complete⟩
    refine Nat.le_min.mpr ⟨?_, below⟩
    by_contra beyond
    have waiting :
        (drain statusOf run.tracker.count run.tracker).1.count ≠ 0 := by
      omega
    cases drained.stopped unfailed with
    | inl none => exact waiting none
    | inr stopped =>
        apply stopped
        apply complete
        · rw [drained.holds.split, drained.holds.pending_eq waiting]
          exact List.mem_append_right _ (List.mem_cons_self ..)
        · rw [drained.holds.front_value waiting]
          omega

theorem Sound.told (taken : List (Step Buffer)) :
    ∀ upload ∈ (run.steps taken).observed, upload ∈ run.observed ∨
      ∃ signaled statusOf, Step.poll signaled statusOf ∈ taken ∧
        statusOf upload.buffer = .complete := by
  induction taken generalizing run with
  | nil => exact fun upload member => .inl member
  | cons next rest induction =>
      intro upload member
      cases induction (sound.step next) upload member with
      | inr later =>
          obtain ⟨signaled, statusOf, known, complete⟩ := later
          exact .inr ⟨signaled, statusOf, List.mem_cons_of_mem _ known,
            complete⟩
      | inl seen =>
          cases next with
          | admission hasEvent next =>
              rw [Run.step, observed_snoc] at seen
              exact .inl ((List.append_nil _).subst seen)
          | append buffer value =>
              rw [Run.step, observed_snoc] at seen
              exact .inl ((List.append_nil _).subst seen)
          | fail =>
              rw [Run.step, observed_snoc] at seen
              exact .inl ((List.append_nil _).subst seen)
          | poll signaled statusOf =>
              rw [Run.step, observed_snoc] at seen
              cases List.mem_append.mp seen with
              | inl earlier => exact .inl earlier
              | inr now =>
                  have drained := drained statusOf sound.holds
                    (Nat.le_refl run.tracker.count)
                  obtain ⟨observation, known, rfl⟩ := List.mem_map.mp now
                  have told := List.mem_filter.mp known
                  refine .inr ⟨signaled, statusOf, List.mem_cons_self .., ?_⟩
                  rw [← drained.told observation told.1]
                  exact of_decide_eq_true told.2

end

/-- A failed run publishes nothing and observes nothing. -/
structure Stuck (before after : Run Buffer capacity) : Prop where
  failed : after.tracker.failed = true
  completed : after.tracker.completed = before.tracker.completed
  uploads : after.uploads = before.uploads
  observed : after.observed = before.observed

omit [Inhabited Buffer] in
theorem admitNext_of_failed
    (failed : tracker.failed = true) (hasEvent : Bool) (next : Nat) :
    tracker.admitNext hasEvent next = (tracker.fail, false) :=
  if_pos (.inl failed)

section

variable (sound : run.Sound) (failed : run.tracker.failed = true)
include sound failed

theorem Sound.stuck_step (next : Step Buffer) :
    Stuck run (run.step next) := by
  cases next with
  | admission hasEvent next =>
      rw [Run.step, admitNext_of_failed failed]
      exact
        { failed := rfl
          completed := rfl
          uploads := (uploads_snoc ..).trans (List.append_nil _)
          observed := (observed_snoc ..).trans (List.append_nil _) }
  | append buffer value =>
      have rejected : run.tracker.append buffer value =
          (run.tracker.fail, false) := by
        unfold UploadTracker.append
        rw [admitNext_of_failed failed]
        rfl
      rw [Run.step, rejected]
      exact
        { failed := rfl
          completed := rfl
          uploads := (uploads_snoc ..).trans (List.append_nil _)
          observed := (observed_snoc ..).trans (List.append_nil _) }
  | poll signaled statusOf =>
      have still := (drained statusOf sound.holds
        (Nat.le_refl run.tracker.count)).still failed
      rw [Run.step, UploadTracker.poll, still]
      exact
        { failed := failed
          completed := rfl
          uploads := (uploads_snoc ..).trans (List.append_nil _)
          observed := (observed_snoc ..).trans (List.append_nil _) }
  | fail =>
      exact
        { failed := rfl
          completed := rfl
          uploads := (uploads_snoc ..).trans (List.append_nil _)
          observed := (observed_snoc ..).trans (List.append_nil _) }

theorem Sound.stuck_steps (later : List (Step Buffer)) :
    Stuck run (run.steps later) := by
  induction later generalizing run with
  | nil => exact ⟨failed, rfl, rfl, rfl⟩
  | cons next rest induction =>
      have first := sound.stuck_step failed next
      have others := induction (sound.step next) first.failed
      exact
        { failed := others.failed
          completed := others.completed.trans first.completed
          uploads := others.uploads.trans first.uploads
          observed := others.observed.trans first.observed }

end

end Run

/-- A buffer that one poll is told complete stays complete for the later
ones. -/
def NeverReverting (taken : List (Step Buffer)) : Prop :=
  taken.Pairwise fun earlier later =>
    ∀ signaled statusOf signaled' statusOf',
      earlier = .poll signaled statusOf →
        later = .poll signaled' statusOf' →
          ∀ buffer, statusOf buffer = .complete →
            statusOf' buffer = .complete

/-- What a tracker promises after the given calls. -/
structure WatermarkExact (taken : List (Step Buffer))
    (run : Run Buffer capacity) : Prop where
  /-- A poll answers the largest value up to which every upload was observed
  complete in order. -/
  watermark : ∀ signaled statusOf,
    IsGreatest {value | value ≤ signaled ∧
        (run.step (.poll signaled statusOf)).ObservedThrough value}
      (run.tracker.poll signaled statusOf).result
  /-- Without a failure, these are the uploads that are complete by now. -/
  reaches : ∀ signaled statusOf, ¬ run.HasFailed →
    NeverReverting (taken ++ [.poll signaled statusOf]) →
      IsGreatest {value | value ≤ signaled ∧
          value ≤ run.tracker.published ∧
          ∀ upload ∈ run.uploads, upload.value ≤ value →
            statusOf upload.buffer = .complete}
        (run.tracker.poll signaled statusOf).result
  ordered : run.events.Pairwise Run.NotBelow
  bounded : ∀ signaled observations result,
    .polled signaled observations result ∈ run.events →
      result ≤ signaled ∧ result ≤ run.tracker.published
  values : run.uploads.map (·.value) =
    List.range' 1 run.tracker.published
  /-- The ring holds the published uploads that were not observed yet. -/
  pending : run.uploads = run.observed ++ run.tracker.pending ∧
    run.tracker.pending.length = run.tracker.count ∧
    run.tracker.count ≤ capacity
  failed : run.tracker.failed = true ↔ run.HasFailed
  /-- Behind a failure nothing is admitted and no poll observes more. -/
  stuck : run.HasFailed → ∀ later : List (Step Buffer),
    (∀ hasEvent next,
      ((run.steps later).tracker.admitNext hasEvent next).2 = false) ∧
    (run.steps later).uploads = run.uploads ∧
    (run.steps later).observed = run.observed ∧
    ∀ signaled statusOf,
      ((run.steps later).tracker.poll signaled statusOf).result =
        min run.tracker.completed signaled

/-- Every run of a tracker keeps its watermark exact. -/
theorem uploadTracker_watermarkExact (positive : 0 < capacity)
    (taken : List (Step Buffer)) :
    WatermarkExact taken ((Run.initial : Run Buffer capacity).steps taken)
    := by
  have start : (Run.initial : Run Buffer capacity).Sound :=
    Run.initial_sound positive
  have sound := start.steps taken
  have failed : ((Run.initial : Run Buffer capacity).steps
      taken).tracker.failed = true ↔
        ((Run.initial : Run Buffer capacity).steps taken).HasFailed := by
    rw [sound.failed]
    rfl
  refine
    { watermark := fun signaled statusOf =>
        (sound.step (.poll signaled statusOf)).isGreatest signaled
      reaches := ?_
      ordered := sound.ordered
      bounded := ?_
      values := sound.holds.values
      pending := ⟨sound.holds.split, length_pending _, sound.holds.count⟩
      failed := failed
      stuck := ?_ }
  · intro signaled statusOf unfailed kept
    apply sound.isGreatest_complete
      (Bool.eq_false_iff.mpr fun broken => unfailed (failed.mp broken))
    intro upload member
    cases start.told taken upload member with
    | inl none => cases none
    | inr told =>
        obtain ⟨signaled', statusOf', known, complete⟩ := told
        exact (List.pairwise_append.mp kept).2.2 _ known _
          (List.mem_singleton.mpr rfl) signaled' statusOf' signaled statusOf
          rfl rfl upload.buffer complete
  · intro signaled observations result member
    have bounds := sound.polls signaled observations result member
    refine ⟨bounds.1, bounds.2.trans ?_⟩
    rw [sound.holds.total]
    exact Nat.le_add_right ..
  · intro broken later
    have stuck := sound.stuck_steps (failed.mpr broken) later
    refine ⟨?_, stuck.uploads, stuck.observed, ?_⟩
    · intro hasEvent next
      rw [Run.admitNext_of_failed stuck.failed]
    · intro signaled statusOf
      have still := ((sound.steps later).stuck_step stuck.failed
        (.poll signaled statusOf)).completed
      change min _ signaled = _
      rw [← stuck.completed, ← still]
      rfl

/-- A ring of two uploads, of which the second completes first. -/
theorem uploadTracker_watermarkExact_two :
    WatermarkExact
      ([.append true 1, .append false 2,
        .poll 2 (fun buffer => if buffer then .pending else .complete),
        .poll 2 (fun _ => .complete)] : List (Step Bool))
      ((Run.initial : Run Bool 2).steps
        [.append true 1, .append false 2,
          .poll 2 (fun buffer => if buffer then .pending else .complete),
          .poll 2 (fun _ => .complete)]) :=
  uploadTracker_watermarkExact (by decide) _

end Dxmt9.QueryUpload
