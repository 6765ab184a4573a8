import Dxmt9.Queue.Ring
import Mathlib.Order.Bounds.Basic

/-!
# The query upload tracker

A ring of uploads in flight.  A poll reaps the completed ones from the head,
and its watermark is the value of the last upload it reaped.  A failure is
sticky.
-/

namespace Dxmt9.QueryUpload

open Dxmt9.Queue

/-- The largest value of a `std::uint64_t`. -/
def maxUploadValue : Nat := 0xffffffffffffffff

inductive UploadStatus where
  | pending
  | complete
  | failed
deriving DecidableEq

structure Entry (Buffer : Type) where
  buffer : Buffer
  value : Nat := 0
deriving DecidableEq

instance {Buffer : Type} [Inhabited Buffer] : Inhabited (Entry Buffer) where
  default := { buffer := default }

structure UploadTracker (Buffer : Type) (capacity : Nat) where
  entries : List (Entry Buffer)
  head : Nat := 0
  count : Nat := 0
  published : Nat := 0
  completed : Nat := 0
  failed : Bool := false

variable {Buffer : Type} [Inhabited Buffer] {capacity : Nat}

namespace UploadTracker

def initial : UploadTracker Buffer capacity where
  entries := List.replicate capacity default

def fail (tracker : UploadTracker Buffer capacity) :
    UploadTracker Buffer capacity :=
  { tracker with failed := true }

def admitNext (tracker : UploadTracker Buffer capacity) (hasEvent : Bool)
    (next : Nat) : UploadTracker Buffer capacity × Bool :=
  if tracker.failed = true ∨ tracker.count = capacity ∨ hasEvent = false ∨
      next = maxUploadValue ∨ next = 0 ∨
      next ≠ (tracker.published + 1) % 2 ^ 64 then
    (tracker.fail, false)
  else (tracker, true)

def append (tracker : UploadTracker Buffer capacity) (buffer : Buffer)
    (value : Nat) : UploadTracker Buffer capacity × Bool :=
  if (tracker.admitNext true value).2 = false then
    ((tracker.admitNext true value).1, false)
  else
    ({ (tracker.admitNext true value).1 with
        entries := tracker.entries.set
          ((tracker.head + tracker.count) % capacity)
          { buffer := buffer, value := value }
        count := tracker.count + 1
        published := value }, true)

/-- The entry at the head of the ring. -/
def front (tracker : UploadTracker Buffer capacity) : Entry Buffer :=
  tracker.entries.getD tracker.head default

/-- What a poll does to a completed head. -/
def reap (tracker : UploadTracker Buffer capacity) :
    UploadTracker Buffer capacity :=
  { tracker with
    completed := tracker.front.value
    entries := tracker.entries.set tracker.head default
    head := (tracker.head + 1) % capacity
    count := tracker.count - 1 }

/-- The loop of a poll, with the statuses it was told.  Every turn but the
last takes one entry, so that the count bounds the turns. -/
def drain (statusOf : Buffer → UploadStatus) :
    Nat → UploadTracker Buffer capacity →
      UploadTracker Buffer capacity × List (Entry Buffer × UploadStatus)
  | 0, tracker => (tracker, [])
  | turns + 1, tracker =>
    if tracker.failed = true ∨ tracker.count = 0 then (tracker, [])
    else
      match statusOf tracker.front.buffer with
      | .failed => (tracker.fail, [(tracker.front, .failed)])
      | .pending => (tracker, [(tracker.front, .pending)])
      | .complete =>
        ((drain statusOf turns tracker.reap).1,
          (tracker.front, .complete) ::
            (drain statusOf turns tracker.reap).2)

structure Polled (Buffer : Type) (capacity : Nat) where
  tracker : UploadTracker Buffer capacity
  observations : List (Entry Buffer × UploadStatus)
  result : Nat

def poll (tracker : UploadTracker Buffer capacity) (signaled : Nat)
    (statusOf : Buffer → UploadStatus) : Polled Buffer capacity where
  tracker := (drain statusOf tracker.count tracker).1
  observations := (drain statusOf tracker.count tracker).2
  result := min (drain statusOf tracker.count tracker).1.completed signaled

/-- The uploads in flight, oldest first. -/
def pending (tracker : UploadTracker Buffer capacity) :
    List (Entry Buffer) :=
  window tracker.entries tracker.head tracker.count

end UploadTracker

/-! ## Runs -/

inductive Step (Buffer : Type) where
  | admission (hasEvent : Bool) (next : Nat)
  | append (buffer : Buffer) (value : Nat)
  | poll (signaled : Nat) (statusOf : Buffer → UploadStatus)
  | fail

/-- What the caller of a step sees of it. -/
inductive Event (Buffer : Type) where
  | admitted (next : Nat) (accepted : Bool)
  | appended (upload : Entry Buffer) (accepted : Bool)
  | polled (signaled : Nat)
      (observations : List (Entry Buffer × UploadStatus)) (result : Nat)
  | failed
deriving DecidableEq

namespace Event

/-- The upload a step published. -/
def upload? : Event Buffer → Option (Entry Buffer)
  | .appended upload true => some upload
  | _ => none

/-- The uploads a step observed complete. -/
def completions : Event Buffer → List (Entry Buffer)
  | .polled _ observations _ =>
    (observations.filter (·.2 = .complete)).map (·.1)
  | _ => []

/-- A rejected admission, a failed status or a call of `fail`. -/
def isFailure : Event Buffer → Bool
  | .admitted _ accepted => !accepted
  | .appended _ accepted => !accepted
  | .polled _ observations _ => observations.any (·.2 = .failed)
  | .failed => true

end Event

/-- A tracker with the history of its calls. -/
structure Run (Buffer : Type) (capacity : Nat) where
  tracker : UploadTracker Buffer capacity
  events : List (Event Buffer) := []

namespace Run

def initial : Run Buffer capacity where
  tracker := .initial

def step (run : Run Buffer capacity) : Step Buffer → Run Buffer capacity
  | .admission hasEvent next =>
    { tracker := (run.tracker.admitNext hasEvent next).1
      events := run.events ++
        [.admitted next (run.tracker.admitNext hasEvent next).2] }
  | .append buffer value =>
    { tracker := (run.tracker.append buffer value).1
      events := run.events ++
        [.appended { buffer := buffer, value := value }
          (run.tracker.append buffer value).2] }
  | .poll signaled statusOf =>
    { tracker := (run.tracker.poll signaled statusOf).tracker
      events := run.events ++
        [.polled signaled (run.tracker.poll signaled statusOf).observations
          (run.tracker.poll signaled statusOf).result] }
  | .fail =>
    { tracker := run.tracker.fail, events := run.events ++ [.failed] }

def steps (run : Run Buffer capacity) (taken : List (Step Buffer)) :
    Run Buffer capacity :=
  taken.foldl step run

/-- The uploads that were published, oldest first. -/
def uploads (run : Run Buffer capacity) : List (Entry Buffer) :=
  run.events.filterMap Event.upload?

/-- The uploads that polls observed complete, in the order of the
observations. -/
def observed (run : Run Buffer capacity) : List (Entry Buffer) :=
  run.events.flatMap Event.completions

/-- The uploads `1` to `value` were observed complete in order. -/
def ObservedThrough (run : Run Buffer capacity) (value : Nat) : Prop :=
  List.range' 1 value <+: run.observed.map (·.value)

def HasFailed (run : Run Buffer capacity) : Prop :=
  run.events.any Event.isFailure = true

end Run

end Dxmt9.QueryUpload

/-!
## The watermark of a query upload tracker

The uploads in flight are the published ones behind those observed complete,
and the watermark counts the observed ones.  A poll reaps as far as the
statuses allow.
-/

namespace Dxmt9.QueryUpload

open Dxmt9.Queue

variable {Buffer : Type} [Inhabited Buffer] {capacity : Nat}

theorem window_reap {slots : List (Entry Buffer)} {head count : Nat}
    (length : slots.length = capacity) (inside : head < capacity)
    (space : count < capacity) :
    window slots head (count + 1) =
      slots.getD head default ::
        window (slots.set head default) ((head + 1) % capacity) count := by
  subst length
  rw [window_pop inside space, window_cons slots inside, List.tail_cons]

theorem window_append {slots : List (Entry Buffer)} {head count : Nat}
    (length : slots.length = capacity) (space : count < capacity)
    (upload : Entry Buffer) :
    window (slots.set ((head + count) % capacity) upload) head
        (count + 1) = window slots head count ++ [upload] := by
  subst length
  exact window_push space upload

/-! ## One call -/

namespace UploadTracker

/-- What the ring keeps of the published uploads, given those observed
complete. -/
structure Holds (tracker : UploadTracker Buffer capacity)
    (uploads observed : List (Entry Buffer)) : Prop where
  length : tracker.entries.length = capacity
  inside : tracker.head < capacity
  count : tracker.count ≤ capacity
  split : uploads = observed ++ tracker.pending
  values : uploads.map (·.value) = List.range' 1 tracker.published
  completed : tracker.completed = observed.length
  published : tracker.published < maxUploadValue

variable {tracker : UploadTracker Buffer capacity}
  {uploads observed : List (Entry Buffer)}

theorem Holds.fail (holds : tracker.Holds uploads observed) :
    tracker.fail.Holds uploads observed :=
  { holds with }

@[simp] theorem length_pending (tracker : UploadTracker Buffer capacity) :
    tracker.pending.length = tracker.count := length_window ..

section

variable (holds : tracker.Holds uploads observed)
include holds

theorem Holds.length_uploads : uploads.length = tracker.published := by
  have lengths := congrArg List.length holds.values
  rwa [List.length_map, List.length_range'] at lengths

theorem Holds.total :
    tracker.published = tracker.completed + tracker.count := by
  rw [← holds.length_uploads, holds.split, List.length_append,
    length_pending, holds.completed]

/-- The observed uploads are the first ones, and those in flight follow. -/
theorem Holds.split_values :
    observed.map (·.value) = List.range' 1 tracker.completed ∧
      tracker.pending.map (·.value) =
        List.range' (1 + tracker.completed) tracker.count := by
  have values := holds.values
  rw [holds.split, List.map_append, holds.total,
    ← List.range'_append_1] at values
  apply List.append_inj values
  rw [List.length_map, List.length_range', holds.completed]

section

variable (waiting : tracker.count ≠ 0)
include waiting

/-- A ring with something in flight starts with its oldest upload. -/
theorem Holds.pending_eq :
    tracker.pending = tracker.front :: tracker.reap.pending := by
  obtain ⟨count, shape⟩ := Nat.exists_eq_succ_of_ne_zero waiting
  have space : count < capacity := by
    have bound := holds.count
    omega
  change window tracker.entries tracker.head tracker.count =
    tracker.front :: window (tracker.entries.set tracker.head default)
      ((tracker.head + 1) % capacity) (tracker.count - 1)
  rw [shape]
  exact window_reap holds.length holds.inside space

/-- The oldest upload carries the value behind the completed ones. -/
theorem Holds.front_value :
    tracker.front.value = tracker.completed + 1 := by
  obtain ⟨count, shape⟩ := Nat.exists_eq_succ_of_ne_zero waiting
  have values := holds.split_values.2
  rw [holds.pending_eq waiting, List.map_cons, shape,
    List.range'_succ] at values
  rw [(List.cons.inj values).1, Nat.add_comm]

theorem Holds.reap :
    tracker.reap.Holds uploads (observed ++ [tracker.front]) where
  length := (List.length_set ..).trans holds.length
  inside := Nat.mod_lt _ (Nat.zero_lt_of_lt holds.inside)
  count := (Nat.sub_le ..).trans holds.count
  split := by
    rw [holds.split, holds.pending_eq waiting, List.append_assoc]
    rfl
  values := holds.values
  completed := by
    rw [List.length_append, ← holds.completed]
    exact holds.front_value waiting
  published := holds.published

end

end

omit [Inhabited Buffer] in
theorem admitNext_true {hasEvent : Bool} {next : Nat}
    (admitted : (tracker.admitNext hasEvent next).2 = true) :
    (tracker.admitNext hasEvent next).1 = tracker ∧
      tracker.failed = false ∧ tracker.count ≠ capacity ∧
      hasEvent = true ∧ next ≠ maxUploadValue ∧
      next = (tracker.published + 1) % 2 ^ 64 := by
  unfold admitNext at admitted ⊢
  split at admitted
  · cases admitted
  · rename_i allowed
    rw [if_neg allowed]
    push Not at allowed
    exact ⟨rfl, Bool.eq_false_iff.mpr allowed.1, allowed.2.1,
      Bool.eq_true_of_not_eq_false allowed.2.2.1, allowed.2.2.2.1,
      allowed.2.2.2.2.2⟩

omit [Inhabited Buffer] in
theorem admitNext_false {hasEvent : Bool} {next : Nat}
    (rejected : (tracker.admitNext hasEvent next).2 = false) :
    (tracker.admitNext hasEvent next).1 = tracker.fail := by
  unfold admitNext at rejected ⊢
  split
  · rfl
  · rename_i allowed
    rw [if_neg allowed] at rejected
    cases rejected

omit [Inhabited Buffer] in
theorem append_of_rejected {buffer : Buffer} {value : Nat}
    (rejected : (tracker.append buffer value).2 = false) :
    (tracker.append buffer value).1 = tracker.fail := by
  unfold append at rejected ⊢
  split
  · rename_i refused
    exact admitNext_false refused
  · rename_i accepted
    rw [if_neg accepted] at rejected
    cases rejected

omit [Inhabited Buffer] in
theorem admitted_of_append {buffer : Buffer} {value : Nat}
    (accepted : (tracker.append buffer value).2 = true) :
    (tracker.admitNext true value).2 = true := by
  unfold append at accepted
  split at accepted
  · cases accepted
  · rename_i admitted
    exact Bool.eq_true_of_not_eq_false admitted

omit [Inhabited Buffer] in
theorem append_of_accepted {buffer : Buffer} {value : Nat}
    (accepted : (tracker.append buffer value).2 = true) :
    (tracker.append buffer value).1 =
      { tracker with
        entries := tracker.entries.set
          ((tracker.head + tracker.count) % capacity)
          { buffer := buffer, value := value }
        count := tracker.count + 1
        published := value } := by
  have admitted := admitted_of_append accepted
  unfold append
  rw [if_neg (Bool.eq_false_iff.not.mpr (not_not.mpr admitted)),
    (admitNext_true admitted).1]

/-- A published upload takes the free cell behind those in flight. -/
theorem Holds.append (holds : tracker.Holds uploads observed)
    {buffer : Buffer} {value : Nat}
    (accepted : (tracker.append buffer value).2 = true) :
    (tracker.append buffer value).1.Holds
      (uploads ++ [{ buffer := buffer, value := value }]) observed := by
  obtain ⟨-, -, space, -, below, next⟩ :=
    admitNext_true (admitted_of_append accepted)
  have before := holds.published
  have value_eq : value = tracker.published + 1 := by
    unfold maxUploadValue at before
    omega
  rw [append_of_accepted accepted]
  refine
    { length := (List.length_set ..).trans holds.length
      inside := holds.inside
      count := Nat.lt_of_le_of_ne holds.count space
      split := ?_
      values := ?_
      completed := holds.completed
      published := ?_ }
  · rw [holds.split, List.append_assoc]
    congr 1
    exact (window_append holds.length
      (Nat.lt_of_le_of_ne holds.count space) _).symm
  · rw [List.map_append, holds.values, value_eq, List.range'_1_concat,
      Nat.add_comm 1]
    rfl
  · rw [value_eq] at below ⊢
    exact Nat.lt_of_le_of_ne before below

/-- What the loop does: it reaps the completed uploads in order, until one
is not complete. -/
structure Drained (statusOf : Buffer → UploadStatus)
    (before : UploadTracker Buffer capacity)
    (uploads observed : List (Entry Buffer))
    (after : UploadTracker Buffer capacity ×
      List (Entry Buffer × UploadStatus)) : Prop where
  holds : after.1.Holds uploads
    (observed ++ (Event.polled 0 after.2 0).completions)
  failed : after.1.failed =
    (before.failed || after.2.any (·.2 = .failed))
  told : ∀ observation ∈ after.2,
    observation.2 = statusOf observation.1.buffer
  still : before.failed = true → after = (before, [])
  stopped : before.failed = false →
    after.1.count = 0 ∨ statusOf after.1.front.buffer ≠ .complete

theorem Drained.refl {statusOf : Buffer → UploadStatus}
    (holds : tracker.Holds uploads observed)
    (done : tracker.failed = true ∨ tracker.count = 0) :
    Drained statusOf tracker uploads observed (tracker, []) where
  holds := by
    rw [show (Event.polled 0 [] 0 : Event Buffer).completions = [] from rfl,
      List.append_nil]
    exact holds
  failed := (Bool.or_false _).symm
  told := fun _ member => nomatch member
  still := fun _ => rfl
  stopped := fun sound => done.elim
    (fun failed => nomatch failed.symm.trans sound) .inl

theorem drained (statusOf : Buffer → UploadStatus) {turns : Nat}
    (holds : tracker.Holds uploads observed)
    (enough : tracker.count ≤ turns) :
    Drained statusOf tracker uploads observed
      (drain statusOf turns tracker) := by
  induction turns generalizing tracker observed with
  | zero => exact Drained.refl holds (.inr (Nat.le_zero.mp enough))
  | succ turns induction =>
      rw [drain]
      split
      · rename_i done
        exact Drained.refl holds done
      · rename_i going
        push Not at going
        have sound : tracker.failed = false := Bool.eq_false_iff.mpr going.1
        split
        · rename_i status
          exact
            { holds := by
                change tracker.fail.Holds uploads (observed ++ [])
                rw [List.append_nil]
                exact holds.fail
              failed := (Bool.or_true _).symm
              told := by
                intro observation member
                rw [List.mem_singleton.mp member]
                exact status.symm
              still := fun failed => nomatch failed.symm.trans sound
              stopped := fun _ =>
                .inr fun complete => nomatch status.symm.trans complete }
        · rename_i status
          exact
            { holds := by
                change tracker.Holds uploads (observed ++ [])
                rw [List.append_nil]
                exact holds
              failed := (Bool.or_false _).symm
              told := by
                intro observation member
                rw [List.mem_singleton.mp member]
                exact status.symm
              still := fun failed => nomatch failed.symm.trans sound
              stopped := fun _ =>
                .inr fun complete => nomatch status.symm.trans complete }
        · rename_i status
          have rest := induction (holds.reap going.2)
            (Nat.sub_le_iff_le_add.mpr enough)
          exact
            { holds := by
                have kept := rest.holds
                rw [List.append_assoc] at kept
                exact kept
              failed := by
                rw [rest.failed]
                rfl
              told := by
                intro observation member
                cases List.mem_cons.mp member with
                | inl first =>
                    rw [first]
                    exact status.symm
                | inr later => exact rest.told observation later
              still := fun failed => nomatch failed.symm.trans sound
              stopped := fun _ => rest.stopped sound }

end UploadTracker

end Dxmt9.QueryUpload
