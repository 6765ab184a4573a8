import Dxmt9.Transition.Run
import Dxmt9.Tape.CpuReadyTape

/-!
# Producer intervals of an open source

Batches are appended to one open compatibility source, some of them as spans
of a raw.  The identity of the source is the union of the intervals accepted
so far, each right behind the one before it.
-/

namespace Dxmt9.Tape

open CpuReadyTape Transition

/-- An interval that begins where another one ends, in both dimensions. -/
structure CpuReadyProducerIdentity.Follows
    (earlier later : CpuReadyProducerIdentity) : Prop where
  event : later.firstEventOrdinal = earlier.lastEventOrdinal + 1
  source : later.firstSourceOrdinal = earlier.lastSourceOrdinal + 1

def CpuReadyProducerIdentity.HasEvent (interval : CpuReadyProducerIdentity)
    (event : Nat) : Prop :=
  interval.firstEventOrdinal ≤ event ∧ event ≤ interval.lastEventOrdinal

def CpuReadyProducerIdentity.HasSource (interval : CpuReadyProducerIdentity)
    (source : Nat) : Prop :=
  interval.firstSourceOrdinal ≤ source ∧ source ≤ interval.lastSourceOrdinal

/-- An identity that is just what intervals are together, each of them right
behind the one before it.  Without intervals there is no identity. -/
structure UnionOf (identity : CpuReadyProducerIdentity)
    (intervals : List CpuReadyProducerIdentity) : Prop where
  absent : intervals = [] → identity = {}
  adjacent : intervals.IsChain CpuReadyProducerIdentity.Follows
  valid : ∀ interval ∈ intervals, interval.valid = true
  whole : intervals ≠ [] → identity.valid = true
  events : intervals ≠ [] → ∀ event,
    identity.HasEvent event ↔ ∃ interval ∈ intervals, interval.HasEvent event
  sources : intervals ≠ [] → ∀ source,
    identity.HasSource source ↔
      ∃ interval ∈ intervals, interval.HasSource source
  last : ∀ interval, intervals.getLast? = some interval →
    identity.lastEventOrdinal = interval.lastEventOrdinal ∧
      identity.lastSourceOrdinal = interval.lastSourceOrdinal

/-! ## Calls -/

/-- A call that appends a batch. -/
structure ProducerCall where
  next : CpuReadyProducerIdentity
  spanRawOrdinal : Nat := 0
  spanOrdinal : Nat := 0
  finalSpan : Bool := true
  deriving DecidableEq

variable (config : CpuReadyTapeConfig) (ticket : CpuReadyPublicationTicket)

def CpuReadyTape.extendWith (tape : CpuReadyTape) (call : ProducerCall) :
    CpuReadyTape × Bool :=
  tape.extendCompatibilityProducerIdentity config ticket call.next
    call.spanRawOrdinal call.spanOrdinal call.finalSpan

/-- The tape after some calls, and those of them that were accepted. -/
structure ExtensionRun where
  tape : CpuReadyTape
  accepted : List ProducerCall := []

def ExtensionRun.step (run : ExtensionRun) (call : ProducerCall) :
    ExtensionRun :=
  let extended := run.tape.extendWith config ticket call
  { tape := extended.1
    accepted := if extended.2 then run.accepted ++ [call] else run.accepted }

/-- A call that goes on with the raw of the call accepted before it. -/
def ProducerCall.continues (previous : Option ProducerCall)
    (call : ProducerCall) : Bool :=
  call.spanRawOrdinal != 0 &&
    previous.map ProducerCall.spanRawOrdinal == some call.spanRawOrdinal

/-- The accepted calls without those that go on with a raw. -/
def openingCalls : Option ProducerCall → List ProducerCall → List ProducerCall
  | _, [] => []
  | previous, call :: rest =>
      if call.continues previous then openingCalls (some call) rest
      else call :: openingCalls (some call) rest

/-- The accepted intervals, those of one raw counted once. -/
def acceptedIntervals (accepted : List ProducerCall) :
    List CpuReadyProducerIdentity :=
  ((openingCalls none accepted).map ProducerCall.next).filter
    fun interval => !interval.absent

/-- A span right behind another one of the same raw. -/
structure ProducerCall.NextSpan (earlier later : ProducerCall) : Prop where
  ordinal : later.spanOrdinal = earlier.spanOrdinal + 1
  open_ : earlier.finalSpan = false
  interval : later.next = earlier.next

def ProducerCall.OfRaw (raw : Nat) (call : ProducerCall) : Bool :=
  call.spanRawOrdinal == raw

/-- The accepted spans of every raw are a run of consecutive ordinals, with
nothing behind a final span or behind another raw. -/
structure SpanRuns (accepted : List ProducerCall) : Prop where
  consecutive : ∀ raw, raw ≠ 0 →
    (accepted.filter (ProducerCall.OfRaw raw)).IsChain ProducerCall.NextSpan
  contiguous : Justified
    (fun before call => call.spanRawOrdinal ≠ 0 →
      (∃ earlier ∈ before, earlier.spanRawOrdinal = call.spanRawOrdinal) →
      call.continues before.getLast? = true) accepted

/-- A call that comes back to a raw that was accepted before and is not
witnessed any more, with an interval that another raw could append. -/
structure Returns (entry : Entry) (accepted : List ProducerCall)
    (call : ProducerCall) : Prop where
  isSpan : call.spanRawOrdinal ≠ 0
  known : ∃ earlier ∈ accepted, earlier.spanRawOrdinal = call.spanRawOrdinal
  unwitnessed : entry.spanWitness.rawOrdinal ≠ call.spanRawOrdinal
  appendable : compatibilityProducerIdentityAppendable entry.producerIdentity
    call.next = true

/-- No call of the run comes back to an earlier raw. -/
def NeverReturns : ExtensionRun → List ProducerCall → Prop
  | _, [] => True
  | run, call :: rest =>
      (∀ entry, resolveEntry config run.tape ticket.source = some entry →
        ¬Returns entry run.accepted call) ∧
      NeverReturns (run.step config ticket call) rest

instance (entry : Entry) (accepted : List ProducerCall)
    (call : ProducerCall) : Decidable (Returns entry accepted call) :=
  decidable_of_iff
    (call.spanRawOrdinal ≠ 0 ∧
      (∃ earlier ∈ accepted,
        earlier.spanRawOrdinal = call.spanRawOrdinal) ∧
      entry.spanWitness.rawOrdinal ≠ call.spanRawOrdinal ∧
      compatibilityProducerIdentityAppendable entry.producerIdentity
        call.next = true)
    ⟨fun ⟨isSpan, known, unwitnessed, appendable⟩ =>
        ⟨isSpan, known, unwitnessed, appendable⟩,
      fun ⟨isSpan, known, unwitnessed, appendable⟩ =>
        ⟨isSpan, known, unwitnessed, appendable⟩⟩

instance decideNeverReturns : ∀ (run : ExtensionRun)
    (calls : List ProducerCall),
    Decidable (NeverReturns config ticket run calls)
  | _, [] => .isTrue trivial
  | run, call :: rest =>
      have := decideNeverReturns (run.step config ticket call) rest
      have : Decidable (∀ entry,
          resolveEntry config run.tape ticket.source = some entry →
            ¬Returns entry run.accepted call) :=
        match resolveEntry config run.tape ticket.source with
        | none => .isTrue fun _ resolved => nomatch resolved
        | some entry =>
            decidable_of_iff (¬Returns entry run.accepted call)
              ⟨fun never _ same => Option.some.inj same ▸ never,
                fun never => never entry rfl⟩
      inferInstanceAs (Decidable (_ ∧ _))

/-- A compatibility source that is still written. -/
structure OpenLegacy (entry : Entry) : Prop where
  writing : entry.state = .writing
  plain : entry.strictAdmission = false
  legacy : entry.payloadKind = .legacy

variable {config ticket} {tape : CpuReadyTape} {entry : Entry}
  {call : ProducerCall} {accepted : List ProducerCall}

/-- The witness that a call accepted across raws leaves. -/
def ProducerCall.witness (call : ProducerCall) : CpuReadySpanWitness :=
  if call.spanRawOrdinal ≠ 0 then
    { rawOrdinal := call.spanRawOrdinal
      lastSpanOrdinal := call.spanOrdinal
      settled := call.finalSpan
      producerIdentity := call.next }
  else {}

/-- The identity with an interval behind it. -/
def CpuReadyProducerIdentity.extended
    (identity next : CpuReadyProducerIdentity) : CpuReadyProducerIdentity :=
  if next.absent then identity
  else if identity.absent then next
  else
    { identity with
      lastEventOrdinal := next.lastEventOrdinal
      lastSourceOrdinal := next.lastSourceOrdinal }

/-- What an accepted call makes of the entry. -/
inductive Extends (entry : Entry) (call : ProducerCall) : Entry → Prop where
  | sameRaw
      (admitted : compatibilitySpanAdmission entry.spanWitness
        call.spanRawOrdinal call.spanOrdinal call.next = .sameRawSpan) :
      Extends entry call
        { entry with
          spanWitness :=
            { entry.spanWitness with
              lastSpanOrdinal := call.spanOrdinal
              settled := call.finalSpan } }
  | crossRaw
      (admitted : compatibilitySpanAdmission entry.spanWitness
        call.spanRawOrdinal call.spanOrdinal call.next = .crossRaw)
      (importable : call.next.importable = true)
      (appendable : compatibilityProducerIdentityAppendable
        entry.producerIdentity call.next = true) :
      Extends entry call
        { entry with
          spanWitness := call.witness
          producerIdentity := entry.producerIdentity.extended call.next }

theorem extendWith_rejected
    (rejected : (tape.extendWith config ticket call).2 = false) :
    (tape.extendWith config ticket call).1 = tape := by
  unfold CpuReadyTape.extendWith extendCompatibilityProducerIdentity
    at rejected ⊢
  split
  · rfl
  · rename_i entry resolved
    rw [resolved] at rejected
    dsimp only at rejected ⊢
    split
    · rfl
    · rename_i open_
      rw [if_neg open_] at rejected
      split
      · rename_i same
        rw [same] at rejected
        exact nomatch rejected
      · rename_i cross
        rw [cross] at rejected
        dsimp only at rejected
        split
        · rfl
        · rename_i appendable
          rw [if_neg appendable] at rejected
          exact nomatch rejected
      · rfl

theorem extendWith_accepted
    (resolved : resolveEntry config tape ticket.source = some entry)
    (accepted : (tape.extendWith config ticket call).2 = true) :
    ∃ next, Extends entry call next ∧
      (tape.extendWith config ticket call).1 =
        tape.setEntry ticket.id.index next := by
  unfold CpuReadyTape.extendWith extendCompatibilityProducerIdentity
    at accepted ⊢
  rw [resolved] at accepted ⊢
  dsimp only at accepted ⊢
  split at accepted
  · exact nomatch accepted
  · rename_i open_
    rw [if_neg open_]
    split at accepted
    · rename_i same
      exact ⟨_, .sameRaw same, rfl⟩
    · rename_i cross
      split at accepted
      · exact nomatch accepted
      · rename_i appendable
        refine ⟨_, .crossRaw cross ?_ ?_, ?_⟩
        · by_contra refused
          rw [Bool.not_eq_true] at refused
          exact open_ (Or.inr (Or.inr (Or.inr (Or.inr refused))))
        · exact (Bool.not_eq_false _).mp appendable
        · rw [if_neg appendable]
          rfl
    · exact nomatch accepted

/-- Only the witness and the identity of the entry change. -/
theorem Extends.frame {next : Entry} (extends_ : Extends entry call next) :
    next.generation = entry.generation ∧ next.storage = entry.storage ∧
      next.state = entry.state ∧
      next.strictAdmission = entry.strictAdmission ∧
      next.payloadKind = entry.payloadKind := by
  cases extends_ <;> exact ⟨rfl, rfl, rfl, rfl, rfl⟩

theorem resolveEntry_extended {next : Entry}
    (resolved : resolveEntry config tape ticket.source = some entry)
    (extends_ : Extends entry call next) :
    resolveEntry config (tape.setEntry ticket.id.index next)
      ticket.source = some next := by
  obtain ⟨generation, storage, state, -, -⟩ := extends_.frame
  have same : (tape.setEntry ticket.id.index next).entries
      ticket.source.id.index = next := if_pos rfl
  unfold resolveEntry at resolved ⊢
  simp only [Option.ite_none_right_eq_some, Option.some.injEq] at resolved ⊢
  obtain ⟨⟨valid, inside, isGeneration, isState, isStorage, pages⟩, rfl⟩ :=
    resolved
  rw [same]
  refine ⟨⟨valid, inside, generation.trans isGeneration, ?_,
    storage.trans isStorage, pages⟩, rfl⟩
  rwa [state]

variable {interval : CpuReadyProducerIdentity}

theorem valid_iff :
    interval.valid = true ↔
      interval.firstEventOrdinal ≠ 0 ∧
        interval.firstEventOrdinal ≤ interval.lastEventOrdinal ∧
        interval.firstSourceOrdinal ≠ 0 ∧
        interval.firstSourceOrdinal ≤ interval.lastSourceOrdinal := by
  unfold CpuReadyProducerIdentity.valid
  simp [and_assoc]

theorem absent_of_valid
    (valid : interval.valid = true) : interval.absent = false := by
  have nonzero := (valid_iff.mp valid).1
  unfold CpuReadyProducerIdentity.absent
  simp [nonzero]

theorem valid_of_importable
    (importable : interval.importable = true)
    (present : interval.absent = false) : interval.valid = true := by
  unfold CpuReadyProducerIdentity.importable at importable
  rwa [present, Bool.false_or] at importable

theorem appendable_follows {current next : CpuReadyProducerIdentity}
    (appendable : compatibilityProducerIdentityAppendable current next = true)
    (present : next.absent = false) (occupied : current.absent = false) :
    current.Follows next := by
  unfold compatibilityProducerIdentityAppendable at appendable
  rw [present, occupied] at appendable
  split at appendable
  · exact nomatch appendable
  · simp only [Bool.or_self, Bool.false_eq_true, if_false, Bool.and_eq_true,
      beq_iff_eq] at appendable
    exact ⟨appendable.1.2, appendable.2⟩

theorem unionOf_nil : UnionOf {} [] where
  absent := fun _ => rfl
  adjacent := List.isChain_nil
  valid := fun _ inside => nomatch inside
  whole := fun filled => absurd rfl filled
  events := fun filled => absurd rfl filled
  sources := fun filled => absurd rfl filled
  last := fun _ isLast => nomatch isLast

theorem unionOf_singleton {next : CpuReadyProducerIdentity}
    (valid : next.valid = true) : UnionOf next [next] where
  absent := fun empty => nomatch empty
  adjacent := List.isChain_singleton next
  valid := by
    intro interval inside
    rwa [List.mem_singleton.mp inside]
  whole := fun _ => valid
  events := by simp
  sources := by simp
  last := by
    intro interval isLast
    rw [List.getLast?_singleton, Option.some.injEq] at isLast
    subst isLast
    exact ⟨rfl, rfl⟩

variable {identity : CpuReadyProducerIdentity}
  {intervals : List CpuReadyProducerIdentity}

theorem UnionOf.snoc {next : CpuReadyProducerIdentity}
    (union : UnionOf identity intervals) (filled : intervals ≠ [])
    (valid : next.valid = true) (follows : identity.Follows next) :
    UnionOf
      { identity with
        lastEventOrdinal := next.lastEventOrdinal
        lastSourceOrdinal := next.lastSourceOrdinal }
      (intervals ++ [next]) := by
  obtain ⟨event, source⟩ := follows
  have isValid := valid_iff.mp valid
  have wasValid := valid_iff.mp (union.whole filled)
  constructor
  case absent => intro empty; simp at empty
  case adjacent =>
    refine isChain_snoc union.adjacent fun last isLast => ?_
    obtain ⟨lastEvent, lastSource⟩ := union.last last isLast
    exact ⟨lastEvent ▸ event, lastSource ▸ source⟩
  case valid =>
    intro interval inside
    rcases List.mem_append.mp inside with older | newest
    · exact union.valid interval older
    · rwa [List.mem_singleton.mp newest]
  case whole =>
    intro _
    rw [valid_iff]
    dsimp only
    omega
  case events =>
    intro _ ordinal
    have covered := union.events filled ordinal
    simp only [List.mem_append, List.mem_singleton, or_and_right, exists_or,
      exists_eq_left, ← covered]
    unfold CpuReadyProducerIdentity.HasEvent
    dsimp only
    omega
  case sources =>
    intro _ ordinal
    have covered := union.sources filled ordinal
    simp only [List.mem_append, List.mem_singleton, or_and_right, exists_or,
      exists_eq_left, ← covered]
    unfold CpuReadyProducerIdentity.HasSource
    dsimp only
    omega
  case last =>
    intro interval isLast
    rw [List.getLast?_concat, Option.some.injEq] at isLast
    subst isLast
    exact ⟨rfl, rfl⟩

theorem UnionOf.extended {next : CpuReadyProducerIdentity}
    (union : UnionOf identity intervals) (importable : next.importable = true)
    (appendable :
      compatibilityProducerIdentityAppendable identity next = true) :
    UnionOf (identity.extended next)
      (intervals ++ [next].filter fun interval => !interval.absent) := by
  unfold CpuReadyProducerIdentity.extended
  cases present : next.absent with
  | true => simpa [present] using union
  | false =>
      have valid := valid_of_importable importable present
      rw [if_neg Bool.false_ne_true, List.filter_singleton, present,
        Bool.not_false, cond_true]
      by_cases empty : intervals = []
      · subst empty
        rw [union.absent rfl]
        exact unionOf_singleton valid
      · have occupied := absent_of_valid (union.whole empty)
        rw [occupied, if_neg Bool.false_ne_true]
        exact union.snoc empty valid
          (appendable_follows appendable present occupied)

/-! ## Accepted calls -/

theorem openingCalls_snoc (previous : Option ProducerCall) :
    openingCalls previous (accepted ++ [call]) =
      openingCalls previous accepted ++
        if call.continues (accepted.getLast?.or previous) then []
        else [call] := by
  induction accepted generalizing previous with
  | nil => rfl
  | cons head tail induction =>
      have next : (tail.getLast?.or (some head)) =
          ((head :: tail).getLast?.or previous) := by
        rw [List.getLast?_cons]
        cases tail.getLast? <;> rfl
      rw [List.cons_append, openingCalls, openingCalls, induction, next]
      split
      · rfl
      · rfl

theorem acceptedIntervals_snoc :
    acceptedIntervals (accepted ++ [call]) =
      acceptedIntervals accepted ++
        if call.continues accepted.getLast? then []
        else [call.next].filter fun interval => !interval.absent := by
  unfold acceptedIntervals
  rw [openingCalls_snoc, Option.or_none, List.map_append, List.filter_append]
  split
  · rfl
  · rfl

/-- The entry after the accepted calls. -/
structure Tracks (entry : Entry) (accepted : List ProducerCall) : Prop where
  union : UnionOf entry.producerIdentity (acceptedIntervals accepted)
  witness : entry.spanWitness =
    (accepted.getLast?.map ProducerCall.witness).getD {}
  importable : ∀ last, accepted.getLast? = some last →
    last.next.importable = true

/-- A span that goes on with the witnessed raw. -/
structure SuccessorSpan (last call : ProducerCall) : Prop where
  isSpan : call.spanRawOrdinal ≠ 0
  sameRaw : last.spanRawOrdinal = call.spanRawOrdinal
  next : last.NextSpan call

theorem sameRawSpan_successor (tracks : Tracks entry accepted)
    (admitted : compatibilitySpanAdmission entry.spanWitness
      call.spanRawOrdinal call.spanOrdinal call.next = .sameRawSpan) :
    ∃ last, accepted.getLast? = some last ∧ SuccessorSpan last call := by
  unfold compatibilitySpanAdmission at admitted
  rw [tracks.witness] at admitted
  cases isLast : accepted.getLast? with
  | none =>
      rw [isLast] at admitted
      simp [CpuReadySpanWitness.active] at admitted
  | some last =>
      rw [isLast, Option.map_some, Option.getD_some] at admitted
      refine ⟨last, rfl, ?_⟩
      unfold ProducerCall.witness at admitted
      split at admitted
      · rename_i active
        simp only [Bool.or_eq_true, Bool.not_eq_true', beq_iff_eq,
          bne_iff_ne, ne_eq] at admitted
        split at admitted
        · exact nomatch admitted
        · rename_i same
          push Not at same
          split at admitted
          · exact nomatch admitted
          · rename_i unsettled
            split at admitted
            · exact nomatch admitted
            · rename_i interval
              split at admitted
              · exact nomatch admitted
              · split at admitted
                · exact nomatch admitted
                · rename_i successor
                  push Not at successor interval
                  exact
                    { isSpan := same.1.2
                      sameRaw := same.2
                      next :=
                        { ordinal := successor.2
                          open_ := by simpa using unsettled
                          interval := interval.symm } }
      · simp [CpuReadySpanWitness.active] at admitted

theorem crossRaw_iff {witness : CpuReadySpanWitness} :
    compatibilitySpanAdmission witness call.spanRawOrdinal call.spanOrdinal
        call.next = .crossRaw ↔
      witness.active = true → call.spanRawOrdinal ≠ 0 →
        witness.rawOrdinal ≠ call.spanRawOrdinal := by
  unfold compatibilitySpanAdmission
  constructor
  · intro crossRaw active isSpan same
    rw [active, same, if_neg (by simpa using isSpan)] at crossRaw
    split at crossRaw
    · exact nomatch crossRaw
    · repeat' split at crossRaw
      all_goals exact nomatch crossRaw
  · intro other
    apply if_pos
    simp only [Bool.or_eq_true, Bool.not_eq_true', beq_iff_eq, bne_iff_ne]
    by_cases active : witness.active = true
    · by_cases isSpan : call.spanRawOrdinal = 0
      · exact Or.inl (Or.inr isSpan)
      · exact Or.inr (other active isSpan)
    · exact Or.inl (Or.inl ((Bool.not_eq_true _).mp active))

section

variable (tracks : Tracks entry accepted)
include tracks

theorem Tracks.active
    (named : entry.spanWitness.rawOrdinal ≠ 0) :
    entry.spanWitness.active = true := by
  unfold CpuReadySpanWitness.active
  rw [Bool.and_eq_true, bne_iff_ne]
  refine ⟨named, ?_⟩
  rw [tracks.witness]
  cases isLast : accepted.getLast? with
  | none => rfl
  | some last =>
      have importable := tracks.importable last isLast
      rw [Option.map_some, Option.getD_some]
      unfold ProducerCall.witness
      split
      · exact importable
      · rfl

theorem Tracks.rawOrdinal :
    entry.spanWitness.rawOrdinal =
      (accepted.getLast?.map ProducerCall.spanRawOrdinal).getD 0 := by
  rw [tracks.witness]
  cases accepted.getLast? with
  | none => rfl
  | some last =>
      rw [Option.map_some, Option.map_some, Option.getD_some, Option.getD_some]
      unfold ProducerCall.witness
      split
      · rfl
      · rename_i whole
        exact (not_not.mp whole).symm

theorem crossRaw_opens
    (admitted : compatibilitySpanAdmission entry.spanWitness
      call.spanRawOrdinal call.spanOrdinal call.next = .crossRaw) :
    call.continues accepted.getLast? = false := by
  by_contra continues
  rw [Bool.not_eq_false] at continues
  unfold ProducerCall.continues at continues
  rw [Bool.and_eq_true, bne_iff_ne, beq_iff_eq] at continues
  obtain ⟨isSpan, same⟩ := continues
  have raw := tracks.rawOrdinal
  rw [same, Option.getD_some] at raw
  exact crossRaw_iff.mp admitted (tracks.active (raw ▸ isSpan)) isSpan raw

theorem Tracks.extends {next : Entry}
    (extends_ : Extends entry call next) :
    Tracks next (accepted ++ [call]) := by
  cases extends_ with
  | sameRaw admitted =>
      obtain ⟨last, isLast, successor⟩ := sameRawSpan_successor tracks admitted
      have continues : call.continues accepted.getLast? = true := by
        unfold ProducerCall.continues
        rw [isLast, Option.map_some, successor.sameRaw]
        simpa using successor.isSpan
      constructor
      case union =>
        rw [acceptedIntervals_snoc, continues, if_pos rfl, List.append_nil]
        exact tracks.union
      case witness =>
        rw [List.getLast?_concat, Option.map_some, Option.getD_some]
        have witnessed := tracks.witness
        rw [isLast, Option.map_some, Option.getD_some] at witnessed
        dsimp only
        rw [witnessed]
        unfold ProducerCall.witness
        rw [if_pos successor.isSpan, successor.sameRaw,
          if_pos successor.isSpan, successor.next.interval]
      case importable =>
        intro final isFinal
        rw [List.getLast?_concat, Option.some.injEq] at isFinal
        subst isFinal
        rw [successor.next.interval]
        exact tracks.importable last isLast
  | crossRaw admitted importable appendable =>
      constructor
      case union =>
        rw [acceptedIntervals_snoc, crossRaw_opens tracks admitted,
          if_neg Bool.false_ne_true]
        exact tracks.union.extended importable appendable
      case witness => rw [List.getLast?_concat]; rfl
      case importable =>
        intro final isFinal
        rw [List.getLast?_concat, Option.some.injEq] at isFinal
        subst isFinal
        exact importable

end

variable {last : ProducerCall}

theorem getLast?_filter_of_last
    {keep : ProducerCall → Bool}
    (isLast : accepted.getLast? = some last) (kept : keep last = true) :
    (accepted.filter keep).getLast? = some last := by
  obtain ⟨front, rfl⟩ := List.getLast?_eq_some_iff.mp isLast
  rw [List.filter_append, List.filter_singleton, kept, cond_true,
    List.getLast?_concat]

theorem SpanRuns.sameRaw (runs : SpanRuns accepted)
    (isLast : accepted.getLast? = some last)
    (successor : SuccessorSpan last call) :
    SpanRuns (accepted ++ [call]) where
  consecutive := by
    intro raw isRaw
    rw [List.filter_append, List.filter_singleton]
    cases ofRaw : call.OfRaw raw with
    | false => simpa using runs.consecutive raw isRaw
    | true =>
        refine isChain_snoc (runs.consecutive raw isRaw)
          fun final isFinal => ?_
        have sameRaw : last.OfRaw raw = true := by
          unfold ProducerCall.OfRaw at ofRaw ⊢
          rwa [successor.sameRaw]
        rw [getLast?_filter_of_last isLast sameRaw,
          Option.some.injEq] at isFinal
        exact isFinal ▸ successor.next
  contiguous := by
    refine runs.contiguous.snoc fun isSpan _ => ?_
    unfold ProducerCall.continues
    rw [isLast, Option.map_some, successor.sameRaw]
    simpa using isSpan

theorem SpanRuns.opens (runs : SpanRuns accepted)
    (fresh : call.spanRawOrdinal ≠ 0 →
      ∀ earlier ∈ accepted, earlier.spanRawOrdinal ≠ call.spanRawOrdinal) :
    SpanRuns (accepted ++ [call]) where
  consecutive := by
    intro raw isRaw
    rw [List.filter_append, List.filter_singleton]
    cases ofRaw : call.OfRaw raw with
    | false => simpa using runs.consecutive raw isRaw
    | true =>
        have isCall : call.spanRawOrdinal = raw := by
          simpa [ProducerCall.OfRaw] using ofRaw
        subst isCall
        have none : accepted.filter
            (ProducerCall.OfRaw call.spanRawOrdinal) = [] := by
          rw [List.filter_eq_nil_iff]
          intro earlier inside
          simpa [ProducerCall.OfRaw] using fresh isRaw earlier inside
        rw [none]
        exact List.isChain_singleton call
  contiguous := by
    refine runs.contiguous.snoc fun isSpan known => ?_
    obtain ⟨earlier, inside, same⟩ := known
    exact absurd same (fresh isSpan earlier inside)

/-! ## Runs -/

/-- A run whose slot stands behind the calls accepted so far. -/
structure Extending (config : CpuReadyTapeConfig)
    (ticket : CpuReadyPublicationTicket) (run : ExtensionRun)
    (entry : Entry) : Prop where
  resolved : resolveEntry config run.tape ticket.source = some entry
  legacy : OpenLegacy entry
  tracks : Tracks entry run.accepted

theorem OpenLegacy.extends {next : Entry} (legacy : OpenLegacy entry)
    (extends_ : Extends entry call next) : OpenLegacy next := by
  obtain ⟨-, -, state, strict, payload⟩ := extends_.frame
  exact ⟨state.trans legacy.writing, strict.trans legacy.plain,
    payload.trans legacy.legacy⟩

variable {run : ExtensionRun}

/-- A call either leaves the run as it was or is accepted behind it. -/
theorem step_cases (extending : Extending config ticket run entry)
    (call : ProducerCall) :
    run.step config ticket call = run ∨
      ∃ next, Extends entry call next ∧
        Extending config ticket
          (run.step config ticket call) next ∧
        (run.step config ticket call).accepted = run.accepted ++ [call] := by
  cases accepted : (run.tape.extendWith config ticket call).2 with
  | false =>
      left
      unfold ExtensionRun.step
      dsimp only
      rw [extendWith_rejected accepted, accepted]
      rfl
  | true =>
      obtain ⟨next, extends_, isNext⟩ :=
        extendWith_accepted extending.resolved accepted
      have step : run.step config ticket call =
          { tape := run.tape.setEntry ticket.id.index next
            accepted := run.accepted ++ [call] } := by
        unfold ExtensionRun.step
        dsimp only
        rw [accepted, isNext]
        rfl
      rw [step]
      refine Or.inr ⟨next, extends_, ?_, rfl⟩
      exact
        { resolved := resolveEntry_extended extending.resolved extends_
          legacy := extending.legacy.extends extends_
          tracks := extending.tracks.extends extends_ }

/-- A call that comes back to an earlier raw is accepted. -/
theorem returns_accepted (extending : Extending config ticket run entry)
    (plain : ticket.hasAdmissionIdentity = false)
    (returns : Returns entry run.accepted call) :
    (run.step config ticket call).accepted = run.accepted ++ [call] := by
  have importable : call.next.importable = true := by
    have appendable := returns.appendable
    unfold compatibilityProducerIdentityAppendable at appendable
    split at appendable
    · exact nomatch appendable
    · rename_i importable
      simpa using importable
  have crossRaw : compatibilitySpanAdmission entry.spanWitness
      call.spanRawOrdinal call.spanOrdinal call.next = .crossRaw :=
    crossRaw_iff.mpr fun _ _ => returns.unwitnessed
  have accepted : (run.tape.extendWith config ticket call).2 = true := by
    unfold CpuReadyTape.extendWith extendCompatibilityProducerIdentity
    rw [extending.resolved]
    dsimp only
    rw [if_neg, crossRaw]
    · dsimp only
      rw [if_neg]
      rw [returns.appendable]
      exact Bool.noConfusion
    · simp [extending.legacy.writing, extending.legacy.plain,
        extending.legacy.legacy, plain, importable]
  unfold ExtensionRun.step
  exact if_pos accepted

theorem returns_breaks (tracks : Tracks entry accepted)
    (returns : Returns entry accepted call) {after : List ProducerCall} :
    ¬SpanRuns (accepted ++ call :: after) := by
  intro runs
  have continues := runs.contiguous accepted call after rfl returns.isSpan
    returns.known
  unfold ProducerCall.continues at continues
  rw [Bool.and_eq_true, beq_iff_eq] at continues
  have raw := tracks.rawOrdinal
  rw [continues.2, Option.getD_some] at raw
  exact returns.unwitnessed raw

theorem SpanRuns.extends {next : Entry} (runs : SpanRuns accepted)
    (tracks : Tracks entry accepted) (extends_ : Extends entry call next)
    (never : ¬Returns entry accepted call) :
    SpanRuns (accepted ++ [call]) := by
  cases extends_ with
  | sameRaw admitted =>
      obtain ⟨last, isLast, successor⟩ := sameRawSpan_successor tracks admitted
      exact runs.sameRaw isLast successor
  | crossRaw admitted importable appendable =>
      refine runs.opens fun isSpan earlier inside same => never ?_
      exact
        { isSpan := isSpan
          known := ⟨earlier, inside, same⟩
          unwitnessed := fun witnessed =>
            crossRaw_iff.mp admitted
              (tracks.active (witnessed ▸ isSpan)) isSpan witnessed
          appendable := appendable }

section

variable (calls : List ProducerCall)
  (extending : Extending config ticket run entry)
include calls extending

theorem run_accepted :
    ∃ later, (Transition.run (ExtensionRun.step config ticket) run
      calls).accepted = run.accepted ++ later := by
  induction calls generalizing run entry with
  | nil => exact ⟨[], (List.append_nil _).symm⟩
  | cons call rest induction =>
      change ∃ later, (Transition.run _ (run.step config ticket call)
        rest).accepted = _
      rcases step_cases extending call with same | ⟨next, -, behind, accepted⟩
      · rw [same]
        exact induction extending
      · obtain ⟨later, isLater⟩ := induction behind
        rw [isLater, accepted, List.append_assoc]
        exact ⟨_, rfl⟩

/-- The slot stands behind the accepted calls after every run. -/
theorem run_extending :
    ∃ final, Extending config ticket
      (Transition.run (ExtensionRun.step config ticket) run calls) final := by
  induction calls generalizing run entry with
  | nil => exact ⟨entry, extending⟩
  | cons call rest induction =>
      rcases step_cases extending call with same | ⟨next, -, behind, -⟩
      · have onward := induction extending
        rw [← same] at onward
        exact onward
      · exact induction behind

end

theorem run_spanRuns (plain : ticket.hasAdmissionIdentity = false)
    (calls : List ProducerCall) (extending : Extending config ticket run entry)
    (runs : SpanRuns run.accepted) :
    SpanRuns (Transition.run (ExtensionRun.step config ticket) run
        calls).accepted ↔ NeverReturns config ticket run calls := by
  induction calls generalizing run entry with
  | nil => exact iff_of_true runs trivial
  | cons call rest induction =>
      change SpanRuns (Transition.run _ (run.step config ticket call)
        rest).accepted ↔ _ ∧ _
      by_cases returns : Returns entry run.accepted call
      · have accepted := returns_accepted extending plain returns
        apply iff_of_false
        · rcases step_cases extending call with
            same | ⟨next, -, behind, -⟩
          · rw [same] at accepted
            simp at accepted
          · obtain ⟨later, isLater⟩ := run_accepted rest behind
            rw [isLater, accepted, List.append_assoc]
            exact returns_breaks extending.tracks returns
        · intro never
          exact never.1 entry extending.resolved returns
      · have only : ∀ other, resolveEntry config run.tape ticket.source =
            some other → ¬Returns other run.accepted call := by
          intro other isOther
          rw [extending.resolved, Option.some.injEq] at isOther
          exact isOther ▸ returns
        rw [and_iff_right only]
        rcases step_cases extending call with
          same | ⟨next, extends_, behind, accepted⟩
        · rw [same]
          exact induction extending runs
        · refine induction behind ?_
          rw [accepted]
          exact runs.extends extending.tracks extends_ returns

/-- A compatibility source that no batch was appended to yet. -/
structure FreshLegacy (entry : Entry) : Prop extends OpenLegacy entry where
  identity : entry.producerIdentity = {}
  witness : entry.spanWitness = {}

/-- Whatever calls reach an open source, its identity is the union of the
accepted intervals, each right behind the one before it, and a rejected call
leaves everything as it was.  The accepted spans of every raw are one run of
consecutive ordinals just when no call comes back to an earlier raw. -/
theorem producerIntervals_exact
    (resolved : resolveEntry config tape ticket.source = some entry)
    (plain : ticket.hasAdmissionIdentity = false)
    (fresh : FreshLegacy entry) (calls : List ProducerCall) :
    let run := Transition.run (ExtensionRun.step config ticket)
      { tape := tape } calls
    (∃ final, resolveEntry config run.tape ticket.source = some final ∧
      UnionOf final.producerIdentity (acceptedIntervals run.accepted)) ∧
    (∀ call, (run.tape.extendWith config ticket call).2 = false →
      (run.tape.extendWith config ticket call).1 = run.tape) ∧
    (SpanRuns run.accepted ↔
      NeverReturns config ticket { tape := tape } calls) := by
  have start : Extending config ticket { tape := tape } entry :=
    { resolved := resolved
      legacy := fresh.toOpenLegacy
      tracks :=
        { union := fresh.identity ▸ unionOf_nil
          witness := fresh.witness
          importable := fun _ isLast => nomatch isLast } }
  have none : SpanRuns [] :=
    { consecutive := fun _ _ => List.isChain_nil
      contiguous := justified_nil _ }
  refine ⟨?_, fun call => extendWith_rejected, ?_⟩
  · obtain ⟨final, extending⟩ := run_extending calls start
    exact ⟨final, extending.resolved, extending.tracks.union⟩
  · exact run_spanRuns plain calls start none

/-- A tape with room for one source of one page. -/
def singleSourceConfig : CpuReadyTapeConfig where
  values :=
    { pageCount := 1
      sourceSlotCount := 1
      readyFifoCount := 1
      compatibilityPayloadCount := 1
      maxPagesPerSource := 1
      highWaterSources := 1
      highWaterPages := 1
      highWaterReady := 1 }
  valid := by decide

def singleSourceTape : CpuReadyTape :=
  (reserve singleSourceConfig {} 1).1

def singleSourceTicket : CpuReadyPublicationTicket where
  id := { index := 0, generation := 1 }
  storage := { firstPage := 0, pageCount := 1, generation := 1 }

def wholeSpan (rawOrdinal : Nat) : ProducerCall :=
  { next := {}, spanRawOrdinal := rawOrdinal }

/-- Two spans of a raw and the adjacent interval of the next one. -/
def adjacentCalls : List ProducerCall :=
  [{ next := ⟨1, 2, 1, 1⟩, spanRawOrdinal := 5, finalSpan := false },
    { next := ⟨1, 2, 1, 1⟩, spanRawOrdinal := 5, spanOrdinal := 1 },
    { next := ⟨3, 3, 2, 4⟩, spanRawOrdinal := 6 }]

theorem producerIntervals_exact_adjacent :
    SpanRuns (Transition.run
      (ExtensionRun.step singleSourceConfig singleSourceTicket)
      { tape := singleSourceTape } adjacentCalls).accepted := by
  have resolved : resolveEntry singleSourceConfig singleSourceTape
      singleSourceTicket.source = some (singleSourceTape.entries 0) := by
    decide +kernel
  have fresh : FreshLegacy (singleSourceTape.entries 0) :=
    { writing := by decide +kernel
      plain := by decide +kernel
      legacy := by decide +kernel
      identity := by decide +kernel
      witness := by decide +kernel }
  exact (producerIntervals_exact resolved (by decide) fresh
    adjacentCalls).2.2.mpr (by decide +kernel)

/-- A settled raw comes back behind another one and is accepted again. -/
theorem settledRaw_returns :
    let accepted := (Transition.run
      (ExtensionRun.step singleSourceConfig singleSourceTicket)
      { tape := singleSourceTape }
      [wholeSpan 5, wholeSpan 6, wholeSpan 5]).accepted
    accepted = [wholeSpan 5, wholeSpan 6, wholeSpan 5] ∧
      ¬SpanRuns accepted := by
  have accepted : (Transition.run
      (ExtensionRun.step singleSourceConfig singleSourceTicket)
      { tape := singleSourceTape }
      [wholeSpan 5, wholeSpan 6, wholeSpan 5]).accepted =
        [wholeSpan 5, wholeSpan 6, wholeSpan 5] := by decide +kernel
  dsimp only
  rw [accepted]
  refine ⟨rfl, fun runs => ?_⟩
  have chain := runs.consecutive 5 (by decide)
  have spans : [wholeSpan 5, wholeSpan 6, wholeSpan 5].filter
      (ProducerCall.OfRaw 5) = [wholeSpan 5, wholeSpan 5] := by decide
  rw [spans] at chain
  exact nomatch (List.isChain_pair.mp chain).open_

end Dxmt9.Tape
