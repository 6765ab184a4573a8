import Dxmt9.Admission.CapacityLease
import Dxmt9.Admission.SessionAdmission

/-!
# Safety of session admission

The totals of a session are the sums over its admitted sources, less what was
retired, and stay within the limits; the admitted identities are consecutive.
A window is eligible exactly when it is of the plain kind and each of its
sources is appended in turn.
-/

namespace Dxmt9.Admission

open Dxmt9.Transition

/-! ## Guards -/

theorem addWithin32_iff {lhs rhs limit : UInt32} :
    addWithin32 lhs rhs limit = true ↔
      lhs.toNat + rhs.toNat ≤ limit.toNat := by
  unfold addWithin32
  rw [Bool.and_eq_true, decide_eq_true_eq, decide_eq_true_eq]
  constructor
  · rintro ⟨below, fits⟩
    rw [UInt32.le_iff_toNat_le, UInt32.toNat_sub_of_le _ _ below] at fits
    rw [UInt32.le_iff_toNat_le] at below
    omega
  · intro fits
    have below : rhs ≤ limit := by
      rw [UInt32.le_iff_toNat_le]
      omega
    refine ⟨below, ?_⟩
    rw [UInt32.le_iff_toNat_le, UInt32.toNat_sub_of_le _ _ below]
    omega

theorem addWithin64_iff {lhs rhs limit : UInt64} :
    addWithin64 lhs rhs limit = true ↔
      lhs.toNat + rhs.toNat ≤ limit.toNat := by
  unfold addWithin64
  rw [Bool.and_eq_true, decide_eq_true_eq, decide_eq_true_eq]
  constructor
  · rintro ⟨below, fits⟩
    rw [UInt64.le_iff_toNat_le, UInt64.toNat_sub_of_le _ _ below] at fits
    rw [UInt64.le_iff_toNat_le] at below
    omega
  · intro fits
    have below : rhs ≤ limit := by
      rw [UInt64.le_iff_toNat_le]
      omega
    refine ⟨below, ?_⟩
    rw [UInt64.le_iff_toNat_le, UInt64.toNat_sub_of_le _ _ below]
    omega

theorem toNat_add32 {lhs rhs limit : UInt32}
    (fits : lhs.toNat + rhs.toNat ≤ limit.toNat) :
    (lhs + rhs).toNat = lhs.toNat + rhs.toNat := by
  have bound := limit.toNat_lt
  rw [UInt32.toNat_add]
  omega

theorem toNat_add64 {lhs rhs limit : UInt64}
    (fits : lhs.toNat + rhs.toNat ≤ limit.toNat) :
    (lhs + rhs).toNat = lhs.toNat + rhs.toNat := by
  have bound := limit.toNat_lt
  rw [UInt64.toNat_add]
  omega

/-- The exact successor of an ordinal below the candidate does not wrap. -/
theorem toNat_successor {last next : UInt64} (later : last < next)
    (successor : next = last + 1) : next.toNat = last.toNat + 1 := by
  have one : (1 : UInt64).toNat = 1 := rfl
  have bound := last.toNat_lt
  have value := congrArg UInt64.toNat successor
  rw [UInt64.toNat_add] at value
  rw [UInt64.lt_iff_toNat_lt] at later
  omega

/-- The totals after the candidate stay within the limits. -/
structure Fits (session : EncodeSessionAdmissionState)
    (candidate : SessionAdmissionCandidate) (limits : EncodeSessionLimits) :
    Prop where
  sources : session.sources.toNat + (1 : UInt32).toNat ≤
    limits.maxSources.toNat
  pages : session.pages.toNat + (candidatePageFootprint candidate).toNat ≤
    limits.maxPages.toNat
  bytes : session.residencyBytes.toNat + candidate.residencyBytes.toNat ≤
    limits.maxBytes.toNat
  draws : session.draws.toNat + candidate.semantic.drawCount.toNat ≤
    limits.maxDraws.toNat
  commandBuffers : session.commandBuffers.toNat +
    candidate.predictedCommandBuffers.toNat ≤ limits.maxCommandBuffers.toNat

variable {session : EncodeSessionAdmissionState}
  {candidate : SessionAdmissionCandidate} {limits : EncodeSessionLimits}

theorem candidateFits_iff :
    candidateFits session candidate limits = true ↔
      Fits session candidate limits := by
  unfold candidateFits
  simp only [Bool.and_eq_true, addWithin32_iff, addWithin64_iff]
  constructor
  · rintro ⟨⟨⟨⟨sources, pages⟩, bytes⟩, draws⟩, commandBuffers⟩
    exact ⟨sources, pages, bytes, draws, commandBuffers⟩
  · rintro ⟨sources, pages, bytes, draws, commandBuffers⟩
    exact ⟨⟨⟨⟨sources, pages⟩, bytes⟩, draws⟩, commandBuffers⟩

theorem admit_fresh
    (fresh : session.valid = false)
    (admits : classifySessionAdmission session candidate limits = .admitted) :
    sessionAdmissionCandidateIdentityValid candidate = true ∧
      Fits {} candidate limits := by
  unfold classifySessionAdmission at admits
  split at admits
  · contradiction
  · rename_i wellFormed
    simp only [Bool.or_eq_true, Bool.not_eq_true', not_or,
      Bool.not_eq_false] at wellFormed
    split at admits
    · split at admits
      · contradiction
      · rename_i plain
        simp only [Bool.or_eq_true, Bool.not_eq_true', not_or,
          Bool.not_eq_false] at plain
        exact ⟨wellFormed.2, candidateFits_iff.mp plain.2⟩
    · rename_i valid
      simp [fresh] at valid

/-- The candidate directly follows the session. -/
structure Successor (session : EncodeSessionAdmissionState)
    (candidate : SessionAdmissionCandidate) : Prop where
  sourceOrdinal : candidate.sourceOrdinal.toNat =
    session.lastSourceOrdinal.toNat + 1
  seqId : candidate.seqId.toNat = session.lastSeqId.toNat + 1
  raw : candidate.rawOrdinal ≠ 0 → session.lastRawOrdinal ≠ 0 →
    session.lastRawOrdinal < candidate.rawOrdinal

theorem admit_open
    (isOpen : session.valid = true)
    (admits : classifySessionAdmission session candidate limits = .admitted) :
    sessionAdmissionCandidateIdentityValid candidate = true ∧
      Fits session candidate limits ∧ Successor session candidate := by
  unfold classifySessionAdmission at admits
  split at admits
  · contradiction
  · rename_i wellFormed
    simp only [Bool.or_eq_true, Bool.not_eq_true', not_or,
      Bool.not_eq_false] at wellFormed
    simp only [isOpen, Bool.not_true, Bool.false_eq_true, if_false] at admits
    split at admits
    · contradiction
    · split at admits
      · contradiction
      · rename_i ordered
        split at admits
        · contradiction
        · rename_i joins
          simp only [Bool.or_eq_true, Bool.and_eq_true, decide_eq_true_eq,
            bne_iff_ne, not_or, UInt64.not_le] at ordered
          simp only [Bool.or_eq_true, Bool.not_eq_true', bne_iff_ne, not_or,
            Ne, not_not, Bool.not_eq_false] at joins
          obtain ⟨⟨laterSource, laterSeq⟩, laterRaw⟩ := ordered
          obtain ⟨⟨⟨_, source⟩, seq⟩, fits⟩ := joins
          refine ⟨wellFormed.2, candidateFits_iff.mp fits, ?_⟩
          constructor
          · exact toNat_successor laterSource source
          · exact toNat_successor laterSeq seq
          · intro named lastNamed
            rw [← UInt64.not_le]
            exact fun below => laterRaw ⟨⟨named, lastNamed⟩, below⟩

/-! ## Sequences of admissions and retirements -/

/-- A session, the candidates it has admitted and those it has retired. -/
structure AdmissionHistory where
  session : EncodeSessionAdmissionState := {}
  admitted : List SessionAdmissionCandidate := []
  retired : List SessionAdmissionCandidate := []

inductive AdmissionCall where
  | append (candidate : SessionAdmissionCandidate)
  | retire (candidate : SessionAdmissionCandidate)

def AdmissionHistory.step (limits : EncodeSessionLimits)
    (history : AdmissionHistory) : AdmissionCall → AdmissionHistory
  | .append candidate =>
      let result := appendSessionAdmission history.session candidate limits
      { history with
        session := result.2
        admitted := if result.1 then history.admitted ++ [candidate]
          else history.admitted }
  | .retire candidate =>
      let result := retireSessionAdmissionResidency history.session candidate
      { history with
        session := result.2
        retired := if result.1 then history.retired ++ [candidate]
          else history.retired }

/-- The sum of an amount over candidates. -/
def total (amount : SessionAdmissionCandidate → Nat)
    (candidates : List SessionAdmissionCandidate) : Nat :=
  (candidates.map amount).sum

@[simp] theorem total_snoc (amount : SessionAdmissionCandidate → Nat)
    (candidates : List SessionAdmissionCandidate)
    (candidate : SessionAdmissionCandidate) :
    total amount (candidates ++ [candidate]) =
      total amount candidates + amount candidate := by
  simp [total]

/-- The second candidate takes the next source ordinal and sequence id. -/
def Consecutive (earlier later : SessionAdmissionCandidate) : Prop :=
  later.sourceOrdinal.toNat = earlier.sourceOrdinal.toNat + 1 ∧
    later.seqId.toNat = earlier.seqId.toNat + 1

def footprint (candidate : SessionAdmissionCandidate) : Nat :=
  (candidatePageFootprint candidate).toNat

structure WithinLimits (session : EncodeSessionAdmissionState)
    (limits : EncodeSessionLimits) : Prop where
  sources : session.sources ≤ limits.maxSources
  residentSources : session.residentSources ≤ session.sources
  pages : session.pages ≤ limits.maxPages
  bytes : session.residencyBytes ≤ limits.maxBytes
  draws : session.draws ≤ limits.maxDraws
  commandBuffers : session.commandBuffers ≤ limits.maxCommandBuffers

/-- The totals of the session as sums of natural numbers: nothing wrapped. -/
structure Totals (history : AdmissionHistory) : Prop where
  sources : history.session.sources.toNat = history.admitted.length
  residentSources : history.session.residentSources.toNat +
    history.retired.length = history.admitted.length
  pages : history.session.pages.toNat + total footprint history.retired =
    total footprint history.admitted
  bytes : history.session.residencyBytes.toNat +
      total (fun candidate => candidate.residencyBytes.toNat)
        history.retired =
    total (fun candidate => candidate.residencyBytes.toNat) history.admitted
  draws : history.session.draws.toNat =
    total (fun candidate => candidate.semantic.drawCount.toNat)
      history.admitted
  commandBuffers : history.session.commandBuffers.toNat =
    total (fun candidate => candidate.predictedCommandBuffers.toNat)
      history.admitted

structure AdmissionHistory.Invariant (limits : EncodeSessionLimits)
    (history : AdmissionHistory) : Prop where
  fresh : history.session.valid = false →
    history.session = {} ∧ history.admitted = [] ∧ history.retired = []
  totals : Totals history
  within : WithinLimits history.session limits
  consecutive : history.admitted.IsChain Consecutive
  last : ∀ candidate, history.admitted.getLast? = some candidate →
    history.session.lastSourceOrdinal = candidate.sourceOrdinal ∧
      history.session.lastSeqId = candidate.seqId

namespace AdmissionHistory

theorem invariant_initial (limits : EncodeSessionLimits) :
    Invariant limits {} where
  fresh _ := ⟨rfl, rfl, rfl⟩
  totals := ⟨rfl, rfl, rfl, rfl, rfl, rfl⟩
  within :=
    { sources := UInt32.le_iff_toNat_le.mpr (Nat.zero_le _)
      residentSources := UInt32.le_refl _
      pages := UInt32.le_iff_toNat_le.mpr (Nat.zero_le _)
      bytes := UInt64.le_iff_toNat_le.mpr (Nat.zero_le _)
      draws := UInt32.le_iff_toNat_le.mpr (Nat.zero_le _)
      commandBuffers := UInt32.le_iff_toNat_le.mpr (Nat.zero_le _) }
  consecutive := List.isChain_nil
  last _ impossible := nomatch impossible

theorem afterAdmission_valid (session : EncodeSessionAdmissionState)
    (candidate : SessionAdmissionCandidate) :
    (afterAdmission session candidate).valid = true := by
  have keeps : ∀ flags : UInt32,
      (flags ||| encodeSessionAdmissionHasPresent) &&&
          encodeSessionAdmissionValid =
        flags &&& encodeSessionAdmissionValid := by
    intro flags
    apply UInt32.toBitVec_inj.mp
    rw [UInt32.toBitVec_and, UInt32.toBitVec_or, BitVec.and_or_distrib_right]
    exact BitVec.or_zero
  have opened : ∀ present : Bool, ((encodeSessionAdmissionValid |||
          (if present then encodeSessionAdmissionHasPresent else 0)) &&&
        encodeSessionAdmissionValid != 0) = true := by decide
  cases isOpen : session.valid with
  | false =>
      simp only [afterAdmission, isOpen, Bool.not_false, if_true]
      exact opened candidate.semantic.hasPresent
  | true =>
      cases present : candidate.semantic.hasPresent with
      | false =>
          simp only [afterAdmission, isOpen, present]
          exact isOpen
      | true =>
          simp only [afterAdmission, isOpen, present]
          unfold EncodeSessionAdmissionState.valid at *
          simp only [Bool.not_true, Bool.false_eq_true, if_false, if_true,
            keeps]
          exact isOpen

variable {limits : EncodeSessionLimits} {history : AdmissionHistory}
  {candidate : SessionAdmissionCandidate}

/-- Opening a session with its first source. -/
theorem Invariant.openSession (invariant : Invariant limits history)
    (fresh : history.session.valid = false)
    (fits : Fits {} candidate limits) :
    Invariant limits
      { history with
        session := afterAdmission history.session candidate
        admitted := history.admitted ++ [candidate] } := by
  obtain ⟨_, noneAdmitted, noneRetired⟩ := invariant.fresh fresh
  have isValid := afterAdmission_valid history.session candidate
  simp only [afterAdmission, fresh, Bool.not_false, if_true, noneAdmitted,
    noneRetired, List.nil_append] at isValid ⊢
  constructor
  · intro invalid
    rw [isValid] at invalid
    contradiction
  · constructor <;> simp [total, footprint]
  · constructor
    · exact UInt32.le_iff_toNat_le.mpr fits.sources
    · exact UInt32.le_refl _
    · exact UInt32.le_iff_toNat_le.mpr (Nat.le_trans (Nat.le_add_left _ _)
        fits.pages)
    · exact UInt64.le_iff_toNat_le.mpr (Nat.le_trans (Nat.le_add_left _ _)
        fits.bytes)
    · exact UInt32.le_iff_toNat_le.mpr (Nat.le_trans (Nat.le_add_left _ _)
        fits.draws)
    · exact UInt32.le_iff_toNat_le.mpr (Nat.le_trans (Nat.le_add_left _ _)
        fits.commandBuffers)
  · exact List.isChain_singleton candidate
  · intro last isLast
    obtain rfl := Option.some.inj isLast
    exact ⟨rfl, rfl⟩

theorem Invariant.extendSession (invariant : Invariant limits history)
    (isOpen : history.session.valid = true)
    (fits : Fits history.session candidate limits)
    (successor : Successor history.session candidate) :
    Invariant limits
      { history with
        session := afterAdmission history.session candidate
        admitted := history.admitted ++ [candidate] } := by
  have totals := invariant.totals
  have within := invariant.within
  have resident := UInt32.le_iff_toNat_le.mp within.residentSources
  have one : (1 : UInt32).toNat = 1 := rfl
  have sources := toNat_add32 fits.sources
  have residentFits : history.session.residentSources.toNat +
      (1 : UInt32).toNat ≤ limits.maxSources.toNat :=
    Nat.le_trans (Nat.add_le_add_right resident _) fits.sources
  have residentSources := toNat_add32 residentFits
  have pages := toNat_add32 fits.pages
  have bytes := toNat_add64 fits.bytes
  have draws := toNat_add32 fits.draws
  have commandBuffers := toNat_add32 fits.commandBuffers
  have isValid := afterAdmission_valid history.session candidate
  simp only [afterAdmission, isOpen, Bool.not_true, Bool.false_eq_true,
    if_false] at isValid ⊢
  constructor
  · intro invalid
    rw [isValid] at invalid
    contradiction
  · constructor
    · rw [sources, totals.sources, List.length_append]
      rfl
    · rw [residentSources, List.length_append, ← totals.residentSources]
      simp only [List.length_cons, List.length_nil, one]
      omega
    · rw [pages, total_snoc, ← totals.pages]
      exact Nat.add_right_comm _ _ _
    · rw [bytes, total_snoc, ← totals.bytes]
      exact Nat.add_right_comm _ _ _
    · rw [draws, total_snoc, totals.draws]
    · rw [commandBuffers, total_snoc, totals.commandBuffers]
  · constructor
    · rw [UInt32.le_iff_toNat_le, sources]
      exact fits.sources
    · rw [UInt32.le_iff_toNat_le, residentSources, sources]
      exact Nat.add_le_add_right resident _
    · rw [UInt32.le_iff_toNat_le, pages]
      exact fits.pages
    · rw [UInt64.le_iff_toNat_le, bytes]
      exact fits.bytes
    · rw [UInt32.le_iff_toNat_le, draws]
      exact fits.draws
    · rw [UInt32.le_iff_toNat_le, commandBuffers]
      exact fits.commandBuffers
  · apply isChain_snoc invariant.consecutive
    intro last isLast
    obtain ⟨source, seq⟩ := invariant.last last isLast
    exact ⟨source ▸ successor.sourceOrdinal, seq ▸ successor.seqId⟩
  · intro last isLast
    rw [List.getLast?_concat] at isLast
    obtain rfl := Option.some.inj isLast
    exact ⟨rfl, rfl⟩

variable {session : EncodeSessionAdmissionState}

/-- A successful retirement takes back what it names. -/
theorem retire_accepted
    (accepted : (retireSessionAdmissionResidency session candidate).1 = true) :
    session.valid = true ∧ session.residentSources ≠ 0 ∧
      candidatePageFootprint candidate ≤ session.pages ∧
      candidate.residencyBytes ≤ session.residencyBytes ∧
      (retireSessionAdmissionResidency session candidate).2 =
        { session with
          residentSources := session.residentSources - 1
          pages := session.pages - candidatePageFootprint candidate
          residencyBytes :=
            session.residencyBytes - candidate.residencyBytes } := by
  unfold retireSessionAdmissionResidency at *
  simp only at accepted ⊢
  split at accepted
  · contradiction
  · rename_i holds
    simp only [if_neg holds]
    simp only [Bool.or_eq_true, Bool.not_eq_true', not_or,
      Bool.not_eq_false, beq_iff_eq, decide_eq_true_eq,
      UInt32.not_lt, UInt64.not_lt] at holds
    obtain ⟨⟨⟨isOpen, resident⟩, pages⟩, bytes⟩ := holds
    exact ⟨isOpen, resident, pages, bytes, trivial⟩

theorem retire_refused
    (refused : (retireSessionAdmissionResidency session candidate).1 = false) :
    (retireSessionAdmissionResidency session candidate).2 = session := by
  unfold retireSessionAdmissionResidency at *
  simp only at refused ⊢
  split at refused
  · rename_i holds
    rw [if_pos holds]
  · contradiction

theorem Invariant.retire (invariant : Invariant limits history)
    (accepted : (retireSessionAdmissionResidency history.session
      candidate).1 = true) :
    Invariant limits
      { history with
        session := (retireSessionAdmissionResidency history.session
          candidate).2
        retired := history.retired ++ [candidate] } := by
  obtain ⟨isOpen, resident, pagesFit, bytesFit, same⟩ :=
    retire_accepted accepted
  have totals := invariant.totals
  have within := invariant.within
  have positive : 1 ≤ history.session.residentSources := by
    have zero : (0 : UInt32).toNat = 0 := rfl
    have one : (1 : UInt32).toNat = 1 := rfl
    rw [Ne, ← UInt32.toNat_inj] at resident
    rw [UInt32.le_iff_toNat_le]
    omega
  have residentSources := UInt32.toNat_sub_of_le _ _ positive
  have pages := UInt32.toNat_sub_of_le _ _ pagesFit
  have bytes := UInt64.toNat_sub_of_le _ _ bytesFit
  have one : (1 : UInt32).toNat = 1 := rfl
  rw [UInt32.le_iff_toNat_le] at positive pagesFit
  rw [UInt64.le_iff_toNat_le] at bytesFit
  rw [same]
  constructor
  · intro invalid
    unfold EncodeSessionAdmissionState.valid at isOpen invalid
    simp only [isOpen] at invalid
    contradiction
  · constructor
    · exact totals.sources
    · have before := totals.residentSources
      simp only [residentSources, List.length_append, List.length_cons,
        List.length_nil]
      omega
    · have before := totals.pages
      simp only [pages, total_snoc, footprint] at before ⊢
      omega
    · have before := totals.bytes
      simp only [bytes, total_snoc]
      omega
    · exact totals.draws
    · exact totals.commandBuffers
  · have residentBound := UInt32.le_iff_toNat_le.mp within.residentSources
    have pagesBound := UInt32.le_iff_toNat_le.mp within.pages
    have bytesBound := UInt64.le_iff_toNat_le.mp within.bytes
    constructor
    · exact within.sources
    · rw [UInt32.le_iff_toNat_le, residentSources]
      exact Nat.le_trans (Nat.sub_le _ _) residentBound
    · rw [UInt32.le_iff_toNat_le, pages]
      exact Nat.le_trans (Nat.sub_le _ _) pagesBound
    · rw [UInt64.le_iff_toNat_le, bytes]
      exact Nat.le_trans (Nat.sub_le _ _) bytesBound
    · exact within.draws
    · exact within.commandBuffers
  · exact invariant.consecutive
  · exact invariant.last

theorem append_accepted
    (accepted : (appendSessionAdmission session candidate limits).1 = true) :
    classifySessionAdmission session candidate limits = .admitted ∧
      (appendSessionAdmission session candidate limits).2 =
        afterAdmission session candidate := by
  unfold appendSessionAdmission at *
  split at accepted
  · contradiction
  · rename_i admits
    rw [if_neg admits]
    exact ⟨not_not.mp admits, rfl⟩

theorem append_refused
    (refused : (appendSessionAdmission session candidate limits).1 = false) :
    (appendSessionAdmission session candidate limits).2 = session := by
  unfold appendSessionAdmission at *
  split
  · rfl
  · rename_i admits
    rw [if_neg admits] at refused
    contradiction

/-- Every call keeps the invariant. -/
theorem step_kept (limits : EncodeSessionLimits)
    (history : AdmissionHistory) (call : AdmissionCall)
    (invariant : Invariant limits history) :
    Invariant limits (history.step limits call) := by
  cases call with
  | append candidate =>
      simp only [step]
      cases known : (appendSessionAdmission history.session candidate
          limits).1 with
      | false =>
          rw [append_refused known]
          exact invariant
      | true =>
          obtain ⟨admits, same⟩ := append_accepted known
          rw [same, if_pos rfl]
          cases state : history.session.valid with
          | false =>
              exact invariant.openSession state (admit_fresh state admits).2
          | true =>
              obtain ⟨_, fits, successor⟩ := admit_open state admits
              exact invariant.extendSession state fits successor
  | retire candidate =>
      simp only [step]
      cases known : (retireSessionAdmissionResidency history.session
          candidate).1 with
      | false =>
          rw [retire_refused known]
          exact invariant
      | true =>
          rw [if_pos rfl]
          exact invariant.retire known

theorem run_kept (limits : EncodeSessionLimits)
    (calls : List AdmissionCall) :
    Invariant limits (run (step limits) {} calls) :=
  run_invariant (step_kept limits) (invariant_initial limits) calls

end AdmissionHistory

/-! ## The preflight -/

/-- Append the candidates in turn; every one must be admitted. -/
def appendAll (limits : EncodeSessionLimits) :
    EncodeSessionAdmissionState → List SessionAdmissionCandidate →
      Option EncodeSessionAdmissionState
  | session, [] => some session
  | session, candidate :: rest =>
      let result := appendSessionAdmission session candidate limits
      if result.1 then appendAll limits result.2 rest else none

/-- Candidates that a window may hold. -/
def Plain (candidate : SessionAdmissionCandidate) : Prop :=
  candidate.semantic.hasPresent = false ∧
    candidate.semantic.requiresIsolation = false ∧
    candidate.semantic.hasFlag sourceSemanticInitializerRequirement = false

/-- The preflight remembers the identities of its staged session. -/
structure Tracks (prior : PriorIdentity)
    (staged : EncodeSessionAdmissionState) : Prop where
  hasPrior : prior.hasPrior = staged.valid
  sourceOrdinal : staged.valid = true →
    prior.sourceOrdinal = staged.lastSourceOrdinal
  seqId : staged.valid = true → prior.seqId = staged.lastSeqId
  rawOrdinal : prior.rawOrdinal = staged.lastRawOrdinal
  blank : staged.valid = false → staged.lastRawOrdinal = 0

theorem afterAdmission_last (session : EncodeSessionAdmissionState)
    (candidate : SessionAdmissionCandidate) :
    (afterAdmission session candidate).lastSourceOrdinal =
        candidate.sourceOrdinal ∧
      (afterAdmission session candidate).lastSeqId = candidate.seqId := by
  cases state : session.valid with
  | false => simp [afterAdmission, state]
  | true => simp [afterAdmission, state]

variable {prior : PriorIdentity} {staged : EncodeSessionAdmissionState}

theorem Tracks.after (tracks : Tracks prior staged)
    (candidate : SessionAdmissionCandidate) :
    Tracks (prior.after candidate) (afterAdmission staged candidate) := by
  have valid := AdmissionHistory.afterAdmission_valid staged candidate
  obtain ⟨source, seq⟩ := afterAdmission_last staged candidate
  constructor
  · exact valid.symm
  · exact fun _ => source.symm
  · exact fun _ => seq.symm
  · cases state : staged.valid with
    | false =>
        have blank := tracks.blank state
        simp only [afterAdmission, PriorIdentity.after, state, Bool.not_false,
          if_true, tracks.rawOrdinal, blank]
        split
        · rfl
        · rename_i unnamed
          exact (not_not.mp unnamed).symm
    | true =>
        simp [afterAdmission, PriorIdentity.after, state, tracks.rawOrdinal]
  · intro invalid
    rw [valid] at invalid
    contradiction

theorem candidateObstacle_eligible_iff :
    candidateObstacle prior candidate = .eligible ↔
      sessionAdmissionCandidateIdentityValid candidate = true ∧
        Plain candidate ∧ nonConsecutive prior candidate = false := by
  unfold candidateObstacle Plain
  constructor
  · intro free
    split at free
    · contradiction
    · rename_i valid
      split at free
      · contradiction
      · rename_i present
        split at free
        · contradiction
        · rename_i isolated
          split at free
          · contradiction
          · rename_i initializer
            split at free
            · contradiction
            · rename_i follows
              rw [Bool.not_eq_true] at present isolated initializer follows
              exact ⟨by simpa using valid, ⟨present, isolated, initializer⟩,
                follows⟩
  · rintro ⟨valid, ⟨present, isolated, initializer⟩, follows⟩
    rw [if_neg (by simp [valid]), if_neg (by simp [present]),
      if_neg (by simp [isolated]), if_neg (by simp [initializer]),
      if_neg (by simp [follows])]

/-- An admitted candidate passes the identity checks of the preflight. -/
theorem not_nonConsecutive (tracks : Tracks prior staged)
    (admits : classifySessionAdmission staged candidate limits = .admitted) :
    sessionAdmissionCandidateIdentityValid candidate = true ∧
      nonConsecutive prior candidate = false := by
  cases state : staged.valid with
  | false =>
      refine ⟨(admit_fresh state admits).1, ?_⟩
      simp [nonConsecutive, tracks.hasPrior, state]
  | true =>
      obtain ⟨valid, _, successor⟩ := admit_open state admits
      refine ⟨valid, ?_⟩
      have source := successor.sourceOrdinal
      have seq := successor.seqId
      rw [← tracks.sourceOrdinal state] at source
      rw [← tracks.seqId state] at seq
      have sourceBound := candidate.sourceOrdinal.toNat_lt
      have seqBound := candidate.seqId.toNat_lt
      have top : (0xFFFFFFFFFFFFFFFF : UInt64).toNat = 2 ^ 64 - 1 := rfl
      have one : (1 : UInt64).toNat = 1 := rfl
      have sourceNext : candidate.sourceOrdinal = prior.sourceOrdinal + 1 := by
        rw [← UInt64.toNat_inj, UInt64.toNat_add]
        omega
      have seqNext : candidate.seqId = prior.seqId + 1 := by
        rw [← UInt64.toNat_inj, UInt64.toNat_add]
        omega
      have sourceRoom : prior.sourceOrdinal ≠ 0xFFFFFFFFFFFFFFFF := by
        rw [Ne, ← UInt64.toNat_inj]
        omega
      have seqRoom : prior.seqId ≠ 0xFFFFFFFFFFFFFFFF := by
        rw [Ne, ← UInt64.toNat_inj]
        omega
      have raw := successor.raw
      rw [← tracks.rawOrdinal] at raw
      simp only [nonConsecutive, Bool.and_eq_false_imp, Bool.or_eq_false_iff,
        beq_eq_false_iff_ne, bne_eq_false_iff_eq, bne_iff_ne,
        decide_eq_false_iff_not, UInt64.not_le, Bool.and_eq_true]
      exact fun _ => ⟨⟨⟨⟨sourceRoom, seqRoom⟩, sourceNext⟩, seqNext⟩,
        fun named => raw named.2 named.1⟩

variable {final : EncodeSessionAdmissionState}
  {candidates : List SessionAdmissionCandidate}

theorem preflightCandidates_eligible_iff
    (tracks : Tracks prior staged) :
    preflightCandidates limits staged prior candidates = (final, .eligible) ↔
      (∀ candidate ∈ candidates, Plain candidate) ∧
        appendAll limits staged candidates = some final := by
  induction candidates generalizing staged prior with
  | nil => simp [preflightCandidates, appendAll]
  | cons candidate rest induction =>
      unfold preflightCandidates appendAll
      cases appended : (appendSessionAdmission staged candidate limits).1 with
      | false =>
          simp only [appended, Bool.false_eq_true, if_false]
          constructor
          · intro eligible
            split at eligible
            · rename_i obstacle
              exact absurd (Prod.mk.inj eligible).2 obstacle
            · have impossible := (Prod.mk.inj eligible).2
              contradiction
          · rintro ⟨_, impossible⟩
            contradiction
      | true =>
          obtain ⟨admits, same⟩ := AdmissionHistory.append_accepted appended
          obtain ⟨valid, follows⟩ := not_nonConsecutive tracks admits
          have later := induction (tracks.after candidate)
          simp only [appended, if_true, same]
          rw [List.forall_mem_cons]
          by_cases plain : Plain candidate
          · have free : ¬ candidateObstacle prior candidate ≠ .eligible :=
              not_not.mpr
                (candidateObstacle_eligible_iff.mpr ⟨valid, plain, follows⟩)
            rw [if_neg free, later, and_assoc, and_iff_right plain]
          · have stops : candidateObstacle prior candidate ≠ .eligible :=
              fun free => plain (candidateObstacle_eligible_iff.mp free).2.1
            rw [if_pos stops]
            constructor
            · exact fun eligible => absurd (Prod.mk.inj eligible).2 stops
            · exact fun both => absurd both.1.1 plain

/-- The frontier matches the pending session. -/
def FrontierMatches (frontier : WindowFrontier)
    (pending : EncodeSessionAdmissionState) : Prop :=
  (frontier = .freshClean ∧ pending.valid = false) ∨
    ((frontier = .cleanClosed ∨ frontier = .activeRenderComplete) ∧
      pending.valid = true)

variable {pending : EncodeSessionAdmissionState}

theorem windowObstacle_eligible_iff {frontier : WindowFrontier}
    {captureBoundary initializerBoundary orderedReleaseBoundary : Bool} :
    windowObstacle pending candidates frontier captureBoundary
        initializerBoundary orderedReleaseBoundary = .eligible ↔
      FrontierMatches frontier pending ∧ 2 ≤ candidates.length ∧
        candidates.length ≤ kMaxMultiSourceSessionWindowSources ∧
        captureBoundary = false ∧ initializerBoundary = false ∧
        orderedReleaseBoundary = false := by
  have matched : ((!(frontier == .freshClean) &&
        !(frontier == .cleanClosed || frontier == .activeRenderComplete)) ||
      (frontier == .freshClean && pending.valid) ||
      ((frontier == .cleanClosed || frontier == .activeRenderComplete) &&
        !pending.valid)) = false ↔ FrontierMatches frontier pending := by
    unfold FrontierMatches
    cases frontier <;> cases pending.valid <;> decide
  unfold windowObstacle
  simp only
  rw [← matched]
  constructor
  · intro free
    split at free
    · contradiction
    · rename_i matches'
      split at free
      · contradiction
      · rename_i counted
        simp only [Bool.or_eq_true, decide_eq_true_eq, not_or,
          Nat.not_lt] at counted
        split at free
        · contradiction
        · rename_i capture
          split at free
          · contradiction
          · rename_i initializer
            split at free
            · contradiction
            · rename_i release
              rw [Bool.not_eq_true] at matches' capture initializer release
              exact ⟨matches', counted.1, counted.2, capture, initializer,
                release⟩
  · rintro ⟨isMatched, two, eight, rfl, rfl, rfl⟩
    rw [if_neg (by rw [isMatched]; decide), if_neg]
    · rfl
    · simp only [Bool.or_eq_true, decide_eq_true_eq, not_or, Nat.not_lt]
      exact ⟨two, eight⟩

/-- A window is eligible exactly when it is of the plain kind and every one of
its sources is appended in turn; the staged session is then the real one. -/
theorem preflight_eligible_iff
    (blank : pending.valid = false → pending.lastRawOrdinal = 0)
    (candidates : List SessionAdmissionCandidate) (frontier : WindowFrontier)
    (captureBoundary initializerBoundary orderedReleaseBoundary : Bool) :
    preflightMultiSourceSessionWindow pending candidates limits frontier
        captureBoundary initializerBoundary orderedReleaseBoundary =
          (final, .eligible) ↔
      (FrontierMatches frontier pending ∧ 2 ≤ candidates.length ∧
        candidates.length ≤ kMaxMultiSourceSessionWindowSources ∧
        captureBoundary = false ∧ initializerBoundary = false ∧
        orderedReleaseBoundary = false) ∧
      (∀ candidate ∈ candidates, Plain candidate) ∧
      appendAll limits pending candidates = some final := by
  have tracks : Tracks
      { rawOrdinal := pending.lastRawOrdinal
        sourceOrdinal := pending.lastSourceOrdinal
        seqId := pending.lastSeqId
        hasPrior := pending.valid } pending :=
    { hasPrior := rfl
      sourceOrdinal := fun _ => rfl
      seqId := fun _ => rfl
      rawOrdinal := rfl
      blank := blank }
  rw [← windowObstacle_eligible_iff]
  unfold preflightMultiSourceSessionWindow
  simp only
  split
  · rename_i obstacle
    constructor
    · exact fun eligible => absurd (Prod.mk.inj eligible).2 obstacle
    · exact fun both => absurd both.1 obstacle
  · rename_i free
    rw [preflightCandidates_eligible_iff tracks,
      and_iff_right (not_not.mp free)]

/-- Over any calls on a lease: a failed call changes nothing but the count of
denials, only the newest generation is served, the charge leaves the successor
its share, and no sum or difference wraps.  Over any admissions and
retirements: the totals are sums within the limits and the admitted identities
are consecutive.  A window is eligible exactly when it is plain and each of
its sources is then appended. -/
theorem session_capacity_safe (leaseCalls : List LeaseCall)
    (limits : EncodeSessionLimits) (admissionCalls : List AdmissionCall) :
    let leased := run LeaseHistory.step {} leaseCalls
    let opened := run (AdmissionHistory.step limits) {} admissionCalls
    (∀ call, (leased.state.call call).1 = false →
        (leased.state.call call).2 = leased.state ∨
          (leased.state.call call).2 = leased.state.denied) ∧
      (∀ generation candidate,
        (leased.state.lease.valid = false ∨
            generation ≠ leased.state.lease.generation) →
          (leased.state.charge generation candidate).1 = false ∧
            (leased.state.uncharge generation candidate).1 = false ∧
            (leased.state.release generation).1 = false) ∧
      (leased.issued.Pairwise fun earlier later => earlier < later) ∧
      (leased.state.lease.valid = true →
        leased.issued.getLast? = some leased.state.lease.generation) ∧
      leased.state.lease.Bounded ∧
      (∀ generation candidate,
        (leased.state.charge generation candidate).1 = true →
          ∀ dimension,
            ((leased.state.charge generation
                candidate).2.lease.used.get dimension).toNat =
              (leased.state.lease.used.get dimension).toNat +
                (candidate.get dimension).toNat) ∧
      (∀ generation candidate,
        (leased.state.uncharge generation candidate).1 = true →
          ∀ dimension,
            ((leased.state.uncharge generation
                candidate).2.lease.used.get dimension).toNat +
                (candidate.get dimension).toNat =
              (leased.state.lease.used.get dimension).toNat) ∧
      Totals opened ∧ WithinLimits opened.session limits ∧
      opened.admitted.IsChain Consecutive ∧
      (∀ candidate,
        (appendSessionAdmission opened.session candidate limits).1 = false →
          (appendSessionAdmission opened.session candidate limits).2 =
            opened.session) ∧
      ∀ candidates frontier captureBoundary initializerBoundary
        orderedReleaseBoundary final,
        preflightMultiSourceSessionWindow opened.session candidates limits
            frontier captureBoundary initializerBoundary
            orderedReleaseBoundary = (final, .eligible) ↔
          (FrontierMatches frontier opened.session ∧
            2 ≤ candidates.length ∧
            candidates.length ≤ kMaxMultiSourceSessionWindowSources ∧
            captureBoundary = false ∧ initializerBoundary = false ∧
            orderedReleaseBoundary = false) ∧
          (∀ candidate ∈ candidates, Plain candidate) ∧
          appendAll limits opened.session candidates = some final := by
  have leased := LeaseHistory.run_kept leaseCalls
  have opened := AdmissionHistory.run_kept limits admissionCalls
  refine ⟨fun _ => SessionCapacityLeaseState.call_refused, ?_, leased.issued,
    leased.current, leased.bounded, ?_, ?_, opened.totals, opened.within,
    opened.consecutive, fun _ => AdmissionHistory.append_refused, ?_⟩
  · intro generation candidate stale
    refine ⟨?_, ?_, ?_⟩
    · rw [Bool.eq_false_iff]
      intro accepted
      obtain ⟨_, _, valid, same, _⟩ :=
        SessionCapacityLeaseState.charge_accepted accepted
      rcases stale with invalid | other
      · exact absurd valid (Bool.eq_false_iff.mp invalid)
      · exact other same
    · rw [Bool.eq_false_iff]
      intro accepted
      obtain ⟨_, valid, same, _⟩ :=
        SessionCapacityLeaseState.uncharge_accepted accepted
      rcases stale with invalid | other
      · exact absurd valid (Bool.eq_false_iff.mp invalid)
      · exact other same
    · rw [Bool.eq_false_iff]
      intro accepted
      obtain ⟨_, _, valid, same⟩ :=
        SessionCapacityLeaseState.release_accepted accepted
      rcases stale with invalid | other
      · exact absurd valid (Bool.eq_false_iff.mp invalid)
      · exact other same
  · intro generation candidate accepted dimension
    obtain ⟨used, same, _, _, added, _⟩ :=
      SessionCapacityLeaseState.charge_accepted accepted
    rw [same]
    exact addVector_toNat added dimension
  · intro generation candidate accepted dimension
    obtain ⟨same, _, _, within⟩ :=
      SessionCapacityLeaseState.uncharge_accepted accepted
    have fits := vectorAtMost_iff.mp within dimension
    rw [same]
    simp only [SessionCapacityLeaseState.withUsed]
    rw [subtractVector_toNat fits]
    omega
  · intro candidates frontier captureBoundary initializerBoundary
      orderedReleaseBoundary final
    apply preflight_eligible_iff
    intro fresh
    rw [(opened.fresh fresh).1]

/-- A source that an open session can take. -/
def sampleCandidate (ordinal : UInt64) (flags : UInt32) :
    SessionAdmissionCandidate :=
  { semantic :=
      { drawCount := 1, pageCount := 1, entryKind := .render, flags := flags }
    residencyBytes := 64
    sourceOrdinal := ordinal
    seqId := ordinal }

/-- A window that ends with the present of the frame is not eligible, although
both of its sources are appended. -/
theorem present_tail_appended_not_eligible :
    let pending := (run (AdmissionHistory.step {}) {}
      [.append (sampleCandidate 1 sourceSemanticSealed)]).session
    let window := [sampleCandidate 2 sourceSemanticSealed,
      sampleCandidate 3 (sourceSemanticSealed ||| sourceSemanticHasPresent |||
        sourceSemanticFinalPresentTail)]
    (appendAll {} pending window).isSome = true ∧
      (preflightMultiSourceSessionWindow pending window {} .cleanClosed false
        false false).2 = .presentBoundary := by
  decide +kernel

end Dxmt9.Admission
