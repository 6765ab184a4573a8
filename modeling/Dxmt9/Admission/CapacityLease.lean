import Dxmt9.Transition.Run

/-!
# The session capacity lease

A session leases a vector of capacities from its queue.  Part of the lease is
kept for the successor source; charges may use the rest.
-/

namespace Dxmt9.Admission

open Dxmt9.Transition

/-! ## Capacity vectors -/

structure SessionCapacityVector where
  sources : UInt64 := 0
  pages : UInt64 := 0
  bytes : UInt64 := 0
  draws : UInt64 := 0
  payloadBlocks : UInt64 := 0
  readyEntries : UInt64 := 0
  retentionEntries : UInt64 := 0
  allocatorTickets : UInt64 := 0
  commandBuffers : UInt64 := 0
deriving DecidableEq

/-- The dimensions of a capacity vector. -/
inductive Dimension where
  | sources
  | pages
  | bytes
  | draws
  | payloadBlocks
  | readyEntries
  | retentionEntries
  | allocatorTickets
  | commandBuffers
deriving DecidableEq

namespace SessionCapacityVector

def get (vector : SessionCapacityVector) : Dimension → UInt64
  | .sources => vector.sources
  | .pages => vector.pages
  | .bytes => vector.bytes
  | .draws => vector.draws
  | .payloadBlocks => vector.payloadBlocks
  | .readyEntries => vector.readyEntries
  | .retentionEntries => vector.retentionEntries
  | .allocatorTickets => vector.allocatorTickets
  | .commandBuffers => vector.commandBuffers

/-- The vector of one value for each dimension. -/
def build (value : Dimension → UInt64) : SessionCapacityVector :=
  { sources := value .sources
    pages := value .pages
    bytes := value .bytes
    draws := value .draws
    payloadBlocks := value .payloadBlocks
    readyEntries := value .readyEntries
    retentionEntries := value .retentionEntries
    allocatorTickets := value .allocatorTickets
    commandBuffers := value .commandBuffers }

/-- The condition holds in every dimension. -/
def all (condition : Dimension → Bool) : Bool :=
  condition .sources && condition .pages && condition .bytes &&
    condition .draws && condition .payloadBlocks && condition .readyEntries &&
    condition .retentionEntries && condition .allocatorTickets &&
    condition .commandBuffers

@[simp] theorem get_build (value : Dimension → UInt64)
    (dimension : Dimension) : (build value).get dimension = value dimension := by
  cases dimension <;> rfl

theorem all_iff (condition : Dimension → Bool) :
    all condition = true ↔ ∀ dimension, condition dimension = true := by
  constructor
  · intro holds dimension
    simp only [all, Bool.and_eq_true] at holds
    cases dimension <;> simp [holds]
  · intro holds
    simp [all, holds]

end SessionCapacityVector

open SessionCapacityVector (all build)

def vectorAtMost (left right : SessionCapacityVector) : Bool :=
  all fun dimension => left.get dimension ≤ right.get dimension

def maxUInt64 : UInt64 := 0xFFFFFFFFFFFFFFFF

def addVector (left right : SessionCapacityVector) :
    Option SessionCapacityVector :=
  if all fun dimension =>
      right.get dimension ≤ maxUInt64 - left.get dimension then
    some (build fun dimension => left.get dimension + right.get dimension)
  else none

def subtractVector (left right : SessionCapacityVector) :
    SessionCapacityVector :=
  build fun dimension => left.get dimension - right.get dimension

variable {left right : SessionCapacityVector}

theorem vectorAtMost_iff :
    vectorAtMost left right = true ↔ ∀ dimension,
      (left.get dimension).toNat ≤ (right.get dimension).toNat := by
  unfold vectorAtMost
  rw [SessionCapacityVector.all_iff]
  simp only [decide_eq_true_eq, UInt64.le_iff_toNat_le]

/-- A sum that is returned does not wrap. -/
theorem addVector_toNat {sum : SessionCapacityVector}
    (added : addVector left right = some sum) (dimension : Dimension) :
    (sum.get dimension).toNat =
      (left.get dimension).toNat + (right.get dimension).toNat := by
  simp only [addVector, Option.ite_none_right_eq_some] at added
  obtain ⟨fits, equal⟩ := added
  obtain rfl := Option.some.inj equal
  rw [SessionCapacityVector.all_iff] at fits
  have fit := of_decide_eq_true (fits dimension)
  have top : maxUInt64.toNat = 2 ^ 64 - 1 := rfl
  have bound := (left.get dimension).toNat_lt
  rw [UInt64.le_iff_toNat_le, UInt64.toNat_sub_of_le, top] at fit
  · rw [SessionCapacityVector.get_build, UInt64.toNat_add]
    omega
  · rw [UInt64.le_iff_toNat_le]
    omega

theorem subtractVector_toNat
    {dimension : Dimension}
    (fits : (right.get dimension).toNat ≤ (left.get dimension).toNat) :
    ((subtractVector left right).get dimension).toNat =
      (left.get dimension).toNat - (right.get dimension).toNat := by
  rw [subtractVector, SessionCapacityVector.get_build,
    UInt64.toNat_sub_of_le _ _ (UInt64.le_iff_toNat_le.mpr fits)]

structure SessionCapacityPolicy where
  highWater : SessionCapacityVector := {}
  maxSession : SessionCapacityVector := {}
  successorHeadroom : SessionCapacityVector := {}
  ordinaryDirect : SessionCapacityVector := {}
deriving DecidableEq

def worstCaseNonWrappingReservationPages (payloadPages : UInt64) : UInt64 :=
  if payloadPages = 0 ∨ maxUInt64 / 2 + 1 < payloadPages then 0
  else payloadPages * 2 - 1

def nonzero (vector : SessionCapacityVector) : Bool :=
  all fun dimension => vector.get dimension != 0

def SessionCapacityPolicy.valid (policy : SessionCapacityPolicy) : Bool :=
  nonzero policy.highWater && nonzero policy.maxSession &&
    nonzero policy.successorHeadroom &&
    policy.ordinaryDirect.sources == 1 &&
    policy.ordinaryDirect.readyEntries == 1 &&
    nonzero policy.ordinaryDirect &&
    worstCaseNonWrappingReservationPages policy.ordinaryDirect.pages ≤
      policy.successorHeadroom.pages &&
    vectorAtMost policy.ordinaryDirect policy.successorHeadroom &&
    (match addVector policy.maxSession policy.successorHeadroom with
      | some reserved => vectorAtMost reserved policy.highWater
      | none => false)

/-! ## The lease -/

structure SessionCapacityLease where
  generation : UInt64 := 0
  reserved : SessionCapacityVector := {}
  used : SessionCapacityVector := {}
  successorRemaining : SessionCapacityVector := {}
deriving DecidableEq

def SessionCapacityLease.valid (lease : SessionCapacityLease) : Bool :=
  lease.generation != 0

structure SessionCapacityLeaseStats where
  acquisitions : UInt64 := 0
  denials : UInt64 := 0
  releases : UInt64 := 0
  peakCurrent : UInt64 := 0
  reserved : SessionCapacityVector := {}
  used : SessionCapacityVector := {}
  slack : SessionCapacityVector := {}
  successorMinimum : SessionCapacityVector := {}
deriving DecidableEq

structure SessionCapacityLeaseState where
  nextGeneration : UInt64 := 1
  lease : SessionCapacityLease := {}
  stats : SessionCapacityLeaseStats := {}
deriving DecidableEq

namespace SessionCapacityLeaseState

def denied (state : SessionCapacityLeaseState) : SessionCapacityLeaseState :=
  { state with
    stats := { state.stats with denials := state.stats.denials + 1 } }

/-- The reserved vector of a lease that the policy can back. -/
def grant (policy : SessionCapacityPolicy)
    (unavailable initialCharge : SessionCapacityVector) :
    Option SessionCapacityVector :=
  (addVector policy.maxSession policy.successorHeadroom).bind fun reserved =>
    (addVector unavailable reserved).bind fun physicalClaim =>
      if vectorAtMost physicalClaim policy.highWater &&
          vectorAtMost initialCharge policy.maxSession then
        some reserved
      else none

def acquire (state : SessionCapacityLeaseState)
    (policy : SessionCapacityPolicy)
    (unavailable initialCharge : SessionCapacityVector) :
    Bool × SessionCapacityLeaseState :=
  if state.lease.valid || !policy.valid || state.nextGeneration == 0 then
    (false, state.denied)
  else
    match grant policy unavailable initialCharge with
    | none => (false, state.denied)
    | some reserved =>
        (true,
          { nextGeneration := state.nextGeneration + 1
            lease :=
              { generation := state.nextGeneration
                reserved := reserved
                used := initialCharge
                successorRemaining := policy.successorHeadroom }
            stats :=
              { state.stats with
                acquisitions := state.stats.acquisitions + 1
                peakCurrent := max state.stats.peakCurrent 1
                reserved := reserved
                used := initialCharge
                slack := subtractVector policy.maxSession initialCharge
                successorMinimum := policy.successorHeadroom } })

/-- The lease with another used vector, and the statistics that follow. -/
def withUsed (state : SessionCapacityLeaseState)
    (used : SessionCapacityVector) : SessionCapacityLeaseState :=
  { state with
    lease := { state.lease with used := used }
    stats :=
      { state.stats with
        used := used
        slack := subtractVector
          (subtractVector state.lease.reserved
            state.lease.successorRemaining) used } }

def charge (state : SessionCapacityLeaseState) (generation : UInt64)
    (candidate : SessionCapacityVector) : Bool × SessionCapacityLeaseState :=
  if !state.lease.valid || generation != state.lease.generation then
    (false, state)
  else
    match addVector state.lease.used candidate with
    | none => (false, state)
    | some next =>
        if !vectorAtMost next (subtractVector state.lease.reserved
            state.lease.successorRemaining) then
          (false, state)
        else (true, state.withUsed next)

def uncharge (state : SessionCapacityLeaseState) (generation : UInt64)
    (candidate : SessionCapacityVector) : Bool × SessionCapacityLeaseState :=
  if !state.lease.valid || generation != state.lease.generation ||
      !vectorAtMost candidate state.lease.used then
    (false, state)
  else (true, state.withUsed (subtractVector state.lease.used candidate))

def release (state : SessionCapacityLeaseState) (generation : UInt64) :
    Bool × SessionCapacityLeaseState :=
  if !state.lease.valid || generation != state.lease.generation then
    (false, state)
  else
    (true,
      { state with
        lease := {}
        stats :=
          { state.stats with
            releases := state.stats.releases + 1
            reserved := {}
            used := {}
            slack := {} } })

end SessionCapacityLeaseState

inductive LeaseCall where
  | acquire (policy : SessionCapacityPolicy)
      (unavailable initialCharge : SessionCapacityVector)
  | charge (generation : UInt64) (candidate : SessionCapacityVector)
  | uncharge (generation : UInt64) (candidate : SessionCapacityVector)
  | release (generation : UInt64)

def SessionCapacityLeaseState.call (state : SessionCapacityLeaseState) :
    LeaseCall → Bool × SessionCapacityLeaseState
  | .acquire policy unavailable initialCharge =>
      state.acquire policy unavailable initialCharge
  | .charge generation candidate => state.charge generation candidate
  | .uncharge generation candidate => state.uncharge generation candidate
  | .release generation => state.release generation

/-! ## Safety of the lease -/

/-- A lease state and the generations it has issued. -/
structure LeaseHistory where
  state : SessionCapacityLeaseState := {}
  issued : List UInt64 := []

def LeaseHistory.step (history : LeaseHistory) (call : LeaseCall) :
    LeaseHistory :=
  let result := history.state.call call
  { state := result.2
    issued :=
      match call with
      | .acquire _ _ _ =>
          if result.1 then history.issued ++ [result.2.lease.generation]
          else history.issued
      | _ => history.issued }

/-- The charge leaves the successor its share. -/
def SessionCapacityLease.Bounded (lease : SessionCapacityLease) : Prop :=
  ∀ dimension, (lease.used.get dimension).toNat +
    (lease.successorRemaining.get dimension).toNat ≤
      (lease.reserved.get dimension).toNat

structure LeaseHistory.Invariant (history : LeaseHistory) : Prop where
  bounded : history.state.lease.Bounded
  issued : history.issued.Pairwise fun earlier later => earlier < later
  next : history.state.nextGeneration ≠ 0 →
    ∀ generation ∈ history.issued,
      generation < history.state.nextGeneration
  current : history.state.lease.valid = true →
    history.issued.getLast? = some history.state.lease.generation

namespace SessionCapacityLeaseState

variable {policy : SessionCapacityPolicy}
  {unavailable initialCharge : SessionCapacityVector}

theorem grant_bounded
    {reserved : SessionCapacityVector}
    (granted : grant policy unavailable initialCharge = some reserved)
    (dimension : Dimension) :
    (initialCharge.get dimension).toNat +
        (policy.successorHeadroom.get dimension).toNat ≤
      (reserved.get dimension).toNat := by
  obtain ⟨sum, added, granted⟩ := Option.bind_eq_some_iff.mp granted
  obtain ⟨claim, _, granted⟩ := Option.bind_eq_some_iff.mp granted
  simp only [Option.ite_none_right_eq_some, Bool.and_eq_true] at granted
  obtain ⟨⟨_, within⟩, equal⟩ := granted
  obtain rfl := Option.some.inj equal
  have fits := vectorAtMost_iff.mp within dimension
  have total := addVector_toNat added dimension
  omega

variable {state : SessionCapacityLeaseState}

theorem acquire_accepted
    (accepted : (state.acquire policy unavailable initialCharge).1 = true) :
    let next := (state.acquire policy unavailable initialCharge).2
    state.nextGeneration ≠ 0 ∧
      next.nextGeneration = state.nextGeneration + 1 ∧
      next.lease.generation = state.nextGeneration ∧
      next.lease.Bounded := by
  unfold acquire at *
  split at accepted
  · contradiction
  · rename_i ready
    rw [if_neg ready]
    simp only [Bool.or_eq_true, not_or, beq_iff_eq] at ready
    split at accepted
    · contradiction
    · rename_i reserved granted
      exact ⟨ready.2, rfl, rfl, grant_bounded granted⟩

theorem acquire_refused
    (refused : (state.acquire policy unavailable initialCharge).1 = false) :
    (state.acquire policy unavailable initialCharge).2 = state.denied := by
  unfold acquire at *
  split at refused
  · rename_i closed
    rw [if_pos closed]
  · rename_i ready
    rw [if_neg ready]
    split at refused
    · rfl
    · contradiction

variable {generation : UInt64} {candidate : SessionCapacityVector}

/-- A charge goes to the current lease and stays within its usable part. -/
theorem charge_accepted
    (accepted : (state.charge generation candidate).1 = true) :
    ∃ used, (state.charge generation candidate).2 = state.withUsed used ∧
      state.lease.valid = true ∧ generation = state.lease.generation ∧
      addVector state.lease.used candidate = some used ∧
      vectorAtMost used (subtractVector state.lease.reserved
        state.lease.successorRemaining) = true := by
  unfold charge at *
  split at accepted
  · contradiction
  · rename_i current
    rw [if_neg current]
    simp only [Bool.or_eq_true, not_or, Bool.not_eq_true', bne_iff_ne,
      not_not, Bool.not_eq_false] at current
    split at accepted
    · contradiction
    · rename_i next added
      split at accepted
      · contradiction
      · rename_i within
        simp only [Bool.not_eq_true', Bool.not_eq_false] at within
        exact ⟨next, by simp [within], current.1, current.2, added, within⟩

theorem charge_refused
    (refused : (state.charge generation candidate).1 = false) :
    (state.charge generation candidate).2 = state := by
  unfold charge at *
  split
  · rfl
  · rename_i current
    rw [if_neg current] at refused
    split at refused
    · rfl
    · split at refused
      · rename_i outside
        simp [outside]
      · contradiction

theorem uncharge_accepted
    (accepted : (state.uncharge generation candidate).1 = true) :
    (state.uncharge generation candidate).2 =
        state.withUsed (subtractVector state.lease.used candidate) ∧
      state.lease.valid = true ∧ generation = state.lease.generation ∧
      vectorAtMost candidate state.lease.used = true := by
  unfold uncharge at *
  split at accepted
  · contradiction
  · rename_i current
    rw [if_neg current]
    simp only [Bool.or_eq_true, not_or, Bool.not_eq_true', bne_iff_ne,
      not_not, Bool.not_eq_false] at current
    exact ⟨rfl, current.1.1, current.1.2, current.2⟩

theorem uncharge_refused
    (refused : (state.uncharge generation candidate).1 = false) :
    (state.uncharge generation candidate).2 = state := by
  unfold uncharge at *
  split
  · rfl
  · rename_i current
    rw [if_neg current] at refused
    contradiction

theorem release_accepted
    (accepted : (state.release generation).1 = true) :
    (state.release generation).2.lease = {} ∧
      (state.release generation).2.nextGeneration = state.nextGeneration ∧
      state.lease.valid = true ∧ generation = state.lease.generation := by
  unfold release at *
  split at accepted
  · contradiction
  · rename_i current
    rw [if_neg current]
    simp only [Bool.or_eq_true, not_or, Bool.not_eq_true', bne_iff_ne,
      not_not, Bool.not_eq_false] at current
    exact ⟨rfl, rfl, current.1, current.2⟩

theorem release_refused
    (refused : (state.release generation).1 = false) :
    (state.release generation).2 = state := by
  unfold release at *
  split
  · rfl
  · rename_i current
    rw [if_neg current] at refused
    contradiction

/-- A failed call changes nothing but the count of denials. -/
theorem call_refused {call : LeaseCall}
    (refused : (state.call call).1 = false) :
    (state.call call).2 = state ∨ (state.call call).2 = state.denied := by
  cases call with
  | acquire policy unavailable initialCharge =>
      exact Or.inr (acquire_refused refused)
  | charge generation candidate => exact Or.inl (charge_refused refused)
  | uncharge generation candidate => exact Or.inl (uncharge_refused refused)
  | release generation => exact Or.inl (release_refused refused)

end SessionCapacityLeaseState

variable {state : SessionCapacityLeaseState}

theorem charge_bounded
    (bounded : state.lease.Bounded) {used : SessionCapacityVector}
    (within : vectorAtMost used (subtractVector state.lease.reserved
      state.lease.successorRemaining) = true) :
    (state.withUsed used).lease.Bounded := by
  intro dimension
  have room := bounded dimension
  have fits := vectorAtMost_iff.mp within dimension
  rw [subtractVector_toNat (by omega)] at fits
  simp only [SessionCapacityLeaseState.withUsed]
  omega

theorem uncharge_bounded
    (bounded : state.lease.Bounded) {candidate : SessionCapacityVector}
    (within : vectorAtMost candidate state.lease.used = true) :
    (state.withUsed (subtractVector state.lease.used candidate)).lease.Bounded := by
  intro dimension
  have room := bounded dimension
  have fits := vectorAtMost_iff.mp within dimension
  simp only [SessionCapacityLeaseState.withUsed]
  rw [subtractVector_toNat fits]
  omega

namespace LeaseHistory

theorem bounded_empty : ({} : SessionCapacityLease).Bounded := by
  intro dimension
  cases dimension <;> exact Nat.le_refl 0

theorem invariant_initial : Invariant {} where
  bounded := bounded_empty
  issued := List.Pairwise.nil
  next _ _ impossible := absurd impossible List.not_mem_nil
  current impossible := by contradiction

theorem Invariant.keep {history : LeaseHistory}
    (invariant : history.Invariant) {next : SessionCapacityLeaseState}
    (bounded : next.lease.Bounded)
    (generation : next.nextGeneration = history.state.nextGeneration)
    (current : next.lease.valid = true →
      history.state.lease.valid = true ∧
        next.lease.generation = history.state.lease.generation) :
    Invariant { state := next, issued := history.issued } where
  bounded := bounded
  issued := invariant.issued
  next := by
    rw [generation]
    exact invariant.next
  current valid := by
    obtain ⟨wasValid, same⟩ := current valid
    rw [same]
    exact invariant.current wasValid

theorem lt_of_lt_succ {generation next : UInt64} (wraps : next + 1 ≠ 0)
    (below : generation < next) : generation < next + 1 := by
  rw [UInt64.lt_iff_toNat_lt] at *
  rw [Ne, ← UInt64.toNat_inj] at wraps
  have one : (1 : UInt64).toNat = 1 := rfl
  have zero : (0 : UInt64).toNat = 0 := rfl
  have bound := next.toNat_lt
  rw [UInt64.toNat_add] at *
  omega

theorem lt_succ_self {next : UInt64} (wraps : next + 1 ≠ 0) :
    next < next + 1 := by
  rw [UInt64.lt_iff_toNat_lt]
  rw [Ne, ← UInt64.toNat_inj] at wraps
  have one : (1 : UInt64).toNat = 1 := rfl
  have zero : (0 : UInt64).toNat = 0 := rfl
  have bound := next.toNat_lt
  rw [UInt64.toNat_add] at *
  omega

theorem step_kept (history : LeaseHistory) (call : LeaseCall)
    (invariant : history.Invariant) : (history.step call).Invariant := by
  cases call with
  | acquire policy unavailable initialCharge =>
      cases known : (history.state.acquire policy unavailable
          initialCharge).1 with
      | false =>
          have same := SessionCapacityLeaseState.acquire_refused known
          simp only [step, SessionCapacityLeaseState.call, known, same,
            Bool.false_eq_true, if_false]
          exact invariant.keep invariant.bounded rfl fun valid => ⟨valid, rfl⟩
      | true =>
          obtain ⟨nonzero, next, generation, bounded⟩ :=
            SessionCapacityLeaseState.acquire_accepted known
          have below := invariant.next nonzero
          simp only [step, SessionCapacityLeaseState.call, known, if_true,
            generation]
          constructor
          · exact bounded
          · refine List.pairwise_append.mpr ⟨invariant.issued,
              List.pairwise_singleton _ _, ?_⟩
            intro earlier member later new
            rw [List.mem_singleton.mp new]
            exact below earlier member
          · intro wraps other member
            rw [next] at wraps ⊢
            rcases List.mem_append.mp member with old | new
            · exact lt_of_lt_succ wraps (below other old)
            · rw [List.mem_singleton.mp new]
              exact lt_succ_self wraps
          · intro _
            rw [List.getLast?_concat, generation]
  | charge generation candidate =>
      cases known : (history.state.charge generation candidate).1 with
      | false =>
          have same := SessionCapacityLeaseState.charge_refused known
          simp only [step, SessionCapacityLeaseState.call, same]
          exact invariant
      | true =>
          obtain ⟨used, same, valid, _, _, within⟩ :=
            SessionCapacityLeaseState.charge_accepted known
          simp only [step, SessionCapacityLeaseState.call, same]
          exact invariant.keep (charge_bounded invariant.bounded within) rfl
            fun _ => ⟨valid, rfl⟩
  | uncharge generation candidate =>
      cases known : (history.state.uncharge generation candidate).1 with
      | false =>
          have same := SessionCapacityLeaseState.uncharge_refused known
          simp only [step, SessionCapacityLeaseState.call, same]
          exact invariant
      | true =>
          obtain ⟨same, valid, _, within⟩ :=
            SessionCapacityLeaseState.uncharge_accepted known
          simp only [step, SessionCapacityLeaseState.call, same]
          exact invariant.keep (uncharge_bounded invariant.bounded within) rfl
            fun _ => ⟨valid, rfl⟩
  | release generation =>
      cases known : (history.state.release generation).1 with
      | false =>
          have same := SessionCapacityLeaseState.release_refused known
          simp only [step, SessionCapacityLeaseState.call, same]
          exact invariant
      | true =>
          obtain ⟨empty, next, _, _⟩ :=
            SessionCapacityLeaseState.release_accepted known
          simp only [step, SessionCapacityLeaseState.call]
          apply invariant.keep
          · rw [empty]
            exact bounded_empty
          · exact next
          · rw [empty]
            exact fun impossible => by contradiction

theorem run_kept (calls : List LeaseCall) : (run step {} calls).Invariant :=
  run_invariant step_kept invariant_initial calls

end LeaseHistory

end Dxmt9.Admission
