import Dxmt9.CpuReady.ChunkPlan
import Dxmt9.CpuReady.LeaseSpans
import Dxmt9.CpuReady.EmissionCounts

/-!
# The two routers of a raw

A raw is routed by its emission plan.  The router before it read the plan of
the whole chunk and the records once more; it is kept as a second opinion.
-/

namespace Dxmt9.CpuReady

inductive DirectChunkSlotReplayDisposition where
  | direct
  | directOversized
  | directWithPresentTail
  | legacyStateOnly
  | legacySegmented
  | legacyUpDraw
  | legacyPresent
  | legacyUnsupported
  | legacyOversized
  | legacyCaptureOrTrace
  | inlineOrderedControl
  | rejectInvalid
  deriving DecidableEq

/-- Whether a raw goes the direct route. -/
def DirectChunkSlotReplayDisposition.takesDirectRoute :
    DirectChunkSlotReplayDisposition → Bool
  | .direct | .directOversized | .directWithPresentTail => true
  | _ => false

def ReplayEmissionPlan.partitioned (plan : ReplayEmissionPlan) : Bool :=
  plan.reason == .complete && plan.coverageExact

def emissionPlanDisposition (plan : ReplayEmissionPlan)
    (captureOrTrace : Bool) : DirectChunkSlotReplayDisposition :=
  if captureOrTrace then .legacyCaptureOrTrace
  else if !plan.partitioned then
    match plan.reason with
    | .malformedView | .unknownRecord => .rejectInvalid
    | .coverage => .legacySegmented
    | .overflow | .capacity | .storage => .legacyOversized
    | .complete => .legacyUnsupported
  else
    match plan.leaseBlock with
    | .none => if plan.containsPresent then .directWithPresentTail else .direct
    | .presentOrdering => .legacyPresent
    | .orderedControl => .inlineOrderedControl
    | .compatibilityRange => .legacyUpDraw
    | .noIsland => .legacyStateOnly
    | .incompletePlan => .legacyUnsupported

def CpuReadyPlan.directArenaCandidate (plan : CpuReadyPlan) : Bool :=
  plan.lane == .directArenaCandidate && plan.logicalSource &&
    plan.sourceCount != 0

def CpuReadyPlan.directChunkSlotCandidate (plan : CpuReadyPlan) : Bool :=
  plan.directSlotSingleSource && plan.directSlotLayout.isSome

/-- Whether a record is a draw of an island or state in it. -/
def islandMember (imported : ImportedChunkView) (index : Nat) : Bool :=
  islandMembership imported index == .draw ||
    islandMembership imported index == .stateOnly

/-- Whether the records before an index hold a draw of an island. -/
def sawDraw (imported : ImportedChunkView) (stop : Nat) : Bool :=
  (List.range stop).any fun index =>
    islandMembership imported index == .draw

/-- Whether a raw is island records with one Present behind them and at most
one Clear before them. -/
def directPresentTailShape (imported : ImportedChunkView)
    (plan : CpuReadyPlan) : Bool :=
  let size := imported.records.length
  let arenaShape := plan.directArenaCandidate && plan.sourceCount == 1 &&
    plan.arenaLayout.isSome
  (arenaShape || plan.directChunkSlotCandidate) && decide (2 ≤ size) &&
    imported.recordType (size - 1) == .present &&
    (List.range (size - 1)).all (fun index =>
      islandMember imported index ||
        index == 0 && imported.recordType index == .clear) &&
    sawDraw imported (size - 1)

/-- The scan over the records of a raw that an arena may hold. -/
def classifyRecords (imported : ImportedChunkView) (plan : CpuReadyPlan) :
    List Nat → DirectChunkSlotReplayDisposition
  | [] => .direct
  | index :: rest =>
      match islandMembership imported index with
      | .draw | .stateOnly => classifyRecords imported plan rest
      | .malformed => .legacyUnsupported
      | .outside =>
          match recordTopology (imported.recordType index) with
          | none => .legacyUnsupported
          | some rule =>
              match rule.topology with
              | .coordinatorCommand =>
                  if imported.recordType index = .present then
                    if directPresentTailShape imported plan then
                      .directWithPresentTail
                    else .legacyPresent
                  else classifyRecords imported plan rest
              | .orderedControl => .inlineOrderedControl
              | .compatibilityDraw => .legacyUpDraw
              | .directDraw | .directStateOnly => .legacyUnsupported

def classifyDirectChunkSlotReplay (imported : ImportedChunkView)
    (plan : CpuReadyPlan) (captureOrTrace : Bool) :
    DirectChunkSlotReplayDisposition :=
  let size := imported.records.length
  if captureOrTrace then .legacyCaptureOrTrace
  else if plan.lane = .reject then .rejectInvalid
  else if plan.containsOrderedControls ∨ plan.lane = .inline then
    .inlineOrderedControl
  else if plan.reason = .oversize then
    if plan.directChunkSlotCandidate ∧
        (List.range size).all (islandMember imported) ∧
        sawDraw imported size then
      .directOversized
    else .legacyOversized
  else if plan.reason = .present then
    if directPresentTailShape imported plan then .directWithPresentTail
    else .legacyPresent
  else if plan.lane = .stateOnly then .legacyStateOnly
  else if plan.directArenaCandidate ∧
      (plan.sourceCount ≠ 1 ∨ plan.arenaLayout = none) then
    .legacySegmented
  else if !plan.directArenaCandidate then .legacyUnsupported
  else classifyRecords imported plan (List.range size)

end Dxmt9.CpuReady

/-!
## The emission router refines the router before it

A raw that the earlier router sends the direct route has no record that makes
a cut and no Present but at its end, so its emission plan is one lease.
-/

namespace Dxmt9.CpuReady

open Fallible Queue

variable {imported : ImportedChunkView} {index : Nat} {plan : CpuReadyPlan}

variable (imported) in
/-- A record that a lease may append. -/
def LeaseRecord (index : Nat) : Prop :=
  IsIsland imported index ∨ emissionRecordRole imported index = .coordinator

variable (imported) in
/-- A raw of such records; a Present is the last of them. -/
structure LeaseRaw (present : Bool) : Prop where
  records : ∀ index < imported.records.length, LeaseRecord imported index
  last : ∀ index < imported.records.length,
    imported.recordType index = .present →
      index + 1 = imported.records.length
  tail : present = true ↔ ∃ index < imported.records.length,
    imported.recordType index = .present

theorem not_present_of_island (island : IsIsland imported index) :
    imported.recordType index ≠ .present := by
  intro present
  have coordinator : emissionRecordRole imported index = .coordinator := by
    rw [emissionRecordRole_eq, present]
  cases island with
  | inl draw => exact nomatch coordinator.symm.trans draw
  | inr state => exact nomatch coordinator.symm.trans state

variable {rule : RecordTopologyRule}

theorem recordTopology_resident {type : RecordType} (found : recordTopology type = some rule)
    (resident : rule.islandResident = true)
    (state : rule.topology ≠ .directDraw) :
    rule.topology = .directStateOnly := by
  cases type
  case other value => exact nomatch found
  all_goals
    cases found
    first
    | rfl
    | exact absurd rfl state
    | exact absurd resident (by decide)

theorem islandMembership_role :
    (islandMembership imported index = .draw →
        emissionRecordRole imported index = .islandDraw) ∧
      (islandMembership imported index = .stateOnly →
        emissionRecordRole imported index = .islandStateOnly) := by
  unfold islandMembership
  dsimp only
  split
  · exact ⟨IslandMembership.noConfusion, IslandMembership.noConfusion⟩
  rename_i agrees
  rw [Bool.not_eq_true', Bool.not_eq_false, ImportedChunkView.recordAgrees,
    Bool.and_eq_true, beq_iff_eq] at agrees
  split
  · rename_i rule topology known found
    rw [agrees.1] at found
    unfold emissionRecordRole
    rw [found]
    dsimp only
    split
    · exact ⟨IslandMembership.noConfusion, IslandMembership.noConfusion⟩
    split
    · exact ⟨IslandMembership.noConfusion, IslandMembership.noConfusion⟩
    rename_i resident
    rw [Bool.not_eq_true', Bool.not_eq_false] at resident
    split
    · rename_i state
      rw [recordTopology_resident found resident state]
      exact ⟨IslandMembership.noConfusion, fun _ => rfl⟩
    · rename_i direct
      rw [not_not.mp direct]
      split
      · exact ⟨IslandMembership.noConfusion, IslandMembership.noConfusion⟩
      · split
        · exact ⟨fun _ => rfl, IslandMembership.noConfusion⟩
        · exact ⟨IslandMembership.noConfusion, IslandMembership.noConfusion⟩
  · exact ⟨IslandMembership.noConfusion, IslandMembership.noConfusion⟩

theorem islandMember_island
    (member : islandMember imported index = true) :
    IsIsland imported index := by
  unfold islandMember at member
  rw [Bool.or_eq_true, beq_iff_eq, beq_iff_eq] at member
  cases member with
  | inl draw => exact Or.inl (islandMembership_role.1 draw)
  | inr state => exact Or.inr (islandMembership_role.2 state)

theorem coordinator_of_topology
    (found : recordTopology (imported.recordType index) = some rule)
    (topology : rule.topology = .coordinatorCommand) :
    emissionRecordRole imported index = .coordinator := by
  unfold emissionRecordRole
  rw [found]
  dsimp only
  rw [topology]

theorem classifyRecords_direct {indices : List Nat}
    (direct : (classifyRecords imported plan indices).takesDirectRoute =
      true) :
    classifyRecords imported plan indices = .direct ∧
        (∀ index ∈ indices, LeaseRecord imported index ∧
          imported.recordType index ≠ .present) ∨
      classifyRecords imported plan indices = .directWithPresentTail ∧
        directPresentTailShape imported plan = true := by
  induction indices with
  | nil => exact Or.inl ⟨rfl, fun _ member => absurd member List.not_mem_nil⟩
  | cons index rest induction =>
      have behind : LeaseRecord imported index →
          imported.recordType index ≠ .present →
          classifyRecords imported plan (index :: rest) =
            classifyRecords imported plan rest →
          classifyRecords imported plan (index :: rest) = .direct ∧
              (∀ other ∈ index :: rest, LeaseRecord imported other ∧
                imported.recordType other ≠ .present) ∨
            classifyRecords imported plan (index :: rest) =
                .directWithPresentTail ∧
              directPresentTailShape imported plan = true := by
        intro lease different same
        rw [same] at direct ⊢
        rcases induction direct with ⟨through, records⟩ | tail
        · apply Or.inl
          refine ⟨through, fun other member => ?_⟩
          cases List.mem_cons.mp member with
          | inl first => exact first ▸ ⟨lease, different⟩
          | inr later => exact records other later
        · exact Or.inr tail
      cases member : islandMembership imported index with
      | draw =>
          have island : IsIsland imported index :=
            Or.inl (islandMembership_role.1 member)
          apply behind (Or.inl island) (not_present_of_island island)
          rw [classifyRecords, member]
      | stateOnly =>
          have island : IsIsland imported index :=
            Or.inr (islandMembership_role.2 member)
          apply behind (Or.inl island) (not_present_of_island island)
          rw [classifyRecords, member]
      | malformed =>
          rw [classifyRecords, member] at direct
          exact nomatch direct
      | outside =>
          cases found : recordTopology (imported.recordType index) with
          | none =>
              rw [classifyRecords, member, found] at direct
              exact nomatch direct
          | some rule =>
              cases topology : rule.topology with
              | coordinatorCommand =>
                  have coordinator := coordinator_of_topology found topology
                  by_cases present : imported.recordType index = .present
                  · rw [classifyRecords, member, found] at direct ⊢
                    dsimp only at direct ⊢
                    rw [topology] at direct ⊢
                    dsimp only at direct ⊢
                    rw [if_pos present] at direct ⊢
                    split at direct
                    · rename_i shape
                      rw [if_pos shape]
                      exact Or.inr ⟨rfl, shape⟩
                    · exact nomatch direct
                  · apply behind (Or.inr coordinator) present
                    rw [classifyRecords, member, found]
                    dsimp only
                    rw [topology]
                    exact if_neg present
              | orderedControl | compatibilityDraw | directDraw
              | directStateOnly =>
                  rw [classifyRecords, member, found] at direct
                  dsimp only at direct
                  rw [topology] at direct
                  exact nomatch direct

theorem directPresentTailShape_raw
    (shape : directPresentTailShape imported plan = true) :
    LeaseRaw imported true := by
  unfold directPresentTailShape at shape
  dsimp only at shape
  simp only [Bool.and_eq_true, decide_eq_true_eq, beq_iff_eq,
    List.all_eq_true, List.mem_range, Bool.or_eq_true] at shape
  obtain ⟨⟨⟨⟨-, large⟩, last⟩, records⟩, -⟩ := shape
  have front : ∀ index < imported.records.length - 1,
      LeaseRecord imported index ∧
        imported.recordType index ≠ .present := by
    intro index inside
    rcases records index inside with member | ⟨-, clear⟩
    · have island := islandMember_island member
      exact ⟨Or.inl island, not_present_of_island island⟩
    · constructor
      · apply Or.inr
        rw [emissionRecordRole_eq, clear]
      · rw [clear]
        exact nofun
  have final : ∀ index < imported.records.length,
      index < imported.records.length - 1 ∨
        index = imported.records.length - 1 := by
    intro index inside
    omega
  constructor
  · intro index inside
    cases final index inside with
    | inl earlier => exact (front index earlier).1
    | inr same =>
        apply Or.inr
        rw [emissionRecordRole_eq, same, last]
  · intro index inside present
    cases final index inside with
    | inl earlier => exact absurd present (front index earlier).2
    | inr same => omega
  · exact iff_of_true rfl ⟨imported.records.length - 1, by omega, last⟩

theorem leaseRaw_of_no_present
    (records : ∀ index < imported.records.length,
      LeaseRecord imported index ∧ imported.recordType index ≠ .present) :
    LeaseRaw imported false where
  records := fun index inside => (records index inside).1
  last := fun index inside present =>
    absurd present (records index inside).2
  tail := iff_of_false nofun fun ⟨index, inside, present⟩ =>
    (records index inside).2 present

theorem classify_leaseRaw
    (direct : (classifyDirectChunkSlotReplay imported plan
      false).takesDirectRoute = true) :
    plan.lane ≠ .reject ∧
      ((classifyDirectChunkSlotReplay imported plan false =
            .directWithPresentTail ∧ LeaseRaw imported true) ∨
        ((classifyDirectChunkSlotReplay imported plan false = .direct ∨
            classifyDirectChunkSlotReplay imported plan false =
              .directOversized) ∧ LeaseRaw imported false)) := by
  unfold classifyDirectChunkSlotReplay at direct ⊢
  dsimp only at direct ⊢
  rw [if_neg (by decide)] at direct ⊢
  split at direct
  · exact nomatch direct
  rename_i accepted
  rw [if_neg accepted]
  refine ⟨accepted, ?_⟩
  split at direct
  · exact nomatch direct
  rename_i uncontrolled
  rw [if_neg uncontrolled]
  split at direct
  · rename_i oversize
    rw [if_pos oversize]
    split at direct
    · rename_i islands
      rw [if_pos islands]
      refine Or.inr ⟨Or.inr rfl, leaseRaw_of_no_present ?_⟩
      intro index inside
      have island := islandMember_island
        (List.all_eq_true.mp islands.2.1 index (List.mem_range.mpr inside))
      exact ⟨Or.inl island, not_present_of_island island⟩
    · exact nomatch direct
  rename_i fitting
  rw [if_neg fitting]
  split at direct
  · rename_i present
    rw [if_pos present]
    split at direct
    · rename_i shape
      rw [if_pos shape]
      exact Or.inl ⟨rfl, directPresentTailShape_raw shape⟩
    · exact nomatch direct
  rename_i absent
  rw [if_neg absent]
  split at direct
  · exact nomatch direct
  rename_i drawing
  rw [if_neg drawing]
  split at direct
  · exact nomatch direct
  rename_i single
  rw [if_neg single]
  split at direct
  · exact nomatch direct
  rename_i candidate
  rw [if_neg candidate]
  rcases classifyRecords_direct direct with
    ⟨through, records⟩ | ⟨tail, shape⟩
  · exact Or.inr ⟨Or.inl through, leaseRaw_of_no_present fun index inside =>
      records index (List.mem_range.mpr inside)⟩
  · exact Or.inl ⟨tail, directPresentTailShape_raw shape⟩

theorem planCpuReadyChunk_accepted {sizes : PayloadSizes} {reserved : Bool}
    {rawOrdinal : Nat} {options : CpuReadyPlanOptions}
    (accepted : (planCpuReadyChunk sizes imported reserved rawOrdinal
      options).lane ≠ .reject) : rawOrdinal ≠ 0 ∧ options.pageSize ≠ 0 := by
  unfold planCpuReadyChunk at accepted
  split at accepted
  · exact absurd rfl accepted
  · rename_i served
    constructor
    · intro zero
      apply served
      unfold planRefused
      rw [zero]
      rfl
    · intro zero
      apply served
      unfold planRefused
      rw [zero]
      simp

section

variable {sizes : PayloadSizes} {pageSize rawOrdinal : Nat}
  {storage : EmissionStorage imported.records.length} {present : Bool}

theorem LeaseRaw.not_compatibilityOwned (raw : LeaseRaw imported present)
    (inside : index < imported.records.length) :
    ¬CompatibilityOwned (emissionRecordRole imported)
      imported.records.length index := by
  have plain : ∀ other < imported.records.length,
      emissionRecordRole imported other ≠ .compatibilityDraw := by
    intro other within draw
    rcases raw.records other within with island | command
    · exact island.not_compatibilityDraw draw
    · exact nomatch command.symm.trans draw
  rintro (draw | ⟨first, stop, run, drawless, from_, before, ends, draw⟩)
  · exact plain index inside draw
  · exact plain stop ends draw

variable {segments : List EmissionSegment} {segment : EmissionSegment}

theorem SegmentsSettled.first_inside
    (settled : Settles imported imported.records.length segments)
    (member : segment ∈ segments) :
    segment.firstRecordIndex < imported.records.length ∧
      segment.Holds segment.firstRecordIndex := by
  have positive := settled.partition.nonempty member
  have bound := settled.partition.le member
  refine ⟨?_, Nat.le_refl _, ?_⟩
  · omega
  · omega

/-- Such a raw has only segments that one lease may own. -/
theorem LeaseRaw.uncut (raw : LeaseRaw imported present)
    (settled : Settles imported imported.records.length segments)
    (member : segment ∈ segments) : ¬segment.Cuts := by
  obtain ⟨inside, holds⟩ := settled.first_inside member
  rintro (control | range)
  · cases settled.contents segment member with
    | orderedControl _ single located typed counted =>
        rcases raw.records _ inside with (draw | state) | command
        · exact nomatch located.symm.trans draw
        · exact nomatch located.symm.trans state
        · exact nomatch located.symm.trans command
    | island other => exact nomatch control.symm.trans other
    | stateRun other => exact nomatch control.symm.trans other
    | coordinator other => exact nomatch control.symm.trans other
    | compatibility other => exact nomatch control.symm.trans other
  · cases settled.contents segment member with
    | compatibility _ owned counted =>
        exact raw.not_compatibilityOwned inside (owned _ holds)
    | island other => exact nomatch range.symm.trans other
    | stateRun other => exact nomatch range.symm.trans other
    | coordinator other => exact nomatch range.symm.trans other
    | orderedControl other => exact nomatch range.symm.trans other

theorem SegmentsSettled.locatesPresent_iff
    (settled : Settles imported imported.records.length segments) :
    (∃ segment ∈ segments, segment.locatesPresent = true) ↔
      ∃ index < imported.records.length,
        imported.recordType index = .present := by
  constructor
  · rintro ⟨segment, member, located⟩
    unfold EmissionSegment.locatesPresent at located
    rw [Bool.and_eq_true, beq_iff_eq, beq_iff_eq] at located
    refine ⟨segment.firstRecordIndex, (settled.first_inside member).1, ?_⟩
    cases settled.contents segment member with
    | coordinator _ single at_ typed counted =>
        exact typed.symm.trans located.2
    | island other => exact nomatch located.1.symm.trans other
    | stateRun other => exact nomatch located.1.symm.trans other
    | orderedControl other => exact nomatch located.1.symm.trans other
    | compatibility other => exact nomatch located.1.symm.trans other
  · rintro ⟨index, inside, present⟩
    have coordinator : emissionRecordRole imported index = .coordinator := by
      rw [emissionRecordRole_eq, present]
    obtain ⟨segment, member, holds⟩ := settled.partition.exists_within inside
    obtain ⟨kind, -, -, typed⟩ :=
      (settled.contents segment member).locator_of_coordinator holds
        coordinator
    refine ⟨segment, member, ?_⟩
    unfold EmissionSegment.locatesPresent
    rw [kind, typed, present]
    rfl

section

variable (raw : LeaseRaw imported present) (valid : StructurallyValid imported)
  (drawn : ∃ index < imported.records.length, emissionRecordRole imported index
    = .islandDraw)
include raw valid drawn

/-- The verdict on the plan of such a raw is a lease, or an error. -/
theorem LeaseRaw.completes {reserved : Bool}
    {pass : EmissionPass} {plan : ReplayEmissionPlan}
    (settled : PassSettled imported imported.records.length pass)
    (counts : SegmentCounts pass.plan)
    (completed : completeEmissionPlan sizes reserved imported pageSize pass =
      .ok plan) :
    plan.partitioned = true ∧ plan.leaseBlock = .none ∧
      plan.containsPresent = present := by
  unfold completeEmissionPlan at completed
  split at completed
  · exact nomatch completed
  split at completed
  · exact nomatch completed
  rename_i spans derived
  have partition := deriveEmissionLeaseSpans_outcome sizes pageSize valid
    settled.settled reserved
  rw [derived] at partition
  have ordered : presentsOutOfOrder spans = false :=
    settled.settled.presentsInOrder valid raw.last partition.finished
      (deriveEmissionLeaseSpans_marks derived)
  have controls : pass.plan.orderedControlCount = 0 := by
    by_contra counted
    obtain ⟨segment, member, kind⟩ := counts.controls counted
    exact raw.uncut settled.settled member (Or.inl kind)
  have compatibility : pass.plan.compatibilityRecordCount = 0 := by
    by_contra counted
    obtain ⟨segment, member, kind⟩ := counts.compatibility counted
    exact raw.uncut settled.settled member (Or.inr kind)
  obtain ⟨index, inside, draw⟩ := drawn
  obtain ⟨island, member, holds⟩ :=
    settled.settled.partition.exists_within inside
  obtain ⟨kind, counted⟩ :=
    (settled.settled.contents island member).island_of_draw holds draw
  have islands : pass.plan.islandCount ≠ 0 :=
    fun none => counts.islands none island member kind
  have draws : pass.aggregateDrawCount ≠ 0 := by
    rw [settled.totals.draws]
    have some_ := sum_ne_zero_iff.mpr ⟨island, member, counted⟩
    omega
  have presents : pass.plan.containsPresent = present := by
    apply Bool.eq_iff_iff.mpr
    rw [counts.presents, raw.tail]
    exact settled.settled.locatesPresent_iff
  unfold decideLeaseBlock at completed
  rw [ordered, if_neg (by decide), if_neg (not_not.mpr controls),
    if_neg (not_not.mpr compatibility),
    if_neg (not_or.mpr ⟨islands, draws⟩)] at completed
  unfold leaseWholeRaw at completed
  split at completed
  · exact nomatch completed
  split at completed
  · exact nomatch completed
  split at completed
  · exact nomatch completed
  dsimp only at completed
  split at completed
  · exact nomatch completed
  rw [← Except.ok.inj completed]
  exact ⟨rfl, rfl, presents⟩

/-- The emission plan of such a raw, unless it is rejected. -/
theorem LeaseRaw.planned
    (ordinal : rawOrdinal ≠ 0) (paged : pageSize ≠ 0)
    (fits : (planReplayEmission sizes imported storage rawOrdinal
        pageSize).reason ≠ .overflow ∧
      (planReplayEmission sizes imported storage rawOrdinal
        pageSize).reason ≠ .capacity ∧
      (planReplayEmission sizes imported storage rawOrdinal
        pageSize).reason ≠ .storage) :
    (planReplayEmission sizes imported storage rawOrdinal
        pageSize).partitioned = true ∧
      (planReplayEmission sizes imported storage rawOrdinal
        pageSize).leaseBlock = .none ∧
      (planReplayEmission sizes imported storage rawOrdinal
        pageSize).containsPresent = present := by
  have exact_ := planReplayEmission_exact sizes storage rawOrdinal pageSize
    valid
  have complete : (planReplayEmission sizes imported storage rawOrdinal
      pageSize).reason = .complete := by
    rcases exact_ with ⟨-, zero⟩ | stopped | complete
    · exact absurd zero (not_or.mpr ⟨ordinal, paged⟩)
    · rcases stopped with overflow | capacity | storage
      · exact absurd overflow fits.1
      · exact absurd capacity fits.2.1
      · exact absurd storage fits.2.2
    · exact complete.1
  unfold planReplayEmission at complete ⊢
  split at complete
  · exact nomatch complete
  rename_i wellFormed
  rw [if_neg wellFormed]
  split at complete
  · exact nomatch complete
  rename_i room reserved
  have passed := emissionSegments_outcome sizes valid
    (storage.enough room reserved) rawOrdinal
  split at complete
  · rename_i reason stopped
    rw [stopped] at passed
    exact nomatch passed.symm.trans complete
  rename_i pass reached
  rw [reached] at passed
  split at complete
  · rename_i reason stopped
    have completed := completeEmissionPlan_outcome sizes pageSize valid
      passed storage.leaseSpansReserved
    rw [stopped] at completed
    have same : reason = .complete := complete
    rcases completed with overflow | capacity | storage
    · exact nomatch overflow.symm.trans same
    · exact nomatch capacity.symm.trans same
    · exact nomatch storage.symm.trans same
  · rename_i plan completed
    exact raw.completes valid drawn passed
      (emissionSegments_counts reached) completed

end

end

/-- What a router keeps of the decisions of the one before it. -/
structure RouterRefines (legacy : DirectChunkSlotReplayDisposition)
    (emission : ReplayEmissionPlan) : Prop where
  direct : legacy = .direct ∨ legacy = .directOversized →
    emissionPlanDisposition emission false = .direct
  presentTail : legacy = .directWithPresentTail →
    emissionPlanDisposition emission false = .directWithPresentTail
  blocked : emission.leaseBlock = .presentOrdering ∨
      emission.leaseBlock = .orderedControl ∨
      emission.leaseBlock = .compatibilityRange →
    legacy.takesDirectRoute = false

/-- Over every structurally valid raw with an island draw, whatever the
options of the two planners, an emission plan that is not out of room routes
as the earlier router does wherever that one goes the direct route.  The page
sizes of the planners may differ, if only both are there. -/
theorem emissionRouter_refines (sizes : PayloadSizes)
    (storage : EmissionStorage imported.records.length) (reserved : Bool)
    (rawOrdinal pageSize : Nat) (options : CpuReadyPlanOptions)
    (valid : StructurallyValid imported)
    (drawn : ∃ index < imported.records.length,
      emissionRecordRole imported index = .islandDraw)
    (paged : pageSize = 0 → options.pageSize = 0)
    (fits : (planReplayEmission sizes imported storage rawOrdinal
        pageSize).reason ≠ .overflow ∧
      (planReplayEmission sizes imported storage rawOrdinal
        pageSize).reason ≠ .capacity ∧
      (planReplayEmission sizes imported storage rawOrdinal
        pageSize).reason ≠ .storage) :
    RouterRefines
      (classifyDirectChunkSlotReplay imported
        (planCpuReadyChunk sizes imported reserved rawOrdinal options) false)
      (planReplayEmission sizes imported storage rawOrdinal pageSize) := by
  generalize routed : classifyDirectChunkSlotReplay imported
    (planCpuReadyChunk sizes imported reserved rawOrdinal options) false =
      legacy
  have leased : ∀ {present : Bool}, LeaseRaw imported present →
      (planCpuReadyChunk sizes imported reserved rawOrdinal
        options).lane ≠ .reject →
      (planReplayEmission sizes imported storage rawOrdinal
          pageSize).leaseBlock = .none ∧
        emissionPlanDisposition (planReplayEmission sizes imported storage
          rawOrdinal pageSize) false =
            if present then .directWithPresentTail else .direct := by
    intro present raw accepted
    obtain ⟨ordinal, page⟩ := planCpuReadyChunk_accepted accepted
    obtain ⟨partitioned, unblocked, presents⟩ :=
      raw.planned valid drawn ordinal (fun none => page (paged none)) fits
    refine ⟨unblocked, ?_⟩
    unfold emissionPlanDisposition
    rw [if_neg (by decide), partitioned, if_neg (by decide), unblocked,
      presents]
  have cases_ : legacy.takesDirectRoute = true →
      (planReplayEmission sizes imported storage rawOrdinal
          pageSize).leaseBlock = .none ∧
        emissionPlanDisposition (planReplayEmission sizes imported storage
          rawOrdinal pageSize) false =
            if legacy = .directWithPresentTail then .directWithPresentTail
            else .direct := by
    intro direct
    rw [← routed] at direct
    obtain ⟨accepted, records⟩ := classify_leaseRaw direct
    rw [routed] at records
    rcases records with ⟨tail, raw⟩ | ⟨whole, raw⟩
    · rw [if_pos tail]
      exact leased raw accepted
    · have different : legacy ≠ .directWithPresentTail := by
        rcases whole with whole | whole
        all_goals
          rw [whole]
          exact nofun
      rw [if_neg different]
      exact leased raw accepted
  constructor
  · rintro (whole | whole)
    all_goals
      subst whole
      exact (cases_ rfl).2
  · rintro rfl
    exact (cases_ rfl).2
  · intro blocked
    by_contra direct
    rw [Bool.not_eq_false] at direct
    have unblocked := (cases_ direct).1
    rcases blocked with blocked | blocked | blocked
    all_goals exact nomatch unblocked.symm.trans blocked

/-- A draw with a Present behind it. -/
def drawPresent : ImportedChunkView where
  recordCount := 2
  records :=
    [{ type := .drawPrimitive, payloadOffset := 0, payloadSize := 56 },
      { type := .present, payloadOffset := 56, payloadSize := 56 }]
  handleCount := 0
  payloadArena := (List.replicate 112 0).set 4 4
  payloadArenaAddress := 4096

theorem drawPresent_valid : StructurallyValid drawPresent where
  counted := rfl
  agrees := by decide +kernel
  fixedPayload := by
    intro index inside
    match index, inside with
    | 0, _ => exact ⟨_, rfl, by decide +kernel⟩
    | 1, _ => exact ⟨_, rfl, by decide +kernel⟩
  primitive := by decide +kernel

theorem emissionRouter_refines_drawPresent :
    emissionPlanDisposition (planReplayEmission plainSizes drawPresent
      ⟨some 2, by decide, true⟩ 1 4096) false = .directWithPresentTail :=
  (emissionRouter_refines plainSizes ⟨some 2, by decide, true⟩ true 1 4096 {}
    drawPresent_valid ⟨0, by decide, by decide +kernel⟩ nofun
    (by decide +kernel)).presentTail (by decide +kernel)

end Dxmt9.CpuReady
