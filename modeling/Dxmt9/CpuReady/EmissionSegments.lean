import Dxmt9.CpuReady.EmissionPlan
import Dxmt9.Queue.Partition
import Dxmt9.Transition.Run

/-!
# What the segments of an emission plan are

A segment described by the roles of its records alone: islands and state runs
are maximal runs of island records, and a state run without a draw belongs to
the compatibility draw it leads into.
-/

namespace Dxmt9.CpuReady

open Queue Transition

variable (role : Nat → EmissionRecordRole) (type : Nat → RecordType)
  (size : Nat)

/-- A record that an island may hold. -/
def IslandRecord (index : Nat) : Prop :=
  role index = .islandDraw ∨ role index = .islandStateOnly

/-- A maximal run of island records. -/
structure IslandRun (first stop : Nat) : Prop where
  nonempty : first < stop
  bounded : stop ≤ size
  island : ∀ index, first ≤ index → index < stop → IslandRecord role index
  opens : ∀ index, index + 1 = first → ¬IslandRecord role index
  closes : stop < size → ¬IslandRecord role stop

/-- Some record of a range is an island draw. -/
def HasDraw (first stop : Nat) : Prop :=
  ∃ index, first ≤ index ∧ index < stop ∧ role index = .islandDraw

/-- A record of a run without a draw that a compatibility draw ends. -/
def LeadsIntoCompatibility (index : Nat) : Prop :=
  ∃ first stop, IslandRun role size first stop ∧ ¬HasDraw role first stop ∧
    first ≤ index ∧ index < stop ∧ stop < size ∧
    role stop = .compatibilityDraw

/-- The records that compatibility ranges consist of. -/
def CompatibilityOwned (index : Nat) : Prop :=
  role index = .compatibilityDraw ∨ LeadsIntoCompatibility role size index

abbrev EmissionSegment.stop (segment : EmissionSegment) : Nat :=
  segment.firstRecordIndex + segment.recordCount

abbrev EmissionSegment.Holds (segment : EmissionSegment) (index : Nat) :
    Prop :=
  Within EmissionSegment.firstRecordIndex EmissionSegment.recordCount segment
    index

abbrev SegmentsPartition (segments : List EmissionSegment) (size : Nat) :
    Prop :=
  Partitions EmissionSegment.firstRecordIndex EmissionSegment.recordCount
    segments size

/-- What a segment holds, by its kind. -/
inductive SegmentContents (segment : EmissionSegment) : Prop where
  | island (kind : segment.kind = .directIsland)
      (run : IslandRun role size segment.firstRecordIndex segment.stop)
      (draw : HasDraw role segment.firstRecordIndex segment.stop)
      (counted : segment.drawCount ≠ 0)
      (few : segment.drawCount ≤ segment.recordCount)
  | stateRun (kind : segment.kind = .stateOnlyRun)
      (run : IslandRun role size segment.firstRecordIndex segment.stop)
      (drawless : ¬HasDraw role segment.firstRecordIndex segment.stop)
      (free : segment.stop < size →
        role segment.stop ≠ .compatibilityDraw)
      (counted : segment.drawCount = 0)
  | coordinator (kind : segment.kind = .coordinatorLocator)
      (single : segment.recordCount = 1)
      (located : role segment.firstRecordIndex = .coordinator)
      (typed : segment.locatorRecordType = type segment.firstRecordIndex)
      (counted : segment.drawCount = 0)
  | orderedControl (kind : segment.kind = .orderedControlLocator)
      (single : segment.recordCount = 1)
      (located : role segment.firstRecordIndex = .orderedControl)
      (typed : segment.locatorRecordType = type segment.firstRecordIndex)
      (counted : segment.drawCount = 0)
  | compatibility (kind : segment.kind = .compatibilityRange)
      (owned : ∀ index, segment.Holds index →
        CompatibilityOwned role size index)
      (counted : segment.drawCount = 0)

variable {role type size} {segments : List EmissionSegment}
  {segment : EmissionSegment} {first stop other last index : Nat}

section

variable (run : IslandRun role size first stop)
  (run' : IslandRun role size other last)
include run run'

section

variable (before : index < stop) (inside' : other ≤ index)
include before inside'

theorem IslandRun.first_le : other ≤ first := by
  by_contra later
  have reached : first < other := Nat.not_le.mp later
  exact run'.opens (other - 1) (by omega)
    (run.island (other - 1) (by omega) (by omega))

theorem IslandRun.le_stop : last ≤ stop := by
  by_contra longer
  have shorter : stop < last := Nat.not_le.mp longer
  exact run.closes (Nat.lt_of_lt_of_le shorter run'.bounded)
    (run'.island stop (by omega) shorter)

end

/-- Two maximal runs that share a record are one. -/
theorem IslandRun.unique
    (inside : first ≤ index ∧ index < stop)
    (inside' : other ≤ index ∧ index < last) :
    first = other ∧ stop = last := by
  constructor
  · exact Nat.le_antisymm (run'.first_le run inside'.2 inside.1)
      (run.first_le run' inside.2 inside'.1)
  · exact Nat.le_antisymm (run'.le_stop run inside'.2 inside.1)
      (run.le_stop run' inside.2 inside'.1)

end

theorem IslandRecord.not_compatibilityDraw
    (island : IslandRecord role index) :
    role index ≠ .compatibilityDraw := by
  intro same
  cases island with
  | inl draw => exact nomatch draw.symm.trans same
  | inr state => exact nomatch state.symm.trans same

theorem CompatibilityOwned.island_of_ne
    (owned : CompatibilityOwned role size index)
    (different : role index ≠ .compatibilityDraw) :
    IslandRecord role index ∧ LeadsIntoCompatibility role size index := by
  cases owned with
  | inl draw => exact absurd draw different
  | inr leads =>
      obtain ⟨first, stop, run, drawless, inside, before, ends⟩ := leads
      exact ⟨run.island index inside before,
        first, stop, run, drawless, inside, before, ends⟩

theorem IslandRun.not_owned (run : IslandRun role size first stop)
    (free : HasDraw role first stop ∨
      (stop < size → role stop ≠ .compatibilityDraw))
    (inside : first ≤ index) (before : index < stop) :
    ¬CompatibilityOwned role size index := by
  intro owned
  have island := run.island index inside before
  obtain ⟨-, other, last, run', drawless, inside', before', ends, draws⟩ :=
    owned.island_of_ne island.not_compatibilityDraw
  obtain ⟨rfl, rfl⟩ := run.unique run' ⟨inside, before⟩ ⟨inside', before'⟩
  cases free with
  | inl draw => exact drawless draw
  | inr plain => exact plain ends draws

theorem not_owned_of_role (located : role index = .coordinator ∨
    role index = .orderedControl) :
    ¬CompatibilityOwned role size index := by
  intro owned
  have different : role index ≠ .compatibilityDraw := by
    intro same
    cases located with
    | inl coordinator => exact nomatch coordinator.symm.trans same
    | inr control => exact nomatch control.symm.trans same
  cases (owned.island_of_ne different).1 with
  | inl draw =>
      cases located with
      | inl coordinator => exact nomatch coordinator.symm.trans draw
      | inr control => exact nomatch control.symm.trans draw
  | inr state =>
      cases located with
      | inl coordinator => exact nomatch coordinator.symm.trans state
      | inr control => exact nomatch control.symm.trans state

theorem SegmentContents.not_owned
    (contents : SegmentContents role type size segment)
    (different : segment.kind ≠ .compatibilityRange)
    (holds : segment.Holds index) : ¬CompatibilityOwned role size index := by
  cases contents with
  | island kind run draw counted few =>
      exact run.not_owned (Or.inl draw) holds.1 holds.2
  | stateRun kind run drawless free counted =>
      exact run.not_owned (Or.inr free) holds.1 holds.2
  | coordinator kind single located typed counted =>
      have same : index = segment.firstRecordIndex := by
        have within := holds.2
        have begins := holds.1
        omega
      rw [same]
      exact not_owned_of_role (Or.inl located)
  | orderedControl kind single located typed counted =>
      have same : index = segment.firstRecordIndex := by
        have within := holds.2
        have begins := holds.1
        omega
      rw [same]
      exact not_owned_of_role (Or.inr located)
  | compatibility kind owned counted => exact absurd kind different

variable (role type size)

/-- No two compatibility ranges stand side by side. -/
def Separated (earlier later : EmissionSegment) : Prop :=
  ¬(earlier.kind = .compatibilityRange ∧ later.kind = .compatibilityRange)

/-- Segments that settle the records up to an index. -/
structure SegmentsSettled (settled : Nat) (segments : List EmissionSegment) :
    Prop where
  partition : SegmentsPartition segments settled
  contents : ∀ segment ∈ segments, SegmentContents role type size segment
  separated : segments.IsChain Separated

variable {role type size} {settled : Nat}

theorem segmentsSettled_nil : SegmentsSettled role type size 0 [] where
  partition := partitions_nil
  contents := by
    intro segment member
    exact absurd member List.not_mem_nil
  separated := List.IsChain.nil

variable (segment) in
/-- A further segment, which is no second compatibility range. -/
theorem SegmentsSettled.push
    (before : SegmentsSettled role type size settled segments)
    (begins : segment.firstRecordIndex = settled)
    (nonempty : 0 < segment.recordCount)
    (contents : SegmentContents role type size segment)
    (separated : ∀ previous, segments.getLast? = some previous →
      Separated previous segment) :
    SegmentsSettled role type size (settled + segment.recordCount)
      (segments ++ [segment]) where
  partition := by
    apply partitions_append_singleton.mpr
    rw [begins]
    exact ⟨before.partition, nonempty, rfl⟩
  contents := by
    intro found member
    cases List.mem_append.mp member with
    | inl earlier => exact before.contents found earlier
    | inr new => exact List.mem_singleton.mp new ▸ contents
  separated := isChain_snoc before.separated separated

theorem SegmentsSettled.extend {front : List EmissionSegment}
    {previous : EmissionSegment} (more : Nat)
    (before : SegmentsSettled role type size settled (front ++ [previous]))
    (kind : previous.kind = .compatibilityRange)
    (owned : ∀ index, settled ≤ index → index < settled + more →
      CompatibilityOwned role size index) :
    SegmentsSettled role type size (settled + more)
      (front ++
        [{ previous with recordCount := previous.recordCount + more }]) := by
  obtain ⟨earlier, nonempty, ends⟩ :=
    partitions_append_singleton.mp before.partition
  refine ⟨partitions_append_singleton.mpr ⟨earlier, ?_, ?_⟩, ?_, ?_⟩
  · exact Nat.add_pos_left nonempty more
  · change previous.firstRecordIndex + (previous.recordCount + more) = _
    omega
  · intro found member
    cases List.mem_append.mp member with
    | inl old => exact before.contents found (List.mem_append_left _ old)
    | inr new =>
        rw [List.mem_singleton] at new
        subst new
        cases before.contents previous
          (List.mem_append_right _ (List.mem_singleton_self previous)) with
        | compatibility same held counted =>
            refine .compatibility kind ?_ counted
            intro index holds
            by_cases old : index < previous.stop
            · exact held index ⟨holds.1, old⟩
            · have upper : index < previous.firstRecordIndex +
                (previous.recordCount + more) := holds.2
              have lower : previous.firstRecordIndex +
                previous.recordCount ≤ index := Nat.not_lt.mp old
              exact owned index (by omega) (by omega)
        | island other => exact nomatch kind.symm.trans other
        | stateRun other => exact nomatch kind.symm.trans other
        | coordinator other => exact nomatch kind.symm.trans other
        | orderedControl other => exact nomatch kind.symm.trans other
  · have chain := List.isChain_append.mp before.separated
    apply List.isChain_append.mpr
    refine ⟨chain.1, List.isChain_singleton _, ?_⟩
    intro last isLast new isNew
    rw [List.head?_cons, Option.mem_some_iff] at isNew
    subst isNew
    intro both
    exact chain.2.2 last isLast previous (by simp) ⟨both.1, kind⟩

end Dxmt9.CpuReady
