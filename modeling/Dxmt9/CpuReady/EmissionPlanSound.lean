import Dxmt9.CpuReady.EmissionSteps
import Dxmt9.CpuReady.LeaseSpansSound

/-!
# The emission plan is a total exact partition

The coverage folds always succeed on what the two passes build, the header
count always agrees, and a plan that is complete partitions the records twice,
into segments and into lease spans.
-/

namespace Dxmt9.CpuReady

open Fallible Queue

variable {imported : ImportedChunkView}

variable {size : Nat}

theorem coveredBySegments_eq {segments : List EmissionSegment}
    {start : Nat}
    (laid : LaidOut EmissionSegment.recordCount
      (fun position segment => segment.firstRecordIndex = position ∧
        0 < segment.recordCount) start segments)
    (fits : start + totalRecords segments ≤ size) :
    coveredBySegments size start segments =
      some (start + totalRecords segments) := by
  induction segments generalizing start with
  | nil => rfl
  | cons head tail induction =>
      obtain ⟨⟨begins, nonempty⟩, behind⟩ := laid
      rw [totalRecords_cons] at fits ⊢
      unfold coveredBySegments
      rw [if_neg (by omega), induction behind (by omega), Nat.add_assoc]

variable {spans : List EmissionLeaseSpan}

theorem coveredBySpans_eq
    {records segments : Nat}
    (overRecords : LaidOut EmissionLeaseSpan.recordCount
      (fun position span => span.firstRecordIndex = position ∧
        0 < span.recordCount) records spans)
    (overSegments : LaidOut EmissionLeaseSpan.segmentCount
      (fun position span => span.firstSegmentIndex = position ∧
        0 < span.segmentCount) segments spans) :
    coveredBySpans (records, segments) spans =
      some (records + totalExtent EmissionLeaseSpan.recordCount spans,
        segments + totalExtent EmissionLeaseSpan.segmentCount spans) := by
  induction spans generalizing records segments with
  | nil => rfl
  | cons head tail induction =>
      obtain ⟨⟨begins, nonempty⟩, behind⟩ := overRecords
      obtain ⟨⟨begins', nonempty'⟩, behind'⟩ := overSegments
      unfold coveredBySpans
      rw [if_neg (by omega), induction behind behind', totalExtent_cons,
        totalExtent_cons, Nat.add_assoc, Nat.add_assoc]

/-- A span without the numbers that are given at the end. -/
def EmissionLeaseSpan.core (span : EmissionLeaseSpan) : EmissionLeaseSpan :=
  { span with
    leaseOrdinal := 0
    finalLeaseSpan := false }

theorem assignLeaseOrdinals_core (ordinal : Nat)
    (spans : List EmissionLeaseSpan) :
    (assignLeaseOrdinals ordinal spans).map EmissionLeaseSpan.core =
      spans.map EmissionLeaseSpan.core := by
  induction spans generalizing ordinal with
  | nil => rfl
  | cons head tail induction =>
      unfold assignLeaseOrdinals
      split
      · rw [List.map_cons, List.map_cons, induction]
        rfl
      · rw [List.map_cons, List.map_cons, induction]

theorem markFinalLeaseSpan_core (spans : List EmissionLeaseSpan) :
    (markFinalLeaseSpan spans).map EmissionLeaseSpan.core =
      spans.map EmissionLeaseSpan.core := by
  induction spans with
  | nil => rfl
  | cons head tail induction =>
      unfold markFinalLeaseSpan
      split
      · rfl
      · rw [List.map_cons, List.map_cons, induction]

/-- The lease ordinals in order. -/
def leaseOrdinals (spans : List EmissionLeaseSpan) : List Nat :=
  (spans.filter EmissionLeaseSpan.ownsLease).map
    EmissionLeaseSpan.leaseOrdinal

theorem leaseOrdinals_markFinal (spans : List EmissionLeaseSpan) :
    leaseOrdinals (markFinalLeaseSpan spans) = leaseOrdinals spans := by
  unfold leaseOrdinals
  induction spans with
  | nil => rfl
  | cons head tail induction =>
      unfold markFinalLeaseSpan
      cases owns : head.ownsLease with
      | false =>
          rw [Bool.false_and, if_neg (by decide), List.filter_cons,
            List.filter_cons, owns, if_neg (by decide), if_neg (by decide),
            induction]
      | true =>
          split
          · rw [List.filter_cons, List.filter_cons]
            dsimp only
            rw [owns, if_pos rfl, if_pos rfl]
            rfl
          · rw [List.filter_cons, List.filter_cons, owns, if_pos rfl,
              if_pos rfl, List.map_cons, List.map_cons, induction]

theorem leaseOrdinals_assign {ordinal : Nat}
    (small : ordinal + spans.length < 2 ^ 32) :
    leaseOrdinals (assignLeaseOrdinals ordinal spans) =
      List.range' ordinal
        (spans.filter EmissionLeaseSpan.ownsLease).length := by
  unfold leaseOrdinals
  induction spans generalizing ordinal with
  | nil => rfl
  | cons head tail induction =>
      rw [List.length_cons] at small
      unfold assignLeaseOrdinals
      cases owns : head.ownsLease with
      | false =>
          rw [if_neg (by decide), List.filter_cons, List.filter_cons, owns,
            if_neg (by decide), if_neg (by decide)]
          exact induction (by omega)
      | true =>
          rw [if_pos rfl, List.filter_cons, List.filter_cons]
          dsimp only
          rw [owns, if_pos rfl, if_pos rfl, List.map_cons, List.length_cons,
            castU32_of_lt (by omega), induction (by omega)]
          rfl

theorem length_filter_ownsLease_of_core {left right : List EmissionLeaseSpan}
    (same : left.map EmissionLeaseSpan.core =
      right.map EmissionLeaseSpan.core) :
    (left.filter EmissionLeaseSpan.ownsLease).length =
      (right.filter EmissionLeaseSpan.ownsLease).length := by
  rw [← List.countP_eq_length_filter, ← List.countP_eq_length_filter]
  have counted := congrArg (List.countP EmissionLeaseSpan.ownsLease) same
  rw [List.countP_map, List.countP_map] at counted
  exact counted

variable {segment : EmissionSegment} {index : Nat}

variable {role : Nat → EmissionRecordRole} {type : Nat → RecordType}

section

variable (contents : SegmentContents role type size segment)
include contents

theorem SegmentContents.island_of_draw
    (holds : segment.Holds index) (draw : role index = .islandDraw) :
    segment.kind = .directIsland ∧ segment.drawCount ≠ 0 := by
  have single : segment.recordCount = 1 →
      index = segment.firstRecordIndex := by
    intro one
    have within := holds.2
    have begins := holds.1
    omega
  cases contents with
  | island kind run drawn counted few => exact ⟨kind, counted⟩
  | stateRun kind run drawless free counted =>
      exact absurd ⟨index, holds.1, holds.2, draw⟩ drawless
  | coordinator kind one located typed counted =>
      rw [single one] at draw
      exact nomatch located.symm.trans draw
  | orderedControl kind one located typed counted =>
      rw [single one] at draw
      exact nomatch located.symm.trans draw
  | compatibility kind owned counted =>
      cases owned index holds with
      | inl compatibility => exact nomatch compatibility.symm.trans draw
      | inr leads =>
          obtain ⟨first, stop, run, drawless, from_, before, -⟩ := leads
          exact absurd ⟨index, from_, before, draw⟩ drawless

theorem SegmentContents.hasDraw
    (drawn : segment.drawCount ≠ 0) :
    HasDraw role segment.firstRecordIndex segment.stop := by
  cases contents with
  | island kind run draw counted few => exact draw
  | stateRun kind run drawless free counted => exact absurd counted drawn
  | coordinator kind one located typed counted => exact absurd counted drawn
  | orderedControl kind one located typed counted =>
      exact absurd counted drawn
  | compatibility kind owned counted => exact absurd counted drawn

theorem SegmentContents.locator_of_coordinator
    (holds : segment.Holds index) (located : role index = .coordinator) :
    segment.kind = .coordinatorLocator ∧ index = segment.firstRecordIndex ∧
      segment.recordCount = 1 ∧ segment.locatorRecordType = type index := by
  have single : segment.recordCount = 1 →
      index = segment.firstRecordIndex := by
    intro one
    have within := holds.2
    have begins := holds.1
    omega
  have outside : ¬IslandRecord role index := by
    intro island
    cases island with
    | inl draw => exact nomatch located.symm.trans draw
    | inr state => exact nomatch located.symm.trans state
  cases contents with
  | island kind run drawn counted few =>
      exact absurd (run.island index holds.1 holds.2) outside
  | stateRun kind run drawless free counted =>
      exact absurd (run.island index holds.1 holds.2) outside
  | coordinator kind one at_ typed counted =>
      exact ⟨kind, single one, one, single one ▸ typed⟩
  | orderedControl kind one control typed counted =>
      rw [single one, control] at located
      exact nomatch located
  | compatibility kind owned counted =>
      exact absurd (Or.inl located) (fun plain =>
        not_owned_of_role plain (owned index holds))

end

variable (imported) in
/-- The segments of a complete plan. -/
structure EmissionPartition (segments : List EmissionSegment) : Prop where
  partition : SegmentsPartition segments imported.records.length
  islands : ∀ segment ∈ segments, segment.kind = .directIsland →
    IslandRun (emissionRecordRole imported) imported.records.length
        segment.firstRecordIndex segment.stop ∧
      HasDraw (emissionRecordRole imported) segment.firstRecordIndex
        segment.stop
  stateRuns : ∀ segment ∈ segments, segment.kind = .stateOnlyRun →
    IslandRun (emissionRecordRole imported) imported.records.length
        segment.firstRecordIndex segment.stop ∧
      ¬HasDraw (emissionRecordRole imported) segment.firstRecordIndex
        segment.stop
  coordinators : ∀ segment ∈ segments, segment.kind = .coordinatorLocator →
    segment.recordCount = 1 ∧
      emissionRecordRole imported segment.firstRecordIndex = .coordinator ∧
      segment.locatorRecordType =
        imported.recordType segment.firstRecordIndex
  controls : ∀ segment ∈ segments, segment.kind = .orderedControlLocator →
    segment.recordCount = 1 ∧
      emissionRecordRole imported segment.firstRecordIndex =
        .orderedControl ∧
      segment.locatorRecordType =
        imported.recordType segment.firstRecordIndex
  ranges : ∀ segment ∈ segments, segment.kind = .compatibilityRange →
    (∀ index, segment.Holds index →
        CompatibilityOwned (emissionRecordRole imported)
          imported.records.length index) ∧
      (∀ index, index + 1 = segment.firstRecordIndex →
        ¬CompatibilityOwned (emissionRecordRole imported)
          imported.records.length index) ∧
      (segment.stop < imported.records.length →
        ¬CompatibilityOwned (emissionRecordRole imported)
          imported.records.length segment.stop)
  owned : ∀ index < imported.records.length,
    CompatibilityOwned (emissionRecordRole imported) imported.records.length
        index →
      ∃ segment ∈ segments, segment.kind = .compatibilityRange ∧
        segment.Holds index

theorem SegmentsSettled.not_owned_stop {segments : List EmissionSegment}
    (settled : Settles imported imported.records.length segments)
    (member : segment ∈ segments) (kind : segment.kind = .compatibilityRange)
    (inside : segment.stop < imported.records.length) :
    ¬CompatibilityOwned (emissionRecordRole imported)
      imported.records.length segment.stop := by
  obtain ⟨front, back, rfl⟩ := List.append_of_mem member
  cases back with
  | nil => exact absurd settled.partition.last (Nat.ne_of_lt inside)
  | cons next rest =>
      have follows := settled.partition.next
      have apart := (List.isChain_append_cons_cons.mp settled.separated).2.1
      have nextMember : next ∈ front ++ segment :: next :: rest := by simp
      have positive := settled.partition.nonempty nextMember
      apply (settled.contents next nextMember).not_owned
        (fun same => apart ⟨kind, same⟩)
      constructor
      · exact Nat.le_of_eq follows
      · change segment.firstRecordIndex + segment.recordCount < _
        omega

theorem SegmentsSettled.not_owned_before {segments : List EmissionSegment}
    (settled : Settles imported imported.records.length segments)
    (member : segment ∈ segments) (kind : segment.kind = .compatibilityRange)
    (before : index + 1 = segment.firstRecordIndex) :
    ¬CompatibilityOwned (emissionRecordRole imported)
      imported.records.length index := by
  obtain ⟨front, back, rfl⟩ := List.append_of_mem member
  cases List.eq_nil_or_concat front with
  | inl empty =>
      subst empty
      have first : segment.firstRecordIndex = 0 := settled.partition.first_eq
      omega
  | inr last =>
      obtain ⟨init, previous, shape⟩ := last
      rw [List.concat_eq_append] at shape
      subst shape
      rw [List.append_assoc, List.singleton_append] at settled
      have follows := settled.partition.next
      have apart := (List.isChain_append_cons_cons.mp settled.separated).2.1
      have previousMember :
        previous ∈ init ++ previous :: segment :: back := by simp
      have positive := settled.partition.nonempty previousMember
      apply (settled.contents previous previousMember).not_owned
        (fun same => apart ⟨same, kind⟩)
      constructor
      · omega
      · omega

theorem SegmentsSettled.emissionPartition {segments : List EmissionSegment}
    (settled : Settles imported imported.records.length segments) :
    EmissionPartition imported segments where
  partition := settled.partition
  islands := by
    intro segment member kind
    cases settled.contents segment member with
    | island _ run draw counted few => exact ⟨run, draw⟩
    | stateRun other => exact nomatch kind.symm.trans other
    | coordinator other => exact nomatch kind.symm.trans other
    | orderedControl other => exact nomatch kind.symm.trans other
    | compatibility other => exact nomatch kind.symm.trans other
  stateRuns := by
    intro segment member kind
    cases settled.contents segment member with
    | stateRun _ run drawless free counted => exact ⟨run, drawless⟩
    | island other => exact nomatch kind.symm.trans other
    | coordinator other => exact nomatch kind.symm.trans other
    | orderedControl other => exact nomatch kind.symm.trans other
    | compatibility other => exact nomatch kind.symm.trans other
  coordinators := by
    intro segment member kind
    cases settled.contents segment member with
    | coordinator _ single located typed counted =>
        exact ⟨single, located, typed⟩
    | island other => exact nomatch kind.symm.trans other
    | stateRun other => exact nomatch kind.symm.trans other
    | orderedControl other => exact nomatch kind.symm.trans other
    | compatibility other => exact nomatch kind.symm.trans other
  controls := by
    intro segment member kind
    cases settled.contents segment member with
    | orderedControl _ single located typed counted =>
        exact ⟨single, located, typed⟩
    | island other => exact nomatch kind.symm.trans other
    | stateRun other => exact nomatch kind.symm.trans other
    | coordinator other => exact nomatch kind.symm.trans other
    | compatibility other => exact nomatch kind.symm.trans other
  ranges := by
    intro segment member kind
    refine ⟨?_, fun index before =>
      settled.not_owned_before member kind before,
      settled.not_owned_stop member kind⟩
    cases settled.contents segment member with
    | compatibility _ owned counted => exact owned
    | island other => exact nomatch kind.symm.trans other
    | stateRun other => exact nomatch kind.symm.trans other
    | coordinator other => exact nomatch kind.symm.trans other
    | orderedControl other => exact nomatch kind.symm.trans other
  owned := by
    intro index inside owned
    obtain ⟨segment, member, holds⟩ := settled.partition.exists_within inside
    refine ⟨segment, member, ?_, holds⟩
    by_contra different
    exact (settled.contents segment member).not_owned different holds owned

/-! ## The partition into lease spans -/

abbrev EmissionLeaseSpan.Holds (span : EmissionLeaseSpan) (index : Nat) :
    Prop :=
  Within EmissionLeaseSpan.firstRecordIndex EmissionLeaseSpan.recordCount
    span index

variable (imported) in
/-- The lease spans of a complete plan. -/
structure LeaseSpanPartition (segments : List EmissionSegment)
    (spans : List EmissionLeaseSpan) : Prop where
  overRecords : Partitions EmissionLeaseSpan.firstRecordIndex
    EmissionLeaseSpan.recordCount spans imported.records.length
  overSegments : Partitions EmissionLeaseSpan.firstSegmentIndex
    EmissionLeaseSpan.segmentCount spans segments.length
  finished : ∀ span ∈ spans, FinishedSpan segments span
  owns : ∀ span ∈ spans, span.ownsLease = true ↔
    ∃ index, span.Holds index ∧
      emissionRecordRole imported index = .islandDraw
  ordinals : leaseOrdinals spans =
    List.range (spans.filter EmissionLeaseSpan.ownsLease).length

theorem SegmentsSettled.bounds {segments : List EmissionSegment}
    (valid : StructurallyValid imported)
    (settled : Settles imported imported.records.length segments) :
    SegmentBounds segments where
  nonempty := fun segment member => settled.partition.nonempty member
  begins := by
    intro front segment back split
    have partition := settled.partition
    rw [split] at partition
    exact partition.first_eq
  few := by
    intro segment member
    cases settled.contents segment member with
    | island _ _ _ _ few => exact few
    | stateRun _ _ _ _ counted => exact counted ▸ Nat.zero_le _
    | coordinator _ _ _ _ counted => exact counted ▸ Nat.zero_le _
    | orderedControl _ _ _ _ counted => exact counted ▸ Nat.zero_le _
    | compatibility _ _ counted => exact counted ▸ Nat.zero_le _
  small := by
    have total : totalRecords segments = imported.records.length :=
      settled.partition.2
    rw [total]
    exact valid.length_lt

variable {front held back : List EmissionSegment}

/-- The segment of a record that lies among some consecutive segments is one
of these. -/
theorem SegmentBounds.mem_held
    {segments : List EmissionSegment} (bounds : SegmentBounds segments)
    (split : segments = front ++ (held ++ back))
    (member : segment ∈ segments) (holds : segment.Holds index)
    (from_ : totalRecords front ≤ index)
    (before : index < totalRecords front + totalRecords held) :
    segment ∈ held := by
  rw [split] at member
  cases List.mem_append.mp member with
  | inl earlier =>
      obtain ⟨init, rest, shape⟩ := List.append_of_mem earlier
      have begins := bounds.begins init segment (rest ++ (held ++ back))
        (by rw [split, shape, List.append_assoc]; rfl)
      have upper : index < segment.firstRecordIndex + segment.recordCount :=
        holds.2
      rw [shape, totalRecords_append, totalRecords_cons] at from_
      omega
  | inr later =>
      cases List.mem_append.mp later with
      | inl inside => exact inside
      | inr behind =>
          obtain ⟨init, rest, shape⟩ := List.append_of_mem behind
          have begins := bounds.begins (front ++ (held ++ init)) segment rest
            (by rw [split, shape, List.append_assoc, List.append_assoc])
          have lower : segment.firstRecordIndex ≤ index := holds.1
          rw [totalRecords_append, totalRecords_append] at begins
          omega

variable {span : EmissionLeaseSpan}

theorem SegmentBounds.span_holds
    {segments : List EmissionSegment} (bounds : SegmentBounds segments)
    (split : segments = front ++ (held ++ back))
    (place : SpanPlace front held span) (member : segment ∈ held)
    (holds : segment.Holds index) : span.Holds index := by
  obtain ⟨init, rest, shape⟩ := List.append_of_mem member
  have begins := bounds.begins (front ++ init) segment (rest ++ back)
    (by rw [split, shape, List.append_assoc, List.append_assoc]; rfl)
  have lower : segment.firstRecordIndex ≤ index := holds.1
  have upper : index < segment.firstRecordIndex + segment.recordCount :=
    holds.2
  have first := place.recordIndex
  have count := place.recordCount
  rw [shape, totalRecords_append, totalRecords_cons] at count
  rw [totalRecords_append] at begins
  constructor
  · omega
  · omega

theorem FinishedSpan.owns {segments : List EmissionSegment} (valid : StructurallyValid imported)
    (settled : Settles imported imported.records.length segments)
    (finished : FinishedSpan segments span) :
    span.ownsLease = true ↔
      ∃ index, span.Holds index ∧
        emissionRecordRole imported index = .islandDraw := by
  have bounds := settled.bounds valid
  have holding : ∀ front held back, segments = front ++ (held ++ back) →
      SpanPlace front held span → ∀ index, span.Holds index →
      emissionRecordRole imported index = .islandDraw →
      ∃ segment ∈ held, segment.kind = .directIsland ∧
        segment.drawCount ≠ 0 := by
    intro front held back split place index holds draw
    have lower : span.firstRecordIndex ≤ index := holds.1
    have upper : index < span.firstRecordIndex + span.recordCount := holds.2
    rw [place.recordIndex] at lower upper
    rw [place.recordCount] at upper
    have total : totalRecords segments = imported.records.length :=
      settled.partition.2
    rw [split, totalRecords_append, totalRecords_append] at total
    have bounded : index < imported.records.length := by omega
    obtain ⟨segment, member, inside⟩ := settled.partition.exists_within bounded
    obtain ⟨kind, drawn⟩ :=
      (settled.contents segment member).island_of_draw inside draw
    exact ⟨segment, bounds.mem_held split member inside lower upper, kind,
      drawn⟩
  cases finished with
  | run front held back split place between =>
      rw [between.owns]
      constructor
      · rintro ⟨segment, member, drawn⟩
        have known : segment ∈ segments := by
          rw [split]
          exact List.mem_append_right _ (List.mem_append_left _ member)
        obtain ⟨index, from_, before, draw⟩ :=
          (settled.contents segment known).hasDraw drawn
        exact ⟨index, bounds.span_holds split place member ⟨from_, before⟩,
          draw⟩
      · rintro ⟨index, holds, draw⟩
        obtain ⟨segment, member, -, drawn⟩ :=
          holding front held back split place index holds draw
        exact ⟨segment, member, drawn⟩
  | separator front back segment split place alone =>
      rw [alone.owns]
      apply iff_of_false nofun
      rintro ⟨index, holds, draw⟩
      obtain ⟨found, member, kind, -⟩ :=
        holding front [segment] back split place index holds draw
      rw [List.mem_singleton.mp member] at kind
      cases alone.cuts with
      | inl control => exact nomatch kind.symm.trans control
      | inr compatibility => exact nomatch kind.symm.trans compatibility

theorem FinishedSpan.of_core {segments : List EmissionSegment}
    {other : EmissionLeaseSpan} (finished : FinishedSpan segments span)
    (same : span.core = other.core) : FinishedSpan segments other := by
  have moved : FinishedSpan segments span.core := by
    cases finished with
    | run front held back split place between =>
        exact .run front held back split
          ⟨place.nonempty, place.segmentIndex, place.segmentCount,
            place.recordIndex, place.recordCount⟩
          ⟨between.uncut, between.opens, between.closes, between.cut,
            between.owns, between.presents, between.trailing⟩
    | separator front back segment split place alone =>
        exact .separator front back segment split
          ⟨place.nonempty, place.segmentIndex, place.segmentCount,
            place.recordIndex, place.recordCount⟩
          ⟨alone.cuts, alone.cut, alone.owns⟩
  rw [same] at moved
  cases moved with
  | run front held back split place between =>
      exact .run front held back split
        ⟨place.nonempty, place.segmentIndex, place.segmentCount,
          place.recordIndex, place.recordCount⟩
        ⟨between.uncut, between.opens, between.closes, between.cut,
          between.owns, between.presents, between.trailing⟩
  | separator front back segment split place alone =>
      exact .separator front back segment split
        ⟨place.nonempty, place.segmentIndex, place.segmentCount,
          place.recordIndex, place.recordCount⟩
        ⟨alone.cuts, alone.cut, alone.owns⟩

theorem deriveEmissionLeaseSpans_outcome {segments : List EmissionSegment}
    (sizes : PayloadSizes) (pageSize : Nat)
    (valid : StructurallyValid imported)
    (settled : Settles imported imported.records.length segments)
    (reserved : Bool) :
    Outcome (fun reason => reason = .storage ∨ reason = .capacity)
      (LeaseSpanPartition imported segments)
      (deriveEmissionLeaseSpans sizes reserved imported pageSize
        segments) := by
  have bounds := settled.bounds valid
  unfold deriveEmissionLeaseSpans
  cases reserved with
  | false => exact Or.inl rfl
  | true =>
      rw [if_neg (by decide)]
      cases spanned : spansFrom sizes imported pageSize segments 0 segments
          {} with
      | none => exact Or.inr rfl
      | some pass =>
          have cover : SpansCover segments segments pass.leaseSpans :=
            spansFrom_cover bounds (List.nil_append segments).symm
              (.shut rfl nofun spansCover_nil) spanned
          dsimp only
          generalize numbered : markFinalLeaseSpan
            (assignLeaseOrdinals 0 pass.leaseSpans) = spans
          have same : spans.map EmissionLeaseSpan.core =
              pass.leaseSpans.map EmissionLeaseSpan.core := by
            rw [← numbered, markFinalLeaseSpan_core, assignLeaseOrdinals_core]
          have overSegments : Partitions EmissionLeaseSpan.firstSegmentIndex
              EmissionLeaseSpan.segmentCount spans segments.length := by
            have mapped : Partitions EmissionLeaseSpan.firstSegmentIndex
                EmissionLeaseSpan.segmentCount
                (pass.leaseSpans.map EmissionLeaseSpan.core)
                segments.length :=
              partitions_map.mpr cover.overSegments
            rw [← same] at mapped
            have unmapped := (partitions_map (f := EmissionLeaseSpan.core)).mp
              mapped
            exact unmapped
          have overRecords : Partitions EmissionLeaseSpan.firstRecordIndex
              EmissionLeaseSpan.recordCount spans
              imported.records.length := by
            have total : totalRecords segments = imported.records.length :=
              settled.partition.2
            rw [← total]
            have mapped : Partitions EmissionLeaseSpan.firstRecordIndex
                EmissionLeaseSpan.recordCount
                (pass.leaseSpans.map EmissionLeaseSpan.core)
                (totalRecords segments) :=
              partitions_map.mpr cover.overRecords
            rw [← same] at mapped
            have unmapped := (partitions_map (f := EmissionLeaseSpan.core)).mp
              mapped
            exact unmapped
          have covered : coveredBySpans (0, 0) spans =
              some (imported.records.length, segments.length) := by
            rw [coveredBySpans_eq overRecords.1 overSegments.1,
              overRecords.2, overSegments.2, Nat.zero_add, Nat.zero_add]
          have finished : ∀ span ∈ spans, FinishedSpan segments span := by
            intro span member
            have mapped := List.mem_map_of_mem
              (f := EmissionLeaseSpan.core) member
            rw [same] at mapped
            obtain ⟨origin, known, equal⟩ := List.mem_map.mp mapped
            exact (cover.finished origin known).of_core equal
          rw [if_pos covered]
          refine ⟨overRecords, overSegments, finished,
            fun span member => (finished span member).owns valid settled, ?_⟩
          have few : pass.leaseSpans.length ≤ segments.length :=
            cover.overSegments.length_le
          have fewer : segments.length ≤ imported.records.length :=
            settled.partition.length_le
          have small := valid.length_lt
          rw [← numbered, leaseOrdinals_markFinal, numbered,
            leaseOrdinals_assign (by omega), List.range_eq_range',
            length_filter_ownsLease_of_core same]

/-- What is known of a plan on which one lease may own every segment. -/
structure LeaseEligible (spans : List EmissionLeaseSpan)
    (pass : EmissionPass) : Prop where
  ordered : presentsOutOfOrder spans = false
  uncontrolled : pass.plan.orderedControlCount = 0
  compatible : pass.plan.compatibilityRecordCount = 0
  drawn : pass.aggregateDrawCount ≠ 0

/-- The verdict leaves the partition as it is. -/
structure Verdict (pass : EmissionPass) (spans : List EmissionLeaseSpan)
    (plan : ReplayEmissionPlan) : Prop where
  reason : plan.reason = .complete
  segments : plan.segments = pass.plan.segments
  leaseSpans : plan.leaseSpans = spans
  eligible : plan.leaseBlock = .none → LeaseEligible spans pass

theorem addDerivedDrawCapacity_headers {sizes : PayloadSizes}
    {capacity derived : SourcePayloadCapacity} {drawCount : Nat}
    (added : addDerivedDrawCapacity sizes capacity drawCount = some derived) :
    derived .commandHeaders = capacity .commandHeaders := by
  unfold addDerivedDrawCapacity at added
  split at added
  · dsimp only at added
    split at added
    · rw [← Option.some.inj added]
      rfl
    · exact nomatch added
  · exact nomatch added

variable {pass : EmissionPass}

theorem decideLeaseBlock_outcome (sizes : PayloadSizes) (pageSize : Nat) (spans : List EmissionLeaseSpan)
    (totals : PassTotals pass) (plan : ReplayEmissionPlan)
    (reason : plan.reason = .complete)
    (segments : plan.segments = pass.plan.segments)
    (leaseSpans : plan.leaseSpans = spans)
    (coordinators : plan.coordinatorCount = pass.plan.coordinatorCount)
    (controls : plan.orderedControlCount = pass.plan.orderedControlCount)
    (compatibility : plan.compatibilityRecordCount =
      pass.plan.compatibilityRecordCount) :
    Outcome (fun reason => reason = .overflow ∨ reason = .capacity)
      (Verdict pass spans)
      (decideLeaseBlock sizes pageSize pass.aggregate
        pass.aggregateDrawCount plan) := by
  unfold decideLeaseBlock
  by_cases ordered : presentsOutOfOrder plan.leaseSpans = true
  · rw [if_pos ordered]
    exact ⟨reason, segments, leaseSpans, nofun⟩
  rw [if_neg ordered]
  by_cases controlled : plan.orderedControlCount ≠ 0
  · rw [if_pos controlled]
    exact ⟨reason, segments, leaseSpans, nofun⟩
  rw [if_neg controlled]
  by_cases ranged : plan.compatibilityRecordCount ≠ 0
  · rw [if_pos ranged]
    exact ⟨reason, segments, leaseSpans, nofun⟩
  rw [if_neg ranged]
  by_cases idle : plan.islandCount = 0 ∨ pass.aggregateDrawCount = 0
  · rw [if_pos idle]
    exact ⟨reason, segments, leaseSpans, nofun⟩
  rw [if_neg idle]
  have eligible : LeaseEligible spans pass :=
    ⟨leaseSpans ▸ Bool.eq_false_of_not_eq_true ordered,
      controls ▸ not_not.mp controlled,
      compatibility ▸ not_not.mp ranged, fun none => idle (Or.inr none)⟩
  unfold leaseWholeRaw
  cases derived : addDerivedDrawCapacity sizes pass.aggregate
      pass.aggregateDrawCount with
  | none => exact Or.inl rfl
  | some capacity =>
      dsimp only
      cases makeSourcePayloadLayout sizes capacity pageSize kMaxU32 with
      | none => exact Or.inr rfl
      | some layout =>
          dsimp only
          by_cases empty : layout.usedBytes = 0
          · rw [if_pos empty]
            exact Or.inr rfl
          · have headers : capacity .commandHeaders =
                pass.aggregateDrawCount + plan.coordinatorCount := by
              rw [addDerivedDrawCapacity_headers derived, coordinators]
              exact totals.headers
            rw [if_neg empty, if_neg (not_not.mpr headers)]
            exact ⟨reason, segments, leaseSpans, fun _ => eligible⟩

theorem LeaseEligible.present_last
    (eligible : LeaseEligible spans pass)
    (settled : PassSettled imported imported.records.length pass)
    (spanned : LeaseSpanPartition imported pass.plan.segments spans)
    (inside : index < imported.records.length)
    (present : imported.recordType index = .present) :
    ∃ span ∈ spans, span.Holds index ∧
      index + 1 = span.firstRecordIndex + span.recordCount := by
  have coordinator : emissionRecordRole imported index = .coordinator := by
    rw [emissionRecordRole_eq, present]
  have uncut : ∀ segment ∈ pass.plan.segments, ¬segment.Cuts := by
    intro segment member cuts
    cases cuts with
    | inl control =>
        exact settled.totals.controls eligible.uncontrolled segment member
          control
    | inr range =>
        exact settled.totals.compatibility eligible.compatible segment member
          range
  obtain ⟨segment, member, holds⟩ :=
    settled.settled.partition.exists_within inside
  obtain ⟨kind, begins, single, typed⟩ :=
    (settled.settled.contents segment member).locator_of_coordinator holds
      coordinator
  have located : segment.locatesPresent = true := by
    unfold EmissionSegment.locatesPresent
    rw [kind, typed, present]
    rfl
  obtain ⟨position, known, place⟩ := List.getElem_of_mem member
  obtain ⟨span, spanMember, within⟩ := spanned.overSegments.exists_within known
  cases spanned.finished span spanMember with
  | separator front back other split placed alone =>
      have cutMember : other ∈ pass.plan.segments := by
        rw [split]
        exact List.mem_append_right _ (List.mem_cons_self ..)
      exact absurd alone.cuts (uncut other cutMember)
  | run front held back split placed between =>
      have front_nil : front = [] := by
        cases List.eq_nil_or_concat front with
        | inl empty => exact empty
        | inr last =>
            obtain ⟨init, previous, shape⟩ := last
            rw [List.concat_eq_append] at shape
            have previousMember : previous ∈ pass.plan.segments := by
              rw [split, shape]
              simp
            exact absurd
              (between.opens previous (by rw [shape, List.getLast?_concat]))
              (uncut previous previousMember)
      have back_nil : back = [] := by
        cases shape : back with
        | nil => rfl
        | cons next rest =>
            have nextMember : next ∈ pass.plan.segments := by
              rw [split, shape]
              simp
            exact absurd (between.closes next (by rw [shape]; rfl))
              (uncut next nextMember)
      subst front_nil back_nil
      rw [List.nil_append, List.append_nil] at split
      rw [split] at member
      have drawn : ∃ segment ∈ held, segment.drawCount ≠ 0 := by
        apply sum_ne_zero_iff.mp
        have draws := settled.totals.draws
        rw [settled.drawless, Nat.add_zero, split] at draws
        exact draws ▸ eligible.drawn
      have owns := between.owns.mpr drawn
      have counted : span.presentCount ≠ 0 := by
        rw [between.presents]
        exact Nat.ne_of_gt (List.countP_pos_iff.mpr ⟨segment, member, located⟩)
      have trailing : span.presentTrailingCoordinator = true := by
        have ordered := List.any_eq_false.mp eligible.ordered span spanMember
        by_contra unmarked
        apply ordered
        rw [owns, Bool.eq_false_of_not_eq_true unmarked,
          bne_iff_ne.mpr counted]
        rfl
      obtain ⟨one, final, isLast, finalLocated⟩ := between.trailing trailing
      obtain ⟨init, shape⟩ := List.getLast?_eq_some_iff.mp isLast
      have same : segment = final := by
        rw [between.presents, shape, List.countP_append,
          List.countP_singleton, if_pos finalLocated] at one
        rw [shape] at member
        cases List.mem_append.mp member with
        | inl earlier =>
            have positive := List.countP_pos_iff.mpr
              ⟨segment, earlier, located⟩
            omega
        | inr last => exact List.mem_singleton.mp last
      have ends : segment.firstRecordIndex + segment.recordCount =
          imported.records.length := by
        have partition := settled.settled.partition
        rw [split, shape, ← same] at partition
        exact partition.last
      have total : totalRecords held = imported.records.length := by
        rw [← split]
        exact settled.settled.partition.2
      have first := placed.recordIndex
      have count := placed.recordCount
      rw [show totalRecords [] = 0 from rfl] at first
      refine ⟨span, spanMember, ⟨?_, ?_⟩, ?_⟩
      · omega
      · omega
      · omega

/-- What a complete plan says about its chunk. -/
structure EmissionPlanExact (imported : ImportedChunkView)
    (plan : ReplayEmissionPlan) : Prop where
  segments : EmissionPartition imported plan.segments
  leaseSpans : LeaseSpanPartition imported plan.segments plan.leaseSpans
  presents : plan.leaseBlock = .none →
    ∀ index < imported.records.length, imported.recordType index = .present →
      ∃ span ∈ plan.leaseSpans, span.Holds index ∧
        index + 1 = span.firstRecordIndex + span.recordCount

theorem completeEmissionPlan_outcome (sizes : PayloadSizes) (pageSize : Nat)
    (valid : StructurallyValid imported)
    (settled : PassSettled imported imported.records.length pass)
    (reserved : Bool) :
    Outcome (fun reason => reason = .overflow ∨ reason = .capacity ∨
        reason = .storage)
      (fun plan => plan.reason = .complete ∧ EmissionPlanExact imported plan)
      (completeEmissionPlan sizes reserved imported pageSize pass) := by
  have covered : coveredBySegments imported.records.length 0
      pass.plan.segments = some imported.records.length := by
    have partition := settled.settled.partition
    have total : totalRecords pass.plan.segments =
      imported.records.length := partition.2
    rw [coveredBySegments_eq partition.1 (by omega), total, Nat.zero_add]
  unfold completeEmissionPlan
  rw [if_neg (not_not.mpr covered)]
  have derived := deriveEmissionLeaseSpans_outcome sizes pageSize valid
    settled.settled reserved
  cases spanned : deriveEmissionLeaseSpans sizes reserved imported pageSize
      pass.plan.segments with
  | error reason =>
      rw [spanned] at derived
      cases derived with
      | inl storage => exact Or.inr (Or.inr storage)
      | inr capacity => exact Or.inr (Or.inl capacity)
  | ok spans =>
      rw [spanned] at derived
      have partition : LeaseSpanPartition imported pass.plan.segments
        spans := derived
      dsimp only
      have decided := decideLeaseBlock_outcome sizes pageSize spans
        settled.totals
        { pass.plan with
          leaseSpans := spans
          leaseSpanCount := spans.length
          directDrawCount := pass.aggregateDrawCount
          reason := .complete
          coverageExact := true }
        rfl rfl rfl rfl rfl rfl
      cases verdict : decideLeaseBlock sizes pageSize pass.aggregate
          pass.aggregateDrawCount
          { pass.plan with
            leaseSpans := spans
            leaseSpanCount := spans.length
            directDrawCount := pass.aggregateDrawCount
            reason := .complete
            coverageExact := true } with
      | error reason =>
          rw [verdict] at decided
          cases decided with
          | inl overflow => exact Or.inl overflow
          | inr capacity => exact Or.inr (Or.inl capacity)
      | ok plan =>
          rw [verdict] at decided
          have kept : Verdict pass spans plan := decided
          refine ⟨kept.reason, ?_, ?_, ?_⟩
          · rw [kept.segments]
            exact settled.settled.emissionPartition
          · rw [kept.segments, kept.leaseSpans]
            exact partition
          · intro eligible index inside present
            rw [kept.leaseSpans]
            exact (kept.eligible eligible).present_last settled partition
              inside present

/-- On a valid chunk the plan is complete and exact, unless a page size or an
ordinal of zero, an overflow, a capacity or the storage stops it.  So neither
coverage fold nor the comparison of the command headers ever rejects. -/
theorem planReplayEmission_exact (sizes : PayloadSizes)
    (storage : EmissionStorage imported.records.length)
    (rawOrdinal pageSize : Nat) (valid : StructurallyValid imported) :
    ((planReplayEmission sizes imported storage rawOrdinal pageSize).reason =
        .malformedView ∧ (rawOrdinal = 0 ∨ pageSize = 0)) ∨
      ((planReplayEmission sizes imported storage rawOrdinal
            pageSize).reason = .overflow ∨
        (planReplayEmission sizes imported storage rawOrdinal
            pageSize).reason = .capacity ∨
        (planReplayEmission sizes imported storage rawOrdinal
            pageSize).reason = .storage) ∨
      ((planReplayEmission sizes imported storage rawOrdinal
            pageSize).reason = .complete ∧
        EmissionPlanExact imported
          (planReplayEmission sizes imported storage rawOrdinal
            pageSize)) := by
  unfold planReplayEmission
  by_cases zero : rawOrdinal = 0 ∨ pageSize = 0
  · have malformed : rawOrdinal = 0 ∨ pageSize = 0 ∨
        imported.records.length ≠ imported.recordCount.toNat := by
      cases zero with
      | inl ordinal => exact Or.inl ordinal
      | inr page => exact Or.inr (Or.inl page)
    rw [if_pos malformed]
    exact Or.inl ⟨rfl, zero⟩
  · have wellFormed : ¬(rawOrdinal = 0 ∨ pageSize = 0 ∨
        imported.records.length ≠ imported.recordCount.toNat) := by
      rintro (ordinal | page | different)
      · exact zero (Or.inl ordinal)
      · exact zero (Or.inr page)
      · exact different valid.counted
    rw [if_neg wellFormed]
    apply Or.inr
    cases reserved : storage.segmentRoom with
    | none => exact Or.inl (Or.inr (Or.inr rfl))
    | some room =>
        dsimp only
        have passed := emissionSegments_outcome sizes valid
          (storage.enough room reserved) rawOrdinal
        cases reached : emissionSegments sizes room imported rawOrdinal with
        | error reason =>
            rw [reached] at passed
            exact Or.inl (Or.inl passed)
        | ok pass =>
            rw [reached] at passed
            have settled :
              PassSettled imported imported.records.length pass := passed
            have completed := completeEmissionPlan_outcome sizes pageSize
              valid settled storage.leaseSpansReserved
            dsimp only
            cases finished : completeEmissionPlan sizes
                storage.leaseSpansReserved imported pageSize pass with
            | error reason =>
                rw [finished] at completed
                exact Or.inl completed
            | ok plan =>
                rw [finished] at completed
                exact Or.inr completed

/-- A draw, a query and a state record, with plain sizes. -/
def drawQueryState : ImportedChunkView where
  recordCount := 3
  records :=
    [{ type := .drawPrimitive, payloadOffset := 0, payloadSize := 56 },
      { type := .queryIssue, payloadOffset := 56, payloadSize := 8 },
      { type := .applyState, payloadOffset := 64, payloadSize := 56 }]
  handleCount := 0
  payloadArena := (List.replicate 120 0).set 4 4
  payloadArenaAddress := 4096

def plainSizes : PayloadSizes where
  element := fun _ => 8
  alignment := fun _ => 8
  vertexShaderConstants := 4096
  pixelShaderConstants := 4096
  drawBindingOverride := 64
  drawBindingSnapshot := 64

theorem drawQueryState_valid : StructurallyValid drawQueryState where
  counted := rfl
  agrees := by decide +kernel
  fixedPayload := by
    intro index inside
    match index, inside with
    | 0, _ => exact ⟨_, rfl, by decide +kernel⟩
    | 1, _ => exact ⟨_, rfl, by decide +kernel⟩
    | 2, _ => exact ⟨_, rfl, by decide +kernel⟩
  primitive := by decide +kernel

/-- Such a chunk is planned. -/
theorem planReplayEmission_exact_drawQueryState :
    (planReplayEmission plainSizes drawQueryState
        ⟨some 3, by decide, true⟩ 1 4096).reason = .complete ∧
      EmissionPlanExact drawQueryState
        (planReplayEmission plainSizes drawQueryState
          ⟨some 3, by decide, true⟩ 1 4096) := by
  have planned : (planReplayEmission plainSizes drawQueryState
    ⟨some 3, by decide, true⟩ 1 4096).reason = .complete := by decide +kernel
  rcases planReplayEmission_exact plainSizes ⟨some 3, by decide, true⟩ 1 4096
    drawQueryState_valid with ⟨malformed, -⟩ | stopped | exact_
  · exact nomatch planned.symm.trans malformed
  · rcases stopped with overflow | capacity | storage
    · exact nomatch planned.symm.trans overflow
    · exact nomatch planned.symm.trans capacity
    · exact nomatch planned.symm.trans storage
  · exact exact_

end Dxmt9.CpuReady
