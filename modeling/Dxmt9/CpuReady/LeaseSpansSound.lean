import Dxmt9.CpuReady.EmissionPassSound
import Dxmt9.CpuReady.LeaseSpans

/-!
# Lease spans cover the segments

Every span ended by the pass over the segments is either a cut by itself or a
run of other segments that reaches from one cut to the next.
-/

namespace Dxmt9.CpuReady

open Queue

/-- Ordered controls and compatibility ranges cut the spans. -/
def EmissionSegment.Cuts (segment : EmissionSegment) : Prop :=
  segment.kind = .orderedControlLocator ∨ segment.kind = .compatibilityRange

theorem cutForSegment_ne_iff {segment : EmissionSegment} :
    cutForSegment segment.kind ≠ .endOfRaw ↔ segment.Cuts := by
  unfold EmissionSegment.Cuts
  cases segment.kind with
  | directIsland => exact iff_of_false (fun cut => cut rfl) nofun
  | stateOnlyRun => exact iff_of_false (fun cut => cut rfl) nofun
  | coordinatorLocator => exact iff_of_false (fun cut => cut rfl) nofun
  | orderedControlLocator => exact iff_of_true nofun (Or.inl rfl)
  | compatibilityRange => exact iff_of_true nofun (Or.inr rfl)

abbrev totalRecords (segments : List EmissionSegment) : Nat :=
  totalExtent EmissionSegment.recordCount segments

theorem totalRecords_cons (segment : EmissionSegment)
    (rest : List EmissionSegment) :
    totalRecords (segment :: rest) = segment.recordCount + totalRecords rest :=
  totalExtent_cons segment rest

theorem totalRecords_append (front back : List EmissionSegment) :
    totalRecords (front ++ back) = totalRecords front + totalRecords back :=
  totalExtent_append front back

/-- A span over some consecutive segments and all of their records. -/
structure SpanPlace (front held : List EmissionSegment)
    (span : EmissionLeaseSpan) : Prop where
  nonempty : held ≠ []
  segmentIndex : span.firstSegmentIndex = front.length
  segmentCount : span.segmentCount = held.length
  recordIndex : span.firstRecordIndex = totalRecords front
  recordCount : span.recordCount = totalRecords held

/-- A run of segments between two cuts. -/
structure SpanRun (front held back : List EmissionSegment)
    (span : EmissionLeaseSpan) : Prop where
  uncut : ∀ segment ∈ held, ¬segment.Cuts
  opens : ∀ previous, front.getLast? = some previous → previous.Cuts
  closes : ∀ next, back.head? = some next → next.Cuts
  cut : span.trailingCut =
    (back.head?.map fun next => cutForSegment next.kind).getD .endOfRaw
  owns : span.ownsLease = true ↔ ∃ segment ∈ held, segment.drawCount ≠ 0
  presents : span.presentCount = held.countP EmissionSegment.locatesPresent
  trailing : span.presentTrailingCoordinator = true →
    span.presentCount = 1 ∧
      ∃ final, held.getLast? = some final ∧ final.locatesPresent = true

/-- A cut that is a span of its own. -/
structure SpanSeparator (segment : EmissionSegment)
    (span : EmissionLeaseSpan) : Prop where
  cuts : segment.Cuts
  cut : span.trailingCut = cutForSegment segment.kind
  owns : span.ownsLease = false

/-- What an ended span is. -/
inductive FinishedSpan (segments : List EmissionSegment)
    (span : EmissionLeaseSpan) : Prop where
  | run (front held back : List EmissionSegment)
      (split : segments = front ++ (held ++ back))
      (place : SpanPlace front held span)
      (between : SpanRun front held back span)
  | separator (front back : List EmissionSegment) (segment : EmissionSegment)
      (split : segments = front ++ segment :: back)
      (place : SpanPlace front [segment] span)
      (alone : SpanSeparator segment span)

/-- Spans that cover the first segments and their records. -/
structure SpansCover (segments front : List EmissionSegment)
    (spans : List EmissionLeaseSpan) : Prop where
  overSegments : Partitions EmissionLeaseSpan.firstSegmentIndex
    EmissionLeaseSpan.segmentCount spans front.length
  overRecords : Partitions EmissionLeaseSpan.firstRecordIndex
    EmissionLeaseSpan.recordCount spans (totalRecords front)
  finished : ∀ span ∈ spans, FinishedSpan segments span

variable {segments front held back rest : List EmissionSegment}
  {spans : List EmissionLeaseSpan} {span ended : EmissionLeaseSpan}
  {segment : EmissionSegment}

theorem spansCover_nil : SpansCover segments [] [] where
  overSegments := partitions_nil
  overRecords := partitions_nil
  finished := by
    intro span member
    exact absurd member List.not_mem_nil

/-- A further span behind the ones before it. -/
theorem SpansCover.push (cover : SpansCover segments front spans)
    (place : SpanPlace front held span)
    (nonempty : ∀ segment ∈ held, 0 < segment.recordCount)
    (whole : FinishedSpan segments span) :
    SpansCover segments (front ++ held) (spans ++ [span]) := by
  have some_ : 0 < totalRecords held := by
    cases shape : held with
    | nil => exact absurd shape place.nonempty
    | cons head tail =>
        have positive := nonempty head (shape ▸ List.mem_cons_self ..)
        rw [totalRecords_cons]
        omega
  refine ⟨partitions_append_singleton.mpr ⟨?_, ?_, ?_⟩,
    partitions_append_singleton.mpr ⟨?_, ?_, ?_⟩, ?_⟩
  · rw [place.segmentIndex]
    exact cover.overSegments
  · rw [place.segmentCount]
    exact List.length_pos_iff.mpr place.nonempty
  · rw [place.segmentIndex, place.segmentCount, List.length_append]
  · rw [place.recordIndex]
    exact cover.overRecords
  · rw [place.recordCount]
    exact some_
  · rw [place.recordIndex, place.recordCount, totalRecords_append]
  · intro found member
    cases List.mem_append.mp member with
    | inl earlier => exact cover.finished found earlier
    | inr new => exact List.mem_singleton.mp new ▸ whole

/-! ## The open span -/

/-- The totals of the open span over the segments it holds. -/
structure OpenSpan (front held : List EmissionSegment)
    (span : EmissionLeaseSpan) : Prop where
  place : SpanPlace front held span
  uncut : ∀ segment ∈ held, ¬segment.Cuts
  opens : ∀ previous, front.getLast? = some previous → previous.Cuts
  draws : span.drawCount = (held.map EmissionSegment.drawCount).sum
  presents : span.presentCount = held.countP EmissionSegment.locatesPresent
  unmarked : span.presentTrailingCoordinator = false

/-- What holds between two segments. -/
inductive SpanPassInvariant (segments done : List EmissionSegment)
    (pass : SpanPass) : Prop where
  | shut (none : pass.currentOpen = false)
      (behind : ∀ previous, done.getLast? = some previous → previous.Cuts)
      (cover : SpansCover segments done pass.leaseSpans)
  | opened (front held : List EmissionSegment) (split : done = front ++ held)
      (some : pass.currentOpen = true) (span : OpenSpan front held pass.current)
      (cover : SpansCover segments front pass.leaseSpans)

section

variable {sizes : PayloadSizes} {imported : ImportedChunkView}
  {pageSize : Nat} {pass stepped : SpanPass} {cut : EmissionSpanCut}

theorem reserve_some (reserved : span.reserve sizes imported pageSize =
    some ended) :
    ∃ capacity plannedBytes, ended =
      { span with capacity := capacity, plannedBytes := plannedBytes } := by
  unfold EmissionLeaseSpan.reserve at reserved
  split at reserved
  · exact nomatch reserved
  · split at reserved
    · exact nomatch reserved
    · split at reserved
      · exact nomatch reserved
      · split at reserved
        · exact nomatch reserved
        · split at reserved
          · exact nomatch reserved
          · exact ⟨_, _, (Option.some.inj reserved).symm⟩

theorem finishSpan_some
    (ending : finishSpan sizes imported pageSize segments span cut =
      some ended) :
    ∃ capacity plannedBytes, ended =
      { span.close segments cut with
        capacity := capacity
        plannedBytes := plannedBytes } := by
  unfold finishSpan at ending
  dsimp only at ending
  split at ending
  · exact reserve_some ending
  · exact ⟨_, _, (Option.some.inj ending).symm⟩

theorem sum_ne_zero_iff :
    (held.map EmissionSegment.drawCount).sum ≠ 0 ↔
      ∃ segment ∈ held, segment.drawCount ≠ 0 := by
  induction held with
  | nil => simp
  | cons head tail induction =>
      rw [List.map_cons, List.sum_cons]
      constructor
      · intro some_
        by_cases own : head.drawCount = 0
        · obtain ⟨found, member, drawn⟩ := induction.mp (by omega)
          exact ⟨found, List.mem_cons_of_mem head member, drawn⟩
        · exact ⟨head, List.mem_cons_self .., own⟩
      · rintro ⟨found, member, drawn⟩
        cases List.mem_cons.mp member with
        | inl same =>
            subst same
            omega
        | inr later =>
            have some_ := induction.mpr ⟨found, later, drawn⟩
            omega

theorem endsInPresent_place (split : segments = front ++ (held ++ back))
    (place : SpanPlace front held span)
    (ends : span.endsInPresent segments = true) :
    ∃ final, held.getLast? = some final ∧ final.locatesPresent = true := by
  obtain ⟨init, final, shape⟩ : ∃ init final, held = init ++ [final] := by
    cases List.eq_nil_or_concat held with
    | inl empty => exact absurd empty place.nonempty
    | inr last =>
        obtain ⟨init, final, shape⟩ := last
        exact ⟨init, final, shape.trans List.concat_eq_append⟩
  have last : segments[span.firstSegmentIndex + span.segmentCount - 1]? =
      some final := by
    rw [place.segmentIndex, place.segmentCount, split, shape,
      List.length_append, List.length_singleton,
      List.getElem?_append_right (by omega),
      List.getElem?_append_left (by simp)]
    rw [List.getElem?_append_right (by omega)]
    have index : front.length + (init.length + 1) - 1 - front.length -
      init.length = 0 := by omega
    rw [index]
    rfl
  unfold EmissionLeaseSpan.endsInPresent at ends
  rw [last] at ends
  exact ⟨final, by rw [shape, List.getLast?_concat], ends⟩

theorem OpenSpan.finished (split : segments = front ++ (held ++ back))
    (span_ : OpenSpan front held span)
    (closes : ∀ next, back.head? = some next → next.Cuts)
    (cutting : cut =
      (back.head?.map fun next => cutForSegment next.kind).getD .endOfRaw)
    (ending : finishSpan sizes imported pageSize segments span cut =
      some ended) :
    FinishedSpan segments ended ∧ SpanPlace front held ended := by
  obtain ⟨capacity, plannedBytes, rfl⟩ := finishSpan_some ending
  have place : SpanPlace front held
      { span.close segments cut with
        capacity := capacity
        plannedBytes := plannedBytes } :=
    ⟨span_.place.nonempty, span_.place.segmentIndex,
      span_.place.segmentCount, span_.place.recordIndex,
      span_.place.recordCount⟩
  refine ⟨.run front held back split place ?_, place⟩
  refine ⟨span_.uncut, span_.opens, closes, cutting, ?_, span_.presents, ?_⟩
  · change (span.drawCount != 0) = true ↔ _
    rw [bne_iff_ne, span_.draws]
    exact sum_ne_zero_iff
  · intro marked
    change (if span.presentCount = 1 ∧ span.segmentCount ≠ 0 then
      span.endsInPresent segments
      else span.presentTrailingCoordinator) = true at marked
    by_cases single : span.presentCount = 1 ∧ span.segmentCount ≠ 0
    · rw [if_pos single] at marked
      exact ⟨single.1, endsInPresent_place split span_.place marked⟩
    · rw [if_neg single, span_.unmarked] at marked
      exact nomatch marked

/-- What the segments of a settled pass satisfy. -/
structure SegmentBounds (segments : List EmissionSegment) : Prop where
  nonempty : ∀ segment ∈ segments, 0 < segment.recordCount
  begins : ∀ front segment back, segments = front ++ segment :: back →
    segment.firstRecordIndex = totalRecords front
  few : ∀ segment ∈ segments, segment.drawCount ≤ segment.recordCount
  small : totalRecords segments < 2 ^ 32

section

variable (bounds : SegmentBounds segments)
include bounds

theorem SegmentBounds.length_le :
    ∀ held, (∀ segment ∈ held, segment ∈ segments) →
      held.length ≤ totalRecords held := by
  intro held inside
  induction held with
  | nil => exact Nat.zero_le _
  | cons head tail induction =>
      have positive := bounds.nonempty head (inside head
        (List.mem_cons_self ..))
      have shorter := induction fun segment member =>
        inside segment (List.mem_cons_of_mem head member)
      rw [totalRecords_cons, List.length_cons]
      omega

theorem SegmentBounds.draws_le :
    ∀ held, (∀ segment ∈ held, segment ∈ segments) →
      (held.map EmissionSegment.drawCount).sum ≤ totalRecords held := by
  intro held inside
  induction held with
  | nil => exact Nat.zero_le _
  | cons head tail induction =>
      have few := bounds.few head (inside head (List.mem_cons_self ..))
      have fewer := induction fun segment member =>
        inside segment (List.mem_cons_of_mem head member)
      rw [totalRecords_cons, List.map_cons, List.sum_cons]
      omega

/-- The numbers of a part of the segments are 32-bit numbers. -/
theorem SegmentBounds.part_lt
    (split : segments = front ++ (held ++ back)) :
    totalRecords held < 2 ^ 32 ∧ held.length < 2 ^ 32 ∧
      (held.map EmissionSegment.drawCount).sum < 2 ^ 32 := by
  have inside : ∀ segment ∈ held, segment ∈ segments := by
    intro segment member
    rw [split]
    exact List.mem_append_right _ (List.mem_append_left _ member)
  have total := bounds.small
  rw [split, totalRecords_append, totalRecords_append] at total
  have length := bounds.length_le held inside
  have draws := bounds.draws_le held inside
  omega

theorem OpenSpan.addSegment
    (split : segments = front ++ ((held ++ [segment]) ++ back))
    (place : span.firstSegmentIndex = front.length ∧
      span.segmentCount = held.length ∧
      span.firstRecordIndex = totalRecords front ∧
      span.recordCount = totalRecords held)
    (uncut : ∀ earlier ∈ held, ¬earlier.Cuts)
    (opens : ∀ previous, front.getLast? = some previous → previous.Cuts)
    (draws : span.drawCount = (held.map EmissionSegment.drawCount).sum)
    (presents : span.presentCount = held.countP EmissionSegment.locatesPresent)
    (unmarked : span.presentTrailingCoordinator = false)
    (plain : ¬segment.Cuts) (index : Nat) :
    OpenSpan front (held ++ [segment])
      (span.addSegment segments.length index segment) := by
  obtain ⟨records, length, drawn⟩ := bounds.part_lt split
  have totalRecords_eq : totalRecords (held ++ [segment]) =
      totalRecords held + segment.recordCount := by
    rw [totalRecords_append, totalRecords_cons]
    rfl
  have sum : ((held ++ [segment]).map EmissionSegment.drawCount).sum =
      (held.map EmissionSegment.drawCount).sum + segment.drawCount := by
    rw [List.map_append, List.sum_append, List.map_singleton,
      List.sum_singleton]
  have counted : (held ++ [segment]).countP EmissionSegment.locatesPresent ≤
      (held ++ [segment]).length := List.countP_le_length
  rw [totalRecords_eq] at records
  rw [sum] at drawn
  refine ⟨⟨by simp, place.1, ?_, place.2.2.1, ?_⟩, ?_, opens, ?_, ?_, unmarked⟩
  · change castU32 (span.segmentCount + 1) = _
    rw [place.2.1, List.length_append, List.length_singleton]
    rw [List.length_append, List.length_singleton] at length
    exact castU32_of_lt length
  · change castU32 (span.recordCount + segment.recordCount) = _
    rw [place.2.2.2, totalRecords_eq]
    exact castU32_of_lt records
  · intro found member
    cases List.mem_append.mp member with
    | inl earlier => exact uncut found earlier
    | inr new => exact List.mem_singleton.mp new ▸ plain
  · change castU32 (span.drawCount + segment.drawCount) = _
    rw [draws, sum]
    exact castU32_of_lt drawn
  · change (if segment.locatesPresent then castU32 (span.presentCount + 1)
      else span.presentCount) = _
    rw [presents]
    rw [List.countP_append, List.countP_singleton] at counted ⊢
    by_cases located : segment.locatesPresent = true
    · rw [if_pos located, if_pos located]
      rw [if_pos located] at counted
      exact castU32_of_lt (by omega)
    · rw [if_neg located, if_neg located, Nat.add_zero]

end

variable {done : List EmissionSegment}

theorem finish_outcome
    (bounds : SegmentBounds segments) (split : segments = done ++ rest)
    (invariant : SpanPassInvariant segments done pass)
    (closes : ∀ next, rest.head? = some next → next.Cuts)
    (cutting : cut =
      (rest.head?.map fun next => cutForSegment next.kind).getD .endOfRaw)
    (ending : pass.finish sizes imported pageSize segments cut =
      some stepped) :
    stepped.currentOpen = false ∧
      SpansCover segments done stepped.leaseSpans := by
  unfold SpanPass.finish at ending
  cases invariant with
  | shut none behind cover =>
      rw [none, if_neg (by decide)] at ending
      rw [← Option.some.inj ending]
      exact ⟨none, cover⟩
  | opened front held split' opened span cover =>
      rw [opened, if_pos rfl] at ending
      cases finishing : finishSpan sizes imported pageSize segments
          pass.current cut with
      | none =>
          rw [finishing] at ending
          exact nomatch ending
      | some finished =>
          rw [finishing] at ending
          rw [← Option.some.inj ending]
          rw [split', List.append_assoc] at split
          obtain ⟨whole, place⟩ := span.finished split closes cutting finishing
          refine ⟨rfl, ?_⟩
          rw [split']
          apply cover.push place _ whole
          intro segment member
          apply bounds.nonempty
          rw [split]
          exact List.mem_append_right _ (List.mem_append_left _ member)

theorem step_invariant
    (bounds : SegmentBounds segments)
    (split : segments = done ++ segment :: rest)
    (invariant : SpanPassInvariant segments done pass)
    (step : pass.step sizes imported pageSize segments done.length segment =
      some stepped) :
    SpanPassInvariant segments (done ++ [segment]) stepped := by
  have begins := bounds.begins done segment rest split
  unfold SpanPass.step at step
  by_cases cuts : segment.Cuts
  · rw [if_pos (cutForSegment_ne_iff.mpr cuts)] at step
    cases finishing : pass.finish sizes imported pageSize segments
        (cutForSegment segment.kind) with
    | none =>
        rw [finishing] at step
        exact nomatch step
    | some finished =>
        rw [finishing] at step
        rw [← Option.some.inj step]
        obtain ⟨shut, cover⟩ := finish_outcome bounds split invariant
          (by
            intro next isNext
            rw [← Option.some.inj isNext]
            exact cuts)
          rfl finishing
        refine .shut shut ?_ ?_
        · intro previous isLast
          rw [List.getLast?_concat] at isLast
          rw [← Option.some.inj isLast]
          exact cuts
        · have place : SpanPlace done [segment]
              (separatorSpan done.length segment
                (cutForSegment segment.kind)) :=
            ⟨List.cons_ne_nil _ _, rfl, rfl, begins, rfl⟩
          apply cover.push place
          · intro found member
            rw [List.mem_singleton.mp member]
            apply bounds.nonempty
            rw [split]
            exact List.mem_append_right _ (List.mem_cons_self ..)
          · exact .separator done rest segment split place ⟨cuts, rfl, rfl⟩
  · rw [if_neg (fun different =>
      cuts (cutForSegment_ne_iff.mp different))] at step
    rw [← Option.some.inj step]
    cases invariant with
    | shut none behind cover =>
        rw [none, if_neg (by decide)]
        refine .opened done [segment] rfl rfl ?_ cover
        have alone : segments = done ++ ([] ++ [segment] ++ rest) := split
        exact OpenSpan.addSegment bounds alone
          ⟨rfl, rfl, begins, rfl⟩ nofun behind rfl rfl rfl cuts done.length
    | opened front held split' opened span cover =>
        rw [opened, if_pos rfl]
        refine .opened front (held ++ [segment])
          (by rw [split', List.append_assoc]) rfl ?_ cover
        apply OpenSpan.addSegment bounds
          (by rw [split, split', List.append_assoc, List.append_assoc]; rfl)
          ⟨span.place.segmentIndex, span.place.segmentCount,
            span.place.recordIndex, span.place.recordCount⟩
          span.uncut span.opens span.draws span.presents span.unmarked cuts

theorem spansFrom_cover
    (bounds : SegmentBounds segments) (split : segments = done ++ rest)
    (invariant : SpanPassInvariant segments done pass)
    (spanned : spansFrom sizes imported pageSize segments done.length rest
      pass = some stepped) :
    SpansCover segments segments stepped.leaseSpans := by
  induction rest generalizing done pass with
  | nil =>
      have covered := (finish_outcome bounds split invariant nofun rfl
        spanned).2
      rw [List.append_nil] at split
      rw [← split] at covered
      exact covered
  | cons segment rest induction =>
      unfold spansFrom at spanned
      cases step : pass.step sizes imported pageSize segments done.length
          segment with
      | none =>
          rw [step] at spanned
          exact nomatch spanned
      | some next =>
          rw [step] at spanned
          have later : segments = (done ++ [segment]) ++ rest := by
            rw [split, List.append_assoc]
            rfl
          apply induction later (step_invariant bounds split invariant step)
          rw [List.length_append, List.length_singleton]
          exact spanned

end

end Dxmt9.CpuReady
