import Mathlib.Data.List.Range
import Dxmt9.EncodePartition.RangeValidation

/-!
# Coverage of a replay stream

A range stands for its units: the commands of a segment, the draws of a draw
range.  A list of ranges covers the stream when its units, in order, are those
of the replay ordinals: one command each, or all draws of the run from first
to last.  The validator accepts exactly the well-formed ranges that cover.
-/

namespace Dxmt9.EncodePartition

open Dxmt9.Tape

/-- What a range covers: a whole command, or one draw of a run. -/
inductive PartitionUnit where
  | command (ordinal : Nat)
  | draw (ordinal param : Nat)
deriving DecidableEq

/-- The draws of a run from one parameter up to another. -/
def drawUnits (ordinal start stop : Nat) : List PartitionUnit :=
  (List.range' start (stop - start)).map (.draw ordinal)

def rangeUnits (range : EncodePartitionRangeSnapshot) :
    List PartitionUnit :=
  match range.kind with
  | .commandSegment =>
      (List.range' range.replayOrdinalBegin range.replayOrdinalCount).map
        .command
  | .drawRunEntries =>
      drawUnits range.replayOrdinalBegin range.entry.drawParamIndex
        (range.entry.drawParamIndex + range.drawEntryCount)

/-- The draw run that a replay ordinal selects. -/
def drawRunAt (stream : EncodePartitionReplayStream) (ordinal : Nat) :
    Option DrawRunCommandRecord :=
  match stream.commandIndexAt ordinal with
  | none => none
  | some commandIndex =>
      let command := (stream.source.payload.commandAt commandIndex).command
      if command.kind = .drawRun then command.drawRunRecord else none

/-- The units of one replay ordinal, whole or subdivided. -/
def ordinalUnits (stream : EncodePartitionReplayStream)
    (subdivided : Nat → Bool) (ordinal : Nat) : List PartitionUnit :=
  match drawRunAt stream ordinal with
  | none => [.command ordinal]
  | some record =>
      if subdivided ordinal && record.paramCount != 0 then
        drawUnits ordinal record.firstParam
          (record.firstParam + record.paramCount)
      else [.command ordinal]

/-- The units of `count` replay ordinals. -/
def streamUnits (stream : EncodePartitionReplayStream)
    (subdivided : Nat → Bool) (ordinal count : Nat) : List PartitionUnit :=
  (List.range' ordinal count).flatMap (ordinalUnits stream subdivided)

/-- The units of the ranges are those of every replay ordinal, in order. -/
def Covers (stream : EncodePartitionReplayStream)
    (ranges : List EncodePartitionRangeSnapshot) : Prop :=
  ∃ subdivided, ranges.flatMap rangeUnits =
    streamUnits stream subdivided 0 stream.replayOrdinalCount

/-- A segment is not empty and carries no draws; a draw range resolves
against the stream. -/
def WellFormed (schema : PayloadSchema)
    (stream : EncodePartitionReplayStream)
    (range : EncodePartitionRangeSnapshot) : Prop :=
  match range.kind with
  | .commandSegment =>
      range.replayOrdinalCount ≠ 0 ∧ range.drawEntryCount = 0
  | .drawRunEntries =>
      ∃ partition, resolveEncodePartition schema range stream = .ok partition

/-! ## Units in order -/

variable {ordinal start stop : Nat}

theorem drawUnits_append {middle : Nat}
    (below : start ≤ middle) (above : middle ≤ stop) :
    drawUnits ordinal start stop =
      drawUnits ordinal start middle ++ drawUnits ordinal middle stop := by
  have split : stop - start = (middle - start) + (stop - middle) := by omega
  have next : start + (middle - start) = middle := by omega
  unfold drawUnits
  rw [split, ← List.range'_append_1, next, List.map_append]

theorem drawUnits_cons (nonempty : start < stop) :
    drawUnits ordinal start stop =
      .draw ordinal start :: drawUnits ordinal (start + 1) stop := by
  have size : stop - start = (stop - (start + 1)) + 1 := by omega
  unfold drawUnits
  rw [size, List.range'_succ, List.map_cons]

theorem drawUnits_self (ordinal stop : Nat) :
    drawUnits ordinal stop stop = [] := by
  unfold drawUnits
  rw [Nat.sub_self]
  rfl

section

variable (stream : EncodePartitionReplayStream) (subdivided : Nat → Bool)
include stream subdivided

theorem streamUnits_succ (ordinal count : Nat) :
    streamUnits stream subdivided ordinal (count + 1) =
      ordinalUnits stream subdivided ordinal ++
        streamUnits stream subdivided (ordinal + 1) count := by
  rw [streamUnits, List.range'_succ, List.flatMap_cons]
  rfl

theorem ordinalUnits_cases (ordinal : Nat) :
    ordinalUnits stream subdivided ordinal = [.command ordinal] ∨
      ∃ record, drawRunAt stream ordinal = some record ∧
        record.paramCount ≠ 0 ∧
        ordinalUnits stream subdivided ordinal =
          drawUnits ordinal record.firstParam
            (record.firstParam + record.paramCount) := by
  unfold ordinalUnits
  cases found : drawRunAt stream ordinal with
  | none => exact Or.inl rfl
  | some record =>
      simp only
      split
      · rename_i isSubdivided
        rw [Bool.and_eq_true, bne_iff_ne] at isSubdivided
        exact Or.inr ⟨record, rfl, isSubdivided.2, rfl⟩
      · exact Or.inl rfl

theorem ordinalUnits_ne_nil (ordinal : Nat) :
    ordinalUnits stream subdivided ordinal ≠ [] := by
  rcases ordinalUnits_cases stream subdivided ordinal with
    whole | ⟨record, _, nonempty, draws⟩
  · rw [whole]
    exact List.cons_ne_nil _ _
  · rw [draws, drawUnits_cons (by omega)]
    exact List.cons_ne_nil _ _

end

/-- Only the ordinals ahead matter. -/
theorem streamUnits_congr (stream : EncodePartitionReplayStream)
    {left right : Nat → Bool} (ordinal count : Nat)
    (same : ∀ other, ordinal ≤ other → left other = right other) :
    streamUnits stream left ordinal count =
      streamUnits stream right ordinal count := by
  unfold streamUnits
  rw [List.flatMap_def, List.flatMap_def]
  congr 1
  apply List.map_congr_left
  intro other member
  rw [List.mem_range'_1] at member
  unfold ordinalUnits
  rw [same other member.1]

variable {rest : List PartitionUnit}

theorem commands_prefix (stream : EncodePartitionReplayStream)
    (subdivided : Nat → Bool) :
    ∀ {size start ordinal count : Nat}, size ≠ 0 →
      (List.range' start size).map .command ++ rest =
        streamUnits stream subdivided ordinal count →
      start = ordinal ∧ size ≤ count ∧
        rest = streamUnits stream subdivided (ordinal + size)
          (count - size) := by
  intro size
  induction size with
  | zero =>
      intro start ordinal count nonempty
      contradiction
  | succ size induction =>
      intro start ordinal count _ equal
      cases count with
      | zero =>
          rw [List.range'_succ] at equal
          contradiction
      | succ count =>
          rw [List.range'_succ, List.map_cons, List.cons_append,
            streamUnits_succ] at equal
          rcases ordinalUnits_cases stream subdivided ordinal with
            whole | ⟨record, _, nonempty, draws⟩
          · rw [whole, List.singleton_append] at equal
            obtain ⟨first, others⟩ := List.cons_eq_cons.mp equal
            obtain rfl := PartitionUnit.command.inj first
            by_cases last : size = 0
            · subst last
              refine ⟨rfl, by omega, ?_⟩
              exact others
            · obtain ⟨_, bound, remaining⟩ := induction last others
              refine ⟨rfl, by omega, ?_⟩
              rw [remaining, Nat.succ_sub_succ, Nat.add_assoc,
                Nat.add_comm 1 size]
          · rw [draws, drawUnits_cons (by omega), List.cons_append] at equal
            have first := (List.cons_eq_cons.mp equal).1
            contradiction

theorem commands_append (stream : EncodePartitionReplayStream)
    (subdivided : Nat → Bool) {size count : Nat}
    (bound : size ≤ count)
    (whole : ∀ other, ordinal ≤ other → other < ordinal + size →
      subdivided other = false) :
    (List.range' ordinal size).map .command ++
        streamUnits stream subdivided (ordinal + size) (count - size) =
      streamUnits stream subdivided ordinal count := by
  have units : ∀ other ∈ List.range' ordinal size,
      ordinalUnits stream subdivided other = [.command other] := by
    intro other member
    rw [List.mem_range'_1] at member
    unfold ordinalUnits
    rw [whole other member.1 member.2]
    cases drawRunAt stream other with
    | none => rfl
    | some record => rfl
  have front : (List.range' ordinal size).map PartitionUnit.command =
      (List.range' ordinal size).flatMap
        (ordinalUnits stream subdivided) := by
    rw [List.flatMap_def, List.map_congr_left units, ← List.flatMap_def]
    exact List.map_eq_flatMap
  have split : count = size + (count - size) := by omega
  unfold streamUnits
  rw [front, ← List.flatMap_append, List.range'_append_1, ← split]

/-- Draws in front of the draws of a run are its next ones. -/
theorem draws_prefix {left right first last : Nat}
    {tail : List PartitionUnit} (nonempty : start < stop)
    (pending : first < last)
    (equal : drawUnits left start stop ++ rest =
      drawUnits right first last ++ tail)
    (inside : left = right → start = first → stop ≤ last) :
    left = right ∧ start = first ∧
      rest = drawUnits right stop last ++ tail := by
  have heads := equal
  rw [drawUnits_cons nonempty, drawUnits_cons pending, List.cons_append,
    List.cons_append] at heads
  have head := (List.cons_eq_cons.mp heads).1
  obtain ⟨sameOrdinal, sameStart⟩ := PartitionUnit.draw.inj head
  have bound := inside sameOrdinal sameStart
  subst sameOrdinal sameStart
  rw [drawUnits_append (Nat.le_of_lt nonempty) bound,
    List.append_assoc] at equal
  exact ⟨rfl, rfl, List.append_cancel_left equal⟩

variable {schema : PayloadSchema}

theorem resolveEncodePartitionEntry_record
    {snapshot : EncodePartitionEntrySnapshot}
    {source : ResolvedPublishedSource}
    {entry : ResolvedEncodePartitionEntry}
    (resolved : resolveEncodePartitionEntry schema snapshot [source] =
      .ok entry) :
    entry.command = (source.payload.commandAt snapshot.commandIndex).command ∧
      entry.command.kind = .drawRun ∧
      entry.command.drawRunRecord = some entry.drawRunRecord := by
  unfold resolveEncodePartitionEntry at resolved
  cases index : snapshot.source.retainedSourceIndex with
  | succ _ =>
      rw [index] at resolved
      contradiction
  | zero =>
      rw [index] at resolved
      simp only [List.getElem?_cons_zero] at resolved
      split at resolved
      · contradiction
      · split at resolved
        · contradiction
        · split at resolved
          · contradiction
          · split at resolved
            · rename_i record isDrawRun hasRecord
              -- The remaining checks only reject.
              repeat (split at resolved <;> try contradiction)
              obtain rfl := Except.ok.inj resolved
              exact ⟨rfl, isDrawRun, hasRecord⟩
            · contradiction

variable {stream : EncodePartitionReplayStream}
  {range : EncodePartitionRangeSnapshot}

theorem resolveEncodePartition_spec
    {partition : ResolvedEncodePartition}
    (resolved : resolveEncodePartition schema range stream = .ok partition) :
    let record := partition.entry.drawRunRecord
    let drawBegin := range.entry.drawParamIndex
    range.replayOrdinalCount = 1 ∧ range.drawEntryCount ≠ 0 ∧
      drawRunAt stream range.replayOrdinalBegin = some record ∧
      record.firstParam ≤ drawBegin ∧
      drawBegin + range.drawEntryCount ≤
        record.firstParam + record.paramCount ∧
      record.firstParam + record.paramCount ≤ maxUInt32 := by
  unfold resolveEncodePartition at resolved
  split at resolved
  · contradiction
  · split at resolved
    · contradiction
    · rename_i shape
      split at resolved
      · contradiction
      · rename_i sameCommand
        split at resolved
        · contradiction
        · rename_i entry entryResolved
          simp only at resolved
          split at resolved
          · contradiction
          · rename_i inside
            obtain rfl := Except.ok.inj resolved
            obtain ⟨command, kind, record⟩ :=
              resolveEncodePartitionEntry_record entryResolved
            simp only [Bool.or_eq_true, decide_eq_true_eq, beq_iff_eq,
              not_or, not_not, Nat.not_lt] at shape sameCommand inside
            refine ⟨shape.1.2, shape.2, ?_, ?_, ?_, ?_⟩
            · unfold drawRunAt
              rw [sameCommand]
              simp only
              rw [← command, if_pos kind, record]
            · simp only
              omega
            · simp only
              omega
            · simp only
              omega

/-! ## The loop -/

/-- The state of the loop is a position of the stream, at an ordinal or
inside its draw run. -/
structure ValidationState.Ok (stream : EncodePartitionReplayStream)
    (state : ValidationState) : Prop where
  bounded : state.expectedOrdinal ≤ stream.replayOrdinalCount
  inside : state.drawRunIncomplete = true → ∃ record,
    drawRunAt stream state.expectedOrdinal = some record ∧
      record.firstParam < state.expectedDrawParam ∧
      state.expectedDrawParam < record.firstParam + record.paramCount ∧
      state.expectedOrdinal < stream.replayOrdinalCount

/-- The units that the ranges ahead must have. -/
def remaining (stream : EncodePartitionReplayStream)
    (subdivided : Nat → Bool) (state : ValidationState) :
    List PartitionUnit :=
  if state.drawRunIncomplete then
    (match drawRunAt stream state.expectedOrdinal with
      | none => []
      | some record =>
          drawUnits state.expectedOrdinal state.expectedDrawParam
            (record.firstParam + record.paramCount)) ++
      streamUnits stream subdivided (state.expectedOrdinal + 1)
        (stream.replayOrdinalCount - (state.expectedOrdinal + 1))
  else
    streamUnits stream subdivided state.expectedOrdinal
      (stream.replayOrdinalCount - state.expectedOrdinal)

/-- What one range of the loop decides: a rejected range ends no covering,
and an accepted one leaves the rest of the units to the rest of the ranges. -/
def StepDecides (schema : PayloadSchema)
    (stream : EncodePartitionReplayStream) (state : ValidationState)
    (range : EncodePartitionRangeSnapshot) : Prop :=
  match validateRange schema stream state range with
  | .error _ =>
      ∀ subdivided rest, WellFormed schema stream range →
        rangeUnits range ++ rest ≠ remaining stream subdivided state
  | .ok next =>
      next.Ok stream ∧ WellFormed schema stream range ∧
        ∀ rest,
          (∃ subdivided, rangeUnits range ++ rest =
              remaining stream subdivided state) ↔
            ∃ subdivided, rest = remaining stream subdivided next

variable {state : ValidationState}

theorem stepDecides_segment (schema : PayloadSchema)
    (representable : stream.replayOrdinalCount ≤ maxUInt32) (ok : state.Ok stream)
    (segment : range.kind = .commandSegment) :
    StepDecides schema stream state range := by
  have units : rangeUnits range =
      (List.range' range.replayOrdinalBegin range.replayOrdinalCount).map
        .command := by
    unfold rangeUnits
    rw [segment]
  have formed : WellFormed schema stream range ↔
      range.replayOrdinalCount ≠ 0 ∧ range.drawEntryCount = 0 := by
    unfold WellFormed
    rw [segment]
  -- Inside a run the next unit is a draw, never a command.
  have notInside : state.drawRunIncomplete = true →
      ∀ subdivided rest, WellFormed schema stream range →
        rangeUnits range ++ rest ≠ remaining stream subdivided state := by
    intro incomplete subdivided rest wellFormed equal
    obtain ⟨record, found, _, pending, _⟩ := ok.inside incomplete
    have size : range.replayOrdinalCount =
        (range.replayOrdinalCount - 1) + 1 := by
      have nonempty := (formed.mp wellFormed).1
      omega
    unfold remaining at equal
    rw [incomplete, if_pos rfl, found, units, size, List.range'_succ,
      List.map_cons] at equal
    simp only at equal
    rw [drawUnits_cons pending, List.cons_append, List.cons_append] at equal
    have first := (List.cons_eq_cons.mp equal).1
    contradiction
  have whole : state.drawRunIncomplete = false →
      ∀ subdivided rest, WellFormed schema stream range →
        rangeUnits range ++ rest = remaining stream subdivided state →
        range.replayOrdinalBegin = state.expectedOrdinal ∧
          range.replayOrdinalCount ≤
            stream.replayOrdinalCount - state.expectedOrdinal ∧
          rest = streamUnits stream subdivided
            (state.expectedOrdinal + range.replayOrdinalCount)
            (stream.replayOrdinalCount - state.expectedOrdinal -
              range.replayOrdinalCount) := by
    intro complete subdivided rest wellFormed equal
    unfold remaining at equal
    rw [complete, if_neg Bool.false_ne_true, units] at equal
    exact commands_prefix stream subdivided (formed.mp wellFormed).1 equal
  have bounded := ok.bounded
  unfold StepDecides validateRange
  rw [if_pos segment]
  simp only
  by_cases empty : range.replayOrdinalCount = 0
  · rw [if_pos empty]
    exact fun _ _ wellFormed => absurd empty (formed.mp wellFormed).1
  by_cases hasDraws : range.drawEntryCount ≠ 0
  · rw [if_neg empty, if_pos hasDraws]
    exact fun _ _ wellFormed => absurd (formed.mp wellFormed).2 hasDraws
  cases incomplete : state.drawRunIncomplete with
  | true =>
      rw [if_neg empty, if_neg hasDraws, if_pos rfl]
      exact notInside incomplete
  | false =>
      rw [if_neg empty, if_neg hasDraws, if_neg Bool.false_ne_true]
      have continues := whole incomplete
      by_cases fits : range.replayOrdinalBegin = state.expectedOrdinal ∧
          range.replayOrdinalBegin + range.replayOrdinalCount ≤
            stream.replayOrdinalCount
      · rw [if_neg (by omega), if_neg (by omega), if_neg (by omega),
          if_neg (by omega)]
        obtain ⟨sameBegin, below⟩ := fits
        refine ⟨⟨below, ?_⟩, formed.mpr ⟨empty, not_not.mp hasDraws⟩, ?_⟩
        · intro still
          contradiction
        · intro rest
          have ahead : stream.replayOrdinalCount - state.expectedOrdinal -
                range.replayOrdinalCount =
              stream.replayOrdinalCount -
                (state.expectedOrdinal + range.replayOrdinalCount) := by
            omega
          unfold remaining
          simp only [incomplete, Bool.false_eq_true, if_false, sameBegin]
          constructor
          · rintro ⟨subdivided, equal⟩
            refine ⟨subdivided, ?_⟩
            have next := continues subdivided rest
              (formed.mpr ⟨empty, not_not.mp hasDraws⟩)
            unfold remaining at next
            simp only [incomplete, Bool.false_eq_true, if_false] at next
            rw [(next equal).2.2, ahead]
          · rintro ⟨subdivided, rfl⟩
            refine ⟨fun other =>
              if other < state.expectedOrdinal + range.replayOrdinalCount
              then false else subdivided other, ?_⟩
            rw [← ahead, units, sameBegin, ← commands_append stream
              (fun other =>
                if other < state.expectedOrdinal + range.replayOrdinalCount
                then false else subdivided other)
              (by omega) (fun other _ below => if_pos below)]
            congr 1
            apply streamUnits_congr
            intro other above
            exact (if_neg (by omega)).symm
      · have refused : ∀ subdivided rest, WellFormed schema stream range →
              rangeUnits range ++ rest ≠
                remaining stream subdivided state := by
          intro subdivided rest wellFormed equal
          obtain ⟨sameBegin, below, _⟩ :=
            continues subdivided rest wellFormed equal
          omega
        by_cases tooFar : maxUInt32 <
            range.replayOrdinalBegin + range.replayOrdinalCount
        · rw [if_pos tooFar]
          exact refused
        rw [if_neg tooFar]
        by_cases overlap : range.replayOrdinalBegin < state.expectedOrdinal
        · rw [if_pos overlap]
          exact refused
        rw [if_neg overlap]
        by_cases gap : state.expectedOrdinal < range.replayOrdinalBegin
        · rw [if_pos gap]
          exact refused
        rw [if_neg gap, if_pos (by omega)]
        exact refused

variable {record : DrawRunCommandRecord} {subdivided : Nat → Bool}

/-- What a draw range meets at the position of the loop. -/
theorem draws_ahead (ok : state.Ok stream)
    (found : drawRunAt stream range.replayOrdinalBegin = some record)
    (nonempty : range.drawEntryCount ≠ 0)
    (inside : range.entry.drawParamIndex + range.drawEntryCount ≤
      record.firstParam + record.paramCount)
    (equal : drawUnits range.replayOrdinalBegin range.entry.drawParamIndex
        (range.entry.drawParamIndex + range.drawEntryCount) ++ rest =
      remaining stream subdivided state) :
    range.replayOrdinalBegin = state.expectedOrdinal ∧
      range.entry.drawParamIndex =
        (if state.drawRunIncomplete then state.expectedDrawParam
          else record.firstParam) ∧
      state.expectedOrdinal < stream.replayOrdinalCount ∧
      rest = drawUnits state.expectedOrdinal
          (range.entry.drawParamIndex + range.drawEntryCount)
          (record.firstParam + record.paramCount) ++
        streamUnits stream subdivided (state.expectedOrdinal + 1)
          (stream.replayOrdinalCount - (state.expectedOrdinal + 1)) := by
  unfold remaining at equal
  cases incomplete : state.drawRunIncomplete with
  | true =>
      obtain ⟨current, here, _, pending, below⟩ := ok.inside incomplete
      rw [incomplete, if_pos rfl, here] at equal
      have sameRun : range.replayOrdinalBegin = state.expectedOrdinal →
          record = current := by
        intro same
        rw [same, here] at found
        exact (Option.some.inj found).symm
      obtain ⟨sameOrdinal, sameStart, others⟩ :=
        draws_prefix (by omega) pending equal
          (fun same _ => sameRun same ▸ inside)
      obtain rfl := sameRun sameOrdinal
      exact ⟨sameOrdinal, sameStart, below, sameOrdinal ▸ others⟩
  | false =>
      rw [incomplete, if_neg Bool.false_ne_true] at equal
      have bounded := ok.bounded
      cases count : stream.replayOrdinalCount - state.expectedOrdinal with
      | zero =>
          rw [count, drawUnits_cons (by omega)] at equal
          contradiction
      | succ more =>
          have ahead : stream.replayOrdinalCount -
              (state.expectedOrdinal + 1) = more := by omega
          rw [count, streamUnits_succ] at equal
          rcases ordinalUnits_cases stream subdivided
              state.expectedOrdinal with
            whole | ⟨current, here, hasDraws, draws⟩
          · rw [whole, drawUnits_cons (by omega)] at equal
            have first := (List.cons_eq_cons.mp equal).1
            contradiction
          · rw [draws] at equal
            have sameRun : range.replayOrdinalBegin =
                state.expectedOrdinal → record = current := by
              intro same
              rw [same, here] at found
              exact (Option.some.inj found).symm
            obtain ⟨sameOrdinal, sameStart, others⟩ :=
              draws_prefix (by omega) (by omega) equal
                (fun same _ => sameRun same ▸ inside)
            obtain rfl := sameRun sameOrdinal
            rw [ahead]
            exact ⟨sameOrdinal, sameStart, by omega, sameOrdinal ▸ others⟩

theorem remaining_start (complete : state.drawRunIncomplete = false)
    (found : drawRunAt stream state.expectedOrdinal = some record)
    (hasDraws : record.paramCount ≠ 0)
    (below : state.expectedOrdinal < stream.replayOrdinalCount)
    (isSubdivided : subdivided state.expectedOrdinal = true) :
    remaining stream subdivided state =
      drawUnits state.expectedOrdinal record.firstParam
          (record.firstParam + record.paramCount) ++
        streamUnits stream subdivided (state.expectedOrdinal + 1)
          (stream.replayOrdinalCount - (state.expectedOrdinal + 1)) := by
  have count : stream.replayOrdinalCount - state.expectedOrdinal =
      (stream.replayOrdinalCount - (state.expectedOrdinal + 1)) + 1 := by
    omega
  unfold remaining
  rw [complete, if_neg Bool.false_ne_true, count, streamUnits_succ]
  congr 1
  unfold ordinalUnits
  rw [found, isSubdivided]
  simp only [Bool.true_and, bne_iff_ne, ne_eq, hasDraws, not_false_iff,
    if_true]

theorem remaining_inside (incomplete : state.drawRunIncomplete = true)
    (found : drawRunAt stream state.expectedOrdinal = some record)
    (subdivided : Nat → Bool) :
    remaining stream subdivided state =
      drawUnits state.expectedOrdinal state.expectedDrawParam
          (record.firstParam + record.paramCount) ++
        streamUnits stream subdivided (state.expectedOrdinal + 1)
          (stream.replayOrdinalCount - (state.expectedOrdinal + 1)) := by
  unfold remaining
  rw [incomplete, if_pos rfl, found]

theorem lt_of_drawRunAt
    (found : drawRunAt stream ordinal = some record) :
    ordinal < stream.replayOrdinalCount := by
  by_contra beyond
  have absent : stream.commandIndexAt ordinal = none := by
    unfold EncodePartitionReplayStream.commandIndexAt
    rw [if_pos]
    rw [Bool.or_eq_true, decide_eq_true_eq]
    exact Or.inr (Nat.not_lt.mp beyond)
  unfold drawRunAt at found
  rw [absent] at found
  contradiction

/-- The units in front of those ahead, for the draws that come next. -/
theorem draws_behind
    (found : drawRunAt stream state.expectedOrdinal = some record) (nonempty : start < stop)
    (inside : stop ≤ record.firstParam + record.paramCount)
    (expected : start = if state.drawRunIncomplete then state.expectedDrawParam
      else record.firstParam)
    (subdivided : Nat → Bool) :
    ∃ other, drawUnits state.expectedOrdinal start stop ++
        (drawUnits state.expectedOrdinal stop
            (record.firstParam + record.paramCount) ++
          streamUnits stream subdivided (state.expectedOrdinal + 1)
            (stream.replayOrdinalCount - (state.expectedOrdinal + 1))) =
      remaining stream other state := by
  rw [← List.append_assoc, ← drawUnits_append (Nat.le_of_lt nonempty) inside]
  cases incomplete : state.drawRunIncomplete with
  | true =>
      rw [incomplete, if_pos rfl] at expected
      refine ⟨subdivided, ?_⟩
      rw [remaining_inside incomplete found, expected]
  | false =>
      rw [incomplete, if_neg Bool.false_ne_true] at expected
      refine ⟨fun ordinal =>
        if ordinal = state.expectedOrdinal then true
        else subdivided ordinal, ?_⟩
      rw [remaining_start incomplete found (by omega)
        (lt_of_drawRunAt found) (if_pos rfl), expected]
      congr 1
      apply streamUnits_congr
      intro ordinal above
      exact (if_neg (by omega)).symm

theorem stepDecides_draws (schema : PayloadSchema) (ok : state.Ok stream)
    (draws : range.kind = .drawRunEntries) :
    StepDecides schema stream state range := by
  have units : rangeUnits range =
      drawUnits range.replayOrdinalBegin range.entry.drawParamIndex
        (range.entry.drawParamIndex + range.drawEntryCount) := by
    unfold rangeUnits
    rw [draws]
  have formed : WellFormed schema stream range ↔ ∃ partition,
      resolveEncodePartition schema range stream = .ok partition := by
    unfold WellFormed
    rw [draws]
  have notSegment : range.kind ≠ .commandSegment := by
    rw [draws]
    decide
  -- A range that covers what is ahead begins where the loop expects it.
  have placed : ∀ subdivided rest, WellFormed schema stream range →
      rangeUnits range ++ rest = remaining stream subdivided state →
      ∃ partition, resolveEncodePartition schema range stream = .ok partition ∧
        range.replayOrdinalBegin = state.expectedOrdinal ∧
        range.entry.drawParamIndex =
          (if state.drawRunIncomplete then state.expectedDrawParam
            else partition.entry.drawRunRecord.firstParam) ∧
        rest = drawUnits state.expectedOrdinal
            (range.entry.drawParamIndex + range.drawEntryCount)
            (partition.entry.drawRunRecord.firstParam +
              partition.entry.drawRunRecord.paramCount) ++
          streamUnits stream subdivided (state.expectedOrdinal + 1)
            (stream.replayOrdinalCount - (state.expectedOrdinal + 1)) := by
    intro subdivided rest wellFormed equal
    obtain ⟨partition, resolved⟩ := formed.mp wellFormed
    obtain ⟨_, nonempty, found, _, inside, _⟩ :=
      resolveEncodePartition_spec resolved
    rw [units] at equal
    obtain ⟨sameOrdinal, sameStart, _, others⟩ :=
      draws_ahead ok found nonempty inside equal
    exact ⟨partition, resolved, sameOrdinal, sameStart, others⟩
  unfold StepDecides validateRange
  rw [if_neg notSegment]
  by_cases single : range.replayOrdinalCount ≠ 1
  · rw [if_pos single]
    intro subdivided rest wellFormed
    obtain ⟨partition, resolved⟩ := formed.mp wellFormed
    exact absurd (resolveEncodePartition_spec resolved).1 single
  by_cases empty : range.drawEntryCount = 0
  · rw [if_neg single, if_pos empty]
    intro subdivided rest wellFormed
    obtain ⟨partition, resolved⟩ := formed.mp wellFormed
    exact absurd empty (resolveEncodePartition_spec resolved).2.1
  rw [if_neg single, if_neg empty]
  by_cases overlap : range.replayOrdinalBegin < state.expectedOrdinal
  · rw [if_pos overlap]
    intro subdivided rest wellFormed equal
    obtain ⟨_, _, same, _⟩ := placed subdivided rest wellFormed equal
    omega
  by_cases gap : state.expectedOrdinal < range.replayOrdinalBegin
  · rw [if_neg overlap, if_pos gap]
    intro subdivided rest wellFormed equal
    obtain ⟨_, _, same, _⟩ := placed subdivided rest wellFormed equal
    omega
  rw [if_neg overlap, if_neg gap]
  have sameOrdinal : range.replayOrdinalBegin = state.expectedOrdinal := by
    omega
  cases resolved : resolveEncodePartition schema range stream with
  | error rejection =>
      intro subdivided rest wellFormed
      obtain ⟨partition, isOk⟩ := formed.mp wellFormed
      rw [resolved] at isOk
      contradiction
  | ok partition =>
      obtain ⟨_, nonempty, found, first, inside, representable⟩ :=
        resolveEncodePartition_spec resolved
      have continues : ∀ subdivided rest,
          rangeUnits range ++ rest = remaining stream subdivided state →
          range.entry.drawParamIndex =
            (if state.drawRunIncomplete then state.expectedDrawParam
              else partition.entry.drawRunRecord.firstParam) ∧
          rest = drawUnits state.expectedOrdinal
              (range.entry.drawParamIndex + range.drawEntryCount)
              (partition.entry.drawRunRecord.firstParam +
                partition.entry.drawRunRecord.paramCount) ++
            streamUnits stream subdivided (state.expectedOrdinal + 1)
              (stream.replayOrdinalCount - (state.expectedOrdinal + 1)) := by
        intro subdivided rest equal
        obtain ⟨other, isOk, _, start, others⟩ :=
          placed subdivided rest (formed.mpr ⟨partition, resolved⟩) equal
        obtain rfl := Except.ok.inj (resolved.symm.trans isOk)
        exact ⟨start, others⟩
      rw [sameOrdinal] at found
      simp only
      generalize expectedIs : (if state.drawRunIncomplete then
        state.expectedDrawParam
        else partition.entry.drawRunRecord.firstParam) = expected
        at continues ⊢
      by_cases before : range.entry.drawParamIndex < expected
      · rw [if_pos before]
        intro subdivided rest _ equal
        have same := (continues subdivided rest equal).1
        omega
      by_cases behind : expected < range.entry.drawParamIndex
      · rw [if_neg before, if_pos behind]
        intro subdivided rest _ equal
        have same := (continues subdivided rest equal).1
        omega
      have start : range.entry.drawParamIndex = expected := by omega
      have backward := draws_behind found
        (by omega : range.entry.drawParamIndex <
          range.entry.drawParamIndex + range.drawEntryCount)
        inside (start.trans expectedIs.symm)
      rw [← sameOrdinal, ← units, sameOrdinal] at backward
      have bounded : ¬(decide (maxUInt32 < range.entry.drawParamIndex +
            range.drawEntryCount) ||
          decide (maxUInt32 < partition.entry.drawRunRecord.firstParam +
            partition.entry.drawRunRecord.paramCount) ||
          decide (partition.entry.drawRunRecord.firstParam +
              partition.entry.drawRunRecord.paramCount <
            range.entry.drawParamIndex + range.drawEntryCount)) = true := by
        simp only [Bool.or_eq_true, decide_eq_true_eq, not_or, Nat.not_lt]
        omega
      rw [if_neg before, if_neg behind, if_neg bounded]
      by_cases complete : range.entry.drawParamIndex + range.drawEntryCount =
          partition.entry.drawRunRecord.firstParam +
            partition.entry.drawRunRecord.paramCount
      · rw [if_neg (not_not.mpr complete)]
        have below := lt_of_drawRunAt found
        refine ⟨⟨below, ?_⟩, formed.mpr ⟨partition, resolved⟩, ?_⟩
        · intro still
          contradiction
        · intro rest
          rw [complete, drawUnits_self] at continues
          rw [complete, drawUnits_self] at backward
          constructor
          · rintro ⟨subdivided, equal⟩
            exact ⟨subdivided, (continues subdivided rest equal).2⟩
          · rintro ⟨subdivided, rfl⟩
            exact backward subdivided
      · rw [if_pos complete]
        have pending : range.entry.drawParamIndex + range.drawEntryCount <
            partition.entry.drawRunRecord.firstParam +
              partition.entry.drawRunRecord.paramCount := by omega
        refine ⟨⟨ok.bounded, ?_⟩, formed.mpr ⟨partition, resolved⟩, ?_⟩
        · intro _
          exact ⟨partition.entry.drawRunRecord, found, by simp only; omega,
            pending, lt_of_drawRunAt found⟩
        · intro rest
          have inRun := fun subdivided => @remaining_inside stream
            { state with
              expectedDrawParam :=
                range.entry.drawParamIndex + range.drawEntryCount
              drawRunIncomplete := true } _ rfl found subdivided
          constructor
          · rintro ⟨subdivided, equal⟩
            refine ⟨subdivided, ?_⟩
            rw [inRun]
            exact (continues subdivided rest equal).2
          · rintro ⟨subdivided, rfl⟩
            rw [inRun]
            exact backward subdivided

theorem stepDecides (schema : PayloadSchema)
    (representable : stream.replayOrdinalCount ≤ maxUInt32) (ok : state.Ok stream)
    (range : EncodePartitionRangeSnapshot) :
    StepDecides schema stream state range := by
  cases kind : range.kind with
  | commandSegment =>
      exact stepDecides_segment schema representable ok kind
  | drawRunEntries => exact stepDecides_draws schema ok kind

theorem resolveEncodePartition_error {rejection : Rejection}
    (rejected : resolveEncodePartition schema range stream =
      .error rejection) : rejection.validation ≠ .valid := by
  unfold resolveEncodePartition at rejected
  split at rejected
  · obtain rfl := Except.error.inj rejected
    decide
  · split at rejected
    · obtain rfl := Except.error.inj rejected
      simp only
      split
      · split
        · decide
        · decide
      · decide
    · split at rejected
      · obtain rfl := Except.error.inj rejected
        decide
      · split at rejected
        · obtain rfl := Except.error.inj rejected
          exact fun same => by contradiction
        · simp only at rejected
          split at rejected
          · obtain rfl := Except.error.inj rejected
            decide
          · contradiction

/-- A check that fails gives a reason other than valid. -/
def NeverValid (result : Except Rejection ValidationState) : Prop :=
  ∀ rejection, result = .error rejection → rejection.validation ≠ .valid

theorem neverValid_ok (state : ValidationState) : NeverValid (.ok state) := by
  intro rejection rejected
  contradiction

theorem neverValid_rejectRange {validation : EncodePartitionRangeValidation}
    (reason : validation ≠ .valid) :
    NeverValid (rejectRange validation) := by
  intro rejection rejected
  obtain rfl := Except.error.inj rejected
  exact reason

theorem neverValid_ite {condition : Prop} [Decidable condition]
    {first second : Except Rejection ValidationState}
    (firstNever : NeverValid first) (secondNever : NeverValid second) :
    NeverValid (if condition then first else second) := by
  split
  · exact firstNever
  · exact secondNever

theorem validateRange_error (schema : PayloadSchema)
    (stream : EncodePartitionReplayStream) (state : ValidationState)
    (range : EncodePartitionRangeSnapshot) :
    NeverValid (validateRange schema stream state range) := by
  unfold validateRange
  apply neverValid_ite
  · -- A segment of whole commands.
    iterate 7 apply neverValid_ite (neverValid_rejectRange (by decide))
    exact neverValid_ok _
  · -- The draws of a run.
    iterate 4 apply neverValid_ite (neverValid_rejectRange (by decide))
    cases resolved : resolveEncodePartition schema range stream with
    | error inner =>
        intro rejection rejected
        obtain rfl := Except.error.inj rejected
        exact resolveEncodePartition_error resolved
    | ok partition =>
        iterate 3 apply neverValid_ite (neverValid_rejectRange (by decide))
        exact neverValid_ite (neverValid_ok _) (neverValid_ok _)

/-- Nothing is ahead exactly at the end of the stream. -/
theorem remaining_eq_nil_iff (ok : state.Ok stream) :
    (∃ subdivided, [] = remaining stream subdivided state) ↔
      state.drawRunIncomplete = false ∧
        state.expectedOrdinal = stream.replayOrdinalCount := by
  have bounded := ok.bounded
  cases incomplete : state.drawRunIncomplete with
  | true =>
      refine iff_of_false ?_ (fun both => Bool.noConfusion both.1)
      rintro ⟨subdivided, equal⟩
      obtain ⟨record, found, _, pending, _⟩ := ok.inside incomplete
      rw [remaining_inside incomplete found, drawUnits_cons pending] at equal
      contradiction
  | false =>
      unfold remaining
      rw [incomplete]
      simp only [Bool.false_eq_true, if_false, true_and]
      constructor
      · rintro ⟨subdivided, equal⟩
        by_contra more
        have count : stream.replayOrdinalCount - state.expectedOrdinal =
            (stream.replayOrdinalCount - state.expectedOrdinal - 1) + 1 := by
          omega
        rw [count, streamUnits_succ] at equal
        exact ordinalUnits_ne_nil stream subdivided state.expectedOrdinal
          (List.append_eq_nil_iff.mp equal.symm).1
      · intro done
        refine ⟨fun _ => false, ?_⟩
        rw [done, Nat.sub_self]
        rfl

theorem validateFrom_iff (schema : PayloadSchema)
    (representable : stream.replayOrdinalCount ≤ maxUInt32)
    (ranges : List EncodePartitionRangeSnapshot) (ok : state.Ok stream) (rangeIndex : Nat) :
    (validateFrom schema stream state rangeIndex ranges).validation = .valid ↔
      (∀ range ∈ ranges, WellFormed schema stream range) ∧
        ∃ subdivided, ranges.flatMap rangeUnits =
          remaining stream subdivided state := by
  induction ranges generalizing state rangeIndex with
  | nil =>
      have nothing := remaining_eq_nil_iff ok
      rw [List.flatMap_nil, nothing]
      unfold validateFrom
      cases incomplete : state.drawRunIncomplete with
      | true => simp
      | false =>
          by_cases done : state.expectedOrdinal = stream.replayOrdinalCount
          · simp [done]
          · simp [done]
  | cons range rest induction =>
      have decides := stepDecides schema representable ok range
      rw [List.flatMap_cons]
      unfold validateFrom
      unfold StepDecides at decides
      cases result : validateRange schema stream state range with
      | error rejection =>
          rw [result] at decides
          have rejected :=
            validateRange_error schema stream state range _ result
          refine iff_of_false rejected ?_
          rintro ⟨wellFormed, subdivided, equal⟩
          exact decides subdivided _
            (wellFormed range List.mem_cons_self) equal
      | ok next =>
          rw [result] at decides
          obtain ⟨nextOk, wellFormed, split⟩ := decides
          simp only
          rw [induction nextOk, split, List.forall_mem_cons]
          exact ⟨fun both => ⟨⟨wellFormed, both.1⟩, both.2⟩,
            fun both => ⟨both.1.2, both.2⟩⟩

/-- The validator accepts a list of ranges exactly when every range is well
formed and together, in order, they cover the stream. -/
theorem validateEncodePartitionRanges_iff (schema : PayloadSchema)
    (ranges : List EncodePartitionRangeSnapshot)
    (stream : EncodePartitionReplayStream) :
    (validateEncodePartitionRanges schema ranges stream).validation = .valid ↔
      stream.valid = true ∧ stream.replayOrdinalCount ≤ maxUInt32 ∧
        (∀ range ∈ ranges, WellFormed schema stream range) ∧
        Covers stream ranges := by
  unfold validateEncodePartitionRanges
  cases valid : stream.valid with
  | false => simp
  | true =>
      by_cases tooLarge : maxUInt32 < stream.replayOrdinalCount
      · simp [tooLarge]
      · have start : ValidationState.Ok stream {} :=
          ⟨Nat.zero_le _, fun incomplete => Bool.noConfusion incomplete⟩
        have representable := Nat.not_lt.mp tooLarge
        simp only [Bool.not_true, Bool.false_eq_true, if_false, tooLarge]
        rw [validateFrom_iff schema representable ranges start]
        simp only [representable, true_and]
        rfl

end Dxmt9.EncodePartition
