import Dxmt9.EncodePartition.PartitionCoverage
import Dxmt9.EncodePartition.PartitionPlan

/-!
# Soundness of the production plan

Every cut of the plan separates draws that do not merge and leaves enough
draws on both sides; an explicit plan is one that the validator accepts, so it
covers the stream.
-/

namespace Dxmt9.EncodePartition

open Dxmt9.Tape

/-- The draws before and behind a position merge. -/
def Merges (draws : List DrawParam) (payload : List UInt8)
    (position : Nat) : Prop :=
  classifyCompatibleIndexedDrawMergePair (draws.getD (position - 1) {})
    (draws.getD position {}) payload = 0

theorem not_merges_of_separates {draws : List DrawParam}
    {payload : List UInt8} {position : Nat}
    (separated : separates draws payload position = true) :
    ¬Merges draws payload position :=
  bne_iff_ne.mp separated

/-- A cut leaves the minimum on both sides and splits no merged pair. -/
theorem findMergePreservingPartitionEdge_spec {draws : List DrawParam}
    {payload : List UInt8} {rangeBegin : Nat}
    (cut : findMergePreservingPartitionEdge draws payload rangeBegin ≠
      draws.length) :
    let edge := findMergePreservingPartitionEdge draws payload rangeBegin
    rangeBegin + kProductionPartitionMinimumDraws ≤ edge ∧
      edge + kProductionPartitionMinimumDraws ≤ draws.length ∧
      ¬Merges draws payload edge := by
  unfold findMergePreservingPartitionEdge at cut ⊢
  simp only at cut ⊢
  split at cut
  · contradiction
  · rename_i enough
    rw [if_neg enough]
    simp only [Bool.or_eq_true, decide_eq_true_eq, not_or, Nat.not_lt]
      at enough
    split at cut
    · contradiction
    · rename_i room
      rw [if_neg room]
      generalize searched : (List.range _).findSome? _ = found at cut ⊢
      cases found with
      | none => contradiction
      | some candidate =>
          obtain ⟨distance, _, chosen⟩ :=
            List.exists_of_findSome?_eq_some searched
          have least : kProductionPartitionMinimumDraws = 16 := rfl
          have target : kProductionPartitionTargetDraws = 32 := rfl
          have threshold : kProductionPartitionDrawThreshold = 64 := rfl
          simp only [Option.getD_some]
          split at chosen
          · rename_i earlier
            rw [Bool.and_eq_true, decide_eq_true_eq] at earlier
            obtain rfl := Option.some.inj chosen
            refine ⟨?_, ?_, not_merges_of_separates earlier.2⟩
            · omega
            · omega
          · split at chosen
            · rename_i later
              rw [Bool.and_eq_true, Bool.and_eq_true, decide_eq_true_eq]
                at later
              obtain rfl := Option.some.inj chosen
              refine ⟨?_, ?_, not_merges_of_separates later.2⟩
              · omega
              · omega
            · contradiction

/-! ## Planned ranges -/

/-- No end of a draw range that is inside its run splits a merged pair. -/
def CutSafe (stream : EncodePartitionReplayStream)
    (range : EncodePartitionRangeSnapshot) : Prop :=
  ∀ commandIndex record,
    stream.commandIndexAt range.replayOrdinalBegin = some commandIndex →
    let command := (stream.source.payload.commandAt commandIndex).command
    command.drawRunRecord = some record →
    let start := range.entry.drawParamIndex - record.firstParam
    let stop := start + range.drawEntryCount
    (start ≠ 0 →
        ¬Merges command.drawParams command.drawPayloadBytes start) ∧
      (stop ≠ command.drawParams.length →
        ¬Merges command.drawParams command.drawPayloadBytes stop)

/-- A draw range of the plan has the minimum of draws and safe ends. -/
def Planned (stream : EncodePartitionReplayStream)
    (range : EncodePartitionRangeSnapshot) : Prop :=
  range.kind = .drawRunEntries →
    kProductionPartitionMinimumDraws ≤ range.drawEntryCount ∧
      CutSafe stream range

theorem buildEncodePartitionEntrySnapshot_drawParamIndex
    {schema : PayloadSchema} {stream : EncodePartitionReplayStream}
    {replayOrdinal drawParamIndex : Nat}
    {entry : EncodePartitionEntrySnapshot}
    (built : buildEncodePartitionEntrySnapshot schema stream replayOrdinal
      drawParamIndex = some entry) :
    entry.drawParamIndex = drawParamIndex := by
  unfold buildEncodePartitionEntrySnapshot at built
  split at built
  · contradiction
  · split at built
    · contradiction
    · simp only at built
      -- The remaining checks only reject.
      repeat (split at built <;> try contradiction)
      obtain rfl := Option.some.inj built
      rfl

theorem planned_appendProductionRange
    {stream : EncodePartitionReplayStream} {storage next : Storage}
    {range : EncodePartitionRangeSnapshot}
    (planned : ∀ other ∈ storage, Planned stream other)
    (added : Planned stream range)
    (appended : appendProductionRange storage range = some next) :
    ∀ other ∈ next, Planned stream other := by
  unfold appendProductionRange at appended
  split at appended
  · contradiction
  · obtain rfl := Option.some.inj appended
    intro other member
    rcases List.mem_append.mp member with before | last
    · exact planned other before
    · obtain rfl := List.mem_singleton.mp last
      exact added

theorem planned_appendProductionCommandOrdinal
    {stream : EncodePartitionReplayStream} {storage next : Storage}
    {replayOrdinal : Nat}
    (planned : ∀ other ∈ storage, Planned stream other)
    (appended : appendProductionCommandOrdinal storage replayOrdinal =
      some next) : ∀ other ∈ next, Planned stream other := by
  have segment : ∀ range : EncodePartitionRangeSnapshot,
      range.kind = .commandSegment → Planned stream range := by
    intro range isSegment isDraws
    rw [isSegment] at isDraws
    contradiction
  unfold appendProductionCommandOrdinal at appended
  simp only at appended
  split at appended
  · exact planned_appendProductionRange planned (segment _ rfl) appended
  · rename_i tail _
    split at appended
    · rename_i extends_
      simp only [Bool.and_eq_true, decide_eq_true_eq] at extends_
      obtain rfl := Option.some.inj appended
      intro other member
      rcases List.mem_append.mp member with before | last
      · exact planned other (List.dropLast_subset _ before)
      · obtain rfl := List.mem_singleton.mp last
        exact segment _ extends_.1.1
    · exact planned_appendProductionRange planned (segment _ rfl) appended

section Run

variable {schema : PayloadSchema} {stream : EncodePartitionReplayStream}
  {replayOrdinal commandIndex : Nat} {record : DrawRunCommandRecord}

/-- The command that a replay ordinal selects. -/
abbrev commandOf (stream : EncodePartitionReplayStream)
    (commandIndex : Nat) : MetalCommandView :=
  (stream.source.payload.commandAt commandIndex).command

/-- A position of the run where a range may begin or end. -/
def Boundary (command : MetalCommandView) (position : Nat) : Prop :=
  position = 0 ∨ position = command.drawParams.length ∨
    ¬Merges command.drawParams command.drawPayloadBytes position

section

variable (selected : stream.commandIndexAt replayOrdinal = some commandIndex)
  (isRun : (commandOf stream commandIndex).drawRunRecord = some record)
include selected isRun

theorem planned_appendDrawRange
    {storage next : Storage} {start stop : Nat}
    (planned : ∀ other ∈ storage, Planned stream other)
    (enough : start + kProductionPartitionMinimumDraws ≤ stop)
    (startSafe : Boundary (commandOf stream commandIndex) start)
    (stopSafe : Boundary (commandOf stream commandIndex) stop)
    (appended : appendDrawRange schema stream replayOrdinal
      (commandOf stream commandIndex) record storage start stop =
        some next) : ∀ other ∈ next, Planned stream other := by
  unfold appendDrawRange at appended
  split at appended
  · contradiction
  · rename_i inside
    simp only [Bool.or_eq_true, decide_eq_true_eq, not_or, Nat.not_lt,
      Nat.not_le] at inside
    split at appended
    · contradiction
    · rename_i entry built
      refine planned_appendProductionRange planned ?_ appended
      have index := buildEncodePartitionEntrySnapshot_drawParamIndex built
      intro _
      refine ⟨by simp only; omega, ?_⟩
      intro otherIndex otherRecord otherSelected command otherIsRun
      simp only at otherSelected
      rw [selected] at otherSelected
      obtain rfl := Option.some.inj otherSelected
      obtain rfl := Option.some.inj (isRun.symm.trans otherIsRun)
      have startIs : entry.drawParamIndex - record.firstParam = start := by
        omega
      have stopIs : start + (stop - start) = stop := by omega
      simp only [startIs, stopIs]
      constructor
      · intro interior
        rcases startSafe with zero | atEnd | apart
        · contradiction
        · omega
        · exact apart
      · intro interior
        rcases stopSafe with zero | atEnd | apart
        · omega
        · contradiction
        · exact apart

theorem planned_cutDrawRun
    {fuel : Nat} {storage : Storage} {rangeBegin : Nat}
    (planned : ∀ other ∈ storage, Planned stream other)
    (safe : Boundary (commandOf stream commandIndex) rangeBegin)
    (enough : rangeBegin ≠ 0 → rangeBegin + kProductionPartitionMinimumDraws ≤
        (commandOf stream commandIndex).drawParams.length)
    {result : Storage × Nat}
    (cut : cutDrawRun schema stream replayOrdinal
      (commandOf stream commandIndex) record fuel storage rangeBegin =
        .ok result) :
    (∀ other ∈ result.1, Planned stream other) ∧
      Boundary (commandOf stream commandIndex) result.2 ∧
      (result.2 ≠ 0 → result.2 + kProductionPartitionMinimumDraws ≤
          (commandOf stream commandIndex).drawParams.length) := by
  induction fuel generalizing storage rangeBegin with
  | zero =>
      obtain rfl := Except.ok.inj cut
      exact ⟨planned, safe, enough⟩
  | succ fuel induction =>
      unfold cutDrawRun at cut
      split at cut
      · obtain rfl := Except.ok.inj cut
        exact ⟨planned, safe, enough⟩
      · simp only at cut
        split at cut
        · obtain rfl := Except.ok.inj cut
          exact ⟨planned, safe, enough⟩
        · rename_i isCut
          obtain ⟨before, behind, apart⟩ :=
            findMergePreservingPartitionEdge_spec isCut
          split at cut
          · contradiction
          · rename_i next appended
            have edgeSafe := (Or.inr (Or.inr apart) :
              Boundary (commandOf stream commandIndex) _)
            exact induction
              (planned_appendDrawRange selected isRun planned before safe
                edgeSafe appended)
              edgeSafe (fun _ => behind) cut

theorem planned_planDrawRun
    {state next : PlanState}
    (planned : ∀ other ∈ state.storage, Planned stream other)
    (planning : planDrawRun schema stream state replayOrdinal
      (commandOf stream commandIndex) record = .ok next) :
    ∀ other ∈ next.storage, Planned stream other := by
  have start : Boundary (commandOf stream commandIndex) 0 := Or.inl rfl
  unfold planDrawRun at planning
  by_cases eligible : kProductionPartitionDrawThreshold ≤ record.paramCount
  · simp only [eligible, if_true] at planning
    cases cuts : cutDrawRun schema stream replayOrdinal
        (commandOf stream commandIndex) record
        (commandOf stream commandIndex).drawParams.length state.storage 0
      with
    | error storage =>
        rw [cuts] at planning
        contradiction
    | ok result =>
        rw [cuts] at planning
        obtain ⟨before, safe, enough⟩ :=
          planned_cutDrawRun selected isRun planned start
            (fun nonzero => absurd rfl nonzero) cuts
        simp only at planning
        split at planning
        · split at planning
          · contradiction
          · rename_i storage appended
            obtain rfl := Except.ok.inj planning
            exact planned_appendProductionCommandOrdinal before appended
        · rename_i subdivided
          split at planning
          · contradiction
          · rename_i storage appended
            obtain rfl := Except.ok.inj planning
            exact planned_appendDrawRange selected isRun before
              (enough subdivided) safe (Or.inr (Or.inl rfl)) appended
  · simp only [eligible, if_false, if_true] at planning
    split at planning
    · contradiction
    · rename_i storage appended
      obtain rfl := Except.ok.inj planning
      exact planned_appendProductionCommandOrdinal planned appended

end

end Run

/-! ## The plan -/

section Plan

variable {schema : PayloadSchema} {stream : EncodePartitionReplayStream}

theorem planned_planWholeCommand {state next : PlanState}
    {replayOrdinal : Nat}
    (planned : ∀ other ∈ state.storage, Planned stream other)
    (planning : planWholeCommand state replayOrdinal = .ok next) :
    ∀ other ∈ next.storage, Planned stream other := by
  unfold planWholeCommand at planning
  split at planning
  · contradiction
  · rename_i storage appended
    obtain rfl := Except.ok.inj planning
    exact planned_appendProductionCommandOrdinal planned appended

theorem planned_planOrdinal {state next : PlanState} {replayOrdinal : Nat}
    (planned : ∀ other ∈ state.storage, Planned stream other)
    (planning : planOrdinal schema stream state replayOrdinal =
      .ok next) : ∀ other ∈ next.storage, Planned stream other := by
  unfold planOrdinal at planning
  split at planning
  · contradiction
  · rename_i commandIndex selected
    simp only at planning
    split at planning
    · rename_i record _ isRun
      split at planning
      · exact planned_planWholeCommand planned planning
      · exact planned_planDrawRun selected isRun planned planning
    · exact planned_planWholeCommand planned planning

theorem planned_planOrdinals {ordinals : List Nat} {state next : PlanState}
    (planned : ∀ other ∈ state.storage, Planned stream other)
    (planning : planOrdinals schema stream state ordinals = .ok next) :
    ∀ other ∈ next.storage, Planned stream other := by
  induction ordinals generalizing state with
  | nil =>
      obtain rfl := Except.ok.inj planning
      exact planned
  | cons ordinal rest induction =>
      unfold planOrdinals at planning
      split at planning
      · contradiction
      · rename_i between step
        exact induction (planned_planOrdinal planned step) planning

/-- The loop itself never makes the plan explicit. -/
def NotExplicit :
    Except ProductionEncodePartitionPlanResult PlanState → Prop
  | .error result => result.explicitPlan = false
  | .ok state => state.result.explicitPlan = false

theorem notExplicit_planWholeCommand {state : PlanState}
    (pending : state.result.explicitPlan = false) (replayOrdinal : Nat) :
    NotExplicit (planWholeCommand state replayOrdinal) := by
  unfold planWholeCommand
  split
  · exact pending
  · exact pending

theorem notExplicit_planDrawRun {state : PlanState}
    (pending : state.result.explicitPlan = false) (replayOrdinal : Nat)
    (command : MetalCommandView) (record : DrawRunCommandRecord) :
    NotExplicit (planDrawRun schema stream state replayOrdinal command
      record) := by
  unfold planDrawRun
  by_cases eligible : kProductionPartitionDrawThreshold ≤ record.paramCount
  · simp only [eligible, if_true]
    split
    · exact pending
    · split
      · split
        · exact pending
        · exact pending
      · split
        · exact pending
        · exact pending
  · simp only [eligible, if_false, if_true]
    split
    · exact pending
    · exact pending

theorem notExplicit_planOrdinal {state : PlanState}
    (pending : state.result.explicitPlan = false) (replayOrdinal : Nat) :
    NotExplicit (planOrdinal schema stream state replayOrdinal) := by
  unfold planOrdinal
  split
  · exact pending
  · simp only
    split
    · split
      · exact notExplicit_planWholeCommand pending replayOrdinal
      · exact notExplicit_planDrawRun pending replayOrdinal _ _
    · exact notExplicit_planWholeCommand pending replayOrdinal

theorem notExplicit_planOrdinals {ordinals : List Nat} {state : PlanState}
    (pending : state.result.explicitPlan = false) :
    NotExplicit (planOrdinals schema stream state ordinals) := by
  induction ordinals generalizing state with
  | nil => exact pending
  | cons ordinal rest induction =>
      have step := @notExplicit_planOrdinal schema stream state pending ordinal
      unfold planOrdinals
      cases planning : planOrdinal schema stream state ordinal with
      | error result =>
          rw [planning] at step
          exact step
      | ok next =>
          rw [planning] at step
          exact induction step

theorem explicitPlan_spec
    (explicit : (planProductionEncodePartitions schema stream).1.explicitPlan
      = true) :
    let storage := (planProductionEncodePartitions schema stream).2
    (validateEncodePartitionRanges schema storage stream).validation = .valid ∧
      ∀ range ∈ storage, Planned stream range := by
  have pending := @notExplicit_planOrdinals schema stream
    (List.range stream.replayOrdinalCount) {} rfl
  unfold planProductionEncodePartitions at explicit ⊢
  simp only at explicit ⊢
  split at explicit
  · contradiction
  · rename_i valid
    rw [if_neg valid]
    split at explicit
    · contradiction
    · rename_i small
      rw [if_neg small]
      cases planning : planOrdinals schema stream {}
          (List.range stream.replayOrdinalCount) with
      | error result =>
          rw [planning] at explicit pending
          rw [show result.explicitPlan = false from pending] at explicit
          contradiction
      | ok state =>
          rw [planning] at explicit pending
          simp only at explicit ⊢
          have plain : state.result.explicitPlan = false := pending
          split at explicit
          · simp only [fallbackResult, plain] at explicit
            contradiction
          · rename_i cut
            rw [if_neg cut]
            split at explicit
            · simp only [fallbackResult, plain] at explicit
              contradiction
            · rename_i accepted
              rw [if_neg accepted]
              have nothing : ∀ other ∈ ({} : PlanState).storage,
                  Planned stream other := by
                intro other member
                contradiction
              exact ⟨not_not.mp accepted,
                planned_planOrdinals nothing planning⟩

end Plan

/-- The validator accepts exactly the well-formed ranges that cover a valid
stream; an explicit plan is accepted, cuts no merged pair apart and leaves
every draw range the minimum of draws. -/
theorem production_partitions_sound (schema : PayloadSchema)
    (stream : EncodePartitionReplayStream) :
    (∀ ranges,
      (validateEncodePartitionRanges schema ranges stream).validation =
          .valid ↔
        stream.valid = true ∧ stream.replayOrdinalCount ≤ maxUInt32 ∧
          (∀ range ∈ ranges, WellFormed schema stream range) ∧
          Covers stream ranges) ∧
      let plan := planProductionEncodePartitions schema stream
      plan.1.explicitPlan = true →
        (validateEncodePartitionRanges schema plan.2 stream).validation =
            .valid ∧
          ∀ range ∈ plan.2, Planned stream range := by
  constructor
  · intro ranges
    exact validateEncodePartitionRanges_iff schema ranges stream
  · intro plan explicit
    exact explicitPlan_spec explicit

/-- A source of one draw run, of as many draws as asked for. -/
def drawRunStream (draws : Nat) : EncodePartitionReplayStream :=
  { valid := true
    source :=
      { slotIndex := 0
        seqId := 5
        sourceId := { index := 0, generation := 1 }
        storage := { firstPage := 0, pageCount := 1, generation := 1 }
        commandBegin := 0
        commandCount := 1
        payload :=
          { valid := true
            commands :=
              [{ payloadIndex := 0
                 command :=
                  { kind := .drawRun
                    drawRunRecord := some
                      { paramCount := draws
                        uniformHandle := { generation := 1 } }
                    drawState :=
                      { hot := true, shaderLayout := true, debug := true }
                    drawUniformPayloadRecords := [{ generation := 1 }]
                    drawParams := List.replicate draws {} } }] } } }

/-- A draw range of the stream; the sequence of its locator may be stale. -/
def locatedRange (seqId : UInt64) : EncodePartitionRangeSnapshot :=
  { kind := .drawRunEntries
    replayOrdinalBegin := 0
    replayOrdinalCount := 1
    drawEntryCount := 1
    entry :=
      { source :=
          { tapeSource :=
              { id := { index := 0, generation := 1 }
                storage :=
                  { firstPage := 0, pageCount := 1, generation := 1 } }
            slotIndex := 0
            seqId := seqId }
        uniformHandle := { generation := 1 } } }

/-- A range that covers the whole stream is rejected when its locator names
another sequence. -/
theorem staleLocator_covers_and_rejected :
    ¬∀ (schema : PayloadSchema) (stream : EncodePartitionReplayStream)
      (ranges : List EncodePartitionRangeSnapshot),
      (validateEncodePartitionRanges schema ranges stream).validation =
          .valid ↔ Covers stream ranges := by
  intro accepts
  have covers : Covers (drawRunStream 1) [locatedRange 4] :=
    ⟨fun _ => true, by decide⟩
  have accepted := (accepts ⟨0, 0⟩ _ _).mpr covers
  have rejected :
      (validateEncodePartitionRanges ⟨0, 0⟩ [locatedRange 4]
        (drawRunStream 1)).validation = .entryResolutionFailed := by
    decide
  rw [rejected] at accepted
  contradiction

-- Sixty-four draws that do not merge are cut in the middle.
example :
    ((planProductionEncodePartitions ⟨0, 0⟩ (drawRunStream 64)).2.map
      (·.drawEntryCount)) = [32, 32] := by
  decide +kernel

end Dxmt9.EncodePartition
