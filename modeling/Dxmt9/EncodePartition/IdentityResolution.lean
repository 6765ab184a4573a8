import Dxmt9.EncodePartition.IdentityCursor
import Dxmt9.EncodePartition.PartitionCoverage

/-!
# What the identity cursor yields

The entries of the cursor cover the stream, and the locator of each of its draw
ranges resolves to the entry that the cursor carries.
-/

namespace Dxmt9.EncodePartition

open Dxmt9.Tape

variable {schema : PayloadSchema} {stream : EncodePartitionReplayStream}

/-- What the factory promises of a valid stream. -/
structure Selected (stream : EncodePartitionReplayStream) : Prop where
  valid : stream.valid = true
  begins : stream.source.commandBegin ≤ stream.source.payload.commandCount
  ends : stream.source.commandCount ≤
    stream.source.payload.commandCount - stream.source.commandBegin
  ordinals : stream.replayOrdinalCount ≤ maxUInt32
  slot : stream.source.slot = stream.source.payload.legacyPayload

theorem selected_of_valid {slotIndex : Nat} {payload : SourcePayloadView}
    {seqId : UInt64} {commandBegin commandCount : Nat}
    {commandOrderActive : Bool} {commandOrder : List UInt32}
    {scratch : List Nat} {tapeSource : SourceRef}
    (valid : (makeEncodePartitionReplayStream slotIndex payload seqId
      commandBegin commandCount commandOrderActive commandOrder scratch
      tapeSource).1.valid = true) :
    Selected (makeEncodePartitionReplayStream slotIndex payload seqId
      commandBegin commandCount commandOrderActive commandOrder scratch
      tapeSource).1 := by
  have checked : tapeSource.valid = true ∧
      (commandBegin ≤ payload.commandCount ∧
        commandCount ≤ payload.commandCount - commandBegin) ∧
      (if commandOrderActive then commandOrder.length else commandCount) ≤
        maxUInt32 := by
    simp only [makeEncodePartitionReplayStream] at valid
    generalize (if commandOrderActive = true then commandOrder.length
      else commandCount) = replayCount at valid ⊢
    split at valid
    · exact nomatch valid
    · rename_i passes
      rw [Bool.not_eq_true, Bool.not_eq_false', Bool.and_eq_true,
        Bool.and_eq_true, Bool.and_eq_true, decide_eq_true_eq,
        decide_eq_true_eq, decide_eq_true_eq] at passes
      exact ⟨passes.1.1, passes.1.2, passes.2⟩
  refine ⟨valid, checked.2.1.1, checked.2.1.2, ?_, rfl⟩
  have count := checked.2.2
  unfold EncodePartitionReplayStream.replayOrdinalCount
  dsimp only [makeEncodePartitionReplayStream]
  rw [List.length_map]
  exact count

/-- What a locator and its entry say, once they are made. -/
structure Located (schema : PayloadSchema)
    (stream : EncodePartitionReplayStream) (commandIndex : Nat)
    (sourceCommand : SourceCommandView) (drawParamIndex : Nat)
    (entry : EncodePartitionEntrySnapshot)
    (resolved : ResolvedEncodePartitionEntry) (record : DrawRunCommandRecord) :
    Prop where
  payloadValid : stream.source.payload.valid = true
  tapeSource : SourceRef.valid
    { id := stream.source.sourceId, storage := stream.source.storage } = true
  seqId : stream.source.seqId ≠ 0
  slot : ∀ slot ∈ stream.source.slot, slot.seqId = stream.source.seqId
  lower : stream.source.commandBegin ≤ commandIndex
  upper : commandIndex <
    stream.source.commandBegin + stream.source.commandCount
  kind : sourceCommand.command.kind = .drawRun
  drawRun : sourceCommand.command.drawRunRecord = some record
  state : sourceCommand.command.drawState.hot = true ∧
    sourceCommand.command.drawState.shaderLayout = true ∧
    sourceCommand.command.drawState.debug = true
  params : sourceCommand.command.drawParams.length = record.paramCount
  first : record.firstParam ≤ drawParamIndex
  below : drawParamIndex - record.firstParam < record.paramCount
  uniform : uniformAt sourceCommand.command.drawUniformPayloadRecords
    (effectiveUniform record resolved.drawParam) = some resolved.uniform
  override : resolvePayloadRange record resolved.drawParam.bindingOverrideRange
    sourceCommand.command.drawPayloadBytes schema.bindingOverrideSize =
      some (entry.bindingOverrideBytes, resolved.bindingOverrideBytes)
  snapshot : resolvePayloadRange record resolved.drawParam.bindingSnapshotRange
    sourceCommand.command.drawPayloadBytes schema.bindingSnapshotSize =
      some (entry.bindingSnapshotBytes, resolved.bindingSnapshotBytes)
  entryFields : entry =
    { source :=
        { tapeSource :=
            { id := stream.source.sourceId
              storage := stream.source.storage }
          retainedSourceIndex := 0
          slotIndex := stream.source.slotIndex
          seqId := stream.source.seqId }
      commandIndex := commandIndex
      drawRunRecordIndex := sourceCommand.payloadIndex
      stateIndex := record.stateIndex
      drawParamIndex := drawParamIndex
      uniformHandle := resolved.uniform
      bindingOverrideBytes := entry.bindingOverrideBytes
      bindingSnapshotBytes := entry.bindingSnapshotBytes }
  resolvedFields : resolved =
    { slot := stream.source.slot
      command := sourceCommand.command
      drawRunRecord := record
      drawParam := sourceCommand.command.drawParams.getD
        (drawParamIndex - record.firstParam) {}
      uniform := resolved.uniform
      bindingOverrideBytes := resolved.bindingOverrideBytes
      bindingSnapshotBytes := resolved.bindingSnapshotBytes }

variable {commandIndex drawParamIndex : Nat}
  {entry : EncodePartitionEntrySnapshot}
  {resolved : ResolvedEncodePartitionEntry}

theorem located_of_snapshot
    {sourceCommand : SourceCommandView}
    (made : snapshotForResolvedDrawParam schema stream commandIndex
      sourceCommand drawParamIndex = some (entry, resolved)) :
    ∃ record, Located schema stream commandIndex sourceCommand drawParamIndex
      entry resolved record := by
  simp only [snapshotForResolvedDrawParam] at made
  split at made
  · exact nomatch made
  · rename_i source
    split at made
    · exact nomatch made
    · rename_i identity
      split at made
      · rename_i record kind drawRun
        split at made
        · exact nomatch made
        · rename_i state
          split at made
          · exact nomatch made
          · rename_i params
            split at made
            · rename_i uniform override overrideView snapshot snapshotView
                hasUniform hasOverride hasSnapshot
              cases made
              simp only [Bool.or_eq_true, Bool.not_eq_true',
                decide_eq_true_eq, not_or, Bool.not_eq_false, beq_iff_eq,
                Option.any_eq_true, not_exists, not_and, Nat.not_lt,
                Nat.not_le, ne_eq, not_not] at source identity state params
              exact ⟨record, {
                payloadValid := source.1.1.2
                tapeSource := source.1.2
                seqId := identity.1.1.1
                slot := identity.1.1.2
                lower := identity.1.2
                upper := identity.2
                kind := kind
                drawRun := drawRun
                state := ⟨state.1.1.1, state.1.1.2, state.1.2⟩
                params := params.1.1.1
                first := params.1.1.2
                below := params.1.2
                uniform := hasUniform
                override := hasOverride
                snapshot := hasSnapshot
                entryFields := rfl
                resolvedFields := rfl }⟩
            · exact nomatch made
      · exact nomatch made

theorem Located.resolves {record : DrawRunCommandRecord}
    (located : Located schema stream commandIndex
      (stream.source.payload.commandAt commandIndex) drawParamIndex entry
      resolved record)
    (selected : Selected stream) :
    resolveEncodePartitionEntry schema entry [stream.source] =
      .ok resolved := by
  have uniform := located.uniform
  have override := located.override
  have snapshot := located.snapshot
  have params := located.params
  have below := located.below
  rw [located.resolvedFields] at uniform override snapshot
  rw [located.entryFields] at override snapshot
  have slots : stream.source.slot.any (fun slot =>
      decide (slot.seqId ≠ stream.source.seqId) ||
        decide (stream.source.payload.legacyPayload ≠ some slot)) =
        false := by
    cases isSlot : stream.source.slot with
    | none => rfl
    | some slot =>
        have sameSeq := located.slot slot isSlot
        have legacy : stream.source.payload.legacyPayload = some slot :=
          selected.slot.symm.trans isSlot
        simp [sameSeq, legacy]
  have begins := selected.begins
  have ends := selected.ends
  have lower := located.lower
  have upper := located.upper
  have first := located.first
  unfold resolveEncodePartitionEntry
  rw [located.entryFields]
  simp only [List.getElem?_cons_zero]
  rw [if_neg, if_neg, if_neg]
  · rw [located.kind, located.drawRun]
    dsimp only
    rw [if_neg, if_neg, if_neg]
    · dsimp only at uniform override snapshot
      rw [uniform]
      dsimp only
      rw [if_neg, override]
      · dsimp only
        rw [if_neg, snapshot]
        · dsimp only
          rw [if_neg]
          · rw [← located.resolvedFields]
          · exact not_not_intro rfl
        · exact not_not_intro rfl
      · exact not_not_intro rfl
    · simp only [Bool.or_eq_true, decide_eq_true_eq]
      omega
    · simp [located.state]
    · exact not_not_intro rfl
  · simp only [Bool.or_eq_true, decide_eq_true_eq]
    omega
  · simp only [Bool.or_eq_true, decide_eq_true_eq]
    omega
  · rw [slots]
    simp [located.tapeSource, located.payloadValid, located.seqId]

/-- The locator of an ordinal's draw run resolves to the entry beside it, and
the entry gives the same locator again. -/
structure ResolvesAt (schema : PayloadSchema)
    (stream : EncodePartitionReplayStream) (item : IdentityEntry) : Prop where
  command : stream.commandIndexAt item.1.replayOrdinalBegin =
    some item.1.entry.commandIndex
  resolves : resolveEncodePartitionEntry schema item.1.entry
    [stream.source] = .ok item.2.entry
  again : snapshotForResolvedDrawParam schema stream
    item.1.entry.commandIndex
    { command := item.2.entry.command
      payloadIndex := item.1.entry.drawRunRecordIndex }
    item.1.entry.drawParamIndex = some (item.1.entry, item.2.entry)
  first : item.1.entry.drawParamIndex = item.2.entry.drawRunRecord.firstParam
  params : item.2.drawParams = item.2.entry.command.drawParams
  count : item.2.drawParams.length = item.1.drawEntryCount

/-- A replay ordinal is not truncated. -/
theorem truncated_of_lt {value : Nat} (small : value ≤ maxUInt32) :
    truncated value = value :=
  Nat.mod_eq_of_lt (by unfold maxUInt32 at small; omega)

variable {item : IdentityEntry}

theorem identityDrawRun_spec (selected : Selected stream)
    {replayOrdinal : Nat} (inside : replayOrdinal < stream.replayOrdinalCount)
    (found : identityDrawRun schema stream replayOrdinal = some item) :
    item.1.kind = .drawRunEntries ∧
      item.1.replayOrdinalBegin = replayOrdinal ∧
      ResolvesAt schema stream item ∧
      ∃ record, drawRunAt stream replayOrdinal = some record ∧
        record.paramCount ≠ 0 ∧
        rangeUnits item.1 = drawUnits replayOrdinal record.firstParam
          (record.firstParam + record.paramCount) := by
  have same : truncated replayOrdinal = replayOrdinal :=
    truncated_of_lt (Nat.le_trans (Nat.le_of_lt inside) selected.ordinals)
  unfold identityDrawRun at found
  split at found
  · exact nomatch found
  · rename_i commandIndex isIndex
    dsimp only at found
    split at found
    · rename_i record kind drawRun
      split at found
      · exact nomatch found
      · rename_i nonempty
        split at found
        · exact nomatch found
        · rename_i entry resolved made
          cases found
          obtain ⟨other, located⟩ := located_of_snapshot made
          cases Option.some.inj (located.drawRun.symm.trans drawRun)
          have isCommand : entry.commandIndex = commandIndex := by
            rw [located.entryFields]
          have isPayload : entry.drawRunRecordIndex =
              (stream.source.payload.commandAt commandIndex).payloadIndex := by
            rw [located.entryFields]
          have isParam : entry.drawParamIndex = record.firstParam := by
            rw [located.entryFields]
          have resolvedCommand : resolved.command =
              (stream.source.payload.commandAt commandIndex).command := by
            rw [located.resolvedFields]
          have resolvedRecord : resolved.drawRunRecord = record := by
            rw [located.resolvedFields]
          have ranged : drawRunAt stream replayOrdinal = some record := by
            unfold drawRunAt
            rw [isIndex]
            dsimp only
            rw [if_pos kind, drawRun]
          refine ⟨rfl, same, ?_, record, ranged, nonempty, ?_⟩
          · exact {
              command := by
                dsimp only
                rw [same, isCommand]
                exact isIndex
              resolves := located.resolves selected
              again := by
                dsimp only
                rw [isCommand, isPayload, isParam, resolvedCommand]
                exact made
              first := by rw [resolvedRecord]; exact isParam
              params := resolvedCommand.symm ▸ rfl
              count := located.params }
          · unfold rangeUnits
            dsimp only
            rw [same, isParam]
    · exact nomatch found

/-! ## Traversal -/

/-- What calling the cursor again and again gives, until it gives nothing. -/
inductive Yields (schema : PayloadSchema)
    (stream : EncodePartitionReplayStream) :
    EncodePartitionIdentityCursor → List IdentityEntry → Prop
  | done {cursor : EncodePartitionIdentityCursor} :
      cursor.next schema stream = (none, cursor) → Yields schema stream cursor []
  | entry {cursor behind : EncodePartitionIdentityCursor}
      {item : IdentityEntry} {rest : List IdentityEntry} :
      cursor.next schema stream = (some item, behind) →
      Yields schema stream behind rest →
      Yields schema stream cursor (item :: rest)

/-- An ordinal is subdivided when a locator can name its draw run. -/
def subdivides (schema : PayloadSchema)
    (stream : EncodePartitionReplayStream) (ordinal : Nat) : Bool :=
  (identityDrawRun schema stream ordinal).isSome

/-- A pending draw run is the one of the cursor's ordinal. -/
structure Pending (schema : PayloadSchema)
    (stream : EncodePartitionReplayStream)
    (cursor : EncodePartitionIdentityCursor) : Prop where
  upper : cursor.replayOrdinal ≤ stream.replayOrdinalCount
  drawRun : cursor.pendingDrawRun = true →
    identityDrawRun schema stream cursor.replayOrdinal =
      some (cursor.pendingRange, cursor.pendingPartition)

/-- Where the loop of a segment ends: at the end, or at a draw run. -/
structure Scanned (schema : PayloadSchema)
    (stream : EncodePartitionReplayStream) (left start : Nat)
    (scanned : Nat × Option IdentityEntry) : Prop where
  lower : start ≤ scanned.1
  upper : scanned.1 ≤ start + left
  skipped : ∀ ordinal, start ≤ ordinal → ordinal < scanned.1 →
    identityDrawRun schema stream ordinal = none
  ended : scanned.2 = none → scanned.1 = start + left
  found : ∀ item ∈ scanned.2,
    identityDrawRun schema stream scanned.1 = some item

theorem scanSegment_spec (schema : PayloadSchema)
    (stream : EncodePartitionReplayStream) (left start : Nat) :
    Scanned schema stream left start
      (scanSegment schema stream left start) := by
  induction left generalizing start with
  | zero =>
      rw [scanSegment]
      exact {
        lower := Nat.le_refl _
        upper := Nat.le_refl _
        skipped := fun _ above below =>
          absurd below (Nat.not_lt_of_le above)
        ended := fun _ => (Nat.add_zero start).symm
        found := fun _ member => absurd member (Option.not_mem_none _) }
  | succ left induction =>
      rw [scanSegment]
      split
      · rename_i item found
        exact {
          lower := Nat.le_refl _
          upper := Nat.le_add_right _ _
          skipped := fun _ above below =>
            absurd below (Nat.not_lt_of_le above)
          ended := fun none => absurd none (Option.some_ne_none _)
          found := fun other same => by
            rw [← Option.some.inj same]
            exact found }
      · rename_i missing
        have rest := induction (start + 1)
        have lower := rest.lower
        have upper := rest.upper
        refine ⟨by omega, by omega, ?_, ?_, rest.found⟩
        · intro ordinal above below
          rcases Nat.eq_or_lt_of_le above with same | behind
          · rw [← same]
            exact missing
          · exact rest.skipped ordinal behind below
        · intro none
          rw [rest.ended none]
          omega

variable {ordinal : Nat}

theorem streamUnits_commands {count : Nat}
    (whole : ∀ other, ordinal ≤ other → other < ordinal + count →
      identityDrawRun schema stream other = none) :
    streamUnits stream (subdivides schema stream) ordinal count =
      (List.range' ordinal count).map .command := by
  induction count generalizing ordinal with
  | zero => rfl
  | succ count induction =>
      have first : ordinalUnits stream (subdivides schema stream) ordinal =
          [.command ordinal] := by
        have missing := whole ordinal (Nat.le_refl _) (by omega)
        unfold ordinalUnits subdivides
        rw [missing]
        cases drawRunAt stream ordinal with
        | none => rfl
        | some record => rfl
      rw [streamUnits_succ, first, List.range'_succ, List.map_cons,
        induction fun other above below =>
          whole other (by omega) (by omega)]
      rfl

theorem streamUnits_add (subdivided : Nat → Bool)
    (ordinal count more : Nat) :
    streamUnits stream subdivided ordinal (count + more) =
      streamUnits stream subdivided ordinal count ++
        streamUnits stream subdivided (ordinal + count) more := by
  unfold streamUnits
  rw [← List.flatMap_append, List.range'_append_1]

theorem ordinalUnits_drawRun (selected : Selected stream) (inside : ordinal < stream.replayOrdinalCount)
    (found : identityDrawRun schema stream ordinal = some item) :
    ordinalUnits stream (subdivides schema stream) ordinal =
      rangeUnits item.1 := by
  obtain ⟨_, _, _, record, ranged, nonempty, units⟩ :=
    identityDrawRun_spec selected inside found
  rw [units]
  unfold ordinalUnits subdivides
  rw [ranged, found]
  simp [nonempty]

/-- What one call does, before the end: it yields a range of the ordinals that
it passes. -/
structure Advances (schema : PayloadSchema)
    (stream : EncodePartitionReplayStream)
    (cursor behind : EncodePartitionIdentityCursor) (item : IdentityEntry) :
    Prop where
  pending : Pending schema stream behind
  later : cursor.replayOrdinal < behind.replayOrdinal
  units : rangeUnits item.1 =
    streamUnits stream (subdivides schema stream) cursor.replayOrdinal
      (behind.replayOrdinal - cursor.replayOrdinal)
  resolves : item.1.kind = .drawRunEntries → ResolvesAt schema stream item

variable {cursor behind : EncodePartitionIdentityCursor}

section

variable (selected : Selected stream)
  (inside : cursor.replayOrdinal < stream.replayOrdinalCount)
include selected inside

theorem advances_drawRun
    (found : identityDrawRun schema stream cursor.replayOrdinal = some item)
    (passed : behind.replayOrdinal = cursor.replayOrdinal + 1)
    (settled : behind.pendingDrawRun = false) :
    Advances schema stream cursor behind item where
  pending := by
    refine ⟨by omega, fun pending => ?_⟩
    rw [settled] at pending
    exact nomatch pending
  later := by omega
  units := by
    rw [passed, Nat.add_sub_cancel_left, streamUnits_succ,
      ordinalUnits_drawRun selected inside found]
    exact (List.append_nil _).symm
  resolves _ := (identityDrawRun_spec selected inside found).2.2.1

/-- A call that yields a segment passes the ordinals of its loop. -/
theorem advances_segment
    {scanned : Nat × Option IdentityEntry}
    (missing : identityDrawRun schema stream cursor.replayOrdinal = none)
    (scan : Scanned schema stream
      (stream.replayOrdinalCount - (cursor.replayOrdinal + 1))
      (cursor.replayOrdinal + 1) scanned)
    (pending : Pending schema stream behind)
    (passed : behind.replayOrdinal = scanned.1)
    (segment : item.1 =
      { kind := .commandSegment
        replayOrdinalBegin := truncated cursor.replayOrdinal
        replayOrdinalCount := truncated (scanned.1 - cursor.replayOrdinal)
        drawEntryCount := 0 }) :
    Advances schema stream cursor behind item := by
  have ordinals := selected.ordinals
  have lower := scan.lower
  have upper := scan.upper
  refine ⟨pending, by omega, ?_, ?_⟩
  · have first : truncated cursor.replayOrdinal = cursor.replayOrdinal :=
      truncated_of_lt (by omega)
    have count : truncated (scanned.1 - cursor.replayOrdinal) =
        scanned.1 - cursor.replayOrdinal := truncated_of_lt (by omega)
    rw [passed, streamUnits_commands, segment, rangeUnits, first, count]
    intro other above below
    rcases Nat.eq_or_lt_of_le above with same | later
    · rw [← same]
      exact missing
    · exact scan.skipped other later (by omega)
  · intro drawRun
    rw [segment] at drawRun
    exact nomatch drawRun

end

/-- One call: nothing at the end, and an entry before it. -/
theorem next_cases (selected : Selected stream)
    (pending : Pending schema stream cursor) :
    (stream.replayOrdinalCount = cursor.replayOrdinal ∧
        cursor.next schema stream = (none, cursor)) ∨
      ∃ item behind, cursor.next schema stream = (some item, behind) ∧
        Advances schema stream cursor behind item := by
  have upper := pending.upper
  unfold EncodePartitionIdentityCursor.next
  rw [selected.valid]
  by_cases ended : stream.replayOrdinalCount ≤ cursor.replayOrdinal
  · refine .inl ⟨Nat.le_antisymm ended upper, ?_⟩
    rw [if_pos (by simpa using ended)]
  · have inside := Nat.lt_of_not_le ended
    refine .inr ?_
    rw [if_neg (by simpa using ended)]
    by_cases isPending : cursor.pendingDrawRun = true
    · rw [if_pos isPending]
      exact ⟨_, _, rfl, advances_drawRun selected inside
        (pending.drawRun isPending) rfl rfl⟩
    · rw [if_neg isPending]
      split
      · rename_i item found
        exact ⟨_, _, rfl, advances_drawRun selected inside found rfl
          (Bool.not_eq_true _ ▸ isPending)⟩
      · rename_i missing
        have scan := scanSegment_spec schema stream
          (stream.replayOrdinalCount - (cursor.replayOrdinal + 1))
          (cursor.replayOrdinal + 1)
        dsimp only
        generalize scanSegment schema stream _ _ = scanned at scan ⊢
        have upperScan := scan.upper
        obtain ⟨stop, found⟩ := scanned
        dsimp only at upperScan ⊢
        cases found with
        | none =>
            refine ⟨_, _, rfl,
              advances_segment selected inside missing scan ?_ rfl rfl⟩
            constructor
            · dsimp only
              omega
            · exact fun settled => absurd settled isPending
        | some entry =>
            refine ⟨_, _, rfl,
              advances_segment selected inside missing scan ?_ rfl rfl⟩
            constructor
            · dsimp only
              omega
            · exact fun _ => scan.found entry rfl

theorem yields_from (selected : Selected stream) (left : Nat)
    (pending : Pending schema stream cursor)
    (remaining : stream.replayOrdinalCount - cursor.replayOrdinal ≤ left) :
    ∃ entries, Yields schema stream cursor entries ∧
      entries.length ≤ left ∧
      (entries.map Prod.fst).flatMap rangeUnits =
        streamUnits stream (subdivides schema stream) cursor.replayOrdinal
          (stream.replayOrdinalCount - cursor.replayOrdinal) ∧
      ∀ item ∈ entries, item.1.kind = .drawRunEntries →
        ResolvesAt schema stream item := by
  induction left generalizing cursor with
  | zero =>
      rcases next_cases selected pending with ⟨ended, yielded⟩ |
        ⟨item, behind, yielded, advances⟩
      · refine ⟨[], .done yielded, Nat.le_refl _, ?_,
          fun _ member => absurd member List.not_mem_nil⟩
        rw [ended, Nat.sub_self]
        rfl
      · have later := advances.later
        have upper := advances.pending.upper
        omega
  | succ left induction =>
      rcases next_cases selected pending with ⟨ended, yielded⟩ |
        ⟨item, behind, yielded, advances⟩
      · refine ⟨[], .done yielded, Nat.zero_le _, ?_,
          fun _ member => absurd member List.not_mem_nil⟩
        rw [ended, Nat.sub_self]
        rfl
      · have later := advances.later
        have upper := advances.pending.upper
        obtain ⟨rest, yields, short, units, resolves⟩ :=
          induction advances.pending (by omega)
        refine ⟨item :: rest, .entry yielded yields,
          Nat.succ_le_succ short, ?_, ?_⟩
        · have split : stream.replayOrdinalCount - cursor.replayOrdinal =
              (behind.replayOrdinal - cursor.replayOrdinal) +
                (stream.replayOrdinalCount - behind.replayOrdinal) := by
            omega
          have next : cursor.replayOrdinal +
              (behind.replayOrdinal - cursor.replayOrdinal) =
              behind.replayOrdinal := by omega
          rw [List.map_cons, List.flatMap_cons, units, advances.units, split,
            streamUnits_add, next]
        · intro other member
          rcases List.mem_cons.mp member with same | inRest
          · rw [same]
            exact advances.resolves
          · exact resolves other inRest

/-- The cursor of a valid stream yields finitely many entries, which cover every
replay ordinal once: as a command, or as all draws of its run.  The locator of
each draw range resolves to the entry that the cursor carries, and that entry
gives the locator again. -/
theorem identityCursor_resolves (schema : PayloadSchema) (slotIndex : Nat)
    (payload : SourcePayloadView) (seqId : UInt64)
    (commandBegin commandCount : Nat) (commandOrderActive : Bool)
    (commandOrder : List UInt32) (scratch : List Nat) (tapeSource : SourceRef)
    (valid : (makeEncodePartitionReplayStream slotIndex payload seqId
      commandBegin commandCount commandOrderActive commandOrder scratch
      tapeSource).1.valid = true) :
    let stream := (makeEncodePartitionReplayStream slotIndex payload seqId
      commandBegin commandCount commandOrderActive commandOrder scratch
      tapeSource).1
    ∃ entries, Yields schema stream {} entries ∧
      entries.length ≤ stream.replayOrdinalCount ∧
      Covers stream (entries.map Prod.fst) ∧
      ∀ item ∈ entries, item.1.kind = .drawRunEntries →
        ResolvesAt schema stream item := by
  intro stream
  have selected : Selected stream := selected_of_valid valid
  have start : Pending schema stream {} := ⟨Nat.zero_le _, nofun⟩
  obtain ⟨entries, yields, short, units, resolves⟩ :=
    yields_from selected stream.replayOrdinalCount start (Nat.sub_le _ _)
  exact ⟨entries, yields, short, ⟨subdivides schema stream, units⟩, resolves⟩

/-- A payload of two commands: a clear, and a run of two draws. -/
def clearAndDrawsPayload : SourcePayloadView :=
  { valid := true
    commands :=
      [{ payloadIndex := 0
         command := { kind := .clear } },
       { payloadIndex := 0
         command :=
          { kind := .drawRun
            drawRunRecord := some
              { paramCount := 2, uniformHandle := { generation := 1 } }
            drawState := { hot := true, shaderLayout := true, debug := true }
            drawUniformPayloadRecords := [{ generation := 1 }]
            drawParams := [{}, {}] } }] }

theorem identityCursor_resolves_clearAndDraws :
    ∃ entries, Yields ⟨0, 0⟩
        (makeEncodePartitionReplayStream 0 clearAndDrawsPayload 5 0 2 false []
          [] { id := { index := 0, generation := 1 }
               storage :=
                { firstPage := 0, pageCount := 1, generation := 1 } }).1
        {} entries ∧ entries.length ≤ 2 := by
  have ⟨entries, yields, short, _⟩ :=
    identityCursor_resolves ⟨0, 0⟩ 0 clearAndDrawsPayload 5 0 2 false [] []
      { id := { index := 0, generation := 1 }
        storage := { firstPage := 0, pageCount := 1, generation := 1 } }
      (by decide)
  exact ⟨entries, yields, short⟩

end Dxmt9.EncodePartition
