import Dxmt9.EncodePartition.ReplayStream

/-!
# Validation of encode partitions

The validator reads the ranges once, in order.  It carries the next replay
ordinal and, inside a draw run, the next draw.
-/

namespace Dxmt9.EncodePartition

open Dxmt9.Tape

inductive EncodePartitionRangeValidation where
  | valid
  | replayStreamInvalid
  | replayStreamTooLarge
  | commandSegmentEmpty
  | commandSegmentHasDrawEntries
  | drawRunReplayCountInvalid
  | drawRunEntriesEmpty
  | replayOrdinalOverflow
  | replayCoverageGap
  | replayCoverageOverlap
  | drawRunCommandMismatch
  | drawEntryOverflow
  | drawCoverageGap
  | drawCoverageOverlap
  | drawCoveragePartialTail
  | entryResolutionFailed
deriving DecidableEq

structure EncodePartitionRangeValidationResult where
  validation : EncodePartitionRangeValidation := .replayStreamInvalid
  entryValidation : EncodePartitionEntryValidation :=
    .retainedSourceIndexOutOfRange
  rangeIndex : Nat := 0
deriving DecidableEq

/-- Why a range does not resolve. -/
structure Rejection where
  validation : EncodePartitionRangeValidation := .replayStreamInvalid
  entryValidation : EncodePartitionEntryValidation :=
    .retainedSourceIndexOutOfRange
deriving DecidableEq

structure ResolvedEncodePartition where
  entry : ResolvedEncodePartitionEntry := {}
  drawParams : List DrawParam := []
deriving DecidableEq

/-- The draws of a range, when its locator agrees with the stream. -/
def resolveEncodePartition (schema : PayloadSchema)
    (range : EncodePartitionRangeSnapshot)
    (stream : EncodePartitionReplayStream) :
    Except Rejection ResolvedEncodePartition :=
  if !stream.valid then .error {}
  else if range.kind ≠ .drawRunEntries || range.replayOrdinalCount ≠ 1 ||
      range.drawEntryCount == 0 then
    .error
      { validation :=
          if range.kind = .drawRunEntries then
            if range.replayOrdinalCount = 1 then .drawRunEntriesEmpty
            else .drawRunReplayCountInvalid
          else .drawRunCommandMismatch }
  else if stream.commandIndexAt range.replayOrdinalBegin ≠
      some range.entry.commandIndex then
    .error { validation := .drawRunCommandMismatch }
  else
    match resolveEncodePartitionEntry schema range.entry [stream.source] with
    | .error entryValidation =>
        .error
          { validation := .entryResolutionFailed
            entryValidation := entryValidation }
    | .ok entry =>
        let record := entry.drawRunRecord
        let drawEnd := range.entry.drawParamIndex + range.drawEntryCount
        let runEnd := record.firstParam + record.paramCount
        let offset := range.entry.drawParamIndex - record.firstParam
        if maxUInt32 < drawEnd || maxUInt32 < runEnd || runEnd < drawEnd ||
            range.entry.drawParamIndex < record.firstParam ||
            entry.command.drawParams.length < offset ||
            entry.command.drawParams.length - offset <
              range.drawEntryCount then
          .error
            { validation := .drawEntryOverflow, entryValidation := .valid }
        else
          .ok
            { entry := entry
              drawParams := (entry.command.drawParams.drop offset).take
                range.drawEntryCount }

/-- Where the next range must begin. -/
structure ValidationState where
  expectedOrdinal : Nat := 0
  expectedDrawParam : Nat := 0
  drawRunIncomplete : Bool := false
deriving DecidableEq

def rejectRange (validation : EncodePartitionRangeValidation) :
    Except Rejection ValidationState :=
  .error { validation := validation }

/-- One range of the loop. -/
def validateRange (schema : PayloadSchema)
    (stream : EncodePartitionReplayStream) (state : ValidationState)
    (range : EncodePartitionRangeSnapshot) :
    Except Rejection ValidationState :=
  if range.kind = .commandSegment then
    let stop := range.replayOrdinalBegin + range.replayOrdinalCount
    if range.replayOrdinalCount = 0 then rejectRange .commandSegmentEmpty
    else if range.drawEntryCount ≠ 0 then
      rejectRange .commandSegmentHasDrawEntries
    else if state.drawRunIncomplete then
      rejectRange .drawCoveragePartialTail
    else if maxUInt32 < stop then rejectRange .replayOrdinalOverflow
    else if range.replayOrdinalBegin < state.expectedOrdinal then
      rejectRange .replayCoverageOverlap
    else if state.expectedOrdinal < range.replayOrdinalBegin then
      rejectRange .replayCoverageGap
    else if stream.replayOrdinalCount < stop then
      rejectRange .replayOrdinalOverflow
    else .ok { state with expectedOrdinal := stop }
  else if range.replayOrdinalCount ≠ 1 then
    rejectRange .drawRunReplayCountInvalid
  else if range.drawEntryCount = 0 then rejectRange .drawRunEntriesEmpty
  else if range.replayOrdinalBegin < state.expectedOrdinal then
    rejectRange .replayCoverageOverlap
  else if state.expectedOrdinal < range.replayOrdinalBegin then
    rejectRange .replayCoverageGap
  else
    match resolveEncodePartition schema range stream with
    | .error rejection => .error rejection
    | .ok partition =>
        let record := partition.entry.drawRunRecord
        let drawBegin := range.entry.drawParamIndex
        let expected :=
          if state.drawRunIncomplete then state.expectedDrawParam
          else record.firstParam
        let drawEnd := drawBegin + range.drawEntryCount
        let runEnd := record.firstParam + record.paramCount
        if drawBegin < expected then rejectRange .drawCoverageOverlap
        else if expected < drawBegin then rejectRange .drawCoverageGap
        else if maxUInt32 < drawEnd || maxUInt32 < runEnd ||
            runEnd < drawEnd then rejectRange .drawEntryOverflow
        else if drawEnd ≠ runEnd then
          .ok
            { state with
              expectedDrawParam := drawEnd
              drawRunIncomplete := true }
        else
          .ok
            { expectedOrdinal := state.expectedOrdinal + 1
              expectedDrawParam := 0
              drawRunIncomplete := false }

/-- The loop from a range on, and the checks behind it. -/
def validateFrom (schema : PayloadSchema)
    (stream : EncodePartitionReplayStream) (state : ValidationState)
    (rangeIndex : Nat) : List EncodePartitionRangeSnapshot →
      EncodePartitionRangeValidationResult
  | [] =>
      if state.drawRunIncomplete then
        { validation := .drawCoveragePartialTail, rangeIndex := rangeIndex }
      else if state.expectedOrdinal ≠ stream.replayOrdinalCount then
        { validation := .replayCoverageGap, rangeIndex := rangeIndex }
      else
        { validation := .valid
          entryValidation := .valid
          rangeIndex := rangeIndex }
  | range :: rest =>
      match validateRange schema stream state range with
      | .error rejection =>
          { validation := rejection.validation
            entryValidation := rejection.entryValidation
            rangeIndex := rangeIndex }
      | .ok next => validateFrom schema stream next (rangeIndex + 1) rest

def validateEncodePartitionRanges (schema : PayloadSchema)
    (ranges : List EncodePartitionRangeSnapshot)
    (stream : EncodePartitionReplayStream) :
    EncodePartitionRangeValidationResult :=
  if !stream.valid then { validation := .replayStreamInvalid }
  else if maxUInt32 < stream.replayOrdinalCount then
    { validation := .replayStreamTooLarge }
  else validateFrom schema stream {} 0 ranges

end Dxmt9.EncodePartition
