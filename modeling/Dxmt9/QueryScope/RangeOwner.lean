import Mathlib.Data.List.Basic
import Mathlib.Logic.Function.Basic

/-!
# The owner of query scope ranges

A writer records which occlusion results each of its commands counts into.
Commands with the same results form a range, and equal sets of results share
one scope.  The ENDs of the queries share one marker, which is bound when the
writer is published or cancelled when it is not.
-/

namespace Dxmt9.QueryScope

structure WriterIdentity where
  queue : UInt64 := 0
  index : UInt32 := 0
  generation : UInt64 := 0
  storageGeneration : UInt64 := 0
deriving DecidableEq

def WriterIdentity.valid (identity : WriterIdentity) : Bool :=
  identity.queue != 0 && identity.index != 0xffffffff &&
    identity.generation != 0 && identity.storageGeneration != 0

/-- The slot is counted from one; an empty scope has neither a slot nor a
generation. -/
structure QueryScopeIdentity where
  slot : Nat := 0
  generation : UInt64 := 0
deriving DecidableEq

def QueryScopeIdentity.valid (identity : QueryScopeIdentity) : Bool :=
  (identity.slot != 0) == (identity.generation != 0)

/-- A pointer to a result with the identity that the result keeps for life: two
live pointers are equal just when both parts are. -/
structure OcclusionResult where
  address : Nat
  object : UInt64
  issue : UInt64
  epoch : UInt64
deriving DecidableEq

def sameIdentity (left right : OcclusionResult) : Bool :=
  left.object == right.object && left.issue == right.issue &&
    left.epoch == right.epoch

/-- An array of result pointers and how many of them count. -/
structure OcclusionScope where
  results : Nat → Option OcclusionResult := fun _ => none
  count : Nat := 0

/-- The size of the array of a scope. -/
def occlusionScopeCapacity : Nat := 64

def OcclusionScope.contains (scope : OcclusionScope)
    (result : Option OcclusionResult) : Bool :=
  (List.range scope.count).any fun i => scope.results i == result

/-- The results of the input over those of a slot. -/
def OcclusionScope.copy (target input : OcclusionScope) : OcclusionScope :=
  { results := fun i =>
      if i < input.count then input.results i else target.results i
    count := input.count }

structure QueryRangeCursor where
  owner : WriterIdentity := {}
  commands : Nat := 0
  ranges : Nat := 0
  last : QueryScopeIdentity := {}
deriving DecidableEq

structure QueryRangeLimits where
  commands : Nat
  ranges : Nat
deriving DecidableEq

inductive QueryRangeAppend where
  | invalid
  | sealRequired
  | empty
  | extend
  | newRange
deriving DecidableEq

structure QueryRangeDecision where
  action : QueryRangeAppend
  next : QueryRangeCursor
deriving DecidableEq

def planQueryRangeAppend (current : QueryRangeCursor)
    (owner : WriterIdentity) (scope : QueryScopeIdentity) (count : Nat)
    (limits : QueryRangeLimits) : QueryRangeDecision :=
  if !owner.valid || current.owner ≠ owner || !scope.valid ||
      !current.last.valid || limits.commands < current.commands ||
      limits.ranges < current.ranges || current.commands < current.ranges ||
      (current.commands == 0) ≠ (current.ranges == 0) ||
      (current.ranges == 0 && current.last ≠ {}) then
    { action := .invalid, next := current }
  else if count = 0 then { action := .empty, next := current }
  else
    let newRange := current.ranges == 0 || current.last ≠ scope
    if limits.commands - current.commands < count ||
        (newRange && current.ranges == limits.ranges) then
      { action := .sealRequired, next := current }
    else
      { action := if newRange then .newRange else .extend
        next :=
          { current with
            commands := current.commands + count
            ranges := current.ranges + newRange.toNat
            last := scope } }

structure EndMarker where
  owner : WriterIdentity
  sequence : UInt64 := 0
  cancelled : Bool := false
deriving DecidableEq

def EndMarker.cancel (marker : EndMarker) : EndMarker :=
  { marker with cancelled := true }

def canBindEnd (admitted published : WriterIdentity)
    (bound sequence : UInt64) : Bool :=
  admitted.valid && admitted == published && bound == 0 && sequence != 0

/-- The expected sequence is zero, so a bound marker refuses. -/
def EndMarker.bind (marker : EndMarker) (owner : WriterIdentity)
    (sequence : UInt64) : Bool × EndMarker :=
  if !marker.cancelled && canBindEnd marker.owner owner 0 sequence &&
      marker.sequence == 0 then
    (true, { marker with sequence := sequence })
  else (false, marker)

inductive QueryRangeStatus where
  | accepted
  | capacity
  | invalid
  | allocationFailed
deriving DecidableEq

structure Range where
  start : Nat := 0
  stop : Nat := 0
  scope : QueryScopeIdentity := {}
deriving DecidableEq

structure End where
  commandEnd : Nat := 0
  initializer : UInt64 := 0
deriving DecidableEq

inductive Phase where
  | writing
  | sealed
  | published
  | cancelled
deriving DecidableEq

/-- The sizes of the three arrays. -/
structure Capacities where
  scopes : Nat
  ranges : Nat
  ends : Nat
deriving DecidableEq

/-- The arrays are read below their counts. -/
structure QueryScopeRangeOwner where
  cursor : QueryRangeCursor
  commandCapacity : Nat
  scopes : Nat → OcclusionScope := fun _ => {}
  scopeCount : Nat := 0
  ranges : Nat → Range := fun _ => {}
  ends : Nat → End := fun _ => {}
  endCount : Nat := 0
  endState : Option EndMarker := none
  phase : Phase := .writing

/-- The constructor. -/
def makeOwner (owner : WriterIdentity) (commandCapacity : UInt32) :
    QueryScopeRangeOwner :=
  { cursor := { owner := owner }
    commandCapacity := commandCapacity.toNat }

namespace QueryScopeRangeOwner

/-- A result of the input is there, has an identity that no earlier one has,
and where a stored scope has that identity it has the same pointer. -/
def admitsResult (owner : QueryScopeRangeOwner) (input : OcclusionScope)
    (i : Nat) : Bool :=
  match input.results i with
  | none => false
  | some result =>
      result.object != 0 && result.issue != 0 && result.epoch != 0 &&
      ((List.range i).all fun j =>
        match input.results j with
        | none => true
        | some earlier => !sameIdentity result earlier) &&
      (List.range owner.scopeCount).all fun s =>
        (List.range (owner.scopes s).count).all fun j =>
          match (owner.scopes s).results j with
          | none => true
          | some stored => !(sameIdentity result stored && result != stored)

/-- A stored scope has as many results and contains each of the input's. -/
def sameScope (owner : QueryScopeRangeOwner) (input : OcclusionScope)
    (s : Nat) : Bool :=
  input.count == (owner.scopes s).count &&
    (List.range input.count).all fun i =>
      (owner.scopes s).contains (input.results i)

/-- The slot of an input: the first stored scope with its results, or the next
free one. -/
def slotFor (owner : QueryScopeRangeOwner) (input : OcclusionScope) : Nat :=
  if input.count = 0 then owner.scopeCount
  else
    ((List.range owner.scopeCount).find? (owner.sameScope input)).getD
      owner.scopeCount

/-- What an append writes, once it is admitted. -/
def commitAppend (owner : QueryScopeRangeOwner) (input : OcclusionScope)
    (slot : Nat) (newScope : Bool) (identity : QueryScopeIdentity)
    (plan : QueryRangeDecision) : QueryScopeRangeOwner :=
  { owner with
    scopes :=
      if newScope then
        Function.update owner.scopes slot ((owner.scopes slot).copy input)
      else owner.scopes
    scopeCount :=
      if newScope then owner.scopeCount + 1 else owner.scopeCount
    ranges :=
      if plan.action = .newRange then
        Function.update owner.ranges owner.cursor.ranges
          { start := owner.cursor.commands
            stop := plan.next.commands
            scope := identity }
      else
        Function.update owner.ranges (owner.cursor.ranges - 1)
          { owner.ranges (owner.cursor.ranges - 1) with
            stop := plan.next.commands }
    cursor := plan.next }

def append (capacities : Capacities) (owner : QueryScopeRangeOwner)
    (expected : WriterIdentity) (input : OcclusionScope) (commands : UInt32) :
    QueryRangeStatus × QueryScopeRangeOwner :=
  if owner.phase ≠ .writing || expected ≠ owner.cursor.owner ||
      !expected.valid || occlusionScopeCapacity < input.count then
    (.invalid, owner)
  else if !(List.range input.count).all (owner.admitsResult input) then
    (.invalid, owner)
  else if commands = 0 then (.accepted, owner)
  else
    let slot := owner.slotFor input
    let newScope := input.count != 0 && slot == owner.scopeCount
    if newScope && owner.scopeCount == capacities.scopes then
      (.capacity, owner)
    else
      let identity : QueryScopeIdentity :=
        if input.count ≠ 0 then
          { slot := slot + 1, generation := expected.storageGeneration }
        else {}
      let plan := planQueryRangeAppend owner.cursor expected identity
        commands.toNat
        { commands := owner.commandCapacity, ranges := capacities.ranges }
      if plan.action = .sealRequired then (.capacity, owner)
      else if plan.action = .invalid then (.invalid, owner)
      else
        (.accepted, owner.commitAppend input slot newScope identity plan)

/-- What is taken back when the payload cannot be prepared. -/
def restore (appended before : QueryScopeRangeOwner) : QueryScopeRangeOwner :=
  { appended with
    scopes := fun s =>
      if before.scopeCount ≤ s ∧ s < appended.scopeCount then {}
      else appended.scopes s
    scopeCount := before.scopeCount
    cursor := before.cursor
    ranges :=
      if before.cursor.ranges ≠ 0 then
        Function.update appended.ranges (before.cursor.ranges - 1)
          (before.ranges (before.cursor.ranges - 1))
      else appended.ranges }

/-- The preparation of the payload may throw; its commit does not. -/
def appendWithPayload (capacities : Capacities)
    (owner : QueryScopeRangeOwner) (expected : WriterIdentity)
    (input : OcclusionScope) (commands : UInt32) (prepareThrows : Bool) :
    QueryRangeStatus × QueryScopeRangeOwner :=
  let appended := owner.append capacities expected input commands
  if appended.1 ≠ .accepted || commands == 0 then appended
  else if prepareThrows then (.allocationFailed, appended.2.restore owner)
  else (.accepted, appended.2)

/-- What the factory of the marker does. -/
inductive FactoryOutcome where
  | throws
  | gives (marker : Option EndMarker)
deriving DecidableEq

/-- The receipt shares the marker with the owner. -/
def end_ (capacities : Capacities) (owner : QueryScopeRangeOwner)
    (expected : WriterIdentity) (initializer : UInt64)
    (factory : WriterIdentity → FactoryOutcome) :
    QueryRangeStatus × QueryScopeRangeOwner :=
  if owner.phase ≠ .writing || expected ≠ owner.cursor.owner ||
      !expected.valid || owner.cursor.commands == 0 then (.invalid, owner)
  else if owner.endCount = capacities.ends then (.capacity, owner)
  else
    let staged : FactoryOutcome :=
      match owner.endState with
      | some marker => .gives (some marker)
      | none => factory expected
    match staged with
    | .throws | .gives none => (.allocationFailed, owner)
    | .gives (some marker) =>
        if marker.owner ≠ expected || marker.sequence != 0 ||
            marker.cancelled then (.invalid, owner)
        else
          (.accepted,
            { owner with
              endState := some marker
              ends := Function.update owner.ends owner.endCount
                { commandEnd := owner.cursor.commands
                  initializer := initializer }
              endCount := owner.endCount + 1 })

def seal_ (owner : QueryScopeRangeOwner) (expected : WriterIdentity) :
    Bool × QueryScopeRangeOwner :=
  if owner.phase ≠ .writing || !expected.valid ||
      expected ≠ owner.cursor.owner || owner.cursor.commands == 0 then
    (false, owner)
  else (true, { owner with phase := .sealed })

def bindPublished (owner : QueryScopeRangeOwner) (expected : WriterIdentity)
    (sequence : UInt64) : Bool × QueryScopeRangeOwner :=
  if owner.phase ≠ .sealed || expected ≠ owner.cursor.owner ||
      sequence == 0 then (false, owner)
  else
    match owner.endState with
    | none => (true, { owner with phase := .published })
    | some marker =>
        let bound := marker.bind expected sequence
        if !bound.1 then (false, { owner with endState := some bound.2 })
        else
          (true, { owner with endState := some bound.2, phase := .published })

/-- The destructor does the same. -/
def cancelUnpublished (owner : QueryScopeRangeOwner) : QueryScopeRangeOwner :=
  if owner.phase = .published ∨ owner.phase = .cancelled then owner
  else
    { owner with
      endState := owner.endState.map EndMarker.cancel
      phase := .cancelled }

def readable (owner : QueryScopeRangeOwner) : Bool :=
  owner.phase == .sealed || owner.phase == .published

def scope (owner : QueryScopeRangeOwner) (expected : WriterIdentity)
    (id : QueryScopeIdentity) : Option OcclusionScope :=
  if !owner.readable || expected ≠ owner.cursor.owner || !expected.valid ||
      id.slot == 0 || owner.scopeCount < id.slot ||
      id.generation ≠ expected.storageGeneration then none
  else some (owner.scopes (id.slot - 1))

end QueryScopeRangeOwner

end Dxmt9.QueryScope
