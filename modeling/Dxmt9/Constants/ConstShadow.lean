import Dxmt9.Memory.Bytes
import Dxmt9.Transition.Run
import Dxmt9.Order.Runs

/-!
# The constant shadow

A shadow holds the constants of one kind as bytes, a dirty mark for each
register, and an interval around the marked ones.  Setters change the bytes
that differ and mark their registers; a flush sends the whole interval as one
record and clears the marks.
-/

namespace Dxmt9.Constants

open Dxmt9.Memory

/-! ## The transition table -/

inductive RecorderPhase where
  | live
  | recording
deriving DecidableEq

inductive WriteOrigin where
  | explicitSet
  | priorValueOperation
deriving DecidableEq

structure StateWriteFacts where
  phase : RecorderPhase := .live
  origin : WriteOrigin := .explicitSet
  liveContains : Bool := false
  liveEquals : Bool := false
  pendingContains : Bool := false

inductive StateWriteKind where
  | noOp
  | retainPending
  | queueDelta
  | recordExplicit
  | applyPriorValueOnly
deriving DecidableEq

structure StateWritePlan where
  kind : StateWriteKind
  valid : Bool

def StateWritePlan.writeLive (plan : StateWritePlan) : Bool :=
  plan.kind == .queueDelta || plan.kind == .applyPriorValueOnly

def StateWritePlan.writePending (plan : StateWritePlan) : Bool :=
  plan.kind == .queueDelta

def StateWritePlan.writeRecorded (plan : StateWritePlan) : Bool :=
  plan.kind == .recordExplicit

/-- `none` stands for any value. -/
structure StateWriteTableRow where
  phase : RecorderPhase
  origin : Option WriteOrigin
  liveEquals : Option Bool
  pendingContains : Option Bool
  kind : StateWriteKind

def kStateWriteTable : List StateWriteTableRow :=
  [{ phase := .live, origin := none, liveEquals := some false,
     pendingContains := none, kind := .queueDelta },
   { phase := .live, origin := none, liveEquals := some true,
     pendingContains := some false, kind := .noOp },
   { phase := .live, origin := none, liveEquals := some true,
     pendingContains := some true, kind := .retainPending },
   { phase := .recording, origin := some .priorValueOperation,
     liveEquals := none, pendingContains := none,
     kind := .applyPriorValueOnly },
   { phase := .recording, origin := some .explicitSet, liveEquals := none,
     pendingContains := none, kind := .recordExplicit }]

def expects {α : Type} [BEq α] (expected : Option α) (actual : α) : Bool :=
  match expected with
  | none => true
  | some value => value == actual

/-- The first row that matches decides. -/
def planRecorderStateWrite (facts : StateWriteFacts) : StateWritePlan :=
  let liveEquals := facts.liveContains && facts.liveEquals
  match kStateWriteTable.find? fun row =>
      row.phase == facts.phase && expects row.origin facts.origin &&
        expects row.liveEquals liveEquals &&
        expects row.pendingContains facts.pendingContains with
  | none => { kind := .noOp, valid := false }
  | some row => { kind := row.kind, valid := true }

/-- A live write that differs is queued. -/
def kConstShadowLiveWritesChangedValue : Bool :=
  (planRecorderStateWrite
    { phase := .live
      origin := .explicitSet
      liveContains := true
      liveEquals := false
      pendingContains := false }).writePending

structure ConstShadow where
  values : List UInt8 := []
  dirtyElems : List UInt8 := []
  dirtyStart : Nat := 0
  dirtyEnd : Nat := 0
deriving DecidableEq

namespace ConstShadow

def dirty (shadow : ConstShadow) : Bool :=
  shadow.dirtyStart < shadow.dirtyEnd

/-- Only the interval is settled. -/
def clear (shadow : ConstShadow) : ConstShadow :=
  if !shadow.dirty then { shadow with dirtyStart := 0, dirtyEnd := 0 }
  else
    { shadow with
      dirtyElems := fillBytes shadow.dirtyElems shadow.dirtyStart
        shadow.dirtyEnd 0
      dirtyStart := 0
      dirtyEnd := 0 }

/-- The interval grows around the changed registers. -/
def joinDirty (shadow : ConstShadow) (changedStart changedEnd : Nat) :
    ConstShadow :=
  if !shadow.dirty then
    { shadow with dirtyStart := changedStart, dirtyEnd := changedEnd }
  else
    { shadow with
      dirtyStart := min shadow.dirtyStart changedStart
      dirtyEnd := max shadow.dirtyEnd changedEnd }

end ConstShadow

/-- The state of the loop over the registers of one write. -/
structure Reduction where
  values : List UInt8
  dirtyElems : List UInt8
  firstChanged : Nat
  lastChanged : Nat

/-- Element `i` of the source, from its first byte. -/
def element (source : Nat → UInt8) (elemSize i : Nat) : Nat → UInt8 :=
  fun index => source (i * elemSize + index)

/-- Copies element `i` and marks its register. -/
def Reduction.write (reduction : Reduction) (elemSize start : Nat)
    (source : Nat → UInt8) (i : Nat) : Reduction :=
  { values := copyBytes reduction.values ((start + i) * elemSize) elemSize
      (element source elemSize i)
    dirtyElems := reduction.dirtyElems.set (start + i) 1
    firstChanged := min reduction.firstChanged i
    lastChanged := i + 1 }

def constShadowFixedElemEquals (elemSize : Nat)
    (destination source : Nat → UInt8) : Bool :=
  if elemSize = 4 then loadWord destination == loadWord source
  else
    let difference :=
      (loadWord destination ^^^ loadWord source) |||
      (loadWord (fun index => destination (4 + index)) ^^^
        loadWord (fun index => source (4 + index))) |||
      (loadWord (fun index => destination (8 + index)) ^^^
        loadWord (fun index => source (8 + index))) |||
      (loadWord (fun index => destination (12 + index)) ^^^
        loadWord (fun index => source (12 + index)))
    difference == 0

def fixedStep (elemSize start : Nat) (source : Nat → UInt8)
    (reduction : Reduction) (i : Nat) : Reduction :=
  let equals := constShadowFixedElemEquals elemSize
    (bytesFrom reduction.values ((start + i) * elemSize))
    (element source elemSize i)
  if !kConstShadowLiveWritesChangedValue || equals then reduction
  else reduction.write elemSize start source i

def applyNonEmpty (shadow : ConstShadow) (elemSize start stop : Nat)
    (source : Nat → UInt8) : ConstShadow :=
  let count := stop - start
  let reduced := (List.range count).foldl (fixedStep elemSize start source)
    { values := growBytes shadow.values (stop * elemSize)
      dirtyElems := growBytes shadow.dirtyElems stop
      firstChanged := count
      lastChanged := 0 }
  let written : ConstShadow :=
    { shadow with
      values := reduced.values
      dirtyElems := reduced.dirtyElems }
  if reduced.firstChanged = count then written
  else
    written.joinDirty (start + reduced.firstChanged)
      (start + reduced.lastChanged)

/-- The checked visitor of a live write: an empty, null or overlong range
does nothing.  A null pointer is `none`. -/
def applyConstShadowLive (shadow : ConstShadow)
    (elemSize maxRegisters : Nat) (start count : UInt32)
    (data : Option (Nat → UInt8)) : ConstShadow :=
  if count = 0 then shadow
  else
    match data with
    | none => shadow
    | some source =>
        let stop := start.toNat + count.toNat
        if maxRegisters < stop then shadow
        else applyNonEmpty shadow elemSize start.toNat stop source

inductive ConstShadowTransitionMode where
  | observe
  | apply
deriving DecidableEq

structure ConstShadowTransitionResult where
  valid : Bool := true
  writeLive : Bool := false
  writePending : Bool := false
  writeRecorded : Bool := false
deriving DecidableEq

/-- Whether two blocks of bytes are the same. -/
def sameBytes (size : Nat) (left right : Nat → UInt8) : Bool :=
  (List.range size).all fun index => left index == right index

def constShadowTransitionElemEquals (values : List UInt8) (offset : Nat)
    (liveContains : Bool) (source : Nat → UInt8) (elemSize : Nat) : Bool :=
  if liveContains then sameBytes elemSize (bytesFrom values offset) source
  else (List.range elemSize).all fun index => source index == 0

/-- The state of the reference loop. -/
structure ReferenceReduction where
  result : ConstShadowTransitionResult
  reduction : Reduction
  changed : Bool

/-- One register of the reference loop. -/
def reduceStep (phase : RecorderPhase) (mode : ConstShadowTransitionMode)
    (start elemSize oldValueSize oldElemSize : Nat) (source : Nat → UInt8)
    (state : ReferenceReduction) (i : Nat) : ReferenceReduction :=
  let result := state.result
  let reduction := state.reduction
  let reg := start + i
  let offset := reg * elemSize
  let liveContains := decide (offset + elemSize ≤ oldValueSize)
  let equals := constShadowTransitionElemEquals reduction.values offset
    (mode == .apply || liveContains) (element source elemSize i) elemSize
  let plan := planRecorderStateWrite
    { phase := phase
      origin := .explicitSet
      liveContains := liveContains
      liveEquals := equals
      pendingContains :=
        decide (reg < oldElemSize) && byteAt reduction.dirtyElems reg != 0 }
  let reduced : ConstShadowTransitionResult :=
    { valid := result.valid && plan.valid
      writeLive := result.writeLive || plan.writeLive
      writePending := result.writePending || plan.writePending
      writeRecorded := result.writeRecorded || plan.writeRecorded }
  if mode != .apply || !plan.writePending || equals then
    { state with result := reduced }
  else
    { result := reduced
      reduction := reduction.write elemSize start source i
      changed := true }

def reduceConstShadowTransition (shadow : ConstShadow)
    (phase : RecorderPhase) (mode : ConstShadowTransitionMode)
    (start count : UInt32) (data : Option (Nat → UInt8)) (elemSize : Nat) :
    ConstShadowTransitionResult × ConstShadow :=
  if count = 0 then ({}, shadow)
  else
    match data with
    | none => ({ valid := false }, shadow)
    | some source =>
        let stop := start.toNat + count.toNat
        if elemSize = 0 then ({ valid := false }, shadow)
        else if mode = .apply && phase ≠ .live then
          ({ valid := false }, shadow)
        else if 0xffffffff < stop || 0xffffffff / stop < elemSize then
          ({ valid := false }, shadow)
        else
          let grown : ConstShadow :=
            if mode = .apply then
              { shadow with
                values := growBytes shadow.values (stop * elemSize)
                dirtyElems := growBytes shadow.dirtyElems stop }
            else shadow
          let reduced := (List.range count.toNat).foldl
            (reduceStep phase mode start.toNat elemSize
              shadow.values.length shadow.dirtyElems.length source)
            { result := {}
              reduction :=
                { values := grown.values
                  dirtyElems := grown.dirtyElems
                  firstChanged := count.toNat
                  lastChanged := 0 }
              changed := false }
          let written : ConstShadow :=
            { grown with
              values := reduced.reduction.values
              dirtyElems := reduced.reduction.dirtyElems }
          if mode = .apply && reduced.changed then
            (reduced.result,
              written.joinDirty
                (start.toNat + reduced.reduction.firstChanged)
                (start.toNat + reduced.reduction.lastChanged))
          else (reduced.result, written)

/-- A record that sets the registers from one on. -/
structure SetConst where
  startRegister : Nat
  registerCount : Nat
  bytes : List UInt8
deriving DecidableEq

/-- The record of a flush: the whole dirty interval. -/
def flushRecord (shadow : ConstShadow) (elemSize : Nat) : Option SetConst :=
  if !shadow.dirty then none
  else
    let count := shadow.dirtyEnd - shadow.dirtyStart
    some
      { startRegister := shadow.dirtyStart
        registerCount := count
        bytes :=
          (shadow.values.drop (shadow.dirtyStart * elemSize)).take
            (count * elemSize) }

/-- What the receiver of a record does to its registers. -/
def SetConst.applyTo (record : SetConst) (elemSize : Nat)
    (registers : Nat → UInt8) : Nat → UInt8 :=
  fun address =>
    let offset := record.startRegister * elemSize
    if offset ≤ address ∧ address < offset + record.bytes.length then
      byteAt record.bytes (address - offset)
    else registers address

/-- A shadow, the registers behind its records, and what the recorder wrote
last to each byte. -/
structure Delivery where
  shadow : ConstShadow
  registers : Nat → UInt8
  written : Nat → UInt8

inductive Call where
  | applyLive (maxRegisters : Nat) (start count : UInt32)
      (data : Option (Nat → UInt8))
  | reduce (phase : RecorderPhase) (mode : ConstShadowTransitionMode)
      (start count : UInt32) (data : Option (Nat → UInt8))
  | flush (accepted : Bool)

/-- The source over the bytes of the registers of a write. -/
def overwrite (elemSize start stop : Nat) (source bytes : Nat → UInt8) :
    Nat → UInt8 :=
  fun address =>
    if start * elemSize ≤ address ∧ address < stop * elemSize then
      source (address - start * elemSize)
    else bytes address

/-- What a setter writes when it is admitted. -/
def admitted (elemSize start count limit : Nat)
    (data : Option (Nat → UInt8)) (bytes : Nat → UInt8) : Nat → UInt8 :=
  match data with
  | none => bytes
  | some source =>
      if limit < start + count then bytes
      else overwrite elemSize start (start + count) source bytes

/-- The fixed-width path exists for registers of 4 and of 16 bytes and for
bounds that fit.  A flush whose record is not accepted changes nothing. -/
def Delivery.step (elemSize : Nat) (delivery : Delivery) :
    Call → Delivery
  | .applyLive maxRegisters start count data =>
      if (elemSize = 4 ∨ elemSize = 16) ∧
          maxRegisters ≤ 0xffffffff / elemSize then
        { delivery with
          shadow := applyConstShadowLive delivery.shadow elemSize
            maxRegisters start count data
          written := admitted elemSize start.toNat count.toNat maxRegisters
            data delivery.written }
      else delivery
  | .reduce phase mode start count data =>
      { delivery with
        shadow := (reduceConstShadowTransition delivery.shadow phase mode
          start count data elemSize).2
        written :=
          if phase = .live ∧ mode = .apply ∧ elemSize ≠ 0 then
            admitted elemSize start.toNat count.toNat
              (0xffffffff / elemSize) data delivery.written
          else delivery.written }
  | .flush accepted =>
      if accepted then
        { delivery with
          shadow :=
            if delivery.shadow.dirty then delivery.shadow.clear
            else delivery.shadow
          registers :=
            match flushRecord delivery.shadow elemSize with
            | none => delivery.registers
            | some record => record.applyTo elemSize delivery.registers }
      else delivery

end Dxmt9.Constants

/-!
## The constants of a state block

A state block keeps the constants of one kind in arrays of a fixed size, with a
mark for each register that was recorded.  A capture reads the marked registers
again from the live shadow, and an apply visits the ranges of marked registers.
-/

namespace Dxmt9.Constants

open Dxmt9.Memory Dxmt9.Order Dxmt9.Transition

/-! ## The shadow of a state block -/

def kMaxBytes : Nat := 4096

def kMaxElems : Nat := 256

structure StateBlockConstShadow where
  values : List UInt8 := List.replicate kMaxBytes 0
  trackedElems : List UInt8 := List.replicate kMaxElems 0
  valueSize : Nat := 0
  trackedSize : Nat := 0
deriving DecidableEq

namespace StateBlockConstShadow

def clear (shadow : StateBlockConstShadow) : StateBlockConstShadow :=
  { values := fillBytes shadow.values 0 kMaxBytes 0
    trackedElems := fillBytes shadow.trackedElems 0 kMaxElems 0
    valueSize := 0
    trackedSize := 0 }

def contains (shadow : StateBlockConstShadow) (reg : Nat) : Bool :=
  reg < shadow.trackedSize && byteAt shadow.trackedElems reg != 0

/-- The sizes are computed as 64-bit words, which an element of four or sixteen
bytes does not overflow. -/
def record (shadow : StateBlockConstShadow) (start count : UInt32)
    (data : Nat → UInt8) (elemSize : Nat) : StateBlockConstShadow :=
  if count = 0 then shadow
  else
    let stop := start.toNat + count.toNat
    let byteEnd := stop * elemSize
    if kMaxBytes < byteEnd ∨ kMaxElems < stop then shadow
    else
      { values := copyBytes shadow.values (start.toNat * elemSize)
          (count.toNat * elemSize) data
        trackedElems := fillBytes shadow.trackedElems start.toNat stop 1
        valueSize := max shadow.valueSize byteEnd
        trackedSize := max shadow.trackedSize stop }

/-- One register of a refresh. -/
def refreshRegister (live : ConstShadow) (elemSize : Nat)
    (shadow : StateBlockConstShadow) (reg : Nat) : StateBlockConstShadow :=
  if byteAt shadow.trackedElems reg = 0 then shadow
  else
    let offset := reg * elemSize
    { shadow with
      valueSize :=
        if shadow.valueSize < offset + elemSize then offset + elemSize
        else shadow.valueSize
      values :=
        if offset + elemSize ≤ live.values.length then
          copyBytes shadow.values offset elemSize
            (bytesFrom live.values offset)
        else fillBytes shadow.values offset (offset + elemSize) 0 }

def refreshFrom (shadow : StateBlockConstShadow) (live : ConstShadow)
    (elemSize : Nat) : StateBlockConstShadow :=
  (List.range shadow.trackedSize).foldl (refreshRegister live elemSize) shadow

/-- A visitor of ranges: a first register, how many there are, and the bytes
from the first one on.  It answers whether to go on. -/
abbrev Visitor (σ : Type) : Type :=
  σ → Nat → Nat → (Nat → UInt8) → Bool × σ

/-- The loop over the ranges; every round but the last visits one. -/
def forEachRangeFrom {σ : Type} (shadow : StateBlockConstShadow)
    (elemSize : Nat) (fn : Visitor σ) : Nat → Nat → σ → Bool × σ
  | 0, _, state => (true, state)
  | rounds + 1, start, state =>
      if start < shadow.trackedSize then
        let first := skipWhile (fun reg => byteAt shadow.trackedElems reg == 0)
          (shadow.trackedSize - start) start
        if first = shadow.trackedSize then (true, state)
        else
          let stop := skipWhile
            (fun reg => byteAt shadow.trackedElems reg != 0)
            (shadow.trackedSize - (first + 1)) (first + 1)
          match fn state first (stop - first)
              (bytesFrom shadow.values (first * elemSize)) with
          | (false, state) => (false, state)
          | (true, state) =>
              shadow.forEachRangeFrom elemSize fn rounds stop state
      else (true, state)

def forEachRange {σ : Type} (shadow : StateBlockConstShadow)
    (elemSize : Nat) (fn : Visitor σ) (state : σ) : Bool × σ :=
  shadow.forEachRangeFrom elemSize fn shadow.trackedSize 0 state

end StateBlockConstShadow

/-! ## Captured constants -/

/-- What a state block is to remember: a set of registers and their bytes. -/
structure CapturedConstants where
  tracked : Set Nat
  value : Nat → Nat → UInt8

/-- Nothing is remembered. -/
def CapturedConstants.empty : CapturedConstants :=
  { tracked := ∅
    value := fun _ _ => 0 }

/-- What can happen to the shadow of a state block. -/
inductive CaptureOp where
  | record (start count : UInt32) (data : Nat → UInt8)
  | refresh (live : ConstShadow)
  | clear

/-- The step of the shadow, whose elements all have one size. -/
def StateBlockConstShadow.step (elemSize : Nat)
    (shadow : StateBlockConstShadow) : CaptureOp → StateBlockConstShadow
  | .record start count data => shadow.record start count data elemSize
  | .refresh live => shadow.refreshFrom live elemSize
  | .clear => shadow.clear

/-- The range of a write is inside the arrays. -/
def FitsBlock (elemSize : Nat) (start count : UInt32) : Prop :=
  start.toNat + count.toNat ≤ kMaxElems ∧
    (start.toNat + count.toNat) * elemSize ≤ kMaxBytes

instance (elemSize : Nat) (start count : UInt32) :
    Decidable (FitsBlock elemSize start count) :=
  inferInstanceAs (Decidable (_ ∧ _))

/-- The registers that a write records; one past the arrays records none. -/
def recordedRegisters (elemSize : Nat) (start count : UInt32) : Set Nat :=
  { reg | FitsBlock elemSize start count ∧
    start.toNat ≤ reg ∧ reg < start.toNat + count.toNat }

/-- The bytes of a live register; one the live shadow does not have is zero. -/
def liveRegister (live : ConstShadow) (elemSize reg : Nat) : Nat → UInt8 :=
  fun byte =>
    if reg * elemSize + elemSize ≤ live.values.length then
      byteAt live.values (reg * elemSize + byte)
    else 0

open Classical in
/-- What each step means. -/
noncomputable def CapturedConstants.step (elemSize : Nat)
    (captured : CapturedConstants) : CaptureOp → CapturedConstants
  | .record start count data =>
      { tracked := captured.tracked ∪ recordedRegisters elemSize start count
        value := fun reg =>
          if reg ∈ recordedRegisters elemSize start count then
            element data elemSize (reg - start.toNat)
          else captured.value reg }
  | .refresh live =>
      { captured with
        value := fun reg =>
          if reg ∈ captured.tracked then liveRegister live elemSize reg
          else captured.value reg }
  | .clear => .empty

/-- A visitor that is given one range after another, until it refuses one. -/
def visitRanges {σ : Type} (fn : StateBlockConstShadow.Visitor σ)
    (bytes : Nat → Nat → UInt8) : List (Nat × Nat) → σ → Bool × σ
  | [], state => (true, state)
  | (first, count) :: rest, state =>
      match fn state first count (bytes first) with
      | (false, state) => (false, state)
      | (true, state) => visitRanges fn bytes rest state

end Dxmt9.Constants
