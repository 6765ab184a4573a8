import Mathlib.Data.List.Basic
import Dxmt9.Transition.Run

/-!
# The transient resource arena

Short-lived buffers are cut from a shared slab, which is used as a ring, or
get a buffer of their own.  A slice is kept until the sequence number it was
asked for has completed.
-/

namespace Dxmt9.Transient

def maxUInt64 : Nat := 0xffffffffffffffff

/-- An unsigned sum of 64 bits. -/
def wrap (value : Nat) : Nat := value % (maxUInt64 + 1)

def kInitialSlabCapacity : Nat := 8 <<< 20

def alignUp (value alignment : Nat) : Nat :=
  if alignment ≤ 1 then value
  else wrap (value + alignment - 1) &&& (maxUInt64 ^^^ (alignment - 1))

def nextPowerOfTwo (value : Nat) : Nat :=
  if value ≤ 1 then 1
  else
    wrap ([1, 2, 4, 8, 16, 32].foldl
      (fun value shift => value ||| value >>> shift) (value - 1) + 1)

/-! ## State -/

/-- What the device answers to one request for a buffer. -/
inductive NewBufferResult where
  | nothing
  | unmapped
  | mapped
deriving DecidableEq

/-- What is fixed while an arena lives: whether there is a device, the debug
override, and what the device answers to each request. -/
structure ArenaConfig where
  device : Bool
  forceDedicatedTransientUploads : Bool
  newBuffer : Nat → NewBufferResult

/-- A slice without a buffer is empty. -/
structure BufferSlice where
  buffer : Option Nat := none
  offset : Nat := 0
  size : Nat := 0
deriving DecidableEq

structure BufferAllocation where
  offset : Nat
  size : Nat
  seqId : Nat
deriving DecidableEq

structure RetainedBuffer where
  buffer : Nat
  seqId : Nat
deriving DecidableEq

/-- A slab is mapped as long as it exists. -/
structure Slab where
  buffer : Nat
  capacity : Nat
deriving DecidableEq

structure ResourceArena where
  slab : Option Slab := none
  slabCursor : Nat := 0
  slabAllocations : List BufferAllocation := []
  retainedBuffers : List RetainedBuffer := []
  /-- The length of the buffer behind every request, if there is one. -/
  buffers : List (Option Nat) := []
deriving DecidableEq

namespace ResourceArena

def slabCapacity (arena : ResourceArena) : Nat :=
  arena.slab.elim 0 (·.capacity)

/-- Asks the device for a buffer, which is named by the request. -/
def newBuffer (config : ArenaConfig) (arena : ResourceArena)
    (length : Nat) : ResourceArena × NewBufferResult × Nat :=
  let request := arena.buffers.length
  let answer := config.newBuffer request
  ({ arena with
      buffers := arena.buffers ++
        [if answer = .nothing then none else some length] },
    answer, request)

/-- Forgets what has completed; an empty slab starts over. -/
def reclaimUnlocked (arena : ResourceArena) (completedSeqId : Nat) :
    ResourceArena :=
  let allocations := arena.slabAllocations.dropWhile
    fun allocation => allocation.seqId ≤ completedSeqId
  { arena with
    slabAllocations := allocations
    slabCursor := if allocations = [] then 0 else arena.slabCursor
    retainedBuffers := arena.retainedBuffers.dropWhile
      fun retained => retained.seqId ≤ completedSeqId }

def ensureSlabUnlocked (config : ArenaConfig) (arena : ResourceArena)
    (minimumCapacity : Nat) : ResourceArena × Bool :=
  match arena.slab with
  | some slab => (arena, decide (minimumCapacity ≤ slab.capacity))
  | none =>
      let capacity := nextPowerOfTwo
        (max kInitialSlabCapacity minimumCapacity)
      match arena.newBuffer config capacity with
      | (asked, .mapped, buffer) =>
          ({ asked with
              slab := some { buffer := buffer, capacity := capacity }
              slabCursor := 0 }, true)
      | (asked, _, _) => (asked, false)

/-- Retires the slab, which is retained while it is in use. -/
def rotateSlabUnlocked (config : ArenaConfig) (arena : ResourceArena)
    (minimumCapacity seqId : Nat) : ResourceArena × Bool :=
  let retained := match arena.slab with
    | some slab =>
        if arena.slabAllocations = [] then []
        else [{ buffer := slab.buffer, seqId := seqId : RetainedBuffer }]
    | none => []
  ensureSlabUnlocked config
    { arena with
      slab := none
      slabCursor := 0
      slabAllocations := []
      retainedBuffers := arena.retainedBuffers ++ retained }
    minimumCapacity

/-- The region meets no allocation, by a scan. -/
def canPlace (arena : ResourceArena) (alignedSize offset : Nat) : Bool :=
  decide (wrap (offset + alignedSize) ≤ arena.slabCapacity) &&
    arena.slabAllocations.all fun allocation =>
      decide (wrap (offset + alignedSize) ≤ allocation.offset) ||
        decide (wrap (allocation.offset + allocation.size) ≤ offset)

/-- The oldest allocation is not above the newest: the cursor is taken to be
past every allocation. -/
def canAppendWithoutScan (arena : ResourceArena)
    (alignedSize offset : Nat) : Bool :=
  decide (wrap (offset + alignedSize) ≤ arena.slabCapacity) &&
    match arena.slabAllocations.head?, arena.slabAllocations.getLast? with
    | some front, some back => decide (front.offset ≤ back.offset)
    | _, _ => true

/-- Takes a region of the slab. -/
def append (arena : ResourceArena) (offset alignedSize seqId : Nat) :
    ResourceArena :=
  { arena with
    slabAllocations := arena.slabAllocations ++
      [{ offset := offset, size := alignedSize, seqId := seqId }]
    slabCursor := wrap (offset + alignedSize) }

/-- A place in the slab: at the cursor, at the start, or in a new slab. -/
def place (config : ArenaConfig) (arena : ResourceArena)
    (alignedSize alignment seqId : Nat) : ResourceArena × Option Nat :=
  let offset := alignUp arena.slabCursor alignment
  if arena.canAppendWithoutScan alignedSize offset ∨
      arena.canPlace alignedSize offset then
    (arena.append offset alignedSize seqId, some offset)
  else if arena.canPlace alignedSize 0 then
    (arena.append 0 alignedSize seqId, some 0)
  else
    let rotated := arena.rotateSlabUnlocked config alignedSize seqId
    if rotated.2 = false then (rotated.1, none)
    else
      let offset := alignUp rotated.1.slabCursor alignment
      if rotated.1.canPlace alignedSize offset = false then (rotated.1, none)
      else (rotated.1.append offset alignedSize seqId, some offset)

/-- A buffer of its own; a reservation has to be mapped. -/
def dedicated (config : ArenaConfig) (mapped : Bool)
    (arena : ResourceArena) (size seqId : Nat) :
    ResourceArena × BufferSlice :=
  match arena.newBuffer config size with
  | (asked, answer, buffer) =>
      if answer = .nothing ∨ mapped ∧ answer = .unmapped then (asked, {})
      else
        ({ asked with
            retainedBuffers := asked.retainedBuffers ++
              [{ buffer := buffer, seqId := seqId }] },
          { buffer := some buffer, size := size })

/-- What every kind of call does for one non-empty size. -/
def allocate (config : ArenaConfig) (mapped : Bool) (arena : ResourceArena)
    (size alignment seqId : Nat) : ResourceArena × BufferSlice :=
  if config.forceDedicatedTransientUploads then
    arena.dedicated config mapped size seqId
  else
    let alignedSize := alignUp size alignment
    let ensured := arena.ensureSlabUnlocked config alignedSize
    if ensured.2 = false then
      ensured.1.dedicated config mapped size seqId
    else
      match ensured.1.place config alignedSize alignment seqId with
      | (placed, some offset) =>
          (placed,
            { buffer := placed.slab.map (·.buffer)
              offset := offset
              size := size })
      | (rotated, none) => rotated.dedicated config mapped size seqId

def uploadBuffer (config : ArenaConfig) (arena : ResourceArena)
    (size alignment seqId completedSeqId : Nat) :
    ResourceArena × BufferSlice :=
  if config.device = false ∨ size = 0 then (arena, {})
  else
    (arena.reclaimUnlocked completedSeqId).allocate config false size
      (max alignment 1) seqId

/-- The loop over the payloads of a batch. -/
def allocateAll (config : ArenaConfig) (alignment seqId : Nat) :
    ResourceArena → List Nat → ResourceArena × List BufferSlice
  | arena, [] => (arena, [])
  | arena, size :: rest =>
      if size = 0 then
        let others := allocateAll config alignment seqId arena rest
        (others.1, {} :: others.2)
      else
        let first := arena.allocate config false size alignment seqId
        let others := allocateAll config alignment seqId first.1 rest
        (others.1, first.2 :: others.2)

def uploadBufferBatch (config : ArenaConfig) (arena : ResourceArena)
    (sizes : List Nat) (alignment seqId completedSeqId : Nat) :
    ResourceArena × List BufferSlice :=
  if config.device = false ∨ sizes = [] then (arena, [])
  else
    allocateAll config (max alignment 1) seqId
      (arena.reclaimUnlocked completedSeqId) sizes

def reserveBuffer (config : ArenaConfig) (arena : ResourceArena)
    (size alignment seqId completedSeqId : Nat) :
    ResourceArena × BufferSlice :=
  if config.device = false ∨ size = 0 then (arena, {})
  else
    (arena.reclaimUnlocked completedSeqId).allocate config true size
      (max alignment 1) seqId

def reclaim (arena : ResourceArena) (completedSeqId : Nat) : ResourceArena :=
  arena.reclaimUnlocked completedSeqId

end ResourceArena

inductive ArenaCall where
  | uploadBuffer (size alignment seqId completedSeqId : Nat)
  | uploadBufferBatch (sizes : List Nat)
      (alignment seqId completedSeqId : Nat)
  | reserveBuffer (size alignment seqId completedSeqId : Nat)
  | reclaim (completedSeqId : Nat)
deriving DecidableEq

def ArenaCall.completedSeqId : ArenaCall → Nat
  | .uploadBuffer _ _ _ completed => completed
  | .uploadBufferBatch _ _ _ completed => completed
  | .reserveBuffer _ _ _ completed => completed
  | .reclaim completed => completed

/-- What a call asks for; a reclaim asks for nothing. -/
def ArenaCall.seqId? : ArenaCall → Option Nat
  | .uploadBuffer _ _ seqId _ => some seqId
  | .uploadBufferBatch _ _ seqId _ => some seqId
  | .reserveBuffer _ _ seqId _ => some seqId
  | .reclaim _ => none

/-- A slice that was handed out, with what it was asked for and with what had
completed by then. -/
structure IssuedSlice where
  buffer : Nat
  offset : Nat
  size : Nat
  alignment : Nat
  seqId : Nat
  completedSeqId : Nat
deriving DecidableEq

def issuedSlices (slices : List BufferSlice)
    (alignment seqId completedSeqId : Nat) : List IssuedSlice :=
  slices.filterMap fun slice =>
    slice.buffer.map fun buffer =>
      { buffer := buffer
        offset := slice.offset
        size := slice.size
        alignment := alignment
        seqId := seqId
        completedSeqId := completedSeqId }

/-- An arena with everything it handed out and the last completed value. -/
structure ArenaRun where
  arena : ResourceArena := {}
  issued : List IssuedSlice := []
  completedSeqId : Nat := 0
deriving DecidableEq

def ArenaRun.step (config : ArenaConfig) (run : ArenaRun) :
    ArenaCall → ArenaRun
  | .uploadBuffer size alignment seqId completed =>
      let uploaded := run.arena.uploadBuffer config size alignment seqId
        completed
      { arena := uploaded.1
        issued := run.issued ++
          issuedSlices [uploaded.2] alignment seqId completed
        completedSeqId := completed }
  | .uploadBufferBatch sizes alignment seqId completed =>
      let uploaded := run.arena.uploadBufferBatch config sizes alignment
        seqId completed
      { arena := uploaded.1
        issued := run.issued ++
          issuedSlices uploaded.2 alignment seqId completed
        completedSeqId := completed }
  | .reserveBuffer size alignment seqId completed =>
      let reserved := run.arena.reserveBuffer config size alignment seqId
        completed
      { arena := reserved.1
        issued := run.issued ++
          issuedSlices [reserved.2] alignment seqId completed
        completedSeqId := completed }
  | .reclaim completed =>
      { run with
        arena := run.arena.reclaim completed
        completedSeqId := completed }

def runArena (config : ArenaConfig) (calls : List ArenaCall) : ArenaRun :=
  Transition.run (ArenaRun.step config) {} calls

end Dxmt9.Transient
