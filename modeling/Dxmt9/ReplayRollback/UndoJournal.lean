import Dxmt9.ReplayRollback.DeviceState

/-!
# The undo journal

The journal keeps the first value of every component that a replay is about to
change.  Its capacity is fixed: constants are saved as bytes in one arena, and
every capture that saves something takes one entry.
-/

namespace Dxmt9.ReplayRollback

open Function

variable {T : StateTypes}

/-! ## State -/

structure TableUndo (α : Type) where
  entries : Nat → Option α := fun _ => none
  /-- The occupied and the dirty word. -/
  words : Nat → Option (UInt64 × UInt64) := fun _ => none
  /-- The count and the rolling hash. -/
  metadata : Option (UInt32 × UInt64) := none

/-- Saves a key, its word and the totals, whatever of these is not saved
yet. -/
def TableUndo.record {α : Type} (undo : TableUndo α)
    (table : StateValueTable α) (key : Nat) : TableUndo α :=
  let word := StateValueTable.word key
  { entries := update undo.entries key (some (table.values key))
    words := update undo.words word
      (some ((undo.words word).getD (table.occupied word, table.dirty word)))
    metadata := some (undo.metadata.getD (table.count, table.rollingHash)) }

structure ConstantUndo where
  kind : ConstantKind
  index : Nat
  arenaOffset : Nat
  byteSize : Nat
deriving DecidableEq

def kConstantUndoCapacity : Nat :=
  kMaxVertexConstants + kMaxIntegerConstants + kMaxBoolConstants +
    kMaxPixelConstants + kMaxIntegerConstants + kMaxBoolConstants

/-- The bytes of all vertex and pixel constants. -/
def kConstantArenaCapacity : Nat :=
  (kMaxVertexConstants * 16 + kMaxIntegerConstants * 16 +
      kMaxBoolConstants) +
    (kMaxPixelConstants * 16 + kMaxIntegerConstants * 16 +
      kMaxBoolConstants)

def kEntryCapacity : Nat :=
  kConstantUndoCapacity + kMaxStateSlots +
    kMaxTextureStages * kMaxTextureStageStates +
    kMaxSamplers * kMaxSamplerStates + kMaxTransformSlots + 128

/-- What was not captured is none; the arena holds its used bytes. -/
structure DeviceStateUndoJournal (T : StateTypes) where
  entryCount : Nat := 0
  overflowed : Bool := false
  constantArena : List UInt8 := []
  constants : List ConstantUndo := []
  constantCaptured : ConstantKind → Nat → Nat := fun _ _ => 0
  slots : (key : SlotKey) → Option (key.Value T) := fun _ => none
  tables : (table : TableName) → TableUndo (table.Value T) := fun _ => {}

namespace DeviceStateUndoJournal

def clear (_ : DeviceStateUndoJournal T) : DeviceStateUndoJournal T := {}

def reserveEntry (journal : DeviceStateUndoJournal T) :
    DeviceStateUndoJournal T × Bool :=
  if journal.entryCount = kEntryCapacity then
    ({ journal with overflowed := true }, false)
  else ({ journal with entryCount := journal.entryCount + 1 }, true)

/-- What every capture does: one entry for what was not captured before. -/
def captureOnce (journal : DeviceStateUndoJournal T) (captured : Bool)
    (record : DeviceStateUndoJournal T → DeviceStateUndoJournal T) :
    DeviceStateUndoJournal T × Bool :=
  if captured then (journal, true)
  else if journal.reserveEntry.2 = false then (journal.reserveEntry.1, false)
  else (record journal.reserveEntry.1, true)

/-! ## Plain components -/

def recordSlot (journal : DeviceStateUndoJournal T) (key : SlotKey)
    (value : key.Value T) : DeviceStateUndoJournal T :=
  { journal with slots := update journal.slots key (some value) }

def captureSlot (journal : DeviceStateUndoJournal T) (key : SlotKey)
    (value : key.Value T) : DeviceStateUndoJournal T × Bool :=
  journal.captureOnce (journal.slots key).isSome
    fun reserved => reserved.recordSlot key value

def captureViewport (journal : DeviceStateUndoJournal T)
    (state : DeviceState T) : DeviceStateUndoJournal T × Bool :=
  journal.captureSlot .viewport state.viewport

def captureScissor (journal : DeviceStateUndoJournal T)
    (state : DeviceState T) : DeviceStateUndoJournal T × Bool :=
  journal.captureSlot .scissor (state.scissorRect, state.scissorEnabled)

def captureMaterial (journal : DeviceStateUndoJournal T)
    (state : DeviceState T) : DeviceStateUndoJournal T × Bool :=
  journal.captureSlot .material state.material

def captureLight (journal : DeviceStateUndoJournal T)
    (state : DeviceState T) (index : Nat) :
    DeviceStateUndoJournal T × Bool :=
  if kMaxLights ≤ index then (journal, false)
  else journal.captureSlot (.light index) (state.lights index)

def captureLightEnabled (journal : DeviceStateUndoJournal T)
    (state : DeviceState T) (index : Nat) :
    DeviceStateUndoJournal T × Bool :=
  if kMaxLights ≤ index then (journal, false)
  else journal.captureSlot (.lightEnabled index) (state.lightEnabled index)

def captureStream (journal : DeviceStateUndoJournal T)
    (state : DeviceState T) (index : Nat) :
    DeviceStateUndoJournal T × Bool :=
  if kMaxStreams ≤ index then (journal, false)
  else
    journal.captureSlot (.stream index)
      (state.streamBuffers index, state.streamOffsets index,
        state.streamStrides index, state.streamFrequencies index)

def captureIndex (journal : DeviceStateUndoJournal T)
    (state : DeviceState T) : DeviceStateUndoJournal T × Bool :=
  journal.captureSlot .index (state.indexBuffer, state.indexType)

def captureVertexDeclaration (journal : DeviceStateUndoJournal T)
    (state : DeviceState T) : DeviceStateUndoJournal T × Bool :=
  journal.captureSlot .vertexDeclaration state.vertexDecl

def captureFvf (journal : DeviceStateUndoJournal T)
    (state : DeviceState T) : DeviceStateUndoJournal T × Bool :=
  journal.captureSlot .fvf state.fvf

def captureShader (journal : DeviceStateUndoJournal T)
    (state : DeviceState T) (vertex : Bool) :
    DeviceStateUndoJournal T × Bool :=
  journal.captureSlot (.shader vertex)
    (if vertex then state.vertexShader else state.pixelShader)

def captureTexture (journal : DeviceStateUndoJournal T)
    (state : DeviceState T) (index : Nat) :
    DeviceStateUndoJournal T × Bool :=
  if kMaxTextures ≤ index then (journal, false)
  else journal.captureSlot (.texture index) (state.textures index)

def captureRenderTarget (journal : DeviceStateUndoJournal T)
    (state : DeviceState T) (index : Nat) :
    DeviceStateUndoJournal T × Bool :=
  if kMaxRenderTargets ≤ index then (journal, false)
  else journal.captureSlot (.renderTarget index) (state.renderTargets index)

def captureDepthStencil (journal : DeviceStateUndoJournal T)
    (state : DeviceState T) : DeviceStateUndoJournal T × Bool :=
  journal.captureSlot .depthStencil state.depthStencil

def captureClipPlane (journal : DeviceStateUndoJournal T)
    (state : DeviceState T) (index : Nat) :
    DeviceStateUndoJournal T × Bool :=
  if kMaxClipPlanes ≤ index then (journal, false)
  else journal.captureSlot (.clipPlane index) (state.clipPlanes index)

def captureInScene (journal : DeviceStateUndoJournal T)
    (state : DeviceState T) : DeviceStateUndoJournal T × Bool :=
  journal.captureSlot .inScene state.inScene

def recordTableEntry (journal : DeviceStateUndoJournal T) (name : TableName)
    (table : StateValueTable (name.Value T)) (key : Nat) :
    DeviceStateUndoJournal T :=
  { journal with
    tables := update journal.tables name
      ((journal.tables name).record table key) }

def captureTableEntry (journal : DeviceStateUndoJournal T)
    (name : TableName) (table : StateValueTable (name.Value T))
    (key : Nat) : DeviceStateUndoJournal T × Bool :=
  if name.maxEntries ≤ key then (journal, false)
  else
    journal.captureOnce ((journal.tables name).entries key).isSome
      fun reserved => reserved.recordTableEntry name table key

def captureRenderState (journal : DeviceStateUndoJournal T)
    (state : DeviceState T) (key : Nat) : DeviceStateUndoJournal T × Bool :=
  journal.captureTableEntry .renderStates state.renderStates key

def captureTextureStageState (journal : DeviceStateUndoJournal T)
    (state : DeviceState T) (stage key : Nat) :
    DeviceStateUndoJournal T × Bool :=
  if kMaxTextureStages ≤ stage then (journal, false)
  else
    journal.captureTableEntry (.textureStageStates stage)
      (state.textureStageStates stage) key

def captureSamplerState (journal : DeviceStateUndoJournal T)
    (state : DeviceState T) (sampler key : Nat) :
    DeviceStateUndoJournal T × Bool :=
  if kMaxSamplers ≤ sampler then (journal, false)
  else
    journal.captureTableEntry (.samplerStates sampler)
      (state.samplerStates sampler) key

def captureTransform (journal : DeviceStateUndoJournal T)
    (state : DeviceState T) (key : Nat) : DeviceStateUndoJournal T × Bool :=
  journal.captureTableEntry .transforms state.transforms key

/-- The presence bit of a constant. -/
def isConstantCaptured (journal : DeviceStateUndoJournal T)
    (kind : ConstantKind) (index : Nat) : Bool :=
  (journal.constantCaptured kind (index / 64)).testBit (index % 64)

/-- Saves the bytes of a constant behind those saved before. -/
def recordConstant (journal : DeviceStateUndoJournal T)
    (state : DeviceState T) (kind : ConstantKind) (index : Nat) :
    DeviceStateUndoJournal T :=
  { journal with
    constants := journal.constants ++
      [{ kind := kind
         index := index
         arenaOffset := journal.constantArena.length
         byteSize := constantSize kind }]
    constantArena := journal.constantArena ++
      List.ofFn (state.constants kind index)
    constantCaptured := update journal.constantCaptured kind
      (update (journal.constantCaptured kind) (index / 64)
        (journal.constantCaptured kind (index / 64) |||
          1 <<< (index % 64))) }

def captureConstant (journal : DeviceStateUndoJournal T)
    (state : DeviceState T) (kind : ConstantKind) (index : Nat) :
    DeviceStateUndoJournal T × Bool :=
  if constantLimit kind ≤ index then (journal, false)
  else if journal.isConstantCaptured kind index then (journal, true)
  else if journal.constants.length = kConstantUndoCapacity ∨
      kConstantArenaCapacity - journal.constantArena.length <
        constantSize kind then
    ({ journal with overflowed := true }, false)
  else if journal.reserveEntry.2 = false then
    ({ journal.reserveEntry.1 with overflowed := true }, false)
  else (journal.reserveEntry.1.recordConstant state kind index, true)

/-- Captures constants one after another, up to one that fails. -/
def captureConstants (state : DeviceState T) (kind : ConstantKind) :
    DeviceStateUndoJournal T → List Nat → DeviceStateUndoJournal T × Bool
  | journal, [] => (journal, true)
  | journal, index :: rest =>
      if (journal.captureConstant state kind index).2 = false then
        ((journal.captureConstant state kind index).1, false)
      else
        captureConstants state kind (journal.captureConstant state kind
          index).1 rest

def captureConstantRange (journal : DeviceStateUndoJournal T)
    (state : DeviceState T) (kind : ConstantKind) (start count : Nat) :
    DeviceStateUndoJournal T × Bool :=
  if constantLimit kind < start ∨ constantLimit kind - start < count then
    (journal, false)
  else captureConstants state kind journal (List.range' start count)

/-- Copies the saved bytes of a constant back. -/
def restoreConstant (arena : List UInt8) (entry : ConstantUndo)
    (state : DeviceState T) : DeviceState T :=
  { state with
    constants := fun kind index =>
      if kind = entry.kind ∧ index = entry.index then
        fun byte =>
          if byte < entry.byteSize then
            arena.getD (entry.arenaOffset + byte) 0
          else state.constants kind index byte
      else state.constants kind index }

/-- The elements of an array that were saved. -/
def restoreArray {α : Type} (limit : Nat) (saved : Nat → Option α)
    (values : Nat → α) (index : Nat) : α :=
  if index < limit then (saved index).getD (values index) else values index

def restoreTable {α : Type} (maxEntries : Nat) (undo : TableUndo α)
    (table : StateValueTable α) : StateValueTable α :=
  match undo.metadata with
  | none => table
  | some totals =>
      { values := restoreArray maxEntries undo.entries table.values
        occupied := restoreArray ((maxEntries + 63) / 64)
          (fun word => (undo.words word).map (·.1)) table.occupied
        dirty := restoreArray ((maxEntries + 63) / 64)
          (fun word => (undo.words word).map (·.2)) table.dirty
        count := totals.1
        rollingHash := totals.2 }

/-- The tables of an array that were saved. -/
def restoreTables {α : Type} (limit maxEntries : Nat)
    (undo : Nat → TableUndo α) (tables : Nat → StateValueTable α)
    (index : Nat) : StateValueTable α :=
  if index < limit then restoreTable maxEntries (undo index) (tables index)
  else tables index

/-- Writes everything that was saved back; the constants last saved first. -/
def restore (journal : DeviceStateUndoJournal T) (state : DeviceState T) :
    DeviceState T :=
  let constants := journal.constants.foldr
    (restoreConstant journal.constantArena) state
  let scissor := (journal.slots .scissor).getD
    (state.scissorRect, state.scissorEnabled)
  let streams := restoreArray kMaxStreams
    (fun index => journal.slots (.stream index))
    (fun index => (state.streamBuffers index, state.streamOffsets index,
      state.streamStrides index, state.streamFrequencies index))
  let index := (journal.slots .index).getD
    (state.indexBuffer, state.indexType)
  { viewport := (journal.slots .viewport).getD state.viewport
    scissorRect := scissor.1
    scissorEnabled := scissor.2
    material := (journal.slots .material).getD state.material
    lights := restoreArray kMaxLights
      (fun index => journal.slots (.light index)) state.lights
    lightEnabled := restoreArray kMaxLights
      (fun index => journal.slots (.lightEnabled index)) state.lightEnabled
    streamBuffers := fun index => (streams index).1
    streamOffsets := fun index => (streams index).2.1
    streamStrides := fun index => (streams index).2.2.1
    streamFrequencies := fun index => (streams index).2.2.2
    indexBuffer := index.1
    indexType := index.2
    vertexDecl := (journal.slots .vertexDeclaration).getD state.vertexDecl
    fvf := (journal.slots .fvf).getD state.fvf
    vertexShader := (journal.slots (.shader true)).getD state.vertexShader
    pixelShader := (journal.slots (.shader false)).getD state.pixelShader
    textures := restoreArray kMaxTextures
      (fun index => journal.slots (.texture index)) state.textures
    renderTargets := restoreArray kMaxRenderTargets
      (fun index => journal.slots (.renderTarget index)) state.renderTargets
    depthStencil := (journal.slots .depthStencil).getD state.depthStencil
    clipPlanes := restoreArray kMaxClipPlanes
      (fun index => journal.slots (.clipPlane index)) state.clipPlanes
    inScene := (journal.slots .inScene).getD state.inScene
    renderStates := restoreTable kMaxStateSlots
      (journal.tables .renderStates) state.renderStates
    textureStageStates := restoreTables kMaxTextureStages
      kMaxTextureStageStates
      (fun stage => journal.tables (.textureStageStates stage))
      state.textureStageStates
    samplerStates := restoreTables kMaxSamplers kMaxSamplerStates
      (fun sampler => journal.tables (.samplerStates sampler))
      state.samplerStates
    transforms := restoreTable kMaxTransformSlots
      (journal.tables .transforms) state.transforms
    constants := constants.constants }

end DeviceStateUndoJournal

/-- Everything that can be captured, by one call. -/
inductive CaptureCall where
  | viewport
  | scissor
  | material
  | light (index : Nat)
  | lightEnabled (index : Nat)
  | stream (index : Nat)
  | index
  | vertexDeclaration
  | fvf
  | shader (vertex : Bool)
  | texture (index : Nat)
  | renderTarget (index : Nat)
  | depthStencil
  | clipPlane (index : Nat)
  | inScene
  | renderState (key : Nat)
  | textureStageState (stage key : Nat)
  | samplerState (sampler key : Nat)
  | transform (key : Nat)
  | constantRange (kind : ConstantKind) (start count : Nat)
deriving DecidableEq

def DeviceStateUndoJournal.capture (journal : DeviceStateUndoJournal T)
    (state : DeviceState T) :
    CaptureCall → DeviceStateUndoJournal T × Bool
  | .viewport => journal.captureViewport state
  | .scissor => journal.captureScissor state
  | .material => journal.captureMaterial state
  | .light index => journal.captureLight state index
  | .lightEnabled index => journal.captureLightEnabled state index
  | .stream index => journal.captureStream state index
  | .index => journal.captureIndex state
  | .vertexDeclaration => journal.captureVertexDeclaration state
  | .fvf => journal.captureFvf state
  | .shader vertex => journal.captureShader state vertex
  | .texture index => journal.captureTexture state index
  | .renderTarget index => journal.captureRenderTarget state index
  | .depthStencil => journal.captureDepthStencil state
  | .clipPlane index => journal.captureClipPlane state index
  | .inScene => journal.captureInScene state
  | .renderState key => journal.captureRenderState state key
  | .textureStageState stage key =>
      journal.captureTextureStageState state stage key
  | .samplerState sampler key => journal.captureSamplerState state sampler key
  | .transform key => journal.captureTransform state key
  | .constantRange kind start count =>
      journal.captureConstantRange state kind start count

end Dxmt9.ReplayRollback
