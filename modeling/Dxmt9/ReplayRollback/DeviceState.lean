import Mathlib.Logic.Function.Basic
import Dxmt9.Memory.UndoLog

/-!
# The state that a replay changes

The state of a device is a record of plain values, arrays, tables of numbered
states and shader constants.  It is seen as a store of components: what the
undo journal saves as one.
-/

namespace Dxmt9.ReplayRollback

/-! ## Limits -/

def kMaxRenderTargets : Nat := 4
def kMaxStreams : Nat := 16
def kMaxTextures : Nat := 20
def kMaxSamplers : Nat := kMaxTextures
def kMaxTextureStages : Nat := 8
def kMaxLights : Nat := 8
def kMaxClipPlanes : Nat := 6
def kMaxVertexConstants : Nat := 256
def kMaxPixelConstants : Nat := 224
def kMaxIntegerConstants : Nat := 16
def kMaxBoolConstants : Nat := 16
def kMaxStateSlots : Nat := 256
def kMaxTextureStageStates : Nat := 64
def kMaxSamplerStates : Nat := 16
def kMaxTransformSlots : Nat := 267

/-- A table of numbered values; its words hold 64 keys each. -/
structure StateValueTable (α : Type) where
  values : Nat → α
  occupied : Nat → UInt64
  dirty : Nat → UInt64
  count : UInt32
  rollingHash : UInt64

namespace StateValueTable

variable {α : Type}

def word (key : Nat) : Nat := key / 64

def bit (key : Nat) : UInt64 := 1 <<< (UInt64.ofNat (key % 64))

/-- Writes a valid key. -/
def set [DecidableEq α] (entryHash : Nat → α → UInt64)
    (table : StateValueTable α) (key : Nat) (value : α) :
    StateValueTable α :=
  let mask := bit key
  let slot := word key
  let isOccupied := table.occupied slot &&& mask ≠ 0
  if isOccupied ∧ table.values key = value then table
  else
    { values := Function.update table.values key value
      occupied :=
        if isOccupied then table.occupied
        else Function.update table.occupied slot
          (table.occupied slot ||| mask)
      dirty := Function.update table.dirty slot (table.dirty slot ||| mask)
      count := if isOccupied then table.count else table.count + 1
      rollingHash :=
        (if isOccupied then
          table.rollingHash ^^^ entryHash key (table.values key)
        else table.rollingHash) ^^^ entryHash key value }

/-- Takes a valid key out. -/
def erase (entryHash : Nat → α → UInt64) (zero : α)
    (table : StateValueTable α) (key : Nat) : StateValueTable α :=
  let mask := bit key
  let slot := word key
  if table.occupied slot &&& mask = 0 then table
  else
    { values := Function.update table.values key zero
      occupied := Function.update table.occupied slot
        (table.occupied slot &&& ~~~mask)
      dirty := Function.update table.dirty slot (table.dirty slot ||| mask)
      count := table.count - 1
      rollingHash :=
        table.rollingHash ^^^ entryHash key (table.values key) }

end StateValueTable

/-! ## Components -/

/-- The types of the values that a replay copies as a whole. -/
structure StateTypes where
  Viewport : Type
  Rect : Type
  Material : Type
  Light : Type
  Buffer : Type
  IndexType : Type
  VertexDeclaration : Type
  Shader : Type
  Texture : Type
  Attachment : Type
  ClipPlane : Type
  Matrix : Type

/-- The plain components, which have a slot of their own. -/
inductive SlotKey where
  | viewport
  | scissor
  | material
  | light (index : Nat)
  | lightEnabled (index : Nat)
  | stream (index : Nat)
  | index
  | vertexDeclaration
  | fvf
  | shader (vertex : Bool)
  | texture (index : Nat)
  | renderTarget (index : Nat)
  | depthStencil
  | clipPlane (index : Nat)
  | inScene
deriving DecidableEq

def SlotKey.Value (T : StateTypes) : SlotKey → Type
  | .viewport => T.Viewport
  | .scissor => T.Rect × Bool
  | .material => T.Material
  | .light _ => T.Light
  | .lightEnabled _ => Bool
  | .stream _ => Option T.Buffer × UInt32 × UInt32 × UInt32
  | .index => Option T.Buffer × T.IndexType
  | .vertexDeclaration => T.VertexDeclaration
  | .fvf => UInt32
  | .shader _ => T.Shader
  | .texture _ => Option T.Texture
  | .renderTarget _ => T.Attachment
  | .depthStencil => T.Attachment
  | .clipPlane _ => T.ClipPlane
  | .inScene => Bool

/-- The index of a slot is one of its array. -/
def SlotKey.InRange : SlotKey → Prop
  | .light place => place < kMaxLights
  | .lightEnabled place => place < kMaxLights
  | .stream place => place < kMaxStreams
  | .texture place => place < kMaxTextures
  | .renderTarget place => place < kMaxRenderTargets
  | .clipPlane place => place < kMaxClipPlanes
  | _ => True

inductive TableName where
  | renderStates
  | textureStageStates (stage : Nat)
  | samplerStates (sampler : Nat)
  | transforms
deriving DecidableEq

def TableName.Value (T : StateTypes) : TableName → Type
  | .transforms => T.Matrix
  | _ => UInt32

def TableName.InRange : TableName → Prop
  | .textureStageStates stage => stage < kMaxTextureStages
  | .samplerStates sampler => sampler < kMaxSamplers
  | _ => True

/-- How many keys a table has. -/
def TableName.maxEntries : TableName → Nat
  | .renderStates => kMaxStateSlots
  | .textureStageStates _ => kMaxTextureStageStates
  | .samplerStates _ => kMaxSamplerStates
  | .transforms => kMaxTransformSlots

/-- How many words hold the keys of a table. -/
def TableName.words (table : TableName) : Nat :=
  (table.maxEntries + 63) / 64

inductive ConstantKind where
  | vertexFloat
  | vertexInt
  | vertexBool
  | pixelFloat
  | pixelInt
  | pixelBool
deriving DecidableEq

def constantLimit : ConstantKind → Nat
  | .vertexFloat => kMaxVertexConstants
  | .vertexInt => kMaxIntegerConstants
  | .pixelInt => kMaxIntegerConstants
  | .vertexBool => kMaxBoolConstants
  | .pixelBool => kMaxBoolConstants
  | .pixelFloat => kMaxPixelConstants

/-- The bytes of one constant. -/
def constantSize : ConstantKind → Nat
  | .vertexFloat => 16
  | .vertexInt => 16
  | .pixelFloat => 16
  | .pixelInt => 16
  | .vertexBool => 1
  | .pixelBool => 1

structure DeviceState (T : StateTypes) where
  viewport : T.Viewport
  scissorRect : T.Rect
  scissorEnabled : Bool
  renderStates : StateValueTable UInt32
  textureStageStates : Nat → StateValueTable UInt32
  samplerStates : Nat → StateValueTable UInt32
  transforms : StateValueTable T.Matrix
  lights : Nat → T.Light
  lightEnabled : Nat → Bool
  material : T.Material
  streamBuffers : Nat → Option T.Buffer
  streamOffsets : Nat → UInt32
  streamStrides : Nat → UInt32
  streamFrequencies : Nat → UInt32
  indexBuffer : Option T.Buffer
  indexType : T.IndexType
  vertexDecl : T.VertexDeclaration
  fvf : UInt32
  vertexShader : T.Shader
  pixelShader : T.Shader
  /-- The bytes of the constants, by their array. -/
  constants : (kind : ConstantKind) → Nat → Fin (constantSize kind) → UInt8
  textures : Nat → Option T.Texture
  renderTargets : Nat → T.Attachment
  depthStencil : T.Attachment
  clipPlanes : Nat → T.ClipPlane
  inScene : Bool

variable {T : StateTypes}

namespace DeviceState

def slot (state : DeviceState T) : (key : SlotKey) → key.Value T
  | .viewport => state.viewport
  | .scissor => (state.scissorRect, state.scissorEnabled)
  | .material => state.material
  | .light index => state.lights index
  | .lightEnabled index => state.lightEnabled index
  | .stream index =>
      (state.streamBuffers index, state.streamOffsets index,
        state.streamStrides index, state.streamFrequencies index)
  | .index => (state.indexBuffer, state.indexType)
  | .vertexDeclaration => state.vertexDecl
  | .fvf => state.fvf
  | .shader true => state.vertexShader
  | .shader false => state.pixelShader
  | .texture index => state.textures index
  | .renderTarget index => state.renderTargets index
  | .depthStencil => state.depthStencil
  | .clipPlane index => state.clipPlanes index
  | .inScene => state.inScene

def table (state : DeviceState T) :
    (name : TableName) → StateValueTable (name.Value T)
  | .renderStates => state.renderStates
  | .textureStageStates stage => state.textureStageStates stage
  | .samplerStates sampler => state.samplerStates sampler
  | .transforms => state.transforms

end DeviceState

/-- What the journal saves as one. -/
inductive Component where
  | slot (key : SlotKey)
  | tableValue (table : TableName) (key : Nat)
  | tableWord (table : TableName) (word : Nat)
  | tableTotals (table : TableName)
  | constant (kind : ConstantKind) (index : Nat)
deriving DecidableEq

def Component.Value (T : StateTypes) : Component → Type
  | .slot key => key.Value T
  | .tableValue table _ => table.Value T
  | .tableWord _ _ => UInt64 × UInt64
  | .tableTotals _ => UInt32 × UInt64
  | .constant kind _ => Fin (constantSize kind) → UInt8

/-- The value of a component. -/
def DeviceState.component (state : DeviceState T) :
    (component : Component) → component.Value T
  | .slot key => state.slot key
  | .tableValue table key => (state.table table).values key
  | .tableWord table word =>
      ((state.table table).occupied word, (state.table table).dirty word)
  | .tableTotals table =>
      ((state.table table).count, (state.table table).rollingHash)
  | .constant kind index => state.constants kind index

theorem StateValueTable.ext_parts {α : Type} {left right : StateValueTable α}
    (values : ∀ key, left.values key = right.values key)
    (words : ∀ word, (left.occupied word, left.dirty word) =
      (right.occupied word, right.dirty word))
    (totals : (left.count, left.rollingHash) =
      (right.count, right.rollingHash)) : left = right := by
  obtain ⟨leftValues, leftOccupied, leftDirty, leftCount, leftHash⟩ := left
  obtain ⟨rightValues, rightOccupied, rightDirty, rightCount, rightHash⟩ :=
    right
  obtain ⟨rfl, rfl⟩ := Prod.mk.inj totals
  obtain rfl := funext values
  obtain rfl := funext fun word => (Prod.mk.inj (words word)).1
  obtain rfl := funext fun word => (Prod.mk.inj (words word)).2
  rfl

theorem DeviceState.ext_components {left right : DeviceState T}
    (same : left.component = right.component) : left = right := by
  have slots : ∀ key, left.slot key = right.slot key :=
    fun key => congrFun same (.slot key)
  have tables : ∀ table, left.table table = right.table table :=
    fun table => StateValueTable.ext_parts
      (fun key => congrFun same (.tableValue table key))
      (fun word => congrFun same (.tableWord table word))
      (congrFun same (.tableTotals table))
  have constants : left.constants = right.constants := by
    funext kind index
    exact congrFun same (.constant kind index)
  have streams := fun index => slots (.stream index)
  unfold DeviceState.slot at streams
  dsimp only at streams
  have scissor := Prod.mk.inj (slots .scissor)
  have indices := Prod.mk.inj (slots .index)
  cases left
  cases right
  congr 1
  · exact slots .viewport
  · exact scissor.1
  · exact scissor.2
  · exact tables .renderStates
  · exact funext fun stage => tables (.textureStageStates stage)
  · exact funext fun sampler => tables (.samplerStates sampler)
  · exact tables .transforms
  · exact funext fun index => slots (.light index)
  · exact funext fun index => slots (.lightEnabled index)
  · exact slots .material
  · exact funext fun index => (Prod.mk.inj (streams index)).1
  · exact funext fun index =>
      (Prod.mk.inj (Prod.mk.inj (streams index)).2).1
  · exact funext fun index =>
      (Prod.mk.inj (Prod.mk.inj (Prod.mk.inj (streams index)).2).2).1
  · exact funext fun index =>
      (Prod.mk.inj (Prod.mk.inj (Prod.mk.inj (streams index)).2).2).2
  · exact indices.1
  · exact indices.2
  · exact slots .vertexDeclaration
  · exact slots .fvf
  · exact slots (.shader true)
  · exact slots (.shader false)
  · exact funext fun index => slots (.texture index)
  · exact funext fun index => slots (.renderTarget index)
  · exact slots .depthStencil
  · exact funext fun index => slots (.clipPlane index)
  · exact slots .inScene

end Dxmt9.ReplayRollback
