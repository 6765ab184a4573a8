import Mathlib.Algebra.Ring.Nat
import Mathlib.Data.List.Basic

/-!
# Frame-graph records

Data model of `framegraph/fg_dag.hpp`.  A frame graph is flat build scratch:
passes own contiguous ranges of `draws` and `commands`, resources own a
chronological access log, and edges name passes by their position.

Handles are opaque identifiers with zero as the null handle.  Counts and
indices are natural numbers.
-/

namespace Dxmt9.Framegraph

/-- An opaque backend resource identifier; `0` is the null handle. -/
abbrev Handle := Nat

/-- Command kinds of one recorded source payload. -/
inductive MetalCommandKind where
  | drawRun
  | clear
  | surfaceCopy
  | stretchRect
  | readback
  | colorFill
  | depthResolve
  | generateMipmaps
  | present
deriving DecidableEq, Inhabited

inductive PassKind where
  | render
  | compute
  | blit
  | present
  | sync
deriving DecidableEq, Inhabited

/-- The attachment identity on which render passes are split. -/
structure AttachmentSet where
  color : Vector Handle 8 := Vector.replicate 8 0
  depth : Handle := 0
  colorCount : Nat := 0
  sampleCount : Nat := 1
deriving DecidableEq

instance : Inhabited AttachmentSet := ⟨{}⟩

/-- Indices into `FrameGraph.draws`. -/
structure DrawRange where
  first : Nat := 0
  count : Nat := 0
deriving DecidableEq, Inhabited

/-- Indices into `FrameGraph.commands`. -/
structure CommandRange where
  first : Nat := 0
  count : Nat := 0
deriving DecidableEq, Inhabited

structure DrawRef where
  commandIndex : Nat := 0
  paramFirst : Nat := 0
  paramCount : Nat := 0
deriving DecidableEq, Inhabited

/-- A source command carried through reordering and coalescing. -/
structure CommandRef where
  commandIndex : Nat := 0
  kind : MetalCommandKind := .drawRun
deriving DecidableEq, Inhabited

inductive LoadAction where
  | dontCare
  | load
  | clear
deriving DecidableEq, Inhabited

inductive StoreAction where
  | dontCare
  | store
deriving DecidableEq, Inhabited

structure LoadStorePolicy where
  colorLoad : Vector LoadAction 8 := Vector.replicate 8 .dontCare
  colorStore : Vector StoreAction 8 := Vector.replicate 8 .dontCare
  depthLoad : LoadAction := .dontCare
  depthStore : StoreAction := .dontCare
deriving DecidableEq

instance : Inhabited LoadStorePolicy := ⟨{}⟩

structure PassFlags where
  containsLock : Bool := false
  containsOcclusionQuery : Bool := false
  containsEventQuery : Bool := false
  /-- Set by dead-pass elimination; dropped from the linear order. -/
  dead : Bool := false
  debugMarker : Bool := false
  /-- Non-emitting predecessor standing for an already open render pass. -/
  activeRenderSeed : Bool := false
deriving DecidableEq, Inhabited

structure PassNode where
  kind : PassKind := .render
  targets : AttachmentSet := {}
  draws : DrawRange := {}
  commands : CommandRange := {}
  stateProfile : Nat := 0
  loadStore : LoadStorePolicy := {}
  flags : PassFlags := {}
deriving DecidableEq

instance : Inhabited PassNode := ⟨{}⟩

inductive ResidencyClass where
  | persistent
  | memorylessCandidate
  | memoryless
deriving DecidableEq, Inhabited

inductive AccessKind where
  | read
  | write
  | readWrite
  | preserve
  | clear
deriving DecidableEq, Inhabited

inductive AccessStage where
  | vertex
  | fragment
  | compute
  | copy
deriving DecidableEq, Inhabited

/-- `ReadWrite` is both a read and a write. -/
def accessReads : AccessKind → Bool
  | .read | .readWrite => true
  | _ => false

/-- `Clear` counts as a write. -/
def accessWrites : AccessKind → Bool
  | .write | .clear | .readWrite => true
  | _ => false

structure AccessLog where
  passIndex : Nat := 0
  accessKind : AccessKind := .read
  stage : AccessStage := .fragment
deriving DecidableEq, Inhabited

/-- This access writes the resource. -/
def AccessLog.writes (access : AccessLog) : Bool :=
  accessWrites access.accessKind

/-- This access reads the resource. -/
def AccessLog.reads (access : AccessLog) : Bool :=
  accessReads access.accessKind

structure ResourceClassifierFlags where
  lockSeen : Bool := false
  readbackSeen : Bool := false
  crossFrameSeen : Bool := false
deriving DecidableEq, Inhabited

structure ResourceNode where
  handle : Handle := 0
  /-- Chronological. -/
  accesses : List AccessLog := []
  firstUsePass : Nat := 0
  lastUsePass : Nat := 0
  residency : ResidencyClass := .persistent
  classifierFlags : ResourceClassifierFlags := {}
deriving DecidableEq, Inhabited

/-- Producer to consumer dependency. -/
structure Edge where
  srcPass : Nat := 0
  dstPass : Nat := 0
  resource : Handle := 0
deriving DecidableEq, Inhabited

structure FrameGraph where
  passes : List PassNode := []
  resources : List ResourceNode := []
  edges : List Edge := []
  draws : List DrawRef := []
  commands : List CommandRef := []
  frameId : Nat := 0
  flushBoundary : Bool := false
deriving DecidableEq

instance : Inhabited FrameGraph := ⟨{}⟩

/-- Index of the resource named `handle`, or the resource count if absent. -/
def findResourceIndex (graph : FrameGraph) (handle : Handle) : Nat :=
  graph.resources.findIdx fun node => node.handle == handle

/-- Append one access to the chronological log. -/
def recordAccess (node : ResourceNode) (passIndex : Nat)
    (kind : AccessKind) (stage : AccessStage) : ResourceNode :=
  { node with
    accesses := node.accesses ++
      [{ passIndex := passIndex, accessKind := kind, stage := stage }] }

/-- Is the edge already present? -/
def hasEdge (edges : List Edge) (src dst : Nat) (handle : Handle) : Bool :=
  edges.any fun edge =>
    edge.srcPass == src && edge.dstPass == dst && edge.resource == handle

/-- Some edge of the list leads from `src` to `dst`. -/
def Connects (edges : List Edge) (src dst : Nat) : Prop :=
  ∃ edge ∈ edges, edge.srcPass = src ∧ edge.dstPass = dst

variable {edges : List Edge} {src dst : Nat}

theorem connects_of_hasEdge
    {handle : Handle} (present : hasEdge edges src dst handle = true) :
    Connects edges src dst := by
  obtain ⟨edge, member, same⟩ := List.any_eq_true.mp present
  simp only [Bool.and_eq_true, beq_iff_eq] at same
  exact ⟨edge, member, same.1.1, same.1.2⟩

theorem connects_append_singleton {edge : Edge} :
    Connects (edges ++ [edge]) src dst ↔
      Connects edges src dst ∨
        (edge.srcPass = src ∧ edge.dstPass = dst) := by
  simp [Connects, or_and_right, exists_or]

theorem slice_append {α : Type*} {items more : List α} {first count : Nat}
    (bound : first + count ≤ items.length) :
    ((items ++ more).drop first).take count =
      (items.drop first).take count := by
  rw [List.drop_append_of_le_length (by omega),
    List.take_append_of_le_length (by rw [List.length_drop]; omega)]

namespace FrameGraph

/-- The pass at position `index`. -/
def pass (graph : FrameGraph) (index : Nat) : PassNode :=
  graph.passes.getD index default

/-- The command references owned by a pass. -/
def commandsOf (graph : FrameGraph) (pass : PassNode) : List CommandRef :=
  (graph.commands.drop pass.commands.first).take pass.commands.count

/-- The draw references owned by a pass. -/
def drawsOf (graph : FrameGraph) (pass : PassNode) : List DrawRef :=
  (graph.draws.drop pass.draws.first).take pass.draws.count

/-- Source command indices of the pass at position `index`. -/
def passCommands (graph : FrameGraph) (index : Nat) : List Nat :=
  (graph.commandsOf (graph.pass index)).map CommandRef.commandIndex

/-- One dependency edge leads from pass `src` to pass `dst`. -/
def DependsStep (graph : FrameGraph) : Nat → Nat → Prop :=
  Connects graph.edges

end FrameGraph

end Dxmt9.Framegraph
