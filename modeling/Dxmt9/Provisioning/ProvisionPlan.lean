import Dxmt9.CpuReady.PayloadLayout

/-!
# Provisioning an empty slot

How much an empty slot reserves beyond what its first source needs: a number
of draws that the byte budget pays for, and rows for the other commands in
proportion to their use.  All numbers are unbounded here.
-/

namespace Dxmt9.Provisioning

open Dxmt9.CpuReady

structure DirectSlotProvisionBudget where
  coordinatorScale : Nat := 16
  maxDraws : Nat := 2048
  maxBytes : Nat := 0
  coordinatorFloor : Nat := 4
  presentFloor : Nat := 1
  deriving DecidableEq

def DirectSlotProvisionBudget.enabled (budget : DirectSlotProvisionBudget) :
    Bool :=
  budget.coordinatorScale != 0 && budget.maxDraws != 0 &&
    budget.maxBytes != 0

def kCandidateMaxBytes : Nat := 48 * 1024 * 1024

def kDirectSlotCandidateBudget : DirectSlotProvisionBudget where
  maxBytes := kCandidateMaxBytes

def directSlotCeilDiv (numerator denominator : Nat) : Nat :=
  if denominator = 0 then 0
  else
    numerator / denominator +
      (if numerator % denominator ≠ 0 then 1 else 0)

def directSlotSaturatingMul (value factor : Nat) : Nat :=
  if value = 0 ∨ factor = 0 then 0
  else if kMaxSize / factor < value then kMaxSize
  else value * factor

/-! ## Coordinator rows -/

def directSlotProvisionCoordinator (value scale floorValue : Nat) : Nat :=
  let scaled := directSlotSaturatingMul value scale
  if scaled < floorValue then floorValue else scaled

structure DirectSlotProvisionCoordinatorPlan where
  clearRecords : Nat := 0
  clearRects : Nat := 0
  surfaceCopyRecords : Nat := 0
  stretchRectRecords : Nat := 0
  colorFillRecords : Nat := 0
  depthResolveRecords : Nat := 0
  generateMipmapsRecords : Nat := 0
  presentRecords : Nat := 0
  deriving DecidableEq

/-- The counts of its records, in the order in which they are added up. -/
def DirectSlotProvisionCoordinatorPlan.counts
    (plan : DirectSlotProvisionCoordinatorPlan) : List Nat :=
  [plan.clearRecords, plan.surfaceCopyRecords, plan.stretchRectRecords,
    plan.colorFillRecords, plan.depthResolveRecords,
    plan.generateMipmapsRecords, plan.presentRecords]

def DirectSlotProvisionCoordinatorPlan.records
    (plan : DirectSlotProvisionCoordinatorPlan) : Nat :=
  plan.counts.sum

def directSlotProvisionCoordinatorPlan (extra : SourcePayloadCapacity)
    (budget : DirectSlotProvisionBudget) :
    DirectSlotProvisionCoordinatorPlan :=
  let scale := if budget.enabled then budget.coordinatorScale else 1
  let recordFloor := if budget.enabled then budget.coordinatorFloor else 0
  let presentFloor := if budget.enabled then budget.presentFloor else 0
  { clearRecords := directSlotProvisionCoordinator (extra .clearRecords)
      scale recordFloor
    clearRects := directSlotProvisionCoordinator (extra .clearRects) scale 0
    surfaceCopyRecords := directSlotProvisionCoordinator
      (extra .surfaceCopyRecords) scale recordFloor
    stretchRectRecords := directSlotProvisionCoordinator
      (extra .stretchRectRecords) scale recordFloor
    colorFillRecords := directSlotProvisionCoordinator
      (extra .colorFillRecords) scale recordFloor
    depthResolveRecords := directSlotProvisionCoordinator
      (extra .depthResolveRecords) scale recordFloor
    generateMipmapsRecords := directSlotProvisionCoordinator
      (extra .generateMipmapsRecords) scale recordFloor
    presentRecords := directSlotProvisionCoordinator (extra .presentRecords)
      scale presentFloor }

/-- Each count of rows with the bytes that one of them takes. -/
def coordinatorPrices (sizes : PayloadSizes)
    (plan : DirectSlotProvisionCoordinatorPlan) : List (Nat × Nat) :=
  [(plan.clearRecords, sizes.element .clearRecords),
    (plan.surfaceCopyRecords, sizes.element .surfaceCopyRecords),
    (plan.stretchRectRecords, sizes.element .stretchRectRecords),
    (plan.colorFillRecords, sizes.element .colorFillRecords),
    (plan.depthResolveRecords, sizes.element .depthResolveRecords),
    (plan.generateMipmapsRecords, sizes.element .generateMipmapsRecords),
    (plan.presentRecords, sizes.element .presentRecords)]

/-- The bytes of some counts. -/
def bytesOf (prices : List (Nat × Nat)) : Nat :=
  (prices.map fun price => price.1 * price.2).sum

def directSlotProvisionCoordinatorBytes (sizes : PayloadSizes)
    (plan : DirectSlotProvisionCoordinatorPlan) : Nat :=
  bytesOf (coordinatorPrices sizes plan ++
    [(plan.records, sizes.element .commandHeaders)])

/-- The records that each draw has one of. -/
def perDrawRegions : List SourcePayloadRegion :=
  [.drawHotStates, .drawShaderLayouts, .drawDebugSnapshots, .drawPsoSubviews,
    .drawUniformFixedPayloads, .drawUniformVertexConstants,
    .drawUniformPixelConstants, .drawUniformPayloads, .drawParams,
    .drawRunRecords]

/-- The most that one draw takes, at four buckets of each lookup table. -/
def kDirectSlotWorstCaseBytesPerDraw (sizes : PayloadSizes) : Nat :=
  sizes.element .commandHeaders + sizes.element .drawHotStates +
    sizes.element .drawShaderLayouts + sizes.element .drawDebugSnapshots +
    sizes.element .drawPsoSubviews +
    sizes.element .drawUniformFixedPayloads +
    sizes.element .drawUniformVertexConstants +
    sizes.vertexShaderConstants + sizes.element .drawUniformPixelConstants +
    sizes.pixelShaderConstants + sizes.element .drawUniformPayloads +
    sizes.element .drawParams + sizes.element .drawRunRecords + 3 * 4 +
    3 * 2 * 4 * 4

def directSlotProvisionPayloadBytesPerDraw (extra : SourcePayloadCapacity) :
    Nat :=
  directSlotCeilDiv (extra .drawPayloadBytes) (extra .drawParams)

def directSlotProvisionDrawCeiling (sizes : PayloadSizes)
    (extra : SourcePayloadCapacity) (budget : DirectSlotProvisionBudget) :
    Nat :=
  if !budget.enabled then 0
  else
    let fixedBytes := directSlotProvisionCoordinatorBytes sizes
      (directSlotProvisionCoordinatorPlan extra budget)
    if budget.maxBytes ≤ fixedBytes then 0
    else
      let perDraw := kDirectSlotWorstCaseBytesPerDraw sizes +
        directSlotProvisionPayloadBytesPerDraw extra
      let byBytes := (budget.maxBytes - fixedBytes) / perDraw
      if byBytes < budget.maxDraws then byBytes else budget.maxDraws

def directSlotProvisionDrawBudget (sizes : PayloadSizes)
    (extra : SourcePayloadCapacity) (budget : DirectSlotProvisionBudget) :
    Nat :=
  let exact := extra .drawParams
  if !budget.enabled ∨ exact = 0 then exact
  else
    let ceiling := directSlotProvisionDrawCeiling sizes extra budget
    if ceiling ≤ exact then exact else ceiling

def directSlotSourceExceedsProvisionBudget (sizes : PayloadSizes)
    (extra : SourcePayloadCapacity) (budget : DirectSlotProvisionBudget) :
    Bool :=
  budget.enabled && extra .drawParams != 0 &&
    decide (directSlotProvisionDrawCeiling sizes extra budget ≤
      extra .drawParams)

/-- The draw payload of a plan: its own bytes where the source keeps its
draws, the priced rate otherwise. -/
def provisionedPayloadBytes (extra : SourcePayloadCapacity) (draws : Nat) :
    Nat :=
  let bytes :=
    if draws = extra .drawParams then extra .drawPayloadBytes
    else
      directSlotSaturatingMul (directSlotProvisionPayloadBytesPerDraw extra)
        draws
  if bytes < extra .drawPayloadBytes then extra .drawPayloadBytes else bytes

/-- The plan before its derived dimensions. -/
def plannedRows (extra : SourcePayloadCapacity) (draws headers payload : Nat)
    (coordinator : DirectSlotProvisionCoordinatorPlan) :
    SourcePayloadCapacity
  | .drawHotStates | .drawShaderLayouts | .drawDebugSnapshots
  | .drawPsoSubviews | .drawUniformFixedPayloads
  | .drawUniformVertexConstants | .drawUniformPixelConstants
  | .drawUniformPayloads | .drawParams | .drawRunRecords => draws
  | .drawPayloadBytes => payload
  | .clearRecords => coordinator.clearRecords
  | .clearRects => coordinator.clearRects
  | .surfaceCopyRecords => coordinator.surfaceCopyRecords
  | .stretchRectRecords => coordinator.stretchRectRecords
  | .colorFillRecords => coordinator.colorFillRecords
  | .depthResolveRecords => coordinator.depthResolveRecords
  | .generateMipmapsRecords => coordinator.generateMipmapsRecords
  | .presentRecords => coordinator.presentRecords
  | .commandHeaders =>
      if headers < extra .commandHeaders then extra .commandHeaders
      else headers
  | _ => 0

def directSlotProvisionPlan (sizes : PayloadSizes)
    (extra : SourcePayloadCapacity) (budget : DirectSlotProvisionBudget) :
    SourcePayloadCapacity :=
  let draws := directSlotProvisionDrawBudget sizes extra budget
  let coordinator := directSlotProvisionCoordinatorPlan extra budget
  applyDerivedDrawCapacity sizes
    (plannedRows extra draws (draws + coordinator.records)
      (provisionedPayloadBytes extra draws) coordinator) draws

/-- The regions that provisioning reserves. -/
def stagedRegions : List SourcePayloadRegion :=
  [.commandHeaders, .drawHotStates, .drawShaderLayouts, .drawDebugSnapshots,
    .drawPsoSubviews, .drawUniformFixedPayloads, .drawUniformVertexConstants,
    .drawUniformVertexConstantBytes, .drawUniformPixelConstants,
    .drawUniformPixelConstantBytes, .drawUniformPayloads,
    .drawUniformPayloadLookupHeads, .drawUniformPayloadLookupTails,
    .drawUniformPayloadLookupNext, .drawUniformVertexConstantsLookupHeads,
    .drawUniformVertexConstantsLookupTails,
    .drawUniformVertexConstantsLookupNext,
    .drawUniformPixelConstantsLookupHeads,
    .drawUniformPixelConstantsLookupTails,
    .drawUniformPixelConstantsLookupNext, .drawParams, .drawPayloadBytes,
    .drawRunRecords, .clearRecords, .surfaceCopyRecords, .stretchRectRecords,
    .colorFillRecords, .depthResolveRecords, .generateMipmapsRecords,
    .presentRecords]

/-- Each count of a plan with the bytes that one element takes. -/
def retainedPrices (sizes : PayloadSizes) (plan : SourcePayloadCapacity) :
    List (Nat × Nat) :=
  stagedRegions.map fun region =>
    (plan region, regionElementSize sizes region)

def directSlotProvisionRetainedBytes (sizes : PayloadSizes)
    (plan : SourcePayloadCapacity) : Nat :=
  bytesOf (retainedPrices sizes plan)

/-- The commands of a source other than its draws. -/
def coordinatorRecords (extra : SourcePayloadCapacity) : Nat :=
  [extra .clearRecords, extra .surfaceCopyRecords,
    extra .stretchRectRecords, extra .colorFillRecords,
    extra .depthResolveRecords, extra .generateMipmapsRecords,
    extra .presentRecords].sum

/-- The exact capacity that the producer plans for a source with draws. -/
structure ExactCapacity (sizes : PayloadSizes)
    (extra : SourcePayloadCapacity) : Prop where
  counted : ∀ region, extra region ≤ kMaxU32
  draws : ∀ region ∈ perDrawRegions, extra region = extra .drawParams
  some : 0 < extra .drawParams
  readbacks : extra .readbackRecords = 0
  headers : extra .commandHeaders =
    extra .drawParams + coordinatorRecords extra
  derived : extra = applyDerivedDrawCapacity sizes extra (extra .drawParams)

end Dxmt9.Provisioning
