import Dxmt9.Transition.Run

/-!
# The wire object registry

Objects of the device are named on the wire by a kind, a generation and an
object id, which holds the registry and the slot.  Slots are recycled with the
next generation, and retire instead of wrapping.

An object pointer is its address; zero is the null pointer.  Retain callbacks
run while the registry is locked, and every call made from one is refused.
-/

namespace Dxmt9.Registry

structure WireObjectIdentity where
  kind : UInt32 := 0
  generation : UInt32 := 0
  objectId : UInt64 := 0
deriving DecidableEq

/-- A handle of a command chunk names an identity. -/
structure WireHandleEntry where
  kind : UInt32
  generation : UInt32
  objectId : UInt64
deriving DecidableEq

def wireHandleEntry (identity : WireObjectIdentity) : WireHandleEntry :=
  { kind := identity.kind
    generation := identity.generation
    objectId := identity.objectId }

def kindQuery : UInt32 := 5

structure Slot where
  object : UInt64 := 0
  kind : UInt32 := 0
  generation : UInt32 := 1
  retired : Bool := false
deriving DecidableEq

structure WireObjectRegistry where
  registryId : UInt32
  slots : List Slot := []
  freeSlots : List Nat := []
  activeCount : Nat := 0
deriving DecidableEq

def maxUInt32 : UInt32 := 0xFFFFFFFF

/-- The next generation, and whether the slot retires instead. -/
def advanceGeneration (generation : UInt32) : UInt32 × Bool :=
  if generation = 0 ∨ generation = maxUInt32 then (generation, true)
  else (generation + 1, false)

def wireObjectId (registryId : UInt32) (slotIndex : Nat) : UInt64 :=
  (registryId.toUInt64 <<< 32) ||| (UInt64.ofNat slotIndex + 1)

def identityMatches (slot : Slot) (kind generation : UInt32) : Bool :=
  !slot.retired && slot.object != 0 && slot.kind == kind &&
    slot.generation == generation && generation != 0

namespace WireObjectRegistry

/-- The slot that an object id names in this registry. -/
def findLocked (registry : WireObjectRegistry) (objectId : UInt64) :
    Option Nat :=
  if objectId = 0 then none
  else
    let registryId := (objectId >>> 32).toUInt32
    let slotId := (objectId &&& 0xFFFFFFFF).toUInt32
    if registryId ≠ registry.registryId || slotId == 0 ||
        registry.slots.length < slotId.toNat then none
    else some (slotId.toNat - 1)

/-- The slot for the next object: the last free one or a new one. -/
def takeSlot (registry : WireObjectRegistry) :
    Option (Nat × WireObjectRegistry) :=
  match registry.freeSlots.getLast? with
  | some slotIndex =>
      some (slotIndex,
        { registry with freeSlots := registry.freeSlots.dropLast })
  | none =>
      if maxUInt32.toNat ≤ registry.slots.length then none
      else
        some (registry.slots.length,
          { registry with slots := registry.slots ++ [{}] })

/-- A refused insertion returns the empty identity. -/
def insert (registry : WireObjectRegistry) (callbackActive : Bool)
    (kind : UInt32) (object : UInt64) :
    WireObjectIdentity × WireObjectRegistry :=
  if callbackActive then ({}, registry)
  else if object == 0 || kindQuery < kind then ({}, registry)
  else
    match registry.takeSlot with
    | none => ({}, registry)
    | some (slotIndex, taken) =>
        match taken.slots[slotIndex]? with
        | none => ({}, taken)
        | some slot =>
            if slot.retired || slot.object != 0 || slot.generation == 0 then
              ({}, taken)
            else
              ({ kind := kind
                 generation := slot.generation
                 objectId := wireObjectId registry.registryId slotIndex },
                { taken with
                  slots := taken.slots.set slotIndex
                    { slot with object := object, kind := kind }
                  activeCount := taken.activeCount + 1 })

/-- The slot after its object left. -/
def vacated (slot : Slot) : Slot :=
  { object := 0
    kind := 0
    generation := (advanceGeneration slot.generation).1
    retired := (advanceGeneration slot.generation).2 }

def erase (registry : WireObjectRegistry) (callbackActive : Bool)
    (identity : WireObjectIdentity) (object : UInt64) :
    Bool × WireObjectRegistry :=
  if callbackActive then (false, registry)
  else if object == 0 || identity.objectId == 0 ||
      identity.generation == 0 then (false, registry)
  else
    match registry.findLocked identity.objectId with
    | none => (false, registry)
    | some slotIndex =>
        match registry.slots[slotIndex]? with
        | none => (false, registry)
        | some slot =>
            if !identityMatches slot identity.kind identity.generation ||
                slot.object != object then (false, registry)
            else
              (true,
                { registry with
                  slots := registry.slots.set slotIndex (vacated slot)
                  activeCount := registry.activeCount - 1
                  freeSlots :=
                    if (vacated slot).retired then registry.freeSlots
                    else registry.freeSlots ++ [slotIndex] })

/-- The object that an identity names, when it is live. -/
def resolve (registry : WireObjectRegistry) (kind generation : UInt32)
    (objectId : UInt64) : Option UInt64 :=
  match registry.findLocked objectId with
  | none => none
  | some slotIndex =>
      match registry.slots[slotIndex]? with
      | none => none
      | some slot =>
          if identityMatches slot kind generation then some slot.object
          else none

/-- A null object asks for the identity alone. -/
def contains (registry : WireObjectRegistry) (callbackActive : Bool)
    (identity : WireObjectIdentity) (object : UInt64) : Bool :=
  if callbackActive then false
  else
    match registry.resolve identity.kind identity.generation
        identity.objectId with
    | none => false
    | some held => object == 0 || held == object

/-- One call of the retain callback: the kind and the object. -/
structure Retained where
  kind : UInt32
  object : UInt64
deriving DecidableEq

/-- The objects of the entries in order, when every entry resolves. -/
def resolveAll (registry : WireObjectRegistry) :
    List WireHandleEntry → Option (List Retained)
  | [] => some []
  | entry :: rest =>
      match registry.resolve entry.kind entry.generation entry.objectId with
      | none => none
      | some object =>
          (registry.resolveAll rest).map fun retained =>
            { kind := entry.kind, object := object } :: retained

/-- The whole list is validated before the first object is retained.  The
calls of `retain` are returned in order; the objects go to `objects`. -/
def resolveAndRetain (registry : WireObjectRegistry) (callbackActive : Bool)
    (entries : List WireHandleEntry) (objects : Nat) (retain : Bool) :
    Bool × List Retained :=
  if callbackActive then (false, [])
  else if objects ≠ entries.length || (!entries.isEmpty && !retain) then
    (false, [])
  else
    match registry.resolveAll entries with
    | none => (false, [])
    | some retained => (true, retained)

end WireObjectRegistry

/-- A registry, every identity it has returned, and those that were inserted
and not yet erased, with their objects. -/
structure History where
  registry : WireObjectRegistry
  issued : List WireObjectIdentity := []
  live : List (WireObjectIdentity × UInt64) := []

inductive Call where
  | insert (callbackActive : Bool) (kind : UInt32) (object : UInt64)
  | erase (callbackActive : Bool) (identity : WireObjectIdentity)
      (object : UInt64)

/-- A successful insertion is one that returns an identity. -/
def History.step (history : History) : Call → History
  | .insert callbackActive kind object =>
      let result := history.registry.insert callbackActive kind object
      if result.1 = {} then { history with registry := result.2 }
      else
        { registry := result.2
          issued := history.issued ++ [result.1]
          live := history.live ++ [(result.1, object)] }
  | .erase callbackActive identity object =>
      let result := history.registry.erase callbackActive identity object
      if result.1 then
        { history with
          registry := result.2
          live := history.live.filter fun entry => entry.1 != identity }
      else { history with registry := result.2 }

end Dxmt9.Registry
