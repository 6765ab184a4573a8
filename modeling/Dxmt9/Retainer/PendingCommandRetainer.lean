import Dxmt9.Table.OpenAddressing

/-!
# The retention index

The retainer finds an entry through an open-addressing table from a wire
handle to the position of its entry.  Deletions leave tombstones, and
`rebuildFrom` clears them.
-/

namespace Dxmt9.Retainer

open Dxmt9.Table

/-- A wire handle: its kind and the object it names. -/
structure Key where
  kind : UInt32
  ptr : UInt64
deriving DecidableEq

structure RetentionIndex where
  slots : List (Slot Key Nat) := []
  /-- Occupied only. -/
  occupied : Nat := 0
  /-- Occupied and tombstones: the load-factor input. -/
  used : Nat := 0
deriving DecidableEq

def hashOf (kind : UInt32) (ptr : UInt64) : UInt64 :=
  let product := ptr * 0x9E3779B97F4A7C15
  let mixed := product ^^^ (kind.toUInt64 + 0x517CC1B727220A95)
  mixed ^^^ (mixed >>> 33)

/-- The positions probed for a key, in order, in a table of this size. -/
def probePath (size : Nat) (key : Key) : List Nat :=
  linearPath size (hashOf key.kind key.ptr).toNat

/-- The doubling loop of both reservations; `target` rounds always suffice. -/
def doubleUntil (target : Nat) : Nat → Nat → Nat
  | 0, capacity => capacity
  | rounds + 1, capacity =>
      if capacity < target then doubleUntil target rounds (capacity * 2)
      else capacity

namespace RetentionIndex

/-- A table of empty slots. -/
def blank (size : Nat) : RetentionIndex :=
  { slots := List.replicate size .empty }

def reserveForEntries (entryCapacity : Nat) : RetentionIndex :=
  let target := max (entryCapacity * 2) 64
  blank (doubleUntil target target 64)

/-- The source probes until it meets a slot that is not occupied.  The load
factor leaves one, so the last branch, a loop without end, is never taken. -/
def insertRaw (index : RetentionIndex) (key : Key) (position : Nat) :
    RetentionIndex :=
  match freePosition index.slots (probePath index.slots.length key) with
  | some free =>
      { slots := index.slots.set free (.occupied key position)
        occupied := index.occupied + 1
        used :=
          match index.slots[free]? with
          | some .empty => index.used + 1
          | _ => index.used }
  | none => index

/-- An empty table has no positions to probe. -/
def find (index : RetentionIndex) (key : Key) : Option Nat :=
  Table.find index.slots key (probePath index.slots.length key)

def erase (index : RetentionIndex) (key : Key) : RetentionIndex :=
  match locate index.slots key (probePath index.slots.length key) with
  | some position =>
      { index with
        slots := index.slots.set position .tombstone
        occupied := index.occupied - 1 }
  | none => index

/-- Store consecutive positions for the keys. -/
def insertAll (index : RetentionIndex) (position : Nat) :
    List Key → RetentionIndex
  | [] => index
  | key :: rest => (index.insertRaw key position).insertAll (position + 1) rest

/-- Start over from the authoritative entries.  The table never shrinks. -/
def rebuildFrom (index : RetentionIndex) (keys : List Key) :
    RetentionIndex :=
  let capacity := if index.slots = [] then 64 else index.slots.length
  let target := max (keys.length * 2) 64
  (blank (doubleUntil target target capacity)).insertAll 0 keys

/-- Every slot becomes empty; the reserved size stays. -/
def clear (index : RetentionIndex) : RetentionIndex :=
  blank index.slots.length

/-! ## Exactness -/

/-- The index maps exactly these keys to their positions, and its counts are
those of its slots. -/
structure Exact (index : RetentionIndex) (keys : List Key) : Prop where
  size : index.slots = [] ∨ ∃ bits, index.slots.length = 2 ^ bits
  sound : Sound (probePath index.slots.length) index.slots
  indexes : Indexes index.slots keys
  counted : index.occupied = keys.length
  occupied : index.occupied = index.slots.countP Slot.isOccupied
  used : index.used = index.slots.countP Slot.isUsed

variable {index : RetentionIndex} {keys : List Key} {key : Key}

theorem Exact.find_eq_some_iff
    (exact : index.Exact keys) {position : Nat} :
    index.find key = some position ↔ keys[position]? = some key := by
  unfold find
  rw [exact.sound.find_eq_some_iff, exact.indexes]

theorem Exact.find_eq_none_iff
    (exact : index.Exact keys) :
    index.find key = none ↔ key ∉ keys := by
  rw [Option.eq_none_iff_forall_ne_some, List.mem_iff_getElem?]
  constructor
  · rintro absent ⟨position, listed⟩
    exact absent position (exact.find_eq_some_iff.mpr listed)
  · intro unlisted position found
    exact unlisted ⟨position, exact.find_eq_some_iff.mp found⟩

theorem blank_exact {size : Nat}
    (isPower : size = 0 ∨ ∃ bits, size = 2 ^ bits) :
    (blank size).Exact [] where
  size := by
    rcases isPower with rfl | ⟨bits, rfl⟩
    · exact Or.inl rfl
    · exact Or.inr ⟨bits, List.length_replicate⟩
  sound := Sound.vacant fun _ member => List.eq_of_mem_replicate member
  indexes := Indexes.vacant fun _ member => List.eq_of_mem_replicate member
  counted := rfl
  occupied := by simp [blank, List.countP_replicate, Slot.isOccupied]
  used := by simp [blank, List.countP_replicate, Slot.isUsed]

theorem Exact.clear
    (exact : index.Exact keys) : index.clear.Exact [] := by
  apply blank_exact
  rcases exact.size with none | power
  · exact Or.inl (by rw [none]; rfl)
  · exact Or.inr power

@[simp] theorem insertRaw_length (index : RetentionIndex) (key : Key)
    (position : Nat) :
    (index.insertRaw key position).slots.length = index.slots.length := by
  unfold insertRaw
  split
  · exact List.length_set
  · rfl

/-- A table with room takes a new key. -/
theorem Exact.insertRaw
    (exact : index.Exact keys) (fresh : key ∉ keys)
    (room : index.occupied < index.slots.length) :
    (index.insertRaw key keys.length).Exact (keys ++ [key]) := by
  obtain ⟨bits, power⟩ : ∃ bits, index.slots.length = 2 ^ bits := by
    rcases exact.size with empty | power
    · rw [empty] at room
      contradiction
    · exact power
  obtain ⟨vacancy, slot, present, free⟩ :=
    exists_not_occupied (exact.occupied ▸ room)
  have inside : ∀ {position : Nat},
      position ∈ probePath index.slots.length key ↔
        position < index.slots.length := by
    intro position
    rw [power]
    exact mem_linearPath
  obtain ⟨position, found⟩ := exists_freePosition
    (fun _ member => inside.mp member)
    (inside.mpr (List.getElem?_eq_some_iff.mp present).1) present free
  obtain ⟨_, _, old, _, stored, notOccupied, _⟩ := freePosition_spec found
  have countOccupied := countP_set_add (Slot.occupied key keys.length)
    Slot.isOccupied stored
  have countUsed := countP_set_add (Slot.occupied key keys.length)
    Slot.isUsed stored
  have absent := exact.indexes.absent fresh
  unfold RetentionIndex.insertRaw
  rw [found]
  constructor
  · exact Or.inr ⟨bits, by rw [List.length_set, power]⟩
  · rw [List.length_set]
    exact exact.sound.insert absent found
  · exact exact.indexes.insert stored notOccupied
  · simp [exact.counted]
  · rw [notOccupied] at countOccupied
    rw [exact.occupied]
    exact countOccupied.symm
  · simp only [stored, exact.used]
    cases old with
    | empty => exact countUsed.symm
    | tombstone => exact (Nat.add_right_cancel countUsed).symm
    | occupied _ _ => contradiction

/-- Erasing the last key of the list leaves the others indexed. -/
theorem Exact.erase
    (exact : index.Exact (keys ++ [key])) (fresh : key ∉ keys) :
    (index.erase key).Exact keys := by
  have listed : (keys ++ [key])[keys.length]? = some key := by simp
  obtain ⟨position, stored⟩ := (exact.indexes key keys.length).mpr listed
  have located : locate index.slots key
      (probePath index.slots.length key) = some position :=
    exact.sound.locate_eq_some_iff.mpr ⟨_, stored⟩
  have countOccupied := countP_set_add .tombstone Slot.isOccupied stored
  have countUsed := countP_set_add .tombstone Slot.isUsed stored
  unfold RetentionIndex.erase
  rw [located]
  constructor
  · rcases exact.size with empty | power
    · rw [empty] at stored
      contradiction
    · exact Or.inr (by rw [List.length_set]; exact power)
  · rw [List.length_set]
    exact exact.sound.erase stored
  · exact exact.indexes.erase exact.sound fresh stored
  · simp [exact.counted]
  · rw [exact.occupied]
    exact Nat.sub_eq_of_eq_add countOccupied.symm
  · rw [exact.used]
    exact (Nat.add_right_cancel countUsed).symm

theorem Exact.insertAll {rest : List Key}
    (exact : index.Exact keys) (unique : (keys ++ rest).Nodup)
    (room : keys.length + rest.length < index.slots.length) :
    (index.insertAll keys.length rest).Exact (keys ++ rest) := by
  induction rest generalizing index keys with
  | nil =>
      rw [List.append_nil]
      exact exact
  | cons key rest induction =>
      have fresh : key ∉ keys := by
        intro listed
        exact List.disjoint_of_nodup_append unique listed List.mem_cons_self
      rw [List.length_cons] at room
      have stored := exact.insertRaw fresh (by rw [exact.counted]; omega)
      have later := induction stored (by rw [← List.append_cons]; exact unique)
        (by rw [insertRaw_length, List.length_append]; simpa [Nat.add_assoc,
          Nat.add_comm 1] using room)
      rw [← List.append_cons, List.length_append] at later
      exact later

theorem doubleUntil_pow (target rounds bits : Nat) :
    ∃ more, doubleUntil target rounds (2 ^ bits) = 2 ^ more := by
  induction rounds generalizing bits with
  | zero => exact ⟨bits, rfl⟩
  | succ rounds induction =>
      unfold doubleUntil
      split
      · rw [← Nat.pow_succ]
        exact induction (bits + 1)
      · exact ⟨bits, rfl⟩

theorem le_doubleUntil {target rounds capacity : Nat}
    (positive : 0 < capacity) (enough : target ≤ capacity + rounds) :
    target ≤ doubleUntil target rounds capacity := by
  induction rounds generalizing capacity with
  | zero => exact enough
  | succ rounds induction =>
      unfold doubleUntil
      split
      · apply induction
        · omega
        · omega
      · omega

theorem reserveForEntries_exact (entryCapacity : Nat) :
    (reserveForEntries entryCapacity).Exact [] := by
  apply blank_exact
  exact Or.inr (doubleUntil_pow _ _ 6)

theorem Exact.rebuildFrom {old : List Key}
    (exact : index.Exact old) (unique : keys.Nodup) :
    (index.rebuildFrom keys).Exact keys := by
  obtain ⟨bits, power⟩ : ∃ bits,
      (if index.slots = [] then 64 else index.slots.length) = 2 ^ bits := by
    split
    · exact ⟨6, rfl⟩
    · rename_i nonempty
      exact exact.size.resolve_left nonempty
  obtain ⟨more, grown⟩ := doubleUntil_pow (max (keys.length * 2) 64)
    (max (keys.length * 2) 64) bits
  have reached : max (keys.length * 2) 64 ≤ 2 ^ more := by
    rw [← grown]
    apply le_doubleUntil (Nat.two_pow_pos bits)
    omega
  have room : ([] : List Key).length + keys.length <
      (blank (2 ^ more)).slots.length := by
    simp only [blank, List.length_nil, List.length_replicate]
    omega
  have result := (blank_exact (Or.inr ⟨more, rfl⟩)).insertAll
    (show ([] ++ keys).Nodup from unique) room
  unfold RetentionIndex.rebuildFrom
  simp only [power, grown]
  exact result

end RetentionIndex

end Dxmt9.Retainer

/-!
## The pending command retainer

The producer pins every object that an unfinished command chunk names.  An
entry is one pin.  It carries the epoch that last named it and is dropped when
a later epoch closes that finds it idle for too long.

The crossings record every AddRef and Release in call order; nothing in the
source reads them.
-/

namespace Dxmt9.Retainer

def kindTexture : UInt32 := 0
def kindSurface : UInt32 := 1
def kindBuffer : UInt32 := 2
def kindShader : UInt32 := 3
def kindVertexDecl : UInt32 := 4
def kindQuery : UInt32 := 5

def isRetainable (kind : UInt32) : Bool :=
  [kindTexture, kindSurface, kindBuffer, kindShader, kindVertexDecl,
    kindQuery].contains kind

/-- An entry survives this many fully idle epochs. -/
def kWarmEpochs : UInt64 := 1

structure Entry where
  kind : UInt32
  ptr : UInt64
  lastTouchedEpoch : UInt64
deriving DecidableEq

def Entry.key (entry : Entry) : Key :=
  { kind := entry.kind, ptr := entry.ptr }

/-- A reference count call on an object. -/
inductive Crossing where
  | addRef (key : Key)
  | release (key : Key)
deriving DecidableEq

/-- How much a vector reserves when asked for a capacity, and when an append
finds it full. -/
structure Arena where
  reserve : Nat → Nat
  grow : Nat → Nat

structure PendingCommandRetainer where
  entries : List Entry := []
  /-- `entries_.capacity()`. -/
  reserved : Nat := 0
  index : RetentionIndex := {}
  epoch : UInt64 := 0
  currentTouchedCount : Nat := 0
  previousTouchedCount : Nat := 0
  ready : Bool := false
  crossings : List Crossing := []
deriving DecidableEq

namespace PendingCommandRetainer

/-- The constructor; without the allocation the retainer stays unavailable. -/
def construct (arena : Arena) (capacity : Nat) (epoch : UInt64)
    (allocated : Bool) : PendingCommandRetainer :=
  if allocated then
    { reserved := arena.reserve capacity
      index := .reserveForEntries capacity
      epoch := epoch
      ready := true }
  else { epoch := epoch }

def keys (retainer : PendingCommandRetainer) : List Key :=
  retainer.entries.map Entry.key

def beginAcquire (retainer : PendingCommandRetainer) : Nat :=
  retainer.entries.length

def touch (retainer : PendingCommandRetainer) (position : Nat) :
    PendingCommandRetainer :=
  match retainer.entries[position]? with
  | none => retainer
  | some entry =>
      if entry.lastTouchedEpoch = retainer.epoch then retainer
      else
        { retainer with
          entries := retainer.entries.set position
            { entry with lastTouchedEpoch := retainer.epoch }
          previousTouchedCount :=
            if retainer.epoch - entry.lastTouchedEpoch = 1 then
              retainer.previousTouchedCount - 1
            else retainer.previousTouchedCount
          currentTouchedCount := retainer.currentTouchedCount + 1 }

/-- The index after an entry was appended: a full table is rebuilt. -/
def indexAppended (retainer : PendingCommandRetainer) (key : Key) :
    RetentionIndex :=
  if retainer.index.slots = [] ∨
      retainer.index.slots.length * 3 ≤ retainer.index.used * 4 then
    retainer.index.rebuildFrom (retainer.keys ++ [key])
  else retainer.index.insertRaw key retainer.entries.length

/-- A new pin is published before its AddRef. -/
def acquire (arena : Arena) (retainer : PendingCommandRetainer) (key : Key) :
    PendingCommandRetainer :=
  { retainer with
    entries := retainer.entries ++
      [{ kind := key.kind
         ptr := key.ptr
         lastTouchedEpoch := retainer.epoch }]
    reserved :=
      if retainer.entries.length < retainer.reserved then retainer.reserved
      else arena.grow retainer.reserved
    index := retainer.indexAppended key
    currentTouchedCount := retainer.currentTouchedCount + 1
    crossings := retainer.crossings ++ [.addRef key] }

/-- `faulted` says that an injected fault takes this acquisition. -/
def retainImpl (arena : Arena) (retainer : PendingCommandRetainer)
    (key : Key) (bounded : Bool) (capacity : Nat) (faulted : Bool) :
    Bool × PendingCommandRetainer :=
  if !retainer.ready then (false, retainer)
  else if key.ptr = 0 then (true, retainer)
  else
    match retainer.index.find key with
    | some position => (true, retainer.touch position)
    | none =>
        if bounded && (retainer.reserved < capacity ||
            capacity ≤ retainer.entries.length) then
          (false, retainer)
        else if faulted then (false, retainer)
        else (true, retainer.acquire arena key)

/-- A kind that is not a wire handle is accepted and pins nothing. -/
def retainWireObject (arena : Arena) (retainer : PendingCommandRetainer)
    (kind : UInt32) (object : UInt64) (faulted : Bool) :
    Bool × PendingCommandRetainer :=
  if isRetainable kind then
    retainer.retainImpl arena { kind := kind, ptr := object } false 0 faulted
  else (true, retainer)

def retainWireObjectBounded (arena : Arena)
    (retainer : PendingCommandRetainer) (kind : UInt32) (object : UInt64)
    (capacity : Nat) (faulted : Bool) : Bool × PendingCommandRetainer :=
  if isRetainable kind then
    retainer.retainImpl arena { kind := kind, ptr := object } true capacity
      faulted
  else (true, retainer)

def release (entry : Entry) : List Crossing :=
  if isRetainable entry.kind then [.release entry.key] else []

/-- One round of the rollback loop. -/
def popBack (retainer : PendingCommandRetainer) : PendingCommandRetainer :=
  match retainer.entries.getLast? with
  | none => retainer
  | some entry =>
      { retainer with
        entries := retainer.entries.dropLast
        index := retainer.index.erase entry.key
        currentTouchedCount := retainer.currentTouchedCount - 1
        crossings := retainer.crossings ++ release entry }

def popDownTo (checkpoint : Nat) :
    Nat → PendingCommandRetainer → PendingCommandRetainer
  | 0, retainer => retainer
  | rounds + 1, retainer =>
      if checkpoint < retainer.entries.length then
        popDownTo checkpoint rounds retainer.popBack
      else retainer

def rollback (retainer : PendingCommandRetainer) (checkpoint : Nat) :
    PendingCommandRetainer :=
  popDownTo checkpoint retainer.entries.length retainer

def clear (retainer : PendingCommandRetainer) : PendingCommandRetainer :=
  { retainer with
    entries := []
    index := retainer.index.clear
    currentTouchedCount := 0
    previousTouchedCount := 0
    crossings := retainer.crossings ++
      retainer.entries.reverse.flatMap release }

/-- What the scan has seen so far. -/
structure Scan where
  kept : List Entry := []
  crossings : List Crossing := []
  expired : Bool := false
  survivingCurrent : Nat := 0
deriving DecidableEq

def scanEntry (epoch : UInt64) (scan : Scan) (entry : Entry) : Scan :=
  if epoch - entry.lastTouchedEpoch ≤ kWarmEpochs then
    { scan with
      kept := scan.kept ++ [entry]
      survivingCurrent :=
        if entry.lastTouchedEpoch = epoch then scan.survivingCurrent + 1
        else scan.survivingCurrent }
  else
    { scan with
      crossings := scan.crossings ++ release entry
      expired := true }

/-- The full scan: idle entries are released, the others move together. -/
def endEpochScan (retainer : PendingCommandRetainer) :
    PendingCommandRetainer :=
  let scan := retainer.entries.foldl (scanEntry retainer.epoch) {}
  { retainer with
    entries := scan.kept
    previousTouchedCount := scan.survivingCurrent
    currentTouchedCount := 0
    index :=
      if scan.expired || retainer.index.used != retainer.index.occupied then
        retainer.index.rebuildFrom (scan.kept.map Entry.key)
      else retainer.index
    epoch := retainer.epoch + 1
    crossings := retainer.crossings ++ scan.crossings }

/-- The counters prove that nothing expires. -/
def endEpochUnexpired (retainer : PendingCommandRetainer) :
    PendingCommandRetainer :=
  { retainer with
    previousTouchedCount := retainer.currentTouchedCount
    currentTouchedCount := 0
    index :=
      if retainer.index.used != retainer.index.occupied then
        retainer.index.rebuildFrom retainer.keys
      else retainer.index
    epoch := retainer.epoch + 1 }

def endEpoch (retainer : PendingCommandRetainer) : PendingCommandRetainer :=
  if retainer.currentTouchedCount + retainer.previousTouchedCount =
      retainer.entries.length then
    retainer.endEpochUnexpired
  else retainer.endEpochScan

end PendingCommandRetainer

/-- A retainer and the checkpoints taken since its epoch began. -/
structure Session where
  retainer : PendingCommandRetainer
  outstanding : List Nat := []
deriving DecidableEq

inductive Call where
  | retain (kind : UInt32) (object : UInt64) (faulted : Bool)
  | retainBounded (kind : UInt32) (object : UInt64) (capacity : Nat)
      (faulted : Bool)
  | beginAcquire
  | rollback (checkpoint : Nat)
  | endEpoch
  | clear
deriving DecidableEq

namespace Session

def construct (arena : Arena) (capacity : Nat) (epoch : UInt64)
    (allocated : Bool) : Session :=
  { retainer := .construct arena capacity epoch allocated }

/-- A rollback must not cross the end of an epoch, so its checkpoint is one of
the outstanding ones. -/
def step (arena : Arena) (session : Session) : Call → Option Session
  | .retain kind object faulted =>
      some { session with
        retainer := (session.retainer.retainWireObject arena kind object
          faulted).2 }
  | .retainBounded kind object capacity faulted =>
      some { session with
        retainer := (session.retainer.retainWireObjectBounded arena kind
          object capacity faulted).2 }
  | .beginAcquire =>
      some { session with
        outstanding := session.retainer.beginAcquire :: session.outstanding }
  | .rollback checkpoint =>
      if checkpoint ∈ session.outstanding then
        some { session with
          retainer := session.retainer.rollback checkpoint }
      else none
  | .endEpoch =>
      some { retainer := session.retainer.endEpoch, outstanding := [] }
  | .clear =>
      some { session with retainer := session.retainer.clear }

def run (arena : Arena) (session : Session) : List Call → Option Session
  | [] => some session
  | call :: rest =>
      (session.step arena call).bind fun next => next.run arena rest

end Session

end Dxmt9.Retainer
