import Dxmt9.SemanticBatch.BatchReader
import Dxmt9.SemanticBatch.PlanExact

/-!
# The parts of an emitted chunk

A chunk has one header, and a record header, a payload and handle entries for
its inputs.  No two of these parts meet, so each of them is in the destination
after the emission.
-/

namespace Dxmt9.SemanticBatch

open Dxmt9.ChunkBuilder
open Dxmt9.Memory
open Dxmt9.Order

def inputAt (inputs : List BatchRecordInput) (index : Nat) :
    BatchRecordInput :=
  inputs.getD index {}

def placeAt (inputs : List BatchRecordInput) (index : Nat) : Nat :=
  payloadStart (inputs.take index) (inputAt inputs index)

def sizeAt (inputs : List BatchRecordInput) (index : Nat) : Nat :=
  (inputAt inputs index).exactPayload.length

section

variable {inputs : List BatchRecordInput} {index : Nat}

theorem inputAt_eq (inside : index < inputs.length) :
    inputAt inputs index = inputs[index] :=
  List.getD_eq_getElem _ _ inside

theorem inputAt_split (inside : index < inputs.length) :
    inputs = inputs.take index ++
      inputAt inputs index :: inputs.drop (index + 1) := by
  rw [inputAt_eq inside]
  exact split_at inside

theorem getD_mapPrefix {β : Type}
    (image : List BatchRecordInput → BatchRecordInput → β) (default : β)
    (inside : index < inputs.length) :
    (mapPrefix image [] inputs).getD index default =
      image (inputs.take index) (inputAt inputs index) := by
  rw [List.getD_eq_getElem?_getD, getElem?_mapPrefix inside, inputAt_eq inside]
  rfl

theorem stopAt_le_end (inside : index < inputs.length) :
    placeAt inputs index + sizeAt inputs index ≤ canonicalEnd inputs := by
  have stop := payloadStop_le (inputs.take index) (inputAt inputs index)
    (inputs.drop (index + 1))
  rw [← inputAt_split inside] at stop
  exact stop

theorem stopAt_le_placeAt {later : Nat} (before : index < later)
    (inside : later < inputs.length) :
    placeAt inputs index + sizeAt inputs index ≤ placeAt inputs later := by
  have within : index < (inputs.take later).length := by
    rw [List.length_take]
    omega
  have stop := stopAt_le_end within
  have same : inputAt (inputs.take later) index = inputAt inputs index := by
    rw [inputAt_eq within, inputAt_eq (Nat.lt_trans before inside),
      List.getElem_take]
  have front : (inputs.take later).take index = inputs.take index := by
    rw [List.take_take, Nat.min_eq_left (Nat.le_of_lt before)]
  have start := canonicalEnd_le_payloadStart (inputs.take later)
    (inputAt inputs later)
  unfold placeAt sizeAt at stop ⊢
  rw [same, front] at stop
  exact Nat.le_trans stop start

end

/-! ## Parts -/

inductive Part where
  | header
  | record (index : Nat)
  | payload (index : Nat)
  | handle (index : Nat)
deriving DecidableEq

namespace Part

/-- The parts that a chunk of these inputs has. -/
def Live (inputs : List BatchRecordInput) : Part → Prop
  | header => True
  | record index => index < inputs.length
  | payload index => index < inputs.length
  | handle index => index < (owned inputs).length

def block (owner : ImmutableSemanticBatchOwner)
    (plan : SemanticBatchCountPlan) : Part → Block
  | header => headerBlock plan
  | record index => recordBlock owner plan index
  | payload index => payloadBlock owner plan index
  | handle index => handleBlock plan index

def start (inputs : List BatchRecordInput) : Part → Nat
  | header => 0
  | record index => wireHeaderSize + index * wireRecordHeaderSize
  | payload index => payloadArena inputs + placeAt inputs index
  | handle index => handleTable inputs + index * wireHandleEntrySize

def size (inputs : List BatchRecordInput) : Part → Nat
  | header => wireHeaderSize
  | record _ => wireRecordHeaderSize
  | payload index => sizeAt inputs index
  | handle _ => wireHandleEntrySize

/-- Whether an address belongs to a part. -/
def Within (inputs : List BatchRecordInput) (part : Part) (address : Nat) :
    Prop :=
  part.start inputs ≤ address ∧
    address < part.start inputs + part.size inputs

end Part

section

variable {inputs : List BatchRecordInput}

theorem handleTable_eq : handleTable inputs = 48 + inputs.length * 32 := rfl

theorem payloadArena_eq : payloadArena inputs =
    48 + inputs.length * 32 + (owned inputs).length * 16 := rfl

variable {part : Part}

/-- Every part lies inside the chunk. -/
theorem Part.stop_le (live : part.Live inputs) :
    part.start inputs + part.size inputs ≤
      payloadArena inputs + canonicalEnd inputs := by
  have arena := @payloadArena_eq inputs
  cases part with
  | header =>
      change 0 + 48 ≤ _
      omega
  | record index =>
      change index < inputs.length at live
      change 48 + index * 32 + 32 ≤ _
      omega
  | payload index =>
      have stop := stopAt_le_end (show index < inputs.length from live)
      change payloadArena inputs + placeAt inputs index +
        sizeAt inputs index ≤ _
      omega
  | handle index =>
      change index < (owned inputs).length at live
      change 48 + inputs.length * 32 + index * 16 + 16 ≤ _
      omega

variable {address : Nat}

theorem Part.payload_apart (part : Part) {index : Nat}
    (live : part.Live inputs) (within : part.Within inputs address)
    (arena : (Part.payload index).Within inputs address)
    (inside : index < inputs.length) : part = .payload index := by
  have tables := @payloadArena_eq inputs
  obtain ⟨arenaStart, arenaStop⟩ := arena
  change payloadArena inputs + placeAt inputs index ≤ address at arenaStart
  change address < payloadArena inputs + placeAt inputs index +
    sizeAt inputs index at arenaStop
  obtain ⟨start, stop⟩ := within
  cases part with
  | header =>
      change address < 0 + 48 at stop
      omega
  | record other =>
      change other < inputs.length at live
      change address < 48 + other * 32 + 32 at stop
      omega
  | handle other =>
      change other < (owned inputs).length at live
      change address < 48 + inputs.length * 32 + other * 16 + 16 at stop
      omega
  | payload other =>
      change other < inputs.length at live
      change payloadArena inputs + placeAt inputs other ≤ address at start
      change address < payloadArena inputs + placeAt inputs other +
        sizeAt inputs other at stop
      rcases Nat.lt_trichotomy other index with earlier | same | later
      · have apart := stopAt_le_placeAt earlier inside
        omega
      · rw [same]
      · have apart := stopAt_le_placeAt later live
        omega

/-- An address belongs to at most one part. -/
theorem Part.unique {other : Part}
    (live : part.Live inputs) (otherLive : other.Live inputs)
    (within : part.Within inputs address)
    (otherWithin : other.Within inputs address) : part = other := by
  cases other with
  | payload index =>
      exact Part.payload_apart part live within otherWithin otherLive
  | header =>
      cases part with
      | header => rfl
      | payload index =>
          exact (Part.payload_apart .header otherLive otherWithin within live).symm
      | record index =>
          have start := within.1
          have stop := otherWithin.2
          change 48 + index * 32 ≤ address at start
          change address < 0 + 48 at stop
          omega
      | handle index =>
          have start := within.1
          have stop := otherWithin.2
          change 48 + inputs.length * 32 + index * 16 ≤ address at start
          change address < 0 + 48 at stop
          omega
  | record index =>
      obtain ⟨start, stop⟩ := otherWithin
      change 48 + index * 32 ≤ address at start
      change address < 48 + index * 32 + 32 at stop
      change index < inputs.length at otherLive
      cases part with
      | header =>
          have first := within.2
          change address < 0 + 48 at first
          omega
      | payload place =>
          exact (Part.payload_apart (.record index) otherLive
            ⟨start, stop⟩ within live).symm
      | record place =>
          obtain ⟨placeStart, placeStop⟩ := within
          change 48 + place * 32 ≤ address at placeStart
          change address < 48 + place * 32 + 32 at placeStop
          exact congrArg Part.record (by omega)
      | handle place =>
          have first := within.1
          change 48 + inputs.length * 32 + place * 16 ≤ address at first
          omega
  | handle index =>
      obtain ⟨start, stop⟩ := otherWithin
      change 48 + inputs.length * 32 + index * 16 ≤ address at start
      change address < 48 + inputs.length * 32 + index * 16 + 16 at stop
      change index < (owned inputs).length at otherLive
      cases part with
      | header =>
          have first := within.2
          change address < 0 + 48 at first
          omega
      | payload place =>
          exact (Part.payload_apart (.handle index) otherLive
            ⟨start, stop⟩ within live).symm
      | record place =>
          have last := within.2
          change place < inputs.length at live
          change address < 48 + place * 32 + 32 at last
          omega
      | handle place =>
          obtain ⟨placeStart, placeStop⟩ := within
          change 48 + inputs.length * 32 + place * 16 ≤ address at placeStart
          change address < 48 + inputs.length * 32 + place * 16 + 16
            at placeStop
          exact congrArg Part.handle (by omega)

end

/-! ## Blocks of the parts -/

theorem mem_emittedBlocks {owner : ImmutableSemanticBatchOwner}
    {inputs : List BatchRecordInput} {block : Block} :
    block ∈ emittedBlocks owner (exactPlan inputs) ↔
      ∃ part : Part, part.Live inputs ∧
        block = part.block owner (exactPlan inputs) := by
  have count : (exactPlan inputs).records.length = inputs.length :=
    length_mapPrefix [] inputs
  unfold emittedBlocks
  rw [count]
  change block ∈ headerBlock _ :: (_ ++ (List.range (owned inputs).length).map
    _) ↔ _
  rw [List.mem_cons, List.mem_append, List.mem_flatMap, List.mem_map]
  constructor
  · rintro (rfl | ⟨index, inside, member⟩ | ⟨index, inside, rfl⟩)
    · exact ⟨.header, trivial, rfl⟩
    · have live := List.mem_range.mp inside
      rcases List.mem_cons.mp member with rfl | rest
      · exact ⟨.record index, live, rfl⟩
      · rw [List.mem_singleton] at rest
        exact ⟨.payload index, live, rest⟩
    · exact ⟨.handle index, List.mem_range.mp inside, rfl⟩
  · rintro ⟨part, live, rfl⟩
    cases part with
    | header => exact Or.inl rfl
    | record index =>
        exact Or.inr (Or.inl ⟨index, List.mem_range.mpr live,
          List.mem_cons_self⟩)
    | payload index =>
        exact Or.inr (Or.inl ⟨index, List.mem_range.mpr live,
          List.mem_cons_of_mem _ List.mem_cons_self⟩)
    | handle index =>
        exact Or.inr (Or.inr ⟨index, List.mem_range.mpr live, rfl⟩)

section

variable {limits : Limits} {inputs : List BatchRecordInput}
  {owner : ImmutableSemanticBatchOwner}

variable {index : Nat}

theorem Holds.record_eq (holds : Holds limits inputs owner)
    (inside : index < inputs.length) :
    owner.record index =
      recordOf (inputs.take index) (inputAt inputs index) := by
  unfold ImmutableSemanticBatchOwner.record
  rw [holds.records]
  exact getD_mapPrefix recordOf {} inside

theorem planned_eq (inside : index < inputs.length) :
    (exactPlan inputs).records.getD index {} =
      planRecordOf (inputs.take index) (inputAt inputs index) :=
  getD_mapPrefix planRecordOf {} inside

theorem Small.stopAt (small : Small inputs)
    (inside : index < inputs.length) :
    placeAt inputs index + sizeAt inputs index < 2 ^ 32 :=
  Nat.lt_of_le_of_lt (stopAt_le_end inside) small.payload

section

variable (holds : Holds limits inputs owner) (small : Small inputs)
include holds small

theorem Holds.payload_eq {index : Nat} (inside : index < inputs.length) :
    owner.payloadOf (owner.record index) =
      (inputAt inputs index).exactPayload := by
  have split := inputAt_split inside
  have payload := holds.payload
  have whole := small
  rw [split] at payload whole
  rw [holds.record_eq inside]
  exact payloadOf_recordOf payload whole

variable {part : Part}

theorem Holds.block_extent (live : part.Live inputs) :
    (part.block owner (exactPlan inputs)).offset = part.start inputs ∧
      (part.block owner (exactPlan inputs)).bytes.length =
        part.size inputs := by
  cases part with
  | header => exact ⟨rfl, length_wordsBytes _⟩
  | record index => exact ⟨rfl, length_wordsBytes _⟩
  | handle index => exact ⟨rfl, length_wordsBytes _⟩
  | payload index =>
      have place := small.stopAt live
      constructor
      · change payloadArena inputs +
          ((exactPlan inputs).records.getD index {}).payloadOffset.toNat = _
        rw [planned_eq live]
        change _ + (UInt32.ofNat (placeAt inputs index)).toNat = _
        rw [toNat_ofNat_of_lt (by omega)]
        rfl
      · exact congrArg List.length (holds.payload_eq small live)

theorem Holds.covers_iff (live : part.Live inputs)
    (address : Nat) :
    (part.block owner (exactPlan inputs)).Covers address ↔
      part.Within inputs address := by
  obtain ⟨offset, length⟩ := holds.block_extent small live
  unfold Block.Covers
  rw [offset, length]
  rfl

end

variable {destination : List UInt8}

section

variable (holds : Holds limits inputs owner) (small : Small inputs)
  (room : (exactPlan inputs).wireBytes ≤ destination.length)
include holds small room

theorem Holds.block_fits :
    ∀ block ∈ emittedBlocks owner (exactPlan inputs),
      block.Fits destination.length := by
  intro block member
  obtain ⟨part, live, rfl⟩ := mem_emittedBlocks.mp member
  obtain ⟨offset, length⟩ := holds.block_extent small live
  unfold Block.Fits
  rw [offset, length]
  exact Nat.le_trans (Part.stop_le live) room

theorem Holds.stores
    {part : Part} (live : part.Live inputs) :
    Stores (writeBlocks destination (emittedBlocks owner (exactPlan inputs)))
      (part.block owner (exactPlan inputs)) := by
  apply stores_writeBlocks (holds.block_fits small room)
    (mem_emittedBlocks.mpr ⟨part, live, rfl⟩)
  intro block member address covers otherCovers
  obtain ⟨other, otherLive, rfl⟩ := mem_emittedBlocks.mp member
  have same := Part.unique otherLive live
    ((holds.covers_iff small otherLive address).mp otherCovers)
    ((holds.covers_iff small live address).mp covers)
  rw [same]

theorem Holds.outside
    {address : Nat}
    (outside : ∀ part : Part, part.Live inputs →
      ¬ part.Within inputs address) :
    byteAt (writeBlocks destination (emittedBlocks owner (exactPlan inputs)))
      address = byteAt destination address := by
  apply byteAt_writeBlocks_of_not_covers (holds.block_fits small room)
  intro block member covers
  obtain ⟨part, live, rfl⟩ := mem_emittedBlocks.mp member
  exact outside part live ((holds.covers_iff small live address).mp covers)

end

end

end Dxmt9.SemanticBatch
