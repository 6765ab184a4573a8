import Dxmt9.SourcePayload.PreflightSound

/-!
# Binding is all or nothing

A block that binds has every region in its own aligned part of the memory.  A
block that does not bind is as it was, unless preflight passed over the one
region that it does not check by name.
-/

namespace Dxmt9.SourcePayload

open Dxmt9.CpuReady

variable {sizes : PayloadSizes} {memory : ByteSpan}
  {layout : SourcePayloadLayout} {id : SourcePayloadRegion}

/-! ## One region -/

/-- When a region that was never bound can be bound. -/
def Binds (sizes : PayloadSizes) (memory : ByteSpan)
    (layout : SourcePayloadLayout) (id : SourcePayloadRegion) : Prop :=
  let region := regionOf layout id
  match freshStorage id with
  | .elements _ =>
      region.elementCount ≤ kMaxSize / regionElementSize sizes id ∧
        region.byteCount = region.elementCount * regionElementSize sizes id ∧
        (region.elementCount ≠ 0 →
          memory.address + region.offset ≠ 0 ∧
            (memory.address + region.offset) % regionAlignment sizes id = 0)
  | .bytes _ =>
      region.byteCount ≠ 0 →
        memory.address + region.offset ≠ 0 ∧
          (memory.address + region.offset) % kSourcePayloadByteAlignment = 0

/-- A storage that holds a number of elements in a span of memory. -/
def BoundTo (span : ByteSpan) (count : Nat) : RegionStorage → Prop
  | .elements storage =>
      storage.bound = true ∧ storage.size = 0 ∧ storage.capacity = count ∧
        storage.resource = some span ∧ (count ≠ 0 → storage.data = span.address)
  | .bytes storage =>
      storage.bound = true ∧ storage.size = 0 ∧
        storage.capacity = span.size ∧ storage.data = span.address

/-- The part of the memory that a region takes. -/
def partOf (memory : ByteSpan) (layout : SourcePayloadLayout)
    (id : SourcePayloadRegion) : ByteSpan :=
  memory.subspan (regionOf layout id).offset (regionOf layout id).byteCount

variable {alignment : Nat}

/-- A whole extent is handed out where it starts. -/
theorem monotonicAllocate_whole
    (present : memory.address ≠ 0)
    (aligned : memory.address % alignment = 0) :
    monotonicAllocate memory memory.size alignment = some memory.address := by
  have positive : 0 < alignment := by
    apply Nat.pos_of_ne_zero
    rintro rfl
    exact present ((Nat.mod_zero _).symm.trans aligned)
  obtain ⟨quotient, shape⟩ := Nat.dvd_of_mod_eq_zero aligned
  have rounded : (memory.address + (alignment - 1)) / alignment =
      quotient := by
    rw [shape, Nat.mul_add_div positive,
      Nat.div_eq_of_lt (Nat.sub_lt positive Nat.one_pos), Nat.add_zero]
  unfold monotonicAllocate
  rw [rounded, Nat.mul_comm, ← shape]
  dsimp only
  rw [Nat.sub_self, Nat.zero_add, if_pos (Nat.le_refl _)]

variable {elementSize : Nat} {span : ByteSpan}

theorem ArenaSoA.bind_fresh {capacity : Nat} (few : capacity ≤ kMaxSize / elementSize)
    (counted : span.size = capacity * elementSize)
    (based : capacity ≠ 0 → span.address ≠ 0 ∧ span.address % alignment = 0) :
    ∃ storage, ArenaSoA.bind elementSize alignment {} span capacity =
      (true, storage) ∧ BoundTo span capacity (.elements storage) := by
  unfold ArenaSoA.bind
  rw [if_neg (by
    rintro (bound | filled | many | other)
    · exact nomatch bound
    · exact filled rfl
    · exact Nat.not_lt.mpr few many
    · exact other counted)]
  by_cases empty : capacity = 0
  · rw [if_neg (fun both => both.1 empty), if_pos empty]
    exact ⟨_, rfl, rfl, rfl, rfl, rfl, fun some => absurd empty some⟩
  · obtain ⟨present, aligned⟩ := based empty
    rw [if_neg (fun both => both.2.elim present (fun off => off aligned)),
      if_neg empty, ← counted, monotonicAllocate_whole present aligned]
    dsimp only
    rw [if_neg (fun other => other rfl)]
    exact ⟨_, rfl, rfl, rfl, rfl, rfl, fun _ => rfl⟩

theorem ArenaSoA.bind_refused {capacity : Nat}
    (refuses : ¬(capacity ≤ kMaxSize / elementSize ∧
      span.size = capacity * elementSize ∧
      (capacity ≠ 0 → span.address ≠ 0 ∧ span.address % alignment = 0))) :
    (ArenaSoA.bind elementSize alignment {} span capacity).1 = false := by
  unfold ArenaSoA.bind
  by_cases shape : kMaxSize / elementSize < capacity ∨
      span.size ≠ capacity * elementSize
  · rw [if_pos (Or.inr (Or.inr shape))]
  · push Not at shape
    rw [if_neg (by
      rintro (bound | filled | many | other)
      · exact nomatch bound
      · exact filled rfl
      · exact Nat.not_lt.mpr shape.1 many
      · exact other shape.2)]
    rw [if_pos]
    by_contra based
    apply refuses
    refine ⟨shape.1, shape.2, fun some => ?_⟩
    push Not at based
    exact based some

theorem ArenaByteBuffer.bind_fresh
    (based : span.size ≠ 0 → span.address ≠ 0 ∧
      span.address % kSourcePayloadByteAlignment = 0) :
    ∃ storage, ArenaByteBuffer.bind {} span kSourcePayloadByteAlignment =
      (true, storage) ∧ BoundTo span span.size (.bytes storage) := by
  unfold ArenaByteBuffer.bind
  rw [if_neg]
  · exact ⟨_, rfl, rfl, rfl, rfl, rfl⟩
  · rintro (bound | filled | unpowered | ⟨some, nowhere⟩)
    · exact nomatch bound
    · exact filled rfl
    · exact absurd unpowered (by decide)
    · obtain ⟨present, aligned⟩ := based some
      exact nowhere.elim present (fun off => off aligned)

theorem bindRegion_of_binds (binds : Binds sizes memory layout id) :
    ∃ storage, bindRegion sizes memory layout id (freshStorage id) =
        (true, storage) ∧
      BoundTo (partOf memory layout id) (regionOf layout id).elementCount
        storage := by
  unfold Binds at binds
  cases shape : freshStorage id with
  | elements storage =>
      have fresh : storage = {} := by
        cases id <;> cases shape <;> rfl
      subst fresh
      rw [shape] at binds
      have counted : (partOf memory layout id).size = _ := binds.2.1
      obtain ⟨storage, bound, holds⟩ :=
        ArenaSoA.bind_fresh binds.1 counted binds.2.2
      refine ⟨.elements storage, ?_, holds⟩
      exact congrArg (fun result : Bool × ArenaSoA =>
        (result.1, RegionStorage.elements result.2)) bound
  | bytes storage =>
      have fresh : storage = {} := by
        cases id <;> cases shape <;> rfl
      subst fresh
      rw [shape] at binds
      have based : (partOf memory layout id).size ≠ 0 → _ := binds
      obtain ⟨storage, bound, holds⟩ := ArenaByteBuffer.bind_fresh based
      refine ⟨.bytes storage, ?_, holds⟩
      exact congrArg (fun result : Bool × ArenaByteBuffer =>
        (result.1, RegionStorage.bytes result.2)) bound

variable {ids : List SourcePayloadRegion}
  {storages : SourcePayloadRegion → RegionStorage}

theorem bindRegions_outside (outside : id ∉ ids) :
    (bindRegions sizes memory layout ids storages).2 id = storages id := by
  induction ids generalizing storages with
  | nil => rfl
  | cons first rest induction =>
      have other : id ≠ first := fun same =>
        outside (same ▸ List.mem_cons_self ..)
      have next : ∀ storage : RegionStorage,
          Function.update storages first storage id = storages id :=
        fun storage => Function.update_of_ne other storage storages
      rw [bindRegions]
      split
      · rw [induction fun member => outside (List.mem_cons_of_mem _ member)]
        exact next _
      · exact next _

variable {first : SourcePayloadRegion} {rest : List SourcePayloadRegion}

theorem bindRegions_step {storage : RegionStorage}
    (bound : bindRegion sizes memory layout first (storages first) =
      (true, storage)) :
    bindRegions sizes memory layout (first :: rest) storages =
      bindRegions sizes memory layout rest
        (Function.update storages first storage) := by
  rw [bindRegions, bound]
  exact if_pos rfl

theorem bindRegions_first (apart : first ∉ rest)
    (fresh : storages first = freshStorage first)
    (binds : Binds sizes memory layout first) :
    BoundTo (partOf memory layout first)
      (regionOf layout first).elementCount
      ((bindRegions sizes memory layout (first :: rest) storages).2
        first) := by
  obtain ⟨storage, bound, holds⟩ := bindRegion_of_binds binds
  rw [← fresh] at bound
  rw [bindRegions_step bound, bindRegions_outside apart, Function.update_self]
  exact holds

theorem bindRegions_of_binds (once : ids.Nodup)
    (fresh : ∀ id ∈ ids, storages id = freshStorage id)
    (binds : ∀ id ∈ ids, Binds sizes memory layout id) :
    (bindRegions sizes memory layout ids storages).1 = true ∧
      ∀ id ∈ ids, BoundTo (partOf memory layout id)
        (regionOf layout id).elementCount
        ((bindRegions sizes memory layout ids storages).2 id) := by
  induction ids generalizing storages with
  | nil => exact ⟨rfl, nofun⟩
  | cons first rest induction =>
      obtain ⟨apart, once⟩ := List.nodup_cons.mp once
      have freshFirst := fresh first (List.mem_cons_self ..)
      have bindsFirst := binds first (List.mem_cons_self ..)
      have head := bindRegions_first apart freshFirst bindsFirst
      obtain ⟨storage, bound, -⟩ := bindRegion_of_binds bindsFirst
      rw [← freshFirst] at bound
      have updated : ∀ id ∈ rest,
          Function.update storages first storage id = freshStorage id := by
        intro id member
        have other : id ≠ first := fun same => apart (same ▸ member)
        rw [Function.update_of_ne other]
        exact fresh id (List.mem_cons_of_mem _ member)
      have all := induction once updated
        (fun id member => binds id (List.mem_cons_of_mem _ member))
      rw [bindRegions_step bound] at head ⊢
      exact ⟨all.1, List.forall_mem_cons.mpr ⟨head, all.2⟩⟩

/-- One region that cannot be bound stops the whole. -/
theorem bindRegions_refused (once : ids.Nodup) (member : id ∈ ids)
    (fresh : storages id = freshStorage id)
    (refuses :
      (bindRegion sizes memory layout id (freshStorage id)).1 = false) :
    (bindRegions sizes memory layout ids storages).1 = false := by
  induction ids generalizing storages with
  | nil => exact nomatch member
  | cons first rest induction =>
      obtain ⟨apart, once⟩ := List.nodup_cons.mp once
      rw [bindRegions]
      split
      · rename_i succeeded
        have other : id ≠ first := by
          rintro rfl
          rw [fresh, refuses] at succeeded
          exact nomatch succeeded
        apply induction once ((List.mem_cons.mp member).resolve_left other)
        rw [Function.update_of_ne other]
        exact fresh
      · rfl

/-- What preflight found out about a layout. -/
structure Preflighted (sizes : PayloadSizes) (memory : ByteSpan)
    (layout : SourcePayloadLayout) : Prop where
  present : layout.usedBytes ≠ 0 → memory.address ≠ 0
  follows : Follows memory layout.usedBytes sourcePayloadRegions
    layout.regions 0
  named : ∀ id ∈ preflightedRegions,
    preflightRegion sizes memory layout id = true

theorem preflighted (sized : Sized layout)
    (passed : preflightLayout sizes memory layout = true) :
    Preflighted sizes memory layout := by
  unfold preflightLayout at passed
  split at passed
  · exact nomatch passed
  · rename_i checks
    push Not at checks
    split at passed
    · exact nomatch passed
    · rename_i extents
      split at passed
      · exact nomatch passed
      · exact
          { present := fun used => (checks.2.2.2.2.2 used).1
            follows := (follows_of_preflightExtents sized extents).1
            named := List.all_eq_true.mp passed }

/-- A region that preflight checks by name can be bound. -/
theorem binds_of_preflightRegion
    (positive : ∀ id, 0 < regionElementSize sizes id)
    (present : layout.usedBytes ≠ 0 → memory.address ≠ 0)
    (passed : preflightRegion sizes memory layout id = true) :
    Binds sizes memory layout id := by
  obtain ⟨-, -, -, -, product, -, below, room, -, -, based⟩ :=
    of_decide_eq_true passed
  obtain ⟨counted, fits⟩ := checkedMultiply_some.mp product
  have placed : (regionOf layout id).byteCount ≠ 0 →
      memory.address + (regionOf layout id).offset ≠ 0 ∧
        (memory.address + (regionOf layout id).offset) %
          regionAlignment sizes id = 0 := by
    intro some
    refine ⟨fun nowhere => ?_, based some⟩
    apply present
    · omega
    · exact Nat.eq_zero_of_add_eq_zero_right nowhere
  unfold Binds
  dsimp only
  split
  · refine ⟨?_, counted, fun some => placed ?_⟩
    · exact (Nat.le_div_iff_mul_le (positive id)).mpr fits
    · rw [counted]
      exact Nat.mul_ne_zero some (Nat.ne_of_gt (positive id))
  · rename_i shape
    have aligned : regionAlignment sizes id = kSourcePayloadByteAlignment := by
      cases id <;> cases shape <;> rfl
    rw [aligned] at placed
    exact placed

/-! ## The block -/

/-- A block whose regions all have their own part of the memory. -/
structure BoundWhole (sizes : PayloadSizes) (memory : ByteSpan)
    (layout : SourcePayloadLayout) (block : ArenaSourcePayloadBlock) :
    Prop where
  bound : block.bound = true
  base : block.boundBase = memory.address ∧ block.boundExtent = memory.size
  storages : ∀ id, BoundTo (partOf memory layout id)
    (regionOf layout id).elementCount (block.storages id)
  counted : ∀ id, (regionOf layout id).byteCount =
    (regionOf layout id).elementCount * regionElementSize sizes id
  aligned : ∀ id, (regionOf layout id).elementCount ≠ 0 →
    (memory.address + (regionOf layout id).offset) %
      regionAlignment sizes id = 0
  inside : ∀ id, (regionOf layout id).offset +
    (regionOf layout id).byteCount ≤ memory.size
  disjoint : ∀ first second, first ≠ second →
    (regionOf layout first).offset + (regionOf layout first).byteCount ≤
        (regionOf layout second).offset ∨
      (regionOf layout second).offset + (regionOf layout second).byteCount ≤
        (regionOf layout first).offset

/-- A fresh block binds as a whole or stays fresh, and a fresh block binds
every layout made for a capacity over memory that can hold it. -/
def AllOrNothing (sizes : PayloadSizes) (memory : ByteSpan)
    (layout : SourcePayloadLayout) : Prop :=
  let result := ArenaSourcePayloadBlock.bind sizes {} memory layout
  (result.1 = true → BoundWhole sizes memory layout result.2) ∧
    (result.1 = false → result.2 = {} ∧
      ∀ capacity pageSize maxPages later room,
        makeSourcePayloadLayout sizes capacity pageSize maxPages =
          some later →
        Holds room later →
        (ArenaSourcePayloadBlock.bind sizes result.2 room later).1 = true)

theorem nodup_sourcePayloadRegions : sourcePayloadRegions.Nodup := by
  decide

theorem mem_preflightedRegions (other : id ≠ .generateMipmapsRecords) :
    id ∈ preflightedRegions := by
  cases id <;> first | exact absurd rfl other | decide

theorem Follows.disjoint {usedBytes cursor : Nat}
    (follows : Follows memory usedBytes sourcePayloadRegions layout.regions
      cursor) {second : SourcePayloadRegion}
    (different : first ≠ second) :
    (regionOf layout first).offset + (regionOf layout first).byteCount ≤
        (regionOf layout second).offset ∨
      (regionOf layout second).offset + (regionOf layout second).byteCount ≤
        (regionOf layout first).offset := by
  have left := regionOf_of_ids first follows.ids
  have right := regionOf_of_ids second follows.ids
  have apart : regionOf layout first ≠ regionOf layout second := by
    intro same
    apply different
    rw [← left.2, ← right.2, same]
  have either : layout.regions.Pairwise fun before after =>
      before ≠ after →
        before.offset + before.byteCount ≤ after.offset ∨
          after.offset + after.byteCount ≤ before.offset :=
    follows.ordered.imp fun ordered _ => Or.inl ordered
  exact List.Pairwise.forall_of_forall_of_flip
    (fun _ _ distinct => absurd rfl distinct) either
    (follows.ordered.imp fun ordered _ => Or.inr ordered)
    left.1 right.1 apart

theorem bind_fresh (passed : preflightLayout sizes memory layout = true) :
    ArenaSourcePayloadBlock.bind sizes {} memory layout =
      let result := bindRegions sizes memory layout sourcePayloadRegions
        freshStorage
      if result.1 then
        (true, {
          storages := result.2, bound := true
          boundBase := memory.address, boundExtent := memory.size })
      else (false, { storages := result.2, bound := false }) := by
  unfold ArenaSourcePayloadBlock.bind
  rw [passed, if_neg (by rintro (bound | refused) <;> contradiction)]

theorem bind_of_binds (passed : preflightLayout sizes memory layout = true)
    (binds : ∀ id, Binds sizes memory layout id) :
    ∃ block, ArenaSourcePayloadBlock.bind sizes {} memory layout =
        (true, block) ∧ block.bound = true ∧
      (block.boundBase = memory.address ∧
        block.boundExtent = memory.size) ∧
      ∀ id, BoundTo (partOf memory layout id)
        (regionOf layout id).elementCount (block.storages id) := by
  have fresh : ∀ id ∈ sourcePayloadRegions,
      freshStorage id = freshStorage id := fun _ _ => rfl
  have all := bindRegions_of_binds nodup_sourcePayloadRegions fresh
    fun id _ => binds id
  rw [bind_fresh passed]
  dsimp only
  rw [if_pos all.1]
  exact ⟨_, rfl, rfl, ⟨rfl, rfl⟩,
    fun id => all.2 id (mem_sourcePayloadRegions id)⟩

/-- The records of generated mipmaps fit their region. -/
structure MipmapsFit (sizes : PayloadSizes) (memory : ByteSpan)
    (layout : SourcePayloadLayout) : Prop where
  few : (regionOf layout .generateMipmapsRecords).elementCount ≤
    kMaxSize / sizes.element .generateMipmapsRecords
  counted : (regionOf layout .generateMipmapsRecords).byteCount =
    (regionOf layout .generateMipmapsRecords).elementCount *
      sizes.element .generateMipmapsRecords
  based : (regionOf layout .generateMipmapsRecords).elementCount ≠ 0 →
    memory.address + (regionOf layout .generateMipmapsRecords).offset ≠ 0 ∧
      (memory.address + (regionOf layout .generateMipmapsRecords).offset) %
        sizes.alignment .generateMipmapsRecords = 0

theorem mipmapsFit_iff_binds : MipmapsFit sizes memory layout ↔
    Binds sizes memory layout .generateMipmapsRecords :=
  ⟨fun fit => ⟨fit.few, fit.counted, fit.based⟩,
    fun binds => ⟨binds.1, binds.2.1, binds.2.2⟩⟩

section

variable (flight : Preflighted sizes memory layout)
  (positive : ∀ id, 0 < regionElementSize sizes id)
include flight positive

/-- Once preflight has passed, the mipmap records are the only region that
may not be bindable. -/
theorem Preflighted.binds
    (other : id ≠ .generateMipmapsRecords) : Binds sizes memory layout id :=
  binds_of_preflightRegion positive flight.present
    (flight.named id (mem_preflightedRegions other))

theorem Preflighted.boundWhole {block : ArenaSourcePayloadBlock}
    (fit : MipmapsFit sizes memory layout) (bound : block.bound = true)
    (base : block.boundBase = memory.address ∧
      block.boundExtent = memory.size)
    (storages : ∀ id, BoundTo (partOf memory layout id)
      (regionOf layout id).elementCount (block.storages id)) :
    BoundWhole sizes memory layout block where
  bound := bound
  base := base
  storages := storages
  counted := by
    intro id
    by_cases mipmaps : id = .generateMipmapsRecords
    · subst mipmaps
      exact fit.counted
    · obtain ⟨-, -, -, -, product, -⟩ := of_decide_eq_true
        (flight.named id (mem_preflightedRegions mipmaps))
      exact (checkedMultiply_some.mp product).1
  aligned := by
    intro id some
    by_cases mipmaps : id = .generateMipmapsRecords
    · subst mipmaps
      exact (fit.based some).2
    · obtain ⟨-, -, -, -, product, aligned, -, -, -, -, based⟩ :=
        of_decide_eq_true (flight.named id (mem_preflightedRegions mipmaps))
      apply based
      rw [(checkedMultiply_some.mp product).1]
      exact Nat.mul_ne_zero some (Nat.ne_of_gt (positive id))
  inside := by
    intro id
    have member := (regionOf_of_ids id flight.follows.ids).1
    exact flight.follows.within _ member
  disjoint := fun _ _ different => flight.follows.disjoint different

end

/-- Mipmap records that do not fit stop the binding half-way. -/
theorem bindRegions_unfit (unfit : ¬MipmapsFit sizes memory layout) :
    (bindRegions sizes memory layout sourcePayloadRegions
      freshStorage).1 = false := by
  apply bindRegions_refused nodup_sourcePayloadRegions
    (mem_sourcePayloadRegions .generateMipmapsRecords) rfl
  apply ArenaSoA.bind_refused
  intro all
  exact unfit ⟨all.1, all.2.1, all.2.2⟩

section

variable (passed : preflightLayout sizes memory layout = true)
  (unfit : ¬MipmapsFit sizes memory layout)
include passed unfit

theorem bind_refused :
    (ArenaSourcePayloadBlock.bind sizes {} memory layout).1 = false := by
  rw [bind_fresh passed]
  dsimp only
  rw [bindRegions_unfit unfit]
  rfl

theorem bind_refused_bound
    (headers : Binds sizes memory layout .commandHeaders) :
    (ArenaSourcePayloadBlock.bind sizes {} memory layout).2 ≠ {} := by
  intro pristine
  have apart : SourcePayloadRegion.commandHeaders ∉
      sourcePayloadRegions.tail := by decide
  have fresh : freshStorage .commandHeaders =
      freshStorage .commandHeaders := rfl
  have holds := bindRegions_first apart fresh headers
  rw [bind_fresh passed] at pristine
  dsimp only at pristine
  rw [bindRegions_unfit unfit, if_neg Bool.false_ne_true] at pristine
  have storages := congrFun
    (congrArg ArenaSourcePayloadBlock.storages pristine) .commandHeaders
  change (bindRegions sizes memory layout
    (.commandHeaders :: sourcePayloadRegions.tail) freshStorage).2
      .commandHeaders = freshStorage .commandHeaders at storages
  rw [storages] at holds
  exact nomatch holds.1

end

theorem bind_madeFor {capacity : SourcePayloadCapacity}
    {pageSize maxPages : Nat}
    (positive : ∀ id, 0 < regionElementSize sizes id)
    (made : MadeFor sizes capacity pageSize maxPages layout)
    (holds : Holds memory layout) :
    (ArenaSourcePayloadBlock.bind sizes {} memory layout).1 = true := by
  have passed := preflightLayout_madeFor made holds
  obtain ⟨block, bound, -⟩ := bind_of_binds passed fun id =>
    binds_of_preflightRegion positive holds.present
      (preflightRegion_madeFor made holds id)
  rw [bound]

/-- Binding is all or nothing exactly where the region that preflight leaves
out is bindable whenever everything else passes. -/
theorem payloadBinding_allOrNothing (sized : Sized layout)
    (positive : ∀ id, 0 < regionElementSize sizes id) :
    AllOrNothing sizes memory layout ↔
      (preflightLayout sizes memory layout = true →
        MipmapsFit sizes memory layout) := by
  constructor
  · intro all passed
    have flight := preflighted sized passed
    by_contra unfit
    have refuses := bind_refused passed unfit
    have pristine := (all.2 refuses).1
    have headers : SourcePayloadRegion.commandHeaders ≠
        .generateMipmapsRecords := by decide
    exact bind_refused_bound passed unfit
      (flight.binds positive headers) pristine
  · intro fits
    cases passed : preflightLayout sizes memory layout with
    | false =>
        have unchanged : ArenaSourcePayloadBlock.bind sizes {} memory
            layout = (false, {}) := by
          unfold ArenaSourcePayloadBlock.bind
          rw [passed]
          exact if_pos (Or.inr rfl)
        unfold AllOrNothing
        rw [unchanged]
        refine ⟨nofun, fun _ => ⟨rfl, ?_⟩⟩
        intro capacity pageSize maxPages later room made holds
        exact bind_madeFor positive (madeFor made) holds
    | true =>
        have flight := preflighted sized passed
        have fit := fits passed
        obtain ⟨block, bound, known, base, storages⟩ := bind_of_binds passed
          fun id => by
            by_cases mipmaps : id = .generateMipmapsRecords
            · subst mipmaps
              exact mipmapsFit_iff_binds.mp fit
            · exact flight.binds positive mipmaps
        unfold AllOrNothing
        rw [bound]
        exact ⟨fun _ => flight.boundWhole positive fit known base storages,
          nofun⟩

/-- Elements of eight bytes. -/
def narrowSizes : PayloadSizes where
  element := fun _ => 8
  alignment := fun _ => 8
  vertexShaderConstants := 8
  pixelShaderConstants := 8
  drawBindingOverride := 8
  drawBindingSnapshot := 8

/-- A layout of nothing, but that its mipmap records count one element in no
bytes. -/
def miscountedMipmaps : SourcePayloadLayout where
  regions := sourcePayloadRegions.map fun id =>
    { id := id
      offset := 0
      byteCount := 0
      alignment := regionAlignment narrowSizes id
      elementCount := if id = .generateMipmapsRecords then 1 else 0
      elementSize := regionElementSize narrowSizes id }
  maximumAlignment := 16
  requiredBaseAlignment := 16

theorem payloadBinding_allOrNothing_sized :
    AllOrNothing narrowSizes ⟨4096, 0⟩ miscountedMipmaps ↔
      (preflightLayout narrowSizes ⟨4096, 0⟩ miscountedMipmaps = true →
        MipmapsFit narrowSizes ⟨4096, 0⟩ miscountedMipmaps) :=
  payloadBinding_allOrNothing (by decide) (by
    intro id
    cases id <;> decide)

/-- Preflight accepts the miscounted layout, and the block is left with its
headers bound. -/
theorem payloadBinding_halfBound :
    (ArenaSourcePayloadBlock.bind narrowSizes {} ⟨4096, 0⟩
        miscountedMipmaps).1 = false ∧
      (ArenaSourcePayloadBlock.bind narrowSizes {} ⟨4096, 0⟩
        miscountedMipmaps).2.storages .commandHeaders ≠
        freshStorage .commandHeaders ∧
      ¬AllOrNothing narrowSizes ⟨4096, 0⟩ miscountedMipmaps := by
  have refused : (ArenaSourcePayloadBlock.bind narrowSizes {} ⟨4096, 0⟩
      miscountedMipmaps).1 = false := by decide +kernel
  have bound : (ArenaSourcePayloadBlock.bind narrowSizes {} ⟨4096, 0⟩
      miscountedMipmaps).2.storages .commandHeaders ≠
        freshStorage .commandHeaders := by decide +kernel
  refine ⟨refused, bound, fun all => bound ?_⟩
  rw [(all.2 refused).1]

end Dxmt9.SourcePayload
