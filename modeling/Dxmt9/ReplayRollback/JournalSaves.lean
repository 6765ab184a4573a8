import Mathlib.Data.List.Perm.Subperm
import Mathlib.Algebra.Order.BigOperators.Group.List
import Mathlib.Algebra.Order.Group.Nat
import Mathlib.Logic.Relation
import Dxmt9.ReplayRollback.UndoJournal

/-!
# What a capture saves

Every capture comes down to saving one component after another.  Each is saved
once, so that the journal never runs out of entries, of constants or of bytes.
-/

namespace Dxmt9.ReplayRollback

open Function

variable {T : StateTypes} {journal next : DeviceStateUndoJournal T}
  {state : DeviceState T}

def ConstantUndo.matches (entry : ConstantUndo) (kind : ConstantKind)
    (index : Nat) : Bool :=
  decide (entry.kind = kind ∧ entry.index = index)

def savedBytes (arena : List UInt8) (kind : ConstantKind)
    (entry : ConstantUndo) (byte : Fin (constantSize kind)) : UInt8 :=
  arena.getD (entry.arenaOffset + byte) 0

/-- The bytes of a constant, if it was saved. -/
def savedConstant (arena : List UInt8) (entries : List ConstantUndo)
    (kind : ConstantKind) (index : Nat) :
    Option (Fin (constantSize kind) → UInt8) :=
  (entries.find? (·.matches kind index)).map (savedBytes arena kind)

/-- What the journal has saved of a component. -/
def DeviceStateUndoJournal.saved (journal : DeviceStateUndoJournal T) :
    (component : Component) → Option (component.Value T)
  | .slot key => journal.slots key
  | .tableValue table key => (journal.tables table).entries key
  | .tableWord table word => (journal.tables table).words word
  | .tableTotals table => (journal.tables table).metadata
  | .constant kind index =>
      savedConstant journal.constantArena journal.constants kind index

/-- The components that take an entry. -/
def Component.InRange : Component → Prop
  | .slot key => key.InRange
  | .tableValue table key => table.InRange ∧ key < table.maxEntries
  | .constant kind index => index < constantLimit kind
  | _ => False

/-- One component is saved under one entry. -/
inductive Saves (state : DeviceState T) :
    DeviceStateUndoJournal T → DeviceStateUndoJournal T → Prop where
  | slot (journal : DeviceStateUndoJournal T) (key : SlotKey)
      (inside : key.InRange) (fresh : journal.slots key = none) :
      Saves state journal
        ({ journal with entryCount := journal.entryCount + 1 }.recordSlot
          key (state.slot key))
  | tableEntry (journal : DeviceStateUndoJournal T) (name : TableName)
      (key : Nat) (inside : name.InRange ∧ key < name.maxEntries)
      (fresh : (journal.tables name).entries key = none) :
      Saves state journal
        ({ journal with
            entryCount := journal.entryCount + 1 }.recordTableEntry
          name (state.table name) key)
  | constant (journal : DeviceStateUndoJournal T) (kind : ConstantKind)
      (index : Nat) (inside : index < constantLimit kind)
      (fresh : journal.isConstantCaptured kind index = false) :
      Saves state journal
        ({ journal with
            entryCount := journal.entryCount + 1 }.recordConstant
          state kind index)

/-! ## What there is to save -/

/-- Every constant, by its array. -/
def allConstants : List (ConstantKind × Nat) :=
  [ConstantKind.vertexFloat, .vertexInt, .vertexBool, .pixelFloat,
    .pixelInt, .pixelBool].flatMap fun kind =>
      (List.range (constantLimit kind)).map fun index => (kind, index)

theorem mem_allConstants {kind : ConstantKind} {index : Nat}
    (inside : index < constantLimit kind) : (kind, index) ∈ allConstants := by
  unfold allConstants
  rw [List.mem_flatMap]
  refine ⟨kind, ?_, ?_⟩
  · cases kind <;> decide
  · exact List.mem_map.mpr ⟨index, List.mem_range.mpr inside, rfl⟩

/-- Every plain component. -/
def allSlots : List SlotKey :=
  [.viewport, .scissor, .material, .index, .vertexDeclaration, .fvf,
      .shader true, .shader false, .depthStencil, .inScene] ++
    (List.range kMaxLights).map .light ++
    (List.range kMaxLights).map .lightEnabled ++
    (List.range kMaxStreams).map .stream ++
    (List.range kMaxTextures).map .texture ++
    (List.range kMaxRenderTargets).map .renderTarget ++
    (List.range kMaxClipPlanes).map .clipPlane

theorem mem_allSlots {key : SlotKey} (inside : key.InRange) :
    key ∈ allSlots := by
  have ranged : ∀ {limit number : Nat} (array : Nat → SlotKey),
      number < limit → array number ∈ (List.range limit).map array :=
    fun array below =>
      List.mem_map.mpr ⟨_, List.mem_range.mpr below, rfl⟩
  unfold allSlots
  simp only [List.mem_append]
  cases key with
  | light number => simp [ranged SlotKey.light inside]
  | lightEnabled number => simp [ranged SlotKey.lightEnabled inside]
  | stream number => simp [ranged SlotKey.stream inside]
  | texture number => simp [ranged SlotKey.texture inside]
  | renderTarget number => simp [ranged SlotKey.renderTarget inside]
  | clipPlane number => simp [ranged SlotKey.clipPlane inside]
  | shader vertex => cases vertex <;> simp
  | _ => simp

def allTables : List TableName :=
  [.renderStates, .transforms] ++
    (List.range kMaxTextureStages).map .textureStageStates ++
    (List.range kMaxSamplers).map .samplerStates

theorem mem_allTables {table : TableName} (inside : table.InRange) :
    table ∈ allTables := by
  unfold allTables
  simp only [List.mem_append]
  cases table with
  | renderStates => simp
  | transforms => simp
  | textureStageStates stage =>
      left
      right
      exact List.mem_map.mpr ⟨stage, List.mem_range.mpr inside, rfl⟩
  | samplerStates sampler =>
      right
      exact List.mem_map.mpr ⟨sampler, List.mem_range.mpr inside, rfl⟩

/-- Every component that can take an entry. -/
def allComponents : List Component :=
  allSlots.map .slot ++
    (allTables.flatMap fun table =>
      (List.range table.maxEntries).map (.tableValue table)) ++
    allConstants.map fun constant => .constant constant.1 constant.2

theorem mem_allComponents {component : Component}
    (inside : component.InRange) : component ∈ allComponents := by
  unfold allComponents
  rw [List.mem_append, List.mem_append]
  cases component with
  | slot key =>
      exact Or.inl (Or.inl (List.mem_map.mpr ⟨key, mem_allSlots inside, rfl⟩))
  | tableValue table key =>
      refine Or.inl (Or.inr (List.mem_flatMap.mpr
        ⟨table, mem_allTables inside.1, ?_⟩))
      exact List.mem_map.mpr ⟨key, List.mem_range.mpr inside.2, rfl⟩
  | constant kind index =>
      exact Or.inr (List.mem_map.mpr
        ⟨(kind, index), mem_allConstants inside, rfl⟩)
  | tableWord table word => exact nomatch inside
  | tableTotals table => exact nomatch inside

theorem length_allComponents : allComponents.length < kEntryCapacity := by
  decide +kernel

theorem length_allConstants : allConstants.length = kConstantUndoCapacity := by
  decide +kernel

theorem bytes_allConstants :
    (allConstants.map fun constant => constantSize constant.1).sum =
      kConstantArenaCapacity := by
  decide +kernel

theorem sum_le_of_nodup {α : Type} {items all : List α} (number : α → Nat)
    (distinct : items.Nodup) (inside : items ⊆ all) :
    (items.map number).sum ≤ (all.map number).sum := by
  obtain ⟨part, perm, sublist⟩ := List.subperm_of_subset distinct inside
  rw [← (perm.map number).sum_eq]
  exact (sublist.map number).sum_le_sum fun _ _ => Nat.zero_le _

/-- The constants that were saved, in their order. -/
def DeviceStateUndoJournal.constantNames
    (journal : DeviceStateUndoJournal T) : List (ConstantKind × Nat) :=
  journal.constants.map fun entry => (entry.kind, entry.index)

/-- What holds of a journal that only captures reach. -/
structure JournalOk (journal : DeviceStateUndoJournal T) : Prop where
  slots : ∀ key, journal.slots key ≠ none → key.InRange
  entries : ∀ table key, (journal.tables table).entries key ≠ none →
    table.InRange ∧ key < table.maxEntries ∧
      (journal.tables table).words (StateValueTable.word key) ≠ none
  words : ∀ table word, (journal.tables table).words word ≠ none →
    word < table.words ∧ (journal.tables table).metadata ≠ none
  totals : ∀ table, (journal.tables table).metadata ≠ none → table.InRange
  constants : ∀ entry ∈ journal.constants,
    entry.index < constantLimit entry.kind ∧
      entry.byteSize = constantSize entry.kind ∧
      entry.arenaOffset + entry.byteSize ≤ journal.constantArena.length
  distinct : journal.constantNames.Nodup
  present : ∀ kind index, journal.isConstantCaptured kind index = true ↔
    (kind, index) ∈ journal.constantNames
  arena : journal.constantArena.length =
    (journal.constantNames.map fun name => constantSize name.1).sum
  counted : ∃ components : List Component, components.Nodup ∧
    components.length = journal.entryCount ∧
    ∀ component ∈ components, component.InRange ∧
      journal.saved component ≠ none
  clean : journal.overflowed = false

theorem emptyJournal_ok : JournalOk ({} : DeviceStateUndoJournal T) where
  slots := fun _ present => absurd rfl present
  entries := fun _ _ present => absurd rfl present
  words := fun _ _ present => absurd rfl present
  totals := fun _ present => absurd rfl present
  constants := fun _ member => nomatch member
  distinct := List.nodup_nil
  present := by
    intro kind index
    change Nat.testBit 0 _ = true ↔ _
    rw [Nat.zero_testBit]
    exact iff_of_false Bool.false_ne_true fun member => nomatch member
  arena := rfl
  counted := ⟨[], List.nodup_nil, rfl, fun _ member => nomatch member⟩
  clean := rfl

section

variable (ok : JournalOk journal)
include ok

theorem JournalOk.entryLeft :
    journal.entryCount < kEntryCapacity := by
  obtain ⟨components, distinct, length, inside⟩ := ok.counted
  rw [← length]
  have subset : components ⊆ allComponents :=
    fun component member => mem_allComponents (inside component member).1
  exact Nat.lt_of_le_of_lt
    (List.subperm_of_subset distinct subset).length_le length_allComponents

theorem JournalOk.names :
    journal.constantNames ⊆ allConstants := by
  intro name member
  obtain ⟨entry, isEntry, rfl⟩ := List.mem_map.mp member
  exact mem_allConstants (ok.constants entry isEntry).1

/-- A constant that is not saved finds room. -/
theorem JournalOk.roomFor {kind : ConstantKind}
    {index : Nat} (inside : index < constantLimit kind)
    (fresh : journal.isConstantCaptured kind index = false) :
    journal.constants.length < kConstantUndoCapacity ∧
      journal.constantArena.length + constantSize kind ≤
        kConstantArenaCapacity := by
  have absent : (kind, index) ∉ journal.constantNames := by
    intro member
    rw [(ok.present kind index).mpr member] at fresh
    exact nomatch fresh
  have distinct : ((kind, index) :: journal.constantNames).Nodup :=
    List.nodup_cons.mpr ⟨absent, ok.distinct⟩
  have subset : (kind, index) :: journal.constantNames ⊆ allConstants :=
    List.cons_subset.mpr ⟨mem_allConstants inside, ok.names⟩
  constructor
  · have length := (List.subperm_of_subset distinct subset).length_le
    rw [length_allConstants, List.length_cons] at length
    unfold DeviceStateUndoJournal.constantNames at length
    rw [List.length_map] at length
    exact length
  · have bytes := sum_le_of_nodup
      (fun name : ConstantKind × Nat => constantSize name.1) distinct subset
    rw [bytes_allConstants, List.map_cons, List.sum_cons, ← ok.arena] at bytes
    dsimp only at bytes
    omega

end

/-! ## Saving keeps the journal -/

theorem find_matches {entries : List ConstantUndo} {kind : ConstantKind}
    {index : Nat} :
    entries.find? (·.matches kind index) = none ↔
      (kind, index) ∉ entries.map fun entry => (entry.kind, entry.index) := by
  rw [List.find?_eq_none]
  constructor
  · intro none member
    obtain ⟨entry, isEntry, same⟩ := List.mem_map.mp member
    exact none entry isEntry (decide_eq_true (Prod.mk.inj same))
  · intro absent entry isEntry matched
    obtain ⟨rfl, rfl⟩ := of_decide_eq_true matched
    exact absent (List.mem_map.mpr ⟨entry, isEntry, rfl⟩)

theorem saved_constant_none {kind : ConstantKind} {index : Nat} :
    journal.saved (.constant kind index) = none ↔
      (kind, index) ∉ journal.constantNames :=
  Option.map_eq_none_iff.trans find_matches

theorem captures_slot (key : SlotKey) (fresh : journal.slots key = none) :
    Memory.Captures journal.saved state.component
      ({ journal with entryCount := journal.entryCount + 1 }.recordSlot key
        (state.slot key)).saved := by
  intro component
  cases component with
  | slot other =>
      by_cases same : other = key
      · subst same
        exact Or.inr ⟨fresh, update_self _ _ _⟩
      · exact Or.inl (update_of_ne same _ _)
  | _ => exact Or.inl rfl

theorem captures_tableEntry (name : TableName) (key : Nat)
    (fresh : (journal.tables name).entries key = none) :
    Memory.Captures journal.saved state.component
      ({ journal with
          entryCount := journal.entryCount + 1 }.recordTableEntry name
        (state.table name) key).saved := by
  have tables : ∀ other, other ≠ name →
      ({ journal with
          entryCount := journal.entryCount + 1 }.recordTableEntry name
        (state.table name) key).tables other = journal.tables other :=
    fun other different => update_of_ne different _ _
  have here : ({ journal with
        entryCount := journal.entryCount + 1 }.recordTableEntry name
      (state.table name) key).tables name =
        (journal.tables name).record (state.table name) key :=
    update_self _ _ _
  intro component
  cases component with
  | slot other => exact Or.inl rfl
  | constant kind index => exact Or.inl rfl
  | tableValue other otherKey =>
      unfold DeviceStateUndoJournal.saved DeviceState.component
      dsimp only
      by_cases same : other = name
      · subst same
        rw [here]
        by_cases sameKey : otherKey = key
        · subst sameKey
          exact Or.inr ⟨fresh, update_self _ _ _⟩
        · exact Or.inl (update_of_ne sameKey _ _)
      · rw [tables other same]
        exact Or.inl rfl
  | tableWord other word =>
      unfold DeviceStateUndoJournal.saved DeviceState.component
      dsimp only
      by_cases same : other = name
      · subst same
        rw [here]
        unfold TableUndo.record
        dsimp only
        by_cases sameWord : word = StateValueTable.word key
        · subst sameWord
          rw [update_self]
          cases (journal.tables other).words (StateValueTable.word key) with
          | none => exact Or.inr ⟨rfl, rfl⟩
          | some saved => exact Or.inl rfl
        · exact Or.inl (update_of_ne sameWord _ _)
      · rw [tables other same]
        exact Or.inl rfl
  | tableTotals other =>
      unfold DeviceStateUndoJournal.saved DeviceState.component
      dsimp only
      by_cases same : other = name
      · subst same
        rw [here]
        unfold TableUndo.record
        dsimp only
        cases (journal.tables other).metadata with
        | none => exact Or.inr ⟨rfl, rfl⟩
        | some saved => exact Or.inl rfl
      · rw [tables other same]
        exact Or.inl rfl

theorem constantNames_record (kind : ConstantKind) (index : Nat) :
    (journal.recordConstant state kind index).constantNames =
      journal.constantNames ++ [(kind, index)] := List.map_append

theorem savedBytes_append {arena : List UInt8} {entry : ConstantUndo}
    (fits : entry.arenaOffset + entry.byteSize ≤ arena.length)
    {kind : ConstantKind} (size : entry.byteSize = constantSize kind)
    (more : List UInt8) :
    savedBytes (arena ++ more) kind entry = savedBytes arena kind entry := by
  funext byte
  have below := byte.isLt
  unfold savedBytes
  rw [List.getD_eq_getElem?_getD, List.getD_eq_getElem?_getD,
    List.getElem?_append_left (by omega)]

theorem savedBytes_new (arena : List UInt8) (kind : ConstantKind)
    (index : Nat) (bytes : Fin (constantSize kind) → UInt8) :
    savedBytes (arena ++ List.ofFn bytes) kind
      { kind := kind
        index := index
        arenaOffset := arena.length
        byteSize := constantSize kind } = bytes := by
  funext byte
  unfold savedBytes
  dsimp only
  rw [List.getD_eq_getElem?_getD,
    List.getElem?_append_right (Nat.le_add_right _ _),
    Nat.add_sub_cancel_left, List.getElem?_ofFn, dif_pos byte.isLt]
  rfl

/-- A new entry saves its own constant and leaves the others. -/
theorem savedConstant_append {arena : List UInt8}
    {entries : List ConstantUndo} {kind : ConstantKind} {index : Nat}
    (fit : ∀ entry ∈ entries, entry.byteSize = constantSize entry.kind ∧
      entry.arenaOffset + entry.byteSize ≤ arena.length)
    (bytes : Fin (constantSize kind) → UInt8)
    (other : ConstantKind) (number : Nat) :
    savedConstant (arena ++ List.ofFn bytes)
        (entries ++
          [{ kind := kind
             index := index
             arenaOffset := arena.length
             byteSize := constantSize kind }]) other number =
        savedConstant arena entries other number ∨
      savedConstant arena entries other number = none ∧
        ∃ same : kind = other ∧ index = number,
          savedConstant (arena ++ List.ofFn bytes)
            (entries ++
              [{ kind := kind
                 index := index
                 arenaOffset := arena.length
                 byteSize := constantSize kind }]) other number =
            some (same.1 ▸ bytes) := by
  unfold savedConstant
  rw [List.find?_append]
  cases found : entries.find? (·.matches other number) with
  | some entry =>
      left
      obtain ⟨size, fits⟩ := fit entry (List.mem_of_find?_eq_some found)
      have isMatch := @List.find?_some _
        (fun entry : ConstantUndo => entry.matches other number) _ _ found
      have matched := of_decide_eq_true isMatch
      exact congrArg some (savedBytes_append fits
        (size.trans (congrArg constantSize matched.1)) _)
  | none =>
      rw [Option.none_or, List.find?_singleton]
      split
      · rename_i isMatch
        have same := of_decide_eq_true isMatch
        obtain ⟨rfl, rfl⟩ := same
        exact Or.inr ⟨rfl, ⟨rfl, rfl⟩,
          congrArg some (savedBytes_new arena kind index bytes)⟩
      · exact Or.inl rfl

theorem captures_constant (ok : JournalOk journal) (kind : ConstantKind)
    (index : Nat) :
    Memory.Captures journal.saved state.component
      ({ journal with entryCount := journal.entryCount + 1 }.recordConstant
        state kind index).saved := by
  intro component
  cases component with
  | constant other number =>
      have fit : ∀ entry ∈ journal.constants,
          entry.byteSize = constantSize entry.kind ∧
            entry.arenaOffset + entry.byteSize ≤
              journal.constantArena.length :=
        fun entry member => (ok.constants entry member).2
      rcases @savedConstant_append journal.constantArena journal.constants
        kind index fit (state.constants kind index) other number with
        same | ⟨absent, ⟨rfl, rfl⟩, taken⟩
      · exact Or.inl same
      · exact Or.inr ⟨absent, taken⟩
  | _ => exact Or.inl rfl

theorem Saves.captures (ok : JournalOk journal)
    (saves : Saves state journal next) :
    Memory.Captures journal.saved state.component next.saved := by
  cases saves with
  | slot key inside fresh => exact captures_slot key fresh
  | tableEntry name key inside fresh =>
      exact captures_tableEntry name key fresh
  | constant kind index inside fresh =>
      exact captures_constant ok kind index

theorem saved_of_captures (captures : Memory.Captures journal.saved
      state.component next.saved) {component : Component}
    (present : journal.saved component ≠ none) :
    next.saved component ≠ none := by
  rcases captures component with same | ⟨absent, -⟩
  · rw [same]
    exact present
  · exact absurd absent present

/-- One more component takes one more entry. -/
theorem counted_saves (ok : JournalOk journal)
    (captures : Memory.Captures journal.saved state.component next.saved)
    (one : next.entryCount = journal.entryCount + 1) {component : Component}
    (inside : component.InRange) (fresh : journal.saved component = none)
    (present : next.saved component ≠ none) :
    ∃ components : List Component, components.Nodup ∧
      components.length = next.entryCount ∧
      ∀ component ∈ components, component.InRange ∧
        next.saved component ≠ none := by
  obtain ⟨components, distinct, length, saved⟩ := ok.counted
  refine ⟨component :: components, List.nodup_cons.mpr ⟨?_, distinct⟩, ?_, ?_⟩
  · intro member
    exact (saved component member).2 fresh
  · rw [List.length_cons, length, one]
  · intro other member
    rcases List.mem_cons.mp member with rfl | before
    · exact ⟨inside, present⟩
    · exact ⟨(saved other before).1,
        saved_of_captures captures (saved other before).2⟩

theorem isConstantCaptured_record (kind other : ConstantKind)
    (index number : Nat) :
    (journal.recordConstant state kind index).isConstantCaptured other
        number = true ↔
      journal.isConstantCaptured other number = true ∨
        other = kind ∧ number = index := by
  unfold DeviceStateUndoJournal.isConstantCaptured
    DeviceStateUndoJournal.recordConstant
  dsimp only
  by_cases sameKind : other = kind
  · subst sameKind
    rw [update_self]
    by_cases sameWord : number / 64 = index / 64
    · rw [sameWord, update_self, Nat.testBit_or, Bool.or_eq_true,
        Nat.one_shiftLeft, Nat.testBit_two_pow, decide_eq_true_eq]
      apply or_congr_right
      rw [and_iff_right rfl]
      omega
    · rw [update_of_ne sameWord]
      have different : number ≠ index :=
        fun same => sameWord (congrArg (· / 64) same)
      simp only [different, and_false, or_false]
  · rw [update_of_ne sameKind]
    simp only [sameKind, false_and, or_false]

theorem word_lt {table : TableName} {key : Nat}
    (inside : key < table.maxEntries) :
    StateValueTable.word key < table.words := by
  unfold StateValueTable.word TableName.words
  omega

section

variable (ok : JournalOk journal)
include ok

theorem record_words {name : TableName}
    {key word : Nat} (inside : key < name.maxEntries)
    {table : StateValueTable (name.Value T)}
    (present : ((journal.tables name).record table key).words word ≠ none) :
    word < name.words ∧
      ((journal.tables name).record table key).metadata ≠ none := by
  refine ⟨?_, Option.some_ne_none _⟩
  by_cases same : word = StateValueTable.word key
  · rw [same]
    exact word_lt inside
  · unfold TableUndo.record at present
    dsimp only at present
    rw [update_of_ne same] at present
    exact (ok.words name word present).1

theorem record_entries {name : TableName}
    {key other : Nat} (inside : name.InRange ∧ key < name.maxEntries)
    {table : StateValueTable (name.Value T)}
    (present : ((journal.tables name).record table key).entries other ≠ none) :
    name.InRange ∧ other < name.maxEntries ∧
      ((journal.tables name).record table key).words
        (StateValueTable.word other) ≠ none := by
  unfold TableUndo.record at present ⊢
  dsimp only at present ⊢
  have wordSaved : ∀ word, (journal.tables name).words word ≠ none ∨
      word = StateValueTable.word key →
      update (journal.tables name).words (StateValueTable.word key)
        (some (((journal.tables name).words (StateValueTable.word key)).getD
            (table.occupied (StateValueTable.word key),
              table.dirty (StateValueTable.word key)))) word ≠ none := by
    intro word before
    by_cases same : word = StateValueTable.word key
    · subst same
      rw [update_self]
      exact Option.some_ne_none _
    · rw [update_of_ne same]
      exact before.resolve_right same
  by_cases same : other = key
  · subst same
    exact ⟨inside.1, inside.2, wordSaved _ (Or.inr rfl)⟩
  · rw [update_of_ne same] at present
    obtain ⟨table, within, saved⟩ := ok.entries name other present
    exact ⟨table, within, wordSaved _ (Or.inl saved)⟩

theorem JournalOk.saves
    (saves : Saves state journal next) : JournalOk next := by
  have captures := saves.captures ok
  cases saves with
  | slot key inside fresh =>
      refine { ok with slots := ?_, counted := ?_ }
      · intro other present
        by_cases same : other = key
        · rw [same]
          exact inside
        · have before : journal.slots other ≠ none := by
            rw [← @update_of_ne _ _ _ _ _ same
              (some (state.slot key)) journal.slots]
            exact present
          exact ok.slots other before
      · apply counted_saves ok captures rfl
          (show Component.InRange (.slot key) from inside) fresh
        change update journal.slots key _ key ≠ none
        rw [update_self]
        exact Option.some_ne_none _
  | tableEntry name key inside fresh =>
      have tables : ∀ other, other ≠ name →
          ({ journal with
              entryCount := journal.entryCount + 1 }.recordTableEntry name
            (state.table name) key).tables other = journal.tables other :=
        fun other different => update_of_ne different _ _
      have here : ({ journal with
            entryCount := journal.entryCount + 1 }.recordTableEntry name
          (state.table name) key).tables name =
            (journal.tables name).record (state.table name) key :=
        update_self _ _ _
      refine
        { ok with
          entries := ?_
          words := ?_
          totals := ?_
          counted := ?_ }
      · intro other otherKey present
        by_cases same : other = name
        · subst same
          rw [here] at present ⊢
          exact record_entries ok inside present
        · rw [tables other same] at present ⊢
          exact ok.entries other otherKey present
      · intro other word present
        by_cases same : other = name
        · subst same
          rw [here] at present ⊢
          exact record_words ok inside.2 present
        · rw [tables other same] at present ⊢
          exact ok.words other word present
      · intro other present
        by_cases same : other = name
        · rw [same]
          exact inside.1
        · rw [tables other same] at present
          exact ok.totals other present
      · apply counted_saves ok captures rfl
          (show Component.InRange (.tableValue name key) from inside) fresh
        change (TableUndo.entries (_ : TableUndo (name.Value T)) key) ≠ none
        rw [here]
        change update (journal.tables name).entries key _ key ≠ none
        rw [update_self]
        exact Option.some_ne_none _
  | constant kind index inside fresh =>
      have absent : (kind, index) ∉ journal.constantNames := by
        intro member
        rw [(ok.present kind index).mpr member] at fresh
        exact nomatch fresh
      have names : ({ journal with
            entryCount := journal.entryCount + 1 }.recordConstant state kind
          index).constantNames = journal.constantNames ++ [(kind, index)] :=
        constantNames_record kind index
      refine
        { ok with
          constants := ?_
          distinct := ?_
          present := ?_
          arena := ?_
          counted := ?_ }
      · intro entry member
        have length : ({ journal with
              entryCount := journal.entryCount + 1 }.recordConstant state
            kind index).constantArena.length =
              journal.constantArena.length + constantSize kind := by
          change (journal.constantArena ++ List.ofFn _).length = _
          rw [List.length_append, List.length_ofFn]
        rcases List.mem_append.mp member with before | new
        · obtain ⟨within, size, fits⟩ := ok.constants entry before
          refine ⟨within, size, ?_⟩
          omega
        · rw [List.mem_singleton.mp new]
          refine ⟨inside, rfl, ?_⟩
          rw [length]
      · rw [names]
        exact (@List.perm_append_comm _ [(kind, index)] _).nodup_iff.mp
          (List.nodup_cons.mpr ⟨absent, ok.distinct⟩)
      · intro other number
        rw [names, isConstantCaptured_record, List.mem_append,
          List.mem_singleton, Prod.mk.injEq]
        exact or_congr_left (ok.present other number)
      · rw [names, List.map_append, List.sum_append, ← ok.arena]
        change (journal.constantArena ++ List.ofFn _).length = _
        rw [List.length_append, List.length_ofFn]
        rfl
      · apply counted_saves ok captures rfl
          (show Component.InRange (.constant kind index) from inside)
          (saved_constant_none.mpr absent)
        rw [Ne, saved_constant_none, not_not, names]
        exact List.mem_append_right _ (List.mem_singleton.mpr rfl)

end

end Dxmt9.ReplayRollback
