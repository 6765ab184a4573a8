import Dxmt9.ReplayRollback.JournalSaves

/-!
# Captures and restores

A capture saves what it has to, and a restore writes everything that was saved
back: the journal is an undo log of the components of the state.
-/

namespace Dxmt9.ReplayRollback

open Function

variable {T : StateTypes} {journal next : DeviceStateUndoJournal T}
  {state : DeviceState T}

/-! ## Every capture saves -/

/-- A call whose indices are in range. -/
def CaptureCall.Valid : CaptureCall → Prop
  | .light number => number < kMaxLights
  | .lightEnabled number => number < kMaxLights
  | .stream number => number < kMaxStreams
  | .texture number => number < kMaxTextures
  | .renderTarget number => number < kMaxRenderTargets
  | .clipPlane number => number < kMaxClipPlanes
  | .renderState key => key < kMaxStateSlots
  | .textureStageState stage key =>
      stage < kMaxTextureStages ∧ key < kMaxTextureStageStates
  | .samplerState sampler key =>
      sampler < kMaxSamplers ∧ key < kMaxSamplerStates
  | .transform key => key < kMaxTransformSlots
  | .constantRange kind start count =>
      start ≤ constantLimit kind ∧ count ≤ constantLimit kind - start
  | _ => True

/-- A capture that does nothing, or saves what it has to. -/
def CaptureSaves (state : DeviceState T) (journal : DeviceStateUndoJournal T)
    (valid : Prop) (result : DeviceStateUndoJournal T × Bool) : Prop :=
  ¬valid ∧ result = (journal, false) ∨
    valid ∧ result.2 = true ∧
      Relation.ReflTransGen (Saves state) journal result.1

section

variable (ok : JournalOk journal)
include ok

theorem JournalOk.reserve :
    journal.reserveEntry =
      ({ journal with entryCount := journal.entryCount + 1 }, true) :=
  if_neg (Nat.ne_of_lt ok.entryLeft)

theorem captureOnce_saves {captured : Bool}
    {record : DeviceStateUndoJournal T → DeviceStateUndoJournal T}
    (saves : captured = false → Saves state journal
      (record { journal with entryCount := journal.entryCount + 1 })) :
    (journal.captureOnce captured record).2 = true ∧
      Relation.ReflTransGen (Saves state) journal
        (journal.captureOnce captured record).1 := by
  unfold DeviceStateUndoJournal.captureOnce
  rw [ok.reserve]
  cases captured with
  | true => exact ⟨rfl, Relation.ReflTransGen.refl⟩
  | false => exact ⟨rfl, Relation.ReflTransGen.single (saves rfl)⟩

theorem captureSlot_saves {key : SlotKey}
    (inside : key.InRange) {value : key.Value T}
    (isValue : value = state.slot key) :
    (journal.captureSlot key value).2 = true ∧
      Relation.ReflTransGen (Saves state) journal
        (journal.captureSlot key value).1 := by
  subst isValue
  apply captureOnce_saves ok
  intro fresh
  exact Saves.slot journal key inside
    (Option.isNone_iff_eq_none.mp (Option.isSome_eq_false_iff.mp fresh))

/-- A plain component that is always there. -/
theorem captureSlot_valid (key : SlotKey)
    (inside : key.InRange) {value : key.Value T}
    (isValue : value = state.slot key) :
    CaptureSaves state journal True (journal.captureSlot key value) :=
  Or.inr ⟨trivial, captureSlot_saves ok inside isValue⟩

variable {limit number : Nat}

theorem captureElement_saves (key : SlotKey) (inside : number < limit → key.InRange)
    {value : key.Value T} (isValue : value = state.slot key) :
    CaptureSaves state journal (number < limit)
      (if limit ≤ number then (journal, false)
        else journal.captureSlot key value) := by
  split
  · rename_i outside
    exact Or.inl ⟨Nat.not_lt_of_le outside, rfl⟩
  · rename_i within
    exact Or.inr ⟨Nat.lt_of_not_le within,
      captureSlot_saves ok (inside (Nat.lt_of_not_le within)) isValue⟩

theorem captureTableEntry_saves (name : TableName)
    (inside : name.InRange) {table : StateValueTable (name.Value T)}
    (isTable : table = state.table name) (key : Nat) :
    CaptureSaves state journal (key < name.maxEntries)
      (journal.captureTableEntry name table key) := by
  subst isTable
  unfold DeviceStateUndoJournal.captureTableEntry
  split
  · rename_i outside
    exact Or.inl ⟨Nat.not_lt_of_le outside, rfl⟩
  · rename_i within
    refine Or.inr ⟨Nat.lt_of_not_le within, captureOnce_saves ok ?_⟩
    intro fresh
    exact Saves.tableEntry journal name key ⟨inside, Nat.lt_of_not_le within⟩
      (Option.isNone_iff_eq_none.mp (Option.isSome_eq_false_iff.mp fresh))

theorem captureTables_saves (name : TableName) (inside : number < limit → name.InRange)
    {table : StateValueTable (name.Value T)}
    (isTable : table = state.table name) (key : Nat) :
    CaptureSaves state journal (number < limit ∧ key < name.maxEntries)
      (if limit ≤ number then (journal, false)
        else journal.captureTableEntry name table key) := by
  split
  · rename_i outside
    exact Or.inl ⟨fun within => Nat.not_lt_of_le outside within.1, rfl⟩
  · rename_i within
    have below := Nat.lt_of_not_le within
    rcases captureTableEntry_saves ok name (inside below) isTable key with
      ⟨invalid, nothing⟩ | ⟨valid, saves⟩
    · exact Or.inl ⟨fun both => invalid both.2, nothing⟩
    · exact Or.inr ⟨⟨below, valid⟩, saves⟩

variable {kind : ConstantKind}

theorem captureConstant_saves
    {index : Nat} (inside : index < constantLimit kind) :
    (journal.captureConstant state kind index).2 = true ∧
      Relation.ReflTransGen (Saves state) journal
        (journal.captureConstant state kind index).1 := by
  unfold DeviceStateUndoJournal.captureConstant
  rw [if_neg (Nat.not_le_of_lt inside)]
  split
  · exact ⟨rfl, Relation.ReflTransGen.refl⟩
  · rename_i fresh
    rw [Bool.not_eq_true] at fresh
    obtain ⟨entries, bytes⟩ := ok.roomFor inside fresh
    rw [if_neg (by omega), ok.reserve, if_neg Bool.noConfusion]
    exact ⟨rfl, Relation.ReflTransGen.single
      (Saves.constant journal kind index inside fresh)⟩

theorem JournalOk.savesAll
    (saves : Relation.ReflTransGen (Saves state) journal next) :
    JournalOk next := by
  induction saves with
  | refl => exact ok
  | tail _ last induction => exact induction.saves last

theorem captureConstants_saves {indices : List Nat}
    (inside : ∀ index ∈ indices, index < constantLimit kind) :
    (DeviceStateUndoJournal.captureConstants state kind journal indices).2 =
        true ∧
      Relation.ReflTransGen (Saves state) journal
        (DeviceStateUndoJournal.captureConstants state kind journal
          indices).1 := by
  induction indices generalizing journal with
  | nil => exact ⟨rfl, Relation.ReflTransGen.refl⟩
  | cons index rest induction =>
      obtain ⟨accepted, first⟩ := captureConstant_saves ok
        (inside index List.mem_cons_self)
      obtain ⟨others, saves⟩ := induction (ok.savesAll first)
        fun other member => inside other (List.mem_cons_of_mem _ member)
      unfold DeviceStateUndoJournal.captureConstants
      rw [accepted, if_neg Bool.noConfusion]
      exact ⟨others, first.trans saves⟩

theorem capture_saves (call : CaptureCall) :
    CaptureSaves state journal call.Valid (journal.capture state call) := by
  cases call with
  | viewport => exact captureSlot_valid ok .viewport trivial rfl
  | scissor => exact captureSlot_valid ok .scissor trivial rfl
  | material => exact captureSlot_valid ok .material trivial rfl
  | index => exact captureSlot_valid ok .index trivial rfl
  | vertexDeclaration => exact captureSlot_valid ok .vertexDeclaration trivial rfl
  | fvf => exact captureSlot_valid ok .fvf trivial rfl
  | depthStencil => exact captureSlot_valid ok .depthStencil trivial rfl
  | inScene => exact captureSlot_valid ok .inScene trivial rfl
  | shader vertex =>
      apply captureSlot_valid ok (.shader vertex) trivial
      cases vertex <;> rfl
  | light number => exact captureElement_saves ok (.light number) id rfl
  | lightEnabled number => exact captureElement_saves ok (.lightEnabled number) id rfl
  | stream number => exact captureElement_saves ok (.stream number) id rfl
  | texture number => exact captureElement_saves ok (.texture number) id rfl
  | renderTarget number => exact captureElement_saves ok (.renderTarget number) id rfl
  | clipPlane number => exact captureElement_saves ok (.clipPlane number) id rfl
  | renderState key =>
      exact captureTableEntry_saves ok .renderStates trivial rfl key
  | transform key =>
      exact captureTableEntry_saves ok .transforms trivial rfl key
  | textureStageState stage key =>
      exact captureTables_saves ok (.textureStageStates stage) id rfl key
  | samplerState sampler key =>
      exact captureTables_saves ok (.samplerStates sampler) id rfl key
  | constantRange kind start count =>
      change CaptureSaves state journal _
        (journal.captureConstantRange state kind start count)
      unfold DeviceStateUndoJournal.captureConstantRange
      split
      · rename_i outside
        refine Or.inl ⟨?_, rfl⟩
        rintro ⟨startFits, countFits⟩
        omega
      · rename_i within
        rw [not_or, Nat.not_lt, Nat.not_lt] at within
        refine Or.inr ⟨within, captureConstants_saves ok ?_⟩
        intro index member
        obtain ⟨above, below⟩ := List.mem_range'_1.mp member
        omega

theorem JournalOk.capture (call : CaptureCall) :
    JournalOk (journal.capture state call).1 := by
  rcases @capture_saves T journal state ok call with
    ⟨-, nothing⟩ | ⟨-, -, saves⟩
  · rw [nothing]
    exact ok
  · exact ok.savesAll saves

theorem Saves.capturesAll
    (saves : Relation.ReflTransGen (Saves state) journal next) :
    Memory.Captures journal.saved state.component next.saved := by
  induction saves with
  | refl => exact Memory.captures_refl _
  | tail before last induction =>
      exact induction.trans (last.captures (ok.savesAll before))

theorem captures_capture (call : CaptureCall) :
    Memory.Captures journal.saved state.component
      (journal.capture state call).1.saved := by
  rcases @capture_saves T journal state ok call with
    ⟨-, nothing⟩ | ⟨-, -, saves⟩
  · rw [nothing]
    exact Memory.captures_refl _
  · exact Saves.capturesAll ok saves

end

theorem restoreArray_eq {α : Type} {limit : Nat} {saved : Nat → Option α}
    {values : Nat → α}
    (inside : ∀ index, saved index ≠ none → index < limit) (index : Nat) :
    DeviceStateUndoJournal.restoreArray limit saved values index =
      (saved index).getD (values index) := by
  unfold DeviceStateUndoJournal.restoreArray
  split
  · rfl
  · rename_i outside
    have none : saved index = none := by
      by_contra present
      exact outside (inside index present)
    rw [none]
    rfl

theorem JournalOk.noTotals (ok : JournalOk journal) {name : TableName}
    (none : (journal.tables name).metadata = none) :
    (∀ key, (journal.tables name).entries key = Option.none) ∧
      ∀ word, (journal.tables name).words word = Option.none := by
  have words : ∀ word, (journal.tables name).words word = Option.none := by
    intro word
    by_contra present
    exact (ok.words name word present).2 none
  refine ⟨?_, words⟩
  intro key
  by_contra present
  exact (ok.entries name key present).2.2 (words _)

section

variable (ok : JournalOk journal) (name : TableName)
include ok name

theorem restore_table :
    (journal.restore state).table name =
      DeviceStateUndoJournal.restoreTable name.maxEntries
        (journal.tables name) (state.table name) := by
  have outside : ∀ {name : TableName}, ¬name.InRange →
      DeviceStateUndoJournal.restoreTable name.maxEntries
        (journal.tables name) (state.table name) = state.table name := by
    intro name outside
    have none : (journal.tables name).metadata = none := by
      by_contra present
      exact outside (ok.totals name present)
    unfold DeviceStateUndoJournal.restoreTable
    rw [none]
  cases name with
  | renderStates => rfl
  | transforms => rfl
  | textureStageStates stage =>
      by_cases inside : stage < kMaxTextureStages
      · exact if_pos inside
      · exact (if_neg inside).trans
          (@outside (.textureStageStates stage) inside).symm
  | samplerStates sampler =>
      by_cases inside : sampler < kMaxSamplers
      · exact if_pos inside
      · exact (if_neg inside).trans
          (@outside (.samplerStates sampler) inside).symm

theorem restoreTable_values
    (table : StateValueTable (name.Value T)) (key : Nat) :
    (DeviceStateUndoJournal.restoreTable name.maxEntries
        (journal.tables name) table).values key =
      ((journal.tables name).entries key).getD (table.values key) := by
  unfold DeviceStateUndoJournal.restoreTable
  split
  · rename_i none
    rw [(ok.noTotals none).1 key]
    rfl
  · exact restoreArray_eq
      (fun key present => (ok.entries name key present).2.1) key

theorem restoreTable_words
    (table : StateValueTable (name.Value T)) (word : Nat) :
    ((DeviceStateUndoJournal.restoreTable name.maxEntries
          (journal.tables name) table).occupied word,
        (DeviceStateUndoJournal.restoreTable name.maxEntries
          (journal.tables name) table).dirty word) =
      ((journal.tables name).words word).getD
        (table.occupied word, table.dirty word) := by
  have inside : ∀ {β : Type} (part : UInt64 × UInt64 → β) word,
      ((journal.tables name).words word).map part ≠ none →
        word < (name.maxEntries + 63) / 64 := by
    intro β part word present
    apply (ok.words name word ?_).1
    intro absent
    rw [absent] at present
    exact present rfl
  unfold DeviceStateUndoJournal.restoreTable
  split
  · rename_i none
    rw [(ok.noTotals none).2 word]
    rfl
  · dsimp only
    rw [restoreArray_eq (inside (·.1)), restoreArray_eq (inside (·.2))]
    cases (journal.tables name).words word <;> rfl

end

theorem savedConstant_cons (arena : List UInt8) (entry : ConstantUndo)
    (rest : List ConstantUndo) (kind : ConstantKind) (index : Nat) :
    savedConstant arena (entry :: rest) kind index =
      if kind = entry.kind ∧ index = entry.index then
        some (savedBytes arena kind entry)
      else savedConstant arena rest kind index := by
  unfold savedConstant
  by_cases same : kind = entry.kind ∧ index = entry.index
  · have isMatch : entry.matches kind index = true :=
      decide_eq_true ⟨same.1.symm, same.2.symm⟩
    rw [List.find?_cons, isMatch, if_pos same]
    rfl
  · have noMatch : entry.matches kind index = false :=
      decide_eq_false fun matched =>
        same ⟨matched.1.symm, matched.2.symm⟩
    rw [List.find?_cons, noMatch, if_neg same]

/-- The constants that a restore leaves: the entry saved first comes last. -/
theorem restore_constants {entries : List ConstantUndo} (arena : List UInt8)
    (fit : ∀ entry ∈ entries, entry.byteSize = constantSize entry.kind)
    (kind : ConstantKind) (index : Nat) :
    (entries.foldr (DeviceStateUndoJournal.restoreConstant arena)
        state).constants kind index =
      (savedConstant arena entries kind index).getD
        (state.constants kind index) := by
  induction entries with
  | nil => rfl
  | cons entry rest induction =>
      have others := induction fun other member =>
        fit other (List.mem_cons_of_mem _ member)
      have size := fit entry List.mem_cons_self
      rw [List.foldr_cons, savedConstant_cons]
      by_cases same : kind = entry.kind ∧ index = entry.index
      · rw [if_pos same]
        refine (if_pos same).trans ?_
        funext byte
        have inside : byte < entry.byteSize := by
          rw [size, ← same.1]
          exact byte.isLt
        exact if_pos inside
      · rw [if_neg same]
        exact (if_neg same).trans others

theorem restore_components (ok : JournalOk journal) :
    (journal.restore state).component =
      Memory.writeBack journal.saved state.component := by
  have array : ∀ {limit : Nat} (key : Nat → SlotKey)
      (inside : ∀ number, (key number).InRange → number < limit)
      (number : Nat), journal.slots (key number) ≠ none → number < limit :=
    fun key inside number present => inside number (ok.slots _ present)
  funext component
  cases component with
  | slot key =>
      cases key with
      | light number => exact restoreArray_eq (array .light fun _ => id) number
      | lightEnabled number =>
          exact restoreArray_eq (array .lightEnabled fun _ => id) number
      | stream number =>
          have streams := @restoreArray_eq _ kMaxStreams
            (fun number => journal.slots (.stream number))
            (fun number => state.slot (.stream number))
            (array .stream fun _ => id) number
          exact streams
      | texture number =>
          exact restoreArray_eq (array .texture fun _ => id) number
      | renderTarget number =>
          exact restoreArray_eq (array .renderTarget fun _ => id) number
      | clipPlane number =>
          exact restoreArray_eq (array .clipPlane fun _ => id) number
      | shader vertex => cases vertex <;> rfl
      | _ => rfl
  | tableValue name key =>
      change ((journal.restore state).table name).values key = _
      rw [restore_table ok]
      exact restoreTable_values ok name _ key
  | tableWord name word =>
      change (((journal.restore state).table name).occupied word,
        ((journal.restore state).table name).dirty word) = _
      rw [restore_table ok]
      exact restoreTable_words ok name _ word
  | tableTotals name =>
      change (((journal.restore state).table name).count,
        ((journal.restore state).table name).rollingHash) = _
      rw [restore_table ok]
      unfold DeviceStateUndoJournal.restoreTable Memory.writeBack
      split
      · rename_i none
        change _ = (journal.tables name).metadata.getD _
        rw [none]
        rfl
      · rename_i totals some
        change _ = (journal.tables name).metadata.getD _
        rw [some]
        rfl
  | constant kind index =>
      exact restore_constants journal.constantArena
        (fun entry member => (ok.constants entry member).2.1) kind index

end Dxmt9.ReplayRollback
