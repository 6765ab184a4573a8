import Dxmt9.Retainer.PendingCommandRetainer

/-!
# Ownership of the retained objects

One invariant holds of a retainer between calls: each pin is one outstanding
AddRef, and the index and the counters describe the entries.  Every operation
keeps it.
-/

namespace Dxmt9.Retainer

open Dxmt9.Table

/-- The entry was last named in this epoch. -/
def stamped (epoch : UInt64) (entry : Entry) : Bool :=
  entry.lastTouchedEpoch == epoch

/-- The entry survives the end of this epoch. -/
def warm (epoch : UInt64) (entry : Entry) : Bool :=
  epoch - entry.lastTouchedEpoch ≤ kWarmEpochs

def addRefs (crossings : List Crossing) (key : Key) : Nat :=
  crossings.count (.addRef key)

def releases (crossings : List Crossing) (key : Key) : Nat :=
  crossings.count (.release key)

/-! ## Epochs

Epochs wrap; the distance between two of them does not notice. -/

variable {epoch : UInt64} {entry : Entry}

theorem stamped_iff :
    stamped epoch entry = true ↔ entry.lastTouchedEpoch = epoch := by
  simp [stamped]

theorem warm_iff :
    warm epoch entry = true ↔
      stamped epoch entry = true ∨ stamped (epoch - 1) entry = true := by
  have unfolded : warm epoch entry = true ↔
      epoch - entry.lastTouchedEpoch ≤ 1 := decide_eq_true_iff
  rw [stamped_iff, stamped_iff, unfolded]
  generalize entry.lastTouchedEpoch = last
  constructor
  · intro recent
    have cases : epoch - last = 0 ∨ epoch - last = 1 := by
      have one : (1 : UInt64).toNat = 1 := rfl
      have zero : (0 : UInt64).toNat = 0 := rfl
      rw [UInt64.le_iff_toNat_le] at recent
      rw [← UInt64.toNat_inj, ← UInt64.toNat_inj]
      omega
    grind
  · rintro (rfl | rfl)
    · simp
    · have apart : epoch - (epoch - 1) = 1 := by grind
      rw [apart]
      exact UInt64.le_refl 1

theorem sub_eq_one_iff {last : UInt64} :
    epoch - last = 1 ↔ last = epoch - 1 := by
  grind

theorem not_both_stamped
    (current : stamped epoch entry = true) :
    stamped (epoch - 1) entry = false := by
  rw [stamped_iff] at current
  rw [Bool.eq_false_iff, Ne, stamped_iff, current]
  grind

theorem not_stamped_next
    (survives : warm epoch entry = true) :
    stamped (epoch + 1) entry = false := by
  rw [warm_iff, stamped_iff, stamped_iff] at survives
  rw [Bool.eq_false_iff, Ne, stamped_iff]
  rcases survives with equal | equal
  · rw [equal]
    grind
  · rw [equal]
    grind

/-- What holds of a retainer between two calls. -/
structure Kept (retainer : PendingCommandRetainer) : Prop where
  unique : retainer.keys.Nodup
  exact : retainer.index.Exact retainer.keys
  retainable : ∀ entry ∈ retainer.entries, isRetainable entry.kind = true
  current : retainer.currentTouchedCount =
    retainer.entries.countP (stamped retainer.epoch)
  previous : retainer.previousTouchedCount =
    retainer.entries.countP (stamped (retainer.epoch - 1))
  ledger : ∀ key, addRefs retainer.crossings key =
    releases retainer.crossings key + retainer.keys.count key

namespace PendingCommandRetainer

theorem construct_kept (arena : Arena) (capacity : Nat) (epoch : UInt64)
    (allocated : Bool) : Kept (construct arena capacity epoch allocated) := by
  unfold construct
  split
  · constructor
    · exact List.nodup_nil
    · exact RetentionIndex.reserveForEntries_exact capacity
    · exact fun _ member => absurd member List.not_mem_nil
    · rfl
    · rfl
    · exact fun _ => rfl
  · constructor
    · exact List.nodup_nil
    · exact RetentionIndex.blank_exact (Or.inl rfl)
    · exact fun _ member => absurd member List.not_mem_nil
    · rfl
    · rfl
    · exact fun _ => rfl

section

variable (retainer : PendingCommandRetainer) (position : Nat)
include retainer position

@[simp] theorem touch_epoch : (retainer.touch position).epoch = retainer.epoch := by
  unfold touch
  split
  · rfl
  · split
    · rfl
    · rfl

/-- A touch writes at most the stamp of one entry. -/
theorem touch_entries :
    ∀ other, (retainer.touch position).entries[other]? =
      (retainer.entries[other]?).map fun entry =>
        if other = position then
          { entry with lastTouchedEpoch := retainer.epoch }
        else entry := by
  intro other
  unfold touch
  split
  · rename_i outside
    by_cases same : other = position
    · rw [same, outside]
      rfl
    · simp [same]
  · rename_i entry present
    have bound := (List.getElem?_eq_some_iff.mp present).1
    split
    · rename_i current
      by_cases same : other = position
      · rw [same, present, ← current]
        simp
      · simp [same]
    · rw [List.getElem?_set, if_pos bound]
      by_cases same : position = other
      · subst same
        simp [present]
      · simp [same, Ne.symm same]

theorem touch_keys : (retainer.touch position).keys = retainer.keys := by
  unfold keys
  apply List.ext_getElem?
  intro other
  rw [List.getElem?_map, List.getElem?_map, touch_entries, Option.map_map]
  congr 1
  funext entry
  simp only [Function.comp_apply]
  split
  · rfl
  · rfl

end

variable {retainer : PendingCommandRetainer}

theorem touch_kept
    (kept : Kept retainer) (position : Nat) :
    Kept (retainer.touch position) := by
  have sameKeys := touch_keys retainer position
  unfold touch at *
  split
  · exact kept
  · rename_i entry present
    split
    · exact kept
    · rename_i older
      rw [present] at sameKeys
      simp only [if_neg older] at sameKeys
      have countCurrent := countP_set_add
        { entry with lastTouchedEpoch := retainer.epoch }
        (stamped retainer.epoch) present
      have countPrevious := countP_set_add
        { entry with lastTouchedEpoch := retainer.epoch }
        (stamped (retainer.epoch - 1)) present
      have now : stamped retainer.epoch
          { entry with lastTouchedEpoch := retainer.epoch } = true :=
        stamped_iff.mpr rfl
      have wasOlder : stamped retainer.epoch entry = false := by
        rw [Bool.eq_false_iff, Ne, stamped_iff]
        exact older
      rw [now, wasOlder, ← kept.current] at countCurrent
      rw [not_both_stamped now, ← kept.previous] at countPrevious
      constructor
      · rw [sameKeys]
        exact kept.unique
      · rw [sameKeys]
        exact kept.exact
      · intro other member
        rcases List.mem_or_eq_of_mem_set member with old | rfl
        · exact kept.retainable other old
        · exact kept.retainable entry (List.mem_of_getElem? present)
      · exact countCurrent.symm
      · simp only [sub_eq_one_iff, ← @stamped_iff _ entry]
        split
        · rename_i wasPrevious
          rw [wasPrevious] at countPrevious
          exact Nat.sub_eq_of_eq_add countPrevious.symm
        · rename_i notPrevious
          rw [Bool.eq_false_iff.mpr notPrevious] at countPrevious
          exact countPrevious.symm
      · intro key
        rw [sameKeys]
        exact kept.ledger key

theorem acquire_keys (arena : Arena) (retainer : PendingCommandRetainer)
    (key : Key) : (retainer.acquire arena key).keys = retainer.keys ++ [key] :=
  List.map_append

variable {key : Key}

theorem indexAppended_exact
    (kept : Kept retainer) (fresh : key ∉ retainer.keys) :
    (retainer.indexAppended key).Exact (retainer.keys ++ [key]) := by
  unfold indexAppended
  split
  · apply kept.exact.rebuildFrom
    rw [List.nodup_append_comm]
    exact List.nodup_cons.mpr ⟨fresh, kept.unique⟩
  · rename_i roomy
    rw [not_or, Nat.not_le] at roomy
    have bounded := countP_isOccupied_le retainer.index.slots
    rw [← kept.exact.occupied, ← kept.exact.used] at bounded
    have result := kept.exact.insertRaw fresh (by omega)
    rw [keys, List.length_map] at result
    exact result

theorem acquire_kept
    (kept : Kept retainer) (arena : Arena)
    (isKind : isRetainable key.kind = true) (fresh : key ∉ retainer.keys) :
    Kept (retainer.acquire arena key) := by
  constructor
  · rw [acquire_keys, List.nodup_append_comm]
    exact List.nodup_cons.mpr ⟨fresh, kept.unique⟩
  · rw [acquire_keys]
    exact indexAppended_exact kept fresh
  · intro entry member
    rcases List.mem_append.mp member with old | new
    · exact kept.retainable entry old
    · rw [List.mem_singleton.mp new]
      exact isKind
  · simp [acquire, kept.current, stamped]
  · have earlier : ¬ retainer.epoch = retainer.epoch - 1 := by grind
    simp [acquire, kept.previous, stamped, earlier]
  · intro other
    rw [acquire_keys, List.count_append]
    have before := kept.ledger other
    simp only [acquire, addRefs, releases, List.count_append] at before ⊢
    by_cases same : key = other
    · subst same
      simp
      omega
    · simp [same]
      omega

/-- The three outcomes of a retention: nothing, a touch or a new entry. -/
theorem retainImpl_cases (arena : Arena) (retainer : PendingCommandRetainer)
    (key : Key) (bounded : Bool) (capacity : Nat) (faulted : Bool) :
    let result := retainer.retainImpl arena key bounded capacity faulted
    (result.2 = retainer ∧ (result.1 = true → key.ptr = 0)) ∨
      (∃ position, retainer.index.find key = some position ∧
        result.2 = retainer.touch position) ∨
      (retainer.index.find key = none ∧
        result.2 = retainer.acquire arena key) := by
  unfold retainImpl
  split
  · exact Or.inl ⟨rfl, nofun⟩
  · split
    · rename_i null
      exact Or.inl ⟨rfl, fun _ => null⟩
    · split
      · rename_i position found
        exact Or.inr (Or.inl ⟨position, found, rfl⟩)
      · rename_i missing
        split
        · exact Or.inl ⟨rfl, nofun⟩
        · split
          · exact Or.inl ⟨rfl, nofun⟩
          · exact Or.inr (Or.inr ⟨missing, rfl⟩)

theorem retainImpl_kept
    (kept : Kept retainer) (arena : Arena)
    (isKind : isRetainable key.kind = true) (bounded : Bool)
    (capacity : Nat) (faulted : Bool) :
    Kept (retainer.retainImpl arena key bounded capacity faulted).2 := by
  rcases retainImpl_cases arena retainer key bounded capacity faulted with
    ⟨same, _⟩ | ⟨position, _, touched⟩ | ⟨missing, acquired⟩
  · rw [same]
    exact kept
  · rw [touched]
    exact touch_kept kept position
  · rw [acquired]
    exact acquire_kept kept arena isKind
      (kept.exact.find_eq_none_iff.mp missing)

/-! ## Releasing -/

variable {entry : Entry}

theorem release_eq
    (isKind : isRetainable entry.kind = true) :
    release entry = [.release entry.key] := by
  rw [release, if_pos isKind]

variable {front : List Entry}

theorem popBack_eq (split : retainer.entries = front ++ [entry]) :
    retainer.popBack =
      { retainer with
        entries := front
        index := retainer.index.erase entry.key
        currentTouchedCount := retainer.currentTouchedCount - 1
        crossings := retainer.crossings ++ release entry } := by
  unfold popBack
  rw [split]
  simp

/-- Popping an entry of the current epoch takes back its AddRef. -/
theorem popBack_kept
    (kept : Kept retainer) (split : retainer.entries = front ++ [entry])
    (current : stamped retainer.epoch entry = true) :
    Kept retainer.popBack := by
  have allKeys : retainer.keys = front.map Entry.key ++ [entry.key] := by
    rw [keys, split, List.map_append]
    rfl
  have unique := kept.unique
  rw [allKeys, List.nodup_append_comm] at unique
  obtain ⟨fresh, rest⟩ := List.nodup_cons.mp unique
  rw [popBack_eq split]
  constructor
  · exact rest
  · exact (allKeys ▸ kept.exact).erase fresh
  · intro other member
    apply kept.retainable
    rw [split]
    exact List.mem_append_left _ member
  · have count := kept.current
    rw [split, List.countP_append] at count
    simp only [List.countP_cons_of_pos current, List.countP_nil] at count
    exact Nat.sub_eq_of_eq_add count
  · have count := kept.previous
    rw [split, List.countP_append] at count
    simpa [not_both_stamped current] using count
  · intro other
    have before := kept.ledger other
    have isKind : isRetainable entry.kind = true := by
      apply kept.retainable
      rw [split]
      exact List.mem_append_right _ List.mem_cons_self
    rw [allKeys, List.count_append] at before
    simp only [addRefs, releases, release_eq isKind, List.count_append,
      keys] at before ⊢
    by_cases same : entry.key = other
    · simp [same] at before ⊢
      omega
    · simp [same] at before ⊢
      omega

theorem popDownTo_epoch (checkpoint rounds : Nat)
    (retainer : PendingCommandRetainer) :
    (popDownTo checkpoint rounds retainer).epoch = retainer.epoch := by
  induction rounds generalizing retainer with
  | zero => rfl
  | succ rounds induction =>
      unfold popDownTo
      split
      · rw [induction, popBack]
        split
        · rfl
        · rfl
      · rfl

/-- Entries from the checkpoint on belong to the current epoch. -/
def FreshFrom (retainer : PendingCommandRetainer) (checkpoint : Nat) :
    Prop :=
  ∀ (position : Nat) (entry : Entry), checkpoint ≤ position →
    retainer.entries[position]? = some entry →
    stamped retainer.epoch entry = true

/-- The rollback loop keeps the invariant and exactly the entries below the
checkpoint. -/
theorem popDownTo_kept {checkpoint rounds : Nat} (kept : Kept retainer)
    (fresh : retainer.FreshFrom checkpoint)
    (enough : retainer.entries.length ≤ rounds) :
    Kept (popDownTo checkpoint rounds retainer) ∧
      (popDownTo checkpoint rounds retainer).entries =
        retainer.entries.take checkpoint := by
  induction rounds generalizing retainer with
  | zero =>
      refine ⟨kept, (List.take_of_length_le ?_).symm⟩
      exact Nat.le_trans enough (Nat.zero_le checkpoint)
  | succ rounds induction =>
      unfold popDownTo
      split
      · rename_i above
        obtain nil | ⟨front, entry, split⟩ :=
          List.eq_nil_or_concat retainer.entries
        · rw [nil] at above
          contradiction
        · rw [List.concat_eq_append] at split
          have size : retainer.entries.length = front.length + 1 := by
            rw [split, List.length_append]
            rfl
          have below : ∀ {position : Nat} {other : Entry},
              front[position]? = some other →
              retainer.entries[position]? = some other := by
            intro position other present
            have bound := (List.getElem?_eq_some_iff.mp present).1
            rw [split, List.getElem?_append_left bound]
            exact present
          have last : stamped retainer.epoch entry = true := by
            apply fresh front.length entry
            · omega
            · rw [split]
              simp
          have popped := popBack_kept kept split last
          rw [popBack_eq split] at popped ⊢
          obtain ⟨finallyKept, entries⟩ := induction popped
            (fun position other inside present =>
              fresh position other inside (below present))
            (by simp only; omega)
          refine ⟨finallyKept, entries.trans ?_⟩
          rw [split, List.take_append_of_le_length]
          omega
      · rename_i notAbove
        exact ⟨kept, (List.take_of_length_le (Nat.not_lt.mp notAbove)).symm⟩

theorem releases_flatMap {entries : List Entry}
    (retainable : ∀ entry ∈ entries, isRetainable entry.kind = true)
    (key : Key) :
    releases (entries.flatMap release) key =
      (entries.map Entry.key).count key := by
  induction entries with
  | nil => rfl
  | cons entry rest induction =>
      have tail := induction fun other member =>
        retainable other (List.mem_cons_of_mem entry member)
      rw [List.flatMap_cons, List.map_cons,
        release_eq (retainable entry List.mem_cons_self)]
      unfold releases at tail ⊢
      by_cases same : entry.key = key
      · simp [same, tail]
      · simp [same, tail]

theorem addRefs_flatMap (entries : List Entry) (key : Key) :
    addRefs (entries.flatMap release) key = 0 := by
  unfold addRefs
  rw [List.count_eq_zero, List.mem_flatMap]
  rintro ⟨entry, _, member⟩
  unfold release at member
  split at member
  · simp at member
  · simp at member

theorem clear_kept
    (kept : Kept retainer) : Kept retainer.clear := by
  constructor
  · exact List.nodup_nil
  · exact kept.exact.clear
  · exact fun _ member => absurd member List.not_mem_nil
  · rfl
  · rfl
  · intro key
    have before := kept.ledger key
    have retainable : ∀ entry ∈ retainer.entries.reverse,
        isRetainable entry.kind = true := fun entry member =>
      kept.retainable entry (List.mem_reverse.mp member)
    have released := releases_flatMap retainable key
    have untouched := addRefs_flatMap retainer.entries.reverse key
    rw [List.map_reverse, List.count_reverse] at released
    simp only [clear, addRefs, releases, List.count_append, keys,
      List.map_nil, List.count_nil] at before released untouched ⊢
    omega

/-! ## Closing an epoch -/

theorem foldl_scanEntry (epoch : UInt64) (entries : List Entry)
    (scan : Scan) :
    entries.foldl (scanEntry epoch) scan =
      { kept := scan.kept ++ entries.filter (warm epoch)
        crossings := scan.crossings ++
          (entries.filter fun entry => !warm epoch entry).flatMap release
        expired := scan.expired || !entries.all (warm epoch)
        survivingCurrent := scan.survivingCurrent +
          entries.countP (stamped epoch) } := by
  induction entries generalizing scan with
  | nil => simp
  | cons entry rest induction =>
      rw [List.foldl_cons, induction]
      unfold scanEntry
      split
      · rename_i survives
        have isWarm : warm epoch entry = true := decide_eq_true survives
        by_cases current : entry.lastTouchedEpoch = epoch
        · simp [isWarm, current, stamped, Nat.add_assoc, Nat.add_comm 1]
        · simp [isWarm, current, stamped]
      · rename_i expires
        have isCold : warm epoch entry = false := decide_eq_false expires
        have older : stamped epoch entry = false := by
          cases known : stamped epoch entry with
          | false => rfl
          | true => rw [warm_iff.mpr (Or.inl known)] at isCold; contradiction
        simp [isCold, older]

theorem endEpochScan_eq (retainer : PendingCommandRetainer) :
    retainer.endEpochScan =
      { retainer with
        entries := retainer.entries.filter (warm retainer.epoch)
        previousTouchedCount :=
          retainer.entries.countP (stamped retainer.epoch)
        currentTouchedCount := 0
        index :=
          if !retainer.entries.all (warm retainer.epoch) ||
              retainer.index.used != retainer.index.occupied then
            retainer.index.rebuildFrom
              ((retainer.entries.filter (warm retainer.epoch)).map Entry.key)
          else retainer.index
        epoch := retainer.epoch + 1
        crossings := retainer.crossings ++
          (retainer.entries.filter fun entry =>
            !warm retainer.epoch entry).flatMap release } := by
  unfold endEpochScan
  rw [foldl_scanEntry]
  simp

/-- A count splits over the survivors and the expired. -/
theorem count_keys_filter (entries : List Entry) (keep : Entry → Bool)
    (key : Key) :
    (entries.map Entry.key).count key =
      ((entries.filter keep).map Entry.key).count key +
        ((entries.filter fun entry => !keep entry).map
          Entry.key).count key := by
  rw [← List.count_append, ← List.map_append]
  exact (((List.filter_append_perm keep entries).map _).count_eq key).symm

theorem endEpochScan_kept
    (kept : Kept retainer) : Kept retainer.endEpochScan := by
  have unique : ((retainer.entries.filter (warm retainer.epoch)).map
      Entry.key).Nodup :=
    kept.unique.sublist (List.filter_sublist.map _)
  have currentWarm : ∀ entry, stamped retainer.epoch entry = true →
      warm retainer.epoch entry = true :=
    fun _ current => warm_iff.mpr (Or.inl current)
  rw [endEpochScan_eq]
  constructor
  · exact unique
  · simp only [keys]
    split
    · exact kept.exact.rebuildFrom unique
    · rename_i unchanged
      rw [Bool.or_eq_true, not_or] at unchanged
      have all : ∀ entry ∈ retainer.entries,
          warm retainer.epoch entry = true := by
        simpa using unchanged.1
      rw [List.filter_eq_self.mpr all]
      exact kept.exact
  · intro entry member
    exact kept.retainable entry (List.mem_of_mem_filter member)
  · symm
    rw [List.countP_eq_zero]
    intro entry member
    rw [Bool.not_eq_true]
    exact not_stamped_next (List.mem_filter.mp member).2
  · have previousEpoch : retainer.epoch + 1 - 1 = retainer.epoch := by grind
    simp only [previousEpoch]
    rw [List.countP_filter]
    apply List.countP_congr
    intro entry _
    rw [Bool.and_eq_true]
    exact ⟨fun current => ⟨current, currentWarm entry current⟩, And.left⟩
  · intro key
    have before := kept.ledger key
    have parts := count_keys_filter retainer.entries (warm retainer.epoch) key
    have retainable : ∀ entry ∈ retainer.entries.filter (fun entry =>
        !warm retainer.epoch entry), isRetainable entry.kind = true :=
      fun entry member =>
        kept.retainable entry (List.mem_of_mem_filter member)
    have released := releases_flatMap retainable key
    have untouched := addRefs_flatMap (retainer.entries.filter fun entry =>
      !warm retainer.epoch entry) key
    simp only [addRefs, releases, List.count_append, keys] at *
    omega

theorem countP_warm (epoch : UInt64) (entries : List Entry) :
    entries.countP (warm epoch) = entries.countP (stamped epoch) +
      entries.countP (stamped (epoch - 1)) := by
  induction entries with
  | nil => rfl
  | cons entry rest induction =>
      rw [List.countP_cons, List.countP_cons, List.countP_cons, induction]
      have either : warm epoch entry =
          (stamped epoch entry || stamped (epoch - 1) entry) := by
        rw [Bool.eq_iff_iff, Bool.or_eq_true]
        exact warm_iff
      cases current : stamped epoch entry with
      | true =>
          simp [either, current, not_both_stamped current, Nat.add_right_comm]
      | false => simp [either, current, Nat.add_assoc]

section

variable (kept : Kept retainer)
  (covered : retainer.currentTouchedCount + retainer.previousTouchedCount =
    retainer.entries.length)
include kept covered

theorem all_warm :
    ∀ entry ∈ retainer.entries, warm retainer.epoch entry = true := by
  rw [kept.current, kept.previous, ← countP_warm] at covered
  exact List.countP_eq_length.mp covered

/-- The fast path leaves the state that the full scan would leave. -/
theorem endEpochUnexpired_eq :
    retainer.endEpochUnexpired = retainer.endEpochScan := by
  have all := all_warm kept covered
  have noneExpired : (retainer.entries.filter fun entry =>
      !warm retainer.epoch entry) = [] := by
    rw [List.filter_eq_nil_iff]
    intro entry member
    simp [all entry member]
  have allTrue : retainer.entries.all (warm retainer.epoch) = true :=
    List.all_eq_true.mpr all
  rw [endEpochScan_eq, List.filter_eq_self.mpr all, noneExpired, allTrue,
    ← kept.current]
  simp [endEpochUnexpired, keys]

end

theorem endEpoch_eq
    (kept : Kept retainer) : retainer.endEpoch = retainer.endEpochScan := by
  unfold endEpoch
  split
  · exact endEpochUnexpired_eq kept ‹_›
  · rfl

theorem endEpoch_kept
    (kept : Kept retainer) : Kept retainer.endEpoch := by
  rw [endEpoch_eq kept]
  exact endEpochScan_kept kept

end PendingCommandRetainer

end Dxmt9.Retainer
