import Dxmt9.Retainer.Ownership

/-!
# Warm pins

In every session the retainer keeps its invariant, because a rollback never
crosses the end of an epoch.  A pin then outlives the two epochs after the one
that last named its object.
-/

namespace Dxmt9.Retainer

namespace Session

/-- The retainer is kept, and what was acquired after an outstanding
checkpoint belongs to the current epoch. -/
structure Invariant (session : Session) : Prop where
  kept : Kept session.retainer
  fresh : ∀ checkpoint ∈ session.outstanding,
    session.retainer.FreshFrom checkpoint

theorem construct_invariant (arena : Arena) (capacity : Nat)
    (epoch : UInt64) (allocated : Bool) :
    (construct arena capacity epoch allocated).Invariant where
  kept := PendingCommandRetainer.construct_kept arena capacity epoch allocated
  fresh _ member := absurd member List.not_mem_nil

variable {retainer : PendingCommandRetainer} {checkpoint : Nat}

section

variable (fresh : retainer.FreshFrom checkpoint)
include fresh

theorem touch_freshFrom
    (position : Nat) : (retainer.touch position).FreshFrom checkpoint := by
  intro other entry inside present
  rw [PendingCommandRetainer.touch_entries, Option.map_eq_some_iff] at present
  obtain ⟨old, stored, rfl⟩ := present
  rw [PendingCommandRetainer.touch_epoch]
  split
  · exact stamped_iff.mpr rfl
  · exact fresh other old inside stored

theorem acquire_freshFrom
    (arena : Arena) (key : Key) :
    (retainer.acquire arena key).FreshFrom checkpoint := by
  intro position entry inside present
  simp only [PendingCommandRetainer.acquire] at present ⊢
  rcases Nat.lt_or_ge position retainer.entries.length with old | new
  · rw [List.getElem?_append_left old] at present
    exact fresh position entry inside present
  · rw [List.getElem?_append_right new] at present
    have member := List.mem_of_getElem? present
    rw [List.mem_singleton.mp member]
    exact stamped_iff.mpr rfl

theorem retainImpl_freshFrom
    (arena : Arena) (key : Key) (bounded : Bool) (capacity : Nat)
    (faulted : Bool) :
    (retainer.retainImpl arena key bounded capacity faulted).2.FreshFrom
      checkpoint := by
  rcases PendingCommandRetainer.retainImpl_cases arena retainer key bounded
    capacity faulted with
    ⟨same, _⟩ | ⟨position, _, touched⟩ | ⟨_, acquired⟩
  · rw [same]
    exact fresh
  · rw [touched]
    exact touch_freshFrom fresh position
  · rw [acquired]
    exact acquire_freshFrom fresh arena key

end

variable {session : Session} {key : Key}

theorem Invariant.retain (invariant : session.Invariant)
    (arena : Arena) (isKind : isRetainable key.kind = true)
    (bounded : Bool) (capacity : Nat) (faulted : Bool) :
    Invariant { session with
      retainer := (session.retainer.retainImpl arena key bounded capacity
        faulted).2 } where
  kept := PendingCommandRetainer.retainImpl_kept invariant.kept arena isKind
    bounded capacity faulted
  fresh checkpoint member :=
    retainImpl_freshFrom (invariant.fresh checkpoint member) arena key bounded
      capacity faulted

theorem Invariant.rollback
    (invariant : session.Invariant)
    (outstanding : checkpoint ∈ session.outstanding) :
    Invariant { session with
      retainer := session.retainer.rollback checkpoint } := by
  obtain ⟨kept, entries⟩ := PendingCommandRetainer.popDownTo_kept
    invariant.kept (invariant.fresh checkpoint outstanding) (Nat.le_refl _)
  constructor
  · exact kept
  · intro other member position entry inside present
    have epoch := PendingCommandRetainer.popDownTo_epoch checkpoint
      session.retainer.entries.length session.retainer
    unfold PendingCommandRetainer.rollback at *
    rw [entries, List.getElem?_take] at present
    rw [epoch]
    split at present
    · exact invariant.fresh other member position entry inside present
    · contradiction

variable {arena : Arena} {next : Session} {call : Call}

/-- Every call keeps the invariant. -/
theorem Invariant.step
    (invariant : session.Invariant)
    (stepped : session.step arena call = some next) : next.Invariant := by
  cases call with
  | retain kind object faulted =>
      obtain rfl := Option.some.inj stepped
      unfold PendingCommandRetainer.retainWireObject
      split
      · rename_i isKind
        exact invariant.retain arena isKind false 0 faulted
      · exact invariant
  | retainBounded kind object capacity faulted =>
      obtain rfl := Option.some.inj stepped
      unfold PendingCommandRetainer.retainWireObjectBounded
      split
      · rename_i isKind
        exact invariant.retain arena isKind true capacity faulted
      · exact invariant
  | beginAcquire =>
      obtain rfl := Option.some.inj stepped
      constructor
      · exact invariant.kept
      · intro checkpoint member
        rcases List.mem_cons.mp member with rfl | older
        · intro position entry outside present
          have bound := (List.getElem?_eq_some_iff.mp present).1
          exact absurd bound (Nat.not_lt.mpr outside)
        · exact invariant.fresh checkpoint older
  | rollback checkpoint =>
      simp only [Session.step, Option.ite_none_right_eq_some] at stepped
      obtain ⟨outstanding, equal⟩ := stepped
      obtain rfl := Option.some.inj equal
      exact invariant.rollback outstanding
  | endEpoch =>
      obtain rfl := Option.some.inj stepped
      constructor
      · exact PendingCommandRetainer.endEpoch_kept invariant.kept
      · exact fun _ member => absurd member List.not_mem_nil
  | clear =>
      obtain rfl := Option.some.inj stepped
      constructor
      · exact PendingCommandRetainer.clear_kept invariant.kept
      · intro _ _ position entry _ present
        simp [PendingCommandRetainer.clear] at present

variable {final : Session} {calls : List Call}

/-- Every reachable session satisfies the invariant. -/
theorem Invariant.run (invariant : session.Invariant)
    (ran : session.run arena calls = some final) : final.Invariant := by
  induction calls generalizing session with
  | nil =>
      obtain rfl := Option.some.inj ran
      exact invariant
  | cons call rest induction =>
      obtain ⟨next, stepped, ran⟩ := Option.bind_eq_some_iff.mp ran
      exact induction (invariant.step stepped) ran

/-! ## Pins outlive two epochs -/

/-- The object has an entry named at most `idle` epochs ago. -/
def Pinned (retainer : PendingCommandRetainer) (key : Key) (idle : Nat) :
    Prop :=
  ∃ entry ∈ retainer.entries, entry.key = key ∧
    (retainer.epoch - entry.lastTouchedEpoch).toNat ≤ idle

variable {idle : Nat}

theorem Pinned.mem_keys (pinned : Pinned retainer key idle) :
    key ∈ retainer.keys := by
  obtain ⟨entry, member, rfl, _⟩ := pinned
  exact List.mem_map_of_mem member

theorem Pinned.touch (pinned : Pinned retainer key idle) (position : Nat) :
    Pinned (retainer.touch position) key idle := by
  obtain ⟨entry, member, named, recent⟩ := pinned
  obtain ⟨other, present⟩ := List.mem_iff_getElem?.mp member
  have stored := PendingCommandRetainer.touch_entries retainer position other
  rw [present, Option.map_some] at stored
  refine ⟨_, List.mem_of_getElem? stored, ?_, ?_⟩
  · rw [← named]
    split
    · rfl
    · rfl
  · rw [PendingCommandRetainer.touch_epoch]
    split
    · simp
    · exact recent

theorem pinned_touch_self
    {position : Nat} (listed : retainer.keys[position]? = some key) :
    Pinned (retainer.touch position) key 0 := by
  rw [PendingCommandRetainer.keys, List.getElem?_map,
    Option.map_eq_some_iff] at listed
  obtain ⟨entry, present, named⟩ := listed
  have stored :=
    PendingCommandRetainer.touch_entries retainer position position
  rw [present, Option.map_some, if_pos rfl] at stored
  refine ⟨_, List.mem_of_getElem? stored, named, ?_⟩
  simp

theorem pinned_acquire_self (retainer : PendingCommandRetainer)
    (arena : Arena) (key : Key) :
    Pinned (retainer.acquire arena key) key 0 := by
  refine ⟨_, List.mem_append_right _ List.mem_cons_self, rfl, ?_⟩
  simp [PendingCommandRetainer.acquire]

theorem Pinned.retainImpl (pinned : Pinned retainer key idle) (arena : Arena)
    (other : Key) (bounded : Bool) (capacity : Nat) (faulted : Bool) :
    Pinned (retainer.retainImpl arena other bounded capacity faulted).2 key
      idle := by
  rcases PendingCommandRetainer.retainImpl_cases arena retainer other bounded
    capacity faulted with
    ⟨same, _⟩ | ⟨position, _, touched⟩ | ⟨_, acquired⟩
  · rw [same]
    exact pinned
  · rw [touched]
    exact pinned.touch position
  · rw [acquired]
    obtain ⟨entry, member, rest⟩ := pinned
    exact ⟨entry, List.mem_append_left _ member, rest⟩

/-- Accepting an object pins it in the current epoch. -/
theorem pinned_of_accepted
    (kept : Kept retainer) {bounded : Bool}
    {capacity : Nat} {faulted : Bool} (object : key.ptr ≠ 0)
    (accepted :
      (retainer.retainImpl arena key bounded capacity faulted).1 = true) :
    Pinned (retainer.retainImpl arena key bounded capacity faulted).2 key
      0 := by
  rcases PendingCommandRetainer.retainImpl_cases arena retainer key bounded
    capacity faulted with
    ⟨_, null⟩ | ⟨position, found, touched⟩ | ⟨_, acquired⟩
  · exact absurd (null accepted) object
  · rw [touched]
    exact pinned_touch_self (kept.exact.find_eq_some_iff.mp found)
  · rw [acquired]
    exact pinned_acquire_self retainer arena key

theorem entry_unique
    (kept : Kept retainer) {left right : Entry}
    (leftMember : left ∈ retainer.entries)
    (rightMember : right ∈ retainer.entries) (same : left.key = right.key) :
    left = right :=
  List.inj_on_of_nodup_map kept.unique leftMember rightMember same

theorem Pinned.rollback (invariant : session.Invariant)
    (pinned : Pinned session.retainer key idle)
    (outstanding : checkpoint ∈ session.outstanding)
    (spared : key ∈ (session.retainer.entries.take checkpoint).map Entry.key) :
    Pinned (session.retainer.rollback checkpoint) key idle := by
  obtain ⟨entry, member, named, recent⟩ := pinned
  obtain ⟨survivor, below, survivorNamed⟩ := List.mem_map.mp spared
  obtain rfl := entry_unique invariant.kept (List.mem_of_mem_take below)
    member (survivorNamed.trans named.symm)
  obtain ⟨_, entries⟩ := PendingCommandRetainer.popDownTo_kept
    invariant.kept (invariant.fresh checkpoint outstanding) (Nat.le_refl _)
  refine ⟨survivor, ?_, named, ?_⟩
  · rw [PendingCommandRetainer.rollback, entries]
    exact below
  · rw [PendingCommandRetainer.rollback,
      PendingCommandRetainer.popDownTo_epoch]
    exact recent

theorem Pinned.endEpoch
    (kept : Kept retainer)
    (pinned : Pinned retainer key idle) (short : idle ≤ 1) :
    Pinned retainer.endEpoch key (idle + 1) := by
  obtain ⟨entry, member, named, recent⟩ := pinned
  have one : (1 : UInt64).toNat = 1 := rfl
  rw [PendingCommandRetainer.endEpoch_eq kept,
    PendingCommandRetainer.endEpochScan_eq]
  refine ⟨entry, List.mem_filter.mpr ⟨member, ?_⟩, named, ?_⟩
  · apply decide_eq_true
    rw [UInt64.le_iff_toNat_le]
    exact Nat.le_trans recent short
  · have older : retainer.epoch + 1 - entry.lastTouchedEpoch =
        retainer.epoch - entry.lastTouchedEpoch + 1 := by grind
    simp only [older]
    rw [UInt64.toNat_add]
    omega

/-- The call does not take the object's entry back. -/
def Spares (key : Key) (session : Session) : Call → Prop
  | .rollback checkpoint =>
      key ∈ (session.retainer.entries.take checkpoint).map Entry.key
  | .clear => False
  | _ => True

/-- No call of the run takes the object's entry back. -/
def SparedBy (arena : Arena) (key : Key) : Session → List Call → Prop
  | _, [] => True
  | session, call :: rest =>
      Spares key session call ∧
        ∀ next, session.step arena call = some next →
          SparedBy arena key next rest

/-- The call retains the object successfully. -/
def Accepts (arena : Arena) (session : Session) (key : Key) : Call → Prop
  | .retain kind object faulted =>
      key = { kind := kind, ptr := object } ∧
        (session.retainer.retainWireObject arena kind object faulted).1 = true
  | .retainBounded kind object capacity faulted =>
      key = { kind := kind, ptr := object } ∧
        (session.retainer.retainWireObjectBounded arena kind object capacity
          faulted).1 = true
  | _ => False

theorem pinned_of_accepts (invariant : session.Invariant)
    (isKind : isRetainable key.kind = true) (object : key.ptr ≠ 0)
    (accepts : session.Accepts arena key call)
    (stepped : session.step arena call = some next) :
    Pinned next.retainer key 0 := by
  cases call with
  | retain kind pointer faulted =>
      obtain ⟨rfl, accepted⟩ := accepts
      obtain rfl := Option.some.inj stepped
      rw [PendingCommandRetainer.retainWireObject, if_pos isKind] at accepted
      simp only [PendingCommandRetainer.retainWireObject, if_pos isKind]
      exact pinned_of_accepted invariant.kept object accepted
  | retainBounded kind pointer capacity faulted =>
      obtain ⟨rfl, accepted⟩ := accepts
      obtain rfl := Option.some.inj stepped
      rw [PendingCommandRetainer.retainWireObjectBounded,
        if_pos isKind] at accepted
      simp only [PendingCommandRetainer.retainWireObjectBounded, if_pos isKind]
      exact pinned_of_accepted invariant.kept object accepted
  | beginAcquire => contradiction
  | rollback _ => contradiction
  | endEpoch => contradiction
  | clear => contradiction

section

variable (pinned : Pinned session.retainer key idle)
  (invariant : session.Invariant)
include pinned invariant

/-- One call ages a spared entry by the epochs it closes. -/
theorem Pinned.step (spared : Spares key session call)
    (short : idle + [call].count .endEpoch ≤ 2)
    (stepped : session.step arena call = some next) :
    Pinned next.retainer key (idle + [call].count .endEpoch) := by
  cases call with
  | retain kind object faulted =>
      obtain rfl := Option.some.inj stepped
      simp only [PendingCommandRetainer.retainWireObject]
      split
      · exact pinned.retainImpl arena _ false 0 faulted
      · exact pinned
  | retainBounded kind object capacity faulted =>
      obtain rfl := Option.some.inj stepped
      simp only [PendingCommandRetainer.retainWireObjectBounded]
      split
      · exact pinned.retainImpl arena _ true capacity faulted
      · exact pinned
  | beginAcquire =>
      obtain rfl := Option.some.inj stepped
      exact pinned
  | rollback checkpoint =>
      simp only [Session.step, Option.ite_none_right_eq_some] at stepped
      obtain ⟨outstanding, equal⟩ := stepped
      obtain rfl := Option.some.inj equal
      exact pinned.rollback invariant outstanding spared
  | endEpoch =>
      obtain rfl := Option.some.inj stepped
      exact pinned.endEpoch invariant.kept (Nat.le_of_succ_le_succ short)
  | clear => contradiction

theorem Pinned.run (spared : SparedBy arena key session calls)
    (short : idle + calls.count .endEpoch ≤ 2)
    (ran : session.run arena calls = some final) :
    Pinned final.retainer key (idle + calls.count .endEpoch) := by
  induction calls generalizing session idle with
  | nil =>
      obtain rfl := Option.some.inj ran
      exact pinned
  | cons call rest induction =>
      obtain ⟨next, stepped, ran⟩ := Option.bind_eq_some_iff.mp ran
      rw [← List.singleton_append, List.count_append, ← Nat.add_assoc]
        at short ⊢
      have aged := pinned.step invariant spared.1
        (Nat.le_trans (Nat.le_add_right _ _) short) stepped
      exact induction aged (invariant.step stepped) (spared.2 next stepped)
        short ran

end

/-- Through every session, with any first epoch, the entries are the objects
with one AddRef outstanding, the index and the counters describe them, the
fast end of an epoch is the full scan, and an accepted object that is neither
rolled back nor cleared stays through two ends of epochs. -/
theorem retainer_owns_entries (arena : Arena) (capacity : Nat)
    (epoch : UInt64) (allocated : Bool) {calls : List Call}
    {session : Session}
    (ran : (construct arena capacity epoch allocated).run arena calls =
      some session) :
    session.retainer.keys.Nodup ∧
      (∀ key position, session.retainer.index.find key = some position ↔
        session.retainer.keys[position]? = some key) ∧
      session.retainer.currentTouchedCount =
        session.retainer.entries.countP (stamped session.retainer.epoch) ∧
      session.retainer.previousTouchedCount =
        session.retainer.entries.countP
          (stamped (session.retainer.epoch - 1)) ∧
      (∀ key, addRefs session.retainer.crossings key =
        releases session.retainer.crossings key +
          if key ∈ session.retainer.keys then 1 else 0) ∧
      (session.retainer.currentTouchedCount +
            session.retainer.previousTouchedCount =
          session.retainer.entries.length →
        session.retainer.endEpochUnexpired =
          session.retainer.endEpochScan) ∧
      ∀ (key : Key) (call : Call) (next final : Session)
        (later : List Call),
        isRetainable key.kind = true → key.ptr ≠ 0 →
        session.Accepts arena key call →
        session.step arena call = some next →
        next.run arena later = some final →
        SparedBy arena key next later →
        later.count .endEpoch ≤ 2 →
        key ∈ final.retainer.keys := by
  have invariant :=
    (construct_invariant arena capacity epoch allocated).run ran
  have kept := invariant.kept
  refine ⟨kept.unique, fun _ _ => kept.exact.find_eq_some_iff, kept.current,
    kept.previous, ?_, PendingCommandRetainer.endEpochUnexpired_eq kept, ?_⟩
  · intro key
    rw [kept.ledger key, kept.unique.count]
  · intro key call next final later isKind object accepts stepped ranLater
      spared short
    have pinned :=
      pinned_of_accepts invariant isKind object accepts stepped
    have survives := pinned.run (invariant.step stepped) spared
      (by rw [Nat.zero_add]; exact short) ranLater
    exact survives.mem_keys

/-- A session across the wrap of the epoch: one acquisition is rolled back,
and an object touched afterwards outlives two further ends of epochs. -/
theorem retainer_owns_entries_wrap :
    ∃ session final : Session,
      (construct ⟨id, id⟩ 2 (0 - 1) true).run ⟨id, id⟩
        [.retain 0 16 false, .endEpoch, .beginAcquire, .retain 1 32 false,
          .rollback 1, .retainBounded 2 48 2 false] = some session ∧
      session.retainer.keys = [⟨0, 16⟩, ⟨2, 48⟩] ∧
      addRefs session.retainer.crossings ⟨1, 32⟩ =
        releases session.retainer.crossings ⟨1, 32⟩ ∧
      session.run ⟨id, id⟩ [.retain 0 16 false, .endEpoch, .endEpoch] =
        some final ∧
      (⟨0, 16⟩ : Key) ∈ final.retainer.keys := by
  have ran : ((construct ⟨id, id⟩ 2 (0 - 1) true).run ⟨id, id⟩
      [.retain 0 16 false, .endEpoch, .beginAcquire, .retain 1 32 false,
        .rollback 1, .retainBounded 2 48 2 false]).isSome := by decide +kernel
  have owned := retainer_owns_entries _ _ _ _ (Option.some_get ran).symm
  have balance := owned.2.2.2.2.1 ⟨1, 32⟩
  have pins := owned.2.2.2.2.2.2 ⟨0, 16⟩ (.retain 0 16 false)
  refine ⟨_, _, (Option.some_get ran).symm, rfl, ?_, rfl, ?_⟩
  · rw [balance]
    rfl
  · apply pins _ _ [.endEpoch, .endEpoch] (by decide) (by decide) _ rfl rfl
    · exact ⟨trivial, fun _ _ => ⟨trivial, fun _ _ => trivial⟩⟩
    · decide
    · refine ⟨rfl, ?_⟩
      clear pins balance owned
      decide +kernel +revert

end Session

end Dxmt9.Retainer
