import Dxmt9.QueryScope.OwnerRuns

/-!
# The partition of the commands

Every command of an owner lies in just one of its ranges, the scope of the
range has the results of the command, and the owner's destruction cancels the
marker that no publication has bound.
-/

namespace Dxmt9.QueryScope

open QueryScopeRangeOwner Dxmt9.Transition

variable {capacities : Capacities} {owner : QueryScopeRangeOwner}
  {supplied : List OcclusionScope}

/-- The command is one of the range's. -/
def Range.Covers (range : Range) (command : Nat) : Prop :=
  range.start ≤ command ∧ command < range.stop

section

variable (table : RangeTable capacities owner supplied)
include table

theorem RangeTable.apart
    {i : Nat} (j : Nat) (before : i < j) (inside : j < owner.cursor.ranges) :
    (owner.ranges i).stop ≤ (owner.ranges j).start := by
  induction j with
  | zero => exact absurd before (Nat.not_lt_zero i)
  | succ j induction =>
      rw [table.contiguous j inside]
      rcases Nat.lt_succ_iff_lt_or_eq.mp before with less | rfl
      · have first := induction less (Nat.lt_of_succ_lt inside)
        have second := table.nonempty j (Nat.lt_of_succ_lt inside)
        exact Nat.le_trans first (Nat.le_of_lt second)
      · exact Nat.le_refl _

theorem RangeTable.covered
    (i : Nat) (inside : i < owner.cursor.ranges) {command : Nat}
    (before : command < (owner.ranges i).stop) :
    ∃ j < owner.cursor.ranges, (owner.ranges j).Covers command := by
  induction i with
  | zero =>
      refine ⟨0, inside, ?_, before⟩
      rw [table.starts inside]
      exact Nat.zero_le command
  | succ i induction =>
      rcases Nat.lt_or_ge command (owner.ranges (i + 1)).start with
        earlier | within
      · rw [table.contiguous i inside] at earlier
        exact induction (Nat.lt_of_succ_lt inside) earlier
      · exact ⟨i + 1, inside, within, before⟩

theorem RangeTable.tiles
    {command : Nat} (before : command < owner.cursor.commands) :
    ∃! i, i < owner.cursor.ranges ∧ (owner.ranges i).Covers command := by
  have positive : 0 < owner.cursor.ranges := by
    apply Nat.pos_of_ne_zero
    intro none
    rw [table.nothing none] at before
    exact Nat.not_lt_zero command before
  have last : owner.cursor.ranges - 1 < owner.cursor.ranges :=
    Nat.sub_lt positive Nat.zero_lt_one
  have within : command < (owner.ranges (owner.cursor.ranges - 1)).stop := by
    rw [table.stops positive]
    exact before
  obtain ⟨i, inside, covers⟩ := table.covered _ last within
  refine ⟨i, ⟨inside, covers⟩, ?_⟩
  rintro j ⟨insideOther, coversOther⟩
  rcases Nat.lt_trichotomy i j with less | same | more
  · have apart := table.apart j less insideOther
    exact absurd (Nat.lt_of_lt_of_le covers.2 apart)
      (Nat.not_lt_of_le coversOther.1)
  · exact same.symm
  · have apart := table.apart i more inside
    exact absurd (Nat.lt_of_lt_of_le coversOther.2 apart)
      (Nat.not_lt_of_le covers.1)

end

theorem ScopeTable.shared (table : ScopeTable capacities owner)
    {left right : QueryScopeIdentity} (named : Named owner left)
    (namedOther : Named owner right)
    (same : ∀ result, Resolves owner left result ↔
      Resolves owner right result) : left = right := by
  have inhabited : ∀ id : QueryScopeIdentity, 0 < id.slot →
      id.slot ≤ owner.scopeCount → ∃ result, Resolves owner id result := by
    intro id positive inside
    have below : id.slot - 1 < owner.scopeCount := by omega
    obtain ⟨result, there⟩ := (table.distinct _ below).present 0
      (table.nonempty _ below)
    exact ⟨result, positive, 0, table.nonempty _ below, there⟩
  have nothing : ∀ result, ¬ Resolves owner {} result :=
    fun _ resolves => Nat.lt_irrefl 0 resolves.1
  rcases named with rfl | ⟨positive, inside, generation⟩
  · rcases namedOther with rfl | ⟨positive, inside, _⟩
    · rfl
    · obtain ⟨result, resolves⟩ := inhabited right positive inside
      exact absurd ((same result).mpr resolves) (nothing result)
  · rcases namedOther with rfl | ⟨positiveOther, insideOther, generationOther⟩
    · obtain ⟨result, resolves⟩ := inhabited left positive inside
      exact absurd ((same result).mp resolves) (nothing result)
    · have slots : left.slot - 1 = right.slot - 1 := by
        apply table.once _ (by omega) _ (by omega)
        intro result
        have equal := same result
        unfold Resolves at equal
        rw [and_iff_right positive, and_iff_right positiveOther] at equal
        exact equal
      cases left
      cases right
      dsimp only at *
      rw [generation, generationOther]
      congr 1
      omega

/-- A reader of a sealed or published owner finds the results of an
identity. -/
theorem scope_resolves {id : QueryScopeIdentity} (named : Named owner id)
    (readable : owner.readable = true)
    (valid : owner.cursor.owner.valid = true) (result : OcclusionResult) :
    (∃ scope, owner.scope owner.cursor.owner id = some scope ∧
      scope.Member result) ↔ Resolves owner id result := by
  unfold QueryScopeRangeOwner.scope
  rcases named with rfl | ⟨positive, inside, generation⟩
  · refine iff_of_false ?_ (fun resolves => Nat.lt_irrefl 0 resolves.1)
    rintro ⟨scope, found, _⟩
    simp at found
  · have accepted : ¬ (!owner.readable ||
        decide (owner.cursor.owner ≠ owner.cursor.owner) ||
        !owner.cursor.owner.valid || id.slot == 0 ||
        decide (owner.scopeCount < id.slot) ||
        decide (id.generation ≠ owner.cursor.owner.storageGeneration)) =
          true := by
      simp [readable, valid, generation, Nat.ne_of_gt positive, inside]
    rw [if_neg accepted]
    constructor
    · rintro ⟨scope, found, member⟩
      rw [← Option.some.inj found] at member
      exact ⟨positive, member⟩
    · intro resolves
      exact ⟨_, rfl, resolves.2⟩

theorem MarkerState.destroyed {run : QueryRun} (state : MarkerState run)
    (marker : EndMarker)
    (isMarker : marker ∈ run.owner.cancelUnpublished.endState) :
    marker.cancelled = true ↔ run.binds = [] := by
  unfold cancelUnpublished at isMarker
  split at isMarker
  · rename_i finished
    rcases finished with published | cancelled
    · obtain ⟨binds, bound⟩ := state.bound published
      refine iff_of_false ?_ ?_
      · rw [(bound marker isMarker).2]
        exact nofun
      · rw [binds, isMarker]
        exact nofun
    · obtain ⟨noBinds, dropped⟩ := state.dropped cancelled
      exact iff_of_true (dropped marker isMarker).2 noBinds
  · rename_i unfinished
    have waiting : run.owner.phase = .writing ∨
        run.owner.phase = .sealed := by
      cases phase : run.owner.phase with
      | writing => exact .inl rfl
      | sealed => exact .inr rfl
      | published => exact absurd (.inl phase) unfinished
      | cancelled => exact absurd (.inr phase) unfinished
    obtain ⟨before, _, rfl⟩ := Option.mem_map.mp isMarker
    exact iff_of_true rfl (state.waits waiting).1

theorem MarkerState.bound_once {run : QueryRun} (state : MarkerState run) :
    run.binds.length ≤ 1 := by
  have empty : run.binds = [] → run.binds.length ≤ 1 := by
    intro none
    rw [none]
    exact Nat.zero_le 1
  cases phase : run.owner.phase with
  | writing => exact empty (state.waits (.inl phase)).1
  | sealed => exact empty (state.waits (.inr phase)).1
  | published =>
      rw [(state.bound phase).1, List.length_map]
      cases run.owner.endState with
      | none => exact Nat.zero_le 1
      | some marker => exact Nat.le_refl 1
  | cancelled => exact empty (state.dropped phase).1

/-- What the ranges, scopes, ENDs and marker of an owner say of the calls it
was given. -/
structure CommandPartition (capacities : Capacities) (run : QueryRun) :
    Prop where
  ranges : RangeTable capacities run.owner run.supplied
  tiles : ∀ command < run.owner.cursor.commands,
    ∃! i, i < run.owner.cursor.ranges ∧
      (run.owner.ranges i).Covers command
  scopes : ScopeTable capacities run.owner
  shared : ∀ i < run.owner.cursor.ranges, ∀ j < run.owner.cursor.ranges,
    (∀ result, Resolves run.owner (run.owner.ranges i).scope result ↔
      Resolves run.owner (run.owner.ranges j).scope result) →
    (run.owner.ranges i).scope = (run.owner.ranges j).scope
  found : run.owner.readable = true → ∀ i < run.owner.cursor.ranges,
    ∀ command, (run.owner.ranges i).Covers command →
    ∀ input ∈ run.supplied[command]?, ∀ result,
      (∃ scope, run.owner.scope run.owner.cursor.owner
          (run.owner.ranges i).scope = some scope ∧ scope.Member result) ↔
        input.Member result
  ends : EndTable capacities run.owner
  refused : ∀ call, (run.call capacities call).1 = false →
    Unchanged run.owner (run.call capacities call).2.owner
  boundOnce : run.binds.length ≤ 1
  destroyed : ∀ marker ∈ run.owner.cancelUnpublished.endState,
    (marker.cancelled = true ↔ run.binds = []) ∧
    (run.binds ≠ [] → run.binds = [marker.sequence])

theorem OwnerSound.partition {run : QueryRun}
    (sound : OwnerSound capacities run) : CommandPartition capacities run where
  ranges := sound.ranges
  tiles _ before := sound.ranges.tiles before
  scopes := sound.scopes
  shared i inside j insideOther :=
    sound.scopes.shared (sound.ranges.named i inside)
      (sound.ranges.named j insideOther)
  found readable i inside command covers input there result := by
    have valid : run.owner.cursor.owner.valid = true := by
      apply sound.marker.writer
      rcases Bool.or_eq_true _ _ ▸ readable with isSealed | published
      · exact .inl (beq_iff_eq.mp isSealed)
      · exact .inr (beq_iff_eq.mp published)
    rw [scope_resolves (sound.ranges.named i inside) readable valid]
    exact sound.ranges.resolves i inside command covers.1 covers.2 input
      there result
  ends := sound.ends
  refused _ := sound.refused
  boundOnce := sound.marker.bound_once
  destroyed marker isMarker := by
    refine ⟨sound.marker.destroyed marker isMarker, ?_⟩
    intro some
    have published : run.owner.phase = .published := by
      cases phase : run.owner.phase with
      | writing => exact absurd (sound.marker.waits (.inl phase)).1 some
      | sealed => exact absurd (sound.marker.waits (.inr phase)).1 some
      | published => rfl
      | cancelled => exact absurd (sound.marker.dropped phase).1 some
    have kept : run.owner.cancelUnpublished = run.owner := if_pos (.inl published)
    rw [kept] at isMarker
    rw [(sound.marker.bound published).1, isMarker]
    rfl

/-- Whatever calls an owner is given, its ranges tile the commands and each
has the results of its commands. -/
theorem ranges_partition_commands (capacities : Capacities)
    (writer : WriterIdentity) (commandCapacity : UInt32)
    (calls : List Call) :
    CommandPartition capacities
      (run (QueryRun.step capacities)
        (.start writer commandCapacity) calls) := by
  apply OwnerSound.partition
  exact run_invariant (fun _ call sound => sound.step call)
    (sound_start capacities writer commandCapacity) calls

end Dxmt9.QueryScope
