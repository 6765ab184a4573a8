import Dxmt9.Framegraph.Builder
import Mathlib.Logic.Relation

/-!
# Hazard coverage of the access logs

The builder adds edges only to the latest writer and to the readers behind
it, drops self edges and suppresses duplicates.  By induction along the log
this is enough: any two conflicting accesses of one resource are connected by
a dependency path from the earlier to the later pass.
-/

namespace Dxmt9.Framegraph

open Relation

/-- Two accesses of one resource conflict when one of them writes. -/
def AccessLog.Conflicts (first second : AccessLog) : Prop :=
  first.writes = true ∨ second.writes = true

instance (first second : AccessLog) : Decidable (first.Conflicts second) :=
  inferInstanceAs (Decidable (_ ∨ _))

/-- The builder only logs reads and writes. -/
def AccessLog.Touches (access : AccessLog) : Prop :=
  access.reads = true ∨ access.writes = true

/-- The log ends with its last write and the reads behind it. -/
def EndsWith (log : List AccessLog) :
    Option AccessLog × List AccessLog → Prop
  | (some write, later) =>
      write.writes = true ∧ (∃ before, log = before ++ write :: later) ∧
        ∀ access ∈ later, access.writes = false
  | (none, later) =>
      later = log ∧ ∀ access ∈ log, access.writes = false

theorem sinceLastWrite_spec (log : List AccessLog) :
    EndsWith log (sinceLastWrite log) := by
  induction log with
  | nil => simp [sinceLastWrite, EndsWith]
  | cons access rest induction =>
      unfold sinceLastWrite
      generalize sinceLastWrite rest = found at induction
      obtain ⟨lastWrite, later⟩ := found
      cases lastWrite with
      | some write =>
          obtain ⟨isWrite, ⟨before, equal⟩, reads⟩ := induction
          exact ⟨isWrite, ⟨access :: before, by rw [equal]; rfl⟩, reads⟩
      | none =>
          obtain ⟨equal, reads⟩ := induction
          subst equal
          simp only
          split <;> rename_i isWrite
          · exact ⟨isWrite, ⟨[], rfl⟩, reads⟩
          · refine ⟨rfl, ?_⟩
            intro other member
            rcases List.mem_cons.mp member with rfl | later
            · simpa using isWrite
            · exact reads other later

variable {handle : Handle} {dst source start stop : Nat} {edges : List Edge}

theorem connects_addEdgeOnce :
    Connects (addEdgeOnce handle dst edges source) start stop ↔
      Connects edges start stop ∨
        (source ≠ dst ∧ source = start ∧ dst = stop) := by
  unfold addEdgeOnce
  split
  · rename_i self
    simp [self]
  · rename_i different
    split
    · rename_i duplicate
      constructor
      · exact Or.inl
      · rintro (old | ⟨_, rfl, rfl⟩)
        · exact old
        · exact connects_of_hasEdge duplicate
    · rw [connects_append_singleton]
      simp [different]

/-- The new edges lead from the hazard sources to the accessing pass. -/
theorem connects_foldl_addEdgeOnce
    (sources : List Nat) :
    Connects (sources.foldl (addEdgeOnce handle dst) edges) start stop ↔
      Connects edges start stop ∨
        (start ∈ sources ∧ start ≠ dst ∧ stop = dst) := by
  induction sources generalizing edges with
  | nil => simp
  | cons source rest induction =>
      rw [List.foldl_cons, induction, connects_addEdgeOnce, List.mem_cons,
        or_assoc]
      refine or_congr_right ?_
      constructor
      · rintro (⟨different, rfl, rfl⟩ | ⟨later, different, rfl⟩)
        · exact ⟨Or.inl rfl, different, rfl⟩
        · exact ⟨Or.inr later, different, rfl⟩
      · rintro ⟨rfl | later, different, rfl⟩
        · exact Or.inl ⟨different, rfl, rfl⟩
        · exact Or.inr ⟨later, different, rfl⟩

variable {edge : Edge}

theorem mem_addEdgeOnce
    (member : edge ∈ addEdgeOnce handle dst edges source) :
    edge ∈ edges ∨ (edge.srcPass = source ∧ edge.dstPass = dst ∧
      source ≠ dst) := by
  unfold addEdgeOnce at member
  split at member
  · exact Or.inl member
  · rename_i different
    split at member
    · exact Or.inl member
    · rcases List.mem_append.mp member with old | new
      · exact Or.inl old
      · rw [List.mem_singleton] at new
        exact Or.inr ⟨new ▸ rfl, new ▸ rfl, different⟩

theorem mem_foldl_addEdgeOnce
    (sources : List Nat)
    (member : edge ∈ sources.foldl (addEdgeOnce handle dst) edges) :
    edge ∈ edges ∨ (edge.srcPass ∈ sources ∧ edge.dstPass = dst ∧
      edge.srcPass ≠ dst) := by
  induction sources generalizing edges with
  | nil => exact Or.inl member
  | cons source rest induction =>
      rcases induction member with early | ⟨listed, target, different⟩
      · rcases mem_addEdgeOnce early with old | ⟨rfl, target, different⟩
        · exact Or.inl old
        · exact Or.inr ⟨List.mem_cons_self, target, different⟩
      · exact Or.inr ⟨List.mem_cons_of_mem _ listed, target, different⟩

variable {log : List AccessLog} {kind : AccessKind}

theorem hazardSources_logged (member : source ∈ hazardSources log kind) :
    ∃ access ∈ log, access.passIndex = source := by
  have spec := sinceLastWrite_spec log
  unfold hazardSources at member
  generalize sinceLastWrite log = split at spec member
  obtain ⟨lastWrite, later⟩ := split
  have writerLogged : ∀ {pass},
      pass ∈ lastWrite.toList.map AccessLog.passIndex →
        ∃ access ∈ log, access.passIndex = pass := by
    intro pass listed
    cases lastWrite with
    | none => simp at listed
    | some write =>
        obtain ⟨_, ⟨before, equal⟩, _⟩ := spec
        simp only [Option.toList_some, List.map_cons, List.map_nil,
          List.mem_singleton] at listed
        exact ⟨write, by simp [equal], listed.symm⟩
  have laterLogged : ∀ access ∈ later, access ∈ log := by
    intro access listed
    cases lastWrite with
    | none => exact spec.1 ▸ listed
    | some write =>
        obtain ⟨_, ⟨before, equal⟩, _⟩ := spec
        simp [equal, listed]
  simp only [List.mem_append] at member
  rcases member with reading | writing
  · split at reading
    · exact writerLogged reading
    · contradiction
  · split at writing
    · rcases List.mem_append.mp writing with writer | reader
      · exact writerLogged writer
      · obtain ⟨access, listed, rfl⟩ := List.mem_map.mp reader
        exact ⟨access, laterLogged access (List.mem_filter.mp listed).1, rfl⟩
    · contradiction

/-- Conflicting accesses of a log are connected in log order. -/
def Covered (edges : List Edge) (log : List AccessLog) : Prop :=
  log.Pairwise fun earlier later => earlier.Conflicts later →
    ReflTransGen (Connects edges) earlier.passIndex later.passIndex

variable {more : List Edge}

theorem Covered.mono
    (covered : Covered edges log)
    (grows : ∀ {start stop}, Connects edges start stop →
      Connects more start stop) :
    Covered more log :=
  by
  refine List.Pairwise.imp ?_ covered
  intro earlier later path conflict
  exact ReflTransGen.mono (fun _ _ => grows) _ _ (path conflict)

theorem Covered.path_to_new {pass : Nat}
    (covered : Covered more log) (touches : ∀ access ∈ log, access.Touches)
    (sources : ∀ source ∈ hazardSources log kind,
      source = pass ∨ Connects more source pass)
    {earlier : AccessLog} (member : earlier ∈ log)
    (conflict : earlier.writes = true ∨ accessWrites kind = true)
    (touchesNew : accessReads kind = true ∨ accessWrites kind = true) :
    ReflTransGen (Connects more) earlier.passIndex pass := by
  have spec := sinceLastWrite_spec log
  have step : ∀ source ∈ hazardSources log kind,
      ReflTransGen (Connects more) source pass := by
    intro source listed
    rcases sources source listed with rfl | connected
    · exact .refl
    · exact .single connected
  unfold hazardSources at step
  generalize sinceLastWrite log = split at spec step
  obtain ⟨lastWrite, later⟩ := split
  cases lastWrite with
  | none =>
      -- Nothing was written, so only a new write can conflict.
      obtain ⟨rfl, reads⟩ := spec
      have noWrite := reads earlier member
      have newWrites : accessWrites kind = true := by
        rcases conflict with old | new
        · rw [noWrite] at old
          contradiction
        · exact new
      have earlierReads : earlier.reads = true :=
        (touches earlier member).resolve_right (by simp [noWrite])
      refine step _ ?_
      simp only [newWrites, if_true, List.mem_append]
      exact Or.inr (Or.inr (List.mem_map.mpr
        ⟨earlier, List.mem_filter.mpr ⟨member, earlierReads⟩, rfl⟩))
  | some write =>
      obtain ⟨isWrite, ⟨before, equal⟩, reads⟩ := spec
      have writeToNew : ReflTransGen (Connects more) write.passIndex pass := by
        refine step _ ?_
        rcases touchesNew with newReads | newWrites
        · simp [newReads]
        · simp [newWrites]
      rw [equal] at member covered
      rcases List.mem_append.mp member with old | recent
      · have toWrite := (List.pairwise_append.mp covered).2.2 earlier old
          write List.mem_cons_self (Or.inr isWrite)
        exact toWrite.trans writeToNew
      · rcases List.mem_cons.mp recent with rfl | behind
        · exact writeToNew
        · have noWrite := reads earlier behind
          have newWrites : accessWrites kind = true := by
            rcases conflict with old | new
            · rw [noWrite] at old
              contradiction
            · exact new
          have logged : earlier ∈ log := by
            rw [equal]
            exact List.mem_append_right _ (List.mem_cons_of_mem _ behind)
          have earlierReads : earlier.reads = true :=
            (touches earlier logged).resolve_right (by simp [noWrite])
          refine step _ ?_
          simp only [newWrites, if_true, List.mem_append]
          exact Or.inr (Or.inr (List.mem_map.mpr
            ⟨earlier, List.mem_filter.mpr ⟨behind, earlierReads⟩, rfl⟩))

end Dxmt9.Framegraph
