import Mathlib.Data.List.GetD
import Mathlib.Data.List.Nodup
import Mathlib.Data.List.Pairwise
import Mathlib.Data.List.Perm.Basic
import Mathlib.Logic.Relation

/-!
# Regrouping along a dependency relation

Positions `0, …, count - 1` carry a dependency relation.  A regrouping is a
sequence of classes that lists every position once.  It is admissible when no
dependency leads from a later class to an earlier one and no path leads from
a later member of a class to an earlier one.  Merging two positions, moving
positions past each other and topological sorting are all regroupings of this
kind, they compose, and each of them keeps every conflict that the
dependencies cover in order.
-/

namespace Dxmt9.Order

open Relation

/-- The members of the class at an index; empty past the end. -/
def classAt (classes : List (List Nat)) (index : Nat) : List Nat :=
  classes.getD index []

/-- The index of the class that contains a position. -/
def classOf (classes : List (List Nat)) (position : Nat) : Nat :=
  classes.findIdx fun members => members.contains position

/-- Dependencies between classes: self dependencies disappear. -/
def Relabelled (classes : List (List Nat)) (edge : Nat → Nat → Prop)
    (source target : Nat) : Prop :=
  source ≠ target ∧ ∃ oldSource oldTarget,
    edge oldSource oldTarget ∧
      classOf classes oldSource = source ∧ classOf classes oldTarget = target

/-- Expand classes of classes to classes of positions. -/
def expand (outer inner : List (List Nat)) : List (List Nat) :=
  outer.map fun members => members.flatMap (classAt inner)

/-- Every position as a class of its own. -/
def singletons (count : Nat) : List (List Nat) :=
  (List.range count).map fun position => [position]

structure Regrouping (classes : List (List Nat)) (count : Nat)
    (edge : Nat → Nat → Prop) : Prop where
  complete : classes.flatten.Perm (List.range count)
  unopposed : ∀ members ∈ classes, members.Pairwise fun earlier later =>
    ¬ ReflTransGen edge later earlier
  sorted : classes.Pairwise fun earlier later =>
    ∀ source ∈ later, ∀ target ∈ earlier, ¬ edge source target

/-- Both ends of every dependency are positions. -/
def Within (count : Nat) (edge : Nat → Nat → Prop) : Prop :=
  ∀ source target, edge source target → source < count ∧ target < count

variable {index : Nat}

variable {classes : List (List Nat)}

theorem classAt_of_lt
    (bound : index < classes.length) :
    classAt classes index = classes[index] := by
  simp [classAt, bound]

variable {position : Nat}

theorem lt_of_mem_classAt (member : position ∈ classAt classes index) :
    index < classes.length := by
  by_contra outside
  rw [classAt, List.getD_eq_default _ _ (Nat.le_of_not_lt outside)] at member
  exact List.not_mem_nil member

theorem flatMap_classAt (classes : List (List Nat)) :
    (List.range classes.length).flatMap (classAt classes) =
      classes.flatten := by
  rw [List.flatMap_def]
  congr 1
  apply List.ext_getElem (by simp)
  intro index _ bound
  simp [classAt, bound]

variable {first second : Nat}

/-- Two entries that share an item are one entry. -/
theorem eq_of_nodup_flatMap {list : List Nat} {piece : Nat → List Nat}
    (nodup : (list.flatMap piece).Nodup) {item : Nat}
    (firstListed : first ∈ list) (secondListed : second ∈ list)
    (inFirst : item ∈ piece first) (inSecond : item ∈ piece second) :
    first = second := by
  by_contra different
  have disjoint := (List.nodup_flatMap.mp nodup).2
  have symmetric : Std.Symm (Function.onFun List.Disjoint piece) :=
    ⟨fun _ _ apart _ right left => apart left right⟩
  exact disjoint.forall firstListed secondListed different inFirst inSecond

namespace Regrouping

variable {classes : List (List Nat)} {count : Nat}
  {edge : Nat → Nat → Prop}

theorem nodup (regrouping : Regrouping classes count edge) :
    classes.flatten.Nodup :=
  regrouping.complete.nodup_iff.mpr List.nodup_range

variable {index position : Nat}

section

variable (regrouping : Regrouping classes count edge)
include regrouping

theorem lt_of_mem (member : position ∈ classAt classes index) :
    position < count := by
  have bound := lt_of_mem_classAt member
  rw [classAt_of_lt bound] at member
  have listed : position ∈ classes.flatten :=
    List.mem_flatten.mpr ⟨_, List.getElem_mem bound, member⟩
  exact List.mem_range.mp (regrouping.complete.mem_iff.mp listed)

theorem classOf_lt (inside : position < count) :
    classOf classes position < classes.length := by
  have listed : position ∈ classes.flatten :=
    regrouping.complete.mem_iff.mpr (List.mem_range.mpr inside)
  obtain ⟨members, inClasses, member⟩ := List.mem_flatten.mp listed
  exact List.findIdx_lt_length_of_exists
    ⟨members, inClasses, List.contains_iff_mem.mpr member⟩

theorem mem_classOf (inside : position < count) :
    position ∈ classAt classes (classOf classes position) := by
  have bound := regrouping.classOf_lt inside
  have found := List.findIdx_getElem
    (p := fun members : List Nat => members.contains position)
    (w := bound)
  rw [classAt_of_lt bound]
  exact List.contains_iff_mem.mp found

/-- A position belongs to exactly one class. -/
theorem classOf_eq (member : position ∈ classAt classes index) :
    classOf classes position = index := by
  have inside := regrouping.lt_of_mem member
  have bound := lt_of_mem_classAt member
  have found := regrouping.mem_classOf inside
  have foundBound := regrouping.classOf_lt inside
  rw [classAt_of_lt bound] at member
  rw [classAt_of_lt foundBound] at found
  have disjoint := List.pairwise_iff_getElem.mp
    (List.nodup_flatten.mp regrouping.nodup).2
  rcases Nat.lt_trichotomy (classOf classes position) index with
    before | equal | after
  · exact absurd member (disjoint _ _ foundBound bound before found)
  · exact equal
  · exact absurd found (disjoint _ _ bound foundBound after member)

end

variable {source target : Nat}

section

variable (regrouping : Regrouping classes count edge)
  (within : Within count edge)
include regrouping within

/-- Dependencies never lead to an earlier class. -/
theorem classOf_le
    (step : edge source target) :
    classOf classes source ≤ classOf classes target := by
  obtain ⟨sourceInside, targetInside⟩ := within _ _ step
  by_contra backwards
  have sourceMember := regrouping.mem_classOf sourceInside
  have targetMember := regrouping.mem_classOf targetInside
  rw [classAt_of_lt (regrouping.classOf_lt sourceInside)] at sourceMember
  rw [classAt_of_lt (regrouping.classOf_lt targetInside)] at targetMember
  exact List.pairwise_iff_getElem.mp regrouping.sorted _ _ _ _
    (Nat.lt_of_not_le backwards) source sourceMember target targetMember
    step

/-- Paths never lead to an earlier class. -/
theorem classOf_le_of_path
    (path : ReflTransGen edge source target) :
    classOf classes source ≤ classOf classes target := by
  induction path with
  | refl => exact Nat.le_refl _
  | tail _ step bound =>
      exact Nat.le_trans bound (regrouping.classOf_le within step)

/-- Relabelled dependencies lead forward. -/
theorem relabelled_lt
    (step : Relabelled classes edge source target) : source < target := by
  obtain ⟨distinct, _, _, old, rfl, rfl⟩ := step
  exact Nat.lt_of_le_of_ne (regrouping.classOf_le within old) distinct

theorem relabelled_within :
    Within classes.length (Relabelled classes edge) := by
  rintro _ _ ⟨_, oldSource, oldTarget, old, rfl, rfl⟩
  obtain ⟨sourceInside, targetInside⟩ := within _ _ old
  exact ⟨regrouping.classOf_lt sourceInside,
    regrouping.classOf_lt targetInside⟩

end

/-- A path relabels to a path. -/
theorem path_relabel
    (path : ReflTransGen edge source target) :
    ReflTransGen (Relabelled classes edge)
      (classOf classes source) (classOf classes target) := by
  induction path with
  | refl => exact .refl
  | @tail middle last _ step reached =>
      by_cases equal : classOf classes middle = classOf classes last
      · exact equal ▸ reached
      · exact reached.tail ⟨equal, middle, last, step, rfl, rfl⟩

/--
A regrouping keeps covered conflicts in order.

If every conflict is covered by a path, no conflict points backwards in the
flattened classes.
-/
theorem keeps_conflicts (regrouping : Regrouping classes count edge)
    (within : Within count edge) (conflict : Nat → Nat → Prop)
    (covers : ∀ {first second}, first < count → second < count →
      first ≠ second → conflict first second →
        ReflTransGen edge first second) :
    classes.flatten.Pairwise fun earlier later =>
      ¬ conflict later earlier := by
  have nodup := List.nodup_flatten.mp regrouping.nodup
  rw [List.pairwise_flatten]
  constructor
  · intro members listed
    have distinct := nodup.1 members listed
    have unopposed := regrouping.unopposed members listed
    have insideClass : ∀ position ∈ members, position < count := by
      intro position member
      have inFlatten : position ∈ classes.flatten :=
        List.mem_flatten.mpr ⟨members, listed, member⟩
      exact List.mem_range.mp (regrouping.complete.mem_iff.mp inFlatten)
    refine (distinct.and unopposed).imp_of_mem ?_
    rintro earlier later earlierMember laterMember ⟨different, noPath⟩ back
    exact noPath (covers (insideClass later laterMember)
      (insideClass earlier earlierMember) (Ne.symm different) back)
  · rw [List.pairwise_iff_getElem]
    intro index laterIndex bound laterBound before earlier earlierMember
      later laterMember back
    rw [← classAt_of_lt bound] at earlierMember
    rw [← classAt_of_lt laterBound] at laterMember
    have earlierClass := regrouping.classOf_eq earlierMember
    have laterClass := regrouping.classOf_eq laterMember
    have different : later ≠ earlier := by
      rintro rfl
      omega
    have path := covers (regrouping.lt_of_mem laterMember)
      (regrouping.lt_of_mem earlierMember) different back
    have ordered := regrouping.classOf_le_of_path within path
    omega

end Regrouping

variable {count : Nat}

theorem classAt_singletons (bound : index < count) :
    classAt (singletons count) index = [index] := by
  simp [classAt, singletons, bound]

variable {edge : Nat → Nat → Prop}

/-- Leaving every position alone is a regrouping of forward edges. -/
theorem Regrouping.identity
    (forward : ∀ {source target}, edge source target → source < target) :
    Regrouping (singletons count) count edge where
  complete := by
    have flat : (singletons count).flatten = List.range count := by
      rw [singletons, ← List.flatMap_def]
      exact List.flatMap_singleton' _
    rw [flat]
  unopposed := by
    intro members listed
    obtain ⟨position, _, rfl⟩ := List.mem_map.mp listed
    exact List.pairwise_singleton _ _
  sorted := by
    rw [singletons, List.pairwise_map]
    refine List.pairwise_lt_range.imp ?_
    intro earlier later before source sourceMember target targetMember step
    have stepLt := forward step
    rw [List.mem_singleton] at sourceMember targetMember
    omega

theorem mem_classAt_expand {outer inner : List (List Nat)} :
    position ∈ classAt (expand outer inner) index ↔
      ∃ middle ∈ classAt outer index, position ∈ classAt inner middle := by
  by_cases bound : index < outer.length
  · simp [classAt, expand, bound]
  · simp [classAt, expand, bound]

namespace Regrouping

variable {outer inner : List (List Nat)} {count : Nat}
  {edge : Nat → Nat → Prop}

section

variable (innerGroups : Regrouping inner count edge)
include innerGroups

theorem expand_complete
    (outerComplete : outer.flatten.Perm (List.range inner.length)) :
    (expand outer inner).flatten.Perm (List.range count) := by
  have flat : (expand outer inner).flatten =
      outer.flatten.flatMap (classAt inner) := by
    rw [expand, ← List.flatMap_def, List.flatten_eq_flatMap,
      List.flatMap_assoc]
    rfl
  have spread := outerComplete.flatMap_right (classAt inner)
  rw [flatMap_classAt] at spread
  rw [flat]
  exact spread.trans innerGroups.complete

section

variable (outerGroups : Regrouping outer inner.length (Relabelled inner edge))
include outerGroups

/-- Regroupings compose. -/
theorem comp :
    Regrouping (expand outer inner) count edge where
  complete := innerGroups.expand_complete outerGroups.complete
  unopposed := by
    intro members listed
    obtain ⟨middles, inOuter, rfl⟩ := List.mem_map.mp listed
    rw [List.pairwise_flatMap]
    constructor
    · intro middle _
      by_cases bound : middle < inner.length
      · rw [classAt_of_lt bound]
        exact innerGroups.unopposed _ (List.getElem_mem bound)
      · rw [classAt, List.getD_eq_default _ _ (Nat.le_of_not_lt bound)]
        exact List.Pairwise.nil
    · refine (outerGroups.unopposed middles inOuter).imp ?_
      intro earlier later noPath first firstMember second secondMember path
      apply noPath
      rw [← innerGroups.classOf_eq firstMember,
        ← innerGroups.classOf_eq secondMember]
      exact path_relabel path
  sorted := by
    rw [expand, List.pairwise_map]
    have disjoint := (List.nodup_flatten.mp outerGroups.nodup).2
    refine (outerGroups.sorted.and disjoint).imp ?_
    rintro earlier later ⟨noEdge, separate⟩ source sourceMember target
      targetMember step
    obtain ⟨sourceMiddle, sourceListed, sourceInner⟩ :=
      List.mem_flatMap.mp sourceMember
    obtain ⟨targetMiddle, targetListed, targetInner⟩ :=
      List.mem_flatMap.mp targetMember
    have different : sourceMiddle ≠ targetMiddle := by
      rintro rfl
      exact separate targetListed sourceListed
    exact noEdge sourceMiddle sourceListed targetMiddle targetListed
      ⟨different, source, target, step, innerGroups.classOf_eq sourceInner,
        innerGroups.classOf_eq targetInner⟩

/-- The class of a position in a composition. -/
theorem classOf_expand
    {position : Nat}
    (inside : position < count) :
    classOf (expand outer inner) position =
      classOf outer (classOf inner position) := by
  refine (innerGroups.comp outerGroups).classOf_eq ?_
  exact mem_classAt_expand.mpr ⟨classOf inner position,
      outerGroups.mem_classOf (innerGroups.classOf_lt inside),
      innerGroups.mem_classOf inside⟩

/-- Relabelling twice is relabelling along the composition. -/
theorem relabelled_expand
    (within : Within count edge) (source target : Nat) :
    Relabelled outer (Relabelled inner edge) source target ↔
      Relabelled (expand outer inner) edge source target := by
  constructor
  · rintro ⟨distinct, _, _, ⟨_, oldSource, oldTarget, step, rfl, rfl⟩,
      rfl, rfl⟩
    obtain ⟨sourceInside, targetInside⟩ := within _ _ step
    exact ⟨distinct, oldSource, oldTarget, step,
      classOf_expand innerGroups outerGroups sourceInside,
      classOf_expand innerGroups outerGroups targetInside⟩
  · rintro ⟨distinct, oldSource, oldTarget, step, rfl, rfl⟩
    obtain ⟨sourceInside, targetInside⟩ := within _ _ step
    rw [classOf_expand innerGroups outerGroups sourceInside,
      classOf_expand innerGroups outerGroups targetInside] at distinct ⊢
    refine ⟨distinct, _, _, ⟨?_, _, _, step, rfl, rfl⟩, rfl, rfl⟩
    exact fun equal => distinct (congrArg (classOf outer) equal)

end

end

end Regrouping

/-! ## Permuting and merging -/

/-- One class for each position of a list. -/
def alone (positions : List Nat) : List (List Nat) :=
  positions.map fun position => [position]

theorem flatten_alone (positions : List Nat) :
    (alone positions).flatten = positions := by
  rw [alone, ← List.flatMap_def]
  exact List.flatMap_singleton' positions

theorem unopposed_alone (positions : List Nat) :
    ∀ members ∈ alone positions, members.Pairwise fun earlier later =>
      ¬ ReflTransGen edge later earlier := by
  intro members listed
  obtain ⟨position, _, rfl⟩ := List.mem_map.mp listed
  exact List.pairwise_singleton _ _

/-- A permutation along the dependencies is a regrouping. -/
theorem Regrouping.permute {order : List Nat}
    (complete : order.Perm (List.range count))
    (sorted : order.Pairwise fun earlier later => ¬ edge later earlier) :
    Regrouping (alone order) count edge where
  complete := by rwa [flatten_alone]
  unopposed := unopposed_alone order
  sorted := by
    rw [alone, List.pairwise_map]
    refine sorted.imp ?_
    intro earlier later noEdge source sourceMember target targetMember
    rw [List.mem_singleton] at sourceMember targetMember
    exact sourceMember ▸ targetMember ▸ noEdge

/-- Positions strictly between `first` and `second`. -/
def between (first second : Nat) : List Nat :=
  List.range' (first + 1) (second - (first + 1))

/-- Positions behind `second`. -/
def behind (second count : Nat) : List Nat :=
  List.range' (second + 1) (count - (second + 1))

/-- The merged class stands between the two kinds of movers. -/
def mergeClasses (count first second : Nat) (before after : List Nat) :
    List (List Nat) :=
  alone (List.range first) ++ alone before ++ [[first, second]] ++
    alone after ++ alone (behind second count)

theorem range_split (ordered : first < second)
    (inside : second < count) :
    List.range count =
      List.range first ++ first :: (between first second ++
        second :: behind second count) := by
  have outer : count = first + ((second - first) + (count - second)) := by
    omega
  have inner : second - first = (second - (first + 1)) + 1 := by omega
  have rest : count - second = (count - (second + 1)) + 1 := by omega
  conv_lhs =>
    rw [outer, List.range_eq_range', ← List.range'_append_1,
      ← List.range'_append_1, inner, rest, List.range'_succ,
      List.range'_succ]
  have start : 0 + first + (second - (first + 1) + 1) = second := by omega
  rw [start]
  simp [between, behind, List.range_eq_range']

/-- What the classification of the positions in between has to give. -/
structure Movers (edge : Nat → Nat → Prop) (first second : Nat)
    (before after : List Nat) : Prop where
  split : (before ++ after).Perm (between first second)
  beforeSorted : before.Pairwise (· < ·)
  afterSorted : after.Pairwise (· < ·)
  beforeFree : ∀ x ∈ before,
    ¬ ReflTransGen edge first x ∧ ¬ ReflTransGen edge second x
  beforeFeeds : ∀ x ∈ before,
    ReflTransGen edge x first ∨ ReflTransGen edge x second
  afterFree : ∀ x ∈ after,
    ¬ ReflTransGen edge x first ∧ ¬ ReflTransGen edge x second

namespace Movers

variable {edge : Nat → Nat → Prop} {first second : Nat}
  {before after : List Nat}

variable {x : Nat}

section

variable (movers : Movers edge first second before after)
include movers

theorem before_between (member : x ∈ before) : first < x ∧ x < second := by
  have inBetween := movers.split.mem_iff.mp
    (List.mem_append.mpr (Or.inl member))
  simp only [between, List.mem_range'_1] at inBetween
  omega

theorem after_between (member : x ∈ after) : first < x ∧ x < second := by
  have inBetween := movers.split.mem_iff.mp
    (List.mem_append.mpr (Or.inr member))
  simp only [between, List.mem_range'_1] at inBetween
  omega

/-- A before-mover never depends on an after-mover. -/
theorem no_edge_after_before {y : Nat}
    (beforeMember : x ∈ before) (afterMember : y ∈ after) :
    ¬ edge y x := by
  intro step
  obtain ⟨notFirst, notSecond⟩ := movers.afterFree y afterMember
  rcases movers.beforeFeeds x beforeMember with feeds | feeds
  · exact notFirst (feeds.head step)
  · exact notSecond (feeds.head step)

end

end Movers

variable {before after : List Nat}

theorem mergeClasses_complete
    (ordered : first < second) (inside : second < count)
    (movers : Movers edge first second before after) :
    (mergeClasses count first second before after).flatten.Perm
      (List.range count) := by
  rw [range_split ordered inside, List.perm_iff_count]
  intro position
  have counts := List.perm_iff_count.mp movers.split position
  simp only [List.count_append] at counts
  simp only [mergeClasses, List.flatten_append, flatten_alone,
    List.flatten_singleton, List.count_append, List.count_cons,
    List.count_nil]
  omega

/-- In the merged order nothing depends on a later position. -/
theorem mergeClasses_pairwise (count : Nat)
    (forward : ∀ {source target}, edge source target → source < target)
    (ordered : first < second)
    (movers : Movers edge first second before after) :
    (mergeClasses count first second before after).flatten.Pairwise
      fun earlier later => ¬ edge later earlier := by
  have ascending : ∀ {positions : List Nat},
      positions.Pairwise (· < ·) →
        positions.Pairwise fun earlier later => ¬ edge later earlier := by
    intro positions sorted
    refine sorted.imp fun before step => ?_
    exact absurd (forward step) (Nat.not_lt_of_lt before)
  have pair : [first, second].Pairwise
      fun earlier later => ¬ edge later earlier :=
    ascending (List.pairwise_pair.mpr ordered)
  have highMember : ∀ {x}, x ∈ behind second count → second < x := by
    intro x member
    simp only [behind, List.mem_range'_1] at member
    omega
  simp only [mergeClasses, List.flatten_append, flatten_alone,
    List.flatten_singleton, List.append_assoc]
  refine List.pairwise_append.mpr ⟨ascending List.pairwise_lt_range,
    List.pairwise_append.mpr ⟨ascending movers.beforeSorted,
      List.pairwise_append.mpr ⟨pair,
        List.pairwise_append.mpr ⟨ascending movers.afterSorted,
          ascending List.pairwise_lt_range', ?_⟩, ?_⟩, ?_⟩, ?_⟩
  · intro y afterMember z high step
    have stepLt := forward step
    have yBetween := movers.after_between afterMember
    have zHigh := highMember high
    omega
  · intro p pairMember z later step
    have stepLt := forward step
    rcases List.mem_append.mp later with afterMember | high
    · obtain ⟨notFirst, notSecond⟩ := movers.afterFree z afterMember
      simp only [List.mem_cons, List.not_mem_nil, or_false] at pairMember
      rcases pairMember with rfl | rfl
      · exact notFirst (.single step)
      · exact notSecond (.single step)
    · have zHigh := highMember high
      simp only [List.mem_cons, List.not_mem_nil, or_false] at pairMember
      omega
  · intro x beforeMember z later step
    have stepLt := forward step
    have xBetween := movers.before_between beforeMember
    simp only [List.mem_append, List.mem_cons, List.not_mem_nil,
      or_false] at later
    rcases later with (rfl | rfl) | afterMember | high
    · exact (movers.beforeFree x beforeMember).1 (.single step)
    · exact (movers.beforeFree x beforeMember).2 (.single step)
    · exact movers.no_edge_after_before beforeMember afterMember step
    · have zHigh := highMember high
      omega
  · intro p low z later step
    have stepLt := forward step
    have pLow := List.mem_range.mp low
    simp only [List.mem_append, List.mem_cons, List.not_mem_nil,
      or_false] at later
    rcases later with beforeMember | (rfl | rfl) | afterMember | high
    · have zBetween := movers.before_between beforeMember
      omega
    · omega
    · omega
    · have zBetween := movers.after_between afterMember
      omega
    · have zHigh := highMember high
      omega

/-- Merging two positions around their movers is a regrouping. -/
theorem Regrouping.merge
    (forward : ∀ {source target}, edge source target → source < target)
    (ordered : first < second) (inside : second < count)
    (movers : Movers edge first second before after) :
    Regrouping (mergeClasses count first second before after) count
      edge where
  complete := mergeClasses_complete ordered inside movers
  unopposed := by
    intro members listed
    simp only [mergeClasses, List.mem_append, List.mem_singleton] at listed
    rcases listed with (((low | early) | merged) | late) | high
    · exact unopposed_alone _ members low
    · exact unopposed_alone _ members early
    · subst merged
      refine List.pairwise_pair.mpr fun path => ?_
      have bound : ∀ {target}, ReflTransGen edge second target →
          second ≤ target := by
        intro target path
        induction path with
        | refl => exact Nat.le_refl _
        | tail _ step reached =>
            exact Nat.le_trans reached (Nat.le_of_lt (forward step))
      exact absurd (bound path) (Nat.not_le_of_lt ordered)
    · exact unopposed_alone _ members late
    · exact unopposed_alone _ members high
  sorted := by
    have apart := (List.pairwise_flatten.mp
      (mergeClasses_pairwise count forward ordered movers)).2
    exact apart.imp fun separate source sourceMember target targetMember =>
      separate target targetMember source sourceMember

end Dxmt9.Order
