import Mathlib.Algebra.Ring.Nat
import Mathlib.Data.List.Basic

/-!
# Undo logs

A store has one value for each component.  A log keeps the first value of the
components that are about to change; as long as nothing else changes, writing
the log back gives the store that the log started from.
-/

namespace Dxmt9.Memory

variable {ι : Type} {Value : ι → Type}
  {saved next : ∀ component, Option (Value component)}
  {current start changed : ∀ component, Value component}

/-- The log holds first values, and nothing else has changed. -/
structure Undoes (saved : ∀ component, Option (Value component))
    (current start : ∀ component, Value component) : Prop where
  kept : ∀ component, saved component = none →
    current component = start component
  first : ∀ component value, saved component = some value →
    value = start component

/-- The store with the log written back. -/
def writeBack (saved : ∀ component, Option (Value component))
    (current : ∀ component, Value component) (component : ι) :
    Value component :=
  (saved component).getD (current component)

/-- A log takes more components in, as they are. -/
def Captures (saved : ∀ component, Option (Value component))
    (current : ∀ component, Value component)
    (next : ∀ component, Option (Value component)) : Prop :=
  ∀ component, next component = saved component ∨
    saved component = none ∧ next component = some (current component)

/-- Only components of the log change. -/
def ChangesOnly (saved : ∀ component, Option (Value component))
    (current changed : ∀ component, Value component) : Prop :=
  ∀ component, saved component = none →
    changed component = current component

theorem undoes_empty (start : ∀ component, Value component) :
    Undoes (fun _ => none) start start :=
  ⟨fun _ _ => rfl, fun _ _ present => nomatch present⟩

section

variable (undoes : Undoes saved current start)
include undoes

theorem Undoes.capture
    (captures : Captures saved current next) :
    Undoes next current start := by
  constructor
  · intro component absent
    rcases captures component with same | ⟨-, present⟩
    · exact undoes.kept component (same.symm.trans absent)
    · exact nomatch present.symm.trans absent
  · intro component value present
    rcases captures component with same | ⟨absent, taken⟩
    · exact undoes.first component value (same.symm.trans present)
    · have isValue := Option.some.inj (taken.symm.trans present)
      exact isValue.symm.trans (undoes.kept component absent)

theorem Undoes.change
    (only : ChangesOnly saved current changed) :
    Undoes saved changed start :=
  ⟨fun component absent =>
    (only component absent).trans (undoes.kept component absent),
    undoes.first⟩

/-- Writing the log back gives the store it started from. -/
theorem Undoes.writeBack_eq :
    writeBack saved current = start := by
  funext component
  unfold writeBack
  cases present : saved component with
  | none => exact undoes.kept component present
  | some value => exact undoes.first component value present

end

theorem captures_refl (current : ∀ component, Value component) :
    Captures saved current saved := fun _ => Or.inl rfl

theorem Captures.trans
    {last : ∀ component, Option (Value component)}
    (first : Captures saved current next)
    (second : Captures next current last) : Captures saved current last := by
  intro component
  rcases second component with same | ⟨absent, taken⟩
  · rw [same]
    exact first component
  · rcases first component with before | ⟨-, present⟩
    · exact Or.inr ⟨before.symm.trans absent, taken⟩
    · exact nomatch present.symm.trans absent

end Dxmt9.Memory
