/-
Values under numbers, of which all are the same to begin with.
-/
namespace StatSchema

/-- The values that have been assigned, and the value of every other number. -/
structure Slots (α : Type) where
  initial : α
  assigned : List (Nat × α) := []

namespace Slots

variable {α : Type}

/-- The value under a number. -/
def get (slots : Slots α) (number : Nat) : α := (slots.assigned.lookup number).getD slots.initial

/-- Values with the one under a number replaced. -/
def set (slots : Slots α) (number : Nat) (value : α) : Slots α :=
  { slots with assigned := (number, value) :: slots.assigned.filter (·.1 != number) }

/-- The value just set is there. -/
theorem get_set_self (slots : Slots α) (number : Nat) (value : α) :
    (slots.set number value).get number = value := by
  simp [get, set]

/-- Setting one value leaves the others. -/
theorem get_set_of_ne (slots : Slots α) {number other : Nat} (value : α) (h : other ≠ number) :
    (slots.set number value).get other = slots.get other := by
  simp only [get, set, List.lookup_cons, beq_eq_false_iff_ne.2 h]
  congr 1
  induction slots.assigned with
  | nil => rfl
  | cons entry rest ih =>
    obtain ⟨key, _⟩ := entry
    by_cases same : key = number
    · subst same
      simp [List.lookup_cons, beq_eq_false_iff_ne.2 h, ih]
    · by_cases hit : other = key <;> simp [List.lookup_cons, same, hit, ih]

end Slots

end StatSchema
