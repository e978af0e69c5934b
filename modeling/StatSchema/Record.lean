/-
Records: a word for each base metric, in storage order, and the updates of them.
-/
import StatSchema.Compiled

namespace StatSchema

/-- The values of base metrics by name, in storage order. -/
structure Record where
  values : List (String × UInt64)
  deriving DecidableEq, Repr

/-- What an amount does to the value of a base metric. A counter does not look at the amount. -/
def MetricKind.accumulate : MetricKind → UInt64 → UInt64 → UInt64
  | counter, value, _ => value + 1
  | max, value, amount => if value < amount then amount else value
  | sum, value, amount => value + amount

namespace Record

/-- The record of a schema with every metric at zero. -/
def empty (compiled : CompiledSchema) : Record :=
  ⟨compiled.storage.map fun entry => (entry.name, 0)⟩

/-- The value of a metric; of one that is not there it is zero. -/
def get (record : Record) (metric : String) : UInt64 := (record.values.lookup metric).getD 0

/-- A record with one value changed. -/
def modify (record : Record) (metric : String) (change : UInt64 → UInt64) : Record :=
  ⟨record.values.map fun (name, value) => (name, if name = metric then change value else value)⟩

/-- Every value of an empty record is zero. -/
@[simp]
theorem get_empty (compiled : CompiledSchema) (metric : String) :
    (empty compiled).get metric = 0 := by
  simp only [get, empty]
  induction compiled.storage with
  | nil => rfl
  | cons entry rest ih =>
    by_cases hit : metric = entry.name
    · simp [hit]
    · simpa [List.lookup_cons, beq_eq_false_iff_ne.2 hit] using ih

/-- Changing one value leaves the others. -/
theorem get_modify_of_ne (record : Record) {metric other : String} (change : UInt64 → UInt64)
    (h : other ≠ metric) : (record.modify metric change).get other = record.get other := by
  obtain ⟨values⟩ := record
  simp only [get, modify]
  induction values with
  | nil => rfl
  | cons entry rest ih =>
    obtain ⟨name, value⟩ := entry
    by_cases hit : other = name
    · subst hit
      simp [h]
    · simpa [List.lookup_cons, beq_eq_false_iff_ne.2 hit] using ih

/-- A value that is there is changed. -/
theorem get_modify_self (record : Record) {metric : String} (change : UInt64 → UInt64)
    (h : metric ∈ record.values.map (·.1)) :
    (record.modify metric change).get metric = change (record.get metric) := by
  obtain ⟨values⟩ := record
  simp only [get, modify]
  induction values with
  | nil => cases h
  | cons entry rest ih =>
    obtain ⟨name, value⟩ := entry
    by_cases hit : metric = name
    · subst hit
      simp
    · have later : metric ∈ rest.map (·.1) := by simpa [hit] using h
      simpa [List.lookup_cons, beq_eq_false_iff_ne.2 hit] using ih later

/-- A record after the mutator of a base metric has been called so many times. -/
def mutate (record : Record) (entry : BaseEntry) (amount : UInt64) (times : Nat) : Record :=
  record.modify entry.name fun value =>
    times.repeat (fun value => entry.kind.accumulate value amount) value

end Record

end StatSchema
