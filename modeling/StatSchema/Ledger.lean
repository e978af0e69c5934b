/-
Ledgers: the records published to an aggregator, in the order of publication, what is reduced over
them and the report of each. Totals wrap around at the size of a word.
-/
import StatSchema.Schema

namespace StatSchema

/-- Records in the order of their publication. -/
structure Ledger (ρ : Type) where
  entries : List ρ := []
  deriving DecidableEq, Repr

/-- How a field of all records is reduced to one value. -/
inductive Reduction where
  | total
  | max
  deriving DecidableEq, Repr

/-- Counters and sums are totalled; of maxima the largest is taken. -/
def MetricKind.reduction : MetricKind → Reduction
  | counter => .total
  | max => .max
  | sum => .total

namespace Ledger

variable {ρ : Type}

/-- Appends records. -/
def publishAll (ledger : Ledger ρ) (records : List ρ) : Ledger ρ := ⟨ledger.entries ++ records⟩

/-- Appends a record. -/
def publish (ledger : Ledger ρ) (record : ρ) : Ledger ρ := ledger.publishAll [record]

/-- The ledger without its records. -/
def clear (_ledger : Ledger ρ) : Ledger ρ := {}

/-- A published record comes last. -/
@[simp]
theorem entries_publish (ledger : Ledger ρ) (record : ρ) :
    (ledger.publish record).entries = ledger.entries ++ [record] := rfl

/-- A cleared ledger holds nothing. -/
@[simp]
theorem entries_clear (ledger : Ledger ρ) : ledger.clear.entries = [] := rfl

/-- How many records there are. -/
def length (ledger : Ledger ρ) : Nat := ledger.entries.length

/-- Whether there is no record. -/
def isEmpty (ledger : Ledger ρ) : Bool := ledger.entries.isEmpty

/-- The sum of a field over all records, which wraps around. -/
def total (ledger : Ledger ρ) (field : ρ → UInt64) : UInt64 :=
  ledger.entries.foldl (fun sum record => sum + field record) 0

/-- The largest value of a field, or zero if there is no record. -/
def max (ledger : Ledger ρ) (field : ρ → UInt64) : UInt64 :=
  ledger.entries.foldl
    (fun largest record => if largest < field record then field record else largest) 0

/-- A field reduced over all records. -/
def reduce (ledger : Ledger ρ) (reduction : Reduction) (field : ρ → UInt64) : UInt64 :=
  match reduction with
  | .total => ledger.total field
  | .max => ledger.max field

/-! ## Sub-reports -/

/-- The line above the report of the record at an index. -/
def header (index : Nat) : String :=
  let digits := toString index
  "--== Thread: " ++ "".pushn ' ' (4 - digits.length) ++ digits ++ " ==--\n"

/-- The parts of all sub-reports: for each record its header, the parts of its `body`, and the break
that leaves a line empty. -/
def subReports {α : Type} (ledger : Ledger ρ) (fixed : String → α) (body : ρ → List α) : List α :=
  ledger.entries.zipIdx.flatMap fun (record, index) =>
    fixed (header index) :: body record ++ [fixed "\n"]

/-- The reports of all records, each under its header and before an empty line. -/
def text (ledger : Ledger ρ) (report : ρ → String) : String :=
  String.join (ledger.subReports id fun record => [report record])

end Ledger

end StatSchema
