/-
Counts under labels, the simplest records that a ledger may hold.
-/
import StatSchema.Report.Lines

namespace StatSchema

/-- A count under a label. -/
structure LabelledCount where
  label : String
  hits : UInt64
  deriving DecidableEq, Repr

namespace LabelledCount

/-- The line of a count. -/
def report (count : LabelledCount) : String :=
  Report.recordIndent ++ count.label ++ ": " ++ toString count.hits.toNat ++ "\n"

/-- The debug shape of a count. -/
def shape (count : LabelledCount) : Text.Shape :=
  .record "Entry" [("label", .ofText count.label), ("hits", .ofWord count.hits)]

/-- A number that a count has. -/
inductive Measure where
  | hits
  | labelBytes
  | doubled
  | zero
  deriving DecidableEq, Repr

/-- The number that a count has. -/
def Measure.of : Measure → LabelledCount → UInt64
  | hits, count => count.hits
  | labelBytes, count => count.label.utf8ByteSize.toUInt64
  | doubled, count => count.hits * 2
  | zero, _ => 0

end LabelledCount

end StatSchema
