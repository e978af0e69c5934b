/-
The layout of reports. Every metric has a line, in display order; the labels of all lines are
padded to one width, so that the values begin in one column. The lines of a record are indented.
-/
import StatSchema.Compiled

namespace StatSchema.Report

/-- What stands before each line of a record. -/
def recordIndent : String := "    "

/-- The label of a metric, before padding. -/
def label (metric : String) : String := Name.pretty metric ++ ":"

/-- The width of padded labels: one more than the longest label has characters. -/
def width (labels : List String) : Nat := (labels.map String.length).foldl max 0 + 1

/-- A text with spaces after it up to a width. -/
def padded (width : Nat) (text : String) : String := text.pushn ' ' (width - text.length)

/-- The metrics in display order, each with its padded label. -/
def labelled (compiled : CompiledSchema) : List (String × String) :=
  let width := width (compiled.display.map label)
  compiled.display.map fun metric => (metric, padded width (label metric))

end StatSchema.Report
