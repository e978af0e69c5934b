/-
The generated reports: a line for each metric in display order, for the record its own values and
for the aggregator the reduced ones, followed by the reports of all records.
-/
import StatSchema.Artifact.Aggregator
import StatSchema.Report

namespace StatSchema.Artifact

open StatSchema.Token

/-- The statement that writes one line: the label, the value and a line break. -/
def lineStatement (label identifier : String) : List Token :=
  code ":: core :: writeln !" ++
    parens (code "f ," ++ [.string (label ++ "\x7b\x7d")] ++ code "," ++ accessorCall identifier) ++
    code "? ;"

/-- The statements that write a report, each line after an indent. -/
def lineStatements (compiled : CompiledSchema) (indent : String) :
    Except Failure (List (List Token)) :=
  (Report.labelled compiled).mapM fun (metric, label) =>
    match compiled.find? metric with
    | some entry => .ok (lineStatement (indent ++ label) entry.identifier)
    | none => .error (.defect (.unresolved metric))

/-- The interface of what can be displayed. -/
def displayInterface : List Token := code ":: core :: fmt :: Display for"

/-- The method that displays. -/
def displayMethod (body : List Token) : Routine where
  attributes := []
  qualifiers := code "fn"
  name := "fmt"
  parameters := code "& self , f : & mut :: core :: fmt :: Formatter < '_ >"
  result := code "-> :: core :: fmt :: Result"
  body := body

/-- The end of a method that writes: success. -/
def written : List Token := code ":: core :: result :: Result :: Ok" ++ parens (parens [])

/-- The display of the record. -/
def recordReport (compiled : CompiledSchema) (names : TypeNames) : Except Failure (List Item) := do
  let lines ← lineStatements compiled Report.recordIndent
  return [.implementation [] displayInterface names.record
    [displayMethod (lines.flatten ++ written)]]

/-- The end of a statement that cannot fail, as it writes to a string. -/
def infallibly : List Token :=
  code ". expect" ++
    parens [.string "we expect writing to a String to be infallible"] ++ code ";"

/-- A call that writes the reports of all records. -/
def writeEntries (runtime : Path) (output : List Token) : List Token :=
  ledgerPath runtime ++ code ":: write_entries" ++ parens (code "& self . ledger ," ++ output)

/-- The method that writes the reduced values. -/
def writeSummary (lines : List (List Token)) : Routine where
  attributes :=
    [.comment " Writes one line per metric with the values reduced over the whole ledger."]
  name := "write_summary"
  parameters := code "& self , f : & mut impl :: core :: fmt :: Write"
  result := code "-> :: core :: fmt :: Result"
  body := lines.flatten ++ written

/-- The method that renders the report to a string. -/
def results (runtime : Path) : Routine where
  attributes :=
    [.comment (" Renders the summary, optionally followed by one sub-report per published " ++
        "record."),
      mustUse]
  name := "results"
  parameters := code "& self , per_record : bool"
  result := code "-> :: std :: string :: String"
  body := code "let mut output = :: std :: string :: String :: new" ++ parens [] ++ code ";" ++
    code "self . write_summary" ++ parens (code "& mut output") ++ infallibly ++
    code "if per_record" ++
    braces (writeEntries runtime (code "& mut output") ++ infallibly) ++
    name "output"

/-- The summary of the aggregator and its display. -/
def aggregatorReport (compiled : CompiledSchema) (names : TypeNames) (runtime : Path) :
    Except Failure (List Item) := do
  let lines ← lineStatements compiled ""
  let display := displayMethod (code "self . write_summary" ++ parens (name "f") ++ code "? ;" ++
    writeEntries runtime (name "f"))
  return [.implementation [] [] names.aggregator [writeSummary lines, results runtime],
    .implementation [] displayInterface names.aggregator [display]]

end StatSchema.Artifact
