/-
The lines of reports as they are computed: for a record its own values, for a ledger the reduced
ones and then the lines of each record. A line is computed just before it is written, so a
computation that stops leaves the lines before it.
-/
import StatSchema.Evaluation
import StatSchema.Ledger
import StatSchema.Record
import StatSchema.Report
import StatSchema.Text.Shape

namespace StatSchema

/-- The lines of a text, each of which may fail to be computed. -/
abbrev Lines := List (Except Panic String)

namespace Lines

/-- The whole text, if every line can be computed. -/
def whole (lines : Lines) : Except Panic String := do return String.join (← lines.mapM id)

/-- The lines that are written before one cannot be computed. -/
def written : Lines → List String
  | .ok line :: rest => line :: written rest
  | _ => []

/-- Why the first line that cannot be computed cannot be. -/
def panic? : Lines → Option Panic
  | [] => none
  | .ok _ :: rest => panic? rest
  | .error panic :: _ => some panic

/-- Whether a text has no more than `limit` bytes. The line that exceeds it is still computed, but
none after that. -/
def fit (limit : Nat) : Lines → Except Panic Bool
  | [] => .ok true
  | .ok line :: rest =>
    if limit < line.utf8ByteSize then .ok false else fit (limit - line.utf8ByteSize) rest
  | .error panic :: _ => .error panic

end Lines

/-! ## Outcomes -/

namespace CompiledSchema

/-- The outcomes of all metrics for one record. -/
def recordOutcomes (compiled : CompiledSchema) (overflow : Overflow) (record : Record) : Outcomes :=
  compiled.outcomes overflow fun entry => record.get entry.name

/-- The outcomes of all metrics for a ledger, whose base metrics are reduced. -/
def ledgerOutcomes (compiled : CompiledSchema) (overflow : Overflow) (ledger : Ledger Record) :
    Outcomes :=
  compiled.outcomes overflow fun entry =>
    ledger.reduce entry.kind.reduction fun record => record.get entry.name

end CompiledSchema

/-! ## Lines -/

/-- A line for each labelled metric. -/
def Outcomes.lines (outcomes : Outcomes) (indent : String) (labelled : List (String × String)) :
    Lines :=
  labelled.map fun (metric, label) =>
    (outcomes.of metric).map fun value => indent ++ label ++ value.text ++ "\n"

namespace CompiledSchema

/-- The report of a record. -/
def recordLines (compiled : CompiledSchema) (overflow : Overflow) (record : Record) : Lines :=
  (compiled.recordOutcomes overflow record).lines Report.recordIndent (Report.labelled compiled)

/-- The summary of a ledger. -/
def summaryLines (compiled : CompiledSchema) (overflow : Overflow) (ledger : Ledger Record) :
    Lines :=
  (compiled.ledgerOutcomes overflow ledger).lines "" (Report.labelled compiled)

/-- The reports of all records of a ledger, each under its header and before an empty line. -/
def entryLines (compiled : CompiledSchema) (overflow : Overflow) (ledger : Ledger Record) : Lines :=
  let labelled := Report.labelled compiled
  ledger.subReports .ok fun record =>
    (compiled.recordOutcomes overflow record).lines Report.recordIndent labelled

/-- The report of a ledger: the summary, and under `perRecord` the reports of all records. -/
def ledgerLines (compiled : CompiledSchema) (overflow : Overflow) (perRecord : Bool)
    (ledger : Ledger Record) : Lines :=
  compiled.summaryLines overflow ledger ++
    if perRecord then compiled.entryLines overflow ledger else []

end CompiledSchema

/-! ## Debug output -/

/-- The debug shape of a ledger, given that of its records. -/
def Ledger.shape {ρ : Type} (ledger : Ledger ρ) (shape : ρ → Text.Shape) : Text.Shape :=
  .record "Ledger" [("entries", .list (ledger.entries.map shape))]

/-- The debug shape of a record, under the name of its type. -/
def CompiledSchema.recordShape (compiled : CompiledSchema) (type : String) (record : Record) :
    Text.Shape :=
  .record type
    (compiled.storage.map fun entry => (entry.identifier, .ofWord (record.get entry.name)))

/-- The debug shape of an aggregator, under the names of both types. -/
def CompiledSchema.aggregatorShape (compiled : CompiledSchema) (recordType type : String)
    (ledger : Ledger Record) : Text.Shape :=
  .record type [("ledger", ledger.shape (compiled.recordShape recordType))]

end StatSchema
