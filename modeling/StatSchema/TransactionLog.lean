/-
The configuration that stands in where none is given: statistics of the runtime of a transactional
memory. Commits and aborts count, and the tracking of read and write sets adds up and keeps maxima.
-/
import StatSchema.Configuration.Basic

namespace StatSchema.TransactionLog

/-- The base metrics of each kind. -/
def bases : List (MetricKind × List String) :=
  [(.counter, ["user failures", "failures", "successes", "bloom collisions", "bloom successes",
      "quiesces"]),
    (.max, ["max write size", "max read size"]),
    (.sum, ["reads", "writes"])]

/-- The compound metrics: name, operator and operands. -/
def compounds : List CompoundMetric :=
  [⟨"transactions", .add, ["failures", "successes"]⟩,
    ⟨"internal failures", .subtract, ["failures", "user failures"]⟩,
    ⟨"success rate", .divide, ["successes", "transactions"]⟩,
    ⟨"failure rate", .divide, ["failures", "transactions"]⟩,
    ⟨"internal failure rate", .divide, ["internal failures", "transactions"]⟩,
    ⟨"user failure rate", .divide, ["user failures", "transactions"]⟩,
    ⟨"bloom checks", .add, ["bloom successes", "bloom collisions"]⟩,
    ⟨"bloom collision rate", .divide, ["bloom collisions", "bloom checks"]⟩,
    ⟨"quiesce rate", .divide, ["quiesces", "transactions"]⟩,
    ⟨"average read size", .divide, ["reads", "transactions"]⟩,
    ⟨"average write size", .divide, ["writes", "transactions"]⟩]

/-- The base metrics as they are stored. -/
def storage : List String :=
  ["reads", "writes", "max read size", "max write size", "quiesces", "user failures", "failures",
    "successes", "bloom collisions", "bloom successes"]

/-- The compound metrics as they are derived. -/
def derivation : List String :=
  ["internal failures", "transactions", "success rate", "failure rate", "internal failure rate",
    "user failure rate", "bloom checks", "bloom collision rate", "quiesce rate",
    "average read size", "average write size"]

/-- All metrics as they are shown. -/
def display : List String :=
  ["transactions", "success rate", "failure rate", "quiesce rate", "average write size",
    "average read size", "max write size", "max read size", "bloom collision rate", "reads",
    "writes", "quiesces", "successes", "failures", "internal failure rate", "user failure rate",
    "internal failures", "user failures", "bloom collisions", "bloom successes", "bloom checks"]

/-- The whole configuration. -/
def configuration : Configuration where
  schema := {
    declarations :=
      (bases.flatMap fun (kind, names) => names.map fun name => .base { name, kind }) ++
        compounds.map .compound
    arrangement := { storage, derivation, display } }
  naming := {
    hookPrefix := "log_"
    record := "ThreadRecord"
    aggregator := "TransactionLog"
    module := some "transaction_log" }
  instrumentation := .feature "log-transactions"

end StatSchema.TransactionLog
