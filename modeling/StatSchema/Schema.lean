/-
Statistics schemas as they are declared. A base metric accumulates one word per record; a compound
metric applies one operator to the values of other metrics. Three orders, each of which may leave
metrics out, arrange storage, derivation and display.
-/
namespace StatSchema

/-- How a base metric accumulates. Every kind starts at zero. -/
inductive MetricKind where
  /-- Grows by one per call. -/
  | counter
  /-- Keeps the largest value. -/
  | max
  /-- Adds every value. -/
  | sum
  deriving DecidableEq, Repr

/-- The word for a kind in every notation for schemas. -/
def MetricKind.word : MetricKind → String
  | counter => "counter"
  | max => "max"
  | sum => "sum"

/-- The kind that a word stands for. -/
def MetricKind.ofWord? (word : String) : Option MetricKind :=
  [counter, max, sum].find? (·.word == word)

/-- The operator of a compound metric, applied to its operands from left to right. -/
inductive Operator where
  | add
  | subtract
  | divide
  deriving DecidableEq, Repr

/-- The sign of an operator in every notation for schemas. -/
def Operator.symbol : Operator → String
  | add => "+"
  | subtract => "-"
  | divide => "/"

/-- The operator that a sign stands for. -/
def Operator.ofSymbol? (symbol : String) : Option Operator :=
  [add, subtract, divide].find? (·.symbol == symbol)

/-- A metric that records accumulate. -/
structure BaseMetric where
  name : String
  kind : MetricKind
  deriving DecidableEq, Repr

/-- A metric derived from others. -/
structure CompoundMetric where
  name : String
  operator : Operator
  operands : List String
  deriving DecidableEq, Repr

/-- One declaration of a schema. -/
inductive Declaration where
  | base (metric : BaseMetric)
  | compound (metric : CompoundMetric)
  deriving DecidableEq, Repr

/-- The name that a declaration introduces. -/
def Declaration.name : Declaration → String
  | base metric => metric.name
  | compound metric => metric.name

/-- The three orders of a schema. -/
inductive MetricOrder where
  /-- Base metrics, as the fields of a record. -/
  | storage
  /-- Compound metrics, as they are derived. -/
  | derivation
  /-- All metrics, as the lines of a report. -/
  | display
  deriving DecidableEq, Repr

/-- The word for an order in messages. -/
def MetricOrder.word : MetricOrder → String
  | storage => "storage"
  | derivation => "derivation"
  | display => "display"

/-- The orders as an author lists them. Under `strict` a list that is not empty names all. -/
structure Arrangement where
  storage : List String := []
  derivation : List String := []
  display : List String := []
  strict : Bool := false
  deriving DecidableEq, Repr

/-- A schema: declarations in their order, and the arrangement of the metrics. -/
structure Schema where
  declarations : List Declaration := []
  arrangement : Arrangement := {}
  deriving DecidableEq, Repr

namespace Schema

/-- The base metrics in declaration order. -/
def bases (schema : Schema) : List BaseMetric :=
  schema.declarations.filterMap fun
    | .base metric => some metric
    | .compound _ => none

/-- The compound metrics in declaration order. -/
def compounds (schema : Schema) : List CompoundMetric :=
  schema.declarations.filterMap fun
    | .base _ => none
    | .compound metric => some metric

/-- The declared names in declaration order. -/
def names (schema : Schema) : List String := schema.declarations.map (·.name)

end Schema

end StatSchema
