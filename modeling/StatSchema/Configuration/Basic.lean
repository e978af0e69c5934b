/-
Configurations: a schema with the names, the instrumentation and the overrides of what is generated
from it, and the errors of documents that describe none.
-/
import StatSchema.Definition.Basic
import StatSchema.Hook

namespace StatSchema

/-- Everything that a document configures. -/
structure Configuration where
  schema : Schema := {}
  naming : Naming := {}
  instrumentation : Instrumentation := .enabled
  overrides : List Override := []
  deriving DecidableEq, Repr

/-- What a key should hold. -/
inductive ValueShape where
  | string
  | boolean
  | table
  | strings
  | tables
  deriving DecidableEq, Repr

/-- What is wrong with the description of a metric. -/
inductive MetricProblem where
  | operandsOfBase
  | unknownKind (word : String)
  | unknownOperator (symbol : String)
  | kindAndOperator
  | neither
  deriving DecidableEq, Repr

/-- Why a document is no configuration. -/
inductive ConfigurationError where
  /-- The text is no document. -/
  | unreadable
  | missingKey (key : String)
  | wrongType (key : String) (expected : ValueShape)
  | unknownKey (key : String)
  | invalidMetric (name : String) (problem : MetricProblem)
  | invalidPath (key path : String)
  deriving DecidableEq, Repr

/-! ## Messages -/

/-- What a key should hold, in words. -/
def ValueShape.text : ValueShape → String
  | string => "a string"
  | boolean => "a boolean"
  | table => "a table"
  | strings => "an array of strings"
  | tables => "an array of tables"

/-- What is wrong with a metric, in words. -/
def MetricProblem.text : MetricProblem → String
  | operandsOfBase => "base metrics take no operands"
  | unknownKind word => "unknown kind " ++ inQuotes word ++ ", expected counter, max or sum"
  | unknownOperator symbol => "unknown operator " ++ inQuotes symbol ++ ", expected +, - or /"
  | kindAndOperator => "a metric has either a kind or an operator, not both"
  | neither => "a metric needs a kind (base metric) or an op (compound metric)"

/-- The message of an error. -/
def ConfigurationError.message : ConfigurationError → String
  | unreadable => "schema is not valid TOML"
  | missingKey key => "missing required key " ++ inQuotes key
  | wrongType key expected => inQuotes key ++ " must be " ++ expected.text
  | unknownKey key => "unknown key " ++ inQuotes key
  | invalidMetric name problem => "invalid metric " ++ inQuotes name ++ ": " ++ problem.text
  | invalidPath key path => inQuotes key ++ " is not a Rust path: " ++ inQuotes path

end StatSchema
