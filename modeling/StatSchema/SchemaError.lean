/-
The reasons for which a schema is refused, their messages and the name that each is about.
-/
import StatSchema.Schema
import StatSchema.Text.Escape

namespace StatSchema

/-- Where a name occurs twice. -/
inductive Repetition where
  | declarations
  | order (which : MetricOrder)
  /-- Two metrics that lead to one identifier. -/
  | identifiers (first second : String)
  | overrides
  | typeNames
  deriving DecidableEq, Repr

/-- What is wrong with an order. -/
inductive OrderProblem where
  | unknown (name : String)
  | missing (names : List String)
  /-- The resolved display order repeats an entry. -/
  | repeated
  /-- The resolved display order leaves a metric out. -/
  | neverShown (name : String)
  /-- The resolved display order holds more than the declared metrics. -/
  | undeclared
  deriving DecidableEq, Repr

/-- What is wrong with a name. -/
inductive NameProblem where
  | empty
  | formsNoIdentifier
  | reserved (identifier : String)
  | noSingleIdentifier
  | noIdentifier
  deriving DecidableEq, Repr

/-- A reason to refuse a schema. -/
inductive SchemaError where
  | duplicateName (name : String) (place : Repetition)
  | unknownOperand (compound operand : String)
  | incompleteOrder (order : MetricOrder) (problem : OrderProblem)
  /-- A cycle of operands; the first name is also the last. -/
  | cycle (names : List String)
  | tooFewOperands (compound : String) (count : Nat)
  | invalidName (name : String) (problem : NameProblem)
  | unknownHook (hook : String)
  deriving DecidableEq, Repr

/-! ## Messages -/

/-- The place of a repetition in words. -/
def Repetition.text : Repetition → String
  | declarations => "metric declarations"
  | order which => which.word ++ " order"
  | identifiers first second =>
    "generated identifiers (from '" ++ first ++ "' and '" ++ second ++ "')"
  | overrides => "overrides"
  | typeNames => "type names"

/-- A name in single quotes. -/
def inQuotes (name : String) : String := "'" ++ name ++ "'"

/-- What is wrong with an order, in words. -/
def OrderProblem.text : OrderProblem → String
  | unknown name => inQuotes name ++ " is not a metric this ordering can contain"
  | missing names => "missing " ++ ", ".intercalate (names.map inQuotes)
  | repeated => "an entry appears twice"
  | neverShown name => inQuotes name ++ " is never displayed"
  | undeclared => "it lists metrics the schema does not declare"

/-- What is wrong with a name, in words. -/
def NameProblem.text : NameProblem → String
  | empty => "metric names must not be empty"
  | formsNoIdentifier => "does not form a Rust identifier"
  | reserved identifier => inQuotes identifier ++ " is reserved for a generated item"
  | noSingleIdentifier => "type names must be single identifiers"
  | noIdentifier => "not a valid Rust identifier"

namespace SchemaError

/-- The message of an error. -/
def message : SchemaError → String
  | duplicateName name place => "duplicate name " ++ inQuotes name ++ " in " ++ place.text
  | unknownOperand compound operand =>
    "compound metric " ++ inQuotes compound ++ " references unknown metric " ++ inQuotes operand
  | incompleteOrder order problem => order.word ++ " order is incomplete: " ++ problem.text
  | cycle names => "compound metrics form a cycle: " ++ " -> ".intercalate names
  | tooFewOperands compound count =>
    "compound metric " ++ inQuotes compound ++ " needs at least 2 operands, found " ++
      toString count
  | invalidName name problem => "invalid metric name " ++ inQuotes name ++ ": " ++ problem.text
  | unknownHook hook => "cannot override unknown hook " ++ inQuotes hook

/-- The name that an error is about, if it is about one. -/
def subject? : SchemaError → Option String
  | duplicateName name _ => some name
  | unknownOperand _ operand => some operand
  | incompleteOrder _ _ => none
  | cycle names => names.head?
  | tooFewOperands compound _ => some compound
  | invalidName name _ => some name
  | unknownHook hook => some hook

end SchemaError

/-- A promise between two stages of the compiler that does not hold; no schema breaks one. -/
inductive Defect where
  | unresolved (name : String)
  | operandless (name : String)
  | disagreeingType (name : String)
  deriving DecidableEq, Repr

/-- Why nothing is generated. -/
inductive Failure where
  | refused (error : SchemaError)
  /-- A text spells an identifier in its raw form, which no plain identifier can take. -/
  | rawIdentifier (identifier : String)
  | defect (defect : Defect)
  deriving DecidableEq, Repr

/-- The message of a defect. -/
def Defect.message : Defect → String
  | unresolved name => "no entry for metric " ++ inQuotes name
  | operandless name => "no operands for metric " ++ inQuotes name
  | disagreeingType name => "two value types for metric " ++ inQuotes name

/-- The message of a failure. -/
def Failure.message : Failure → String
  | refused error => error.message
  | rawIdentifier identifier => Text.quoted identifier ++ " is not a valid Ident"
  | defect broken => broken.message

end StatSchema
