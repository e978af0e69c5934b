/-
The number type of every metric. Base metrics are whole; a compound is a fraction as soon as it
divides or takes in a fraction.
-/
import StatSchema.Schema

namespace StatSchema

/-- The number type of a value. -/
inductive ValueType where
  /-- A 64-bit word. -/
  | integer
  /-- A double. -/
  | fraction
  deriving DecidableEq, Repr

/-- The type of a step that combines two values, the right one being converted under `widened`. -/
def ValueType.combine (left right : ValueType) (widened : Bool) : ValueType :=
  if left = .fraction || right = .fraction || widened then .fraction else .integer

/-- The type of applying an operator to further operands. Only the last operand of a division is
converted. -/
def Operator.foldType (operator : Operator) (accumulated : ValueType) :
    List ValueType → ValueType
  | [] => accumulated
  | operand :: rest =>
    operator.foldType (accumulated.combine operand (operator = .divide && rest.isEmpty)) rest

/-- The type of a compound whose operands have the given types. -/
def Operator.resultType (operator : Operator) : List ValueType → ValueType
  | [] => .integer
  | first :: rest => operator.foldType first rest

/-- The type that a list gives to a metric; one that it does not name is whole. -/
def typeIn (types : List (String × ValueType)) (name : String) : ValueType :=
  (types.lookup name).getD .integer

/-- The types of compounds that come after the compounds among their operands. -/
def compoundTypes (compounds : List CompoundMetric) : List (String × ValueType) :=
  compounds.foldl
    (fun types compound =>
      let operands := compound.operands.map (typeIn types)
      types ++ [(compound.name, compound.operator.resultType operands)])
    []

end StatSchema
