/-
The expressions that compute compound metrics. Operands are read through their accessors and
combined from left to right. A step with a fraction on either side, or the last step of a division,
is done on fractions: a whole side of it is converted just before. Expressions are trees; the tokens
of a tree are read back as that tree by the precedence of conversions over division, and of division
over addition and subtraction.
-/
import StatSchema.Compiled
import StatSchema.Token.Basic

namespace StatSchema

open Token

/-- An expression over references to metrics. -/
inductive Expression (ρ : Type) where
  /-- The value of another metric, through its accessor. -/
  | accessor (metric : ρ)
  /-- A whole number converted to a fraction. -/
  | converted (inner : Expression ρ)
  /-- An expression in parentheses. -/
  | grouped (inner : Expression ρ)
  /-- Two expressions combined. -/
  | combined (operator : Operator) (left right : Expression ρ)
  deriving DecidableEq, Repr

/-- The token of an operator. -/
def Operator.token : Operator → Token
  | add => .punctuation '+' .alone
  | subtract => .punctuation '-' .alone
  | divide => .punctuation '/' .alone

/-- A call of an accessor on the value at hand. -/
def accessorCall (identifier : String) : List Token :=
  code "self ." ++ [.identifier identifier] ++ parens []

namespace Expression

/-- The tokens of an expression, given the identifiers of the metrics. -/
def tokens {ρ : Type} (identifier : ρ → String) : Expression ρ → List Token
  | accessor metric => accessorCall (identifier metric)
  | converted inner => inner.tokens identifier ++ code "as f64"
  | grouped inner => parens (inner.tokens identifier)
  | combined operator left right =>
    left.tokens identifier ++ operator.token :: right.tokens identifier

/-- Converts an operand, or the result of earlier steps, of the given type to a step's type. -/
def toType {ρ : Type} (single : Bool) (source target : ValueType) (expression : Expression ρ) :
    Expression ρ :=
  if target = .fraction && source = .integer then
    converted (if single then expression else grouped expression)
  else expression

/-- Applies an operator to further operands. `single` tells that the expression so far is one
operand. The answer comes with its type. -/
def fold {ρ : Type} (valueType : ρ → ValueType) (operator : Operator) (single : Bool)
    (accumulated : Expression ρ) (accumulatedType : ValueType) :
    List ρ → Expression ρ × ValueType
  | [] => (accumulated, accumulatedType)
  | operand :: rest =>
    let operandType := valueType operand
    let resultType :=
      accumulatedType.combine operandType (operator = .divide && rest.isEmpty)
    let left := toType single accumulatedType resultType accumulated
    let right := toType true operandType resultType (accessor operand)
    fold valueType operator false (combined operator left right) resultType rest

/-- The expression of an operator applied to operands, with its type, if there are any operands. -/
def ofOperands? {ρ : Type} (valueType : ρ → ValueType) (operator : Operator) :
    List ρ → Option (Expression ρ × ValueType)
  | [] => none
  | first :: rest => some (fold valueType operator true (accessor first) (valueType first) rest)

end Expression

namespace CompiledSchema

/-- The compiled metrics of some names, every one of which must have one. -/
def entries (compiled : CompiledSchema) (names : List String) : Except Failure (List Entry) :=
  names.mapM fun name =>
    match compiled.find? name with
    | some entry => .ok entry
    | none => .error (.defect (.unresolved name))

/-- The expression that computes a compound metric, which has the type of the metric. -/
def expression (compiled : CompiledSchema) (compound : CompoundEntry) :
    Except Failure (Expression Entry) := do
  let operands ← compiled.entries compound.operands
  match Expression.ofOperands? Entry.valueType compound.operator operands with
  | none => .error (.defect (.operandless compound.name))
  | some (expression, valueType) =>
    if valueType = compound.valueType then .ok expression
    else .error (.defect (.disagreeingType compound.name))

end CompiledSchema

end StatSchema
