/-
The constructs of code that hold one another, and what a reader of one tells of what it has read.
The readers of a grammar are put together from those of one that goes less deep.
-/
import StatSchema.Phrase.Basic
import StatSchema.Phrase.Precedence

namespace StatSchema.Phrase

/-- What a type is, as far as the constructs around it depend on it. -/
inductive TypeForm where
  /-- A single segment, at most with arguments between angle brackets. -/
  | name
  /-- Any other path that is not qualified by a type. -/
  | path
  /-- A single bound that is written without a word before it. -/
  | bound
  /-- A type in parentheses. -/
  | grouped
  | other
  deriving DecidableEq, Repr

/-- What a bound is, as far as the constructs around it depend on it: a trait, or anything else and
where it ends. -/
inductive BoundForm where
  | trait
  | other (stop : Token.Position)
  deriving DecidableEq, Repr

/-- What an expression is, as far as the constructs around it depend on it. -/
inductive ExpressionForm where
  | range
  | comparison
  /-- A construct that ends in a block and is a statement by itself. -/
  | block
  /-- A call that expands to code, with curly braces. -/
  | bracedCall
  | other
  deriving DecidableEq, Repr

/-- The readers of the constructs that hold one another. -/
structure Grammar where
  /-- The number of tokens of the source, which bounds every repetition. -/
  size : Nat
  /-- A type, which may be a sum of bounds if `sums`. -/
  type : (sums : Bool) → Phrase TypeForm
  /-- A bound, which may be a list of captures if `captures` and constant if `constants`. -/
  bound : (captures constants : Bool) → Phrase BoundForm
  /-- An expression without binary operators, which may be a structure if `structures`. -/
  operand : (structures : Bool) → Phrase ExpressionForm
  /-- The operators after an expression that bind no looser than a class, with their operands. -/
  operations : (structures : Bool) → Precedence → ExpressionForm → Phrase ExpressionForm
  /-- An expression that ends early, as a statement or the body of a match does: after a construct
  that ends in a block, only a member or a question mark continues it. -/
  early : Phrase ExpressionForm
  /-- A pattern without alternatives. If it is a range that is open on a side, the answer is the
  place of its dots. -/
  pattern : Phrase (Option Token.Span)
  /-- Statements up to the end of the group. -/
  statements : Phrase Unit

namespace Grammar

variable (grammar : Grammar)

/-- An expression, which may be a structure if `structures`. -/
def expressionIn (structures : Bool) : Phrase ExpressionForm := do
  let first ← grammar.operand structures
  grammar.operations structures .jump first

/-- An expression. -/
def expression : Phrase Unit := discard (grammar.expressionIn true)

/-- A type. -/
def anyType : Phrase Unit := discard (grammar.type true)

/-- Entries separated by commas up to the end of the group. -/
def list (entry : Phrase Unit) : Phrase Unit := separated Lookahead.atEnd entry grammar.size

/-- Takes steps until one answers that it was the last. -/
def repeated (step : Phrase Bool) : Phrase Unit := steps step grammar.size

/-- Bounds with plus signs between them up to what ends them, and whether there are any. -/
def bounds (ends : List Token.Placed → Bool) : Phrase Bool := do
  let any := !ends (← rest)
  grammar.repeated do
    if ends (← rest) then return false
    discard (grammar.bound false true)
    optionalSign "+"
  return any

end Grammar

end StatSchema.Phrase
