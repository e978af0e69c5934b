/-
How tightly the operators of expressions bind, and which of them comes next.
-/
import StatSchema.Token.Lookahead

namespace StatSchema.Phrase

open Token Lookahead

/-- The classes of operators, from the loosest to the tightest. -/
inductive Precedence where
  | jump
  | assignment
  | range
  | or
  | and
  | condition
  | comparison
  | bitOr
  | bitXor
  | bitAnd
  | shift
  | sum
  | product
  | conversion
  deriving DecidableEq, Repr

/-- The place of a class among all of them. -/
def Precedence.rank : Precedence → Nat
  | jump => 0
  | assignment => 1
  | range => 2
  | or => 3
  | and => 4
  | condition => 5
  | comparison => 6
  | bitOr => 7
  | bitXor => 8
  | bitAnd => 9
  | shift => 10
  | sum => 11
  | product => 12
  | conversion => 13

/-- The operators between two operands, one that begins with another one before it. -/
def binaryOperators : List (String × Precedence) :=
  [("+=", .assignment), ("-=", .assignment), ("*=", .assignment), ("/=", .assignment),
    ("%=", .assignment), ("^=", .assignment), ("&=", .assignment), ("|=", .assignment),
    ("<<=", .assignment), (">>=", .assignment), ("&&", .and), ("||", .or), ("<<", .shift),
    (">>", .shift), ("==", .comparison), ("<=", .comparison), ("!=", .comparison),
    (">=", .comparison), ("+", .sum), ("-", .sum), ("*", .product), ("/", .product),
    ("%", .product), ("^", .bitXor), ("&", .bitAnd), ("|", .bitOr), ("<", .comparison),
    (">", .comparison)]

/-- The operator that comes next. -/
def binaryNext? (tokens : List Placed) : Option (String × Precedence) :=
  binaryOperators.find? fun (text, _) => signNext text tokens

/-- Whether an equals sign comes next that is no part of an arrow. -/
def assignmentNext (tokens : List Placed) : Bool := signNext "=" tokens && !signNext "=>" tokens

/-- How tightly what comes next binds what came before it; not at all if it is no operator. -/
def precedenceNext (tokens : List Placed) : Precedence :=
  match binaryNext? tokens with
  | some (_, precedence) => precedence
  | none =>
    if assignmentNext tokens then .assignment
    else if signNext ".." tokens then .range
    else if wordComesNext "as" tokens then .conversion
    else .jump

end StatSchema.Phrase
