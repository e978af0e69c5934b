/-
Values of metrics, and the arithmetic on them. Words are checked for overflow or wrap around, as the
generated code is compiled; a division of words by zero stops the computation in either case.
Fractions are doubles, but nothing here depends on how they are computed, so the arithmetic takes
any.
-/
import StatSchema.Decimal.Shortest
import StatSchema.Schema

namespace StatSchema

/-- The value of a metric, with fractions of the type `φ`. -/
inductive Value (φ : Type) where
  | integer (word : UInt64)
  | fraction (number : φ)
  deriving DecidableEq, Repr

/-- Arithmetic on fractions, and the conversion of words to them. -/
structure FractionArithmetic (φ : Type) where
  ofWord : UInt64 → φ
  add : φ → φ → φ
  subtract : φ → φ → φ
  divide : φ → φ → φ

/-- The arithmetic of binary floating-point numbers of 64 bits. -/
def FractionArithmetic.doubles : FractionArithmetic Float where
  ofWord := UInt64.toFloat
  add := (· + ·)
  subtract := (· - ·)
  divide := (· / ·)

/-- Why a computation stops. -/
inductive Panic where
  | divisionByZero
  | addition
  | subtraction
  /-- A record is in use. -/
  | borrowed
  deriving DecidableEq, Repr

/-- The message of a panic. -/
def Panic.message : Panic → String
  | divisionByZero => "attempt to divide by zero"
  | addition => "attempt to add with overflow"
  | subtraction => "attempt to subtract with overflow"
  | borrowed => "RefCell already borrowed"

/-- What a sum or difference does that is no word. -/
inductive Overflow where
  | panics
  | wraps
  deriving DecidableEq, Repr

namespace Value

/-- A value as a fraction. -/
def toFraction {φ : Type} (arithmetic : FractionArithmetic φ) : Value φ → φ
  | integer word => arithmetic.ofWord word
  | fraction number => number

/-- The text of a value in reports. -/
def text : Value Float → String
  | integer word => toString word.toNat
  | fraction number => shortestText number

end Value

namespace Operator

/-- An operator on words. -/
def onWords (overflow : Overflow) : Operator → UInt64 → UInt64 → Except Panic UInt64
  | .add, left, right =>
    if overflow = .panics && UInt64.size ≤ left.toNat + right.toNat then .error .addition
    else .ok (left + right)
  | .subtract, left, right =>
    if overflow = .panics && left < right then .error .subtraction else .ok (left - right)
  | .divide, left, right => if right = 0 then .error .divisionByZero else .ok (left / right)

variable {φ : Type}

/-- An operator on fractions. -/
def onFractions (arithmetic : FractionArithmetic φ) : Operator → φ → φ → φ
  | .add => arithmetic.add
  | .subtract => arithmetic.subtract
  | .divide => arithmetic.divide

/-- One step of a compound: on words if both sides are words and the step is not `widened`, on
fractions otherwise. -/
def step (arithmetic : FractionArithmetic φ) (overflow : Overflow) (operator : Operator)
    (widened : Bool) : Value φ → Value φ → Except Panic (Value φ)
  | .integer left, .integer right =>
    if widened then
      .ok (.fraction
        (operator.onFractions arithmetic (arithmetic.ofWord left) (arithmetic.ofWord right)))
    else (operator.onWords overflow left right).map .integer
  | left, right =>
    .ok (.fraction
      (operator.onFractions arithmetic (left.toFraction arithmetic) (right.toFraction arithmetic)))

/-- Applies an operator to further operands from left to right. An operand is computed just before
its step; the last step of a division is widened. -/
def fold (arithmetic : FractionArithmetic φ) (overflow : Overflow) (operator : Operator)
    (accumulated : Value φ) : List (Except Panic (Value φ)) → Except Panic (Value φ)
  | [] => .ok accumulated
  | operand :: rest => do
    let widened := operator = .divide && rest.isEmpty
    let result ← operator.step arithmetic overflow widened accumulated (← operand)
    operator.fold arithmetic overflow result rest

/-- The value of an operator applied to operands; of none it is zero. -/
def evaluate (arithmetic : FractionArithmetic φ) (overflow : Overflow) (operator : Operator) :
    List (Except Panic (Value φ)) → Except Panic (Value φ)
  | [] => .ok (.integer 0)
  | first :: rest => do operator.fold arithmetic overflow (← first) rest

end Operator

end StatSchema
