/-
Decimal numbers, how they are written, and the binary floating-point numbers nearest to them. A
numeral may also stand for an infinite number or for none at all.
-/
import StatSchema.Text.Digits

namespace StatSchema

/-- A number of decimal digits: `significand` times ten to the `exponent`. -/
structure Decimal where
  negative : Bool := false
  significand : Nat
  exponent : Int
  deriving DecidableEq, Repr

namespace Decimal

/-- The double nearest to a decimal. -/
def toDouble (decimal : Decimal) : Float :=
  let magnitude :=
    Float.ofScientific decimal.significand (decimal.exponent < 0) decimal.exponent.natAbs
  if decimal.negative then -magnitude else magnitude

/-- The single nearest to a decimal. -/
def toSingle (decimal : Decimal) : Float32 :=
  let magnitude :=
    Float32.ofScientific decimal.significand (decimal.exponent < 0) decimal.exponent.natAbs
  if decimal.negative then -magnitude else magnitude

end Decimal

/-- What a text for a number stands for. -/
inductive Numeral where
  | finite (value : Decimal)
  | infinite (negative : Bool)
  | notANumber
  deriving DecidableEq, Repr

namespace Numeral

/-- The double that a numeral stands for. -/
def toDouble : Numeral → Float
  | finite value => value.toDouble
  | infinite negative => if negative then -1 / 0 else 1 / 0
  | notANumber => 0 / 0

/-- The single that a numeral stands for. -/
def toSingle : Numeral → Float32
  | finite value => value.toSingle
  | infinite negative => if negative then -1 / 0 else 1 / 0
  | notANumber => 0 / 0

/-! ## Reading -/

/-- A text without the sign before it, and whether that is a minus. -/
def signed : List Char → Bool × List Char
  | '+' :: rest => (false, rest)
  | '-' :: rest => (true, rest)
  | text => (false, text)

/-- The exponent that a text is: nothing, or a mark and digits that may have a sign. -/
def exponent? : List Char → Option Int
  | [] => some 0
  | mark :: rest =>
    let (negative, digits) := signed rest
    if mark.toLower = 'e' && !digits.isEmpty && digits.all Char.isDigit then
      let size : Int := Text.spelled 10 digits
      some (if negative then -size else size)
    else none

/-- The decimal that a text without a sign is: digits, with a point among them or beside them, and
an exponent if there is one. -/
def magnitude? (negative : Bool) (text : List Char) : Option Decimal :=
  let whole := text.takeWhile Char.isDigit
  let rest := text.drop whole.length
  let decimals := if rest.head? = some '.' then (rest.drop 1).takeWhile Char.isDigit else []
  let power := if rest.head? = some '.' then rest.drop (1 + decimals.length) else rest
  if whole.isEmpty && decimals.isEmpty then none
  else (exponent? power).map fun exponent =>
    { negative
      significand := Text.spelled 10 (whole ++ decimals)
      exponent := exponent - decimals.length }

/-- The numeral that a text is. -/
def read? (text : String) : Option Numeral :=
  let (negative, rest) := signed text.toList
  let word := String.ofList (rest.map Char.toLower)
  if word = "inf" || word = "infinity" then some (.infinite negative)
  else if word = "nan" then some .notANumber
  else (magnitude? negative rest).map .finite

end Numeral

end StatSchema
