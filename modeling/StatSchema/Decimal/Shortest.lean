/-
The shortest text of a double: the fewest digits that read back as the same double, and of those
the nearest ones, without an exponent. A double stands for all numbers that are rounded to it, an
interval whose ends belong to it when its significand is even. If any decimal with a given last
place lies in the interval, so does one of the two that enclose the double, so only those are
tried.
-/
import StatSchema.Decimal.Basic

namespace StatSchema

/-- A number in binary: `significand` times two to the `exponent`. -/
structure Binary where
  significand : Nat
  exponent : Int
  deriving DecidableEq, Repr

namespace Binary

/-- The least significand of a double that uses all its digits. -/
def leastNormal : Nat := Nat.pow 2 52

/-- The distance of a finite double from zero. -/
def ofDouble (value : Float) : Binary :=
  let bits := value.toBits.toNat
  let fraction : Nat := bits % leastNormal
  let biased : Nat := bits / leastNormal % 2048
  if biased = 0 then ⟨fraction, -1074⟩ else ⟨leastNormal + fraction, (biased : Int) - 1075⟩

/-- The least number that is rounded to a double: halfway to the one below it, which is nearer at a
power of two. -/
def lower (binary : Binary) : Binary :=
  ⟨4 * binary.significand - if binary.significand = leastNormal then 1 else 2, binary.exponent - 2⟩

/-- The largest number that is rounded to a double. -/
def upper (binary : Binary) : Binary := ⟨4 * binary.significand + 2, binary.exponent - 2⟩

/-- The order of a decimal, `digits` times ten to the `place`, and a number in binary. -/
def compareDecimal (digits : Nat) (place : Int) (binary : Binary) : Ordering :=
  compare (digits * Nat.pow 10 place.toNat * Nat.pow 2 (-binary.exponent).toNat)
    (binary.significand * Nat.pow 2 binary.exponent.toNat * Nat.pow 10 (-place).toNat)

/-- Whether a decimal is rounded to a double. -/
def attracts (binary : Binary) (digits : Nat) (place : Int) : Bool :=
  let closed := binary.significand % 2 = 0
  let above := compareDecimal digits place binary.lower
  let below := compareDecimal digits place binary.upper
  (above = .gt || above = .eq && closed) && (below = .lt || below = .eq && closed)

/-- The largest number of units of ten to the `place` that is not above a double. -/
def units (binary : Binary) (place : Int) : Nat :=
  binary.significand * Nat.pow 2 binary.exponent.toNat * Nat.pow 10 (-place).toNat /
    (Nat.pow 2 (-binary.exponent).toNat * Nat.pow 10 place.toNat)

/-- A place far enough down that every double but zero has digits above it. -/
def lowestPlace : Int := -400

/-- The place of the first digit of a double that is not zero. -/
def leadingPlace (binary : Binary) : Int :=
  lowestPlace + (Nat.toDigits 10 (binary.units lowestPlace)).length - 1

/-- A multiple of ten to the `place`; ten of them are one of the next place. -/
def multiple (significand : Nat) (place : Int) : Decimal :=
  if significand % 10 = 0 then { significand := significand / 10, exponent := place + 1 }
  else { significand, exponent := place }

/-- The multiple of ten to the `place` that is rounded to a double, if there is one next to it; of
two the nearer one, and the larger one if both are as near. -/
def rounded? (binary : Binary) (place : Int) : Option Decimal :=
  let below := binary.units place
  let above := below + 1
  let choice : Option Nat :=
    match binary.attracts below place, binary.attracts above place with
    | false, false => none
    | true, false => some below
    | false, true => some above
    | true, true =>
      if compareDecimal (2 * below + 1) place ⟨binary.significand, binary.exponent + 1⟩ = .gt then
        some below
      else some above
  choice.map (multiple · place)

/-- The decimal with the fewest digits that is rounded to a double; seventeen are always enough. -/
def shortest (binary : Binary) : Decimal :=
  let first := binary.leadingPlace
  ((List.range 17).findSome? fun (further : Nat) => binary.rounded? (first - further)).getD
    (multiple (binary.units (first - 16)) (first - 16))

end Binary

/-- A decimal without an exponent. -/
def Decimal.positional (decimal : Decimal) : String :=
  let digits := Nat.toDigits 10 decimal.significand
  let text :=
    if 0 ≤ decimal.exponent then digits ++ List.replicate decimal.exponent.toNat '0'
    else
      let places := (-decimal.exponent).toNat
      let digits := List.replicate (places + 1 - digits.length) '0' ++ digits
      digits.take (digits.length - places) ++ '.' :: digits.drop (digits.length - places)
  String.ofList (if decimal.negative then '-' :: text else text)

/-- The shortest text of a double. -/
def shortestText (value : Float) : String :=
  let negative : Bool := 0x8000000000000000 ≤ value.toBits
  if value.isNaN then "NaN"
  else if value.isInf then if negative then "-inf" else "inf"
  else
    let binary := Binary.ofDouble value
    let decimal : Decimal :=
      if binary.significand = 0 then { significand := 0, exponent := 0 } else binary.shortest
    { decimal with negative }.positional

end StatSchema
