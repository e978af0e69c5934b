/-
Amounts: numbers of any primitive type, as they are given to hooks and mutators, and the word that
each is converted to.
-/
import StatSchema.Decimal.Basic

namespace StatSchema

/-- A number, character or truth value of a primitive type. -/
inductive Amount where
  | integer (number : Int)
  | single (number : Float32)
  | double (number : Float)
  | character (c : Char)
  | boolean (truth : Bool)

/-- The word that an amount is converted to. A whole number keeps its low 64 bits; one with a
fraction is cut off at the point and at the bounds of words, and none at all counts as zero. -/
def Amount.toWord : Amount → UInt64
  | integer number => UInt64.ofInt number
  | single number => number.toUInt64
  | double number => number.toUInt64
  | character c => c.toNat.toUInt64
  | boolean truth => if truth then 1 else 0

end StatSchema
