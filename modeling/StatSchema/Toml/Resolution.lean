/-
Resolving the values of a document. A number must fit its type: a whole one 64 bits with a sign, any
other the range of a double. A table whose least key is the one that dates and times go by stands
for the date or time that it holds there as a string; what else is in it does not count.
-/
import StatSchema.Toml.Scalar

namespace StatSchema.Toml

/-- The key by which a table stands for a date or a time. -/
def momentKey : String := "$__toml_private_datetime"

/-- Whether a whole number fits 64 bits with a sign. -/
def fitsWord (number : Int) : Bool :=
  Int64.minValue.toInt ≤ number && number ≤ Int64.maxValue.toInt

/-- Whether a number is within the range of doubles, unless it is meant to be infinite. -/
def fitsDouble : Numeral → Bool
  | .finite decimal => !decimal.toDouble.isInf
  | _ => true

/-- The date or time that a string is. -/
def momentOf? : Value → Option Value
  | .string text => if isMoment text.toList then some (.moment text) else none
  | _ => none

mutual

/-- The value that a written one stands for. -/
def Value.resolve? : Value → Option Value
  | .integer number => if fitsWord number then some (.integer number) else none
  | .float number => if fitsDouble number then some (.float number) else none
  | .array elements => (resolveAll? elements).map .array
  | .table [] => some (.table [])
  | .table ((key, value) :: rest) =>
    if key = momentKey then momentOf? value
    else match value.resolve?, resolveEntries? rest with
      | some value, some rest => some (.table ((key, value) :: rest))
      | _, _ => none
  | value => some value

/-- The values that the elements of an array stand for. -/
def resolveAll? : List Value → Option (List Value)
  | [] => some []
  | value :: rest =>
    match value.resolve?, resolveAll? rest with
    | some value, some rest => some (value :: rest)
    | _, _ => none

/-- Entries with the values that theirs stand for. -/
def resolveEntries? : List (String × Value) → Option (List (String × Value))
  | [] => some []
  | (key, value) :: rest =>
    match value.resolve?, resolveEntries? rest with
    | some value, some rest => some ((key, value) :: rest)
    | _, _ => none

end

end StatSchema.Toml
