/-
Values of a TOML document. Tables are kept sorted by key; dates and times are kept as they are
written, as nothing here computes with them.
-/
import StatSchema.Decimal.Basic

namespace StatSchema.Toml

/-- A value. -/
inductive Value where
  | string (text : String)
  | integer (number : Int)
  /-- A number with a fraction, an infinite one or none. -/
  | float (number : Numeral)
  | boolean (truth : Bool)
  /-- A date, a time of day or both. -/
  | moment (written : String)
  | array (elements : List Value)
  | table (entries : List (String × Value))
  deriving Repr

/-- A table: values by key, sorted by key. -/
abbrev Table := List (String × Value)

/-- Entries sorted by key, which goes by code points. -/
def sorted {α : Type} (entries : List (String × α)) : List (String × α) :=
  entries.mergeSort fun first second => !decide (second.1 < first.1)

end StatSchema.Toml
