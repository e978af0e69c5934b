/-
Scalars that are written without quotes: truth values, whole numbers in four bases, numbers with a
fraction, and dates and times.
-/
import StatSchema.Decimal.Basic
import StatSchema.Text.Digits
import StatSchema.Toml.Value

namespace StatSchema.Toml

open Text (isDigitOf spelled)

/-! ## Digits -/

/-- Digits, one or more, without the underscores that may stand between two of them. -/
def digits? (base : Nat) : List Char → Option (List Char)
  | [] => none
  | [c] => if isDigitOf base c then some [c] else none
  | c :: '_' :: rest => if isDigitOf base c then (digits? base rest).map (c :: ·) else none
  | c :: rest => if isDigitOf base c then (digits? base rest).map (c :: ·) else none

/-- Decimal digits that do not begin with a needless zero. -/
def whole? (text : List Char) : Option (List Char) :=
  match digits? 10 text with
  | some ('0' :: _ :: _) => none
  | digits => digits

/-! ## Numbers -/

/-- A whole number; only a decimal one has a sign. -/
def integer? (text : List Char) : Option Int :=
  match text with
  | '0' :: 'x' :: rest => (digits? 16 rest).map fun digits => spelled 16 digits
  | '0' :: 'o' :: rest => (digits? 8 rest).map fun digits => spelled 8 digits
  | '0' :: 'b' :: rest => (digits? 2 rest).map fun digits => spelled 2 digits
  | _ =>
    let (negative, rest) := Numeral.signed text
    (whole? rest).map fun digits =>
      if negative then -(spelled 10 digits : Int) else spelled 10 digits

/-- The number that an exponent spells. -/
def exponent? (text : List Char) : Option Int :=
  let (negative, rest) := Numeral.signed text
  (digits? 10 rest).map fun digits =>
    if negative then -(spelled 10 digits : Int) else spelled 10 digits

/-- The decimal that a text without a sign is, with a fraction, an exponent or both. -/
def magnitude? (text : List Char) : Option Decimal := do
  let marks (c : Char) : Bool := c = 'e' || c = 'E'
  let mantissa := text.takeWhile (!marks ·)
  let power := text.dropWhile (!marks ·)
  let fraction := mantissa.dropWhile (· ≠ '.')
  let whole ← whole? (mantissa.takeWhile (· ≠ '.'))
  let decimals ← if fraction.isEmpty then some [] else digits? 10 (fraction.drop 1)
  let exponent ← if power.isEmpty then some 0 else exponent? (power.drop 1)
  if fraction.isEmpty && power.isEmpty then none
  else some {
    significand := spelled 10 (whole ++ decimals)
    exponent := exponent - decimals.length }

/-- The number that a text is, with a fraction, infinite or none. -/
def numeral? (text : List Char) : Option Numeral :=
  let (negative, rest) := Numeral.signed text
  if rest = ['i', 'n', 'f'] then some (.infinite negative)
  else if rest = ['n', 'a', 'n'] then some .notANumber
  else (magnitude? rest).map fun decimal => .finite { decimal with negative }

/-! ## Dates and times -/

/-- A number of a given count of digits at the head of a text, within bounds. -/
def field? (count least most : Nat) (text : List Char) : Option (Nat × List Char) :=
  let digits := text.take count
  let number := spelled 10 digits
  if digits.length = count && digits.all Char.isDigit && least ≤ number && number ≤ most then
    some (number, text.drop count)
  else none

/-- The number of days of a month. -/
def daysOf (year month : Nat) : Nat :=
  if month = 2 then
    if year % 4 = 0 && (year % 100 ≠ 0 || year % 400 = 0) then 29 else 28
  else if [4, 6, 9, 11].contains month then 30
  else 31

/-- What follows a character that must come next. -/
def after? (c : Char) : List Char → Option (List Char)
  | next :: rest => if next = c then some rest else none
  | [] => none

/-- What follows a date. -/
def afterDate? (text : List Char) : Option (List Char) := do
  let (year, rest) ← field? 4 0 9999 text
  let (month, rest) ← field? 2 1 12 (← after? '-' rest)
  let (_, rest) ← field? 2 1 (daysOf year month) (← after? '-' rest)
  return rest

/-- What follows the seconds of a time, with the fraction that they may have. -/
def afterSeconds? (text : List Char) : Option (List Char) := do
  let (_, rest) ← field? 2 0 60 text
  match rest with
  | '.' :: fraction =>
    if fraction.head?.any Char.isDigit then some (fraction.dropWhile Char.isDigit) else none
  | _ => some rest

/-- What follows a time of day, which may leave its seconds out. -/
def afterTime? (text : List Char) : Option (List Char) := do
  let (_, rest) ← field? 2 0 23 text
  let (_, rest) ← field? 2 0 59 (← after? ':' rest)
  match rest with
  | ':' :: seconds => afterSeconds? seconds
  | _ => some rest

/-- Whether a text is nothing or a distance from universal time. -/
def isOffset (text : List Char) : Bool :=
  match text with
  | [] => true
  | ['Z'] => true
  | ['z'] => true
  | sign :: rest =>
    (sign = '+' || sign = '-') &&
      match field? 2 0 23 rest with
      | some (_, ':' :: minutes) => (field? 2 0 59 minutes).any (·.2.isEmpty)
      | _ => false

/-- Whether a text is a date, a time of day, or a date with a time. -/
def isMoment (text : List Char) : Bool :=
  match afterDate? text with
  | some [] => true
  | some (mark :: time) =>
    [' ', 'T', 't'].contains mark && (afterTime? time).any isOffset
  | none => afterTime? text = some []

/-! ## All scalars -/

/-- The scalar that a text without quotes is. -/
def scalar? (text : List Char) : Option Value :=
  if text = ['t', 'r', 'u', 'e'] then some (.boolean true)
  else if text = ['f', 'a', 'l', 's', 'e'] then some (.boolean false)
  else match integer? text with
    | some number => some (.integer number)
    | none =>
      match numeral? text with
      | some number => some (.float number)
      | none => if isMoment text then some (.moment (String.ofList text)) else none

end StatSchema.Toml
