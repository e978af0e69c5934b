/-
The members of values: fields by name or by number. Two numbers with a point between them are read
as one literal, and written apart.
-/
import StatSchema.Phrase.Basic

namespace StatSchema.Phrase

open Token Lookahead

/-- Whether a literal is a number with a point or an exponent. -/
def isFraction (literal : String) : Bool :=
  isNumber literal && (fractionLength literal.toList).isSome

/-- The number of a field that a literal denotes: a whole number of one word, without a suffix. -/
def fieldNumber (literal : String) : Except Restriction Nat :=
  let (base, text) : Nat × List Char := match literal.toList with
    | '0' :: 'x' :: rest => (16, rest)
    | '0' :: 'o' :: rest => (8, rest)
    | '0' :: 'b' :: rest => (2, rest)
    | text => (10, text)
  let digits := text.filter (· ≠ '_')
  let number := Text.spelled base digits
  if isFraction literal then .error .fractionalInteger
  else if digits.isEmpty || !digits.all (Text.isDigitOf base) then .error .suffixedInteger
  else if number < UInt32.size then .ok number
  else .error .largeInteger

/-- The literal of a field number. -/
def fieldToken (number : Nat) : Token := .literal (String.ofList (Nat.toDigits 10 number))

/-- The texts between the points of a number. -/
def pointParts (word : List Char) : List Char → List (List Char)
  | [] => [word.reverse]
  | c :: rest => if c = '.' then word.reverse :: pointParts [] rest else pointParts (c :: word) rest

/-- Field numbers that are read as one number with a point between them. The answer tells whether
they end in a point, which stands before another member. -/
def numberedMembers : Phrase Bool := do
  match ← rest with
  | ⟨.literal text, span⟩ :: _ =>
    let parts := pointParts [] text.toList
    let pointed := parts.getLast? = some []
    let numbers := (if pointed then parts.dropLast else parts).mapM fun part =>
      fieldNumber (String.ofList part)
    match numbers with
    | .ok numbers =>
      skip 1
      let point : Token := .punctuation '.' .alone
      write ((numbers.map fieldToken).intersperse point)
      if pointed then write [point]
      return pointed
    | .error restriction => failAt span (.restricted restriction)
  | _ => return false

/-- A name or the number of a field, and whether it is a name. -/
def member : Phrase Bool := do
  match ← rest with
  | tokens@(⟨.literal text, _⟩ :: _) =>
    if !isNumber text || isFraction text then unmet [.identifier, .integer]
    else match fieldNumber text with
      | .ok number =>
        skip 1
        write [fieldToken number]
        return false
      | .error restriction => failAt (nextSpan tokens) (.restricted restriction)
  | tokens =>
    if identifierNext tokens then
      copy
      return true
    else unmet [.identifier, .integer]

end StatSchema.Phrase
