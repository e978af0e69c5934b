/-
Quoting a text between double quotes. A character without a visible form, or one that combines
with its neighbour, is written by its code point; the quote, the backslash and the common controls
have short escapes. `quoted` is the form of a value in debug output, `literal` the form of a
string literal in source code: they differ only in how a zero character is written.
-/
import StatSchema.Text.GraphemeExtend
import StatSchema.Text.Unprintable

namespace StatSchema.Text

/-- The letters that fill a place in a syllable and have no visible form. -/
def fillers : List Char := ['\u115F', '\u1160', '\u3164', '\uFFA0']

/-- The half-width sound marks, letters that follow another one but show by themselves. -/
def soundMarks : List Char := ['\uFF9E', '\uFF9F']

/-- Whether a character shows only on the one before it. -/
def combines (c : Char) : Bool := graphemeExtendRanges.covers c && !soundMarks.contains c

/-- Whether a character stands for itself between quotes, the short escapes apart. -/
def isPrintable (c : Char) : Bool :=
  c = ' ' || !(unprintableRanges.covers c || fillers.contains c || combines c)

/-- The lower-case hexadecimal digits of a number, without leading zeros. -/
def hexDigits (n : Nat) : List Char := Nat.toDigits 16 n

/-- A character by its code point. -/
def codePointEscape (c : Char) : List Char :=
  ['\\', 'u', '{'] ++ hexDigits c.toNat ++ ['}']

/-- A character as it is written between double quotes. -/
def escaped (c : Char) : List Char :=
  if c = '\x00' then ['\\', '0']
  else if c = '\t' then ['\\', 't']
  else if c = '\n' then ['\\', 'n']
  else if c = '\r' then ['\\', 'r']
  else if c = '"' then ['\\', '"']
  else if c = '\\' then ['\\', '\\']
  else if isPrintable c then [c]
  else codePointEscape c

/-- A text between double quotes, in the form of debug output. -/
def quoted (text : String) : String :=
  String.ofList ('"' :: text.toList.flatMap escaped ++ ['"'])

/-- Whether the next character is an octal digit, which would extend the escape of a zero. -/
def opensWithOctal : List Char → Bool
  | c :: _ => '0' ≤ c && c ≤ '7'
  | [] => false

/-- The characters of a text as they are written in a string literal. -/
def literalChars : List Char → List Char
  | [] => []
  | c :: rest =>
    (if c = '\x00' && opensWithOctal rest then ['\\', 'x', '0', '0'] else escaped c) ++
      literalChars rest

/-- A text as a string literal of source code. -/
def literal (text : String) : String :=
  String.ofList ('"' :: literalChars text.toList ++ ['"'])

end StatSchema.Text
