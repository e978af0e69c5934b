/-
The classes of characters that decide where a token begins and ends.
-/
import StatSchema.Text.Blank
import StatSchema.Text.Digits
import StatSchema.Text.IdentifierContinue
import StatSchema.Text.IdentifierStart

namespace StatSchema.Token

open StatSchema.Text

/-- The characters that separate tokens: the blanks and the two marks of writing direction. -/
def isSpace (c : Char) : Bool := isBlank c || c = '\u200E' || c = '\u200F'

/-- The characters that may open an identifier: the underscore and the property XID_Start. -/
def opensIdentifier (c : Char) : Bool :=
  if c.toNat < 0x80 then c.isAlpha || c = '_' else identifierStartRanges.covers c

/-- The characters that may continue an identifier: the property XID_Continue. -/
def continuesIdentifier (c : Char) : Bool :=
  if c.toNat < 0x80 then c.isAlphanum || c = '_' else identifierContinueRanges.covers c

/-- The characters that are punctuation tokens. -/
def isPunctuation (c : Char) : Bool := "~!@#$%^&*-=+|;:,<.>/?'".toList.contains c

/-- How far the identifier at the head of a text reaches: zero where there is none. -/
def identifierLength : List Char → Nat
  | c :: rest =>
    if opensIdentifier c then (rest.takeWhile continuesIdentifier).length + 1 else 0
  | [] => 0

end StatSchema.Token
