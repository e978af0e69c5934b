/-
Case by the full Unicode mappings, which may take one character to several. Lower-casing a word
writes a sigma that closes it in its final form; the character-wise maps know no context.
-/
import StatSchema.Text.Cased
import StatSchema.Text.CaseIgnorable
import StatSchema.Text.LowercaseMap
import StatSchema.Text.Uppercase
import StatSchema.Text.UppercaseExpansions
import StatSchema.Text.UppercaseMap

namespace StatSchema.Text

/-- The Unicode property Uppercase. -/
def isUppercase (c : Char) : Bool :=
  uppercaseRuns.any fun (first, last, step) =>
    first ≤ c.toNat && c.toNat ≤ last && (c.toNat - first) % step == 0

/-- The Unicode property Cased. -/
def isCased (c : Char) : Bool := casedRanges.covers c

/-- The Unicode property Case_Ignorable. -/
def isCaseIgnorable (c : Char) : Bool := caseIgnorableRanges.covers c

/-- The lower case of one character; only a capital I with a dot becomes two. -/
def lowerChar (c : Char) : List Char :=
  if c = '\u0130' then ['i', '\u0307'] else [shifted lowercaseShifts c]

/-- The upper case of one character, up to three characters long. -/
def upperChar (c : Char) : List Char :=
  match uppercaseExpansions.lookup c.toNat with
  | some expansion => expansion.map Char.ofNat
  | none => [shifted uppercaseShifts c]

/-! ## Words -/

/-- Whether the first character that no case rule looks through has a case. -/
def meetsCased (text : List Char) : Bool :=
  match text.dropWhile isCaseIgnorable with
  | c :: _ => isCased c
  | [] => false

/-- The lower case of a text that follows `before`, which is given last character first. A sigma
after a cased character and before none is written in its final form. -/
def lowerAfter (before : List Char) : List Char → List Char
  | [] => []
  | c :: rest =>
    let lower :=
      if c = '\u03A3' then
        [if meetsCased before && !meetsCased rest then '\u03C2' else '\u03C3']
      else lowerChar c
    lower ++ lowerAfter (c :: before) rest

/-- The lower case of a word. -/
def lowerWord (word : List Char) : List Char := lowerAfter [] word

/-- A word with its first character in upper case and every other in its own lower case. -/
def capitalized : List Char → List Char
  | [] => []
  | c :: rest => upperChar c ++ rest.flatMap lowerChar

end StatSchema.Text
