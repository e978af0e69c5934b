/-
Canonical equivalence of texts. A letter with its accents can be written as one character or as several,
and marks of different classes in any order; texts that differ in nothing else have one decomposition.
-/
import StatSchema.Text.CombiningClass
import StatSchema.Text.Decomposition

namespace StatSchema.Text

/-! ## Characters -/

/-- The letters of the syllable of Hangul at an index: a consonant, a vowel, and a consonant that may be
missing. -/
def syllableLetters (index : Nat) : List Nat :=
  [0x1100 + index / 588, 0x1161 + index % 588 / 28] ++
    if index % 28 = 0 then [] else [0x11A7 + index % 28]

/-- The decomposition that the table has of a code point. -/
def decomposition? (code : Nat) : Option (List Nat) :=
  decompositions.findSome? fun (first, texts) =>
    if first ≤ code then texts[code - first]? else none

/-- The canonical decomposition of a character. -/
def decomposedChar (c : Char) : List Char :=
  if c.toNat < 0xC0 then [c]
  else if 0xAC00 ≤ c.toNat && c.toNat ≤ 0xD7A3 then
    (syllableLetters (c.toNat - 0xAC00)).map Char.ofNat
  else
    match decomposition? c.toNat with
    | some letters => letters.map Char.ofNat
    | none => [c]

/-- The canonical combining class of a character without a decomposition. Marks that combine with a letter
at one place have one class; whatever begins a letter has class zero. -/
def combiningClass (c : Char) : Nat :=
  if c.toNat < 0x300 then 0
  else
    match combiningClasses.find? fun (first, last, _) => first ≤ c.toNat && c.toNat ≤ last with
    | some (_, _, mark) => mark
    | none => 0

/-! ## Texts -/

/-- Whether a mark comes before another one at the same letter. -/
def precedes (mark other : Char) : Bool :=
  0 < combiningClass mark && combiningClass mark < combiningClass other

/-- A text in canonical order with a character before it, which goes behind the marks that precede it. -/
def putInOrder (c : Char) : List Char → List Char
  | [] => [c]
  | d :: rest => if precedes d c then d :: putInOrder c rest else c :: d :: rest

/-- A text with the marks at each letter sorted by their classes. -/
def inOrder (text : List Char) : List Char := text.foldr putInOrder []

/-- The canonical decomposition of a text. Two texts are canonically equivalent if they have the same. -/
def decomposed (text : List Char) : List Char := inOrder (text.flatMap decomposedChar)

end StatSchema.Text
