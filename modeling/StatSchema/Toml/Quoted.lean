/-
Quoted strings of a TOML document: basic ones, in which a backslash escapes, and literal ones, each
on a line of their own or over several lines. Every reader is given what follows the opening mark
and answers with the text and with what follows the closing one.
-/
import StatSchema.Text.Digits

namespace StatSchema.Toml

open Text (isDigitOf spelled)

/-! ## Characters -/

/-- Whether a character may stand in a line: no control but the tab. -/
def isLineChar (c : Char) : Bool := c = '\t' || (0x20 ≤ c.toNat && c.toNat ≠ 0x7F)

/-- Whether a character is space within a line. -/
def isLineSpace (c : Char) : Bool := c = ' ' || c = '\t'

/-- The length of the line break at the head of a text, or zero. -/
def breakLength : List Char → Nat
  | '\n' :: _ => 1
  | '\r' :: '\n' :: _ => 2
  | _ => 0

/-! ## Escapes -/

/-- The escapes of one letter. -/
def shortEscapes : List (Char × Char) :=
  [('b', '\x08'), ('t', '\t'), ('n', '\n'), ('f', '\x0c'), ('r', '\r'), ('e', '\x1b'), ('"', '"'),
    ('\\', '\\')]

/-- The character whose code point stands at the head of a text in so many hexadecimal digits. -/
def codePoint? (count : Nat) (text : List Char) : Option Char :=
  let digits := text.take count
  let number := spelled 16 digits
  if digits.length = count && digits.all (isDigitOf 16) && number.isValidChar then
    some (Char.ofNat number)
  else none

/-- The character that an escape stands for, given what follows its backslash, and how many
characters of that belong to it. -/
def escape? : List Char → Option (Char × Nat)
  | 'x' :: rest => (codePoint? 2 rest).map (·, 3)
  | 'u' :: rest => (codePoint? 4 rest).map (·, 5)
  | 'U' :: rest => (codePoint? 8 rest).map (·, 9)
  | c :: _ => (shortEscapes.lookup c).map (·, 1)
  | [] => none

/-! ## Strings -/

/-- A text and what follows it. -/
abbrev Cut := List Char × List Char

/-- A text with more characters before it. -/
def Cut.after (before : List Char) (cut : Cut) : Cut := (before ++ cut.1, cut.2)

/-- A basic string on one line. -/
def basic (source : List Char) : Option Cut :=
  match source with
  | [] => none
  | c :: rest =>
    if c = '"' then some ([], rest)
    else if c = '\\' then
      match escape? rest with
      | some (c, n) => (basic (rest.drop n)).map (Cut.after [c])
      | none => none
    else if isLineChar c then (basic rest).map (Cut.after [c])
    else none
termination_by source.length
decreasing_by all_goals simp only [List.length_cons, List.length_drop]; omega

/-- A literal string on one line. -/
def literal : List Char → Option Cut
  | '\'' :: rest => some ([], rest)
  | c :: rest => if isLineChar c then (literal rest).map (Cut.after [c]) else none
  | [] => none

/-- The number of quotes at the head of a text, up to five: the closing mark is three, and two may
stand before it. -/
def quoteCount (quote : Char) (text : List Char) : Nat :=
  ((text.take 5).takeWhile (· = quote)).length

/-- The space and the line breaks at the head of a text, and what follows them. -/
def blankLength (source : List Char) : Nat :=
  match source with
  | [] => 0
  | c :: rest =>
    if isLineSpace c || c = '\n' then 1 + blankLength rest
    else if c = '\r' && rest.head? = some '\n' then 1 + blankLength rest
    else 0

/-- Whether a line breaks right after the space at the head of a text. -/
def breaksLine (text : List Char) : Bool := breakLength (text.dropWhile isLineSpace) ≠ 0

/-- A basic string over several lines. A backslash at the end of a line takes away all blanks after
it. -/
def longBasic (source : List Char) : Option Cut :=
  match source with
  | [] => none
  | c :: rest =>
    let quotes := quoteCount '"' (c :: rest)
    if 3 ≤ quotes then some (List.replicate (quotes - 3) '"', rest.drop (quotes - 1))
    else if c = '\\' then
      if breaksLine rest then longBasic (rest.drop (blankLength rest))
      else match escape? rest with
        | some (c, n) => (longBasic (rest.drop n)).map (Cut.after [c])
        | none => none
    else if isLineChar c || breakLength (c :: rest) ≠ 0 then
      (longBasic (rest.drop (breakLength (c :: rest) - 1))).map
        (Cut.after (c :: rest.take (breakLength (c :: rest) - 1)))
    else none
termination_by source.length
decreasing_by all_goals simp only [List.length_cons, List.length_drop]; omega

/-- A literal string over several lines. -/
def longLiteral (source : List Char) : Option Cut :=
  match source with
  | [] => none
  | c :: rest =>
    let quotes := quoteCount '\'' (c :: rest)
    if 3 ≤ quotes then some (List.replicate (quotes - 3) '\'', rest.drop (quotes - 1))
    else if isLineChar c || breakLength (c :: rest) ≠ 0 then
      (longLiteral (rest.drop (breakLength (c :: rest) - 1))).map
        (Cut.after (c :: rest.take (breakLength (c :: rest) - 1)))
    else none
termination_by source.length
decreasing_by simp only [List.length_cons, List.length_drop]; omega

/-- A long string, whose text does not include a line break right after the opening mark. -/
def withoutFirstBreak (text : List Char) : List Char := text.drop (breakLength text)

/-- A quoted string of any of the four sorts, and what follows it. -/
def quoted? (source : List Char) : Option Cut :=
  match source with
  | '"' :: '"' :: '"' :: rest => longBasic (withoutFirstBreak rest)
  | '"' :: rest => basic rest
  | '\'' :: '\'' :: '\'' :: rest => longLiteral (withoutFirstBreak rest)
  | '\'' :: rest => literal rest
  | _ => none

/-- A quoted string on one line, as a key may be. -/
def quotedLine? (source : List Char) : Option Cut :=
  match source with
  | '"' :: rest => basic rest
  | '\'' :: rest => literal rest
  | _ => none

end StatSchema.Toml
