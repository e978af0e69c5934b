/-
The literals of source code: where one ends, and the text that a string literal denotes. A reader
is given what follows an opening mark and answers how many characters belong to the literal.
-/
import StatSchema.Token.Character

namespace StatSchema.Token

open StatSchema.Text

/-- The kinds of quoted text: any characters, ASCII alone, or no zero character. -/
inductive Quotation where
  | text
  | bytes
  | terminated
  deriving DecidableEq

/-- Whether a character may stand unescaped between the quotes. -/
def Quotation.admits (quotation : Quotation) (c : Char) : Bool :=
  match quotation with
  | text => true
  | bytes => c.toNat < 0x80
  | terminated => c ≠ '\x00'

/-! ## Escapes -/

/-- The rest of a code-point escape after its brace, `count` digits of `value` having been read:
one to six digits, underscores after the first of them, a brace. -/
def codePoint (value count : Nat) : List Char → Option (Char × Nat)
  | [] => none
  | c :: rest =>
    if c = '}' then
      if count ≠ 0 ∧ value.isValidChar then some (Char.ofNat value, 1) else none
    else if c = '_' then
      if count = 0 then none else (codePoint value count rest).map fun (d, n) => (d, n + 1)
    else match hexValue c with
      | some digit =>
        if count = 6 then none
        else (codePoint (16 * value + digit) (count + 1) rest).map fun (d, n) => (d, n + 1)
      | none => none

/-- The character that an escape denotes, given what follows the backslash, and how many
characters the escape takes after it. -/
def escape (quotation : Quotation) : List Char → Option (Char × Nat)
  | 'n' :: _ => some ('\n', 1)
  | 'r' :: _ => some ('\r', 1)
  | 't' :: _ => some ('\t', 1)
  | '\\' :: _ => some ('\\', 1)
  | '\'' :: _ => some ('\'', 1)
  | '"' :: _ => some ('"', 1)
  | '0' :: _ => if quotation = .terminated then none else some ('\x00', 1)
  | 'x' :: high :: low :: _ =>
    match hexValue high, hexValue low with
    | some high, some low =>
      if quotation = .text ∧ 8 ≤ high ∨ quotation = .terminated ∧ high = 0 ∧ low = 0 then none
      else some (Char.ofNat (16 * high + low), 3)
    | _, _ => none
  | 'u' :: '{' :: rest =>
    if quotation = .bytes then none
    else match codePoint 0 0 rest with
      | some (c, n) => if quotation = .terminated ∧ c = '\x00' then none else some (c, n + 2)
      | none => none
  | _ => none

/-- How many characters an escaped line break swallows: spaces, tabs and further line breaks. There
is no answer where a carriage return stands alone or the text ends. -/
def continuation : List Char → Option Nat
  | [] => none
  | '\r' :: '\n' :: rest => (continuation rest).map (· + 2)
  | c :: rest =>
    if c = '\r' then none
    else if c = ' ' || c = '\t' || c = '\n' then (continuation rest).map (· + 1)
    else some 0

/-! ## Quoted text -/

/-- The value of a quoted text and its length with the closing quote, given what follows the
opening one. Line breaks of two characters are read as one. -/
def quotedText (quotation : Quotation) (source : List Char) : Option (List Char × Nat) :=
  match source with
  | [] => none
  | '"' :: _ => some ([], 1)
  | '\r' :: '\n' :: rest => (quotedText quotation rest).map fun (value, n) => ('\n' :: value, n + 2)
  | '\r' :: _ => none
  | '\\' :: '\n' :: rest =>
    match continuation rest with
    | some k => (quotedText quotation (rest.drop k)).map fun (value, n) => (value, n + k + 2)
    | none => none
  | '\\' :: '\r' :: '\n' :: rest =>
    match continuation rest with
    | some k => (quotedText quotation (rest.drop k)).map fun (value, n) => (value, n + k + 3)
    | none => none
  | '\\' :: rest =>
    match escape quotation rest with
    | some (c, k) =>
      (quotedText quotation (rest.drop k)).map fun (value, n) => (c :: value, n + k + 1)
    | none => none
  | c :: rest =>
    if quotation.admits c then (quotedText quotation rest).map fun (value, n) => (c :: value, n + 1)
    else none
termination_by source.length
decreasing_by all_goals simp only [List.length_cons, List.length_drop]; omega

/-- The length of a raw text with its closing mark, a quote and `pounds` number signs. -/
def rawText (quotation : Quotation) (pounds : Nat) : List Char → Option Nat
  | [] => none
  | '\r' :: '\n' :: rest => (rawText quotation pounds rest).map (· + 2)
  | c :: rest =>
    if c = '"' && rest.take pounds == List.replicate pounds '#' then some (pounds + 1)
    else if c ≠ '\r' && quotation.admits c then (rawText quotation pounds rest).map (· + 1)
    else none

/-- How many number signs stand at the head of a text. -/
def poundCount (source : List Char) : Nat := (source.takeWhile (· = '#')).length

/-- The length of a raw text with both of its marks, which hold up to 255 number signs. -/
def rawLength (quotation : Quotation) (source : List Char) : Option Nat :=
  let pounds := poundCount source
  match source.drop pounds with
  | '"' :: rest =>
    if pounds ≤ 255 then (rawText quotation pounds rest).map (· + pounds + 1) else none
  | _ => none

/-- The length of a quoted text with both of its marks. -/
def quotedLength (quotation : Quotation) : List Char → Option Nat
  | '"' :: rest => (quotedText quotation rest).map (·.2 + 1)
  | _ => none

/-- The length of a string literal of any kind, without its suffix. -/
def stringLength : List Char → Option Nat
  | 'r' :: rest => (rawLength .text rest).map (· + 1)
  | 'b' :: 'r' :: rest => (rawLength .bytes rest).map (· + 2)
  | 'c' :: 'r' :: rest => (rawLength .terminated rest).map (· + 2)
  | 'b' :: rest => (quotedLength .bytes rest).map (· + 1)
  | 'c' :: rest => (quotedLength .terminated rest).map (· + 1)
  | source => quotedLength .text source

/-- The length of a character literal or, under `bytes`, of a byte literal, given what follows its
opening mark. -/
def characterLength (quotation : Quotation) : List Char → Option Nat
  | '\\' :: rest =>
    match escape quotation rest with
    | some (_, n) => if rest[n]? = some '\'' then some (n + 2) else none
    | none => none
  | c :: '\'' :: _ => if quotation.admits c then some 2 else none
  | _ => none

/-! ## Numbers -/

/-- The length of the exponent after its letter: at most one sign, which no digit precedes, and at
least one digit. -/
def exponentLength (signed valued : Bool) : List Char → Option Nat
  | [] => if valued then some 0 else none
  | c :: rest =>
    if c = '+' || c = '-' then
      if valued then some 0 else if signed then none
      else (exponentLength true valued rest).map (· + 1)
    else if c.isDigit then (exponentLength signed true rest).map (· + 1)
    else if c = '_' then (exponentLength signed valued rest).map (· + 1)
    else if valued then some 0 else none

/-- How many decimal digits and underscores stand at the head of a text. -/
def digitRun (source : List Char) : Nat :=
  (source.takeWhile fun c => c.isDigit || c = '_').length

/-- The length of an exponent at the head of a text, its letter included. -/
def markedExponent : List Char → Option Nat
  | c :: rest =>
    if c = 'e' || c = 'E' then (exponentLength false false rest).map (· + 1) else none
  | [] => none

/-- The length of a number with a point or an exponent, without its suffix. A point that an
identifier or another point follows is not part of the number. -/
def fractionLength (source : List Char) : Option Nat :=
  if !(source.head?.any Char.isDigit) then none else
  let whole := digitRun source
  match source.drop whole with
  | '.' :: rest =>
    if rest.head?.any fun c => c = '.' || opensIdentifier c then none else
    let places := digitRun rest
    some (whole + 1 + places + (markedExponent (rest.drop places)).getD 0)
  | rest => (markedExponent rest).map (· + whole)

/-- The digits of a whole number in a base, `any` telling whether one has been read: their length,
or nothing if a digit is too large, none is there, or a decimal number opens with an underscore. -/
def baseDigits (base : Nat) (any : Bool) : List Char → Option Nat
  | [] => if any then some 0 else none
  | c :: rest =>
    if c = '_' then
      if !any && base = 10 then none else (baseDigits base any rest).map (· + 1)
    else match hexValue c with
      | some digit =>
        if digit < base then (baseDigits base true rest).map (· + 1)
        else if c.isDigit then none
        else if any then some 0 else none
      | none => if any then some 0 else none

/-- The length of a whole number, without its suffix. -/
def wholeLength : List Char → Option Nat
  | '0' :: 'x' :: rest => (baseDigits 16 false rest).map (· + 2)
  | '0' :: 'o' :: rest => (baseDigits 8 false rest).map (· + 2)
  | '0' :: 'b' :: rest => (baseDigits 2 false rest).map (· + 2)
  | source => baseDigits 10 false source

/-- Extends a number of the given length by its suffix; no further identifier character may
follow. -/
def withNumberSuffix (source : List Char) (length : Nat) : Option Nat :=
  let length := length + identifierLength (source.drop length)
  if (source.drop length).head?.any continuesIdentifier then none else some length

/-! ## Any literal -/

/-- The length of the literal at the head of a text, with its suffix. -/
def literalLength (source : List Char) : Option Nat :=
  let suffixed (length : Option Nat) :=
    length.map fun n => n + identifierLength (source.drop n)
  match source with
  | 'b' :: '\'' :: rest => suffixed ((characterLength .bytes rest).map (· + 2))
  | '\'' :: rest => suffixed ((characterLength .text rest).map (· + 1))
  | _ =>
    suffixed (stringLength source) <|>
      (fractionLength source).bind (withNumberSuffix source) <|>
      (wholeLength source).bind (withNumberSuffix source)

/-- The text that a string literal denotes; its suffix says nothing, and bytes and zero-terminated
strings denote no text. -/
def stringValue? (literal : String) : Option String :=
  match literal.toList with
  | '"' :: rest => (quotedText .text rest).map fun (value, _) => String.ofList value
  | 'r' :: rest =>
    let pounds := poundCount rest
    let body := rest.drop (pounds + 1)
    (rawText .text pounds body).map fun n => String.ofList (body.take (n - pounds - 1))
  | _ => none

end StatSchema.Token
