/-
Tokens of source code, as a flat list in which the delimiters of a group stand for themselves, and
the one text that each list of tokens is printed as. `Token.code` reads the printed form of a
fragment back, so that fixed code can be written as it appears.
-/
import StatSchema.Text.Escape

namespace StatSchema

/-- The brackets that enclose a group of tokens. -/
inductive Delimiter where
  | parenthesis
  | bracket
  | brace
  deriving DecidableEq, Repr

/-- Whether a punctuation character is glued to the one after it. -/
inductive Spacing where
  | alone
  | joint
  deriving DecidableEq, Repr

/-- One token. Multi-character operators are several punctuation tokens, all but the last joint;
a lifetime is a joint apostrophe and an identifier. -/
inductive Token where
  | identifier (text : String)
  | punctuation (symbol : Char) (spacing : Spacing)
  | literal (text : String)
  | opening (delimiter : Delimiter)
  | closing (delimiter : Delimiter)
  deriving DecidableEq, Repr

namespace Token

/-! ## Building -/

/-- A string literal that denotes the given text. -/
def string (text : String) : Token := .literal (Text.literal text)

/-- A group in parentheses. -/
def parens (tokens : List Token) : List Token :=
  .opening .parenthesis :: tokens ++ [.closing .parenthesis]

/-- A group in square brackets. -/
def brackets (tokens : List Token) : List Token :=
  .opening .bracket :: tokens ++ [.closing .bracket]

/-- A group in curly braces. -/
def braces (tokens : List Token) : List Token :=
  .opening .brace :: tokens ++ [.closing .brace]

/-- The characters of an operator, glued together. -/
def operator : List Char → List Token
  | [] => []
  | [c] => [.punctuation c .alone]
  | c :: rest => .punctuation c .joint :: operator rest

/-- The tokens of one blank-free piece of code: a parenthesis or bracket, an identifier, a number,
a lifetime or an operator. -/
def piece : List Char → List Token
  | ['('] => [.opening .parenthesis]
  | [')'] => [.closing .parenthesis]
  | ['['] => [.opening .bracket]
  | [']'] => [.closing .bracket]
  | '\'' :: name => [.punctuation '\'' .joint, .identifier (String.ofList name)]
  | c :: rest =>
    if c.isAlpha || c = '_' then [.identifier (String.ofList (c :: rest))]
    else if c.isDigit then [.literal (String.ofList (c :: rest))]
    else operator (c :: rest)
  | [] => []

/-- Splits a text at single spaces, `word` holding the piece under way in reverse. -/
def pieces (word : List Char) : List Char → List (List Char)
  | [] => [word.reverse]
  | c :: rest => if c = ' ' then word.reverse :: pieces [] rest else pieces (c :: word) rest

/-- The tokens of a fragment of code whose tokens are written with single spaces between them. -/
def code (text : String) : List Token := (pieces [] text.toList).flatMap piece

/-! ## Printing -/

/-- The text of one token. -/
def text : Token → String
  | identifier name => name
  | punctuation symbol _ => String.singleton symbol
  | literal text => text
  | opening .parenthesis => "("
  | opening .bracket => "["
  | opening .brace => "\x7b"
  | closing .parenthesis => ")"
  | closing .bracket => "]"
  | closing .brace => "\x7d"

/-- What stands between two neighbouring tokens: nothing after a joint character and inside
parentheses and brackets, one space anywhere else and inside braces. -/
def gap : Token → Token → String
  | opening .brace, _ => " "
  | opening _, _ => ""
  | _, closing .brace => " "
  | _, closing _ => ""
  | punctuation _ .joint, _ => ""
  | _, _ => " "

/-- The texts of the tokens and of the gaps between them, in order. -/
def printed : List Token → List String
  | [] => []
  | [token] => [token.text]
  | token :: next :: rest => token.text :: gap token next :: printed (next :: rest)

/-- The text that a list of tokens is printed as. -/
def print (tokens : List Token) : String := String.join (printed tokens)

end Token

end StatSchema
