/-
What comes next among placed tokens. The tokens are the whole rest of a source, so the end of a
group is a closing delimiter; whatever is missing there is missing at that delimiter, and at the end
of the source it has no place of its own.
-/
import StatSchema.Identifier

namespace StatSchema.Lookahead

open Token

/-! ## Places -/

/-- Whether the group or the source is at its end. -/
def atEnd : List Placed → Bool
  | [] => true
  | next :: _ => match next.token with
    | .closing _ => true
    | _ => false

/-- Where a problem with the next token is placed. -/
def nextSpan : List Placed → Span
  | [] => .whole
  | next :: _ => next.span

/-! ## Single tokens -/

/-- Whether the given characters come next, all but the last of them joint. -/
def comesNext : List Char → List Placed → Bool
  | [], _ => true
  | c :: more, ⟨.punctuation symbol spacing, _⟩ :: rest =>
    symbol = c && (more.isEmpty || spacing = .joint && comesNext more rest)
  | _ :: _, _ => false

/-- Whether the given sign comes next. -/
def signNext (sign : String) (tokens : List Placed) : Bool := comesNext sign.toList tokens

/-- Whether the next token is the given identifier. -/
def wordComesNext (word : String) : List Placed → Bool
  | ⟨.identifier name, _⟩ :: _ => name = word
  | _ => false

/-- Whether the next token is one of the given identifiers. -/
def anyWordNext (words : List String) : List Placed → Bool
  | ⟨.identifier name, _⟩ :: _ => words.contains name
  | _ => false

/-- Whether an identifier or a word of the language comes next. -/
def anyIdentifierNext : List Placed → Bool
  | ⟨.identifier _, _⟩ :: _ => true
  | _ => false

/-- Whether an identifier that is no word of the language comes next. -/
def identifierNext : List Placed → Bool
  | ⟨.identifier name, _⟩ :: _ => !Identifier.keywords.contains name
  | _ => false

/-- Whether a lifetime comes next: a joint apostrophe and an identifier. -/
def lifetimeNext : List Placed → Bool
  | ⟨.punctuation '\'' .joint, _⟩ :: ⟨.identifier _, _⟩ :: _ => true
  | _ => false

/-- Whether a literal is a number. -/
def isNumber (literal : String) : Bool := literal.toList.head?.any Char.isDigit

/-- How many tokens the next literal takes, if there is one: truth values are literals, and so are
numbers with a minus. -/
def literalLength : List Placed → Nat
  | ⟨.literal _, _⟩ :: _ => 1
  | ⟨.identifier word, _⟩ :: _ => if word = "true" || word = "false" then 1 else 0
  | ⟨.punctuation '-' _, _⟩ :: ⟨.literal text, _⟩ :: _ => if isNumber text then 2 else 0
  | _ => 0

/-- Whether a literal comes next. -/
def literalNext (tokens : List Placed) : Bool := literalLength tokens ≠ 0

/-- Whether a string literal comes next. -/
def stringNext : List Placed → Bool
  | ⟨.literal written, _⟩ :: _ => (stringValue? written).isSome
  | _ => false

/-- Whether a group of the given kind comes next. -/
def opens (delimiter : Delimiter) : List Placed → Bool
  | ⟨.opening d, _⟩ :: _ => d = delimiter
  | _ => false

/-- Whether a group of any kind comes next. -/
def opensGroup : List Placed → Bool
  | ⟨.opening _, _⟩ :: _ => true
  | _ => false

/-! ## Groups -/

/-- What is left from the end of the enclosing group on, `depth` groups being open inside it. -/
def fromClosing (depth : Nat) : List Placed → List Placed
  | [] => []
  | next :: rest =>
    match next.token with
    | .opening _ => fromClosing (depth + 1) rest
    | .closing _ =>
      match depth with
      | 0 => next :: rest
      | depth + 1 => fromClosing depth rest
    | _ => fromClosing depth rest

/-- What follows the next token, a group and a lifetime each counting as one. There is nothing to
skip at the end of a group. -/
def second : List Placed → List Placed
  | [] => []
  | next :: rest =>
    match next.token with
    | .opening _ => (fromClosing 0 rest).drop 1
    | .closing _ => next :: rest
    | .punctuation '\'' .joint => if anyIdentifierNext rest then rest.drop 1 else rest
    | _ => rest

/-- What follows the next two tokens, counted likewise. -/
def third (tokens : List Placed) : List Placed := second (second tokens)

/-- The place of the next token, of all of it if it is a group. -/
def wholeSpan : List Placed → Span
  | [] => .whole
  | next :: rest =>
    match next.token with
    | .opening _ => ⟨next.span.start, (nextSpan (fromClosing 0 rest)).stop⟩
    | _ => next.span

end StatSchema.Lookahead
