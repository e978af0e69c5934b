/-
Reading source code as tokens. A text is cut into lexemes, each with the space and the comments
before it, so that the lexemes and what follows the last of them are the text again. A documentation
comment is an attribute; every other comment is space. `Token.read` also places each token and
wants every bracket closed by its own kind.
-/
import StatSchema.Token.Basic
import StatSchema.Token.Literal

namespace StatSchema.Token

/-! ## Comments and space -/

/-- The length of a line up to its line feed. -/
def lineLength (source : List Char) : Nat := (source.takeWhile (· ≠ '\n')).length

/-- The length of a block comment after its opening mark, with `depth` more comments open around
it. -/
def blockLength (depth : Nat) : List Char → Option Nat
  | '/' :: '*' :: rest => (blockLength (depth + 1) rest).map (· + 2)
  | '*' :: '/' :: rest =>
    match depth with
    | 0 => some 2
    | outer + 1 => (blockLength outer rest).map (· + 2)
  | _ :: rest => (blockLength depth rest).map (· + 1)
  | [] => none

/-- Whether a line comment, given after its two slashes, documents what follows or encloses it. -/
def isLineDoc : List Char → Bool
  | '/' :: '/' :: _ => false
  | '/' :: _ => true
  | '!' :: _ => true
  | _ => false

/-- Whether a block comment, given after its opening mark, documents what follows or encloses
it. -/
def isBlockDoc : List Char → Bool
  | '*' :: '/' :: _ => false
  | '*' :: '*' :: _ => false
  | '*' :: _ => true
  | '!' :: _ => true
  | _ => false

/-- The length of the comment at the head of a text, if it is a closed one that documents
nothing. -/
def plainComment : List Char → Option Nat
  | '/' :: '/' :: rest => if isLineDoc rest then none else some (lineLength rest + 2)
  | '/' :: '*' :: rest => if isBlockDoc rest then none else (blockLength 0 rest).map (· + 2)
  | _ => none

/-- The length of the space and the plain comments at the head of a text. -/
def spaceLength (source : List Char) : Nat :=
  match source with
  | [] => 0
  | c :: rest =>
    match plainComment (c :: rest) with
    | some (n + 1) => n + 1 + spaceLength (rest.drop n)
    | _ => if isSpace c then 1 + spaceLength rest else 0
termination_by source.length
decreasing_by all_goals simp only [List.length_cons, List.length_drop]; omega

/-! ## Lexemes -/

/-- The text of a documentation comment at the head of a text, whether it documents what encloses
it, and its length. A carriage return in it must belong to a line break. -/
def docComment (source : List Char) : Option (List Char × Bool × Nat) :=
  let wellBroken : List Char → Bool := fun text =>
    text.zipIdx.all fun (c, i) => c ≠ '\r' || text[i + 1]? = some '\n'
  let checked (text : List Char) (inner : Bool) (length : Nat) :=
    if wellBroken text then some (text, inner, length) else none
  match source with
  | '/' :: '/' :: mark :: rest =>
    if !isLineDoc (mark :: rest) then none else
    let line := rest.take (lineLength rest)
    let broken := line.length < rest.length && line.getLast? = some '\r'
    checked (if broken then line.dropLast else line) (mark = '!') (line.length + 3)
  | '/' :: '*' :: mark :: rest =>
    if !isBlockDoc (mark :: rest) then none else
    match blockLength 0 (mark :: rest) with
    | some n => checked (rest.take (n - 3)) (mark = '!') (n + 2)
    | none => none
  | _ => none

/-- A documentation comment as the attribute it stands for. -/
def docAttribute (text : List Char) (inner : Bool) : List Token :=
  .punctuation '#' .alone :: (if inner then [.punctuation '!' .alone] else []) ++
    brackets [.identifier "doc", .punctuation '=' .alone, .string (String.ofList text)]

/-- Whether a text opens with something that only a failed literal can be. -/
def opensLiteral (source : List Char) : Bool :=
  ["r\"", "r#\"", "r##", "b\"", "b'", "br\"", "br#", "c\"", "cr\"", "cr#"].any fun mark =>
    mark.toList.isPrefixOf source

/-- The words that no raw identifier may spell. -/
def neverRaw : List String := ["_", "super", "self", "Self", "crate"]

/-- The length of the identifier at the head of a text, a raw one included. -/
def anyIdentifierLength : List Char → Option Nat
  | 'r' :: '#' :: rest =>
    let length := identifierLength rest
    if length = 0 || neverRaw.contains (String.ofList (rest.take length)) then none
    else some (length + 2)
  | source => if identifierLength source = 0 then none else some (identifierLength source)

/-- Whether a text opens with a punctuation character that is no mark of a comment. -/
def opensPunctuation : List Char → Bool
  | '/' :: '/' :: _ => false
  | '/' :: '*' :: _ => false
  | c :: _ => isPunctuation c
  | [] => false

/-- Whether the apostrophe before a text opens a lifetime: an identifier that neither an apostrophe
nor a number sign follows, raw ones apart. -/
def isLifetime (rest : List Char) : Bool :=
  match anyIdentifierLength rest with
  | none => false
  | some n =>
    match rest.drop n with
    | '\'' :: _ => false
    | '#' :: _ => ['r', '#'].isPrefixOf rest
    | _ => true

/-- The delimiter that a character is. -/
def delimiterOf : Char → Option Token
  | '(' => some (.opening .parenthesis)
  | ')' => some (.closing .parenthesis)
  | '[' => some (.opening .bracket)
  | ']' => some (.closing .bracket)
  | '{' => some (.opening .brace)
  | '}' => some (.closing .brace)
  | _ => none

/-- The text that stands for a literal that could not be given. -/
def failedLiteral : String := "(/*ERROR*/)"

/-- The token at the head of a text and its length. -/
def leaf (source : List Char) : Option (Token × Nat) :=
  match source with
  | [] => none
  | c :: rest =>
    if failedLiteral.toList.isPrefixOf source then
      some (.literal failedLiteral, failedLiteral.length)
    else match delimiterOf c with
    | some token => some (token, 1)
    | none =>
      match literalLength source with
      | some n => some (.literal (String.ofList (source.take n)), n)
      | none =>
        if c = '\'' then
          if isLifetime rest then some (.punctuation '\'' .joint, 1) else none
        else if opensPunctuation source then
          some (.punctuation c (if opensPunctuation rest then .joint else .alone), 1)
        else if opensLiteral source then none
        else (anyIdentifierLength source).map fun n =>
          (.identifier (String.ofList (source.take n)), n)

/-- The tokens of the lexeme at the head of a text and its length. -/
def lexeme (source : List Char) : Option (List Token × Nat) :=
  match docComment source with
  | some (text, inner, n) => some (docAttribute text inner, n)
  | none => (leaf source).map fun (token, n) => ([token], n)

/-- A piece of source code: the space before it, its own text and the tokens it stands for. -/
structure Lexeme where
  space : List Char
  text : List Char
  tokens : List Token

/-- Cuts a text into lexemes; nothing where a character opens no token. -/
def lexemes (source : List Char) : Option (List Lexeme) :=
  let space := spaceLength source
  match _rest : source.drop space with
  | [] => some []
  | c :: rest =>
    match lexeme (c :: rest) with
    | some (tokens, n + 1) =>
      (lexemes (rest.drop n)).map (⟨source.take space, c :: rest.take n, tokens⟩ :: ·)
    | _ => none
termination_by source.length
decreasing_by
  have left := congrArg List.length _rest
  simp only [List.length_cons, List.length_drop] at left ⊢
  omega

/-- Whether every bracket is closed by its own kind, those of `opened` being open already. -/
def balanced (opened : List Delimiter) : List Token → Bool
  | [] => opened.isEmpty
  | .opening d :: rest => balanced (d :: opened) rest
  | .closing d :: rest =>
    match opened with
    | e :: outer => d = e && balanced outer rest
    | [] => false
  | _ :: rest => balanced opened rest

/-! ## Places -/

/-- A place in a text: lines count from one, columns from zero. -/
structure Position where
  line : Nat
  column : Nat
  deriving DecidableEq, Repr

/-- The place after a character. -/
def Position.after (position : Position) (c : Char) : Position :=
  if c = '\n' then ⟨position.line + 1, 0⟩ else ⟨position.line, position.column + 1⟩

/-- The place after a text. -/
def Position.past (position : Position) (text : List Char) : Position :=
  text.foldl Position.after position

/-- The part of a text from one place to another. -/
structure Span where
  start : Position
  stop : Position
  deriving DecidableEq, Repr

/-- The span of what concerns a text as a whole. -/
def Span.whole : Span := ⟨⟨1, 0⟩, ⟨1, 0⟩⟩

/-- A token and where it is written. -/
structure Placed where
  token : Token
  span : Span
  deriving DecidableEq, Repr

/-- Places the tokens of successive lexemes, the first of which begins after `position`. -/
def place (position : Position) : List Lexeme → List Placed
  | [] => []
  | lexeme :: rest =>
    let start := position.past lexeme.space
    let stop := start.past lexeme.text
    lexeme.tokens.map (⟨·, ⟨start, stop⟩⟩) ++ place stop rest

/-- The tokens of a text, each with its place; a byte order mark before it takes one column. -/
def read (source : String) : Option (List Placed) :=
  let (position, text) : Position × List Char :=
    match source.toList with
    | '\uFEFF' :: rest => (⟨1, 1⟩, rest)
    | text => (⟨1, 0⟩, text)
  match lexemes text with
  | some lexemes =>
    let tokens := place position lexemes
    if balanced [] (tokens.map (·.token)) then some tokens else none
  | none => none

end StatSchema.Token
