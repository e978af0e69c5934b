/-
Statements: bindings, expressions and calls that expand to code. An expression that does not end in
a block is ended by a semicolon, unless it is the last one of its block.
-/
import StatSchema.Phrase.Expression

namespace StatSchema.Phrase

open Token Lookahead

/-- How many tokens the path without arguments takes that comes next, zero if there is none, after a
double colon or at its beginning. -/
def plainPathLength : List Placed → Nat
  | tokens@(⟨.identifier _, _⟩ :: rest) =>
    if !segmentNext tokens then 0
    else match rest with
      | ⟨.punctuation ':' .joint, _⟩ :: ⟨.punctuation ':' _, _⟩ :: more =>
        match plainPathLength more with
        | 0 => 0
        | length => length + 3
      | _ => 1
  | _ => 0

/-- What follows the path without arguments that comes next, if there is one. -/
def afterPlainPath? (tokens : List Placed) : Option (List Placed) :=
  let start := if signNext "::" tokens then tokens.drop 2 else tokens
  match plainPathLength start with
  | 0 => none
  | length => some (start.drop length)

/-- Whether a call that expands to items comes next: it is given a name. -/
def itemCallNext (tokens : List Placed) : Bool :=
  match afterPlainPath? tokens with
  | some rest =>
    signNext "!" rest && (identifierNext (second rest) || wordComesNext "try" (second rest))
  | none => false

/-- Whether a call in curly braces comes next that is a statement by itself. -/
def bracedCallNext (tokens : List Placed) : Bool :=
  match afterPlainPath? tokens with
  | some rest =>
    signNext "!" rest && opens .brace (second rest) &&
      !(memberNext (third rest) || signNext "?" (third rest))
  | none => false

/-- The words that always open an item. -/
def itemWords : List String :=
  ["pub", "extern", "use", "fn", "mod", "type", "struct", "enum", "trait", "impl", "macro"]

/-- Whether an item comes next. -/
def itemNext (tokens : List Placed) : Bool :=
  let next := second tokens
  let functionNext := fun words => anyWordNext (["unsafe", "extern", "fn"] ++ words)
  anyWordNext itemWords tokens ||
    wordComesNext "crate" tokens && !signNext "::" next ||
    wordComesNext "static" tokens && (wordComesNext "mut" next || identifierNext next) ||
    wordComesNext "const" tokens &&
      !(opens .brace next || anyWordNext ["static", "move"] next || signNext "|" next ||
        wordComesNext "async" next && !functionNext [] (second next)) ||
    wordComesNext "unsafe" tokens && !opens .brace next ||
    wordComesNext "async" tokens && functionNext [] next ||
    wordComesNext "union" tokens && identifierNext next ||
    wordComesNext "auto" tokens && wordComesNext "trait" next ||
    wordComesNext "default" tokens && anyWordNext ["unsafe", "impl"] next || itemCallNext tokens

namespace Grammar

variable (grammar : Grammar)

/-- A binding: a pattern with a type or without, and a value or none, with a block after it for what
the pattern does not match. -/
def binding : Phrase Unit := do
  word "let"
  discard grammar.pattern
  if ← optionalSign ":" then grammar.anyType
  if ← optionalSign "=" then
    grammar.expression
    let braced := (← get).written.head? = some (.closing .brace)
    if !braced && wordComesNext "else" (← rest) then
      copy
      grammar.block
  sign ";"

/-- A statement. The answer tells whether a semicolon is still due after it. -/
def statement : Phrase Bool := do
  let _ ← grammar.attributes
  let tokens ← rest
  if bracedCallNext tokens then
    grammar.plainPath
    sign "!"
    anyGroup
    discard (optionalSign ";")
    return false
  else if wordComesNext "let" tokens then
    grammar.binding
    return false
  else if itemNext tokens then unmet [.expression]
  else
    let form ← grammar.early
    let ended ← optionalSign ";"
    return !ended && form ≠ .block && form ≠ .bracedCall

/-- Statements up to the end of the group. -/
def statementsBody : Phrase Unit :=
  grammar.repeated do
    if ← optionalSign ";" then return true
    if atEnd (← rest) then return false
    let unended ← grammar.statement
    if atEnd (← rest) then return false
    if unended then fail .unended
    return true

end Grammar

end StatSchema.Phrase
