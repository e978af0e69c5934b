/-
Reading the settings of a definition from placed tokens.
-/
import StatSchema.SyntaxError
import StatSchema.Token.Lookahead

namespace StatSchema

open Token Lookahead

/-- A parser takes tokens from the head of what is left. -/
abbrev Parser := StateT (List Placed) (Except SyntaxError)

namespace Parser

/-! ## Failing -/

/-- Fails at the next token. -/
def fail {α : Type} (problem : SyntaxProblem) : Parser α := fun tokens =>
  .error ⟨problem, nextSpan tokens⟩

/-- Fails at a given place. -/
def failAt {α : Type} (span : Span) (problem : SyntaxProblem) : Parser α := fun _ =>
  .error ⟨problem, span⟩

/-- Fails for want of one of the choices. -/
def unmet {α : Type} (choices : List Expectation) : Parser α := fun tokens =>
  fail (.expected choices (atEnd tokens)) tokens

/-! ## Single tokens -/

/-- Takes the next token, if there is one, whatever it is. -/
def advance : Parser Unit := modify List.tail

/-- An identifier that is no keyword, with its place. -/
def identifier : Parser (String × Span) := do
  match ← get with
  | ⟨.identifier name, span⟩ :: rest =>
    if Identifier.keywords.contains name then fail (.keyword name)
    else
      set rest
      return (name, span)
  | _ => unmet [.identifier]

/-- A string literal, by the text that it denotes, with its place. -/
def string : Parser (String × Span) := do
  match ← get with
  | ⟨.literal written, span⟩ :: rest =>
    match stringValue? written with
    | some value =>
      set rest
      return (value, span)
    | none => unmet [.string]
  | _ => unmet [.string]

/-- One punctuation character, glued to the next one or not. -/
def punctuation (symbol : Char) : Parser Unit := do
  if comesNext [symbol] (← get) then advance else fail (.missing (String.singleton symbol))

/-- The semicolon that some settings may leave out. -/
def optionalSemicolon : Parser Unit := do
  if comesNext [';'] (← get) then advance

/-! ## Groups and lists -/

/-- Opens a group. -/
def opening (delimiter : Delimiter) : Parser Unit := do
  if opens delimiter (← get) then advance else unmet [.group delimiter]

/-- Entries separated by commas up to the end of the group, the last of them with a comma or
without. The bound is on their number. -/
def separated {α : Type} (entry : Parser α) : Nat → Parser (List α)
  | 0 => return []
  | bound + 1 => do
    if atEnd (← get) then return []
    let first ← entry
    if atEnd (← get) then return [first]
    punctuation ','
    return first :: (← separated entry bound)

/-- A delimited list of entries. There are no more of them than tokens, so the delimiter that closes
the group comes next after them. -/
def group {α : Type} (delimiter : Delimiter) (entry : Parser α) : Parser (List α) := do
  opening delimiter
  let entries ← separated entry (← get).length
  advance
  return entries

end Parser

end StatSchema
