/-
Paths to items of code: segments joined by double colons, each with or without generic arguments. A
path is kept as the tokens that it is written as.
-/
import StatSchema.Phrase
import StatSchema.Token.Parser

namespace StatSchema

open Token

/-- A path, as the tokens that it is written as. -/
structure Path where
  tokens : List Token
  deriving DecidableEq, Repr

namespace Path

/-- A path at the head of a source, with the first token that was left over in a group of it. -/
structure Reading where
  path : Path
  leftover : Option SyntaxError := none
  deriving DecidableEq, Repr

/-- A path at the head of the tokens. -/
def parser : Parser Reading := do
  match Phrase.run (·.path false) (← get) with
  | .ok progress =>
    set progress.rest
    return { path := { tokens := progress.written.reverse }, leftover := progress.leftover }
  | .error error => throw error

theorem parser_eq (source : List Placed) :
    parser source = match Phrase.run (·.path false) source with
      | .ok progress =>
        .ok ({ path := { tokens := progress.written.reverse }, leftover := progress.leftover },
          progress.rest)
      | .error error => .error error := by
  show (match Phrase.run (·.path false) source with
    | .ok progress => _
    | .error error => _ : Parser Reading) source = _
  cases Phrase.run (·.path false) source <;> rfl

/-- The path that a text is. -/
def read? (text : String) : Option Path :=
  match Token.read text with
  | some tokens =>
    match parser tokens with
    | .ok ({ path, leftover := none }, []) => some path
    | _ => none
  | none => none

end Path

end StatSchema
