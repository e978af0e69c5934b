/-
Expanding a definition into the artifact that it describes, or into the message of an error and the
place that the error points at.
-/
import StatSchema.Artifact
import StatSchema.Definition.Reader

namespace StatSchema

/-- Why a definition has no expansion. -/
inductive ExpansionError where
  /-- The text is no source code. -/
  | unreadable
  /-- The tokens are no definition. -/
  | malformed (error : SyntaxError)
  /-- The schema is refused; the place is that of the error's subject. -/
  | refused (error : SchemaError) (span : Token.Span)
  /-- Nothing is generated, and no place can be given. -/
  | failed (failure : Failure)
  deriving DecidableEq, Repr

namespace Definition

/-- The artifact that a list of tokens describes. -/
def expandTokens (tokens : List Token.Placed) (instrumentation : Instrumentation) :
    Except ExpansionError Artifact :=
  match ofTokens tokens with
  | .error error => .error (.malformed error)
  | .ok definition =>
    match generate definition.schema definition.naming instrumentation definition.overrides with
    | .ok artifact => .ok artifact
    | .error (.refused error) => .error (.refused error (definition.placeOf error))
    | .error failure => .error (.failed failure)

/-- The artifact that a text describes. -/
def expand (source : String) (instrumentation : Instrumentation) :
    Except ExpansionError Artifact :=
  match Token.read source with
  | some tokens => expandTokens tokens instrumentation
  | none => .error .unreadable

end Definition

end StatSchema
