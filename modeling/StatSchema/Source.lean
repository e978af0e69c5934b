/-
Source text: the artifact of a configuration under a comment that names where the configuration
comes from, with each item on a line of its own. An artifact is only written if it can be read back,
so a path in it must be a type, an operand or the head of a statement wherever it stands for one.
-/
import StatSchema.Artifact
import StatSchema.Configuration.Reader

namespace StatSchema

/-- Whether a path can be called in a statement. -/
def Path.isCallable (path : Path) : Bool :=
  Phrase.covers (·.statementsBody) (path.tokens ++ Token.parens [] ++ Token.code ";")

/-- Whether the ledger of a path can be called and can be the type of a field. -/
def Path.isRoot (path : Path) : Bool :=
  let ledger := Artifact.ledgerPath path
  Phrase.covers (·.typeBody true) (ledger ++ Token.code "< u64 >") &&
    Phrase.covers (·.expression) (ledger ++ Token.code ":: new" ++ Token.parens [])

namespace Configuration

/-- The overrides that the artifact calls: all of them, unless hooks always do their own work. -/
def called (configuration : Configuration) : List Override :=
  configuration.overrides.filter fun override =>
    configuration.instrumentation ≠ .enabled || override.hook = Lifecycle.dump.word

/-- Whether the artifact of a configuration can be read back. -/
def isReadable (configuration : Configuration) : Bool :=
  configuration.naming.runtime.isRoot && configuration.called.all (·.target.isCallable)

/-- The artifact of a configuration. -/
def artifact (configuration : Configuration) : Except Failure Artifact :=
  generate configuration.schema configuration.naming configuration.instrumentation
    configuration.overrides

end Configuration

/-! ## Text -/

/-- A text and a line break. -/
def line (text : String) : String := text ++ "\n"

/-- The text of an item: its tokens in one line, and an empty line. -/
def Item.source (item : Item) : String := line (line (Token.print item.tokens))

/-- The comment at the top of a source text. -/
def heading (origin : String) : String :=
  line (line ("// @generated by tallies_gen from " ++ origin ++ ". Do not edit by hand."))

/-- The text of an artifact. -/
def Artifact.source (artifact : Artifact) : String :=
  let items := String.join (artifact.items.map Item.source)
  match artifact.enclosure with
  | none => items
  | some enclosure =>
    String.join (enclosure.attributes.map fun mark => line (Token.print mark.tokens)) ++
      line (Token.print enclosure.opening ++ " \x7b") ++ items ++ line "\x7d"

/-! ## Generation -/

/-- Why there is no source text. -/
inductive SourceError where
  | configuration (error : ConfigurationError)
  | failed (failure : Failure)
  /-- The artifact could not be read back. -/
  | unreadable
  deriving DecidableEq, Repr

/-- The message of an error. -/
def SourceError.message : SourceError → String
  | configuration error => error.message
  | failed (.refused error) => "invalid schema: " ++ error.message
  | failed failure => failure.message
  | unreadable => "generated code does not parse"

/-- The source text of a configuration that comes from `origin`. -/
def Configuration.source (configuration : Configuration) (origin : String) :
    Except SourceError String :=
  match configuration.artifact with
  | .error failure => .error (.failed failure)
  | .ok artifact =>
    if configuration.isReadable then .ok (heading origin ++ artifact.source)
    else .error .unreadable

/-- The source text of the configuration that a text describes. -/
def sourceOf (text origin : String) : Except SourceError String :=
  match Configuration.read text with
  | .ok configuration => configuration.source origin
  | .error error => .error (.configuration error)

end StatSchema
