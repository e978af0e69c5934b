/-
Definitions of statistics: a list of settings, each at most once and in any order, and the schema,
names and overrides that they come to. Every name that a definition declares, overrides or refers to
keeps the place where it is written, so that errors can point at it.
-/
import StatSchema.Naming
import StatSchema.Override

namespace StatSchema

open Token

/-- A text and where it is written. -/
structure Written where
  text : String
  span : Span
  deriving DecidableEq, Repr

/-- The declaration of a base metric. -/
structure BaseLine where
  name : Written
  kind : MetricKind
  deriving DecidableEq, Repr

/-- The declaration of a compound metric. -/
structure CompoundLine where
  name : Written
  operator : Operator
  operands : List Written
  deriving DecidableEq, Repr

/-- An override of a hook. -/
structure OverrideLine where
  hook : Written
  target : Path.Reading
  deriving DecidableEq, Repr

/-- A setting of a definition. -/
inductive Setting where
  | record (name : String)
  | aggregator (name : String)
  | module (name : String)
  | hookPrefix (text : String)
  | runtime (reading : Path.Reading)
  | strictOrderings
  | base (lines : List BaseLine)
  | compound (lines : List CompoundLine)
  | order (which : MetricOrder) (names : List String)
  | overrides (lines : List OverrideLine)
  deriving DecidableEq, Repr

/-- What a definition comes to. -/
structure Definition where
  schema : Schema := {}
  naming : Naming := {}
  overrides : List Override := []
  /-- The names declared and the hooks overridden, in the order in which they are written. -/
  named : List Written := []
  /-- The operands of compounds, in the order in which they are written. -/
  referenced : List Written := []
  deriving DecidableEq, Repr

/-- The declaration that a line makes. -/
def BaseLine.declaration (line : BaseLine) : Declaration :=
  .base { name := line.name.text, kind := line.kind }

/-- The declaration that a line makes. -/
def CompoundLine.declaration (line : CompoundLine) : Declaration :=
  .compound {
    name := line.name.text
    operator := line.operator
    operands := line.operands.map (·.text) }

/-- The override that a line makes. -/
def OverrideLine.override (line : OverrideLine) : Override :=
  { hook := line.hook.text, target := line.target.path }

/-- An arrangement with one of its orders listed. -/
def Arrangement.list (arrangement : Arrangement) (which : MetricOrder) (names : List String) :
    Arrangement :=
  match which with
  | .storage => { arrangement with storage := names }
  | .derivation => { arrangement with derivation := names }
  | .display => { arrangement with display := names }

namespace Schema

/-- A schema with further declarations. -/
def declareAll (schema : Schema) (declarations : List Declaration) : Schema :=
  { schema with declarations := schema.declarations ++ declarations }

/-- A schema with its arrangement changed. -/
def arrange (schema : Schema) (change : Arrangement → Arrangement) : Schema :=
  { schema with arrangement := change schema.arrangement }

end Schema

namespace Definition

/-- A definition with one more setting. -/
def apply (definition : Definition) : Setting → Definition
  | .record name =>
    { definition with naming := { definition.naming with record := name } }
  | .aggregator name =>
    { definition with naming := { definition.naming with aggregator := name } }
  | .module name =>
    { definition with naming := { definition.naming with module := some name } }
  | .hookPrefix text =>
    { definition with naming := { definition.naming with hookPrefix := text } }
  | .runtime reading =>
    { definition with naming := { definition.naming with runtime := reading.path } }
  | .strictOrderings =>
    { definition with schema := definition.schema.arrange ({ · with strict := true }) }
  | .base lines =>
    { definition with
      schema := definition.schema.declareAll (lines.map (·.declaration))
      named := definition.named ++ lines.map (·.name) }
  | .compound lines =>
    { definition with
      schema := definition.schema.declareAll (lines.map (·.declaration))
      named := definition.named ++ lines.map (·.name)
      referenced := definition.referenced ++ lines.flatMap (·.operands) }
  | .order which names =>
    { definition with schema := definition.schema.arrange (·.list which names) }
  | .overrides lines =>
    { definition with
      overrides := definition.overrides ++ lines.map (·.override)
      named := definition.named ++ lines.map (·.hook) }

/-- The definition that settings come to. -/
def ofSettings (settings : List Setting) : Definition := settings.foldl apply {}

/-- The first place of a name in a list. -/
def placeIn? (written : List Written) (name : String) : Option Span :=
  (written.find? (·.text == name)).map (·.span)

/-- The place of an error: where its subject is first declared or overridden, else where it is first
an operand, else the definition as a whole. -/
def placeOf (definition : Definition) (error : SchemaError) : Span :=
  match error.subject? with
  | some name =>
    ((placeIn? definition.named name).or (placeIn? definition.referenced name)).getD .whole
  | none => .whole

end Definition

end StatSchema
