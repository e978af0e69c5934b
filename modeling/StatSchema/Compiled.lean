/-
Compiled schemas. Names are checked first, one declaration after the other, then mutators against
names, operands, cycles and the three orders; only then are identifiers given out. The first
problem found is the answer.
-/
import StatSchema.Completion
import StatSchema.Dependency
import StatSchema.Identifier
import StatSchema.Name
import StatSchema.ValueType

namespace StatSchema

/-- A base metric with the identifiers of its field and of its mutator. -/
structure BaseEntry where
  name : String
  kind : MetricKind
  identifier : String
  mutator : String
  deriving DecidableEq, Repr

/-- A compound metric with the identifier of its accessor and its type. -/
structure CompoundEntry where
  name : String
  operator : Operator
  operands : List String
  valueType : ValueType
  identifier : String
  deriving DecidableEq, Repr

/-- A compiled metric of either sort. -/
inductive Entry where
  | base (entry : BaseEntry)
  | compound (entry : CompoundEntry)
  deriving DecidableEq, Repr

namespace Entry

/-- The name of a compiled metric. -/
def name : Entry → String
  | base entry => entry.name
  | compound entry => entry.name

/-- The identifier of the accessor of a compiled metric. -/
def identifier : Entry → String
  | base entry => entry.identifier
  | compound entry => entry.identifier

/-- The type of a compiled metric. -/
def valueType : Entry → ValueType
  | base _ => .integer
  | compound entry => entry.valueType

end Entry

/-- A schema that has passed every check, with its orders completed. -/
structure CompiledSchema where
  /-- Base metrics in storage order. -/
  storage : List BaseEntry
  /-- Compound metrics in derivation order. -/
  derivation : List CompoundEntry
  /-- All names in display order. -/
  display : List String
  /-- Compound metrics, operands before what uses them. -/
  evaluation : List CompoundEntry
  deriving DecidableEq, Repr

namespace CompiledSchema

/-- The compiled metric of a name. -/
def find? (compiled : CompiledSchema) (name : String) : Option Entry :=
  ((compiled.storage.find? (·.name == name)).map Entry.base).or
    ((compiled.derivation.find? (·.name == name)).map Entry.compound)

/-- The type of a metric, if there is one of that name. -/
def valueType? (compiled : CompiledSchema) (name : String) : Option ValueType :=
  (compiled.find? name).map (·.valueType)

end CompiledSchema

/-! ## Names -/

/-- The names that generated items take whatever the schema. -/
def reservedNames : List String :=
  ["new", "publish", "clear", "dump", "record_count", "records", "results", "write_summary",
    "with_current", "take_current"]

/-- What a mutator does to its field, in one word. -/
def MetricKind.verb : MetricKind → String
  | counter => "count"
  | max => "observe"
  | sum => "add"

/-- The text that the mutator of a base metric is named by. -/
def BaseMetric.mutator (metric : BaseMetric) : String :=
  metric.kind.verb ++ "_" ++ Name.snake metric.name

/-- Refuses the schema. -/
def refuse {α : Type} (error : SchemaError) : Except Failure α := .error (.refused error)

/-- The identifier that a text spells; a text that spells none is refused as `error`. -/
def identify (text : String) (error : SchemaError) : Except Failure String :=
  match Identifier.read text with
  | .plain identifier => .ok identifier
  | .raw identifier => .error (.rawIdentifier identifier)
  | .none => refuse error

/-- The identifier that a text spells, which is itself named in the refusal. -/
def identifierOf (text : String) : Except Failure String :=
  identify text (.invalidName text .noIdentifier)

/-- Checks names in declaration order: none is blank or repeated, each spells an identifier that is
not reserved, and no two have one spelling. `taken` pairs the spellings so far with their names;
the answer is the longer list. -/
def checkNames (taken : List (String × String)) :
    List String → Except Failure (List (String × String))
  | [] => .ok taken
  | name :: rest => do
    if Text.isAllBlank name then refuse (.invalidName name .empty)
    else if taken.any (·.2 == name) then refuse (.duplicateName name .declarations)
    else
      let spelling := Name.snake name
      let _ ← identify spelling (.invalidName name .formsNoIdentifier)
      if reservedNames.contains spelling then
        refuse (.invalidName name (.reserved spelling))
      else match taken.lookup spelling with
        | some previous => refuse (.duplicateName spelling (.identifiers previous name))
        | none => checkNames (taken ++ [(spelling, name)]) rest

/-- Checks that no mutator is spelled as a metric. -/
def checkMutators (taken : List (String × String)) : List BaseMetric → Except Failure Unit
  | [] => .ok ()
  | metric :: rest =>
    match taken.lookup metric.mutator with
    | some previous =>
      refuse (.duplicateName metric.mutator (.identifiers previous metric.name))
    | none => checkMutators taken rest

/-- Checks that every compound has at least two operands and that all of them are declared. -/
def checkOperands (declared : List String) : List CompoundMetric → Except Failure Unit
  | [] => .ok ()
  | compound :: rest =>
    if compound.operands.length < 2 then
      refuse (.tooFewOperands compound.name compound.operands.length)
    else match compound.operands.find? fun operand => !declared.contains operand with
      | some operand => refuse (.unknownOperand compound.name operand)
      | none => checkOperands declared rest

/-! ## Compilation -/

/-- Raises the error of a step that may be refused. -/
def refusing {ε α : Type} (cause : ε → SchemaError) : Except ε α → Except Failure α
  | .ok value => .ok value
  | .error error => refuse (cause error)

/-- The entry of a stored metric. -/
def storageEntry (bases : List BaseMetric) (name : String) : Except Failure BaseEntry :=
  match bases.find? (·.name == name) with
  | none => .error (.defect (.unresolved name))
  | some metric => do
    let identifier ← identifierOf (Name.snake name)
    let mutator ← identifierOf metric.mutator
    return { name, kind := metric.kind, identifier, mutator }

/-- The entry of a derived metric. -/
def derivationEntry (compounds : List CompoundMetric) (types : List (String × ValueType))
    (name : String) : Except Failure CompoundEntry :=
  match compounds.find? (·.name == name), types.lookup name with
  | some compound, some valueType => do
    let identifier ← identifierOf (Name.snake name)
    return { name, operator := compound.operator, operands := compound.operands, valueType,
             identifier }
  | _, _ => .error (.defect (.unresolved name))

/-- Checks a schema and completes its orders. -/
def compile (schema : Schema) : Except Failure CompiledSchema := do
  let taken ← checkNames [] schema.names
  checkMutators taken schema.bases
  checkOperands schema.names schema.compounds
  let ordered ← refusing .cycle (dependencyOrder schema.compounds)
  let types := compoundTypes ordered
  let arrangement := schema.arrangement
  let baseNames := schema.bases.map (·.name)
  let compoundNames := schema.compounds.map (·.name)
  let storage ← refusing id (complete .storage arrangement.storage baseNames arrangement.strict)
  let derivation ←
    refusing id (complete .derivation arrangement.derivation compoundNames arrangement.strict)
  let display ← refusing id (complete .display arrangement.display schema.names arrangement.strict)
  match displayProblem display schema.names with
  | some problem => refuse (.incompleteOrder .display problem)
  | none =>
    let storage ← storage.mapM (storageEntry schema.bases)
    let derivation ← derivation.mapM (derivationEntry schema.compounds types)
    let evaluation := ordered.filterMap fun compound => derivation.find? (·.name == compound.name)
    return { storage, derivation, display, evaluation }

end StatSchema
