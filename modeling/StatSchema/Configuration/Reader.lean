/-
Reading configurations from documents. Every table must hold only keys that it may have; unknown
ones are found before the values of the others are looked at. Names come first, then metrics in the
order in which they are written, orders, and overrides sorted by hook.
-/
import StatSchema.Configuration.Basic
import StatSchema.Toml.Reader

namespace StatSchema.Configuration

open Toml (Table)

/-- An answer, or why a document is no configuration. -/
abbrev Decoded := Except ConfigurationError

/-! ## Values -/

/-- A table under a key. -/
def table (key : String) : Toml.Value → Decoded Table
  | .table entries => .ok entries
  | _ => .error (.wrongType key .table)

/-- A string under a key. -/
def string (key : String) : Toml.Value → Decoded String
  | .string text => .ok text
  | _ => .error (.wrongType key .string)

/-- A truth value under a key. -/
def boolean (key : String) : Toml.Value → Decoded Bool
  | .boolean truth => .ok truth
  | _ => .error (.wrongType key .boolean)

/-- The strings of an array under a key. -/
def strings (key : String) : Toml.Value → Decoded (List String)
  | .array elements =>
    elements.mapM fun
      | .string text => .ok text
      | _ => .error (.wrongType key .strings)
  | _ => .error (.wrongType key .strings)

/-- A path to code, by its text under a key. -/
def path (key text : String) : Decoded Path :=
  match Path.read? text with
  | some path => .ok path
  | none => .error (.invalidPath key text)

/-- What a table holds under a key, if anything; the `place` before the key tells tables apart in
messages. -/
def optional {α : Type} (decode : String → Toml.Value → Decoded α) (place : String) (table : Table)
    (key : String) : Decoded (Option α) :=
  (table.lookup key).mapM (decode (place ++ key))

/-- Checks that a table holds only known keys. -/
def checkKeys (place : String) (known : List String) (table : Table) : Decoded Unit :=
  match table.find? fun (key, _) => !known.contains key with
  | some (key, _) => .error (.unknownKey (place ++ key))
  | none => .ok ()

/-! ## Tables -/

/-- The names, and the feature that turns hooks on, if one is named. -/
def names (table : Table) : Decoded (Naming × Instrumentation) := do
  checkKeys "naming."
    ["hook_prefix", "record", "aggregator", "module", "runtime", "toggle_feature"] table
  let text := optional string "naming." table
  let hookPrefix ← text "hook_prefix"
  let record ← text "record"
  let aggregator ← text "aggregator"
  let module ← text "module"
  let runtime ← (← text "runtime").mapM (path "naming.runtime")
  let feature ← text "toggle_feature"
  let default : Naming := {}
  return ({
    hookPrefix := hookPrefix.getD default.hookPrefix
    record := record.getD default.record
    aggregator := aggregator.getD default.aggregator
    module := module.or default.module
    runtime := runtime.getD default.runtime },
    feature.elim .enabled .feature)

/-- The base metric of a kind. -/
def baseMetric (name word : String) (table : Table) : Decoded BaseMetric :=
  if (table.lookup "operands").isSome then .error (.invalidMetric name .operandsOfBase)
  else match MetricKind.ofWord? word with
    | some kind => .ok { name, kind }
    | none => .error (.invalidMetric name (.unknownKind word))

/-- The compound metric of an operator. -/
def compoundMetric (name symbol : String) (table : Table) : Decoded CompoundMetric :=
  match Operator.ofSymbol? symbol with
  | none => .error (.invalidMetric name (.unknownOperator symbol))
  | some operator =>
    match table.lookup "operands" with
    | none => .error (.missingKey ("operands of metric " ++ inQuotes name))
    | some value => do return { name, operator, operands := ← strings "metric.operands" value }

/-- The declaration of a metric. -/
def declaration (table : Table) : Decoded Declaration := do
  checkKeys "metric." ["name", "kind", "op", "operands"] table
  let text := optional string "metric." table
  match ← text "name" with
  | none => throw (.missingKey "metric.name")
  | some name =>
    let kind ← text "kind"
    let symbol ← text "op"
    match kind, symbol with
    | some word, none => return .base (← baseMetric name word table)
    | none, some symbol => return .compound (← compoundMetric name symbol table)
    | some _, some _ => throw (.invalidMetric name .kindAndOperator)
    | none, none => throw (.invalidMetric name .neither)

/-- The declarations of all metrics. -/
def declarations : Toml.Value → Decoded (List Declaration)
  | .array elements => elements.mapM fun element => do declaration (← table "metric" element)
  | _ => .error (.wrongType "metric" .tables)

/-- The three orders. -/
def arrangement (table : Table) : Decoded Arrangement := do
  checkKeys "order." ["strict", "storage", "derivation", "display"] table
  let names := optional strings "order." table
  let strict ← optional boolean "order." table "strict"
  return {
    strict := strict.getD false
    storage := (← names "storage").getD []
    derivation := (← names "derivation").getD []
    display := (← names "display").getD [] }

/-- The overrides, in the order of the table. -/
def overrideList (table : Table) : Decoded (List Override) :=
  table.mapM fun (hook, value) => do
    let key := "overrides." ++ hook
    return { hook, target := ← path key (← string key value) }

/-! ## Documents -/

/-- The configuration that a document describes. -/
def ofTable (document : Table) : Decoded Configuration := do
  checkKeys "" ["naming", "order", "metric", "overrides"] document
  let tableOf := optional table "" document
  let (naming, instrumentation) ← match ← tableOf "naming" with
    | some table => names table
    | none => pure ({}, .enabled)
  let declarations ← match document.lookup "metric" with
    | some metrics => declarations metrics
    | none => pure []
  let arrangement ← match ← tableOf "order" with
    | some table => arrangement table
    | none => pure {}
  let overrides ← match ← tableOf "overrides" with
    | some table => overrideList table
    | none => pure []
  return { schema := { declarations, arrangement }, naming, instrumentation, overrides }

/-- The configuration that a text describes. -/
def read (source : String) : Decoded Configuration :=
  match Toml.read source with
  | some document => ofTable document
  | none => .error .unreadable

end StatSchema.Configuration
