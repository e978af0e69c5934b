/-
The artifact that a schema leads to: the record type, the aggregator type, their reports and the
hooks, in a module or without one. Everything is checked before anything is written.
-/
import StatSchema.Artifact.Hook
import StatSchema.Artifact.Report

namespace StatSchema

/-- The module around an artifact. -/
structure Enclosure where
  attributes : List Attribute
  name : String
  deriving DecidableEq, Repr

/-- Generated items and the module around them, if there is one. -/
structure Artifact where
  enclosure : Option Enclosure
  items : List Item
  deriving DecidableEq, Repr

/-- The words that open a module. -/
def Enclosure.opening (enclosure : Enclosure) : List Token :=
  Token.code "pub mod" ++ [.identifier enclosure.name]

/-- The tokens of an artifact. -/
def Artifact.tokens (artifact : Artifact) : List Token :=
  let items := artifact.items.flatMap Item.tokens
  match artifact.enclosure with
  | some enclosure =>
    attributeTokens enclosure.attributes ++ enclosure.opening ++ Token.braces items
  | none => items

/-- Generates the artifact of a schema. -/
def generate (schema : Schema) (naming : Naming) (instrumentation : Instrumentation)
    (overrides : List Override) : Except Failure Artifact := do
  let compiled ← compile schema
  checkOverrides compiled [] overrides
  let names ← naming.typeNames
  let hooks ← Artifact.hooks compiled naming names instrumentation overrides
  let record ← Artifact.record compiled names naming.runtime
  let recordReport ← Artifact.recordReport compiled names
  let aggregator ← Artifact.aggregator compiled names naming.runtime
  let aggregatorReport ← Artifact.aggregatorReport compiled names naming.runtime
  return {
    enclosure := names.module.map fun name =>
      { attributes :=
          [.doc ("Statistics hooks and reports for " ++ Artifact.shown names.aggregator ++ ".")]
        name }
    items := record ++ recordReport ++ aggregator ++ aggregatorReport ++ hooks }

end StatSchema
