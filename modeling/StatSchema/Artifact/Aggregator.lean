/-
The generated aggregator type: a ledger of published records, and an accessor for every metric.
Base metrics are reduced over the ledger; compounds are computed from what is reduced.
-/
import StatSchema.Artifact.Record
import StatSchema.Ledger

namespace StatSchema.Artifact

open StatSchema.Token

/-- The method of a ledger that carries out a reduction. -/
def reductionMethod : Reduction → String
  | .total => "total"
  | .max => "max"

/-- The documentation of a reduced metric. -/
def reductionDocumentation (metric : String) : Reduction → String
  | .total => "The sum of " ++ shown metric ++ " over all published records."
  | .max =>
    "The largest " ++ shown metric ++ " of any published record, or zero if there are none."

/-- The accessor of a base metric. -/
def reducedAccessor (names : TypeNames) (entry : BaseEntry) : Routine where
  attributes := [.doc (reductionDocumentation entry.name entry.kind.reduction), mustUse]
  name := entry.identifier
  result := resultOf .integer
  body := code "self . ledger ." ++ name (reductionMethod entry.kind.reduction) ++
    parens (name names.record ++ code "::" ++ name entry.identifier)

/-- The ledger type that generated code runs on. -/
def ledgerPath (runtime : Path) : List Token := runtime.tokens ++ code ":: Ledger"

/-- The aggregator type. -/
def aggregatorType (names : TypeNames) (runtime : Path) : Item :=
  .structure
    [.doc ("Collects published [" ++ shown names.record ++ "] values. Totals and reports cover " ++
        "every record published since creation or the last `clear()`."),
      .other (name "derive" ++ parens (code "Clone , Debug , Default"))]
    names.aggregator
    [⟨"ledger", ledgerPath runtime ++ code "<" ++ name names.record ++ code ">"⟩]

/-- The constructor of an aggregator without records. -/
def newAggregator (runtime : Path) : Routine where
  attributes := [.comment " Creates an aggregator with an empty ledger.", mustUse]
  qualifiers := code "pub const fn"
  name := "new"
  parameters := []
  result := code "-> Self"
  body := name "Self" ++
    braces (code "ledger :" ++ ledgerPath runtime ++ code ":: new" ++ parens [] ++ code ",")

/-- The methods that every aggregator has for its ledger. -/
def ledgerMethods (names : TypeNames) : List Routine :=
  [{ attributes := [.comment " Appends a record to the ledger."]
     name := "publish"
     parameters := code "& mut self , record :" ++ name names.record
     body := code "self . ledger . publish" ++ parens (name "record") ++ code ";" },
   { attributes := [.comment " Removes every published record."]
     name := "clear"
     parameters := code "& mut self"
     body := code "self . ledger . clear" ++ parens [] ++ code ";" },
   { attributes :=
       [.comment " How many records have been published since creation or the last `clear()`.",
        mustUse]
     name := "record_count"
     result := code "-> usize"
     body := code "self . ledger . len" ++ parens [] },
   { attributes := [.comment " The published records, in publication order.", mustUse]
     name := "records"
     result := code "-> &" ++ brackets (name names.record)
     body := code "self . ledger . as_slice" ++ parens [] }]

/-- The aggregator type with its methods, the reports apart. -/
def aggregator (compiled : CompiledSchema) (names : TypeNames) (runtime : Path) :
    Except Failure (List Item) := do
  let compounds ← compiled.derivation.mapM (compoundAccessor compiled fun metric =>
    "The " ++ metric ++ " value derived from the aggregated totals.")
  let methods :=
    newAggregator runtime :: ledgerMethods names ++
      compiled.storage.map (reducedAccessor names) ++ compounds
  return [aggregatorType names runtime,
    .implementation [arithmeticAllowed] [] names.aggregator methods]

end StatSchema.Artifact
