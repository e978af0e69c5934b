/-
What an artifact holds. The fields and the methods of a type are gathered from the items, the methods
from all of its implementations that are for no interface; for the record and the aggregator of a
generated artifact both are given in terms of the compiled schema.
-/
import StatSchema.Artifact
import StatSchema.Proofs.Sequencing

namespace StatSchema

namespace Item

/-- The names of the fields that an item gives to a type. -/
def fieldsOf (type : String) : Item → List String
  | .structure _ name fields => if name = type then fields.map (·.name) else []
  | _ => []

/-- The methods that an item gives to a type itself, for no interface. -/
def methodsOf (type : String) : Item → List Routine
  | implementation _ interface target methods =>
    if interface.isEmpty && target = type then methods else []
  | _ => []

/-- The cell that an item declares for new records of a type, one in each thread. -/
def cellOf? (type : String) : Item → Option String
  | .call callee (.identifier "static" :: .identifier cell :: declaration) =>
    if callee = Token.code ":: std :: thread_local" ∧
        declaration = Token.code ": :: core :: cell :: RefCell <" ++ Artifact.name type ++
          Token.code "> = const" ++ Token.braces (Token.code ":: core :: cell :: RefCell :: new" ++
            Token.parens (Artifact.name type ++ Token.code ":: new" ++ Token.parens [])) ++
          Token.code ";" then
      some cell
    else none
  | _ => none

end Item

namespace Artifact

/-- The names of the fields of a type. -/
def fieldsOf (artifact : Artifact) (type : String) : List String :=
  artifact.items.flatMap (Item.fieldsOf type)

/-- The methods of a type itself. -/
def methodsOf (artifact : Artifact) (type : String) : List Routine :=
  artifact.items.flatMap (Item.methodsOf type)

/-- The cells that hold records of a type. -/
def cellsOf (artifact : Artifact) (type : String) : List String :=
  artifact.items.filterMap (Item.cellOf? type)

/-- The names of the methods of a type itself. -/
def methodNames (artifact : Artifact) (type : String) : List String :=
  (artifact.methodsOf type).map (·.name)

/-! ## The parts of an artifact -/

section Parts

variable {compiled : CompiledSchema} {names : TypeNames} {runtime : Path} {items : List Item}

theorem record_eq_ok (h : record compiled names runtime = .ok items) :
    ∃ accessors,
      compiled.derivation.mapM (compoundAccessor compiled fun metric =>
        "The " ++ metric ++ " value derived from this record.") = .ok accessors ∧
      items = [recordType compiled names,
        .implementation [arithmeticAllowed] [] names.record
          (newRecord compiled :: compiled.storage.map fieldAccessor ++
            compiled.storage.map (mutator runtime) ++ accessors ++
            [withCurrent names, takeCurrent names]),
        threadLocal names] := by
  obtain ⟨accessors, ran, same⟩ := bind_eq_ok.1 h
  cases same
  exact ⟨accessors, ran, rfl⟩

theorem aggregator_eq_ok (h : aggregator compiled names runtime = .ok items) :
    ∃ accessors,
      compiled.derivation.mapM (compoundAccessor compiled fun metric =>
        "The " ++ metric ++ " value derived from the aggregated totals.") = .ok accessors ∧
      items = [aggregatorType names runtime,
        .implementation [arithmeticAllowed] [] names.aggregator
          (newAggregator runtime :: ledgerMethods names ++
            compiled.storage.map (reducedAccessor names) ++ accessors)] := by
  obtain ⟨accessors, ran, same⟩ := bind_eq_ok.1 h
  cases same
  exact ⟨accessors, ran, rfl⟩

theorem recordReport_eq_ok (h : recordReport compiled names = .ok items) :
    ∃ methods, items = [.implementation [] displayInterface names.record methods] := by
  obtain ⟨lines, -, same⟩ := bind_eq_ok.1 h
  cases same
  exact ⟨_, rfl⟩

theorem aggregatorReport_eq_ok (h : aggregatorReport compiled names runtime = .ok items) :
    ∃ lines methods, items =
      [.implementation [] [] names.aggregator [writeSummary lines, results runtime],
        .implementation [] displayInterface names.aggregator methods] := by
  obtain ⟨lines, -, same⟩ := bind_eq_ok.1 h
  cases same
  exact ⟨lines, _, rfl⟩

theorem hooks_eq_ok {naming : Naming} {instrumentation : Instrumentation}
    {overrides : List Override}
    (h : hooks compiled naming names instrumentation overrides = .ok items) :
    ∃ routines : List (List Routine),
      List.Forall₂ (fun (hook : StatSchema.Hook) selection => ∃ identifier,
        identifierOf (naming.hookText hook.name) = .ok identifier ∧
        selection = selected instrumentation fun enabled =>
          hookRoutine names naming.runtime identifier
            (hook.effect enabled (overrideOf? overrides hook.name)) hook)
        (StatSchema.Hook.all compiled) routines ∧
      items = routines.flatten.map Item.routine := by
  obtain ⟨routines, ran, same⟩ := bind_eq_ok.1 h
  cases same
  refine ⟨routines, (forall₂_of_mapM ran).imp ?_, rfl⟩
  intro hook selection given
  obtain ⟨identifier, spelled, same⟩ := bind_eq_ok.1 given
  cases same
  exact ⟨identifier, spelled, rfl⟩

end Parts

/-! ## The whole artifact -/

/-- The functions of an artifact that belong to no type. -/
def functions (artifact : Artifact) : List Routine :=
  artifact.items.filterMap fun
    | .routine definition => some definition
    | _ => none

/-- What the types of an artifact consist of, for a compiled schema. -/
structure Represents (artifact : Artifact) (compiled : CompiledSchema) (names : TypeNames)
    (runtime : Path) : Prop where
  fields : artifact.fieldsOf names.record = compiled.storage.map (·.identifier)
  record : ∃ accessors,
    compiled.derivation.mapM (compoundAccessor compiled fun metric =>
      "The " ++ metric ++ " value derived from this record.") = .ok accessors ∧
    artifact.methodsOf names.record =
      newRecord compiled :: compiled.storage.map fieldAccessor ++
        compiled.storage.map (mutator runtime) ++ accessors ++ [withCurrent names, takeCurrent names]
  aggregator : ∃ accessors lines,
    compiled.derivation.mapM (compoundAccessor compiled fun metric =>
      "The " ++ metric ++ " value derived from the aggregated totals.") = .ok accessors ∧
    artifact.methodsOf names.aggregator =
      newAggregator runtime :: ledgerMethods names ++
        compiled.storage.map (reducedAccessor names) ++ accessors ++
        [writeSummary lines, results runtime]
  cells : artifact.cellsOf names.record = [names.threadLocal]

theorem typeNames_apart {naming : Naming} {names : TypeNames} (h : naming.typeNames = .ok names) :
    names.record ≠ names.aggregator := by
  obtain ⟨record, -, h⟩ := bind_eq_ok.1 h
  obtain ⟨aggregator, -, h⟩ := bind_eq_ok.1 h
  obtain ⟨threadLocal, -, h⟩ := bind_eq_ok.1 h
  obtain ⟨module, -, h⟩ := bind_eq_ok.1 h
  split at h
  · cases h
  · rename_i apart
    cases h
    exact apart

theorem cellOf?_threadLocal (names : TypeNames) :
    Item.cellOf? names.record (threadLocal names) = some names.threadLocal :=
  if_pos ⟨rfl, rfl⟩

/-- What the types of an artifact consist of follows from its parts. -/
theorem represents_of_items {artifact : Artifact} {compiled : CompiledSchema} {names : TypeNames}
    {runtime : Path} (apart : names.record ≠ names.aggregator)
    {record recordReport aggregator aggregatorReport : List Item} {routines : List Routine}
    (recorded : Artifact.record compiled names runtime = .ok record)
    (recordReported : Artifact.recordReport compiled names = .ok recordReport)
    (aggregated : Artifact.aggregator compiled names runtime = .ok aggregator)
    (aggregatorReported : Artifact.aggregatorReport compiled names runtime = .ok aggregatorReport)
    (items : artifact.items =
      record ++ recordReport ++ aggregator ++ aggregatorReport ++ routines.map Item.routine) :
    artifact.Represents compiled names runtime ∧ artifact.functions = routines := by
  obtain ⟨accessors, derived, rfl⟩ := record_eq_ok recorded
  obtain ⟨displays, rfl⟩ := recordReport_eq_ok recordReported
  obtain ⟨reduced, derived', rfl⟩ := aggregator_eq_ok aggregated
  obtain ⟨lines, displays', rfl⟩ := aggregatorReport_eq_ok aggregatorReported
  have interface : displayInterface.isEmpty = false := by decide
  refine ⟨⟨?_, ⟨accessors, derived, ?_⟩, ⟨reduced, lines, derived', ?_⟩, ?_⟩, ?_⟩
  · simp [fieldsOf, items, Item.fieldsOf, recordType, aggregatorType, threadLocal, apart.symm,
      Function.comp_def]
  · simp [methodsOf, items, Item.methodsOf, recordType, aggregatorType, threadLocal, apart.symm,
      interface]
  · simp [methodsOf, items, Item.methodsOf, recordType, aggregatorType, threadLocal, apart,
      interface]
  · have none : (routines.map Item.routine).filterMap (Item.cellOf? names.record) = [] := by
      rw [List.filterMap_map]
      exact List.filterMap_eq_nil_iff.2 fun _ _ => rfl
    -- of the other items none is a call
    simp only [cellsOf, items, List.filterMap_append, List.filterMap_cons, cellOf?_threadLocal, none]
    rfl
  · simp [functions, items, recordType, aggregatorType, threadLocal]

/-- A generated artifact represents the compiled schema, and its functions are the hooks. -/
theorem generate_eq_ok {schema : Schema} {naming : Naming} {instrumentation : Instrumentation}
    {overrides : List Override} {artifact : Artifact}
    (h : generate schema naming instrumentation overrides = .ok artifact) :
    ∃ compiled names, compile schema = .ok compiled ∧ naming.typeNames = .ok names ∧
      artifact.Represents compiled names naming.runtime ∧
      hooks compiled naming names instrumentation overrides =
        .ok (artifact.functions.map Item.routine) := by
  obtain ⟨compiled, compiles, h⟩ := bind_eq_ok.1 h
  obtain ⟨-, -, h⟩ := bind_eq_ok.1 h
  obtain ⟨names, named, h⟩ := bind_eq_ok.1 h
  obtain ⟨hooks, hooked, h⟩ := bind_eq_ok.1 h
  obtain ⟨record, recorded, h⟩ := bind_eq_ok.1 h
  obtain ⟨recordReport, recordReported, h⟩ := bind_eq_ok.1 h
  obtain ⟨aggregator, aggregated, h⟩ := bind_eq_ok.1 h
  obtain ⟨aggregatorReport, aggregatorReported, h⟩ := bind_eq_ok.1 h
  obtain ⟨routines, -, rfl⟩ := hooks_eq_ok hooked
  have items : artifact.items = record ++ recordReport ++ aggregator ++ aggregatorReport ++
      routines.flatten.map Item.routine := by
    cases h
    rfl
  obtain ⟨represents, functions⟩ := represents_of_items (typeNames_apart named) recorded
    recordReported aggregated aggregatorReported items
  refine ⟨compiled, names, compiles, named, represents, ?_⟩
  rw [functions]
  exact hooked

end Artifact

end StatSchema
