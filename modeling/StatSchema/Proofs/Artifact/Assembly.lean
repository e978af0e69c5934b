/-
What an artifact is assembled from: the code that is about one metric, made from the entry of the
metric and those of its operands, and code that is the same whatever the schema. Main statement:
`generate_eq_ok_iff`, generation succeeds exactly if all parts can be made, and assembles them.
-/
import StatSchema.Proofs.Artifact.Layout
import StatSchema.Proofs.Artifact.Typing

namespace StatSchema

/-- A compiled schema of base metrics alone. -/
def CompiledSchema.ofStorage (storage : List BaseEntry) : CompiledSchema where
  storage := storage
  derivation := []
  display := []
  evaluation := []

namespace Artifact

open StatSchema.Token

/-! ## Parts -/

/-- The code that is about a base metric. -/
structure BaseCode where
  entry : BaseEntry
  /-- The accessor of the record. -/
  getter : Routine
  mutator : Routine
  /-- The accessor of the aggregator. -/
  reduction : Routine
  hooks : List Routine
  deriving DecidableEq

/-- The code that is about a compound metric. -/
structure CompoundCode where
  entry : CompoundEntry
  recordAccessor : Routine
  aggregatorAccessor : Routine
  deriving DecidableEq

/-- The code that is about a metric of either sort. -/
inductive MetricCode where
  | base (code : BaseCode)
  | compound (code : CompoundCode)
  deriving DecidableEq

/-- What a line of a report shows: a padded label, and what an accessor answers. -/
structure LineCode where
  label : String
  accessor : String
  deriving DecidableEq

/-- All code that is about metrics, in the orders in which it is written. -/
structure Parts where
  bases : List BaseCode
  compounds : List CompoundCode
  lines : List LineCode

/-- The statements that write the lines of a report, each after an indent. -/
def Parts.statements (parts : Parts) (indent : String) : List (List Token) :=
  parts.lines.map fun line => lineStatement (indent ++ line.label) line.accessor

/-- The code that is about the metric of a name. -/
def Parts.code? (parts : Parts) (metric : String) : Option MetricCode :=
  ((parts.bases.find? (·.entry.name == metric)).map MetricCode.base).or
    ((parts.compounds.find? (·.entry.name == metric)).map MetricCode.compound)

/-- The artifact of given parts. Besides them it depends on names alone. -/
def assembled (names : TypeNames) (runtime : Path) (steps : List Routine) (parts : Parts) :
    Artifact :=
  let stored := CompiledSchema.ofStorage (parts.bases.map (·.entry))
  { enclosure := names.module.map fun name =>
      { attributes :=
          [.doc ("Statistics hooks and reports for " ++ shown names.aggregator ++ ".")]
        name }
    items := [
      recordType stored names,
      .implementation [arithmeticAllowed] [] names.record
        (newRecord stored :: parts.bases.map (·.getter) ++ parts.bases.map (·.mutator) ++
          parts.compounds.map (·.recordAccessor) ++ [withCurrent names, takeCurrent names]),
      threadLocal names,
      .implementation [] displayInterface names.record
        [displayMethod ((parts.statements Report.recordIndent).flatten ++ written)],
      aggregatorType names runtime,
      .implementation [arithmeticAllowed] [] names.aggregator
        (newAggregator runtime :: ledgerMethods names ++ parts.bases.map (·.reduction) ++
          parts.compounds.map (·.aggregatorAccessor)),
      .implementation [] [] names.aggregator
        [writeSummary (parts.statements ""), results runtime],
      .implementation [] displayInterface names.aggregator
        [displayMethod (code "self . write_summary" ++ parens (name "f") ++ code "? ;" ++
          writeEntries runtime (name "f"))]] ++
      (parts.bases.flatMap (·.hooks) ++ steps).map Item.routine }

/-! ## Making parts -/

section Making

variable (compiled : CompiledSchema) (naming : Naming) (names : TypeNames)
  (instrumentation : Instrumentation) (overrides : List Override)

/-- The functions of a hook. -/
def hookCode (hook : StatSchema.Hook) : Except Failure (List Routine) := do
  let identifier ← identifierOf (naming.hookText hook.name)
  let effect := fun enabled => hook.effect enabled (overrideOf? overrides hook.name)
  return selected instrumentation fun enabled =>
    hookRoutine names naming.runtime identifier (effect enabled) hook

/-- The functions of the hooks of aggregators. -/
def stepCode : Except Failure (List Routine) := do
  let functions ← Lifecycle.all.mapM fun step =>
    hookCode naming names instrumentation overrides (.lifecycle step)
  return functions.flatten

/-- The code that is about a base metric, from its entry alone. -/
def baseCode (entry : BaseEntry) : Except Failure BaseCode := do
  let hooks ← hookCode naming names instrumentation overrides (.metric entry)
  return { entry
           getter := fieldAccessor entry
           mutator := mutator naming.runtime entry
           reduction := reducedAccessor names entry
           hooks }

/-- The code that is about a compound metric. -/
def compoundCode (entry : CompoundEntry) : Except Failure CompoundCode := do
  let recordAccessor ← compoundAccessor compiled (fun metric =>
    "The " ++ metric ++ " value derived from this record.") entry
  let aggregatorAccessor ← compoundAccessor compiled (fun metric =>
    "The " ++ metric ++ " value derived from the aggregated totals.") entry
  return { entry, recordAccessor, aggregatorAccessor }

/-- The code that is about a metric of either sort, from its entry. -/
def metricCode : Entry → Except Failure MetricCode
  | .base entry => do return .base (← baseCode naming names instrumentation overrides entry)
  | .compound entry => do return .compound (← compoundCode compiled entry)

/-- The line of a labelled metric. -/
def lineCode (labelled : String × String) : Except Failure LineCode :=
  match compiled.find? labelled.1 with
  | some entry => .ok ⟨labelled.2, entry.identifier⟩
  | none => .error (.defect (.unresolved labelled.1))

end Making

/-! ## Parts that can be made -/

section Made

variable {compiled : CompiledSchema} {naming : Naming} {names : TypeNames}
  {instrumentation : Instrumentation} {overrides : List Override}

/-- A view of the answers of steps, each of which depends on what its step was given. -/
theorem map_of_mapM {ε α β γ : Type} {step : α → Except ε β} {view : β → γ} {source : α → γ}
    (agrees : ∀ a b, step a = .ok b → view b = source a) {l : List α} {answers : List β}
    (h : l.mapM step = .ok answers) : answers.map view = l.map source :=
  map_eq_of_forall₂ (List.forall₂_map_left_iff.2 ((mapM_eq_ok_iff.1 h).imp agrees))

/-- Steps that answer with a view of what other steps answer. -/
theorem mapM_of_mapM {ε α β γ : Type} {step : α → Except ε β} {part : α → Except ε γ}
    {view : β → γ} (agrees : ∀ a b, step a = .ok b → part a = .ok (view b)) {l : List α}
    {answers : List β} (h : l.mapM step = .ok answers) : l.mapM part = .ok (answers.map view) :=
  mapM_eq_ok_iff.2 (List.forall₂_map_right_iff.2 ((mapM_eq_ok_iff.1 h).imp agrees))

/-- What is found among answers, each of which holds what its step was given. -/
theorem find?_of_mapM {ε α β : Type} {step : α → Except ε β} {source : β → α}
    (agrees : ∀ a b, step a = .ok b → source b = a) {l : List α} {answers : List β}
    (h : l.mapM step = .ok answers) (p : α → Bool) :
    (answers.find? (p ∘ source)).map source = l.find? p ∧
      ∀ b ∈ answers, step (source b) = .ok b := by
  have sources := map_eq_of_forall₂ ((mapM_eq_ok_iff.1 h).imp agrees)
  constructor
  · rw [← sources, List.find?_map]
  · intro b here
    obtain ⟨a, -, given⟩ := exists_mem_of_forall₂ (mapM_eq_ok_iff.1 h) b here
    rwa [agrees a b given]

theorem baseCode_eq_ok {entry : BaseEntry} {code : BaseCode}
    (h : baseCode naming names instrumentation overrides entry = .ok code) :
    code.entry = entry ∧ code.getter = fieldAccessor entry ∧
      code.mutator = mutator naming.runtime entry ∧ code.reduction = reducedAccessor names entry ∧
      hookCode naming names instrumentation overrides (.metric entry) = .ok code.hooks := by
  obtain ⟨hooks, hooked, h⟩ := bind_eq_ok.1 h
  cases h
  exact ⟨rfl, rfl, rfl, rfl, hooked⟩

theorem compoundCode_eq_ok {entry : CompoundEntry} {code : CompoundCode}
    (h : compoundCode compiled entry = .ok code) :
    code.entry = entry ∧
      compoundAccessor compiled (fun metric =>
        "The " ++ metric ++ " value derived from this record.") entry = .ok code.recordAccessor ∧
      compoundAccessor compiled (fun metric =>
        "The " ++ metric ++ " value derived from the aggregated totals.") entry =
          .ok code.aggregatorAccessor := by
  obtain ⟨recordAccessor, onRecord, h⟩ := bind_eq_ok.1 h
  obtain ⟨aggregatorAccessor, onAggregator, h⟩ := bind_eq_ok.1 h
  cases h
  exact ⟨rfl, onRecord, onAggregator⟩

/-- Parts that are made for a compiled schema. -/
structure Made (compiled : CompiledSchema) (naming : Naming) (names : TypeNames)
    (instrumentation : Instrumentation) (overrides : List Override) (made : Parts) : Prop where
  bases : compiled.storage.mapM (baseCode naming names instrumentation overrides) = .ok made.bases
  compounds : compiled.derivation.mapM (compoundCode compiled) = .ok made.compounds
  lines : (Report.labelled compiled).mapM (lineCode compiled) = .ok made.lines

variable {made : Parts} (h : Made compiled naming names instrumentation overrides made)

include h

theorem Made.entries : made.bases.map (·.entry) = compiled.storage :=
  map_eq_of_forall₂ ((mapM_eq_ok_iff.1 h.bases).imp fun _ _ given => (baseCode_eq_ok given).1)

theorem Made.compoundEntries : made.compounds.map (·.entry) = compiled.derivation :=
  map_eq_of_forall₂
    ((mapM_eq_ok_iff.1 h.compounds).imp fun _ _ given => (compoundCode_eq_ok given).1)

theorem Made.record :
    record compiled names naming.runtime = .ok [
      recordType (.ofStorage (made.bases.map (·.entry))) names,
      .implementation [arithmeticAllowed] [] names.record
        (newRecord (.ofStorage (made.bases.map (·.entry))) :: made.bases.map (·.getter) ++
          made.bases.map (·.mutator) ++ made.compounds.map (·.recordAccessor) ++
          [withCurrent names, takeCurrent names]),
      threadLocal names] := by
  have getters := map_of_mapM (fun _ _ given => (baseCode_eq_ok given).2.1) h.bases
  have mutators := map_of_mapM (fun _ _ given => (baseCode_eq_ok given).2.2.1) h.bases
  have accessors := mapM_of_mapM (fun _ _ given => (compoundCode_eq_ok given).2.1) h.compounds
  rw [Artifact.record, accessors, ok_bind, h.entries, getters, mutators]
  rfl

theorem Made.aggregator :
    aggregator compiled names naming.runtime = .ok [
      aggregatorType names naming.runtime,
      .implementation [arithmeticAllowed] [] names.aggregator
        (newAggregator naming.runtime :: ledgerMethods names ++ made.bases.map (·.reduction) ++
          made.compounds.map (·.aggregatorAccessor))] := by
  have reductions := map_of_mapM (fun _ _ given => (baseCode_eq_ok given).2.2.2.1) h.bases
  have accessors := mapM_of_mapM (fun _ _ given => (compoundCode_eq_ok given).2.2) h.compounds
  rw [Artifact.aggregator, accessors, ok_bind, reductions]
  rfl

theorem Made.statements (indent : String) :
    lineStatements compiled indent = .ok (made.statements indent) := by
  refine mapM_of_mapM (fun labelled line given => ?_) h.lines
  unfold lineCode at given
  split at given
  · rename_i entry found
    cases given
    simp only [found]
  · cases given

theorem Made.hooks {steps : List Routine}
    (stepped : stepCode naming names instrumentation overrides = .ok steps) :
    hooks compiled naming names instrumentation overrides =
      .ok ((made.bases.flatMap (·.hooks) ++ steps).map Item.routine) := by
  let code := hookCode naming names instrumentation overrides
  have metrics : compiled.storage.mapM (code ∘ .metric) = .ok (made.bases.map (·.hooks)) :=
    mapM_of_mapM (fun _ _ given => (baseCode_eq_ok given).2.2.2.2) h.bases
  obtain ⟨lifecycles, ran, same⟩ := bind_eq_ok.1 stepped
  cases same
  have all : (StatSchema.Hook.all compiled).mapM code =
      .ok (made.bases.map (·.hooks) ++ lifecycles) := by
    rw [StatSchema.Hook.all, List.mapM_append, List.mapM_map, List.mapM_map, metrics, ok_bind,
      show Lifecycle.all.mapM (code ∘ .lifecycle) = .ok lifecycles from ran]
    rfl
  have unfolded : Artifact.hooks compiled naming names instrumentation overrides =
      (StatSchema.Hook.all compiled).mapM code >>= fun routines =>
        pure (routines.flatten.map Item.routine) := rfl
  rw [unfolded, all, ok_bind, List.flatten_append, List.flatMap_def]
  rfl

/-- The code that is about a metric is made from the entry that is found for it. -/
theorem Made.code?_eq (metric : String) :
    made.code? metric = (compiled.find? metric).bind fun entry =>
      (metricCode compiled naming names instrumentation overrides entry).toOption := by
  obtain ⟨based, bases⟩ := find?_of_mapM (fun _ _ given => (baseCode_eq_ok given).1) h.bases
    (·.name == metric)
  obtain ⟨derived, compounds⟩ := find?_of_mapM (fun _ _ given => (compoundCode_eq_ok given).1)
    h.compounds (·.name == metric)
  unfold Parts.code? CompiledSchema.find?
  rw [← based, ← derived]
  show (Option.map _ (made.bases.find? ((·.name == metric) ∘ (·.entry)))).or
    (Option.map _ (made.compounds.find? ((·.name == metric) ∘ (·.entry)))) = _
  -- what is found has been made, from its own entry
  cases found : made.bases.find? ((·.name == metric) ∘ (·.entry)) with
  | some code =>
    have given := bases code (List.mem_of_find?_eq_some found)
    simp [metricCode, given, ok_bind, Except.toOption, pure, Except.pure]
  | none =>
    cases found' : made.compounds.find? ((·.name == metric) ∘ (·.entry)) with
    | some code =>
      have given := compounds code (List.mem_of_find?_eq_some found')
      simp [metricCode, given, ok_bind, Except.toOption, pure, Except.pure]
    | none => rfl

/-- There is code about every metric that is found. -/
theorem Made.exists_code {metric : String} {entry : Entry}
    (found : compiled.find? metric = some entry) :
    ∃ code, metricCode compiled naming names instrumentation overrides entry = .ok code ∧
      made.code? metric = some code := by
  have given : ∃ code, metricCode compiled naming names instrumentation overrides entry =
      .ok code := by
    obtain ⟨-, ⟨base, here, rfl⟩ | ⟨compound, here, rfl⟩⟩ := CompiledSchema.find?_eq_some found
    · obtain ⟨code, -, given⟩ := exists_mem_of_forall₂ (mapM_eq_ok_iff.1 h.bases).flip base here
      exact ⟨.base code, by rw [metricCode, given]; rfl⟩
    · obtain ⟨code, -, given⟩ :=
        exists_mem_of_forall₂ (mapM_eq_ok_iff.1 h.compounds).flip compound here
      exact ⟨.compound code, by rw [metricCode, given]; rfl⟩
  obtain ⟨code, given⟩ := given
  refine ⟨code, given, ?_⟩
  rw [h.code?_eq, found, Option.bind_some, given]
  rfl

end Made

/-! ## The whole artifact -/

/-- A schema for which everything can be made that an artifact is assembled from. -/
structure Composed (schema : Schema) (naming : Naming) (instrumentation : Instrumentation)
    (overrides : List Override) (compiled : CompiledSchema) (names : TypeNames)
    (steps : List Routine) (made : Parts) : Prop where
  compiles : compile schema = .ok compiled
  checked : checkOverrides compiled [] overrides = .ok ()
  named : naming.typeNames = .ok names
  stepped : stepCode naming names instrumentation overrides = .ok steps
  made : Made compiled naming names instrumentation overrides made

section Whole

variable {schema : Schema} {compiled : CompiledSchema} {naming : Naming} {names : TypeNames}
  {instrumentation : Instrumentation} {overrides : List Override} {steps : List Routine}
  {made : Parts}

theorem Composed.generate_eq
    (composed : Composed schema naming instrumentation overrides compiled names steps made) :
    generate schema naming instrumentation overrides =
      .ok (assembled names naming.runtime steps made) := by
  obtain ⟨compiles, checked, named, stepped, made⟩ := composed
  unfold generate
  rw [compiles, ok_bind, checked, ok_bind, named, ok_bind, made.hooks stepped, ok_bind,
    made.record, ok_bind, recordReport, made.statements, ok_bind]
  show (aggregator compiled names naming.runtime >>= _) = _
  rw [made.aggregator, ok_bind, aggregatorReport, made.statements, ok_bind]
  rfl

/-- If hooks and expressions can be made, so can all parts. -/
theorem exists_parts (compiles : compile schema = .ok compiled) {items : List Item}
    (hooked : hooks compiled naming names instrumentation overrides = .ok items) :
    ∃ steps made, stepCode naming names instrumentation overrides = .ok steps ∧
      Made compiled naming names instrumentation overrides made := by
  obtain ⟨wellFormed, represents⟩ := of_compile compiles
  obtain ⟨routines, ran, -⟩ := bind_eq_ok.1 hooked
  -- hooks can fail for their names; expressions and lines cannot once a schema is compiled
  have each : ∀ hook ∈ StatSchema.Hook.all compiled, ∃ code,
      hookCode naming names instrumentation overrides hook = .ok code := by
    intro hook here
    obtain ⟨code, -, given⟩ := exists_mem_of_forall₂ (mapM_eq_ok_iff.1 ran).flip hook here
    exact ⟨code, given⟩
  obtain ⟨functions, stepped⟩ := exists_mapM fun (step : Lifecycle) (here : step ∈ Lifecycle.all) =>
    each (.lifecycle step) (List.mem_append_right _ (List.mem_map_of_mem here))
  obtain ⟨bases, based⟩ := exists_mapM (l := compiled.storage)
    (f := baseCode naming names instrumentation overrides) fun entry here => by
      obtain ⟨code, given⟩ := each (.metric entry) (List.mem_append_left _ (List.mem_map_of_mem here))
      exact ⟨_, by rw [baseCode, given]; rfl⟩
  obtain ⟨compounds, derived⟩ := exists_mapM (l := compiled.derivation)
    (f := compoundCode compiled) fun entry here => by
      obtain ⟨tree, made⟩ := CompiledSchema.exists_expression compiles here
      exact ⟨_, by rw [compoundCode, compoundAccessor, compoundAccessor, made]; rfl⟩
  obtain ⟨lines, shown⟩ := exists_mapM (l := Report.labelled compiled)
    (f := lineCode compiled) fun labelled here => by
      obtain ⟨metric, there, rfl⟩ := List.mem_map.1 here
      obtain ⟨entry, found⟩ := represents.exists_entry (represents.display.mem_iff.1 there)
      exact ⟨⟨_, entry.identifier⟩, by rw [lineCode, found]⟩
  exact ⟨functions.flatten, ⟨bases, compounds, lines⟩, by rw [stepCode, stepped]; rfl,
    based, derived, shown⟩

/-- Generation succeeds exactly if all parts can be made, and assembles them. -/
theorem generate_eq_ok_iff {artifact : Artifact} :
    generate schema naming instrumentation overrides = .ok artifact ↔
      ∃ compiled names steps made,
        Composed schema naming instrumentation overrides compiled names steps made ∧
          artifact = assembled names naming.runtime steps made := by
  constructor
  · intro generated
    obtain ⟨compiled, compiles, h⟩ := bind_eq_ok.1 generated
    obtain ⟨⟨⟩, checked, h⟩ := bind_eq_ok.1 h
    obtain ⟨names, named, h⟩ := bind_eq_ok.1 h
    obtain ⟨items, hooked, -⟩ := bind_eq_ok.1 h
    obtain ⟨steps, made, stepped, all⟩ := exists_parts compiles hooked
    have composed : Composed schema naming instrumentation overrides compiled names steps made :=
      ⟨compiles, checked, named, stepped, all⟩
    rw [composed.generate_eq] at generated
    cases generated
    exact ⟨compiled, names, steps, made, composed, rfl⟩
  · rintro ⟨compiled, names, steps, made, composed, rfl⟩
    exact composed.generate_eq

end Whole

end Artifact

end StatSchema
