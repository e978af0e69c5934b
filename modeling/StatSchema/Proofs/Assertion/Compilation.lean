/-
Compilation with its assertions written out: completed orders are as long as their keys are many, names
that were resolved have entries, compounds have been typed, indexes lead to entries, and the expression
of a compound has the type that was inferred. Main statement: no assertion fails, whatever the schema,
and nothing stops generation but a refusal or a name in raw form.

Each assertion is discharged by what an earlier check has found: distinct names by that of names, whole
orders by completion, operands by that of operands, types by the absence of cycles.
-/
import StatSchema.Proofs.Artifact.Promises
import StatSchema.Proofs.Assertion.Inference

namespace StatSchema

open Asserting (settled expect require expect_some require_of_holds settled_ok_bind
  mapM_of_forall₂)

/-! ## Indexed schemas -/

/-- The places of names, those of later names first. -/
def places (names : List String) : List (String × Nat) := names.zipIdx.reverse

/-- A compiled schema as it is kept, with the places of its entries by name. -/
structure IndexedSchema where
  storage : List BaseEntry
  derivation : List CompoundEntry
  display : List String
  basePlaces : List (String × Nat)
  compoundPlaces : List (String × Nat)
  deriving DecidableEq, Repr

namespace IndexedSchema

/-- Entries with their places. -/
def ofEntries (storage : List BaseEntry) (derivation : List CompoundEntry) (display : List String) :
    IndexedSchema :=
  ⟨storage, derivation, display, places (storage.map (·.name)), places (derivation.map (·.name))⟩

/-- The entry of a metric, which must be there. -/
def metric (schema : IndexedSchema) (name : String) : Asserting Entry :=
  match schema.basePlaces.lookup name with
  | some place => do
    let entry ← expect schema.storage[place]? (.indexed place)
    settled (.ok (.base entry))
  | none => do
    let place ← expect (schema.compoundPlaces.lookup name) (.declared name)
    let entry ← expect schema.derivation[place]? (.indexed place)
    settled (.ok (.compound entry))

/-- The type of a metric, if there is one of that name. -/
def valueType? (schema : IndexedSchema) (name : String) : Asserting (Option ValueType) :=
  if (schema.basePlaces.lookup name).isSome || (schema.compoundPlaces.lookup name).isSome then do
    let entry ← schema.metric name
    settled (.ok (some entry.valueType))
  else settled (.ok none)

/-- The expression that computes a compound metric. -/
def expression (schema : IndexedSchema) (compound : CompoundEntry) :
    Asserting (Expression Entry) := do
  let first ← expect compound.operands.head? (.operands compound.name)
  let first ← schema.metric first
  let rest ← compound.operands.tail.mapM schema.metric
  let (tree, type) := Expression.fold Entry.valueType compound.operator true (.accessor first)
    first.valueType rest
  require (type = compound.valueType) (.agreement compound.name)
  settled (.ok tree)

end IndexedSchema

/-- A compiled schema as it is kept. -/
def CompiledSchema.indexed (compiled : CompiledSchema) : IndexedSchema :=
  .ofEntries compiled.storage compiled.derivation compiled.display

/-! ## Compilation -/

namespace Asserting

/-- The whole order that a list begins. -/
def complete (order : MetricOrder) (listed keys : List String) (strict : Bool) :
    Asserting (List String) := do
  let whole ← settled (refusing id (StatSchema.complete order listed keys strict))
  require (whole.length = keys.length) (.whole order)
  settled (.ok whole)

/-- The entry of a stored metric. -/
def storageEntry (bases : List BaseMetric) (name : String) : Asserting BaseEntry := do
  let metric ← expect (bases.find? (·.name == name)) (.stored name)
  let identifier ← settled (identifierOf (Name.snake name))
  let mutator ← settled (identifierOf metric.mutator)
  settled (.ok { name, kind := metric.kind, identifier, mutator })

/-- The entry of a derived metric. -/
def derivationEntry (compounds : List CompoundMetric) (types : Types) (name : String) :
    Asserting CompoundEntry := do
  let compound ← expect (compounds.find? (·.name == name)) (.derived name)
  let identifier ← settled (identifierOf (Name.snake name))
  let valueType ← expect (types.lookup name) (.typed name)
  settled (.ok { name, operator := compound.operator, operands := compound.operands, valueType,
                 identifier })

/-- Checks a schema and completes its orders, keeping to what is asserted on the way. -/
def compile (schema : Schema) : Asserting IndexedSchema := do
  let taken ← settled (checkNames [] schema.names)
  settled (checkMutators taken schema.bases)
  settled (checkOperands schema.names schema.compounds)
  let _ ← Search.run schema.compounds
  let types ← Types.inferAll schema.compounds
  let arrangement := schema.arrangement
  let baseNames := schema.bases.map (·.name)
  let compoundNames := schema.compounds.map (·.name)
  let storage ← complete .storage arrangement.storage baseNames arrangement.strict
  let derivation ← complete .derivation arrangement.derivation compoundNames arrangement.strict
  let display ← complete .display arrangement.display schema.names arrangement.strict
  match displayProblem display schema.names with
  | some problem => settled (refuse (.incompleteOrder .display problem))
  | none =>
    let storage ← storage.mapM (storageEntry schema.bases)
    let derivation ← derivation.mapM (derivationEntry schema.compounds types)
    settled (.ok (.ofEntries storage derivation display))

/-! ## Single assertions -/

variable {α β γ : Type}

/-- Steps that answer something kept otherwise. -/
theorem settled_bind_map {answer : Except Failure α} {next : α → Asserting γ}
    {rest : α → Except Failure β} {kept : β → γ} (later : ∀ value, answer = .ok value →
      next value = settled ((rest value).map kept)) :
    settled answer >>= next = settled ((answer >>= rest).map kept) := by
  cases answer with
  | error failure => rfl
  | ok value => exact later value rfl

/-- A completed order of distinct keys is as long as they are many. -/
theorem complete_eq {keys : List String} (distinct : keys.Nodup) (order : MetricOrder)
    (listed : List String) (strict : Bool) :
    complete order listed keys strict =
      settled (refusing id (StatSchema.complete order listed keys strict)) := by
  unfold complete
  rcases complete_spec order listed keys strict with ⟨ran, completable⟩ | ⟨error, ran, -⟩
  · have perm := perm_append_omitted completable distinct
    rw [ran, refusing, settled_ok_bind, require_of_holds perm.length_eq, settled_ok_bind]
  · rw [ran]
    rfl

theorem storageEntry_eq {bases : List BaseMetric} {name : String}
    (here : name ∈ bases.map (·.name)) :
    storageEntry bases name = settled (StatSchema.storageEntry bases name) := by
  obtain ⟨metric, there, rfl⟩ := List.mem_map.1 here
  obtain ⟨other, found⟩ := Option.isSome_iff_exists.1
    (List.find?_isSome.2 ⟨metric, there, by simp⟩ :
      (bases.find? (·.name == metric.name)).isSome)
  unfold storageEntry StatSchema.storageEntry
  rw [found, expect_some, settled_ok_bind]
  exact settled_bind fun identifier _ => settled_bind fun mutator _ => rfl

theorem derivationEntry_eq {compounds : List CompoundMetric} {name : String}
    (here : name ∈ compounds.map (·.name)) {types : Types} {given : List (String × ValueType)}
    {type : ValueType} (typed : types.lookup name = some type)
    (typed' : given.lookup name = some type) :
    derivationEntry compounds types name =
      settled (StatSchema.derivationEntry compounds given name) := by
  obtain ⟨compound, found⟩ := exists_find?_of_mem here
  unfold derivationEntry StatSchema.derivationEntry
  rw [found, typed, typed', expect_some, expect_some, settled_ok_bind]
  exact settled_bind fun identifier _ => rfl

theorem lookup_eq_typeIn {given : List (String × ValueType)} {name : String}
    (here : name ∈ given.map (·.1)) : given.lookup name = some (typeIn given name) := by
  obtain ⟨type, found⟩ := lookup_isSome_of_mem here
  rw [typeIn, found]
  rfl

theorem mem_of_complete {order : MetricOrder} {listed keys whole : List String} {strict : Bool}
    (h : refusing id (StatSchema.complete order listed keys strict) = .ok whole) :
    ∀ name ∈ whole, name ∈ keys := by
  rcases complete_spec order listed keys strict with ⟨ran, completable⟩ | ⟨error, ran, -⟩
  · rw [ran] at h
    cases h
    intro name here
    rcases List.mem_append.1 here with here | here
    · exact completable.known name here
    · exact (mem_omitted.1 here).1
  · rw [ran] at h
    cases h

/-- Compilation comes to no failing assertion. -/
theorem compile_eq (schema : Schema) :
    compile schema = settled ((StatSchema.compile schema).map CompiledSchema.indexed) := by
  unfold compile StatSchema.compile
  refine settled_bind_map fun taken named => ?_
  have names : NamesSound schema.names := by
    rcases checkNames_all_spec schema.names with ⟨-, sound⟩ | ⟨failure, refused, -⟩
    · exact sound
    · rw [named] at refused
      cases refused
  have baseNames := names.nodup.sublist schema.sublist_names_bases
  have compoundNames := names.nodup.sublist schema.sublist_names_compounds
  refine settled_bind_map fun _ _ => settled_bind_map fun _ _ => ?_
  have followed := Search.run_follows schema.compounds
  rcases dependencyOrder_spec schema.compounds with ⟨done, ran, ordered, all⟩ | ⟨cycle, ran, -⟩
  swap
  · rw [ran] at followed
    rw [ran, show Search.run schema.compounds = _ from followed]
    rfl
  rw [ran] at followed
  obtain ⟨search, searched, -⟩ := followed
  obtain ⟨types, inferred, typed⟩ :=
    Types.inferAll_spec (ordered.typing compoundNames all) (ordered.acyclic compoundNames all)
  rw [searched, settled_ok_bind, inferred, settled_ok_bind, ran, refusing, ok_bind]
  dsimp only
  rw [complete_eq baseNames, complete_eq compoundNames, complete_eq names.nodup]
  refine settled_bind_map fun storage stored => settled_bind_map fun derivation derived =>
    settled_bind_map fun display _ => ?_
  cases displayProblem display schema.names with
  | some problem => rfl
  | none =>
    dsimp only
    have computed : ∀ name ∈ derivation, name ∈ (compoundTypes done).map (·.1) := by
      intro name here
      rw [names_compoundTypes]
      obtain ⟨compound, there, rfl⟩ := List.mem_map.1 (mem_of_complete derived name here)
      exact all compound there
    rw [mapM_settled fun name here => storageEntry_eq (mem_of_complete stored name here),
      mapM_settled fun name here => derivationEntry_eq (mem_of_complete derived name here)
        (typed name (mem_of_complete derived name here)) (lookup_eq_typeIn (computed name here))]
    exact settled_bind_map fun _ _ => settled_bind_map fun _ _ => rfl

end Asserting

/-! ## Compiled schemas -/

section Places

variable {α : Type} {key : α → String} {values : List α}

/-- The place of a name leads to what is found under the name. -/
theorem lookup_places_of_find? (distinct : (values.map key).Nodup) {name : String} {value : α}
    (found : values.find? (fun other => key other == name) = some value) :
    ∃ place, (places (values.map key)).lookup name = some place ∧ values[place]? = some value := by
  obtain ⟨place, there⟩ := List.mem_iff_getElem?.1 (List.mem_of_find?_eq_some found)
  have named : key value = name := by simpa using List.find?_some found
  refine ⟨place, ?_, there⟩
  have keyed : ((values.map key).zipIdx.reverse.map Prod.fst).Nodup := by
    rw [List.map_reverse, List.zipIdx_map_fst]
    exact List.nodup_reverse.2 distinct
  have here : (name, place) ∈ (values.map key).zipIdx.reverse := by
    rw [List.mem_reverse, List.mk_mem_zipIdx_iff_getElem?, List.getElem?_map, there, ← named]
    rfl
  have looked : ((values.map key).zipIdx.reverse.map fun pair => (pair.1, pair.2)).lookup name =
      some place := lookup_map_key keyed here
  simpa [places] using looked

theorem lookup_places_of_find?_eq_none {name : String}
    (missing : values.find? (fun other => key other == name) = none) :
    (places (values.map key)).lookup name = none := by
  refine lookup_eq_none_of_not_mem ?_
  rw [places, List.map_reverse, List.zipIdx_map_fst, List.mem_reverse]
  intro here
  obtain ⟨value, there, rfl⟩ := List.mem_map.1 here
  have missed := List.find?_eq_none.1 missing value there
  simp at missed

end Places

namespace CompiledSchema

variable {schema : Schema} {compiled : CompiledSchema}

theorem lookup_basePlaces (compiles : compile schema = .ok compiled) {name : String}
    {base : BaseEntry} (stored : compiled.storage.find? (·.name == name) = some base) :
    ∃ place, compiled.indexed.basePlaces.lookup name = some place ∧
      compiled.indexed.storage[place]? = some base := by
  obtain ⟨wellFormed, represents⟩ := of_compile compiles
  exact lookup_places_of_find? (represents.nodup_storage (wellFormed .names)) stored

theorem lookup_compoundPlaces (compiles : compile schema = .ok compiled) {name : String}
    {compound : CompoundEntry}
    (derived : compiled.derivation.find? (·.name == name) = some compound) :
    ∃ place, compiled.indexed.compoundPlaces.lookup name = some place ∧
      compiled.indexed.derivation[place]? = some compound := by
  obtain ⟨wellFormed, represents⟩ := of_compile compiles
  exact lookup_places_of_find? (represents.nodup_derivation (wellFormed .names)) derived

/-- Looking a metric up by its place finds its entry. -/
theorem metric_of_find? (compiles : compile schema = .ok compiled) {name : String} {entry : Entry}
    (found : compiled.find? name = some entry) :
    compiled.indexed.metric name = settled (.ok entry) := by
  unfold IndexedSchema.metric
  cases stored : compiled.storage.find? (·.name == name) with
  | some base =>
    obtain ⟨place, looked, there⟩ := lookup_basePlaces compiles stored
    rw [find?, stored] at found
    cases found
    rw [looked]
    dsimp only
    rw [there]
    rfl
  | none =>
    rw [find?, stored, Option.map_none, Option.none_or] at found
    obtain ⟨compound, derived, rfl⟩ := Option.map_eq_some_iff.1 found
    obtain ⟨place, looked, there⟩ := lookup_compoundPlaces compiles derived
    have absent : compiled.indexed.basePlaces.lookup name = none :=
      lookup_places_of_find?_eq_none stored
    rw [absent]
    dsimp only
    rw [looked, expect_some, settled_ok_bind, there]
    rfl

/-- Looking up the type of any name finds it, or that there is no metric of the name. -/
theorem valueType?_indexed (compiles : compile schema = .ok compiled) (name : String) :
    compiled.indexed.valueType? name = settled (.ok (compiled.valueType? name)) := by
  unfold IndexedSchema.valueType? valueType?
  cases found : compiled.find? name with
  | some entry =>
    have known : ((compiled.indexed.basePlaces.lookup name).isSome ||
        (compiled.indexed.compoundPlaces.lookup name).isSome) = true := by
      rcases Option.or_eq_some_iff.1 found with stored | ⟨-, derived⟩
      · obtain ⟨base, stored, -⟩ := Option.map_eq_some_iff.1 stored
        obtain ⟨place, looked, -⟩ := lookup_basePlaces compiles stored
        rw [looked]
        rfl
      · obtain ⟨compound, derived, -⟩ := Option.map_eq_some_iff.1 derived
        obtain ⟨place, looked, -⟩ := lookup_compoundPlaces compiles derived
        rw [looked, Option.isSome_some, Bool.or_true]
    rw [if_pos known, metric_of_find? compiles found]
    rfl
  | none =>
    obtain ⟨stored, derived⟩ := Option.or_eq_none_iff.1 found
    have absent : compiled.indexed.basePlaces.lookup name = none :=
      lookup_places_of_find?_eq_none (Option.map_eq_none_iff.1 stored)
    have absent' : compiled.indexed.compoundPlaces.lookup name = none :=
      lookup_places_of_find?_eq_none (Option.map_eq_none_iff.1 derived)
    rw [absent, absent']
    rfl

/-- The expression of a compound is made from places as it is made from names. -/
theorem expression_indexed (compiles : compile schema = .ok compiled) {compound : CompoundEntry}
    {tree : Expression Entry} (made : compiled.expression compound = .ok tree) :
    compiled.indexed.expression compound = settled (.ok tree) := by
  obtain ⟨operands, resolved, applied⟩ := expression_eq_ok made
  have found := entries_eq_ok resolved
  obtain ⟨name, operator, names, valueType, identifier⟩ := compound
  cases found with
  | nil => cases applied
  | @cons head first tail rest here later =>
    have folded : Expression.fold Entry.valueType operator true (.accessor first) first.valueType
        rest = (tree, valueType) := Option.some.inj applied
    have others : tail.mapM compiled.indexed.metric = settled (.ok rest) :=
      mapM_of_forall₂ (later.imp fun _ _ there => metric_of_find? compiles there)
    unfold IndexedSchema.expression
    dsimp only
    rw [List.head?_cons, expect_some, settled_ok_bind, metric_of_find? compiles here,
      settled_ok_bind, List.tail_cons, others, settled_ok_bind, folded]
    dsimp only
    rw [require_of_holds rfl, settled_ok_bind]

end CompiledSchema

/-- No assertion fails. Compilation with its assertions answers as compilation does, whatever the
schema; once it has compiled, every declared metric is found by its place, looking up the type of any name
comes to an answer, and every compound has an expression of its type. What stops compilation or
generation is a refusal, or a text in raw form among those that are read as identifiers. -/
theorem assertions_hold (schema : Schema) :
    Asserting.compile schema = settled ((compile schema).map CompiledSchema.indexed) ∧
    (∀ compiled, compile schema = .ok compiled →
      (∀ name ∈ schema.names, ∃ entry, compiled.find? name = some entry ∧
        compiled.indexed.metric name = settled (.ok entry)) ∧
      (∀ name, compiled.indexed.valueType? name = settled (.ok (compiled.valueType? name))) ∧
      ∀ compound ∈ compiled.derivation, ∃ tree, compiled.expression compound = .ok tree ∧
        compiled.indexed.expression compound = settled (.ok tree)) ∧
    Concludes schema.identifierTexts (compile schema) ∧
    ∀ naming instrumentation overrides, Concludes (identifierTexts schema naming)
      (generate schema naming instrumentation overrides) := by
  refine ⟨Asserting.compile_eq schema, ?_, compile_concludes schema, generate_concludes schema⟩
  intro compiled compiles
  refine ⟨fun name declared => ?_, compiled.valueType?_indexed compiles, fun compound here => ?_⟩
  · obtain ⟨entry, found⟩ := (of_compile compiles).2.exists_entry declared
    exact ⟨entry, found, compiled.metric_of_find? compiles found⟩
  · obtain ⟨tree, made⟩ := compiled.exists_expression compiles here
    exact ⟨tree, made, compiled.expression_indexed compiles made⟩

end StatSchema
