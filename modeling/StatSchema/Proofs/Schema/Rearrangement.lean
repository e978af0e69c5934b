/-
Declarations in another order. Every phase of checking looks at which metrics are declared and not at
their order, so a schema is accepted in every order of its declarations or in none, and then the same
metrics are compiled. What the lists of the arrangement leave out is all that the order decides: where
they name every metric, the compiled orders are these lists.
-/
import StatSchema.Proofs.Schema.Extension

namespace StatSchema

/-- A schema with the declarations of another in any order, and with the same arrangement. -/
structure Schema.Rearranges (schema' schema : Schema) : Prop where
  declarations : schema'.declarations.Perm schema.declarations
  arrangement : schema'.arrangement = schema.arrangement

namespace Schema.Rearranges

variable {schema schema' : Schema} (rearranges : schema'.Rearranges schema)

include rearranges

theorem symm : schema.Rearranges schema' :=
  ⟨rearranges.declarations.symm, rearranges.arrangement.symm⟩

theorem names : schema'.names.Perm schema.names := rearranges.declarations.map _

theorem bases : schema'.bases.Perm schema.bases := rearranges.declarations.filterMap _

theorem compounds : schema'.compounds.Perm schema.compounds := rearranges.declarations.filterMap _

end Schema.Rearranges

/-! ## Phases -/

theorem NamesSound.of_perm {names names' : List String} (perm : names'.Perm names)
    (sound : NamesSound names) : NamesSound names' where
  spelled name here := sound.spelled name (perm.mem_iff.1 here)
  unreserved name here := sound.unreserved name (perm.mem_iff.1 here)
  apart := (perm.map _).nodup_iff.2 sound.apart

theorem Completable.of_perm {listed keys keys' : List String} {strict : Bool}
    (perm : keys'.Perm keys) (completable : Completable listed keys strict) :
    Completable listed keys' strict where
  nodup := completable.nodup
  known name here := perm.mem_iff.2 (completable.known name here)
  whole strictly begun key here := completable.whole strictly begun key (perm.mem_iff.1 here)

/-- A phase is met by declarations in every order or in none. -/
theorem Schema.Rearranges.meets {schema schema' : Schema} (rearranges : schema'.Rearranges schema)
    (phase : Phase) (meets : schema.Meets phase) : schema'.Meets phase := by
  have names := rearranges.names
  have bases := rearranges.bases
  have compounds := rearranges.compounds
  cases phase with
  | names => exact NamesSound.of_perm names meets
  | mutators =>
    intro metric here name there
    exact meets metric (bases.mem_iff.1 here) name (names.mem_iff.1 there)
  | operands =>
    intro compound here
    obtain ⟨enough, declared⟩ := meets compound (compounds.mem_iff.1 here)
    exact ⟨enough, fun operand taken => names.mem_iff.2 (declared operand taken)⟩
  | cycles =>
    intro name cycle
    refine meets name (Relation.TransGen.mono ?_ _ _ cycle)
    rintro user used ⟨compound, here, named, taken⟩
    exact ⟨compound, compounds.mem_iff.1 here, named, taken⟩
  | storage =>
    unfold Meets
    rw [rearranges.arrangement]
    exact Completable.of_perm (bases.map _) meets
  | derivation =>
    unfold Meets
    rw [rearranges.arrangement]
    exact Completable.of_perm (compounds.map _) meets
  | display =>
    unfold Meets
    rw [rearranges.arrangement]
    exact Completable.of_perm names meets
  | spellings => exact fun metric here => meets metric (bases.mem_iff.1 here)

/-- A well-formed schema compiles. -/
theorem Schema.WellFormed.compiles {schema : Schema} (wellFormed : schema.WellFormed) :
    ∃ compiled, compile schema = .ok compiled := by
  have verdict := compile_spec schema
  cases answer : compile schema with
  | ok compiled => exact ⟨compiled, rfl⟩
  | error failure =>
    rw [answer] at verdict
    cases verdict with
    | refused phase fault _ => exact absurd (wellFormed phase) fault.not_meets

/-- A schema that compiles does so in every order of its declarations. -/
theorem Schema.Rearranges.compiles {schema schema' : Schema} {compiled : CompiledSchema}
    (rearranges : schema'.Rearranges schema) (compiles : compile schema = .ok compiled) :
    ∃ compiled', compile schema' = .ok compiled' :=
  Schema.WellFormed.compiles fun phase => rearranges.meets phase ((of_compile compiles).1 phase)

/-! ## Orders -/

theorem name_of_storageEntry {bases : List BaseMetric} {name : String} {entry : BaseEntry}
    (h : storageEntry bases name = .ok entry) : entry.name = name := by
  unfold storageEntry at h
  split at h
  · cases h
  · obtain ⟨identifier, -, h⟩ := bind_eq_ok.1 h
    obtain ⟨mutator, -, h⟩ := bind_eq_ok.1 h
    cases h
    rfl

theorem name_of_derivationEntry {compounds : List CompoundMetric}
    {types : List (String × ValueType)} {name : String} {entry : CompoundEntry}
    (h : derivationEntry compounds types name = .ok entry) : entry.name = name := by
  unfold derivationEntry at h
  split at h
  · obtain ⟨identifier, -, h⟩ := bind_eq_ok.1 h
    cases h
    rfl
  · cases h

theorem completed_eq {order : MetricOrder} {listed keys whole : List String} {strict : Bool}
    (h : refusing id (complete order listed keys strict) = .ok whole) :
    whole = listed ++ omitted listed keys := by
  rcases complete_spec order listed keys strict with ⟨ran, -⟩ | ⟨error, ran, -⟩
  · rw [ran] at h
    cases h
    rfl
  · rw [ran] at h
    cases h

/-- Compiled orders: what an author lists, and then what is left out as it is declared. -/
structure CompiledSchema.Arranged (compiled : CompiledSchema) (schema : Schema) : Prop where
  storage : compiled.storage.map (·.name) = schema.arrangement.storage ++
    omitted schema.arrangement.storage (schema.bases.map (·.name))
  derivation : compiled.derivation.map (·.name) = schema.arrangement.derivation ++
    omitted schema.arrangement.derivation (schema.compounds.map (·.name))
  display : compiled.display = schema.arrangement.display ++
    omitted schema.arrangement.display schema.names

theorem arranged_of_compile {schema : Schema} {compiled : CompiledSchema}
    (compiles : compile schema = .ok compiled) : compiled.Arranged schema := by
  obtain ⟨_, -, h⟩ := bind_eq_ok.1 compiles
  obtain ⟨_, -, h⟩ := bind_eq_ok.1 h
  obtain ⟨_, -, h⟩ := bind_eq_ok.1 h
  obtain ⟨ordered, -, h⟩ := bind_eq_ok.1 h
  obtain ⟨storage, stored, h⟩ := bind_eq_ok.1 h
  obtain ⟨derivation, derived, h⟩ := bind_eq_ok.1 h
  obtain ⟨display, shown, h⟩ := bind_eq_ok.1 h
  split at h
  · cases h
  · obtain ⟨bases, based, h⟩ := bind_eq_ok.1 h
    obtain ⟨compounds, computed, h⟩ := bind_eq_ok.1 h
    cases h
    refine ⟨?_, ?_, completed_eq shown⟩
    · rw [← completed_eq stored]
      exact map_eq_of_forall₂ ((mapM_eq_ok_iff.1 based).imp fun _ _ => name_of_storageEntry)
    · rw [← completed_eq derived]
      exact map_eq_of_forall₂ ((mapM_eq_ok_iff.1 computed).imp fun _ _ => name_of_derivationEntry)

/-- An arrangement that lists every metric that its orders are of. -/
structure Schema.Listed (schema : Schema) : Prop where
  storage : ∀ metric ∈ schema.bases, metric.name ∈ schema.arrangement.storage
  derivation : ∀ compound ∈ schema.compounds, compound.name ∈ schema.arrangement.derivation
  display : ∀ name ∈ schema.names, name ∈ schema.arrangement.display

theorem omitted_eq_nil {listed keys : List String} (all : ∀ key ∈ keys, key ∈ listed) :
    omitted listed keys = [] := by
  rw [List.eq_nil_iff_forall_not_mem]
  intro key here
  obtain ⟨declared, left⟩ := mem_omitted.1 here
  exact left (all key declared)

/-- Where all metrics are listed, the compiled orders are the lists. -/
theorem CompiledSchema.Arranged.of_listed {schema : Schema} {compiled : CompiledSchema}
    (arranged : compiled.Arranged schema) (listed : schema.Listed) :
    compiled.storage.map (·.name) = schema.arrangement.storage ∧
      compiled.derivation.map (·.name) = schema.arrangement.derivation ∧
      compiled.display = schema.arrangement.display := by
  have stored : omitted schema.arrangement.storage (schema.bases.map (·.name)) = [] :=
    omitted_eq_nil (List.forall_mem_map.2 listed.storage)
  have derived : omitted schema.arrangement.derivation (schema.compounds.map (·.name)) = [] :=
    omitted_eq_nil (List.forall_mem_map.2 listed.derivation)
  rw [arranged.storage, arranged.derivation, arranged.display, stored, derived,
    omitted_eq_nil listed.display]
  simp only [List.append_nil, and_self]

/-! ## Compiled schemas -/

/-- Lists with the same keys in the same order, of which the keys of one are distinct. -/
theorem eq_of_keys {α : Type} {key : α → String} {l l' : List α} (distinct : (l'.map key).Nodup)
    (keys : l.map key = l'.map key) (within : ∀ a ∈ l, a ∈ l') : l = l' := by
  have length : l.length = l'.length := by simpa using congrArg List.length keys
  refine List.ext_getElem length fun i h h' => ?_
  have same := List.getElem_of_eq keys (i := i) (by simpa using h)
  rw [List.getElem_map, List.getElem_map] at same
  exact List.inj_on_of_nodup_map distinct (within _ (List.getElem_mem h)) (List.getElem_mem h') same

namespace Schema.Rearranges

variable {schema schema' : Schema} {compiled compiled' : CompiledSchema}
  (rearranges : schema'.Rearranges schema) (compiles : compile schema = .ok compiled)
  (compiles' : compile schema' = .ok compiled')

include rearranges compiles compiles'

/-- A metric is compiled to one entry, however declarations are arranged. -/
theorem find?_eq (metric : String) : compiled'.find? metric = compiled.find? metric := by
  by_cases declared : metric ∈ schema.names
  · exact CompiledSchema.find?_of_subset compiles compiles' rearranges.declarations.symm.subset
      metric declared
  · have absent : ∀ {schema compiled}, compile schema = .ok compiled → metric ∉ schema.names →
        compiled.find? metric = none := by
      intro schema compiled compiles undeclared
      have untyped := CompiledSchema.valueType?_eq_none compiles undeclared
      rwa [CompiledSchema.valueType?, Option.map_eq_none_iff] at untyped
    rw [absent compiles declared, absent compiles' (mt rearranges.names.mem_iff.1 declared)]

theorem storage_perm : compiled'.storage.Perm compiled.storage := by
  obtain ⟨wellFormed, represents⟩ := of_compile compiles
  obtain ⟨-, represents'⟩ := of_compile compiles'
  refine perm_of_keys (represents.nodup_storage (wellFormed .names)) ?_
    (CompiledSchema.storage_of_subset compiles' compiles rearranges.declarations.subset)
  have perm := ((represents'.storage.trans rearranges.bases).trans represents.storage.symm).map
    BaseMetric.name
  rwa [List.map_map, List.map_map] at perm

theorem derivation_perm : compiled'.derivation.Perm compiled.derivation := by
  obtain ⟨wellFormed, represents⟩ := of_compile compiles
  obtain ⟨-, represents'⟩ := of_compile compiles'
  refine perm_of_keys (represents.nodup_derivation (wellFormed .names)) ?_
    (CompiledSchema.derivation_of_subset compiles' compiles rearranges.declarations.subset)
  have perm := ((represents'.derivation.trans rearranges.compounds).trans
    represents.derivation.symm).map CompoundMetric.name
  rwa [List.map_map, List.map_map] at perm

theorem display_perm : compiled'.display.Perm compiled.display :=
  ((of_compile compiles').2.display.trans rearranges.names).trans (of_compile compiles).2.display.symm

/-- Where all metrics are listed, the order of declarations does not reach the compiled orders. -/
theorem orders_eq (listed : schema.Listed) :
    compiled'.storage = compiled.storage ∧ compiled'.derivation = compiled.derivation ∧
      compiled'.display = compiled.display := by
  obtain ⟨wellFormed, represents⟩ := of_compile compiles
  have listed' : schema'.Listed := by
    constructor
    all_goals rw [rearranges.arrangement]
    · exact fun metric here => listed.storage metric (rearranges.bases.mem_iff.1 here)
    · exact fun compound here => listed.derivation compound (rearranges.compounds.mem_iff.1 here)
    · exact fun name here => listed.display name (rearranges.names.mem_iff.1 here)
  obtain ⟨stored, derived, shown⟩ := (arranged_of_compile compiles).of_listed listed
  obtain ⟨stored', derived', shown'⟩ := (arranged_of_compile compiles').of_listed listed'
  rw [rearranges.arrangement] at stored' derived' shown'
  refine ⟨?_, ?_, shown'.trans shown.symm⟩
  · exact eq_of_keys (represents.nodup_storage (wellFormed .names)) (stored'.trans stored.symm)
      (CompiledSchema.storage_of_subset compiles' compiles rearranges.declarations.subset)
  · exact eq_of_keys (represents.nodup_derivation (wellFormed .names)) (derived'.trans derived.symm)
      (CompiledSchema.derivation_of_subset compiles' compiles rearranges.declarations.subset)

end Schema.Rearranges

end StatSchema
