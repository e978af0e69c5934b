/-
Metrics under more declarations. What is declared is compiled to the same entry wherever it is declared
with its operands: identifiers are read from the names alone, and types follow from operands. Main
statement: `find?_of_subset`, for two schemas that compile and of which one has the declarations of the
other, in any order and among any others.
-/
import StatSchema.Proofs.Artifact.Typing

namespace StatSchema

/-! ## Entries from their metrics -/

/-- The identifiers of a base metric follow from its name and kind. -/
theorem BaseEntry.Identified.unique {entry other : BaseEntry} (identified : entry.Identified)
    (identified' : other.Identified) (same : other.metric = entry.metric) : other = entry := by
  obtain ⟨name, kind, identifier, mutator⟩ := entry
  obtain ⟨name', kind', identifier', mutator'⟩ := other
  cases same
  have field := identified.field.symm.trans identified'.field
  have updates := identified.mutator.symm.trans identified'.mutator
  cases field
  cases updates
  rfl

/-- The identifier of a compound follows from its name. -/
theorem CompoundEntry.Identified.unique {entry other : CompoundEntry}
    (identified : entry.Identified) (identified' : other.Identified)
    (same : other.metric = entry.metric) (typed : other.valueType = entry.valueType) :
    other = entry := by
  obtain ⟨name, operator, operands, valueType, identifier⟩ := entry
  obtain ⟨name', operator', operands', valueType', identifier'⟩ := other
  cases same
  cases typed
  have accessor := identified.symm.trans identified'
  cases accessor
  rfl

namespace CompiledSchema

variable {schema schema' : Schema} {compiled compiled' : CompiledSchema}

/-! ## Looking entries up -/

theorem find?_base (compiles : compile schema = .ok compiled) {entry : BaseEntry}
    (here : entry ∈ compiled.storage) : compiled.find? entry.name = some (.base entry) := by
  obtain ⟨wellFormed, represents⟩ := of_compile compiles
  rw [find?, find?_key (represents.nodup_storage (wellFormed .names)) here]
  rfl

theorem find?_compound (compiles : compile schema = .ok compiled) {entry : CompoundEntry}
    (here : entry ∈ compiled.derivation) :
    compiled.find? entry.name = some (.compound entry) := by
  obtain ⟨wellFormed, represents⟩ := of_compile compiles
  have names : NamesSound schema.names := wellFormed .names
  have apart := schema.perm_names.nodup_iff.2 names.nodup
  have unstored : compiled.storage.find? (·.name == entry.name) = none := by
    rw [List.find?_eq_none]
    intro base stored same
    have declared := represents.mem_bases stored
    have derived := represents.mem_compounds here
    exact (List.nodup_append.1 apart).2.2 _ (List.mem_map_of_mem declared) _
      (List.mem_map_of_mem derived) (beq_iff_eq.1 same)
  rw [find?, unstored, find?_key (represents.nodup_derivation names) here]
  rfl

/-- The entries of names that are looked up alike. -/
theorem entries_congr {names : List String}
    (same : ∀ name ∈ names, compiled'.find? name = compiled.find? name) :
    compiled'.entries names = compiled.entries names := by
  induction names with
  | nil => rfl
  | cons name rest ih =>
    unfold entries at ih ⊢
    rw [List.mapM_cons, List.mapM_cons, same name List.mem_cons_self,
      ih fun other later => same other (List.mem_cons_of_mem _ later)]

theorem Represents.declared (represents : compiled.Represents schema)
    (wellFormed : schema.WellFormed) {compound : CompoundEntry}
    (here : compound ∈ compiled.derivation) {operand : String}
    (taken : operand ∈ compound.operands) : operand ∈ schema.names := by
  have sound : OperandsSound schema.names schema.compounds := wellFormed .operands
  exact (sound _ (represents.mem_compounds here)).2 operand taken

/-! ## Two schemas -/

/-- Whatever else is declared, in whatever order, a metric is compiled to one entry. -/
theorem find?_of_subset (compiles : compile schema = .ok compiled)
    (compiles' : compile schema' = .ok compiled')
    (within : schema.declarations ⊆ schema'.declarations) (metric : String) :
    metric ∈ schema.names → compiled'.find? metric = compiled.find? metric := by
  obtain ⟨wellFormed, represents⟩ := of_compile compiles
  obtain ⟨-, represents'⟩ := of_compile compiles'
  -- the type of a compound follows from those of its operands
  induction metric using (represents.wellFounded wellFormed).induction with
  | _ metric ih =>
    intro declared
    obtain ⟨entry, found⟩ := represents.exists_entry declared
    rw [found]
    obtain ⟨rfl, ⟨base, here, rfl⟩ | ⟨compound, here, rfl⟩⟩ := find?_eq_some found
    · have member := represents.mem_bases here
      obtain ⟨other, there, same⟩ :=
        List.mem_map.1 (represents'.storage.mem_iff.2 (List.filterMap_subset _ within member))
      rw [← (represents.stored base here).unique (represents'.stored other there) same]
      exact find?_base compiles' there
    · have member := represents.mem_compounds here
      obtain ⟨other, there, same⟩ :=
        List.mem_map.1 (represents'.derivation.mem_iff.2 (List.filterMap_subset _ within member))
      obtain ⟨operands, resolved, -, -⟩ := operands_of_compile compiles here
      have resolved' : compiled'.entries other.operands = .ok operands := by
        rw [show other.operands = compound.operands from congrArg CompoundMetric.operands same,
          entries_congr fun operand taken => ih operand (represents.uses here taken)
            (represents.declared wellFormed here taken), resolved]
      have typed : other.valueType = compound.valueType := by
        rw [valueType_eq compiles here (entries_eq_ok resolved),
          valueType_eq compiles' there (entries_eq_ok resolved'),
          show other.operator = compound.operator from congrArg CompoundMetric.operator same]
      rw [← (represents.derived compound here).unique (represents'.derived other there) same typed]
      exact find?_compound compiles' there

theorem storage_of_subset (compiles : compile schema = .ok compiled)
    (compiles' : compile schema' = .ok compiled')
    (within : schema.declarations ⊆ schema'.declarations) :
    compiled.storage ⊆ compiled'.storage := by
  intro entry here
  have found := find?_base compiles here
  rw [← find?_of_subset compiles compiles' within _ ((of_compile compiles).2.mem_names found)]
    at found
  exact mem_storage_of_find? found

theorem derivation_of_subset (compiles : compile schema = .ok compiled)
    (compiles' : compile schema' = .ok compiled')
    (within : schema.declarations ⊆ schema'.declarations) :
    compiled.derivation ⊆ compiled'.derivation := by
  intro entry here
  have found := find?_compound compiles here
  rw [← find?_of_subset compiles compiles' within _ ((of_compile compiles).2.mem_names found)]
    at found
  exact mem_derivation_of_find? found

end CompiledSchema

end StatSchema
