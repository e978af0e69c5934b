/-
The entries of compiled metrics. Each stands for one declared metric: it has its name, kind,
operator and operands, and the identifiers that its spelling and the text of its mutator read as.
-/
import StatSchema.Proofs.Schema.Checks
import Mathlib.Data.List.Perm.Subperm

namespace StatSchema

/-- The metric that an entry stands for. -/
def BaseEntry.metric (entry : BaseEntry) : BaseMetric := ⟨entry.name, entry.kind⟩

/-- The metric that an entry stands for. -/
def CompoundEntry.metric (entry : CompoundEntry) : CompoundMetric :=
  ⟨entry.name, entry.operator, entry.operands⟩

/-- An entry whose identifiers are those of the metric that it stands for. -/
structure BaseEntry.Identified (entry : BaseEntry) : Prop where
  field : Identifier.read (Name.snake entry.name) = .plain entry.identifier
  mutator : Identifier.read entry.metric.mutator = .plain entry.mutator

/-- An entry whose identifier is that of the metric that it stands for. -/
def CompoundEntry.Identified (entry : CompoundEntry) : Prop :=
  Identifier.read (Name.snake entry.name) = .plain entry.identifier

/-- Base metrics whose mutators can all be named. -/
def MutatorsSpelled (bases : List BaseMetric) : Prop :=
  ∀ metric ∈ bases, ∃ identifier, Identifier.read metric.mutator = .plain identifier

/-- What is reported of a mutator that cannot be named. -/
inductive SpellingFault (bases : List BaseMetric) : Failure → Prop
  | formsNone {metric : BaseMetric} : metric ∈ bases → Identifier.read metric.mutator = .none →
      SpellingFault bases (.refused (.invalidName metric.mutator .noIdentifier))

theorem SpellingFault.not_spelled {bases : List BaseMetric} {failure : Failure}
    (fault : SpellingFault bases failure) : ¬ MutatorsSpelled bases := by
  intro spelled
  obtain ⟨here, none⟩ := fault
  obtain ⟨identifier, plain⟩ := spelled _ here
  rw [none] at plain
  cases plain

theorem identifierOf_eq_ok {text identifier : String} :
    identifierOf text = .ok identifier ↔ Identifier.read text = .plain identifier := by
  unfold identifierOf identify
  cases reading : Identifier.read text with
  | plain other =>
    constructor
    · intro h
      cases h
      rfl
    · intro h
      cases h
      rfl
  | raw other =>
    constructor
    · intro h
      cases h
    · intro h
      cases h
  | none =>
    constructor
    · intro h
      cases h
    · intro h
      cases h

/-! ## Lists with distinct keys -/

section Keyed

variable {α : Type} {key : α → String} {l l' : List α}

theorem find?_key (distinct : (l.map key).Nodup) {a : α} (here : a ∈ l) :
    l.find? (fun b => key b == key a) = some a := by
  cases found : l.find? (fun b => key b == key a) with
  | none =>
    have missed := List.find?_eq_none.1 found a here
    simp at missed
  | some b =>
    have same : key b = key a := by simpa using List.find?_some found
    rw [List.inj_on_of_nodup_map distinct (List.mem_of_find?_eq_some found) here same]

theorem perm_of_keys (distinct : (l'.map key).Nodup) (keys : (l.map key).Perm (l'.map key))
    (within : ∀ a ∈ l, a ∈ l') : l.Perm l' := by
  have nodup : l.Nodup := (keys.nodup_iff.2 distinct).of_map
  refine (List.subperm_of_subset nodup within).perm_of_length_le ?_
  have lengths := keys.length_eq
  rw [List.length_map, List.length_map] at lengths
  omega

theorem filter_key_eq_singleton (distinct : (l.map key).Nodup) {a : α} (here : a ∈ l) :
    l.filter (fun b => key b = key a) = [a] := by
  induction l with
  | nil => cases here
  | cons first rest ih =>
    rw [List.map_cons, List.nodup_cons] at distinct
    rcases List.mem_cons.1 here with rfl | later
    · rw [List.filter_cons_of_pos (by simp), List.filter_eq_nil_iff.2]
      intro b there same
      exact distinct.1 (List.mem_map.2 ⟨b, there, by simpa using same⟩)
    · rw [List.filter_cons_of_neg, ih distinct.2 later]
      intro same
      exact distinct.1 (List.mem_map.2 ⟨a, later, (by simpa using same : key first = key a).symm⟩)

theorem lookup_map_key {β : Type} {value : α → β} (distinct : (l.map key).Nodup) {a : α}
    (here : a ∈ l) :
    (l.map fun b => (key b, value b)).lookup (key a) = some (value a) := by
  induction l with
  | nil => cases here
  | cons first rest ih =>
    rw [List.map_cons, List.nodup_cons] at distinct
    rw [List.map_cons, List.lookup_cons]
    rcases List.mem_cons.1 here with rfl | later
    · simp
    · have apart : ¬ key a = key first := fun same =>
        distinct.1 (List.mem_map.2 ⟨a, later, same⟩)
      rw [beq_eq_false_iff_ne.2 apart]
      exact ih distinct.2 later

end Keyed

/-! ## Single entries -/

/-- The entry of a stored metric, or why it has none. -/
theorem storageEntry_spec {bases : List BaseMetric} (distinct : (bases.map (·.name)).Nodup)
    {metric : BaseMetric} (here : metric ∈ bases) {identifier : String}
    (plain : Identifier.read (Name.snake metric.name) = .plain identifier) :
    (∃ entry, storageEntry bases metric.name = .ok entry ∧ entry.metric = metric ∧
      entry.Identified) ∨
    ∃ failure, storageEntry bases metric.name = .error failure ∧ SpellingFault bases failure := by
  unfold storageEntry
  rw [find?_key distinct here]
  simp only
  rw [identifierOf_eq_ok.2 plain]
  cases reading : Identifier.read metric.mutator with
  | plain mutator =>
    refine .inl ⟨⟨metric.name, metric.kind, identifier, mutator⟩, ?_, rfl, ⟨plain, reading⟩⟩
    rw [identifierOf_eq_ok.2 reading]
    rfl
  | raw mutator => exact absurd reading (Identifier.read_mutator_ne_raw metric mutator)
  | none =>
    refine .inr ⟨_, ?_, .formsNone here reading⟩
    unfold identifierOf identify
    rw [reading]
    rfl

/-- The names to which types are given are those of the compounds, in their order. -/
theorem names_compoundTypes (compounds : List CompoundMetric) :
    (compoundTypes compounds).map (·.1) = compounds.map (·.name) := by
  have general : ∀ (rest : List CompoundMetric) (types : List (String × ValueType)),
      (rest.foldl (fun types compound =>
        types ++ [(compound.name,
          compound.operator.resultType (compound.operands.map (typeIn types)))]) types).map (·.1) =
        types.map (·.1) ++ rest.map (·.name) := by
    intro rest
    induction rest with
    | nil => simp
    | cons compound rest ih =>
      intro types
      rw [List.foldl_cons, ih]
      simp
  exact general compounds []

theorem lookup_eq_none_of_not_mem {β : Type} {pairs : List (String × β)} {name : String}
    (h : name ∉ pairs.map (·.1)) : pairs.lookup name = none := by
  rw [List.lookup_eq_none_iff]
  intro pair here
  exact bne_iff_ne.2 fun same => h (same ▸ List.mem_map_of_mem here)

theorem lookup_isSome_of_mem {β : Type} {pairs : List (String × β)} {name : String}
    (h : name ∈ pairs.map (·.1)) : ∃ value, pairs.lookup name = some value := by
  cases found : pairs.lookup name with
  | some value => exact ⟨value, rfl⟩
  | none =>
    obtain ⟨pair, here, rfl⟩ := List.mem_map.1 h
    have missed := List.lookup_eq_none_iff.1 found pair here
    simp at missed

/-- The entry of a derived metric. -/
theorem derivationEntry_spec {compounds : List CompoundMetric}
    (distinct : (compounds.map (·.name)).Nodup) {types : List (String × ValueType)}
    {compound : CompoundMetric} (here : compound ∈ compounds)
    (typed : compound.name ∈ types.map (·.1)) {identifier : String}
    (plain : Identifier.read (Name.snake compound.name) = .plain identifier) :
    ∃ entry, derivationEntry compounds types compound.name = .ok entry ∧
      entry.metric = compound ∧ entry.Identified ∧
      entry.valueType = typeIn types compound.name := by
  obtain ⟨valueType, found⟩ := lookup_isSome_of_mem typed
  refine ⟨⟨compound.name, compound.operator, compound.operands, valueType, identifier⟩, ?_, rfl,
    plain, ?_⟩
  · unfold derivationEntry
    rw [find?_key distinct here, found]
    simp only
    rw [identifierOf_eq_ok.2 plain]
    rfl
  · rw [typeIn, found]
    rfl

/-! ## All entries -/

/-- The entries of all stored metrics, or why one has none. -/
theorem storageEntries_spec {bases : List BaseMetric} (distinct : (bases.map (·.name)).Nodup)
    (spelled : ∀ metric ∈ bases, ∃ identifier,
      Identifier.read (Name.snake metric.name) = .plain identifier)
    {stored : List String} (perm : stored.Perm (bases.map (·.name))) :
    (∃ entries, stored.mapM (storageEntry bases) = .ok entries ∧
      entries.map (·.name) = stored ∧ (entries.map BaseEntry.metric).Perm bases ∧
      ∀ entry ∈ entries, entry.Identified) ∨
    ∃ failure, stored.mapM (storageEntry bases) = .error failure ∧
      SpellingFault bases failure := by
  have single : ∀ name ∈ stored, (∃ entry, storageEntry bases name = .ok entry ∧
      entry.name = name ∧ entry.metric ∈ bases ∧ entry.Identified) ∨
      ∃ failure, storageEntry bases name = .error failure ∧ SpellingFault bases failure := by
    intro name here
    obtain ⟨metric, there, rfl⟩ := List.mem_map.1 (perm.mem_iff.1 here)
    obtain ⟨identifier, plain⟩ := spelled metric there
    rcases storageEntry_spec distinct there plain with ⟨entry, ran, stands, identified⟩ | failed
    · refine .inl ⟨entry, ran, ?_, stands ▸ there, identified⟩
      rw [← stands]
      rfl
    · exact .inr failed
  rcases mapM_spec single with ⟨entries, ran, all⟩ | failed
  · have names := map_eq_of_forall₂ (all.imp fun _ _ h => h.1)
    have members := forall_mem_of_forall₂ (all.imp fun _ _ h => h.2.1)
    refine .inl ⟨entries, ran, names, perm_of_keys distinct ?_ ?_,
      forall_mem_of_forall₂ (all.imp fun _ _ h => h.2.2)⟩
    · rw [List.map_map]
      exact names ▸ perm
    · intro metric here
      obtain ⟨entry, there, rfl⟩ := List.mem_map.1 here
      exact members entry there
  · exact .inr failed

/-- The entries of all derived metrics. -/
theorem derivationEntries_spec {compounds : List CompoundMetric}
    (distinct : (compounds.map (·.name)).Nodup)
    (spelled : ∀ compound ∈ compounds, ∃ identifier,
      Identifier.read (Name.snake compound.name) = .plain identifier)
    {types : List (String × ValueType)}
    (typed : ∀ compound ∈ compounds, compound.name ∈ types.map (·.1))
    {derived : List String} (perm : derived.Perm (compounds.map (·.name))) :
    ∃ entries, derived.mapM (derivationEntry compounds types) = .ok entries ∧
      entries.map (·.name) = derived ∧ (entries.map CompoundEntry.metric).Perm compounds ∧
      ∀ entry ∈ entries, entry.Identified ∧ entry.valueType = typeIn types entry.name := by
  have single : ∀ name ∈ derived, (∃ entry, derivationEntry compounds types name = .ok entry ∧
      entry.name = name ∧ entry.metric ∈ compounds ∧ entry.Identified ∧
      entry.valueType = typeIn types entry.name) ∨
      ∃ failure : Failure, derivationEntry compounds types name = .error failure ∧ False := by
    intro name here
    obtain ⟨compound, there, rfl⟩ := List.mem_map.1 (perm.mem_iff.1 here)
    obtain ⟨identifier, plain⟩ := spelled compound there
    obtain ⟨entry, ran, stands, identified, valued⟩ :=
      derivationEntry_spec distinct there (typed compound there) plain
    have named : entry.name = compound.name := by
      rw [← stands]
      rfl
    exact .inl ⟨entry, ran, named, stands ▸ there, identified, named ▸ valued⟩
  rcases mapM_spec single with ⟨entries, ran, all⟩ | ⟨_, _, impossible⟩
  · have names := map_eq_of_forall₂ (all.imp fun _ _ h => h.1)
    have members := forall_mem_of_forall₂ (all.imp fun _ _ h => h.2.1)
    refine ⟨entries, ran, names, perm_of_keys distinct ?_ ?_,
      forall_mem_of_forall₂ (all.imp fun _ _ h => h.2.2)⟩
    · rw [List.map_map]
      exact names ▸ perm
    · intro compound here
      obtain ⟨entry, there, rfl⟩ := List.mem_map.1 here
      exact members entry there
  · exact impossible.elim

end StatSchema
