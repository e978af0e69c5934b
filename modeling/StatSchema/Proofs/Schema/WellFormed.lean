/-
Compiling accepts exactly the well-formed schemas. Checks run in phases; what a schema has to meet
is said for each phase apart, and so is what may be reported there. Main statement: the schemas that
compile are those that meet every phase, a compiled schema holds the declared metrics and nothing
else, and whatever is reported is a fault of the first phase that is not met.
-/
import StatSchema.Proofs.Order.Completion
import StatSchema.Proofs.Schema.Entries

namespace StatSchema

/-- The phases of checking, in their order. -/
inductive Phase where
  /-- Names are present, distinct and unreserved, and spell distinct identifiers. -/
  | names
  /-- No mutator is spelled as a metric. -/
  | mutators
  /-- Compounds have operands enough, all of them declared. -/
  | operands
  | cycles
  | storage
  | derivation
  | display
  /-- Every mutator can be named. -/
  | spellings
  deriving DecidableEq

/-- The place of a phase. -/
def Phase.rank : Phase → Nat
  | names => 0
  | mutators => 1
  | operands => 2
  | cycles => 3
  | storage => 4
  | derivation => 5
  | display => 6
  | spellings => 7

namespace Schema

/-- What a schema has to meet in a phase. -/
def Meets (schema : Schema) : Phase → Prop
  | .names => NamesSound schema.names
  | .mutators => MutatorsApart schema.names schema.bases
  | .operands => OperandsSound schema.names schema.compounds
  | .cycles => ∀ name, ¬ Relation.TransGen (Uses schema.compounds) name name
  | .storage =>
    Completable schema.arrangement.storage (schema.bases.map (·.name)) schema.arrangement.strict
  | .derivation =>
    Completable schema.arrangement.derivation (schema.compounds.map (·.name))
      schema.arrangement.strict
  | .display => Completable schema.arrangement.display schema.names schema.arrangement.strict
  | .spellings => MutatorsSpelled schema.bases

/-- What may be reported of a schema in a phase. -/
def Reports (schema : Schema) (failure : Failure) : Phase → Prop
  | .names => NameFault schema.names failure
  | .mutators => MutatorFault schema.names schema.bases failure
  | .operands => OperandFault schema.names schema.compounds failure
  | .cycles => ∃ names, failure = .refused (.cycle names) ∧ ClosedWalk schema.compounds names
  | .storage => ∃ error, failure = .refused error ∧
      OrderFault .storage schema.arrangement.storage (schema.bases.map (·.name))
        schema.arrangement.strict error
  | .derivation => ∃ error, failure = .refused error ∧
      OrderFault .derivation schema.arrangement.derivation (schema.compounds.map (·.name))
        schema.arrangement.strict error
  | .display => ∃ error, failure = .refused error ∧
      OrderFault .display schema.arrangement.display schema.names schema.arrangement.strict error
  | .spellings => SpellingFault schema.bases failure

/-- A schema that meets every phase before the given one. -/
def MeetsBefore (schema : Schema) (phase : Phase) : Prop :=
  ∀ earlier, earlier.rank < phase.rank → schema.Meets earlier

/-- A schema that meets every phase. -/
def WellFormed (schema : Schema) : Prop := ∀ phase, schema.Meets phase

/-- What is reported is not met. -/
theorem Reports.not_meets {schema : Schema} {failure : Failure} {phase : Phase}
    (fault : schema.Reports failure phase) : ¬ schema.Meets phase := by
  cases phase with
  | names => exact NameFault.not_sound fault
  | mutators => exact MutatorFault.not_apart fault
  | operands => exact OperandFault.not_sound fault
  | cycles =>
    obtain ⟨names, -, closed⟩ := fault
    obtain ⟨name, cycle⟩ := closed.not_acyclic
    exact fun acyclic => acyclic name cycle
  | storage =>
    obtain ⟨error, -, fault⟩ := fault
    exact fault.not_completable
  | derivation =>
    obtain ⟨error, -, fault⟩ := fault
    exact fault.not_completable
  | display =>
    obtain ⟨error, -, fault⟩ := fault
    exact fault.not_completable
  | spellings => exact SpellingFault.not_spelled fault

theorem meetsBefore_names (schema : Schema) : schema.MeetsBefore .names :=
  fun _ before => nomatch before

theorem MeetsBefore.next {schema : Schema} {phase next : Phase} (before : schema.MeetsBefore phase)
    (here : schema.Meets phase) (follows : next.rank = phase.rank + 1) :
    schema.MeetsBefore next := by
  intro earlier h
  rw [follows] at h
  rcases Nat.lt_succ_iff_lt_or_eq.1 h with h | same
  · exact before earlier h
  · have : earlier = phase := by
      cases earlier <;> cases phase <;> first | rfl | cases same
    exact this ▸ here

theorem MeetsBefore.wellFormed {schema : Schema} (before : schema.MeetsBefore .spellings)
    (here : schema.Meets .spellings) : schema.WellFormed := by
  intro phase
  by_cases last : phase = .spellings
  · exact last ▸ here
  · refine before phase ?_
    cases phase <;> first | decide | exact absurd rfl last

/-! ## Declared names -/

theorem sublist_names_bases (schema : Schema) :
    (schema.bases.map (·.name)).Sublist schema.names := by
  unfold bases names
  induction schema.declarations with
  | nil => exact .slnil
  | cons declaration rest ih =>
    cases declaration with
    | base metric => exact ih.cons_cons metric.name
    | compound metric => exact ih.cons metric.name

theorem sublist_names_compounds (schema : Schema) :
    (schema.compounds.map (·.name)).Sublist schema.names := by
  unfold compounds names
  induction schema.declarations with
  | nil => exact .slnil
  | cons declaration rest ih =>
    cases declaration with
    | base metric => exact ih.cons metric.name
    | compound metric => exact ih.cons_cons metric.name

theorem perm_names (schema : Schema) :
    (schema.bases.map (·.name) ++ schema.compounds.map (·.name)).Perm schema.names := by
  unfold bases compounds names
  induction schema.declarations with
  | nil => exact .nil
  | cons declaration rest ih =>
    cases declaration with
    | base metric => exact ih.cons metric.name
    | compound metric => exact List.perm_middle.trans (ih.cons metric.name)

end Schema

namespace NamesSound

theorem nodup {names : List String} (sound : NamesSound names) : names.Nodup :=
  List.Nodup.of_map _ sound.apart

end NamesSound

/-! ## Compiled schemas -/

/-- A compiled schema that holds the declared metrics and nothing else, with the identifiers that
they spell, and that evaluates each compound after the compounds among its operands. -/
structure CompiledSchema.Represents (compiled : CompiledSchema) (schema : Schema) : Prop where
  storage : (compiled.storage.map BaseEntry.metric).Perm schema.bases
  derivation : (compiled.derivation.map CompoundEntry.metric).Perm schema.compounds
  display : compiled.display.Perm schema.names
  stored : ∀ entry ∈ compiled.storage, entry.Identified
  derived : ∀ entry ∈ compiled.derivation, entry.Identified
  ordered : Ordered schema.compounds (compiled.evaluation.map CompoundEntry.metric)
  evaluation : compiled.evaluation.Perm compiled.derivation

namespace CompiledSchema.Represents

variable {compiled : CompiledSchema} {schema : Schema} (represents : compiled.Represents schema)

include represents

theorem mem_bases {entry : BaseEntry} (here : entry ∈ compiled.storage) :
    entry.metric ∈ schema.bases :=
  represents.storage.mem_iff.1 (List.mem_map_of_mem here)

theorem mem_compounds {entry : CompoundEntry} (here : entry ∈ compiled.derivation) :
    entry.metric ∈ schema.compounds :=
  represents.derivation.mem_iff.1 (List.mem_map_of_mem here)

theorem name_mem_of_stored {entry : BaseEntry} (here : entry ∈ compiled.storage) :
    entry.name ∈ schema.names :=
  schema.sublist_names_bases.subset (List.mem_map_of_mem (represents.mem_bases here))

theorem name_mem_of_derived {entry : CompoundEntry} (here : entry ∈ compiled.derivation) :
    entry.name ∈ schema.names :=
  schema.sublist_names_compounds.subset (List.mem_map_of_mem (represents.mem_compounds here))

theorem perm_bases : (compiled.storage.map (·.name)).Perm (schema.bases.map (·.name)) := by
  have perm := represents.storage.map BaseMetric.name
  rwa [List.map_map] at perm

theorem perm_compounds :
    (compiled.derivation.map (·.name)).Perm (schema.compounds.map (·.name)) := by
  have perm := represents.derivation.map CompoundMetric.name
  rwa [List.map_map] at perm

theorem nodup_storage (names : NamesSound schema.names) :
    (compiled.storage.map (·.name)).Nodup :=
  represents.perm_bases.nodup_iff.2 (names.nodup.sublist schema.sublist_names_bases)

theorem nodup_derivation (names : NamesSound schema.names) :
    (compiled.derivation.map (·.name)).Nodup :=
  represents.perm_compounds.nodup_iff.2 (names.nodup.sublist schema.sublist_names_compounds)

end CompiledSchema.Represents

theorem Ordered.subset {compounds done : List CompoundMetric} (ordered : Ordered compounds done) :
    done ⊆ compounds := by
  induction ordered with
  | nil => simp
  | snoc before member last operands ih =>
    intro compound here
    rcases List.mem_append.1 here with earlier | here
    · exact ih earlier
    · exact List.mem_singleton.1 here ▸ member

theorem Ordered.nodup {compounds done : List CompoundMetric} (ordered : Ordered compounds done) :
    (done.map (·.name)).Nodup := by
  induction ordered with
  | nil => simp
  | snoc before member last operands ih =>
    rw [List.map_append, List.map_singleton, List.nodup_append]
    refine ⟨ih, List.nodup_singleton _, ?_⟩
    intro name here other there same
    rw [same, List.mem_singleton.1 there] at here
    exact last here

theorem Ordered.perm_names {compounds done : List CompoundMetric}
    (ordered : Ordered compounds done)
    (all : ∀ compound ∈ compounds, compound.name ∈ done.map (·.name))
    (distinct : (compounds.map (·.name)).Nodup) :
    (done.map (·.name)).Perm (compounds.map (·.name)) := by
  rw [List.perm_ext_iff_of_nodup ordered.nodup distinct]
  intro name
  constructor
  · exact fun here => mem_names_of_subset ordered.subset here
  · intro here
    obtain ⟨compound, there, rfl⟩ := List.mem_map.1 here
    exact all compound there

theorem map_filterMap_eq {α β : Type} {f : α → Option β} {g : β → α} {l : List α}
    (h : ∀ a ∈ l, ∃ b, f a = some b ∧ g b = a) : (l.filterMap f).map g = l := by
  induction l with
  | nil => rfl
  | cons a rest ih =>
    obtain ⟨b, found, back⟩ := h a List.mem_cons_self
    rw [List.filterMap_cons_some found, List.map_cons, back,
      ih fun a' later => h a' (List.mem_cons_of_mem _ later)]

theorem names_metric (entries : List CompoundEntry) :
    (entries.map CompoundEntry.metric).map (·.name) = entries.map (·.name) := by
  rw [List.map_map]
  rfl

/-- Looking the compounds up among the entries, in their order of evaluation, finds every entry. -/
theorem evaluation_spec {compounds done : List CompoundMetric} {derived : List CompoundEntry}
    (ordered : Ordered compounds done)
    (all : ∀ compound ∈ compounds, compound.name ∈ done.map (·.name))
    (distinct : (compounds.map (·.name)).Nodup)
    (perm : (derived.map CompoundEntry.metric).Perm compounds) :
    (done.filterMap fun compound => derived.find? (·.name == compound.name)).map
        CompoundEntry.metric = done ∧
      (done.filterMap fun compound => derived.find? (·.name == compound.name)).Perm derived := by
  have names : (derived.map (·.name)).Perm (compounds.map (·.name)) := by
    rw [← names_metric]
    exact perm.map _
  have distinct' : (derived.map (·.name)).Nodup := names.nodup_iff.2 distinct
  have back : (done.filterMap fun compound => derived.find? (·.name == compound.name)).map
      CompoundEntry.metric = done := by
    refine map_filterMap_eq fun compound here => ?_
    obtain ⟨entry, there, rfl⟩ := List.mem_map.1 (perm.mem_iff.2 (ordered.subset here))
    exact ⟨entry, find?_key distinct' there, rfl⟩
  refine ⟨back, perm_of_keys distinct' ?_ ?_⟩
  · rw [← names_metric, back]
    exact (ordered.perm_names all distinct).trans names.symm
  · intro entry here
    obtain ⟨compound, -, found⟩ := List.mem_filterMap.1 here
    exact List.mem_of_find?_eq_some found

/-! ## Compiling -/

/-- What compiling may answer: a compiled schema that represents a well-formed one, or a fault of the
first phase that is not met. -/
inductive Schema.Verdict (schema : Schema) : Except Failure CompiledSchema → Prop
  | accepted {compiled : CompiledSchema} : schema.WellFormed → compiled.Represents schema →
      Verdict schema (.ok compiled)
  | refused {failure : Failure} (phase : Phase) : schema.Reports failure phase →
      schema.MeetsBefore phase → Verdict schema (.error failure)

/-- The last step of compiling, after all orders have been completed. -/
theorem entries_spec {schema : Schema} (sofar : schema.MeetsBefore .spellings)
    {done : List CompoundMetric} (ordered : Ordered schema.compounds done)
    (all : ∀ compound ∈ schema.compounds, compound.name ∈ done.map (·.name))
    {stored derived display : List String} (storage : stored.Perm (schema.bases.map (·.name)))
    (derivation : derived.Perm (schema.compounds.map (·.name)))
    (shown : display.Perm schema.names) :
    schema.Verdict (do
      let storage ← stored.mapM (storageEntry schema.bases)
      let derivation ← derived.mapM (derivationEntry schema.compounds (compoundTypes done))
      let evaluation := done.filterMap fun compound => derivation.find? (·.name == compound.name)
      return { storage, derivation, display, evaluation }) := by
  have names : NamesSound schema.names := sofar .names (by decide)
  have baseNames := names.nodup.sublist schema.sublist_names_bases
  have compoundNames := names.nodup.sublist schema.sublist_names_compounds
  rcases storageEntries_spec baseNames
    (fun metric here => names.spelled _
      (schema.sublist_names_bases.subset (List.mem_map_of_mem here))) storage with
    ⟨bases, ran, -, held, identified⟩ | ⟨failure, ran, fault⟩
  swap
  · rw [ran, error_bind]
    exact .refused .spellings fault sofar
  have typed : ∀ compound ∈ schema.compounds,
      compound.name ∈ (compoundTypes done).map (·.1) := by
    intro compound here
    rw [names_compoundTypes]
    exact all compound here
  obtain ⟨compounds, ran', -, held', identified'⟩ := derivationEntries_spec compoundNames
    (fun compound here => names.spelled _
      (schema.sublist_names_compounds.subset (List.mem_map_of_mem here))) typed derivation
  rw [ran, ok_bind, ran', ok_bind]
  obtain ⟨back, perm⟩ := evaluation_spec ordered all compoundNames held'
  refine .accepted (sofar.wellFormed ?_) ⟨held, held', shown, identified,
    fun entry here => (identified' entry here).1, ?_, perm⟩
  · intro metric here
    obtain ⟨entry, there, rfl⟩ := List.mem_map.1 (held.mem_iff.2 here)
    exact ⟨entry.mutator, (identified entry there).mutator⟩
  · rw [← back] at ordered
    exact ordered

/-- Compiling goes through all phases, or stops at the first that is not met. -/
theorem compile_spec (schema : Schema) : schema.Verdict (compile schema) := by
  -- `sofar` are the phases that have been met when a check is made
  have sofar := schema.meetsBefore_names
  unfold compile
  rcases checkNames_all_spec schema.names with ⟨ran, names⟩ | ⟨failure, ran, fault⟩
  swap
  · rw [ran, error_bind]
    exact .refused .names fault sofar
  rw [ran, ok_bind]
  have sofar : schema.MeetsBefore .mutators := sofar.next names rfl
  rcases checkMutators_spec schema.names schema.bases with ⟨ran, mutators⟩ | ⟨failure, ran, fault⟩
  swap
  · rw [ran, error_bind]
    exact .refused .mutators fault sofar
  rw [ran, ok_bind]
  have sofar : schema.MeetsBefore .operands := sofar.next mutators rfl
  rcases checkOperands_spec schema.names schema.compounds with
    ⟨ran, operands⟩ | ⟨failure, ran, fault⟩
  swap
  · rw [ran, error_bind]
    exact .refused .operands fault sofar
  rw [ran, ok_bind]
  have sofar : schema.MeetsBefore .cycles := sofar.next operands rfl
  have baseNames := names.nodup.sublist schema.sublist_names_bases
  have compoundNames := names.nodup.sublist schema.sublist_names_compounds
  rcases dependencyOrder_spec schema.compounds with ⟨done, ran, ordered, all⟩ | ⟨cycle, ran, closed⟩
  swap
  · rw [ran, refusing, refuse, error_bind]
    exact .refused .cycles ⟨cycle, rfl, closed⟩ sofar
  rw [ran, refusing, ok_bind]
  dsimp only
  have sofar : schema.MeetsBefore .storage :=
    sofar.next (ordered.acyclic compoundNames all) rfl
  rcases complete_spec .storage schema.arrangement.storage (schema.bases.map (·.name))
    schema.arrangement.strict with ⟨ran, storage⟩ | ⟨error, ran, fault⟩
  swap
  · rw [ran, refusing, refuse, error_bind]
    exact .refused .storage ⟨error, rfl, fault⟩ sofar
  rw [ran, refusing, ok_bind]
  have sofar : schema.MeetsBefore .derivation := sofar.next storage rfl
  rcases complete_spec .derivation schema.arrangement.derivation (schema.compounds.map (·.name))
    schema.arrangement.strict with ⟨ran, derivation⟩ | ⟨error, ran, fault⟩
  swap
  · rw [ran, refusing, refuse, error_bind]
    exact .refused .derivation ⟨error, rfl, fault⟩ sofar
  rw [ran, refusing, ok_bind]
  have sofar : schema.MeetsBefore .display := sofar.next derivation rfl
  rcases complete_spec .display schema.arrangement.display schema.names
    schema.arrangement.strict with ⟨ran, display⟩ | ⟨error, ran, fault⟩
  swap
  · rw [ran, refusing, refuse, error_bind]
    exact .refused .display ⟨error, rfl, fault⟩ sofar
  rw [ran, refusing, ok_bind]
  have sofar : schema.MeetsBefore .spellings := sofar.next display rfl
  have shown := perm_append_omitted display names.nodup
  rw [displayProblem_eq_none names.nodup shown]
  exact entries_spec sofar ordered all (perm_append_omitted storage baseNames)
    (perm_append_omitted derivation compoundNames) shown

/-- A compiled schema was well-formed, and is represented. -/
theorem of_compile {schema : Schema} {compiled : CompiledSchema}
    (h : compile schema = .ok compiled) : schema.WellFormed ∧ compiled.Represents schema := by
  have verdict := compile_spec schema
  rw [h] at verdict
  cases verdict with
  | accepted wellFormed represents => exact ⟨wellFormed, represents⟩

/-- The schemas that compile are the well-formed ones. Compiling keeps every metric as it is declared
and arranges them; what is reported otherwise is a fault of the first phase that is not met. -/
theorem compiles_iff_wellFormed (schema : Schema) :
    ((∃ compiled, compile schema = .ok compiled) ↔ schema.WellFormed) ∧
    (∀ compiled, compile schema = .ok compiled →
      (compiled.storage.map BaseEntry.metric).Perm schema.bases ∧
      (compiled.derivation.map CompoundEntry.metric).Perm schema.compounds ∧
      compiled.display.Perm schema.names) ∧
    ∀ failure, compile schema = .error failure →
      ∃ phase, schema.Reports failure phase ∧ ¬ schema.Meets phase ∧ schema.MeetsBefore phase := by
  refine ⟨⟨?_, ?_⟩, ?_, ?_⟩
  · rintro ⟨compiled, h⟩
    exact (of_compile h).1
  · intro wellFormed
    have verdict := compile_spec schema
    cases answer : compile schema with
    | ok compiled => exact ⟨compiled, rfl⟩
    | error failure =>
      rw [answer] at verdict
      cases verdict with
      | refused phase fault sofar => exact absurd (wellFormed phase) fault.not_meets
  · intro compiled h
    have represents := (of_compile h).2
    exact ⟨represents.storage, represents.derivation, represents.display⟩
  · intro failure h
    have verdict := compile_spec schema
    rw [h] at verdict
    cases verdict with
    | refused phase fault sofar => exact ⟨phase, fault, fault.not_meets, sofar⟩

end StatSchema
