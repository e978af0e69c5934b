/-
Which members of generated types share an identifier. Names are checked as texts and the code is
written with the identifiers that the texts read as, so two names that are spelled apart can still
lead to one identifier. Identifiers are compared in a form: as they are written, or in the canonical form
in which the language compares them. Main statement: in either form the members of each generated type
are distinct exactly when the readings of the declared names are apart. As written they are if every
spelling is an identifier and nothing else, and to the language if all are in one normal form besides.
-/
import StatSchema.Proofs.Artifact.Layout
import StatSchema.Proofs.Canonical
import StatSchema.Proofs.Schema.WellFormed

namespace StatSchema

/-! ## Verbs -/

theorem verb_append_inj {kind kind' : MetricKind} {a b : String}
    (h : kind.verb ++ "_" ++ a = kind'.verb ++ "_" ++ b) : a = b := by
  have chars := congrArg String.toList h
  rw [String.toList_append, String.toList_append, String.toList_append, String.toList_append]
    at chars
  cases kind <;> cases kind' <;> simp [MetricKind.verb] at chars <;>
    exact String.toList_injective chars

/-- No generated item that comes with every schema is named by a verb. -/
theorem verb_append_not_mem_reservedNames (kind : MetricKind) (a : String) :
    kind.verb ++ "_" ++ a ∉ reservedNames := by
  intro reserved
  have begun : (kind.verb ++ "_").toList <+: (kind.verb ++ "_" ++ a).toList :=
    ⟨a.toList, String.toList_append.symm⟩
  have apart : ∀ other ∈ reservedNames, ¬ (kind.verb ++ "_").toList <+: other.toList := by
    cases kind <;> decide
  exact apart _ reserved begun

namespace BaseEntry

theorem Identified.mutator_eq {entry : BaseEntry} (identified : entry.Identified) :
    entry.mutator = entry.kind.verb ++ "_" ++ entry.identifier := by
  have field : Identifier.read (Name.snake entry.metric.name) = .plain entry.identifier :=
    identified.field
  exact Identifier.name_of_read_mutator field identified.mutator

end BaseEntry

/-! ## Forms -/

namespace Identifier

/-- A form that identifiers are compared in. A verb before an identifier stays as it is, and a reserved
name is the form of itself alone. -/
structure IsForm (form : String → String) : Prop where
  verb : ∀ (kind : MetricKind) (identifier : String),
    form (kind.verb ++ "_" ++ identifier) = kind.verb ++ "_" ++ form identifier
  reserved : ∀ other ∈ reservedNames, ∀ identifier, form identifier = other ↔ identifier = other

theorem isForm_id : IsForm id := ⟨fun _ _ => rfl, fun _ _ _ => Iff.rfl⟩

theorem isForm_canonical : IsForm canonical where
  verb := by
    intro kind identifier
    refine canonical_append ?_ identifier
    cases kind <;> decide
  reserved := by
    have basic : ∀ other ∈ reservedNames, other.toList.all Text.isBasic = true := by decide
    exact fun other here identifier => canonical_eq_word (basic other here)

variable {form : String → String}

theorem IsForm.map_reserved (isForm : IsForm form) {others : List String}
    (reserved : ∀ other ∈ others, other ∈ reservedNames) : others.map form = others := by
  refine (List.map_congr_left fun other here => ?_).trans (List.map_id others)
  exact (isForm.reserved other (reserved other here) other).2 rfl

end Identifier

variable {form : String → String}

/-- Mutators are distinct as soon as fields are. -/
theorem nodup_mutators (isForm : Identifier.IsForm form) {storage : List BaseEntry}
    (identified : ∀ entry ∈ storage, entry.Identified)
    (distinct : ((storage.map (·.identifier)).map form).Nodup) :
    ((storage.map (·.mutator)).map form).Nodup := by
  rw [List.map_map] at distinct ⊢
  refine (List.Nodup.of_map _ distinct).map_on ?_
  intro entry here other there same
  rw [Function.comp_apply, Function.comp_apply, (identified entry here).mutator_eq,
    (identified other there).mutator_eq, isForm.verb, isForm.verb] at same
  exact List.inj_on_of_nodup_map distinct here there (verb_append_inj same)

namespace Schema

/-- The names of a schema whose spellings are identifiers and nothing else. -/
def PlainlySpelled (schema : Schema) : Prop :=
  ∀ name ∈ schema.names, Identifier.read (Name.snake name) = .plain (Name.snake name)

/-- The spellings of names and of mutators are all in one normal form. -/
structure SpelledIn (normal : String → String) (schema : Schema) : Prop where
  names : ∀ name ∈ schema.names, normal (Name.snake name) = Name.snake name
  mutators : ∀ metric ∈ schema.bases, normal metric.mutator = metric.mutator

/-- What names lead to as identifiers is apart: from one another, from what is generated whatever the
schema, and from the mutators. -/
structure IdentifiersApart (schema : Schema) : Prop where
  metrics : (schema.names.map fun name => Identifier.read (Name.snake name)).Nodup
  unreserved : ∀ name ∈ schema.names, ∀ other ∈ reservedNames, other ≠ "dump" →
    Identifier.read (Name.snake name) ≠ .plain other
  mutators : ∀ metric ∈ schema.bases, ∀ name ∈ schema.names,
    Identifier.read metric.mutator ≠ Identifier.read (Name.snake name)

/-- What names lead to is apart in a form of identifiers. -/
structure IdentifiersApartIn (form : String → String) (schema : Schema) : Prop where
  metrics : (schema.names.map fun name => (Identifier.read (Name.snake name)).map form).Nodup
  unreserved : ∀ name ∈ schema.names, ∀ other ∈ reservedNames, other ≠ "dump" →
    (Identifier.read (Name.snake name)).map form ≠ .plain other
  mutators : ∀ metric ∈ schema.bases, ∀ name ∈ schema.names,
    (Identifier.read metric.mutator).map form ≠ (Identifier.read (Name.snake name)).map form

theorem identifiersApart_iff_written {schema : Schema} :
    schema.IdentifiersApart ↔ schema.IdentifiersApartIn id := by
  constructor
  · rintro ⟨metrics, unreserved, mutators⟩
    constructor <;> simpa only [Identifier.Reading.map_id]
  · rintro ⟨metrics, unreserved, mutators⟩
    simp only [Identifier.Reading.map_id] at metrics unreserved mutators
    exact ⟨metrics, unreserved, mutators⟩

variable {schema : Schema}

/-- Checks of spellings are checks of identifiers where spellings are identifiers, as long as a form tells
apart what is spelled apart. -/
theorem PlainlySpelled.apartIn (isForm : Identifier.IsForm form) (plain : schema.PlainlySpelled)
    (wellFormed : schema.WellFormed)
    (metrics : ∀ name ∈ schema.names, ∀ other ∈ schema.names,
      form (Name.snake name) = form (Name.snake other) → Name.snake name = Name.snake other)
    (mutators : ∀ metric ∈ schema.bases, ∀ name ∈ schema.names,
      form metric.mutator = form (Name.snake name) → metric.mutator = Name.snake name) :
    schema.IdentifiersApartIn form := by
  have names : NamesSound schema.names := wellFormed .names
  have apart : MutatorsApart schema.names schema.bases := wellFormed .mutators
  have spelled : MutatorsSpelled schema.bases := wellFormed .spellings
  have declared : ∀ metric ∈ schema.bases, metric.name ∈ schema.names := fun metric here =>
    schema.sublist_names_bases.subset (List.mem_map_of_mem here)
  refine ⟨?_, ?_, ?_⟩
  · refine (names.apart.of_map _).map_on fun name here other there same => ?_
    rw [plain name here, plain other there] at same
    exact List.inj_on_of_nodup_map names.apart here there
      (metrics name here other there (Identifier.Reading.plain.inj same))
  · intro name here other reserved _ same
    rw [plain name here] at same
    have spelling := (isForm.reserved other reserved _).1 (Identifier.Reading.plain.inj same)
    exact names.unreserved name here (spelling ▸ reserved)
  · intro metric here name there same
    -- the text of a mutator reads as the verb before the identifier of its metric
    obtain ⟨mutator, read⟩ := spelled metric here
    have named := Identifier.name_of_read_mutator (plain _ (declared metric here)) read
    rw [read, plain name there, named] at same
    exact apart metric here name there
      (mutators metric here name there (Identifier.Reading.plain.inj same))

theorem PlainlySpelled.apart (plain : schema.PlainlySpelled) (wellFormed : schema.WellFormed) :
    schema.IdentifiersApart :=
  identifiersApart_iff_written.2
    (plain.apartIn Identifier.isForm_id wellFormed (fun _ _ _ _ => id) fun _ _ _ _ => id)

/-- To the language, too, spellings in one normal form are apart. -/
theorem PlainlySpelled.inequivalent (plain : schema.PlainlySpelled) (wellFormed : schema.WellFormed)
    {normal : String → String} (normalizes : Identifier.Normalizes normal)
    (spelled : schema.SpelledIn normal) : schema.IdentifiersApartIn Identifier.canonical := by
  refine plain.apartIn Identifier.isForm_canonical wellFormed ?_ ?_
  · exact fun name here other there =>
      normalizes.eq_of_canonical_eq (spelled.names name here) (spelled.names other there)
  · exact fun metric here name there =>
      normalizes.eq_of_canonical_eq (spelled.mutators metric here) (spelled.names name there)

end Schema

/-! ## Members -/

namespace CompiledSchema

variable {compiled : CompiledSchema} {schema : Schema}

/-- The identifiers of all accessors. -/
def accessors (compiled : CompiledSchema) : List String :=
  compiled.storage.map (·.identifier) ++ compiled.derivation.map (·.identifier)

/-- Accessors are identified by the readings of the declared names. -/
theorem Represents.readings (represents : compiled.Represents schema) :
    (compiled.accessors.map Identifier.Reading.plain).Perm
      (schema.names.map fun name => Identifier.read (Name.snake name)) := by
  have stored : compiled.storage.map (fun entry => Identifier.Reading.plain entry.identifier) =
      (compiled.storage.map BaseEntry.metric).map fun metric =>
        Identifier.read (Name.snake metric.name) := by
    rw [List.map_map]
    exact List.map_congr_left fun entry here => (represents.stored entry here).field.symm
  have derived : compiled.derivation.map (fun entry => Identifier.Reading.plain entry.identifier) =
      (compiled.derivation.map CompoundEntry.metric).map fun metric =>
        Identifier.read (Name.snake metric.name) := by
    rw [List.map_map]
    exact List.map_congr_left fun entry here => (represents.derived entry here).symm
  have names := schema.perm_names.map fun name => Identifier.read (Name.snake name)
  rw [List.map_append, List.map_map, List.map_map] at names
  refine List.Perm.trans ?_ names
  rw [accessors, List.map_append, List.map_map, List.map_map]
  refine List.Perm.append ?_ ?_
  · exact stored ▸ represents.storage.map _
  · exact derived ▸ represents.derivation.map _

theorem Represents.readings_map (represents : compiled.Represents schema) (form : String → String) :
    ((compiled.accessors.map form).map Identifier.Reading.plain).Perm
      (schema.names.map fun name => (Identifier.read (Name.snake name)).map form) := by
  have readings := represents.readings.map (Identifier.Reading.map form)
  rw [List.map_map, List.map_map] at readings
  rw [List.map_map]
  exact readings

theorem Represents.nodup_accessors_iff (represents : compiled.Represents schema)
    (form : String → String) : (compiled.accessors.map form).Nodup ↔
      (schema.names.map fun name => (Identifier.read (Name.snake name)).map form).Nodup := by
  rw [← (represents.readings_map form).nodup_iff]
  constructor
  · intro distinct
    refine distinct.map ?_
    intro a b same
    exact Identifier.Reading.plain.inj same
  · intro distinct
    exact distinct.of_map

theorem Represents.mem_forms_iff (represents : compiled.Represents schema) (form : String → String)
    (identifier : String) : identifier ∈ compiled.accessors.map form ↔
      ∃ name ∈ schema.names, (Identifier.read (Name.snake name)).map form = .plain identifier := by
  have here := (represents.readings_map form).mem_iff (a := .plain identifier)
  rw [List.mem_map, List.mem_map] at here
  constructor
  · intro given
    exact here.1 ⟨identifier, given, rfl⟩
  · intro spelled
    obtain ⟨other, given, same⟩ := here.2 spelled
    exact Identifier.Reading.plain.inj same ▸ given

theorem Represents.mem_accessors_iff (represents : compiled.Represents schema)
    (identifier : String) : identifier ∈ compiled.accessors ↔
      ∃ name ∈ schema.names, Identifier.read (Name.snake name) = .plain identifier := by
  have written := represents.mem_forms_iff id identifier
  simpa only [List.map_id, Identifier.Reading.map_id] using written

theorem Represents.mem_mutators_iff (represents : compiled.Represents schema)
    (identifier : String) : identifier ∈ compiled.storage.map (·.mutator) ↔
      ∃ metric ∈ schema.bases, Identifier.read metric.mutator = .plain identifier := by
  constructor
  · intro given
    obtain ⟨entry, here, rfl⟩ := List.mem_map.1 given
    exact ⟨entry.metric, represents.mem_bases here, (represents.stored entry here).mutator⟩
  · rintro ⟨metric, there, spelled⟩
    obtain ⟨entry, here, rfl⟩ := List.mem_map.1 (represents.storage.mem_iff.2 there)
    rw [(represents.stored entry here).mutator] at spelled
    exact Identifier.Reading.plain.inj spelled ▸ List.mem_map_of_mem here

end CompiledSchema

namespace Artifact

variable {artifact : Artifact} {compiled : CompiledSchema} {names : TypeNames} {runtime : Path}

/-- Types of which no two members of one sort share an identifier, as it is written. -/
structure MembersDistinct (artifact : Artifact) (names : TypeNames) : Prop where
  fields : (artifact.fieldsOf names.record).Nodup
  record : (artifact.methodNames names.record).Nodup
  aggregator : (artifact.methodNames names.aggregator).Nodup

/-- Types of which no two members of one sort share an identifier in a form. -/
structure MembersDistinctIn (form : String → String) (artifact : Artifact) (names : TypeNames) :
    Prop where
  fields : ((artifact.fieldsOf names.record).map form).Nodup
  record : ((artifact.methodNames names.record).map form).Nodup
  aggregator : ((artifact.methodNames names.aggregator).map form).Nodup

theorem membersDistinct_iff_written :
    artifact.MembersDistinct names ↔ artifact.MembersDistinctIn id names := by
  constructor
  · rintro ⟨fields, record, aggregator⟩
    constructor <;> simpa only [List.map_id]
  · rintro ⟨fields, record, aggregator⟩
    rw [List.map_id] at fields record aggregator
    exact ⟨fields, record, aggregator⟩

theorem names_compoundAccessors {documentation : String → String} {accessors : List Routine}
    (h : compiled.derivation.mapM (compoundAccessor compiled documentation) = .ok accessors) :
    accessors.map (·.name) = compiled.derivation.map (·.identifier) := by
  refine map_eq_of_forall₂ (List.forall₂_map_left_iff.2 ((forall₂_of_mapM h).imp ?_))
  intro entry accessor made
  obtain ⟨expression, -, same⟩ := bind_eq_ok.1 made
  cases same
  rfl

theorem name_mutator (runtime : Path) (entry : BaseEntry) :
    (mutator runtime entry).name = entry.mutator := by
  unfold mutator
  cases entry.kind <;> rfl

theorem Represents.methodNames_record (represents : artifact.Represents compiled names runtime) :
    artifact.methodNames names.record =
      "new" :: compiled.storage.map (·.identifier) ++ compiled.storage.map (·.mutator) ++
        compiled.derivation.map (·.identifier) ++ ["with_current", "take_current"] := by
  obtain ⟨accessors, derived, methods⟩ := represents.record
  simp [methodNames, methods, names_compoundAccessors derived, Function.comp_def, name_mutator,
    newRecord, fieldAccessor, withCurrent, takeCurrent]

theorem Represents.methodNames_aggregator
    (represents : artifact.Represents compiled names runtime) :
    artifact.methodNames names.aggregator =
      ["new", "publish", "clear", "record_count", "records"] ++ compiled.accessors ++
        ["write_summary", "results"] := by
  obtain ⟨accessors, lines, derived, methods⟩ := represents.aggregator
  simp [methodNames, methods, names_compoundAccessors derived, Function.comp_def,
    CompiledSchema.accessors, newAggregator, ledgerMethods, reducedAccessor, writeSummary, results]

/-- The methods that every record has. -/
def recordMethods : List String := ["new", "with_current", "take_current"]

/-- The methods that every aggregator has. -/
def aggregatorMethods : List String :=
  ["new", "publish", "clear", "record_count", "records", "write_summary", "results"]

theorem mem_methods_iff {other : String} :
    other ∈ recordMethods ∨ other ∈ aggregatorMethods ↔ other ∈ reservedNames ∧ other ≠ "dump" := by
  constructor
  · have all : ∀ other ∈ recordMethods ++ aggregatorMethods,
        other ∈ reservedNames ∧ other ≠ "dump" := by decide
    exact fun here => all other (List.mem_append.2 here)
  · have all : ∀ other ∈ reservedNames,
        other ≠ "dump" → other ∈ recordMethods ∨ other ∈ aggregatorMethods := by decide
    exact fun ⟨here, apart⟩ => all other here apart

theorem Represents.perm_record (represents : artifact.Represents compiled names runtime) :
    (artifact.methodNames names.record).Perm
      (compiled.accessors ++ (recordMethods ++ compiled.storage.map (·.mutator))) := by
  rw [represents.methodNames_record, List.perm_iff_count]
  intro identifier
  simp only [CompiledSchema.accessors, recordMethods, List.count_append, List.count_cons,
    List.count_nil, List.cons_append, List.nil_append]
  omega

theorem Represents.perm_aggregator (represents : artifact.Represents compiled names runtime) :
    (artifact.methodNames names.aggregator).Perm (compiled.accessors ++ aggregatorMethods) := by
  rw [represents.methodNames_aggregator, List.perm_iff_count]
  intro identifier
  simp only [aggregatorMethods, List.count_append, List.count_cons, List.count_nil]
  omega

/-- The members of both types, by accessors and mutators alone. -/
theorem Represents.membersDistinctIn_iff (isForm : Identifier.IsForm form)
    (represents : artifact.Represents compiled names runtime)
    (identified : ∀ entry ∈ compiled.storage, entry.Identified) :
    artifact.MembersDistinctIn form names ↔
      (compiled.accessors.map form).Nodup ∧
      (∀ other ∈ reservedNames, other ≠ "dump" → other ∉ compiled.accessors.map form) ∧
      ∀ mutator ∈ compiled.storage.map (·.mutator),
        form mutator ∉ compiled.accessors.map form := by
  have record := represents.perm_record.map form
  have aggregator := represents.perm_aggregator.map form
  rw [List.map_append, List.map_append,
    isForm.map_reserved fun other here => (mem_methods_iff.1 (.inl here)).1] at record
  rw [List.map_append,
    isForm.map_reserved fun other here => (mem_methods_iff.1 (.inr here)).1] at aggregator
  constructor
  · -- the methods of both types contain the accessors, and all reserved methods but the report
    rintro ⟨-, distinct, distinct'⟩
    rw [record.nodup_iff, List.nodup_append] at distinct
    rw [aggregator.nodup_iff, List.nodup_append] at distinct'
    refine ⟨distinct.1, ?_, ?_⟩
    · intro other reserved apart here
      rcases mem_methods_iff.2 ⟨reserved, apart⟩ with method | method
      · exact distinct.2.2 other here other (List.mem_append_left _ method) rfl
      · exact distinct'.2.2 other here other method rfl
    · intro mutator given here
      exact distinct.2.2 _ here _ (List.mem_append_right _ (List.mem_map_of_mem given)) rfl
  · rintro ⟨accessors, unreserved, apart⟩
    have fields : ((compiled.storage.map (·.identifier)).map form).Nodup :=
      accessors.sublist ((List.sublist_append_left _ _).map form)
    refine ⟨represents.fields ▸ fields, ?_, ?_⟩
    · rw [record.nodup_iff, List.nodup_append, List.nodup_append]
      refine ⟨accessors, ⟨by decide, nodup_mutators isForm identified fields, ?_⟩, ?_⟩
      · intro method here mutator given same
        obtain ⟨_, stored, rfl⟩ := List.mem_map.1 given
        obtain ⟨entry, there, rfl⟩ := List.mem_map.1 stored
        rw [(identified entry there).mutator_eq, isForm.verb] at same
        exact verb_append_not_mem_reservedNames _ _ (same ▸ (mem_methods_iff.1 (.inl here)).1)
      · rintro identifier here other there rfl
        rcases List.mem_append.1 there with method | given
        · obtain ⟨reserved, noDump⟩ := mem_methods_iff.1 (.inl method)
          exact unreserved identifier reserved noDump here
        · obtain ⟨mutator, stored, rfl⟩ := List.mem_map.1 given
          exact apart mutator stored here
    · rw [aggregator.nodup_iff, List.nodup_append]
      refine ⟨accessors, by decide, ?_⟩
      rintro identifier here other method rfl
      obtain ⟨reserved, noDump⟩ := mem_methods_iff.1 (.inr method)
      exact unreserved identifier reserved noDump here

end Artifact

/-! ## Generated types -/

/-- What is apart in a schema, by accessors and mutators. -/
theorem CompiledSchema.Represents.identifiersApartIn_iff {compiled : CompiledSchema}
    {schema : Schema} (represents : compiled.Represents schema) (form : String → String) :
    schema.IdentifiersApartIn form ↔
      (compiled.accessors.map form).Nodup ∧
      (∀ other ∈ reservedNames, other ≠ "dump" → other ∉ compiled.accessors.map form) ∧
      ∀ mutator ∈ compiled.storage.map (·.mutator),
        form mutator ∉ compiled.accessors.map form := by
  constructor
  · rintro ⟨metrics, unreserved, apart⟩
    refine ⟨(represents.nodup_accessors_iff form).2 metrics, ?_, ?_⟩
    · intro other reserved noDump here
      obtain ⟨name, declared, spelled⟩ := (represents.mem_forms_iff form other).1 here
      exact unreserved name declared other reserved noDump spelled
    · intro mutator given here
      obtain ⟨metric, there, spelled⟩ := (represents.mem_mutators_iff mutator).1 given
      obtain ⟨name, declared, spelled'⟩ := (represents.mem_forms_iff form _).1 here
      refine apart metric there name declared ?_
      rw [spelled, spelled']
      rfl
  · rintro ⟨accessors, unreserved, apart⟩
    refine ⟨(represents.nodup_accessors_iff form).1 accessors, ?_, ?_⟩
    · intro name declared other reserved noDump spelled
      exact unreserved other reserved noDump
        ((represents.mem_forms_iff form other).2 ⟨name, declared, spelled⟩)
    · intro metric there name declared same
      obtain ⟨entry, here, rfl⟩ := List.mem_map.1 (represents.storage.mem_iff.2 there)
      have spelled := (represents.stored entry here).mutator
      rw [spelled] at same
      exact apart entry.mutator (List.mem_map_of_mem here)
        ((represents.mem_forms_iff form _).2 ⟨name, declared, same.symm⟩)

section Generation

variable {schema : Schema} {naming : Naming} {instrumentation : Instrumentation}
  {overrides : List Override} {artifact : Artifact} {compiled : CompiledSchema} {names : TypeNames}

theorem Artifact.Represents.membersDistinctIn_iff_apart {runtime : Path}
    (represents : artifact.Represents compiled names runtime) (holds : compiled.Represents schema)
    (isForm : Identifier.IsForm form) :
    artifact.MembersDistinctIn form names ↔ schema.IdentifiersApartIn form :=
  (represents.membersDistinctIn_iff isForm holds.stored).trans
    (holds.identifiersApartIn_iff form).symm

theorem Artifact.Represents.membersDistinct_iff_apart {runtime : Path}
    (represents : artifact.Represents compiled names runtime) (holds : compiled.Represents schema) :
    artifact.MembersDistinct names ↔ schema.IdentifiersApart :=
  Artifact.membersDistinct_iff_written.trans
    ((represents.membersDistinctIn_iff_apart holds Identifier.isForm_id).trans
      Schema.identifiersApart_iff_written.symm)

/-- Code generated for a schema whose identifiers are apart: no two members of one type share an
identifier. -/
theorem Artifact.generate_of_apart (apart : schema.IdentifiersApart)
    (generated : generate schema naming instrumentation overrides = .ok artifact)
    (compiles : compile schema = .ok compiled) :
    ∃ names, naming.typeNames = .ok names ∧
      artifact.Represents compiled names naming.runtime ∧ artifact.MembersDistinct names ∧
      hooks compiled naming names instrumentation overrides =
        .ok (artifact.functions.map Item.routine) := by
  obtain ⟨compiled', names, compiles', named, represents, hooked⟩ := generate_eq_ok generated
  rw [compiles] at compiles'
  cases compiles'
  obtain ⟨wellFormed, holds⟩ := of_compile compiles
  exact ⟨names, named, represents, (represents.membersDistinct_iff_apart holds).2 apart, hooked⟩

/-- Of plainly spelled names, too, no two lead to one member. -/
theorem Artifact.generate_of_plain (plain : schema.PlainlySpelled)
    (generated : generate schema naming instrumentation overrides = .ok artifact)
    (compiles : compile schema = .ok compiled) :
    ∃ names, naming.typeNames = .ok names ∧
      artifact.Represents compiled names naming.runtime ∧ artifact.MembersDistinct names ∧
      hooks compiled naming names instrumentation overrides =
        .ok (artifact.functions.map Item.routine) :=
  generate_of_apart (plain.apart (of_compile compiles).1) generated compiles

end Generation

/-- The members of generated types are distinct exactly when the identifiers that names lead to are
apart. Where every spelling is an identifier and nothing else, they are. So it is for the canonical forms
in which the language compares identifiers, if the spellings are in one normal form besides. -/
theorem members_distinct_iff {schema : Schema} {naming : Naming} {instrumentation : Instrumentation}
    {overrides : List Override} {artifact : Artifact}
    (h : generate schema naming instrumentation overrides = .ok artifact) :
    ∃ names, naming.typeNames = .ok names ∧
      (artifact.MembersDistinct names ↔ schema.IdentifiersApart) ∧
      (schema.PlainlySpelled → artifact.MembersDistinct names) ∧
      (artifact.MembersDistinctIn Identifier.canonical names ↔
        schema.IdentifiersApartIn Identifier.canonical) ∧
      ∀ normal, Identifier.Normalizes normal → schema.SpelledIn normal → schema.PlainlySpelled →
        artifact.MembersDistinctIn Identifier.canonical names := by
  obtain ⟨compiled, names, compiles, named, represents, -⟩ := Artifact.generate_eq_ok h
  obtain ⟨wellFormed, holds⟩ := of_compile compiles
  have written := represents.membersDistinct_iff_apart holds
  have compared := represents.membersDistinctIn_iff_apart holds Identifier.isForm_canonical
  refine ⟨names, named, written, fun plain => written.2 (plain.apart wellFormed), compared, ?_⟩
  intro normal normalizes spelled plain
  exact compared.2 (plain.inequivalent wellFormed normalizes spelled)

/-- Two names of one identifier, the second of which goes on with a comment. -/
def commented : Schema :=
  { declarations := [.base ⟨"m", .counter⟩, .base ⟨"m//c", .sum⟩] }

/-- Names that differ in a comment alone are generated into members that share an identifier. -/
theorem commented_members_shared :
    ∃ artifact names, generate commented {} .enabled [] = .ok artifact ∧
      Naming.typeNames {} = .ok names ∧ ¬ artifact.MembersDistinct names := by
  have generates : (generate commented {} .enabled []).isOk = true := by decide +kernel
  obtain ⟨artifact, generated⟩ := exists_of_isOk generates
  obtain ⟨names, named, exact_condition, -, -, -⟩ := members_distinct_iff generated
  refine ⟨artifact, names, generated, named, fun distinct => ?_⟩
  have together : ¬ (commented.names.map fun name => Identifier.read (Name.snake name)).Nodup := by
    decide +kernel
  exact together (exact_condition.1 distinct).metrics

end StatSchema
