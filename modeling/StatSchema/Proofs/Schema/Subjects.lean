/-
What errors are about. An error about a single metric names what the author of the schema wrote, so that
it can be shown where that is written; only what is found between spellings is reported by a spelling,
which may stand nowhere in the schema. Main statement: `subjects_written_or_spelled`.
-/
import StatSchema.Proofs.Schema.WellFormed

namespace StatSchema

namespace Schema

/-- A name that is written in a schema: declared, taken as an operand or listed in an order. -/
inductive Writes (schema : Schema) (name : String) : Prop
  | declared : name ∈ schema.names → Writes schema name
  | operand {compound : CompoundMetric} : compound ∈ schema.compounds →
      name ∈ compound.operands → Writes schema name
  | stored : name ∈ schema.arrangement.storage → Writes schema name
  | derived : name ∈ schema.arrangement.derivation → Writes schema name
  | displayed : name ∈ schema.arrangement.display → Writes schema name

/-- An error about a spelling: that of two declared names, that of a declared name and of the mutator of
a base metric, or that of a mutator which reads as no identifier. -/
inductive SpellingError (schema : Schema) : SchemaError → Prop
  | shared {first second : String} : [first, second].Sublist schema.names →
      Name.snake first = Name.snake second →
      SpellingError schema (.duplicateName (Name.snake second) (.identifiers first second))
  | taken {name : String} {metric : BaseMetric} : name ∈ schema.names → metric ∈ schema.bases →
      metric.mutator = Name.snake name →
      SpellingError schema (.duplicateName metric.mutator (.identifiers name metric.name))
  | unread {metric : BaseMetric} : metric ∈ schema.bases →
      Identifier.read metric.mutator = .none →
      SpellingError schema (.invalidName metric.mutator .noIdentifier)

/-! ## Subjects, phase by phase -/

/-- An error whose subject, if it has one, is written in the schema, unless it is about a spelling. -/
def Places (schema : Schema) (error : SchemaError) : Prop :=
  ∀ name, error.subject? = some name → schema.Writes name ∨ schema.SpellingError error

variable {schema : Schema} {error : SchemaError}

theorem Places.of_writes {name : String} (about : error.subject? = some name)
    (writes : schema.Writes name) : schema.Places error := by
  intro other about'
  rw [about] at about'
  cases about'
  exact .inl writes

theorem places_of_nameFault (fault : NameFault schema.names (.refused error)) :
    schema.Places error := by
  cases fault with
  | blank here blank => exact .of_writes rfl (.declared here)
  | repeated twice => exact .of_writes rfl (.declared twice.mem)
  | formsNone here none => exact .of_writes rfl (.declared here)
  | reserved here reserved => exact .of_writes rfl (.declared here)
  | sameSpelling both same => exact fun _ _ => .inr (.shared both same)

theorem places_of_operandFault
    (fault : OperandFault schema.names schema.compounds (.refused error)) : schema.Places error := by
  cases fault with
  | tooFew here few =>
    exact .of_writes rfl
      (.declared (schema.sublist_names_compounds.subset (List.mem_map_of_mem here)))
  | unknown here enough taken absent => exact .of_writes rfl (.operand here taken)

/-- A cycle begins with a compound. -/
theorem places_of_closedWalk {names : List String} (closed : ClosedWalk schema.compounds names) :
    schema.Places (.cycle names) := by
  obtain ⟨first, inner, rfl, walk⟩ := closed
  obtain ⟨next, uses⟩ : ∃ next, Uses schema.compounds first next := by
    cases inner with
    | nil => exact ⟨first, (List.isChain_cons_cons.1 walk).1⟩
    | cons next rest => exact ⟨next, (List.isChain_cons_cons.1 walk).1⟩
  obtain ⟨compound, here, rfl, -⟩ := uses
  exact .of_writes rfl
    (.declared (schema.sublist_names_compounds.subset (List.mem_map_of_mem here)))

/-- Of an order only an entry that it repeats is a subject. -/
theorem places_of_orderFault {order : MetricOrder} {listed keys : List String} {strict : Bool}
    (fault : OrderFault order listed keys strict error)
    (written : ∀ name ∈ listed, schema.Writes name) : schema.Places error := by
  cases fault with
  | repeated twice => exact .of_writes rfl (written _ twice.mem)
  | unknown | missing => exact nofun

theorem Reports.places {phase : Phase} (fault : schema.Reports (.refused error) phase) :
    schema.Places error := by
  cases phase with
  | names => exact places_of_nameFault fault
  | mutators =>
    obtain ⟨here, there, same⟩ := fault
    exact fun _ _ => .inr (.taken here there same)
  | operands => exact places_of_operandFault fault
  | cycles =>
    obtain ⟨names, same, closed⟩ := fault
    cases same
    exact places_of_closedWalk closed
  | storage =>
    obtain ⟨error, same, fault⟩ := fault
    cases same
    exact places_of_orderFault fault fun _ => .stored
  | derivation =>
    obtain ⟨error, same, fault⟩ := fault
    cases same
    exact places_of_orderFault fault fun _ => .derived
  | display =>
    obtain ⟨error, same, fault⟩ := fault
    cases same
    exact places_of_orderFault fault fun _ => .displayed
  | spellings =>
    obtain ⟨here, none⟩ := fault
    exact fun _ _ => .inr (.unread here none)

end Schema

/-- Whatever is refused, the name that the error is about is written in the schema, unless the error is
about a spelling: one that two declared names share, one that a declared name shares with a mutator, or
that of a mutator which reads as no identifier. -/
theorem subjects_written_or_spelled {schema : Schema} {error : SchemaError}
    (refused : compile schema = .error (.refused error)) {name : String}
    (about : error.subject? = some name) : schema.Writes name ∨ schema.SpellingError error := by
  have verdict := compile_spec schema
  rw [refused] at verdict
  cases verdict with
  | refused phase fault sofar => exact fault.places name about

/-- A name that reads as an identifier behind a comment, which the text of its mutator does not. -/
def annotated : Schema :=
  { declarations := [.base ⟨"/*c*/x", .counter⟩] }

/-- Two names of one spelling, neither of them written as it is spelled. -/
def limits : Schema :=
  { declarations := [.base ⟨"Max Write", .max⟩, .base ⟨"max write", .counter⟩] }

/-- What declares base metrics alone writes nothing but their names. -/
theorem Schema.not_writes {schema : Schema} {name : String} (absent : name ∉ schema.names)
    (plain : schema.compounds = []) (unordered : schema.arrangement = {}) : ¬ schema.Writes name := by
  rintro (declared | ⟨here, taken⟩ | stored | derived | displayed)
  · exact absent declared
  · simp [plain] at here
  · simp [unordered] at stored
  · simp [unordered] at derived
  · simp [unordered] at displayed

/-- Subjects that are written nowhere: the text of a mutator, and what two names are spelled as. -/
theorem subjects_spelled_only :
    (∃ error, compile annotated = .error (.refused error) ∧
      error.subject? = some "count_/*c*/x" ∧ ¬ annotated.Writes "count_/*c*/x" ∧
      annotated.SpellingError error) ∧
    ∃ error, compile limits = .error (.refused error) ∧ error.subject? = some "max_write" ∧
      ¬ limits.Writes "max_write" ∧ limits.SpellingError error := by
  have refused : compile annotated =
      .error (.refused (.invalidName "count_/*c*/x" .noIdentifier)) := by decide +kernel
  have unwritten : ¬ annotated.Writes "count_/*c*/x" := Schema.not_writes (by decide) rfl rfl
  have refused' : compile limits = .error (.refused
      (.duplicateName "max_write" (.identifiers "Max Write" "max write"))) := by decide +kernel
  have unwritten' : ¬ limits.Writes "max_write" := Schema.not_writes (by decide) rfl rfl
  exact ⟨⟨_, refused, rfl, unwritten,
      (subjects_written_or_spelled refused rfl).resolve_left unwritten⟩,
    ⟨_, refused', rfl, unwritten',
      (subjects_written_or_spelled refused' rfl).resolve_left unwritten'⟩⟩

end StatSchema
