/-
No accessor calls itself, however far its calls are followed. An accessor of a compound calls those of
the operands, and the reducing accessor of an aggregator the one of the record. Main statement: a cycle
is found exactly when some compound takes its own value, the cycle that is named is one and meets no
name twice, and in all generated code calls of accessors are well-founded.
-/
import StatSchema.Proofs.Artifact.Aggregation
import StatSchema.Proofs.Order.Cycle

namespace StatSchema

open Token

/-- An accessor, by the type that it is a method of and by its name. -/
structure Accessor where
  type : String
  name : String
  deriving DecidableEq, Repr

namespace Artifact

/-- The accessors that a body calls: the one that a ledger is reduced by, or those in an expression. -/
def calledBy (type : String) : List Token → List Accessor
  | [.identifier "self", .punctuation '.' .alone, .identifier "ledger", .punctuation '.' .alone,
      .identifier _, .opening .parenthesis, .identifier owner, .punctuation ':' .joint,
      .punctuation ':' .alone, .identifier accessor, .closing .parenthesis] => [⟨owner, accessor⟩]
  | body =>
    match Expression.read? [] {} none body with
    | some tree => tree.calls.map (⟨type, ·⟩)
    | none => []

/-- The accessors that an accessor calls. Nothing is called by a name that two methods have. -/
def callsOf (artifact : Artifact) (caller : Accessor) : List Accessor :=
  match artifact.method? caller.type caller.name with
  | some routine => calledBy caller.type routine.body
  | none => []

/-- The accessor of a metric, in the record or in the aggregator, calls another accessor. -/
def Calls (artifact : Artifact) (compiled : CompiledSchema) (names : TypeNames)
    (caller called : Accessor) : Prop :=
  caller.type ∈ [names.record, names.aggregator] ∧ caller.name ∈ compiled.accessors ∧
    called ∈ artifact.callsOf caller

end Artifact

/-- The accessors that the accessor of a metric needs: those of the operands, and in the aggregator the
one that a field of all records is read by. -/
def CompiledSchema.needs (compiled : CompiledSchema) (names : TypeNames) (type : String) :
    Entry → List Accessor
  | .base entry => if type = names.aggregator then [⟨names.record, entry.identifier⟩] else []
  | .compound entry =>
    (entry.operands.filterMap compiled.find?).map fun operand => ⟨type, operand.identifier⟩

/-! ## Bodies of accessors -/

namespace Artifact

/-- The tokens of an expression call what the expression calls. -/
theorem calledBy_tokens (type : String) {ρ : Type} (identifier : ρ → String) {tree : Expression ρ}
    (legible : tree.Legible) :
    calledBy type (tree.tokens identifier) =
      tree.calls.map fun called => ⟨type, identifier called⟩ := by
  have read := Expression.read?_legible identifier legible
  unfold calledBy
  split
  · -- what reduces a ledger does not read as an expression
    rename_i body
    rw [body] at read
    cases read
  · rw [read]
    simp [Expression.calls_map]

/-- The accessor of a field calls nothing. -/
theorem calledBy_fieldAccessor (type : String) (entry : BaseEntry) :
    calledBy type (fieldAccessor entry).body = [] := by
  unfold calledBy
  split
  · rename_i body
    have lengths : 3 = 11 := congrArg List.length body
    cases lengths
  · rfl

theorem method?_eq_some_iff {artifact : Artifact} {type name : String} {routine : Routine} :
    artifact.method? type name = some routine ↔
      (artifact.methodsOf type).filter (·.name = name) = [routine] := by
  unfold method?
  split
  · rename_i single
    rw [single]
    simp
  · rename_i several
    constructor
    · intro found
      cases found
    · intro single
      exact absurd single (several routine)

/-- A method is the one that its name means, if the name means one. -/
theorem eq_of_method? {artifact : Artifact} {type name : String} {routine other : Routine}
    (found : artifact.method? type name = some routine) (here : other ∈ artifact.methodsOf type)
    (named : other.name = name) : other = routine := by
  have among : other ∈ (artifact.methodsOf type).filter (·.name = name) :=
    List.mem_filter.2 ⟨here, by simpa using named⟩
  rw [method?_eq_some_iff.1 found] at among
  exact List.mem_singleton.1 among

variable {artifact : Artifact} {compiled : CompiledSchema} {names : TypeNames} {runtime : Path}

theorem filterMap_of_forall₂ {α β : Type} {f : α → Option β} {l : List α} {found : List β}
    (h : List.Forall₂ (fun a b => f a = some b) l found) : l.filterMap f = found := by
  induction h with
  | nil => rfl
  | cons first _ ih => rw [List.filterMap_cons_some first, ih]

/-- The accessor of a compound calls the accessors of its operands. -/
theorem calledBy_compoundAccessor {documentation : String → String} {entry : CompoundEntry}
    {routine : Routine} (made : compoundAccessor compiled documentation entry = .ok routine)
    (type : String) : calledBy type routine.body = compiled.needs names type (.compound entry) := by
  obtain ⟨tree, expressed, -, -, body⟩ := compoundAccessor_eq_ok made
  obtain ⟨operands, resolved, applied⟩ := CompiledSchema.expression_eq_ok expressed
  have looked : entry.operands.filterMap compiled.find? = operands :=
    filterMap_of_forall₂ (CompiledSchema.entries_eq_ok resolved)
  rw [body, calledBy_tokens type _ (Expression.legible_ofOperands? applied),
    Expression.calls_ofOperands? applied, CompiledSchema.needs, looked]

/-- Every metric has an accessor in each type, which calls the accessors that it needs. -/
theorem exists_accessor (represents : artifact.Represents compiled names runtime)
    (apart : names.record ≠ names.aggregator) {type : String}
    (owned : type ∈ [names.record, names.aggregator]) {metric : String} {entry : Entry}
    (found : compiled.find? metric = some entry) :
    ∃ routine ∈ artifact.methodsOf type, routine.name = entry.identifier ∧
      calledBy type routine.body = compiled.needs names type entry := by
  obtain ⟨-, ⟨stored, here, rfl⟩ | ⟨compound, here, rfl⟩⟩ := CompiledSchema.find?_eq_some found
  · rcases List.mem_pair.1 owned with rfl | rfl
    · refine ⟨fieldAccessor stored, ?_, rfl, ?_⟩
      · obtain ⟨accessors, -, methods⟩ := represents.record
        rw [methods]
        simp only [List.mem_append, List.mem_cons]
        exact .inl (.inl (.inl (.inr (List.mem_map_of_mem here))))
      · rw [CompiledSchema.needs, if_neg apart]
        exact calledBy_fieldAccessor _ stored
    · refine ⟨reducedAccessor names stored, ?_, rfl, ?_⟩
      · obtain ⟨accessors, lines, -, methods⟩ := represents.aggregator
        rw [methods]
        simp only [List.mem_append, List.mem_cons]
        exact .inl (.inl (.inr (List.mem_map_of_mem here)))
      · rw [CompiledSchema.needs, if_pos rfl]
        rfl
  · rcases List.mem_pair.1 owned with rfl | rfl
    · obtain ⟨accessors, derived, methods⟩ := represents.record
      obtain ⟨routine, there, made⟩ :=
        exists_mem_of_forall₂ (forall₂_of_mapM derived).flip compound here
      obtain ⟨tree, -, named, -⟩ := compoundAccessor_eq_ok made
      refine ⟨routine, ?_, named, calledBy_compoundAccessor made _⟩
      rw [methods]
      exact List.mem_append_left _ (List.mem_append_right _ there)
    · obtain ⟨accessors, lines, derived, methods⟩ := represents.aggregator
      obtain ⟨routine, there, made⟩ :=
        exists_mem_of_forall₂ (forall₂_of_mapM derived).flip compound here
      obtain ⟨tree, -, named, -⟩ := compoundAccessor_eq_ok made
      refine ⟨routine, ?_, named, calledBy_compoundAccessor made _⟩
      rw [methods]
      exact List.mem_append_left _ (List.mem_append_right _ there)

/-- The accessor of a metric calls what it needs, or its name means nothing. -/
theorem callsOf_eq_or (represents : artifact.Represents compiled names runtime)
    (apart : names.record ≠ names.aggregator) {type : String}
    (owned : type ∈ [names.record, names.aggregator]) {metric : String} {entry : Entry}
    (found : compiled.find? metric = some entry) :
    artifact.callsOf ⟨type, entry.identifier⟩ = compiled.needs names type entry ∨
      artifact.callsOf ⟨type, entry.identifier⟩ = [] := by
  obtain ⟨routine, here, named, calls⟩ := exists_accessor represents apart owned found
  unfold callsOf
  split
  · rename_i other meant
    rw [← eq_of_method? meant here named]
    exact .inl calls
  · exact .inr rfl

/-- The accessor of a metric calls what it needs, if members are distinct. -/
theorem callsOf_eq (represents : artifact.Represents compiled names runtime)
    (apart : names.record ≠ names.aggregator) (distinct : artifact.MembersDistinct names)
    {type : String} (owned : type ∈ [names.record, names.aggregator]) {metric : String}
    {entry : Entry} (found : compiled.find? metric = some entry) :
    artifact.callsOf ⟨type, entry.identifier⟩ = compiled.needs names type entry := by
  obtain ⟨routine, here, named, calls⟩ := exists_accessor represents apart owned found
  have once : (artifact.methodNames type).Nodup := by
    rcases List.mem_pair.1 owned with rfl | rfl
    · exact distinct.record
    · exact distinct.aggregator
  have meant := method?_of_mem once here
  rw [named] at meant
  unfold callsOf
  rw [meant]
  exact calls

/-! ## Chains of calls -/

/-- Calls from an accessor come to an end, if those from what base metrics need do. -/
theorem acc_callsOf {schema : Schema} (holds : compiled.Represents schema)
    (wellFormed : schema.WellFormed) (represents : artifact.Represents compiled names runtime)
    (apart : names.record ≠ names.aggregator) {type : String}
    (owned : type ∈ [names.record, names.aggregator])
    (base : ∀ entry ∈ compiled.storage, ∀ called ∈ compiled.needs names type (.base entry),
      Acc (fun called caller => called ∈ artifact.callsOf caller) called)
    (metric : String) : ∀ entry, compiled.find? metric = some entry →
      Acc (fun called caller => called ∈ artifact.callsOf caller) ⟨type, entry.identifier⟩ := by
  -- a compound needs the accessors of its operands, which come before it
  induction metric using (holds.wellFounded wellFormed).induction with
  | _ metric ih =>
    intro entry found
    refine Acc.intro _ fun called here => ?_
    have needed : called ∈ compiled.needs names type entry := by
      rcases callsOf_eq_or represents apart owned found with calls | none
      · exact calls ▸ here
      · rw [none] at here
        cases here
    obtain ⟨rfl, ⟨stored, there, rfl⟩ | ⟨compound, there, rfl⟩⟩ :=
      CompiledSchema.find?_eq_some found
    · exact base stored there called needed
    · obtain ⟨operand, looked, rfl⟩ := List.mem_map.1 needed
      obtain ⟨name, taken, found'⟩ := List.mem_filterMap.1 looked
      exact ih name (holds.uses there taken) operand found'

/-- Every accessor is that of a metric. -/
theorem exists_entry_of_mem_accessors {schema : Schema} (holds : compiled.Represents schema)
    {identifier : String} (here : identifier ∈ compiled.accessors) :
    ∃ metric entry, compiled.find? metric = some entry ∧ entry.identifier = identifier := by
  obtain ⟨metric, declared, spelled⟩ := (holds.mem_accessors_iff identifier).1 here
  obtain ⟨entry, found⟩ := holds.exists_entry declared
  rw [holds.read_name found] at spelled
  exact ⟨metric, entry, found, Identifier.Reading.plain.inj spelled⟩

/-- Calls of accessors are well-founded. -/
theorem wellFounded_calls {schema : Schema} (holds : compiled.Represents schema)
    (wellFormed : schema.WellFormed) (represents : artifact.Represents compiled names runtime)
    (apart : names.record ≠ names.aggregator) :
    WellFounded fun called caller => artifact.Calls compiled names caller called := by
  have record : ∀ identifier ∈ compiled.accessors,
      Acc (fun called caller => called ∈ artifact.callsOf caller) ⟨names.record, identifier⟩ := by
    intro identifier here
    obtain ⟨metric, entry, found, rfl⟩ := exists_entry_of_mem_accessors holds here
    refine acc_callsOf holds wellFormed represents apart (by simp) ?_ metric entry found
    intro stored there called needed
    rw [CompiledSchema.needs, if_neg apart] at needed
    cases needed
  have aggregator : ∀ identifier ∈ compiled.accessors,
      Acc (fun called caller => called ∈ artifact.callsOf caller) ⟨names.aggregator, identifier⟩ := by
    intro identifier here
    obtain ⟨metric, entry, found, rfl⟩ := exists_entry_of_mem_accessors holds here
    refine acc_callsOf holds wellFormed represents apart (by simp) ?_ metric entry found
    intro stored there called needed
    rw [CompiledSchema.needs, if_pos rfl] at needed
    rw [List.mem_singleton.1 needed]
    exact record _ (List.mem_append_left _ (List.mem_map_of_mem there))
  refine ⟨fun caller => ?_⟩
  by_cases own : caller.type ∈ [names.record, names.aggregator] ∧ caller.name ∈ compiled.accessors
  · have finite : Acc (fun called caller => called ∈ artifact.callsOf caller) caller := by
      obtain ⟨type, identifier⟩ := caller
      obtain ⟨rfl | rfl, here⟩ := own.imp_left List.mem_pair.1
      · exact record identifier here
      · exact aggregator identifier here
    exact Subrelation.accessible (fun call => call.2.2) finite
  · exact Acc.intro _ fun called call => absurd ⟨call.1, call.2.1⟩ own

end Artifact

/-! ## Cycles -/

/-- Among declared compounds a cycle is found exactly when one of them takes its own value, through
other compounds or at once, and the cycle that is named is one and meets no name twice; compiling
reports it once mutators are checked. In all code that is generated calls of accessors are well-founded,
and unless members share an identifier each accessor calls just those that its metric needs. -/
theorem cycles_found_exactly {schema : Schema} (names : schema.Meets .names)
    (operands : schema.Meets .operands) :
    (∀ cycle, dependencyOrder schema.compounds = .error cycle →
      SimpleCycle schema.compounds cycle) ∧
    ((∃ cycle, dependencyOrder schema.compounds = .error cycle) ↔
      ∃ name, Relation.TransGen (Uses schema.compounds) name name) ∧
    (schema.Meets .mutators → ∀ cycle, compile schema = .error (.refused (.cycle cycle)) ↔
      dependencyOrder schema.compounds = .error cycle) ∧
    ∀ naming instrumentation overrides artifact,
      generate schema naming instrumentation overrides = .ok artifact →
      ∃ compiled names, compile schema = .ok compiled ∧ naming.typeNames = .ok names ∧
        WellFounded (fun called caller => artifact.Calls compiled names caller called) ∧
        (artifact.MembersDistinct names → ∀ type ∈ [names.record, names.aggregator],
          ∀ metric entry, compiled.find? metric = some entry →
            artifact.callsOf ⟨type, entry.identifier⟩ = compiled.needs names type entry) := by
  refine ⟨fun cycle => simpleCycle_of_dependencyOrder, dependencyOrder_eq_error_iff names,
    fun mutators => compile_eq_cycle_iff names mutators operands, ?_⟩
  intro naming instrumentation overrides artifact generated
  obtain ⟨compiled, types, compiles, named, represents, -⟩ := Artifact.generate_eq_ok generated
  obtain ⟨wellFormed, holds⟩ := of_compile compiles
  have apart := Artifact.typeNames_apart named
  refine ⟨compiled, types, compiles, named,
    Artifact.wellFounded_calls holds wellFormed represents apart, ?_⟩
  intro distinct type owned metric entry found
  exact Artifact.callsOf_eq represents apart distinct owned found

/-- A schema in which two compounds take one another's values; the first one, which leads to them, is
not on the cycle. -/
def entangled : Schema :=
  { declarations := [.base ⟨"reads", .counter⟩,
      .compound ⟨"outer", .add, ["left", "reads"]⟩,
      .compound ⟨"left", .add, ["right", "reads"]⟩,
      .compound ⟨"right", .divide, ["reads", "left"]⟩] }

theorem cycles_found_exactly_entangled :
    compile entangled = .error (.refused (.cycle ["left", "right", "left"])) ∧
    SimpleCycle entangled.compounds ["left", "right", "left"] ∧
    ∃ name, Relation.TransGen (Uses entangled.compounds) name name := by
  have names : entangled.Meets .names := by
    rcases checkNames_all_spec entangled.names with ⟨-, sound⟩ | ⟨failure, stopped, -⟩
    · exact sound
    · have passes : (checkNames [] entangled.names).isOk = true := by decide +kernel
      rw [stopped] at passes
      cases passes
  have operands : entangled.Meets .operands := by
    unfold Schema.Meets OperandsSound
    decide
  have mutators : entangled.Meets .mutators := by
    unfold Schema.Meets MutatorsApart
    decide +kernel
  have found : dependencyOrder entangled.compounds = .error ["left", "right", "left"] := by
    decide +kernel
  obtain ⟨genuine, complete, reported, -⟩ := cycles_found_exactly names operands
  exact ⟨(reported mutators _).2 found, genuine _ found, complete.1 ⟨_, found⟩⟩

end StatSchema
