/-
The number types of metrics. A metric is a fraction exactly if it is a quotient or takes one in, at
once or through other compounds; how declarations and orders are arranged makes no difference. The type
that the expression of a compound folds to is the one inferred, so every accessor returns the type of
its body. Main statement: `fractions_reach_divisions`.
-/
import StatSchema.Proofs.Artifact.Accessors
import StatSchema.Proofs.Expression.Compounds

namespace StatSchema

/-- A metric that is a quotient or takes one in, at once or through other compounds. -/
def ReachesDivision (compounds : List CompoundMetric) (metric : String) : Prop :=
  ∃ quotient ∈ compounds, quotient.operator = .divide ∧
    Relation.ReflTransGen (Uses compounds) metric quotient.name

/-! ## Reaching a division -/

section Reach

variable {compounds : List CompoundMetric}

theorem not_reachesDivision_of_not_compound {metric : String}
    (leaf : metric ∉ compounds.map (·.name)) : ¬ ReachesDivision compounds metric := by
  rintro ⟨quotient, here, -, reach⟩
  rcases reach.cases_head with rfl | ⟨next, ⟨compound, there, rfl, -⟩, -⟩
  · exact leaf (List.mem_map_of_mem here)
  · exact leaf (List.mem_map_of_mem there)

/-- A compound reaches a division if it is one, or if one of its operands does. -/
theorem reachesDivision_iff (distinct : (compounds.map (·.name)).Nodup) {compound : CompoundMetric}
    (here : compound ∈ compounds) :
    ReachesDivision compounds compound.name ↔ compound.operator = .divide ∨
      ∃ operand ∈ compound.operands, ReachesDivision compounds operand := by
  constructor
  · rintro ⟨quotient, there, divides, reach⟩
    rcases reach.cases_head with same | ⟨operand, ⟨user, among, named, taken⟩, reach⟩
    · cases List.inj_on_of_nodup_map distinct here there same
      exact .inl divides
    · cases List.inj_on_of_nodup_map distinct among here named
      exact .inr ⟨operand, taken, quotient, there, divides, reach⟩
  · rintro (divides | ⟨operand, taken, quotient, there, divides, reach⟩)
    · exact ⟨compound, here, divides, .refl⟩
    · exact ⟨quotient, there, divides, .head ⟨compound, here, rfl, taken⟩ reach⟩

/-- Only which compounds there are matters, not their order. -/
theorem ReachesDivision.mono {others : List CompoundMetric} (kept : compounds ⊆ others)
    {metric : String} (h : ReachesDivision compounds metric) : ReachesDivision others metric := by
  obtain ⟨quotient, here, divides, reach⟩ := h
  refine ⟨quotient, kept here, divides, Relation.ReflTransGen.mono ?_ _ _ reach⟩
  rintro user used ⟨compound, there, named, taken⟩
  exact ⟨compound, kept there, named, taken⟩

end Reach

/-! ## Types of operators -/

namespace Operator

theorem foldType_eq_fraction_iff (operator : Operator) (accumulated : ValueType)
    (types : List ValueType) :
    operator.foldType accumulated types = .fraction ↔
      accumulated = .fraction ∨ .fraction ∈ types ∨ (operator = .divide ∧ types ≠ []) := by
  induction types generalizing accumulated with
  | nil => simp [foldType]
  | cons type rest ih =>
    rw [foldType, ih]
    unfold ValueType.combine
    -- the last step of a division is widened, an earlier one is followed by it
    cases rest <;> cases accumulated <;> cases type <;> cases operator <;> simp

/-- An operator comes to a fraction if an operand is one, or if it divides. -/
theorem resultType_eq_fraction_iff (operator : Operator) {types : List ValueType}
    (enough : 2 ≤ types.length) :
    operator.resultType types = .fraction ↔ operator = .divide ∨ .fraction ∈ types := by
  obtain _ | ⟨first, _ | ⟨second, rest⟩⟩ := types
  · simp at enough
  · simp at enough
  · rw [resultType, foldType_eq_fraction_iff, List.mem_cons (b := first)]
    have begun : second :: rest ≠ [] := nofun
    have symm : ValueType.fraction = first ↔ first = .fraction := eq_comm
    tauto

end Operator

/-! ## Types of metrics -/

namespace CompiledSchema

variable {schema : Schema} {compiled : CompiledSchema}

theorem Represents.mem_names (represents : compiled.Represents schema) {metric : String}
    {entry : Entry} (found : compiled.find? metric = some entry) : metric ∈ schema.names := by
  obtain ⟨rfl, ⟨base, here, rfl⟩ | ⟨compound, here, rfl⟩⟩ := find?_eq_some found
  · exact represents.name_mem_of_stored here
  · exact represents.name_mem_of_derived here

/-- The operands of a compiled compound, looked up. -/
theorem operands_of_compile (compiles : compile schema = .ok compiled) {compound : CompoundEntry}
    (here : compound ∈ compiled.derivation) :
    ∃ operands, compiled.entries compound.operands = .ok operands ∧
      List.Forall₂ (fun name entry => compiled.find? name = some entry) compound.operands operands ∧
      2 ≤ operands.length := by
  obtain ⟨wellFormed, represents⟩ := of_compile compiles
  have sound : OperandsSound schema.names schema.compounds := wellFormed .operands
  obtain ⟨operands, resolved, -⟩ := entries_of_compile compiles here
  have found := entries_eq_ok resolved
  have enough : 2 ≤ compound.operands.length := (sound _ (represents.mem_compounds here)).1
  exact ⟨operands, resolved, found, found.length_eq ▸ enough⟩

/-- A metric is typed as a fraction exactly if it reaches a division. -/
theorem valueType_eq_fraction_iff (compiles : compile schema = .ok compiled) (metric : String) :
    ∀ entry, compiled.find? metric = some entry →
      (entry.valueType = .fraction ↔ ReachesDivision schema.compounds metric) := by
  obtain ⟨wellFormed, represents⟩ := of_compile compiles
  have names : NamesSound schema.names := wellFormed .names
  have apart := schema.perm_names.nodup_iff.2 names.nodup
  -- operands come before what uses them
  induction metric using (represents.wellFounded wellFormed).induction with
  | _ metric ih =>
    intro entry found
    obtain ⟨rfl, ⟨base, here, rfl⟩ | ⟨compound, here, rfl⟩⟩ := find?_eq_some found
    · have declared := represents.mem_bases here
      have leaf : base.name ∉ schema.compounds.map (·.name) := fun derived =>
        (List.nodup_append.1 apart).2.2 _ (List.mem_map_of_mem declared) _ derived rfl
      exact iff_of_false nofun (not_reachesDivision_of_not_compound leaf)
    · obtain ⟨operands, -, looked, enough⟩ := operands_of_compile compiles here
      have declared := represents.mem_compounds here
      have reach := reachesDivision_iff (names.nodup.sublist schema.sublist_names_compounds) declared
      have fractional : .fraction ∈ operands.map Entry.valueType ↔
          ∃ operand ∈ compound.operands, ReachesDivision schema.compounds operand := by
        constructor
        · intro among
          obtain ⟨entry, there, fraction⟩ := List.mem_map.1 among
          obtain ⟨operand, taken, found⟩ := exists_mem_of_forall₂ looked entry there
          exact ⟨operand, taken, (ih operand (represents.uses here taken) entry found).1 fraction⟩
        · rintro ⟨operand, taken, reach⟩
          obtain ⟨entry, there, found⟩ := exists_mem_of_forall₂ looked.flip operand taken
          exact List.mem_map.2
            ⟨entry, there, (ih operand (represents.uses here taken) entry found).2 reach⟩
      show compound.valueType = .fraction ↔ _
      rw [valueType_eq compiles here looked,
        Operator.resultType_eq_fraction_iff _ (by rwa [List.length_map]), fractional]
      exact reach.symm

theorem valueType?_eq_fraction_iff (compiles : compile schema = .ok compiled) {metric : String}
    (declared : metric ∈ schema.names) :
    compiled.valueType? metric = some .fraction ↔ ReachesDivision schema.compounds metric := by
  obtain ⟨entry, found⟩ := (of_compile compiles).2.exists_entry declared
  rw [← valueType_eq_fraction_iff compiles metric entry found, valueType?, found]
  exact Option.some_inj

theorem valueType?_eq_integer_iff (compiles : compile schema = .ok compiled) {metric : String}
    (declared : metric ∈ schema.names) :
    compiled.valueType? metric = some .integer ↔ ¬ ReachesDivision schema.compounds metric := by
  obtain ⟨entry, found⟩ := (of_compile compiles).2.exists_entry declared
  rw [← valueType_eq_fraction_iff compiles metric entry found, valueType?, found, Option.map_some,
    Option.some_inj]
  cases entry.valueType <;> simp

theorem valueType?_eq_none (compiles : compile schema = .ok compiled) {metric : String}
    (undeclared : metric ∉ schema.names) : compiled.valueType? metric = none := by
  rw [valueType?, Option.map_eq_none_iff]
  cases found : compiled.find? metric with
  | none => rfl
  | some entry => exact absurd ((of_compile compiles).2.mem_names found) undeclared

/-- However declarations are arranged, and whatever orders are asked for, the types are the same. -/
theorem valueType?_of_perm {schema' : Schema} {compiled' : CompiledSchema}
    (compiles : compile schema = .ok compiled) (compiles' : compile schema' = .ok compiled')
    (perm : schema'.declarations.Perm schema.declarations) (metric : String) :
    compiled'.valueType? metric = compiled.valueType? metric := by
  have names : schema'.names.Perm schema.names := perm.map _
  have compounds : schema'.compounds.Perm schema.compounds := perm.filterMap _
  by_cases declared : metric ∈ schema.names
  swap
  · rw [valueType?_eq_none compiles declared,
      valueType?_eq_none compiles' (mt names.mem_iff.1 declared)]
  have declared' := names.mem_iff.2 declared
  by_cases reach : ReachesDivision schema.compounds metric
  · rw [(valueType?_eq_fraction_iff compiles declared).2 reach,
      (valueType?_eq_fraction_iff compiles' declared').2 (reach.mono compounds.symm.subset)]
  · have unreached := mt (ReachesDivision.mono compounds.subset) reach
    rw [(valueType?_eq_integer_iff compiles declared).2 reach,
      (valueType?_eq_integer_iff compiles' declared').2 unreached]

end CompiledSchema

/-! ## Types of generated accessors -/

namespace Artifact

variable {artifact : Artifact} {compiled : CompiledSchema} {names : TypeNames} {runtime : Path}

/-- Methods in which every metric has an accessor that returns its type, and in which the body of a
compound's accessor reads as an expression of that type. -/
structure AccessorsTyped (compiled : CompiledSchema) (methods : List Routine) : Prop where
  returned : ∀ metric entry, compiled.find? metric = some entry → ∃ routine ∈ methods,
    routine.name = entry.identifier ∧ routine.result = resultOf entry.valueType
  computed : ∀ compound ∈ compiled.derivation, ∃ routine ∈ methods, ∃ tree,
    routine.name = compound.identifier ∧ routine.result = resultOf compound.valueType ∧
    Expression.read? [] {} none routine.body = some (Expression.map Entry.identifier tree) ∧
    tree.type? Entry.valueType = some compound.valueType

theorem accessorsTyped_of_mem {methods : List Routine} (baseAccessor : BaseEntry → Routine)
    {documentation : String → String} {accessors : List Routine}
    (base : ∀ entry ∈ compiled.storage, baseAccessor entry ∈ methods)
    (named : ∀ entry, (baseAccessor entry).name = entry.identifier ∧
      (baseAccessor entry).result = resultOf .integer)
    (derived : compiled.derivation.mapM (compoundAccessor compiled documentation) = .ok accessors)
    (held : accessors ⊆ methods) : AccessorsTyped compiled methods := by
  have computed : ∀ compound ∈ compiled.derivation, ∃ routine ∈ methods, ∃ tree,
      routine.name = compound.identifier ∧ routine.result = resultOf compound.valueType ∧
      Expression.read? [] {} none routine.body = some (Expression.map Entry.identifier tree) ∧
      tree.type? Entry.valueType = some compound.valueType := by
    intro compound here
    obtain ⟨routine, there, given⟩ :=
      exists_mem_of_forall₂ (forall₂_of_mapM derived).flip compound here
    obtain ⟨tree, made, name, result, body⟩ := compoundAccessor_eq_ok given
    obtain ⟨operands, -, applied⟩ := CompiledSchema.expression_eq_ok made
    refine ⟨routine, held there, tree, name, result, ?_, Expression.type?_ofOperands? applied⟩
    rw [body]
    exact Expression.read?_legible _ (Expression.legible_ofOperands? applied)
  refine ⟨fun metric entry found => ?_, computed⟩
  obtain ⟨-, ⟨stored, here, rfl⟩ | ⟨compound, here, rfl⟩⟩ := CompiledSchema.find?_eq_some found
  · exact ⟨_, base stored here, named stored⟩
  · obtain ⟨routine, there, -, name, result, -⟩ := computed compound here
    exact ⟨routine, there, name, result⟩

/-- The accessors of records and of aggregators are typed. -/
theorem Represents.typed (represents : artifact.Represents compiled names runtime) {type : String}
    (owned : type ∈ [names.record, names.aggregator]) :
    AccessorsTyped compiled (artifact.methodsOf type) := by
  rcases List.mem_pair.1 owned with rfl | rfl
  · obtain ⟨accessors, derived, methods⟩ := represents.record
    rw [methods]
    refine accessorsTyped_of_mem fieldAccessor (fun entry here => ?_)
      (fun entry => ⟨rfl, rfl⟩) derived ?_
    · simp only [List.mem_append, List.mem_cons]
      exact .inl (.inl (.inl (.inr (List.mem_map_of_mem here))))
    · exact fun _ there => List.mem_append_left _ (List.mem_append_right _ there)
  · obtain ⟨accessors, lines, derived, methods⟩ := represents.aggregator
    rw [methods]
    refine accessorsTyped_of_mem (reducedAccessor names) (fun entry here => ?_)
      (fun entry => ⟨rfl, rfl⟩) derived ?_
    · simp only [List.mem_append, List.mem_cons]
      exact .inl (.inl (.inr (List.mem_map_of_mem here)))
    · exact fun _ there => List.mem_append_left _ (List.mem_append_right _ there)

end Artifact

/-- Of an accepted schema a metric is typed as a fraction exactly if it reaches a division, and as whole
otherwise, however the schema is arranged. The expression of every compound folds to the type inferred
for it, and in all generated code accessors return these types, which are those of their bodies. -/
theorem fractions_reach_divisions {schema : Schema} {compiled : CompiledSchema}
    (compiles : compile schema = .ok compiled) :
    (∀ metric ∈ schema.names,
      (compiled.valueType? metric = some .fraction ↔ ReachesDivision schema.compounds metric) ∧
      (compiled.valueType? metric = some .integer ↔ ¬ ReachesDivision schema.compounds metric)) ∧
    (∀ schema' compiled', schema'.declarations.Perm schema.declarations →
      compile schema' = .ok compiled' →
      ∀ metric, compiled'.valueType? metric = compiled.valueType? metric) ∧
    (∀ compound ∈ compiled.derivation, ∃ operands tree,
      compiled.entries compound.operands = .ok operands ∧
      Expression.ofOperands? Entry.valueType compound.operator operands =
        some (tree, compound.valueType) ∧
      compiled.expression compound = .ok tree) ∧
    ∀ naming instrumentation overrides artifact,
      generate schema naming instrumentation overrides = .ok artifact →
      ∃ names, naming.typeNames = .ok names ∧
        ∀ type ∈ [names.record, names.aggregator],
          Artifact.AccessorsTyped compiled (artifact.methodsOf type) := by
  refine ⟨fun metric declared => ⟨CompiledSchema.valueType?_eq_fraction_iff compiles declared,
      CompiledSchema.valueType?_eq_integer_iff compiles declared⟩,
    fun schema' compiled' perm compiles' => CompiledSchema.valueType?_of_perm compiles compiles' perm,
    fun compound here => ?_, fun naming instrumentation overrides artifact generated => ?_⟩
  · obtain ⟨tree, made⟩ := CompiledSchema.exists_expression compiles here
    obtain ⟨operands, resolved, applied⟩ := CompiledSchema.expression_eq_ok made
    exact ⟨operands, tree, resolved, applied, made⟩
  · obtain ⟨compiled', names, compiles', named, represents, -⟩ := Artifact.generate_eq_ok generated
    rw [compiles] at compiles'
    cases compiles'
    exact ⟨names, named, fun type owned => represents.typed owned⟩

/-- A schema in which a sum takes in a quotient that is declared after it, and a difference takes in
none. -/
def scores : Schema :=
  { declarations := [.compound ⟨"score", .add, ["hits", "rate"]⟩, .base ⟨"hits", .counter⟩,
      .compound ⟨"rate", .divide, ["hits", "tries"]⟩, .base ⟨"tries", .counter⟩,
      .compound ⟨"misses", .subtract, ["tries", "hits"]⟩] }

theorem scores_reach_divisions :
    ∃ compiled, compile scores = .ok compiled ∧
      compiled.valueType? "score" = some .fraction ∧
      compiled.valueType? "misses" = some .integer ∧
      (∀ compiled', compile { scores with declarations := scores.declarations.reverse } =
        .ok compiled' → compiled'.valueType? "score" = some .fraction) := by
  have accepted : (compile scores).isOk = true := by decide +kernel
  obtain ⟨compiled, compiles⟩ := exists_of_isOk accepted
  obtain ⟨typed, arranged, -, -⟩ := fractions_reach_divisions compiles
  have score : compiled.valueType? "score" = some .fraction := by
    refine (typed "score" (by decide)).1.2 ⟨⟨"rate", .divide, ["hits", "tries"]⟩, by decide, rfl, ?_⟩
    exact .single ⟨⟨"score", .add, ["hits", "rate"]⟩, by decide, rfl, by decide⟩
  have distinct : (scores.compounds.map (·.name)).Nodup := by decide
  have here : ⟨"misses", .subtract, ["tries", "hits"]⟩ ∈ scores.compounds := by decide
  refine ⟨compiled, compiles, score, (typed "misses" (by decide)).2.2 ?_, ?_⟩
  · rw [reachesDivision_iff distinct here]
    rintro (divides | ⟨operand, taken, reach⟩)
    · cases divides
    · refine not_reachesDivision_of_not_compound ?_ reach
      rcases List.mem_pair.1 taken with rfl | rfl <;> decide
  · intro compiled' compiles'
    rw [arranged _ compiled' (List.reverse_perm _) compiles', score]

end StatSchema
