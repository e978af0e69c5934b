/-
The expressions of compiled compounds. A compound is typed after the compounds among its operands, so
its type is that of its operator on the types of its operands, and the expression folds to the same
type. Main statement: every compound has an expression, whose tokens read as one that is of the type of
the compound and has the value of the operator on the operands from left to right.
-/
import StatSchema.Proofs.Expression.Reading

namespace StatSchema

open Token

/-! ## Types by name -/

theorem typeIn_of_not_mem {types : List (String × ValueType)} {name : String}
    (absent : name ∉ types.map (·.1)) : typeIn types name = .integer := by
  unfold typeIn
  rw [lookup_eq_none_of_not_mem absent]
  rfl

theorem typeIn_concat_self {types : List (String × ValueType)} {name : String}
    (fresh : name ∉ types.map (·.1)) (type : ValueType) :
    typeIn (types ++ [(name, type)]) name = type := by
  unfold typeIn
  rw [List.lookup_append, lookup_eq_none_of_not_mem fresh]
  simp

theorem typeIn_concat_of_ne (types : List (String × ValueType)) {name other : String}
    (apart : name ≠ other) (type : ValueType) :
    typeIn (types ++ [(other, type)]) name = typeIn types name := by
  unfold typeIn
  rw [List.lookup_append, List.lookup_cons, beq_eq_false_iff_ne.2 apart]
  simp

theorem compoundTypes_concat (done : List CompoundMetric) (last : CompoundMetric) :
    compoundTypes (done ++ [last]) = compoundTypes done ++ [(last.name,
      last.operator.resultType (last.operands.map (typeIn (compoundTypes done))))] := by
  rw [compoundTypes, List.foldl_append]
  rfl

/-! ## Types of compounds in order -/

namespace Ordered

variable {compounds done : List CompoundMetric}

/-- The compounds among the operands of a compound are as far as the compound is. -/
theorem operands (ordered : Ordered compounds done) :
    ∀ compound ∈ done, ∀ operand ∈ compound.operands, operand ∈ compounds.map (·.name) →
      operand ∈ done.map (·.name) := by
  induction ordered with
  | nil => simp
  | snoc before member last taken ih =>
    intro compound here operand among declared
    rw [List.map_append]
    refine List.mem_append_left _ ?_
    rcases List.mem_append.1 here with earlier | here
    · exact ih compound earlier operand among declared
    · rw [List.mem_singleton.1 here] at among
      exact taken operand among declared

/-- The type of a compound is that of its operator on the types of its operands. -/
theorem typeIn_compoundTypes (ordered : Ordered compounds done) :
    ∀ compound ∈ done, typeIn (compoundTypes done) compound.name =
      compound.operator.resultType (compound.operands.map (typeIn (compoundTypes done))) := by
  induction ordered with
  | nil => simp
  | @snoc done last before member fresh taken ih =>
    intro compound here
    rw [compoundTypes_concat]
    -- no compound so far, the last one included, is among the operands of one of them but the earlier
    have settled : ∀ operand ∈ compound.operands, operand ≠ last.name := by
      rintro operand among rfl
      have declared := List.mem_map_of_mem (f := (·.name)) member
      rcases List.mem_append.1 here with earlier | here
      · exact fresh (before.operands compound earlier _ among declared)
      · rw [List.mem_singleton.1 here] at among
        exact fresh (taken _ among declared)
    have same : compound.operands.map (typeIn (compoundTypes done ++ [(last.name,
          last.operator.resultType (last.operands.map (typeIn (compoundTypes done))))])) =
        compound.operands.map (typeIn (compoundTypes done)) :=
      List.map_congr_left fun operand among => typeIn_concat_of_ne _ (settled operand among) _
    rw [same]
    rcases List.mem_append.1 here with earlier | here
    · have apart : compound.name ≠ last.name := fun same =>
        fresh (same ▸ List.mem_map_of_mem earlier)
      rw [typeIn_concat_of_ne _ apart, ih compound earlier]
    · rw [List.mem_singleton.1 here, typeIn_concat_self]
      rw [names_compoundTypes]
      exact fresh

end Ordered

/-! ## Types of compiled metrics -/

theorem valueType_of_derivationEntry {compounds : List CompoundMetric}
    {types : List (String × ValueType)} {name : String} {entry : CompoundEntry}
    (h : derivationEntry compounds types name = .ok entry) :
    entry.valueType = typeIn types entry.name := by
  unfold derivationEntry at h
  split at h
  · rename_i compound valueType _ typed
    obtain ⟨identifier, -, same⟩ := bind_eq_ok.1 h
    cases same
    unfold typeIn
    rw [typed]
    rfl
  · cases h

/-- Compiling types the compounds in an order in which each comes after those among its operands. -/
theorem types_of_compile {schema : Schema} {compiled : CompiledSchema}
    (h : compile schema = .ok compiled) :
    ∃ done, Ordered schema.compounds done ∧
      (∀ compound ∈ schema.compounds, compound.name ∈ done.map (·.name)) ∧
      ∀ entry ∈ compiled.derivation, entry.valueType = typeIn (compoundTypes done) entry.name := by
  obtain ⟨_, -, h⟩ := bind_eq_ok.1 h
  obtain ⟨_, -, h⟩ := bind_eq_ok.1 h
  obtain ⟨_, -, h⟩ := bind_eq_ok.1 h
  rcases dependencyOrder_spec schema.compounds with ⟨done, ran, ordered, all⟩ | ⟨cycle, ran, -⟩
  swap
  · rw [ran] at h
    cases h
  rw [ran, refusing, ok_bind] at h
  obtain ⟨_, -, h⟩ := bind_eq_ok.1 h
  obtain ⟨_, -, h⟩ := bind_eq_ok.1 h
  obtain ⟨_, -, h⟩ := bind_eq_ok.1 h
  split at h
  · cases h
  · obtain ⟨_, -, h⟩ := bind_eq_ok.1 h
    obtain ⟨derived, given, h⟩ := bind_eq_ok.1 h
    cases h
    refine ⟨done, ordered, all, fun entry here => ?_⟩
    obtain ⟨name, -, made⟩ := exists_mem_of_forall₂ (forall₂_of_mapM given) entry here
    exact valueType_of_derivationEntry made

namespace CompiledSchema

variable {schema : Schema} {compiled : CompiledSchema}

/-- The type of a compiled compound is that of its operator on the types of its operands. -/
theorem valueType_eq (compiles : compile schema = .ok compiled) {compound : CompoundEntry}
    (here : compound ∈ compiled.derivation) {operands : List Entry}
    (resolved : List.Forall₂ (fun name entry => compiled.find? name = some entry) compound.operands
      operands) :
    compound.valueType = compound.operator.resultType (operands.map Entry.valueType) := by
  obtain ⟨wellFormed, represents⟩ := of_compile compiles
  obtain ⟨done, ordered, all, typed⟩ := types_of_compile compiles
  have names : NamesSound schema.names := wellFormed .names
  have apart := schema.perm_names.nodup_iff.2 names.nodup
  have valued : ∀ name entry, compiled.find? name = some entry →
      entry.valueType = typeIn (compoundTypes done) name := by
    intro name entry found
    obtain ⟨rfl, ⟨base, stored, rfl⟩ | ⟨other, derived, rfl⟩⟩ := find?_eq_some found
    · refine (typeIn_of_not_mem ?_).symm
      rw [names_compoundTypes]
      intro computed
      -- no name is that of a base metric and of a compound
      have declared : base.name ∈ schema.bases.map (·.name) :=
        List.mem_map_of_mem (represents.mem_bases stored)
      exact (List.nodup_append.1 apart).2.2 _ declared _
        (mem_names_of_subset ordered.subset computed) rfl
    · exact typed other derived
  have declared := represents.mem_compounds here
  have member : compound.metric ∈ done := by
    obtain ⟨other, there, same⟩ := List.mem_map.1 (all compound.metric declared)
    have distinct := names.nodup.sublist schema.sublist_names_compounds
    exact List.inj_on_of_nodup_map distinct (ordered.subset there) declared same ▸ there
  have types : operands.map Entry.valueType =
      compound.operands.map (typeIn (compoundTypes done)) :=
    map_eq_of_forall₂ (List.forall₂_map_left_iff.2
      (resolved.imp fun name entry found => valued name entry found))
  rw [types]
  exact (typed compound here).trans (ordered.typeIn_compoundTypes compound.metric member)

/-- The operands of a compiled compound have entries. -/
theorem entries_of_compile (compiles : compile schema = .ok compiled) {compound : CompoundEntry}
    (here : compound ∈ compiled.derivation) :
    ∃ operands, compiled.entries compound.operands = .ok operands ∧ operands ≠ [] := by
  obtain ⟨wellFormed, represents⟩ := of_compile compiles
  have sound : OperandsSound schema.names schema.compounds := wellFormed .operands
  have declared := represents.mem_compounds here
  obtain ⟨enough, known⟩ := sound _ declared
  have resolved : (∃ operands, compiled.entries compound.operands = .ok operands ∧
      List.Forall₂ (fun name entry => compiled.find? name = some entry) compound.operands operands) ∨
      ∃ failure, compiled.entries compound.operands = .error failure ∧ False := by
    refine mapM_spec fun name taken => .inl ?_
    obtain ⟨entry, found⟩ := represents.exists_entry (known name taken)
    exact ⟨entry, by rw [found], found⟩
  rcases resolved with ⟨operands, ran, all⟩ | ⟨-, -, impossible⟩
  · refine ⟨operands, ran, ?_⟩
    rintro rfl
    have count := all.length_eq
    have few : compound.operands.length = 0 := count
    have enough : 2 ≤ compound.operands.length := enough
    omega
  · exact impossible.elim

end CompiledSchema

/-! ## Expressions -/

theorem Expression.snd_fold {ρ : Type} (valueType : ρ → ValueType) (operator : Operator)
    (single : Bool) (accumulated : Expression ρ) (accumulatedType : ValueType) (rest : List ρ) :
    (fold valueType operator single accumulated accumulatedType rest).2 =
      operator.foldType accumulatedType (rest.map valueType) := by
  induction rest generalizing single accumulated accumulatedType with
  | nil => rfl
  | cons operand rest ih =>
    rw [fold, ih, List.map_cons, Operator.foldType, List.isEmpty_map]

theorem Expression.type?_ofOperands? {ρ : Type} {valueType : ρ → ValueType} {operator : Operator}
    {operands : List ρ} {tree : Expression ρ} {type : ValueType}
    (made : ofOperands? valueType operator operands = some (tree, type)) :
    tree.type? valueType = some type := by
  cases operands with
  | nil => cases made
  | cons first rest =>
    have whole : fold valueType operator true (accessor first) (valueType first) rest =
        (tree, type) := Option.some.inj made
    have checked := type?_fold operator true rest
      (show (accessor first).type? valueType = some (valueType first) from rfl)
    rwa [whole] at checked

/-- Every compiled compound has an expression. -/
theorem CompiledSchema.exists_expression {schema : Schema} {compiled : CompiledSchema}
    (compiles : compile schema = .ok compiled) {compound : CompoundEntry}
    (here : compound ∈ compiled.derivation) :
    ∃ tree, compiled.expression compound = .ok tree := by
  obtain ⟨operands, resolved, nonempty⟩ := entries_of_compile compiles here
  have typed := valueType_eq compiles here (entries_eq_ok resolved)
  unfold expression
  rw [resolved, ok_bind]
  cases operands with
  | nil => exact absurd rfl nonempty
  | cons first rest =>
    have agrees : (Expression.fold Entry.valueType compound.operator true (.accessor first)
        first.valueType rest).2 = compound.valueType := by
      rw [Expression.snd_fold, typed]
      rfl
    exact ⟨_, if_pos agrees⟩

/-- The tokens of a compound's expression mean the operator, applied to the operands from left to
right: read by precedence they are an expression that calls the accessors of the operands in order,
it is of the type of the compound, and whatever the accessors answer, words or fractions or a panic,
its value is that of the operator, which converts a word only for a step that is done on fractions. -/
theorem compound_expressions_mean_folds {schema : Schema} {compiled : CompiledSchema}
    (compiles : compile schema = .ok compiled) {compound : CompoundEntry}
    (here : compound ∈ compiled.derivation) :
    ∃ operands tree expression,
      List.Forall₂ (fun name operand => compiled.find? name = some operand) compound.operands
        operands ∧
      compiled.expression compound = .ok tree ∧
      Expression.read? [] {} none (tree.tokens Entry.identifier) = some expression ∧
      expression.calls = operands.map Entry.identifier ∧
      compound.valueType = compound.operator.resultType (operands.map Entry.valueType) ∧
      (∀ valueType : String → ValueType,
        (∀ operand ∈ operands, valueType operand.identifier = operand.valueType) →
        expression.type? valueType = some compound.valueType) ∧
      ∀ {φ : Type} (arithmetic : FractionArithmetic φ) (overflow : Overflow)
        (answer : String → Except Panic (Value φ)),
        (∀ operand ∈ operands, Typed operand.valueType (answer operand.identifier)) →
        expression.evaluate arithmetic overflow answer =
          compound.operator.evaluate arithmetic overflow
            (operands.map fun operand => answer operand.identifier) := by
  obtain ⟨tree, made⟩ := CompiledSchema.exists_expression compiles here
  obtain ⟨operands, resolved, applied⟩ := CompiledSchema.expression_eq_ok made
  have found := CompiledSchema.entries_eq_ok resolved
  have called := Expression.calls_ofOperands? applied
  refine ⟨operands, tree, tree.map Entry.identifier, found, made,
    Expression.read?_legible _ (Expression.legible_ofOperands? applied), ?_,
    CompiledSchema.valueType_eq compiles here found, ?_, ?_⟩
  · rw [Expression.calls_map, called]
  · intro valueType agrees
    rw [← called] at agrees
    rw [Expression.type?_map _ agrees]
    exact Expression.type?_ofOperands? applied
  · intro φ arithmetic overflow answer typed
    have moved : (tree.map Entry.identifier).evaluate arithmetic overflow answer =
        tree.evaluate arithmetic overflow fun operand => answer operand.identifier :=
      Expression.evaluate_map arithmetic overflow Entry.identifier fun _ _ => rfl
    rw [moved]
    exact (Expression.ofOperands?_spec arithmetic overflow applied typed).2.1

/-- A schema with a quotient of three metrics. -/
def waits : Schema :=
  { declarations := [.base ⟨"wait", .sum⟩, .base ⟨"requests", .counter⟩, .base ⟨"hosts", .counter⟩,
      .compound ⟨"wait per host", .divide, ["wait", "requests", "hosts"]⟩] }

/-- The quotient of `waits` as it is compiled. -/
def waitPerHost : CompoundEntry :=
  ⟨"wait per host", .divide, ["wait", "requests", "hosts"], .fraction, "wait_per_host"⟩

theorem wait_per_host_divides_words_first :
    ∃ compiled tree expression, compile waits = .ok compiled ∧
      waitPerHost ∈ compiled.derivation ∧ compiled.expression waitPerHost = .ok tree ∧
      Expression.read? [] {} none (tree.tokens Entry.identifier) = some expression ∧
      expression.type? (fun _ => .integer) = some .fraction ∧
      ∀ {φ : Type} (arithmetic : FractionArithmetic φ) (overflow : Overflow),
        expression.evaluate arithmetic overflow
            (fun metric => .ok (.integer
              (if metric = "wait" then 7 else if metric = "requests" then 2 else 0))) =
          .ok (.fraction (arithmetic.divide (arithmetic.ofWord 3) (arithmetic.ofWord 0))) := by
  have compiles : compile waits = .ok ⟨[⟨"wait", .sum, "wait", "add_wait"⟩,
      ⟨"requests", .counter, "requests", "count_requests"⟩,
      ⟨"hosts", .counter, "hosts", "count_hosts"⟩], [waitPerHost],
      ["wait", "requests", "hosts", "wait per host"], [waitPerHost]⟩ := by decide +kernel
  obtain ⟨operands, tree, expression, found, made, reads, -, -, typed, computed⟩ :=
    compound_expressions_mean_folds compiles List.mem_cons_self
  obtain rfl : operands = [.base ⟨"wait", .sum, "wait", "add_wait"⟩,
      .base ⟨"requests", .counter, "requests", "count_requests"⟩,
      .base ⟨"hosts", .counter, "hosts", "count_hosts"⟩] := by
    obtain _ | ⟨first, _ | ⟨second, _ | ⟨third, _ | _⟩⟩⟩ := found
    cases first
    cases second
    cases third
    rfl
  refine ⟨_, tree, expression, compiles, List.mem_cons_self, made, reads, typed _ ?_, ?_⟩
  · simp [Entry.valueType]
  · intro φ arithmetic overflow
    rw [computed]
    · cases overflow <;> rfl
    · simp [Typed, Entry.valueType, Value.type]

end StatSchema
