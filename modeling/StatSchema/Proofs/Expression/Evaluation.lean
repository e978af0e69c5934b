/-
The value of an expression. An operator takes both of its sides in one type, words or fractions, and
conversions are written where they are needed; so the expression of a compound is well-typed and has
the outcome of the compound, whatever the operands come to.
-/
import StatSchema.Expression
import StatSchema.Proofs.Expression.Outcomes
import StatSchema.Value

namespace StatSchema

/-! ## Types -/

/-- The type of a value. -/
def Value.type {φ : Type} : Value φ → ValueType
  | integer _ => .integer
  | fraction _ => .fraction

/-- A computation that can only come to values of a type. -/
def Typed {φ : Type} (type : ValueType) (outcome : Except Panic (Value φ)) : Prop :=
  ∀ value, outcome = .ok value → value.type = type

namespace Expression

variable {ρ φ : Type}

/-- The type of an expression, of which no operator takes sides of two types. -/
def type? (valueType : ρ → ValueType) : Expression ρ → Option ValueType
  | accessor metric => some (valueType metric)
  | converted inner => (inner.type? valueType).map fun _ => .fraction
  | grouped inner => inner.type? valueType
  | combined _ left right => do
    let type ← left.type? valueType
    if right.type? valueType = some type then some type else none

/-- The value of an expression, given those of the metrics. Both sides of an operator are computed
before it is applied, the left one first. -/
def evaluate (arithmetic : FractionArithmetic φ) (overflow : Overflow)
    (value : ρ → Except Panic (Value φ)) : Expression ρ → Except Panic (Value φ)
  | accessor metric => value metric
  | converted inner => do
    return .fraction ((← inner.evaluate arithmetic overflow value).toFraction arithmetic)
  | grouped inner => inner.evaluate arithmetic overflow value
  | combined operator left right => do
    let left ← left.evaluate arithmetic overflow value
    let right ← right.evaluate arithmetic overflow value
    operator.step arithmetic overflow false left right

variable {arithmetic : FractionArithmetic φ} {overflow : Overflow}
  {value : ρ → Except Panic (Value φ)} {valueType : ρ → ValueType}

/-! ## One step -/

theorem type?_toType (single : Bool) {source target : ValueType} {expression : Expression ρ}
    (typed : expression.type? valueType = some source)
    (wider : source = .fraction → target = .fraction) :
    (toType single source target expression).type? valueType = some target := by
  unfold toType
  cases single <;> cases source <;> cases target <;> simp_all [type?]

theorem evaluate_converted (inner : Expression ρ) :
    (converted inner).evaluate arithmetic overflow value =
      (inner.evaluate arithmetic overflow value).map fun value =>
        .fraction (value.toFraction arithmetic) := by
  rw [evaluate]
  cases inner.evaluate arithmetic overflow value <;> rfl

theorem evaluate_toType (single : Bool) (source target : ValueType) (expression : Expression ρ) :
    (toType single source target expression).evaluate arithmetic overflow value =
      if target = .fraction ∧ source = .integer then
        (expression.evaluate arithmetic overflow value).map fun value =>
          .fraction (value.toFraction arithmetic)
      else expression.evaluate arithmetic overflow value := by
  have inner : (if single then expression else grouped expression).evaluate arithmetic overflow
      value = expression.evaluate arithmetic overflow value := by
    cases single <;> rfl
  unfold toType
  by_cases wider : target = .fraction ∧ source = .integer
  · rw [if_pos (by simpa using wider), if_pos wider, evaluate_converted, inner]
  · rw [if_neg (by simpa using wider), if_neg wider]

/-- A step of an operator, on sides that have been converted to one type. -/
theorem evaluate_step (operator : Operator) (widened single : Bool)
    {accumulated : Expression ρ} {accumulatedType : ValueType} {operand : ρ}
    (left : Typed accumulatedType (accumulated.evaluate arithmetic overflow value))
    (right : Typed (valueType operand) (value operand)) :
    (combined operator
        (toType single accumulatedType
          (accumulatedType.combine (valueType operand) widened) accumulated)
        (toType true (valueType operand)
          (accumulatedType.combine (valueType operand) widened) (accessor operand))).evaluate
        arithmetic overflow value =
      (do
        let before ← accumulated.evaluate arithmetic overflow value
        operator.step arithmetic overflow widened before (← value operand)) := by
  have taken : (accessor operand).evaluate arithmetic overflow value = value operand := rfl
  rw [evaluate, evaluate_toType, evaluate_toType, taken]
  -- a side that stops does so before anything is converted
  cases first : accumulated.evaluate arithmetic overflow value with
  | error panic => split <;> rfl
  | ok before =>
    cases second : value operand with
    | error panic => split <;> split <;> rfl
    | ok given =>
      rw [← left before first, ← right given second]
      cases before <;> cases given <;> cases widened <;> rfl

/-- A step comes to values of the type that its sides are converted to. -/
theorem typed_step (arithmetic : FractionArithmetic φ) (overflow : Overflow) (operator : Operator)
    (widened : Bool) {leftType rightType : ValueType}
    {left right : Except Panic (Value φ)} (typed : Typed leftType left)
    (typed' : Typed rightType right) :
    Typed (leftType.combine rightType widened) (do
      let before ← left
      operator.step arithmetic overflow widened before (← right)) := by
  intro result computed
  cases left with
  | error panic => cases computed
  | ok before =>
    cases right with
    | error panic => cases computed
    | ok given =>
      rw [← typed before rfl, ← typed' given rfl]
      replace computed : operator.step arithmetic overflow widened before given = .ok result :=
        computed
      -- two words stay words, unless the step is widened
      by_cases words : (∃ word, before = .integer word) ∧ (∃ word, given = .integer word) ∧
          widened = false
      · obtain ⟨⟨word, rfl⟩, ⟨word', rfl⟩, rfl⟩ := words
        replace computed : (operator.onWords overflow word word').map Value.integer = .ok result :=
          computed
        cases whole : operator.onWords overflow word word' with
        | error panic =>
          rw [whole] at computed
          cases computed
        | ok word =>
          rw [whole] at computed
          cases computed
          rfl
      · cases before <;> cases given <;> cases widened <;>
          first | (cases computed; rfl) | simp at words

end Expression

/-! ## Folds -/

theorem Operator.fold_cons_ok {φ : Type} (arithmetic : FractionArithmetic φ) (overflow : Overflow)
    (operator : Operator) (before given : Value φ) (rest : List (Except Panic (Value φ))) :
    operator.fold arithmetic overflow before (.ok given :: rest) =
      (operator.step arithmetic overflow (operator = .divide && rest.isEmpty) before given >>=
        fun result => operator.fold arithmetic overflow result rest) := rfl

namespace Expression

variable {ρ φ : Type} {arithmetic : FractionArithmetic φ} {overflow : Overflow}
  {value : ρ → Except Panic (Value φ)} {valueType : ρ → ValueType}

/-- Applying an operator to further operands, as an expression and as a computation. -/
theorem evaluate_fold (operator : Operator) (single : Bool) {accumulated : Expression ρ}
    {accumulatedType : ValueType} (rest : List ρ)
    (typed : Typed accumulatedType (accumulated.evaluate arithmetic overflow value))
    (operands : ∀ operand ∈ rest, Typed (valueType operand) (value operand)) :
    (fold valueType operator single accumulated accumulatedType rest).1.evaluate arithmetic overflow
        value =
      (accumulated.evaluate arithmetic overflow value >>= fun before =>
        operator.fold arithmetic overflow before (rest.map value)) ∧
    Typed (fold valueType operator single accumulated accumulatedType rest).2
      ((fold valueType operator single accumulated accumulatedType rest).1.evaluate arithmetic
        overflow value) := by
  induction rest generalizing single accumulated accumulatedType with
  | nil =>
    refine ⟨?_, typed⟩
    show accumulated.evaluate arithmetic overflow value = _
    cases accumulated.evaluate arithmetic overflow value <;> rfl
  | cons operand rest ih =>
    have right := operands operand List.mem_cons_self
    have step := evaluate_step operator (decide (operator = .divide) && rest.isEmpty) single typed
      right
    have next := typed_step arithmetic overflow operator
      (decide (operator = .divide) && rest.isEmpty) typed right
    rw [← step] at next
    obtain ⟨same, typed'⟩ := ih false next fun other later =>
      operands other (List.mem_cons_of_mem _ later)
    refine ⟨same.trans ?_, typed'⟩
    rw [step]
    cases accumulated.evaluate arithmetic overflow value with
    | error panic => rfl
    | ok before =>
      cases taken : value operand with
      | error panic =>
        rw [List.map_cons, taken]
        rfl
      | ok given =>
        rw [List.map_cons, taken]
        have last : (rest.map value).isEmpty = rest.isEmpty := List.isEmpty_map
        rw [ok_bind, ok_bind, ok_bind, Operator.fold_cons_ok, last]

theorem type?_fold (operator : Operator) (single : Bool) {accumulated : Expression ρ}
    {accumulatedType : ValueType} (rest : List ρ)
    (typed : accumulated.type? valueType = some accumulatedType) :
    (fold valueType operator single accumulated accumulatedType rest).1.type? valueType =
      some (fold valueType operator single accumulated accumulatedType rest).2 := by
  induction rest generalizing single accumulated accumulatedType with
  | nil => exact typed
  | cons operand rest ih =>
    refine ih false ?_
    have taken : (accessor operand).type? valueType = some (valueType operand) := rfl
    rw [type?, type?_toType _ typed, type?_toType _ taken]
    · exact if_pos rfl
    · intro fractional
      simp [ValueType.combine, fractional]
    · intro fractional
      simp [ValueType.combine, fractional]

/-- The expression of an operator applied to operands is well-typed, and has the value of the
operator on the values of the operands. -/
theorem ofOperands?_spec (arithmetic : FractionArithmetic φ) (overflow : Overflow)
    {operator : Operator} {operands : List ρ} {tree : Expression ρ}
    {type : ValueType} (made : ofOperands? valueType operator operands = some (tree, type))
    (typed : ∀ operand ∈ operands, Typed (valueType operand) (value operand)) :
    tree.type? valueType = some type ∧
      tree.evaluate arithmetic overflow value =
        operator.evaluate arithmetic overflow (operands.map value) ∧
      Typed type (tree.evaluate arithmetic overflow value) := by
  cases operands with
  | nil => cases made
  | cons first rest =>
    have whole : fold valueType operator true (accessor first) (valueType first) rest =
        (tree, type) := Option.some.inj made
    have begun : Typed (valueType first)
        ((accessor first).evaluate arithmetic overflow value) := typed first List.mem_cons_self
    have checked := type?_fold operator true rest
      (show (accessor first).type? valueType = some (valueType first) from rfl)
    obtain ⟨same, typed'⟩ := evaluate_fold operator true rest begun
      fun operand later => typed operand (List.mem_cons_of_mem _ later)
    rw [whole] at checked same typed'
    exact ⟨checked, same, typed'⟩

end Expression

/-! ## Compounds -/

namespace CompiledSchema

variable {compiled : CompiledSchema}

theorem find?_eq_some {name : String} {entry : Entry} (found : compiled.find? name = some entry) :
    entry.name = name ∧ ((∃ base ∈ compiled.storage, entry = .base base) ∨
      ∃ compound ∈ compiled.derivation, entry = .compound compound) := by
  unfold find? at found
  rcases Option.or_eq_some_iff.1 found with stored | ⟨-, derived⟩
  · obtain ⟨base, hit, rfl⟩ := Option.map_eq_some_iff.1 stored
    have named : base.name = name := by simpa using List.find?_some hit
    exact ⟨named, .inl ⟨base, List.mem_of_find?_eq_some hit, rfl⟩⟩
  · obtain ⟨compound, hit, rfl⟩ := Option.map_eq_some_iff.1 derived
    have named : compound.name = name := by simpa using List.find?_some hit
    exact ⟨named, .inr ⟨compound, List.mem_of_find?_eq_some hit, rfl⟩⟩

theorem mem_storage_of_find? {name : String} {entry : BaseEntry}
    (found : compiled.find? name = some (.base entry)) : entry ∈ compiled.storage := by
  obtain ⟨-, ⟨base, here, same⟩ | ⟨compound, -, same⟩⟩ := find?_eq_some found
  · cases same
    exact here
  · cases same

theorem mem_derivation_of_find? {name : String} {entry : CompoundEntry}
    (found : compiled.find? name = some (.compound entry)) : entry ∈ compiled.derivation := by
  obtain ⟨-, ⟨base, -, same⟩ | ⟨compound, here, same⟩⟩ := find?_eq_some found
  · cases same
  · cases same
    exact here

/-- Every declared metric has an entry. -/
theorem Represents.exists_entry {schema : Schema} (represents : compiled.Represents schema)
    {metric : String} (declared : metric ∈ schema.names) :
    ∃ entry, compiled.find? metric = some entry := by
  cases found : compiled.find? metric with
  | some entry => exact ⟨entry, rfl⟩
  | none =>
    obtain ⟨unstored, underived⟩ := Option.or_eq_none_iff.1 found
    rw [Option.map_eq_none_iff, List.find?_eq_none] at unstored underived
    rcases List.mem_append.1 (schema.perm_names.mem_iff.2 declared) with base | derived
    · obtain ⟨base, there, rfl⟩ := List.mem_map.1 base
      obtain ⟨entry, here, rfl⟩ := List.mem_map.1 (represents.storage.mem_iff.2 there)
      exact absurd (beq_self_eq_true _) (unstored entry here)
    · obtain ⟨compound, there, rfl⟩ := List.mem_map.1 derived
      obtain ⟨entry, here, rfl⟩ := List.mem_map.1 (represents.derivation.mem_iff.2 there)
      exact absurd (beq_self_eq_true _) (underived entry here)

theorem entries_eq_ok {names : List String} {entries : List Entry}
    (h : compiled.entries names = .ok entries) :
    List.Forall₂ (fun name entry => compiled.find? name = some entry) names entries := by
  refine (forall₂_of_mapM h).imp ?_
  intro name entry given
  split at given
  · rename_i found
    cases given
    exact found
  · cases given

theorem expression_eq_ok {compound : CompoundEntry} {tree : Expression Entry}
    (h : compiled.expression compound = .ok tree) :
    ∃ operands, compiled.entries compound.operands = .ok operands ∧
      Expression.ofOperands? Entry.valueType compound.operator operands =
        some (tree, compound.valueType) := by
  obtain ⟨operands, resolved, h⟩ := bind_eq_ok.1 h
  refine ⟨operands, resolved, ?_⟩
  split at h
  · cases h
  · rename_i expression type made
    split at h
    · rename_i same
      cases h
      rw [made, same]
    · cases h

variable {schema : Schema} {overflow : Overflow} {base : BaseEntry → UInt64}

/-- A compiled schema whose compounds all have an expression. -/
def Expressed (compiled : CompiledSchema) : Prop :=
  ∀ compound ∈ compiled.derivation, ∃ tree, compiled.expression compound = .ok tree

/-- The outcomes of operands, looked up among the entries. -/
theorem map_of_entries {names : List String} {entries : List Entry}
    (resolved : compiled.entries names = .ok entries) (outcomes : Outcomes) :
    entries.map (fun entry => outcomes.of entry.name) = names.map outcomes.of := by
  refine map_eq_of_forall₂ (List.forall₂_map_left_iff.2 ((entries_eq_ok resolved).imp ?_))
  intro name entry found
  rw [(find?_eq_some found).1]

/-- An expression has the outcome of its compound, if the operands have outcomes of their types. -/
theorem Settled.evaluate {outcomes : Outcomes} {compounds : List CompoundEntry}
    (settled : compiled.Settled overflow base compounds outcomes) {compound : CompoundEntry}
    (here : compound ∈ compounds) {tree : Expression Entry}
    (made : compiled.expression compound = .ok tree)
    (typed : ∀ operand ∈ compound.operands, ∀ entry, compiled.find? operand = some entry →
      Typed entry.valueType (outcomes.of operand)) :
    tree.type? Entry.valueType = some compound.valueType ∧
      tree.evaluate .doubles overflow (fun entry => outcomes.of entry.name) =
        outcomes.of compound.name ∧
      Typed compound.valueType (outcomes.of compound.name) := by
  obtain ⟨operands, resolved, applied⟩ := expression_eq_ok made
  have typed' : ∀ entry ∈ operands, Typed entry.valueType (outcomes.of entry.name) := by
    intro entry taken
    obtain ⟨operand, here, found⟩ := exists_mem_of_forall₂ (entries_eq_ok resolved) entry taken
    rw [(find?_eq_some found).1]
    exact typed operand here entry found
  obtain ⟨checked, same, result⟩ :=
    Expression.ofOperands?_spec .doubles overflow applied typed'
  have equation : outcomes.of compound.name =
      compound.operator.evaluate .doubles overflow
        (operands.map fun entry => outcomes.of entry.name) := by
    rw [settled.compounds compound here, map_of_entries resolved]
    rfl
  rw [same, ← equation] at result
  exact ⟨checked, same.trans equation.symm, result⟩

/-- Following operands comes to an end. -/
theorem Represents.wellFounded (represents : compiled.Represents schema)
    (wellFormed : schema.WellFormed) :
    WellFounded fun used user => Uses schema.compounds user used := by
  have names : NamesSound schema.names := wellFormed .names
  refine represents.ordered.wellFounded (names.nodup.sublist schema.sublist_names_compounds) ?_
  intro compound here
  have perm := (represents.evaluation.map CompoundEntry.metric).trans represents.derivation
  exact List.mem_map_of_mem (perm.mem_iff.2 here)

theorem Represents.uses (represents : compiled.Represents schema) {compound : CompoundEntry}
    (here : compound ∈ compiled.derivation) {operand : String}
    (taken : operand ∈ compound.operands) : Uses schema.compounds compound.name operand :=
  ⟨compound.metric, represents.mem_compounds here, rfl, taken⟩

/-- Every outcome has the type of its metric. -/
theorem Represents.typed (represents : compiled.Represents schema)
    (wellFormed : schema.WellFormed) (expressed : compiled.Expressed) (overflow : Overflow)
    (base : BaseEntry → UInt64) (metric : String) :
    ∀ entry, compiled.find? metric = some entry →
      Typed entry.valueType ((compiled.outcomes overflow base).of metric) := by
  have settled := represents.settled wellFormed overflow base
  -- the operands of a compound come before it
  induction metric using (represents.wellFounded wellFormed).induction with
  | _ metric ih =>
    intro entry found
    obtain ⟨rfl, ⟨stored, here, rfl⟩ | ⟨compound, here, rfl⟩⟩ := find?_eq_some found
    · intro value computed
      rw [Entry.name, settled.base stored here] at computed
      cases computed
      rfl
    · obtain ⟨tree, made⟩ := expressed compound here
      refine (settled.evaluate (represents.evaluation.mem_iff.2 here) made ?_).2.2
      exact fun operand taken => ih operand (represents.uses here taken)

end CompiledSchema

end StatSchema
