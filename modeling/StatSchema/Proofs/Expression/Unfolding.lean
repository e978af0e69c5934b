/-
Unfolding of expressions. A compound among the references of an expression stands for an expression of
its own; when all compounds have been replaced, what is left refers to base metrics. Operands come to an
end, so every metric unfolds, in one way. Main statements: the unfolded expression has the outcome of the
metric, and where the metric is typed as a word it is one of additions and subtractions alone.
-/
import StatSchema.Proofs.Artifact.Typing
import StatSchema.Proofs.Expression.Division
import StatSchema.Proofs.Expression.Linearity

namespace StatSchema

/-! ## References -/

namespace CompiledSchema

variable {schema : Schema} {compiled : CompiledSchema}

/-- The expression of a compound refers to its operands. -/
theorem Represents.calls_expression (represents : compiled.Represents schema)
    {compound : CompoundEntry} (here : compound ∈ compiled.derivation) {tree : Expression Entry}
    (made : compiled.expression compound = .ok tree) {operand : Entry}
    (called : operand ∈ tree.calls) :
    compiled.find? operand.name = some operand ∧
      Uses schema.compounds compound.name operand.name := by
  obtain ⟨operands, resolved, applied⟩ := expression_eq_ok made
  rw [Expression.calls_ofOperands? applied] at called
  obtain ⟨name, taken, found⟩ := exists_mem_of_forall₂ (entries_eq_ok resolved) operand called
  obtain ⟨rfl, -⟩ := find?_eq_some found
  exact ⟨found, represents.uses here taken⟩

/-- A compound that is typed as a word is a sum or a difference of words. -/
theorem additive_of_integer (compiles : compile schema = .ok compiled) {compound : CompoundEntry}
    (here : compound ∈ compiled.derivation) (whole : compound.valueType = .integer)
    {tree : Expression Entry} (made : compiled.expression compound = .ok tree) :
    tree.Additive ∧ ∀ operand ∈ tree.calls, operand.valueType = .integer := by
  obtain ⟨operands, resolved, looked, enough⟩ := operands_of_compile compiles here
  obtain ⟨operands', resolved', applied⟩ := expression_eq_ok made
  rw [resolved] at resolved'
  cases resolved'
  have typed := valueType_eq compiles here looked
  have several : 2 ≤ (operands.map Entry.valueType).length := by rwa [List.length_map]
  have fractional := compound.operator.resultType_eq_fraction_iff several
  rw [← typed, whole] at fractional
  obtain ⟨known, words⟩ := not_or.1 (mt fractional.2 nofun)
  have integers : ∀ operand ∈ operands, operand.valueType = .integer := by
    intro operand there
    cases type : operand.valueType with
    | integer => rfl
    | fraction => exact absurd (List.mem_map.2 ⟨operand, there, type⟩) words
  refine ⟨Expression.additive_ofOperands? known applied integers, ?_⟩
  rwa [Expression.calls_ofOperands? applied]

end CompiledSchema

/-! ## Unfolding -/

namespace Expression

/-- An expression, and what it is with each compound replaced by its expression in parentheses, over
and over. -/
inductive Unfolds (compiled : CompiledSchema) : Expression Entry → Expression BaseEntry → Prop
  | base (entry : BaseEntry) : Unfolds compiled (.accessor (.base entry)) (.accessor entry)
  | compound {entry : CompoundEntry} {tree : Expression Entry} {unfolded : Expression BaseEntry}
      (made : compiled.expression entry = .ok tree) (inner : Unfolds compiled tree unfolded) :
    Unfolds compiled (.accessor (.compound entry)) (.grouped unfolded)
  | converted {tree : Expression Entry} {unfolded : Expression BaseEntry}
      (inner : Unfolds compiled tree unfolded) :
    Unfolds compiled (.converted tree) (.converted unfolded)
  | grouped {tree : Expression Entry} {unfolded : Expression BaseEntry}
      (inner : Unfolds compiled tree unfolded) :
    Unfolds compiled (.grouped tree) (.grouped unfolded)
  | combined {operator : Operator} {left right : Expression Entry}
      {left' right' : Expression BaseEntry} (first : Unfolds compiled left left')
      (second : Unfolds compiled right right') :
    Unfolds compiled (.combined operator left right) (.combined operator left' right')

namespace Unfolds

variable {compiled : CompiledSchema} {tree : Expression Entry}
  {unfolded other : Expression BaseEntry}

/-- An expression unfolds in one way. -/
theorem unique (unfolds : Unfolds compiled tree unfolded) (unfolds' : Unfolds compiled tree other) :
    other = unfolded := by
  induction unfolds generalizing other with
  | base entry =>
    cases unfolds'
    rfl
  | compound made inner ih =>
    cases unfolds' with
    | compound made' inner' =>
      rw [made] at made'
      cases made'
      rw [ih inner']
  | converted inner ih =>
    cases unfolds' with
    | converted inner' => rw [ih inner']
  | grouped inner ih =>
    cases unfolds' with
    | grouped inner' => rw [ih inner']
  | combined first second ihFirst ihSecond =>
    cases unfolds' with
    | combined first' second' => rw [ihFirst first', ihSecond second']

theorem exists_of_calls
    (each : ∀ entry ∈ tree.calls, ∃ unfolded, Unfolds compiled (.accessor entry) unfolded) :
    ∃ unfolded, Unfolds compiled tree unfolded := by
  induction tree with
  | accessor metric => exact each metric (List.mem_singleton_self _)
  | converted inner ih =>
    obtain ⟨unfolded, unfolds⟩ := ih each
    exact ⟨_, .converted unfolds⟩
  | grouped inner ih =>
    obtain ⟨unfolded, unfolds⟩ := ih each
    exact ⟨_, .grouped unfolds⟩
  | combined operator left right ihLeft ihRight =>
    obtain ⟨left', first⟩ := ihLeft fun entry here => each entry (List.mem_append_left _ here)
    obtain ⟨right', second⟩ := ihRight fun entry here => each entry (List.mem_append_right _ here)
    exact ⟨_, .combined first second⟩

variable {schema : Schema} (compiles : compile schema = .ok compiled)

include compiles

/-- Every metric unfolds. -/
theorem exists_of_compile (metric : String) : ∀ entry, compiled.find? metric = some entry →
    ∃ unfolded, Unfolds compiled (.accessor entry) unfolded := by
  obtain ⟨wellFormed, represents⟩ := of_compile compiles
  -- operands come before what uses them
  induction metric using (represents.wellFounded wellFormed).induction with
  | _ metric ih =>
    intro entry found
    obtain ⟨rfl, ⟨base, here, rfl⟩ | ⟨compound, here, rfl⟩⟩ := CompiledSchema.find?_eq_some found
    · exact ⟨_, .base base⟩
    · obtain ⟨tree, made⟩ := CompiledSchema.exists_expression compiles here
      have calls : ∀ operand ∈ tree.calls, ∃ unfolded,
          Unfolds compiled (.accessor operand) unfolded := by
        intro operand called
        obtain ⟨found, used⟩ := represents.calls_expression here made called
        exact ih operand.name used operand found
      obtain ⟨unfolded, inner⟩ := exists_of_calls calls
      exact ⟨_, .compound made inner⟩

/-- What an expression unfolds to refers to base metrics that are reached from its references. -/
theorem reached (unfolds : Unfolds compiled tree unfolded)
    (found : ∀ entry ∈ tree.calls, compiled.find? entry.name = some entry) :
    ∀ base ∈ unfolded.calls, base ∈ compiled.storage ∧ ∃ entry ∈ tree.calls,
      Relation.ReflTransGen (Uses schema.compounds) entry.name base.name := by
  obtain ⟨-, represents⟩ := of_compile compiles
  induction unfolds with
  | base entry =>
    intro base here
    obtain rfl := List.mem_singleton.1 here
    have known := found (.base base) (List.mem_singleton_self _)
    exact ⟨CompiledSchema.mem_storage_of_find? known, _, List.mem_singleton_self _, .refl⟩
  | @compound entry tree unfolded made inner ih =>
    intro base here
    have derived := CompiledSchema.mem_derivation_of_find? (found _ (List.mem_singleton_self _))
    have operands : ∀ operand ∈ tree.calls, compiled.find? operand.name = some operand ∧
        Uses schema.compounds entry.name operand.name :=
      fun operand called => represents.calls_expression derived made called
    -- the compound takes the operand from which the base metric is reached
    obtain ⟨stored, operand, called, reach⟩ := ih (fun operand called => (operands operand called).1)
      base here
    exact ⟨stored, .compound entry, List.mem_singleton_self _,
      .head (operands operand called).2 reach⟩
  | converted inner ih => exact ih found
  | grouped inner ih => exact ih found
  | combined first second ihFirst ihSecond =>
    intro base here
    rcases List.mem_append.1 here with left | right
    · obtain ⟨stored, entry, called, reach⟩ :=
        ihFirst (fun entry called => found entry (List.mem_append_left _ called)) base left
      exact ⟨stored, entry, List.mem_append_left _ called, reach⟩
    · obtain ⟨stored, entry, called, reach⟩ :=
        ihSecond (fun entry called => found entry (List.mem_append_right _ called)) base right
      exact ⟨stored, entry, List.mem_append_right _ called, reach⟩

/-- What an expression unfolds to has its value. -/
theorem evaluate (unfolds : Unfolds compiled tree unfolded)
    (found : ∀ entry ∈ tree.calls, compiled.find? entry.name = some entry) (overflow : Overflow)
    (base : BaseEntry → UInt64) :
    unfolded.evaluate .doubles overflow (fun entry => .ok (.integer (base entry))) =
      tree.evaluate .doubles overflow fun entry => (compiled.outcomes overflow base).of entry.name := by
  obtain ⟨wellFormed, represents⟩ := of_compile compiles
  have settled := represents.settled wellFormed overflow base
  induction unfolds with
  | base entry =>
    have known := found (.base entry) (List.mem_singleton_self _)
    exact (settled.base entry (CompiledSchema.mem_storage_of_find? known)).symm
  | @compound entry tree unfolded made inner ih =>
    have here := CompiledSchema.mem_derivation_of_find? (found _ (List.mem_singleton_self _))
    -- what the compound's own expression comes to is the outcome of the compound
    have same := (settled.evaluate (represents.evaluation.mem_iff.2 here) made fun operand _ _ known =>
      CompiledSchema.typed_of_compile compiles overflow base known).2.1
    exact (ih fun operand called => (represents.calls_expression here made called).1).trans same
  | converted inner ih => rw [evaluate_converted, evaluate_converted, ih found]
  | grouped inner ih => exact ih found
  | combined first second ihFirst ihSecond =>
    rw [Expression.evaluate, Expression.evaluate,
      ihFirst fun entry called => found entry (List.mem_append_left _ called),
      ihSecond fun entry called => found entry (List.mem_append_right _ called)]

/-- Additions and subtractions of words unfold to additions and subtractions. -/
theorem additive (unfolds : Unfolds compiled tree unfolded)
    (found : ∀ entry ∈ tree.calls, compiled.find? entry.name = some entry)
    (words : ∀ entry ∈ tree.calls, entry.valueType = .integer) (sums : tree.Additive) :
    unfolded.Additive := by
  obtain ⟨-, represents⟩ := of_compile compiles
  induction unfolds with
  | base entry => trivial
  | compound made inner ih =>
    have here := CompiledSchema.mem_derivation_of_find? (found _ (List.mem_singleton_self _))
    have whole := words _ (List.mem_singleton_self _)
    obtain ⟨sums, words⟩ := CompiledSchema.additive_of_integer compiles here whole made
    exact ih (fun operand called => (represents.calls_expression here made called).1) words sums
  | converted inner ih => exact sums.elim
  | grouped inner ih => exact ih found words sums
  | combined first second ihFirst ihSecond =>
    obtain ⟨known, left, right⟩ := sums
    refine ⟨known, ihFirst ?_ ?_ left, ihSecond ?_ ?_ right⟩
    · exact fun entry called => found entry (List.mem_append_left _ called)
    · exact fun entry called => words entry (List.mem_append_left _ called)
    · exact fun entry called => found entry (List.mem_append_right _ called)
    · exact fun entry called => words entry (List.mem_append_right _ called)

/-- Every metric unfolds, to an expression of the base metrics that it reaches that has its outcome. Of
a word it is one of additions and subtractions alone. -/
theorem exists_of_metric {metric : String} {entry : Entry}
    (found : compiled.find? metric = some entry) :
    ∃ unfolded, Unfolds compiled (.accessor entry) unfolded ∧
      (entry.valueType = .integer → unfolded.Additive) ∧
      (∀ base ∈ unfolded.calls, base ∈ compiled.storage ∧
        Relation.ReflTransGen (Uses schema.compounds) metric base.name) ∧
      ∀ overflow (base : BaseEntry → UInt64),
        unfolded.evaluate .doubles overflow (fun entry => .ok (.integer (base entry))) =
          (compiled.outcomes overflow base).of metric := by
  obtain ⟨unfolded, unfolds⟩ := exists_of_compile compiles metric entry found
  obtain ⟨rfl, -⟩ := CompiledSchema.find?_eq_some found
  have known : ∀ other ∈ (Expression.accessor entry).calls,
      compiled.find? other.name = some other := by
    intro other called
    rw [List.mem_singleton.1 called]
    exact found
  refine ⟨unfolded, unfolds, fun whole => ?_, fun base called => ?_, ?_⟩
  · refine unfolds.additive compiles known (fun other called => ?_) trivial
    rw [List.mem_singleton.1 called]
    exact whole
  · obtain ⟨stored, other, called, reach⟩ := unfolds.reached compiles known base called
    rw [List.mem_singleton.1 called] at reach
    exact ⟨stored, reach⟩
  · exact unfolds.evaluate compiles known

end Unfolds

end Expression

end StatSchema
