/-
Divisions of words. Only a quotient divides words, and only in a step before its last one; as a fraction
stays one, the first two operands are words then. Where every base metric is zero nothing else stops a
computation, and a quotient that begins with two words stops there. Main statements:
`divisionByZero_of_outcome` and `outcome_of_dividesWords`.
-/
import StatSchema.Proofs.Expression.Compounds

namespace StatSchema

/-! ## Operators -/

namespace Operator

variable {φ : Type} {arithmetic : FractionArithmetic φ} {overflow : Overflow} {operator : Operator}

/-- A step that divides by zero is one of a division, on two words and not widened. -/
theorem step_eq_divisionByZero {widened : Bool} {left right : Value φ}
    (stopped : operator.step arithmetic overflow widened left right = .error .divisionByZero) :
    operator = .divide ∧ widened = false ∧ (∃ word, left = .integer word) ∧
      ∃ word, right = .integer word := by
  cases left with
  | fraction number => cases right <;> cases stopped
  | integer left =>
    cases right with
    | fraction number => cases stopped
    | integer right =>
      cases widened with
      | true => cases stopped
      | false =>
        refine ⟨?_, rfl, ⟨left, rfl⟩, ⟨right, rfl⟩⟩
        cases operator with
        | divide => rfl
        | add | subtract =>
          simp only [step, onWords] at stopped
          split at stopped
          · cases stopped
          · split at stopped <;> cases stopped

/-- A step that comes to a word is one on two words, and not widened. -/
theorem step_eq_integer {widened : Bool} {left right : Value φ} {word : UInt64}
    (computed : operator.step arithmetic overflow widened left right = .ok (.integer word)) :
    widened = false ∧ (∃ word, left = .integer word) ∧ ∃ word, right = .integer word := by
  cases left with
  | fraction number => cases right <;> cases computed
  | integer left =>
    cases right with
    | fraction number => cases computed
    | integer right =>
      cases widened with
      | true => cases computed
      | false => exact ⟨rfl, ⟨left, rfl⟩, ⟨right, rfl⟩⟩

/-- A division by zero comes from an operand, or from a step on words that is not the last. -/
theorem fold_eq_divisionByZero {accumulated : Value φ} {rest : List (Except Panic (Value φ))}
    (stopped : operator.fold arithmetic overflow accumulated rest = .error .divisionByZero) :
    .error .divisionByZero ∈ rest ∨ operator = .divide ∧ (∃ word, accumulated = .integer word) ∧
      ∃ word third more, rest = .ok (.integer word) :: third :: more := by
  induction rest generalizing accumulated with
  | nil => cases stopped
  | cons operand rest ih =>
    cases operand with
    | error panic =>
      have same : Except.error panic = (.error .divisionByZero : Except Panic (Value φ)) := stopped
      cases same
      exact .inl List.mem_cons_self
    | ok given =>
      rw [fold_cons_ok] at stopped
      cases ran : operator.step arithmetic overflow (operator = .divide && rest.isEmpty) accumulated
          given with
      | error panic =>
        rw [ran] at stopped
        cases stopped
        obtain ⟨rfl, early, words, ⟨word, rfl⟩⟩ := step_eq_divisionByZero ran
        cases rest with
        | nil => cases early
        | cons third more => exact .inr ⟨rfl, words, word, third, more, rfl⟩
      | ok result =>
        rw [ran] at stopped
        rcases ih stopped with later | ⟨rfl, ⟨word, rfl⟩, next, third, more, rfl⟩
        · exact .inl (List.mem_cons_of_mem _ later)
        · -- what has become a fraction is not divided as a word
          obtain ⟨-, words, ⟨word, rfl⟩⟩ := step_eq_integer ran
          exact .inr ⟨rfl, words, word, _, _, rfl⟩

theorem evaluate_eq_divisionByZero {outcomes : List (Except Panic (Value φ))}
    (stopped : operator.evaluate arithmetic overflow outcomes = .error .divisionByZero) :
    .error .divisionByZero ∈ outcomes ∨ operator = .divide ∧ ∃ left right third more,
      outcomes = .ok (.integer left) :: .ok (.integer right) :: third :: more := by
  cases outcomes with
  | nil => cases stopped
  | cons first rest =>
    cases first with
    | error panic =>
      have same : Except.error panic = (.error .divisionByZero : Except Panic (Value φ)) := stopped
      cases same
      exact .inl List.mem_cons_self
    | ok given =>
      rcases fold_eq_divisionByZero stopped with later | ⟨rfl, ⟨left, rfl⟩, right, third, more, rfl⟩
      · exact .inl (List.mem_cons_of_mem _ later)
      · exact .inr ⟨rfl, left, right, third, more, rfl⟩

end Operator

/-! ## Zeros -/

/-- A computation on zeros: a word that it comes to is zero, and only a division by zero stops it. -/
structure Idle {φ : Type} (outcome : Except Panic (Value φ)) : Prop where
  word : ∀ word, outcome = .ok (.integer word) → word = 0
  panic : ∀ panic, outcome = .error panic → panic = .divisionByZero

namespace Idle

variable {φ : Type} {arithmetic : FractionArithmetic φ} {overflow : Overflow} {operator : Operator}

theorem zero : Idle (.ok (.integer 0) : Except Panic (Value φ)) := by
  refine ⟨?_, nofun⟩
  intro word same
  cases same
  rfl

theorem fraction (number : φ) : Idle (.ok (.fraction number)) := ⟨nofun, nofun⟩

theorem stopped : Idle (.error .divisionByZero : Except Panic (Value φ)) := by
  refine ⟨nofun, ?_⟩
  intro panic same
  cases same
  rfl

theorem step {left right : Value φ} (idle : Idle (.ok left)) (idle' : Idle (.ok right))
    (widened : Bool) : Idle (operator.step arithmetic overflow widened left right) := by
  cases left with
  | fraction number => cases right <;> exact fraction _
  | integer left =>
    cases right with
    | fraction number => exact fraction _
    | integer right =>
      cases idle.word left rfl
      cases idle'.word right rfl
      cases widened with
      | true => exact fraction _
      | false =>
        cases operator with
        | divide => exact stopped
        | add | subtract => cases overflow <;> exact zero

theorem fold {accumulated : Value φ} {rest : List (Except Panic (Value φ))}
    (idle : Idle (.ok accumulated)) (operands : ∀ operand ∈ rest, Idle operand) :
    Idle (operator.fold arithmetic overflow accumulated rest) := by
  induction rest generalizing accumulated with
  | nil => exact idle
  | cons operand rest ih =>
    have first := operands operand List.mem_cons_self
    cases operand with
    | error panic => exact ⟨nofun, fun _ same => first.panic _ same⟩
    | ok given =>
      have next : Idle (operator.step arithmetic overflow (operator = .divide && rest.isEmpty)
          accumulated given) := idle.step first _
      rw [Operator.fold_cons_ok]
      cases ran : operator.step arithmetic overflow (operator = .divide && rest.isEmpty) accumulated
          given with
      | error panic =>
        rw [ran] at next
        exact ⟨nofun, fun _ same => next.panic _ same⟩
      | ok result =>
        rw [ran] at next
        exact ih next fun later here => operands later (List.mem_cons_of_mem _ here)

theorem evaluate {outcomes : List (Except Panic (Value φ))}
    (operands : ∀ operand ∈ outcomes, Idle operand) :
    Idle (operator.evaluate arithmetic overflow outcomes) := by
  cases outcomes with
  | nil => exact zero
  | cons first rest =>
    have begun := operands first List.mem_cons_self
    cases first with
    | error panic => exact ⟨nofun, fun _ same => begun.panic _ same⟩
    | ok given => exact begun.fold fun later here => operands later (List.mem_cons_of_mem _ here)

/-- A quotient of zeros that begins with two words and goes on stops there. -/
theorem divide_words {first second third : Except Panic (Value φ)}
    {more : List (Except Panic (Value φ))} (idle : Idle first) (idle' : Idle second)
    (words : Typed .integer first) (words' : Typed .integer second) :
    Operator.divide.evaluate arithmetic overflow (first :: second :: third :: more) =
      .error .divisionByZero := by
  have zeros : ∀ outcome : Except Panic (Value φ), Idle outcome → Typed .integer outcome →
      outcome = .error .divisionByZero ∨ outcome = .ok (.integer 0) := by
    intro outcome idle words
    cases outcome with
    | error panic => exact .inl (by rw [idle.panic panic rfl])
    | ok value =>
      cases value with
      | integer word => exact .inr (by rw [idle.word word rfl])
      | fraction number => cases words _ rfl
  rcases zeros first idle words with rfl | rfl
  · rfl
  · rcases zeros second idle' words' with rfl | rfl <;> rfl

end Idle

/-! ## Compounds -/

/-- A quotient of more than two metrics of which the first two are words. -/
structure CompiledSchema.DividesWords (compiled : CompiledSchema) (compound : CompoundMetric) :
    Prop where
  divides : compound.operator = .divide
  words : ∃ first second third rest, compound.operands = first :: second :: third :: rest ∧
    compiled.valueType? first = some .integer ∧ compiled.valueType? second = some .integer

namespace CompiledSchema

variable {schema : Schema} {compiled : CompiledSchema}

theorem typed_of_compile (compiles : compile schema = .ok compiled) (overflow : Overflow)
    (base : BaseEntry → UInt64) {metric : String} {entry : Entry}
    (found : compiled.find? metric = some entry) :
    Typed entry.valueType ((compiled.outcomes overflow base).of metric) := by
  obtain ⟨wellFormed, represents⟩ := of_compile compiles
  exact represents.typed wellFormed (fun compound here => exists_expression compiles here) overflow
    base metric entry found

/-- A metric that comes to a word is typed as one. -/
theorem valueType?_of_integer (compiles : compile schema = .ok compiled) {overflow : Overflow}
    {base : BaseEntry → UInt64} {metric : String} (declared : metric ∈ schema.names) {word : UInt64}
    (computed : (compiled.outcomes overflow base).of metric = .ok (.integer word)) :
    compiled.valueType? metric = some .integer := by
  obtain ⟨entry, found⟩ := (of_compile compiles).2.exists_entry declared
  have typed := typed_of_compile compiles overflow base found _ computed
  rw [valueType?, found, Option.map_some, ← typed]
  rfl

/-- An accepted schema in which some metric divides words by zero has a quotient that divides words. -/
theorem divisionByZero_of_outcome (compiles : compile schema = .ok compiled) {overflow : Overflow}
    {base : BaseEntry → UInt64} (metric : String) : metric ∈ schema.names →
    (compiled.outcomes overflow base).of metric = .error .divisionByZero →
    ∃ compound ∈ schema.compounds, compiled.DividesWords compound := by
  obtain ⟨wellFormed, represents⟩ := of_compile compiles
  have sound : OperandsSound schema.names schema.compounds := wellFormed .operands
  have settled := represents.settled wellFormed overflow base
  -- a division by zero is passed on from operands until it comes to the quotient
  induction metric using (represents.wellFounded wellFormed).induction with
  | _ metric ih =>
    intro declared stopped
    obtain ⟨entry, found⟩ := represents.exists_entry declared
    obtain ⟨rfl, ⟨stored, here, rfl⟩ | ⟨compound, here, rfl⟩⟩ := find?_eq_some found
    · rw [Entry.name, settled.base stored here] at stopped
      cases stopped
    · have known := (sound _ (represents.mem_compounds here)).2
      rw [Entry.name, settled.compounds compound (represents.evaluation.mem_iff.2 here)] at stopped
      rcases Operator.evaluate_eq_divisionByZero stopped with
        passed | ⟨divides, left, right, third, more, whole⟩
      · obtain ⟨operand, taken, stopped⟩ := List.mem_map.1 passed
        exact ih operand (represents.uses here taken) (known operand taken) stopped
      · obtain ⟨first, tail, operands, left, rest⟩ := List.map_eq_cons_iff.1 whole
        obtain ⟨second, tail', rfl, right, rest⟩ := List.map_eq_cons_iff.1 rest
        obtain ⟨last, tail'', rfl, -, -⟩ := List.map_eq_cons_iff.1 rest
        have taken : ∀ operand ∈ [first, second], operand ∈ compound.operands := by
          rw [operands]
          simp
        refine ⟨compound.metric, represents.mem_compounds here, divides, first, second, last, tail'',
          operands, ?_, ?_⟩
        · exact valueType?_of_integer compiles (known _ (taken first (by simp))) left
        · exact valueType?_of_integer compiles (known _ (taken second (by simp))) right

/-- On zeros every metric comes to zero, to a fraction or to a division by zero. -/
theorem idle_of_zeros (compiles : compile schema = .ok compiled) (overflow : Overflow)
    (metric : String) : metric ∈ schema.names →
    Idle ((compiled.outcomes overflow fun _ => 0).of metric) := by
  obtain ⟨wellFormed, represents⟩ := of_compile compiles
  have sound : OperandsSound schema.names schema.compounds := wellFormed .operands
  have settled := represents.settled wellFormed overflow fun _ => 0
  induction metric using (represents.wellFounded wellFormed).induction with
  | _ metric ih =>
    intro declared
    obtain ⟨entry, found⟩ := represents.exists_entry declared
    obtain ⟨rfl, ⟨stored, here, rfl⟩ | ⟨compound, here, rfl⟩⟩ := find?_eq_some found
    · rw [Entry.name, settled.base stored here]
      exact .zero
    · have known := (sound _ (represents.mem_compounds here)).2
      rw [Entry.name, settled.compounds compound (represents.evaluation.mem_iff.2 here)]
      refine .evaluate fun outcome among => ?_
      obtain ⟨operand, taken, rfl⟩ := List.mem_map.1 among
      exact ih operand (represents.uses here taken) (known operand taken)

/-- On zeros a quotient that divides words divides by zero. -/
theorem outcome_of_dividesWords (compiles : compile schema = .ok compiled) (overflow : Overflow)
    {compound : CompoundMetric} (here : compound ∈ schema.compounds)
    (divides : compiled.DividesWords compound) :
    (compiled.outcomes overflow fun _ => 0).of compound.name = .error .divisionByZero := by
  obtain ⟨wellFormed, represents⟩ := of_compile compiles
  have sound : OperandsSound schema.names schema.compounds := wellFormed .operands
  have settled := represents.settled wellFormed overflow fun _ => 0
  obtain ⟨entry, there, rfl⟩ := List.mem_map.1 (represents.derivation.mem_iff.2 here)
  obtain ⟨divide, first, second, third, rest, operands, whole, whole'⟩ := divides
  have taken : ∀ operand ∈ [first, second], operand ∈ schema.names := by
    intro operand among
    refine (sound _ here).2 operand ?_
    rw [operands]
    exact List.mem_append_left _ among
  have typed : ∀ operand, compiled.valueType? operand = some .integer →
      Typed .integer ((compiled.outcomes overflow fun _ => 0).of operand) := by
    intro operand whole
    obtain ⟨entry, found, same⟩ := Option.map_eq_some_iff.1 whole
    rw [← same]
    exact typed_of_compile compiles overflow _ found
  have equation := settled.compounds entry (represents.evaluation.mem_iff.2 there)
  have divide : entry.operator = .divide := divide
  have operands : entry.operands = first :: second :: third :: rest := operands
  show (compiled.outcomes overflow fun _ => 0).of entry.name = _
  rw [equation, CompoundEntry.outcome, divide, operands, List.map_cons, List.map_cons, List.map_cons]
  exact Idle.divide_words (idle_of_zeros compiles overflow first (taken first (by simp)))
    (idle_of_zeros compiles overflow second (taken second (by simp))) (typed first whole)
    (typed second whole')

end CompiledSchema

end StatSchema
