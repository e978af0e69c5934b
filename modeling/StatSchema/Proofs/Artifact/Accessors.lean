/-
What accessors answer, read from their tokens. The accessor of a field answers a word of a record, one
that reduces a field answers a word for all records of a ledger, and one whose body is an expression
answers what the accessors that it calls lead to. Main statement: on a record and on an aggregator
alike, the accessor of each metric answers the outcome of the metric and nothing else.
-/
import StatSchema.Proofs.Artifact.Wiring
import StatSchema.Proofs.Expression.Reading
import StatSchema.Proofs.Session.Aggregation
import StatSchema.Report.Lines

namespace StatSchema

open Token

/-- What an accessor is called on. -/
inductive Receiver where
  | record (words : Words)
  | aggregator (ledger : Ledger Words)

/-- A field of all records of a ledger. -/
def Ledger.values? (ledger : Ledger Words) (field : String) : Option (List UInt64) :=
  ledger.entries.mapM fun words => words.lookup field

/-- The reduction that a method of ledgers carries out. -/
def Reduction.ofMethod? : String → Option Reduction
  | "total" => some .total
  | "max" => some .max
  | _ => none

namespace Artifact

/-- The number type that a result is of. -/
def numberType? (result : List Token) : Option ValueType :=
  [ValueType.integer, .fraction].find? fun type => resultOf type = result

/-- The field that an accessor answers. -/
def field? (artifact : Artifact) (type accessor : String) : Option String := do
  match (← artifact.method? type accessor).body with
  | [.identifier "self", .punctuation '.' .alone, .identifier field] => some field
  | _ => none

/-- The word that a body without operators comes to: a field of the record, or a field of all records
of the ledger, reduced to one. -/
def word? (artifact : Artifact) : Receiver → List Token → Option UInt64
  | .record words, [.identifier "self", .punctuation '.' .alone, .identifier field] =>
    words.lookup field
  | .aggregator ledger, [.identifier "self", .punctuation '.' .alone, .identifier "ledger",
      .punctuation '.' .alone, .identifier method, .opening .parenthesis, .identifier type,
      .punctuation ':' .joint, .punctuation ':' .alone, .identifier accessor,
      .closing .parenthesis] => do
    let field ← artifact.field? type accessor
    let values ← ledger.values? field
    return (Ledger.mk values).reduce (← Reduction.ofMethod? method) id
  | _, _ => none

/-- What an accessor of a type answers, or why it stops. An expression has to be well-typed, of the
types of the accessors that it calls. -/
inductive Answers (artifact : Artifact) (overflow : Overflow) (type : String)
    (receiver : Receiver) : String → Outcome → Prop
  | word {accessor : String} {routine : Routine} {word : UInt64} :
      artifact.method? type accessor = some routine →
      numberType? routine.result = some .integer →
      artifact.word? receiver routine.body = some word →
      Answers artifact overflow type receiver accessor (.ok (.integer word))
  | computed {accessor : String} {routine : Routine} {tree : Expression String}
      {valueType : String → ValueType} {value : String → Outcome} :
      artifact.method? type accessor = some routine →
      Expression.read? [] {} none routine.body = some tree →
      (∀ called ∈ tree.calls, ∃ other, artifact.method? type called = some other ∧
        numberType? other.result = some (valueType called)) →
      (∃ valueType', tree.type? valueType = some valueType' ∧
        numberType? routine.result = some valueType') →
      (∀ called ∈ tree.calls, Answers artifact overflow type receiver called (value called)) →
      Answers artifact overflow type receiver accessor (tree.evaluate .doubles overflow value)

theorem read?_of_word? {artifact : Artifact} {receiver : Receiver} {body : List Token}
    {word : UInt64} (answered : artifact.word? receiver body = some word) :
    Expression.read? [] {} none body = none := by
  unfold word? at answered
  split at answered
  · rfl
  · rfl
  · cases answered

/-- An accessor answers one thing. -/
theorem Answers.unique {artifact : Artifact} {overflow : Overflow} {type : String}
    {receiver : Receiver} {accessor : String} {outcome other : Outcome}
    (answers : artifact.Answers overflow type receiver accessor outcome)
    (answers' : artifact.Answers overflow type receiver accessor other) : other = outcome := by
  induction answers generalizing other with
  | word found _ answered =>
    cases answers' with
    | word found' _ answered' =>
      rw [found] at found'
      cases found'
      rw [answered] at answered'
      cases answered'
      rfl
    | computed found' read =>
      -- a body that comes to a word does not read as an expression
      rw [found] at found'
      cases found'
      rw [read?_of_word? answered] at read
      cases read
  | computed found read _ _ _ ih =>
    cases answers' with
    | word found' _ answered' =>
      rw [found] at found'
      cases found'
      rw [read?_of_word? answered'] at read
      cases read
    | computed found' read' _ _ called =>
      rw [found] at found'
      cases found'
      rw [read] at read'
      cases read'
      exact Expression.evaluate_congr _ _ fun metric here => ih metric here (called metric here)

theorem exists_value {artifact : Artifact} {overflow : Overflow} {type : String}
    {receiver : Receiver} {called : List String}
    (answers : ∀ accessor ∈ called, ∃ outcome,
      artifact.Answers overflow type receiver accessor outcome) :
    ∃ value : String → Outcome, ∀ accessor ∈ called,
      artifact.Answers overflow type receiver accessor (value accessor) := by
  have everywhere : ∀ accessor, ∃ outcome, accessor ∈ called →
      artifact.Answers overflow type receiver accessor outcome := by
    intro accessor
    by_cases here : accessor ∈ called
    · obtain ⟨outcome, answer⟩ := answers accessor here
      exact ⟨outcome, fun _ => answer⟩
    · exact ⟨.ok (.integer 0), fun there => absurd there here⟩
  choose value answer using everywhere
  exact ⟨value, answer⟩

theorem numberType?_resultOf (type : ValueType) : numberType? (resultOf type) = some type := by
  cases type <;> decide

/-- The accessor of an expression whose references are spelled as accessors. -/
theorem computes {ρ : Type} {artifact : Artifact} {overflow : Overflow} {type : String}
    {receiver : Receiver} {accessor : String} {routine : Routine} {tree : Expression ρ}
    {identifier : ρ → String} {valueType : ρ → ValueType} {value : ρ → Outcome}
    {resultType : ValueType} {outcome : Outcome}
    (method : artifact.method? type accessor = some routine)
    (result : numberType? routine.result = some resultType)
    (read : Expression.read? [] {} none routine.body = some (tree.map identifier))
    (typed : ∀ called ∈ tree.calls, ∃ other,
      artifact.method? type (identifier called) = some other ∧
        numberType? other.result = some (valueType called))
    (answers : ∀ called ∈ tree.calls,
      artifact.Answers overflow type receiver (identifier called) (value called))
    (checked : tree.type? valueType = some resultType)
    (same : tree.evaluate .doubles overflow value = outcome) :
    artifact.Answers overflow type receiver accessor outcome := by
  have spelled : ∀ other ∈ (tree.map identifier).calls,
      ∃ called ∈ tree.calls, identifier called = other := by
    intro other here
    rw [Expression.calls_map] at here
    exact List.mem_map.1 here
  obtain ⟨value', gives⟩ := exists_value fun other here => by
    obtain ⟨called, there, rfl⟩ := spelled other here
    exact ⟨_, answers called there⟩
  let valueType' := fun accessor =>
    ((artifact.method? type accessor).bind fun other => numberType? other.result).getD .integer
  have types : ∀ called ∈ tree.calls, valueType' (identifier called) = valueType called := by
    intro called there
    obtain ⟨other, found, number⟩ := typed called there
    show (Option.bind _ _).getD _ = _
    rw [found, Option.bind_some, number]
    rfl
  have values : ∀ called ∈ tree.calls, value' (identifier called) = value called := by
    intro called there
    refine (answers called there).unique (gives _ ?_)
    rw [Expression.calls_map]
    exact List.mem_map_of_mem there
  have typed' : ∀ other ∈ (tree.map identifier).calls, ∃ routine,
      artifact.method? type other = some routine ∧
        numberType? routine.result = some (valueType' other) := by
    intro other here
    obtain ⟨called, there, rfl⟩ := spelled other here
    rw [types called there]
    exact typed called there
  rw [← same, ← Expression.evaluate_map .doubles overflow identifier values]
  refine .computed method read typed' ⟨resultType, ?_, result⟩ gives
  rw [Expression.type?_map identifier types]
  exact checked

/-! ## Outcomes -/

/-- A type whose accessors are those of a compiled schema, on a receiver that gives words for the
base metrics. -/
structure Wired (artifact : Artifact) (compiled : CompiledSchema) (type : String)
    (receiver : Receiver) (base : BaseEntry → UInt64) : Prop where
  words : ∀ entry ∈ compiled.storage, ∃ routine,
    artifact.method? type entry.identifier = some routine ∧
      numberType? routine.result = some .integer ∧
      artifact.word? receiver routine.body = some (base entry)
  expressions : ∀ entry ∈ compiled.derivation, ∃ routine tree,
    artifact.method? type entry.identifier = some routine ∧
      numberType? routine.result = some entry.valueType ∧
      compiled.expression entry = .ok tree ∧ routine.body = tree.tokens Entry.identifier

namespace Wired

variable {artifact : Artifact} {compiled : CompiledSchema} {type : String} {receiver : Receiver}
  {base : BaseEntry → UInt64} (wired : artifact.Wired compiled type receiver base)

include wired

theorem expressed : compiled.Expressed := by
  intro entry here
  obtain ⟨routine, tree, -, -, made, -⟩ := wired.expressions entry here
  exact ⟨tree, made⟩

theorem typed {metric : String} {entry : Entry} (found : compiled.find? metric = some entry) :
    ∃ routine, artifact.method? type entry.identifier = some routine ∧
      numberType? routine.result = some entry.valueType := by
  obtain ⟨-, ⟨stored, here, rfl⟩ | ⟨compound, here, rfl⟩⟩ := CompiledSchema.find?_eq_some found
  · obtain ⟨routine, method, result, -⟩ := wired.words stored here
    exact ⟨routine, method, result⟩
  · obtain ⟨routine, tree, method, result, -⟩ := wired.expressions compound here
    exact ⟨routine, method, result⟩

/-- The accessor of a metric answers the outcome of the metric. -/
theorem answers {schema : Schema} (represents : compiled.Represents schema)
    (wellFormed : schema.WellFormed) (overflow : Overflow) (metric : String) :
    ∀ entry, compiled.find? metric = some entry →
      artifact.Answers overflow type receiver entry.identifier
        ((compiled.outcomes overflow base).of metric) := by
  have settled := represents.settled wellFormed overflow base
  have typed := represents.typed wellFormed wired.expressed overflow base
  -- an accessor calls those of operands only
  induction metric using (represents.wellFounded wellFormed).induction with
  | _ metric ih =>
    intro entry found
    obtain ⟨rfl, ⟨stored, here, rfl⟩ | ⟨compound, here, rfl⟩⟩ :=
      CompiledSchema.find?_eq_some found
    · obtain ⟨routine, method, result, answered⟩ := wired.words stored here
      rw [Entry.name, settled.base stored here]
      exact .word method result answered
    · obtain ⟨routine, tree, method, result, made, body⟩ := wired.expressions compound here
      obtain ⟨operands, resolved, applied⟩ := CompiledSchema.expression_eq_ok made
      obtain ⟨checked, same, -⟩ := settled.evaluate (represents.evaluation.mem_iff.2 here) made
        fun operand _ => typed operand
      have found : ∀ operand ∈ tree.calls, ∃ name ∈ compound.operands,
          compiled.find? name = some operand := by
        rw [Expression.calls_ofOperands? applied]
        exact exists_mem_of_forall₂ (CompiledSchema.entries_eq_ok resolved)
      have answered : ∀ operand ∈ tree.calls,
          artifact.Answers overflow type receiver operand.identifier
            ((compiled.outcomes overflow base).of operand.name) := by
        intro operand called
        obtain ⟨name, taken, found⟩ := found operand called
        rw [(CompiledSchema.find?_eq_some found).1]
        exact ih name (represents.uses here taken) operand found
      have typed : ∀ operand ∈ tree.calls, ∃ routine,
          artifact.method? type operand.identifier = some routine ∧
            numberType? routine.result = some operand.valueType := by
        intro operand called
        obtain ⟨name, -, found⟩ := found operand called
        exact wired.typed found
      have legible := Expression.legible_ofOperands? applied
      exact computes method result (body ▸ Expression.read?_legible _ legible) typed answered
        checked same

end Wired

/-! ## Generated accessors -/

variable {artifact : Artifact} {compiled : CompiledSchema} {names : TypeNames} {runtime : Path}

theorem compoundAccessor_eq_ok {documentation : String → String} {entry : CompoundEntry}
    {routine : Routine} (h : compoundAccessor compiled documentation entry = .ok routine) :
    ∃ tree, compiled.expression entry = .ok tree ∧ routine.name = entry.identifier ∧
      routine.result = resultOf entry.valueType ∧ routine.body = tree.tokens Entry.identifier := by
  obtain ⟨tree, made, same⟩ := bind_eq_ok.1 h
  cases same
  exact ⟨tree, made, rfl, rfl, rfl⟩

/-- Accessors of compounds that are methods of a type are wired to the expressions. -/
theorem expressions_of_mem {type : String} (distinct : (artifact.methodNames type).Nodup)
    {documentation : String → String} {accessors : List Routine}
    (derived : compiled.derivation.mapM (compoundAccessor compiled documentation) = .ok accessors)
    (methods : accessors ⊆ artifact.methodsOf type) :
    ∀ entry ∈ compiled.derivation, ∃ routine tree,
      artifact.method? type entry.identifier = some routine ∧
        numberType? routine.result = some entry.valueType ∧
        compiled.expression entry = .ok tree ∧ routine.body = tree.tokens Entry.identifier := by
  intro entry here
  obtain ⟨routine, there, given⟩ := exists_mem_of_forall₂ (forall₂_of_mapM derived).flip entry here
  obtain ⟨tree, made, named, result, body⟩ := compoundAccessor_eq_ok given
  refine ⟨routine, tree, ?_, ?_, made, body⟩
  · rw [← named]
    exact method?_of_mem distinct (methods there)
  · rw [result]
    exact numberType?_resultOf _

/-- The values of a metric under the identifier of its field. -/
theorem values?_words (fields : (compiled.storage.map (·.identifier)).Nodup) {entry : BaseEntry}
    (here : entry ∈ compiled.storage) (records : List Record) :
    Ledger.values? ⟨records.map compiled.words⟩ entry.identifier =
      some (records.map fun record => record.get entry.name) := by
  unfold Ledger.values?
  induction records with
  | nil => rfl
  | cons record rest ih =>
    have first : (compiled.words record).lookup entry.identifier =
        some (record.get entry.name) := lookup_map_key fields here
    rw [List.map_cons, List.mapM_cons, first, ih]
    rfl

section Generated

variable (represents : artifact.Represents compiled names runtime)
  (distinct : artifact.MembersDistinct names)

include represents distinct

theorem method?_fieldAccessor {entry : BaseEntry} (here : entry ∈ compiled.storage) :
    artifact.method? names.record entry.identifier = some (fieldAccessor entry) := by
  obtain ⟨accessors, -, methods⟩ := represents.record
  have found : fieldAccessor entry ∈ artifact.methodsOf names.record := by
    rw [methods]
    simp only [List.mem_append, List.mem_cons]
    exact .inl (.inl (.inl (.inr (List.mem_map_of_mem here))))
  exact method?_of_mem distinct.record found

theorem method?_reducedAccessor {entry : BaseEntry} (here : entry ∈ compiled.storage) :
    artifact.method? names.aggregator entry.identifier = some (reducedAccessor names entry) := by
  obtain ⟨accessors, lines, -, methods⟩ := represents.aggregator
  have found : reducedAccessor names entry ∈ artifact.methodsOf names.aggregator := by
    rw [methods]
    simp only [List.mem_append, List.mem_cons]
    exact .inl (.inl (.inr (List.mem_map_of_mem here)))
  exact method?_of_mem distinct.aggregator found

/-- The accessors of a record. -/
theorem wired_record (record : Record) :
    artifact.Wired compiled names.record (.record (compiled.words record))
      fun entry => record.get entry.name := by
  have fields : (compiled.storage.map (·.identifier)).Nodup := represents.fields ▸ distinct.fields
  refine ⟨fun entry here => ?_, ?_⟩
  · exact ⟨_, method?_fieldAccessor represents distinct here, numberType?_resultOf .integer,
      lookup_map_key fields here⟩
  · obtain ⟨accessors, derived, methods⟩ := represents.record
    refine expressions_of_mem distinct.record derived ?_
    rw [methods]
    exact fun _ there => List.mem_append_left _ (List.mem_append_right _ there)

/-- A reducing accessor reduces the field of its metric. -/
theorem word?_reducedAccessor {entry : BaseEntry} (here : entry ∈ compiled.storage)
    (ledger : Ledger Record) :
    artifact.word? (.aggregator ⟨ledger.entries.map compiled.words⟩)
        (reducedAccessor names entry).body =
      some (ledger.reduce entry.kind.reduction fun record => record.get entry.name) := by
  have fields : (compiled.storage.map (·.identifier)).Nodup := represents.fields ▸ distinct.fields
  have field : artifact.field? names.record entry.identifier = some entry.identifier := by
    rw [field?, method?_fieldAccessor represents distinct here]
    rfl
  have values := values?_words fields here ledger.entries
  have method : Reduction.ofMethod? (reductionMethod entry.kind.reduction) =
      some entry.kind.reduction := by
    cases entry.kind <;> rfl
  have reads : artifact.word? (.aggregator ⟨ledger.entries.map compiled.words⟩)
        (reducedAccessor names entry).body =
      (artifact.field? names.record entry.identifier).bind fun field =>
        (Ledger.values? ⟨ledger.entries.map compiled.words⟩ field).bind fun values =>
          (Reduction.ofMethod? (reductionMethod entry.kind.reduction)).bind fun reduction =>
            some ((Ledger.mk values).reduce reduction id) := rfl
  rw [reads, field, Option.bind_some, values, Option.bind_some, method, Option.bind_some,
    Ledger.reduce_eq_gather, Ledger.reduce_eq_gather, List.map_id]

/-- The accessors of an aggregator. -/
theorem wired_aggregator (ledger : Ledger Record) :
    artifact.Wired compiled names.aggregator (.aggregator ⟨ledger.entries.map compiled.words⟩)
      fun entry => ledger.reduce entry.kind.reduction fun record => record.get entry.name := by
  refine ⟨fun entry here => ?_, ?_⟩
  · exact ⟨_, method?_reducedAccessor represents distinct here, numberType?_resultOf .integer,
      word?_reducedAccessor represents distinct here ledger⟩
  · obtain ⟨accessors, lines, derived, methods⟩ := represents.aggregator
    refine expressions_of_mem distinct.aggregator derived ?_
    rw [methods]
    exact fun _ there => List.mem_append_left _ (List.mem_append_right _ there)

end Generated

end Artifact

end StatSchema
