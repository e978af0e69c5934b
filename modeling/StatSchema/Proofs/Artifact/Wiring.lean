/-
How generated members are wired together. Where no two members of a type share an identifier, each
name that generated code calls is the method meant, each mutator changes the word of its own metric
and no other, and a hook run token by token does to a record and to a ledger what the hook does to
the session.
-/
import StatSchema.Proofs.Artifact.Execution
import StatSchema.Proofs.Artifact.Identifiers
import StatSchema.Proofs.Session.Attribution

namespace StatSchema

open Token

/-! ## Words -/

namespace CompiledSchema

/-- The words of a record under the identifiers of the fields. -/
def words (compiled : CompiledSchema) (record : Record) : Words :=
  compiled.storage.map fun entry => (entry.identifier, record.get entry.name)

end CompiledSchema

theorem CompiledSchema.words_mutate {compiled : CompiledSchema} {record : Record}
    (fits : record.Fits compiled) (distinct : (compiled.storage.map (·.identifier)).Nodup)
    (names : (compiled.storage.map (·.name)).Nodup) {entry : BaseEntry}
    (here : entry ∈ compiled.storage) (amount : UInt64) :
    compiled.words (record.mutate entry amount 1) =
      (compiled.words record).store entry.identifier
        (entry.kind.accumulate (record.get entry.name) amount) := by
  unfold words Words.store
  rw [List.map_map]
  refine List.map_congr_left fun other there => ?_
  simp only [Function.comp_apply, Prod.mk.injEq, true_and]
  by_cases same : other = entry
  · subst same
    rw [if_pos rfl]
    refine record.get_modify_self _ ?_
    rw [fits]
    exact List.mem_map_of_mem here
  · have apart : other.identifier ≠ entry.identifier := fun h =>
      same (List.inj_on_of_nodup_map distinct there here h)
    rw [if_neg apart]
    refine record.get_modify_of_ne _ fun h => ?_
    exact same (List.inj_on_of_nodup_map names there here h)

/-! ## Methods -/

namespace Artifact

variable {artifact : Artifact} {compiled : CompiledSchema} {names : TypeNames} {runtime : Path}

/-- A name means the method that has it, where no two methods share a name. -/
theorem method?_of_mem {type : String} (distinct : (artifact.methodNames type).Nodup)
    {routine : Routine} (here : routine ∈ artifact.methodsOf type) :
    artifact.method? type routine.name = some routine := by
  unfold method?
  rw [filter_key_eq_singleton distinct here]

section Resolved

variable (represents : artifact.Represents compiled names runtime)
  (distinct : artifact.MembersDistinct names)

include represents distinct

theorem method?_record {routine : Routine}
    (here : routine ∈ newRecord compiled :: compiled.storage.map (mutator runtime) ++
      [withCurrent names, takeCurrent names]) :
    artifact.method? names.record routine.name = some routine := by
  obtain ⟨accessors, -, methods⟩ := represents.record
  refine method?_of_mem distinct.record ?_
  rw [methods]
  simp only [List.mem_append, List.mem_cons] at here ⊢
  tauto

theorem method?_aggregator {routine : Routine} (here : routine ∈ ledgerMethods names) :
    artifact.method? names.aggregator routine.name = some routine := by
  obtain ⟨accessors, lines, -, methods⟩ := represents.aggregator
  refine method?_of_mem distinct.aggregator ?_
  rw [methods]
  simp only [List.mem_append, List.mem_cons]
  tauto

theorem method?_mutator {entry : BaseEntry} (here : entry ∈ compiled.storage) :
    artifact.method? names.record entry.mutator = some (mutator runtime entry) := by
  have found := method?_record represents distinct
    (List.mem_append_left _ (List.mem_cons_of_mem _ (List.mem_map_of_mem here)))
  rwa [name_mutator] at found

/-- The live record is lent from the cell. -/
theorem lend_eq {memory : Memory} (cell : memory.cell = names.threadLocal)
    (body : Words → Option Words) :
    artifact.lend names.record memory body =
      (body memory.current).map fun words => { memory with current := words } := by
  have found : artifact.method? names.record "with_current" = some (withCurrent names) :=
    method?_record represents distinct (List.mem_append_right _ List.mem_cons_self)
  have lends : artifact.lend names.record memory body =
      if names.threadLocal = memory.cell then
        (body memory.current).map fun words => { memory with current := words }
      else none := by
    rw [lend, found]
    cases body memory.current <;> rfl
  rw [lends, if_pos cell.symm]

theorem take_eq {memory : Memory} (cell : memory.cell = names.threadLocal) :
    artifact.take names.record memory =
      some (memory.current, { memory with current := memory.current.zeroed }) := by
  have found : artifact.method? names.record "take_current" = some (takeCurrent names) :=
    method?_record represents distinct
      (List.mem_append_right _ (List.mem_cons_of_mem _ List.mem_cons_self))
  have takes : artifact.take names.record memory =
      if names.threadLocal = memory.cell then
        some (memory.current, { memory with current := memory.current.zeroed })
      else none := by
    rw [take, found]
    rfl
  rw [takes, if_pos cell.symm]

theorem publish_eq (memory : Memory) (words : Words) :
    artifact.publish names.aggregator memory words =
      some { memory with ledger := memory.ledger.publish words } := by
  have found := method?_aggregator represents distinct List.mem_cons_self
  rw [publish, found]
  rfl

theorem clear_eq (memory : Memory) :
    artifact.clear names.aggregator memory =
      some { memory with ledger := memory.ledger.clear } := by
  have found := method?_aggregator represents distinct
    (List.mem_cons_of_mem _ List.mem_cons_self)
  rw [clear, found]
  rfl

end Resolved

/-! ## Mutators -/

/-- The argument that the mutator of a metric takes. -/
def argument? (kind : MetricKind) (amount : UInt64) : Option UInt64 :=
  match kind with
  | .counter => none
  | .max => some amount
  | .sum => some amount

/-- A mutator that takes an argument converts it before it stores. -/
theorem change_converting {routine : Routine} {argument : String} {update : List Token}
    (parameters : routine.parameters =
      code "& mut self ," ++ name argument ++ code ":" ++ amountType runtime)
    (body : routine.body = code "let" ++ name argument ++ code "=" ++ asWord runtime argument ++
      code ";" ++ update)
    (amount : UInt64) (words : Words) :
    change runtime routine (some amount) words =
      assign (some (argument, amount)) words update := by
  obtain ⟨attributes, qualifiers, method, generics, given, result, statements⟩ := routine
  dsimp only at parameters body
  subst parameters body
  have runs : change runtime ⟨attributes, qualifiers, method, generics,
      code "& mut self ," ++ name argument ++ code ":" ++ amountType runtime, result,
      code "let" ++ name argument ++ code "=" ++ asWord runtime argument ++ code ";" ++ update⟩
      (some amount) words =
      if amountType runtime = amountType runtime then
        ((code "let" ++ name argument ++ code "=" ++ asWord runtime argument ++ code ";" ++
          update).dropPrefix? (code "let" ++ name argument ++ code "=" ++
            asWord runtime argument ++ code ";")).bind (assign (some (argument, amount)) words)
      else none := rfl
  rw [runs, if_pos rfl, List.dropPrefix?_append_of_beq _ (beq_self_eq_true _)]
  rfl

theorem max_eq_ite (word amount : UInt64) :
    max word amount = if word < amount then amount else word := by
  show (if word ≤ amount then amount else word) = _
  by_cases less : word < amount
  · rw [if_pos less, if_pos (UInt64.le_of_lt less)]
  · rw [if_neg less]
    split
    · rename_i upper
      rcases UInt64.lt_or_eq_of_le upper with less' | same
      · exact absurd less' less
      · exact same.symm
    · rfl

/-- The mutator of a metric stores into the field of the metric what the metric accumulates. -/
theorem change_mutator {entry : BaseEntry} {words : Words} {word : UInt64}
    (found : words.lookup entry.identifier = some word) (amount : UInt64) :
    change runtime (mutator runtime entry) (argument? entry.kind amount) words =
      some (words.store entry.identifier (entry.kind.accumulate word amount)) := by
  obtain ⟨metric, kind, identifier, method⟩ := entry
  -- each kind has its own statement, whose tokens say what is stored
  cases kind with
  | counter =>
    have runs : change runtime (mutator runtime ⟨metric, .counter, identifier, method⟩) none words =
        (words.lookup identifier).bind fun word => some (words.store identifier (word + 1)) := rfl
    rw [argument?, runs, found]
    rfl
  | sum =>
    have runs : assign (some ("amount", amount)) words
          (wrappingAdd ⟨metric, .sum, identifier, method⟩ "amount") =
        (words.lookup identifier).bind fun word =>
          some (words.store identifier (word + amount)) := rfl
    rw [argument?, change_converting rfl rfl, runs, found]
    rfl
  | max =>
    have runs : assign (some ("value", amount)) words
          (store ⟨metric, .max, identifier, method⟩ (code ":: core :: cmp :: max" ++
            parens (code "self ." ++ name identifier ++ code ", value"))) =
        (words.lookup identifier).bind fun word =>
          some (words.store identifier (max word amount)) := rfl
    rw [argument?, change_converting rfl rfl, runs, found, Option.bind_some, max_eq_ite]
    rfl

/-- The mutator of a metric does to the words of a record what the metric does to the record. -/
theorem change_words {artifact : Artifact} {compiled : CompiledSchema} {names : TypeNames}
    (represents : artifact.Represents compiled names runtime)
    (distinct : artifact.MembersDistinct names) (keys : (compiled.storage.map (·.name)).Nodup)
    {entry : BaseEntry} (here : entry ∈ compiled.storage) {record : Record}
    (fits : record.Fits compiled) (amount : UInt64) :
    change runtime (mutator runtime entry) (argument? entry.kind amount) (compiled.words record) =
      some (compiled.words (record.mutate entry amount 1)) := by
  have fields : (compiled.storage.map (·.identifier)).Nodup := represents.fields ▸ distinct.fields
  have found : (compiled.words record).lookup entry.identifier = some (record.get entry.name) :=
    lookup_map_key fields here
  rw [change_mutator found, CompiledSchema.words_mutate fits fields keys here]

end Artifact

/-! ## Hooks -/

theorem CompiledSchema.zeroed_words (compiled : CompiledSchema) (record : Record) :
    (compiled.words record).zeroed = compiled.words (.empty compiled) := by
  unfold words Words.zeroed
  rw [List.map_map]
  refine List.map_congr_left fun entry _ => ?_
  rw [Record.get_empty]
  rfl

/-- What a call of a hook is to a session. -/
def Hook.action (thread aggregator : Nat) (amount : UInt64) : Hook → Action
  | .metric entry => .hook thread entry.name amount 1
  | .lifecycle .publish => .publishHook thread aggregator
  | .lifecycle .clear => .clearHook aggregator
  | .lifecycle .dump => .dumpHook aggregator

/-- A memory that holds the live record of a thread and the records of an aggregator. -/
structure Memory.Holds (memory : Memory) (compiled : CompiledSchema) (names : TypeNames)
    (session : Session) (thread aggregator : Nat) : Prop where
  cell : memory.cell = names.threadLocal
  current : memory.current = compiled.words (session.live.get thread)
  ledger : memory.ledger.entries = (session.aggregators.get aggregator).entries.map compiled.words

namespace Artifact

section Hooks

variable {artifact : Artifact} {compiled : CompiledSchema} {names : TypeNames} {runtime : Path}
  (represents : artifact.Represents compiled names runtime)
  (distinct : artifact.MembersDistinct names)

include represents distinct

/-- The hook of a metric calls the mutator of that metric on the live record. -/
theorem runHook_metric {entry : BaseEntry} (here : entry ∈ compiled.storage) {memory : Memory}
    (cell : memory.cell = names.threadLocal) (identifier : String) (amount : UInt64) :
    artifact.runHook runtime (metricHook names runtime entry identifier .work) amount memory =
      (change runtime (mutator runtime entry) (argument? entry.kind amount) memory.current).map
        fun words => { memory with current := words } := by
  have found := method?_mutator represents distinct here
  have lent := lend_eq represents distinct cell
  obtain ⟨metric, kind, field, method⟩ := entry
  cases kind with
  | counter =>
    have runs : artifact.runHook runtime
          (metricHook names runtime ⟨metric, .counter, field, method⟩ identifier .work) amount
          memory =
        (if names.record = names.record then some (Work.update names.record method none)
          else none).bind
          (Work.run artifact runtime [] amount memory) := rfl
    rw [runs, if_pos rfl, Option.bind_some, Work.run, found]
    exact lent _
  | sum =>
    have runs : artifact.runHook runtime
          (metricHook names runtime ⟨metric, .sum, field, method⟩ identifier .work) amount memory =
        (if "record" = "record" then some (Work.update names.record method (some "amount"))
          else none).bind
          (Work.run artifact runtime (name "amount" ++ code ":" ++ amountType runtime) amount
            memory) := rfl
    rw [runs, if_pos rfl, Option.bind_some, Work.run, found, Option.bind_eq_bind,
      Option.bind_some, if_pos rfl]
    exact lent _
  | max =>
    have runs : artifact.runHook runtime
          (metricHook names runtime ⟨metric, .max, field, method⟩ identifier .work) amount memory =
        (if "record" = "record" then some (Work.update names.record method (some "amount"))
          else none).bind
          (Work.run artifact runtime (name "amount" ++ code ":" ++ amountType runtime) amount
            memory) := rfl
    rw [runs, if_pos rfl, Option.bind_some, Work.run, found, Option.bind_eq_bind,
      Option.bind_some, if_pos rfl]
    exact lent _

/-- The publish hook moves the live record to the ledger and leaves a default one. -/
theorem runHook_publish {memory : Memory} (cell : memory.cell = names.threadLocal)
    (identifier : String) (amount : UInt64) :
    artifact.runHook runtime (lifecycleHook names .publish identifier .work) amount memory =
      some { memory with
        current := memory.current.zeroed
        ledger := memory.ledger.publish memory.current } := by
  have runs : artifact.runHook runtime (lifecycleHook names .publish identifier .work) amount
        memory =
      if "aggregator" = "aggregator" then
        (artifact.take names.record memory).bind fun taken =>
          artifact.publish names.aggregator taken.2 taken.1
      else none := rfl
  rw [runs, if_pos rfl, take_eq represents distinct cell, Option.bind_some]
  exact publish_eq represents distinct _ _

theorem runHook_clear (memory : Memory) (identifier : String) (amount : UInt64) :
    artifact.runHook runtime (lifecycleHook names .clear identifier .work) amount memory =
      some { memory with ledger := memory.ledger.clear } := by
  have runs : artifact.runHook runtime (lifecycleHook names .clear identifier .work) amount
        memory =
      if "aggregator" = "aggregator" then artifact.clear names.aggregator memory else none := rfl
  rw [runs, if_pos rfl]
  exact clear_eq represents distinct _

end Hooks

theorem mem_all_metric {compiled : CompiledSchema} {entry : BaseEntry} :
    .metric entry ∈ StatSchema.Hook.all compiled ↔ entry ∈ compiled.storage := by
  simp [StatSchema.Hook.all]

/-- Running a hook does to the memory what the hook does to the session. -/
theorem runHook_holds {artifact : Artifact} {program : Program} {names : TypeNames}
    {runtime : Path} (represents : artifact.Represents program.compiled names runtime)
    (distinct : artifact.MembersDistinct names) (enabled : program.enabled = true)
    (keys : (program.compiled.storage.map (·.name)).Nodup) {hook : StatSchema.Hook}
    (known : hook ∈ StatSchema.Hook.all program.compiled) (working : hook ≠ .lifecycle .dump)
    {session : Session} {thread aggregator : Nat}
    (fits : (session.live.get thread).Fits program.compiled) {memory : Memory}
    (holds : memory.Holds program.compiled names session thread aggregator)
    (identifier : String) (amount : UInt64) :
    ∃ after,
      artifact.runHook runtime (hookRoutine names runtime identifier .work hook) amount memory =
        some after ∧
      after.Holds program.compiled names
        (program.perform session (hook.action thread aggregator amount)).session thread
        aggregator := by
  cases hook with
  | metric entry =>
    have here := mem_all_metric.1 known
    have entered := find?_key keys here
    have live : (program.perform session (.hook thread entry.name amount 1)).session.live.get
        thread = (session.live.get thread).mutate entry amount 1 := by
      rw [Program.perform_hook_of_some enabled entered, Program.updated, Slots.get_set_self,
        Program.mutated, entered]
    have changed := change_words represents distinct keys here fits amount
    let stored := program.compiled.words ((session.live.get thread).mutate entry amount 1)
    refine ⟨{ memory with current := stored }, ?_, holds.cell, ?_, ?_⟩
    · rw [hookRoutine, runHook_metric represents distinct here holds.cell, holds.current, changed]
      rfl
    · rw [StatSchema.Hook.action, live]
    · have same := (program.perform_agrees session
        (.hook thread entry.name amount 1)).aggregators aggregator (by simp [Action.aggregator?])
      rw [StatSchema.Hook.action, same]
      exact holds.ledger
  | lifecycle step =>
    cases step with
    | publish =>
      refine ⟨_, runHook_publish represents distinct holds.cell identifier amount,
        holds.cell, ?_, ?_⟩
      · rw [StatSchema.Hook.action, Program.live_perform enabled]
        simp [Action.empties, holds.current, CompiledSchema.zeroed_words]
      · rw [StatSchema.Hook.action, Program.entries_perform enabled session rfl]
        simp [Action.clears, Action.publishes, holds.current, holds.ledger]
    | clear =>
      refine ⟨_, runHook_clear represents distinct memory identifier amount, holds.cell, ?_, ?_⟩
      · rw [StatSchema.Hook.action, Program.live_perform enabled]
        exact holds.current
      · rw [StatSchema.Hook.action, Program.entries_perform enabled session rfl]
        simp [Action.clears]
    | dump => exact absurd rfl working

end Artifact

end StatSchema
