/-
Sessions under more declarations. Records of a larger schema hold what records of a smaller one do, and
more; whatever is done to metrics of the smaller one keeps them so. Outcomes follow from the values of
base metrics through operands, so every metric of the smaller schema has the same outcome under both.
Main statements: `Session.Extends.run` and `Session.Extends.outcomes`.
-/
import StatSchema.Proofs.Schema.Extension
import StatSchema.Proofs.Session.Aggregation

namespace StatSchema

/-! ## Outcomes -/

namespace CompiledSchema

variable {schema schema' : Schema} {compiled compiled' : CompiledSchema}

theorem storage_find? (compiled : CompiledSchema) (metric : String) :
    compiled.storage.find? (·.name == metric) = (compiled.find? metric).bind fun
      | .base entry => some entry
      | .compound _ => none := by
  unfold find?
  cases compiled.storage.find? (·.name == metric) with
  | some entry => rfl
  | none => cases compiled.derivation.find? (·.name == metric) <;> rfl

/-- Base values that agree on the metrics of a schema lead to the same outcomes of them under more
declarations. -/
theorem outcomes_of_subset (compiles : compile schema = .ok compiled)
    (compiles' : compile schema' = .ok compiled')
    (within : schema.declarations ⊆ schema'.declarations) (overflow : Overflow)
    {base base' : BaseEntry → UInt64}
    (same : ∀ entry ∈ compiled.storage, base' entry = base entry) (metric : String) :
    metric ∈ schema.names →
      (compiled'.outcomes overflow base').of metric = (compiled.outcomes overflow base).of metric := by
  obtain ⟨wellFormed, represents⟩ := of_compile compiles
  obtain ⟨wellFormed', represents'⟩ := of_compile compiles'
  have settled := represents.settled wellFormed overflow base
  have settled' := represents'.settled wellFormed' overflow base'
  -- the outcome of a compound follows from those of its operands
  induction metric using (represents.wellFounded wellFormed).induction with
  | _ metric ih =>
    intro declared
    obtain ⟨entry, found⟩ := represents.exists_entry declared
    have found' := find?_of_subset compiles compiles' within metric declared
    rw [found] at found'
    obtain ⟨rfl, ⟨stored, here, rfl⟩ | ⟨compound, here, rfl⟩⟩ := find?_eq_some found
    · rw [Entry.name, settled.base stored here,
        settled'.base stored (mem_storage_of_find? found'), same stored here]
    · have there := mem_derivation_of_find? found'
      rw [Entry.name, settled.compounds compound (represents.evaluation.mem_iff.2 here),
        settled'.compounds compound (represents'.evaluation.mem_iff.2 there)]
      exact CompoundEntry.outcome_congr fun operand taken =>
        ih operand (represents.uses here taken) (represents.declared wellFormed here taken)

end CompiledSchema

/-! ## Records -/

/-- A record that holds what another holds, and possibly values of other metrics. -/
structure Record.Extends (compiled compiled' : CompiledSchema) (record record' : Record) : Prop where
  fits : record.Fits compiled
  fits' : record'.Fits compiled'
  agrees : ∀ entry ∈ compiled.storage, record'.get entry.name = record.get entry.name

/-- Compiled schemas of which one holds the metrics of the other, among them the given ones. -/
structure CompiledSchema.Extends (compiled compiled' : CompiledSchema) (metrics : List String) :
    Prop where
  stored : compiled.storage ⊆ compiled'.storage
  found : ∀ metric ∈ metrics, compiled'.storage.find? (·.name == metric) =
    compiled.storage.find? (·.name == metric)

/-- A schema that declares more is compiled to one that holds more. -/
theorem CompiledSchema.extends_of_subset {schema schema' : Schema}
    {compiled compiled' : CompiledSchema} (compiles : compile schema = .ok compiled)
    (compiles' : compile schema' = .ok compiled')
    (within : schema.declarations ⊆ schema'.declarations) : Extends compiled compiled' schema.names where
  stored := storage_of_subset compiles compiles' within
  found metric declared := by
    rw [storage_find?, storage_find?, find?_of_subset compiles compiles' within metric declared]

namespace Record.Extends

variable {compiled compiled' : CompiledSchema} {record record' : Record}

theorem empty : Extends compiled compiled' (.empty compiled) (.empty compiled') where
  fits := .empty compiled
  fits' := .empty compiled'
  agrees _ _ := by rw [get_empty, get_empty]

theorem modify (extends' : Extends compiled compiled' record record')
    (stored : compiled.storage ⊆ compiled'.storage) (metric : String) (change : UInt64 → UInt64) :
    Extends compiled compiled' (record.modify metric change) (record'.modify metric change) where
  fits := extends'.fits.modify metric change
  fits' := extends'.fits'.modify metric change
  agrees entry here := by
    have agrees := extends'.agrees entry here
    by_cases hit : entry.name = metric
    · subst hit
      have known : entry.name ∈ record.values.map (·.1) := by
        rw [extends'.fits]
        exact List.mem_map_of_mem here
      have known' : entry.name ∈ record'.values.map (·.1) := by
        rw [extends'.fits']
        exact List.mem_map_of_mem (stored here)
      rw [get_modify_self _ _ known, get_modify_self _ _ known', agrees]
    · rw [get_modify_of_ne _ _ hit, get_modify_of_ne _ _ hit, agrees]

end Record.Extends

/-! ## Sessions -/

/-- The metric that an action names. -/
def Action.metric? : Action → Option String
  | .hook _ metric _ _ => some metric
  | .updateCurrent _ metric _ => some metric
  | .hookWhileLent _ metric _ => some metric
  | .mutate _ metric _ _ => some metric
  | _ => none

/-- Actions that name no metrics but the given ones. -/
def Confined (metrics : List String) (actions : List Action) : Prop :=
  ∀ action ∈ actions, ∀ metric, action.metric? = some metric → metric ∈ metrics

/-- The program for another compiled schema, with the same hooks at work. -/
def Program.over (program : Program) (compiled : CompiledSchema) : Program :=
  { program with compiled }

/-- Sessions whose records, wherever they are, extend each other. -/
structure Session.Extends (compiled compiled' : CompiledSchema) (session session' : Session) :
    Prop where
  live : ∀ thread,
    Record.Extends compiled compiled' (session.live.get thread) (session'.live.get thread)
  records : ∀ number,
    Record.Extends compiled compiled' (session.records.get number) (session'.records.get number)
  aggregators : ∀ aggregator, List.Forall₂ (Record.Extends compiled compiled')
    (session.aggregators.get aggregator).entries (session'.aggregators.get aggregator).entries

theorem Slots.get_set_rel {α β : Type} {R : α → β → Prop} {slots : Slots α} {slots' : Slots β}
    (related : ∀ number, R (slots.get number) (slots'.get number)) {value : α} {value' : β}
    (fresh : R value value') (number : Nat) :
    ∀ other, R ((slots.set number value).get other) ((slots'.set number value').get other) := by
  intro other
  rw [Slots.get_set, Slots.get_set]
  split
  · exact fresh
  · exact related other

theorem forall₂_replicate {α β : Type} {R : α → β → Prop} {a : α} {b : β} (related : R a b)
    (count : Nat) : List.Forall₂ R (List.replicate count a) (List.replicate count b) := by
  induction count with
  | zero => exact .nil
  | succ count ih => exact .cons related ih

namespace Session.Extends

variable {program : Program} {compiled' : CompiledSchema} {metrics : List String}
  {session session' : Session}

theorem start (program : Program) (compiled' : CompiledSchema) :
    Extends program.compiled compiled' program.start (program.over compiled').start :=
  ⟨fun _ => .empty, fun _ => .empty, fun _ => .nil⟩

section Step

variable (extends' : Extends program.compiled compiled' session session')

include extends'

theorem setLive {record record' : Record}
    (fresh : Record.Extends program.compiled compiled' record record') (thread : Nat) :
    Extends program.compiled compiled' { session with live := session.live.set thread record }
      { session' with live := session'.live.set thread record' } :=
  { extends' with live := Slots.get_set_rel extends'.live fresh thread }

theorem setRecord {record record' : Record}
    (fresh : Record.Extends program.compiled compiled' record record') (number : Nat) :
    Extends program.compiled compiled' { session with records := session.records.set number record }
      { session' with records := session'.records.set number record' } :=
  { extends' with records := Slots.get_set_rel extends'.records fresh number }

theorem setAggregator {ledger ledger' : Ledger Record}
    (fresh : List.Forall₂ (Record.Extends program.compiled compiled') ledger.entries ledger'.entries)
    (aggregator : Nat) :
    Extends program.compiled compiled'
      { session with aggregators := session.aggregators.set aggregator ledger }
      { session' with aggregators := session'.aggregators.set aggregator ledger' } :=
  { extends' with
    aggregators := Slots.get_set_rel (R := fun (ledger ledger' : Ledger Record) =>
      List.Forall₂ (Record.Extends program.compiled compiled') ledger.entries ledger'.entries)
      extends'.aggregators fresh aggregator }

/-- A hook that works under one schema works under the other. -/
theorem call {work work' : Reaction} (hook : Hook) (argument argument' : Argument) (times : Nat)
    (worked : Extends program.compiled compiled' work.session work'.session) :
    Extends program.compiled compiled' (program.call session hook argument times work).session
      ((program.over compiled').call session' hook argument' times work').session := by
  have effect : (program.over compiled').effect hook = program.effect hook := rfl
  unfold Program.call
  rw [effect]
  cases program.effect hook with
  | nothing => exact extends'
  | work => exact worked
  | call target => exact extends'

variable (larger : CompiledSchema.Extends program.compiled compiled' metrics)

include larger

theorem callMetric {metric : String} (named : metric ∈ metrics) (amount : UInt64) (times : Nat)
    {work work' : Reaction}
    (worked : Extends program.compiled compiled' work.session work'.session) :
    Extends program.compiled compiled' (program.callMetric session metric amount times work).session
      ((program.over compiled').callMetric session' metric amount times work').session := by
  have found : (program.over compiled').compiled.storage.find? (·.name == metric) =
    program.compiled.storage.find? (·.name == metric) := larger.found metric named
  unfold Program.callMetric
  rw [found]
  cases program.compiled.storage.find? (·.name == metric) with
  | none => exact extends'
  | some entry => exact extends'.call (.metric entry) _ _ times worked

omit extends' in
theorem mutated {record record' : Record}
    (extends' : Record.Extends program.compiled compiled' record record') {metric : String}
    (named : metric ∈ metrics) (amount : UInt64) (times : Nat) :
    Record.Extends program.compiled compiled' (program.mutated record metric amount times)
      ((program.over compiled').mutated record' metric amount times) := by
  have found : (program.over compiled').compiled.storage.find? (·.name == metric) =
    program.compiled.storage.find? (·.name == metric) := larger.found metric named
  unfold Program.mutated
  rw [found]
  cases program.compiled.storage.find? (·.name == metric) with
  | none => exact extends'
  | some entry => exact extends'.modify larger.stored _ _

/-- Whatever is done to metrics of the smaller schema, one session still extends the other. -/
theorem perform {action : Action}
    (named : ∀ metric, action.metric? = some metric → metric ∈ metrics) :
    Extends program.compiled compiled' (program.perform session action).session
      ((program.over compiled').perform session' action).session := by
  have taken : ∀ thread, Extends program.compiled compiled' (program.taken session thread).2
      ((program.over compiled').taken session' thread).2 :=
    fun thread => extends'.setLive .empty thread
  cases action with
  | hook thread metric amount times =>
    have named := named metric rfl
    exact extends'.callMetric larger named amount times
      (extends'.setLive (mutated larger (extends'.live thread) named amount times) thread)
  | publishHook thread aggregator =>
    have published := List.rel_append (extends'.aggregators aggregator)
      (.cons (extends'.live thread) .nil)
    exact extends'.call _ _ _ 1 ((taken thread).setAggregator published aggregator)
  | clearHook aggregator =>
    exact extends'.call _ _ _ 1 (extends'.setAggregator .nil aggregator)
  | dumpHook aggregator =>
    rw [Program.session_perform_dumpHook, Program.session_perform_dumpHook]
    exact extends'
  | updateCurrent thread metric amount =>
    exact extends'.setLive (mutated larger (extends'.live thread) (named metric rfl) amount 1) thread
  | hookWhileLent thread metric amount =>
    rw [Program.session_perform_hookWhileLent, Program.session_perform_hookWhileLent]
    exact extends'
  | takeCurrent thread record => exact (taken thread).setRecord (extends'.live thread) record
  | mutate record metric amount times =>
    exact extends'.setRecord
      (mutated larger (extends'.records record) (named metric rfl) amount times) record
  | reset record => exact extends'.setRecord .empty record
  | copy record target => exact extends'.setRecord (extends'.records record) target
  | publish aggregator record times =>
    have published := List.rel_append (extends'.aggregators aggregator)
      (forall₂_replicate (extends'.records record) times)
    exact extends'.setAggregator published aggregator
  | clear aggregator => exact extends'.setAggregator .nil aggregator
  | copyAggregator aggregator target =>
    exact extends'.setAggregator (extends'.aggregators aggregator) target

end Step

/-- After the same actions, all on metrics of the smaller schema, one session extends the other. -/
theorem run (larger : CompiledSchema.Extends program.compiled compiled' metrics)
    {actions : List Action} (confined : Confined metrics actions) :
    Extends program.compiled compiled' (program.run program.start actions)
      ((program.over compiled').run (program.over compiled').start actions) := by
  induction actions using List.reverseRecOn with
  | nil => exact start program compiled'
  | append_singleton actions action ih =>
    rw [Program.run_concat, Program.run_concat]
    have before := ih fun other here => confined other (List.mem_append_left _ here)
    exact before.perform larger (confined action (by simp))

end Session.Extends

/-! ## Outcomes in sessions -/

/-- What holds values in a session: the live record of a thread, another record, or an aggregator. -/
inductive Holder where
  | live (thread : Nat)
  | record (number : Nat)
  | aggregator (number : Nat)

/-- The outcomes of all metrics for a holder. -/
def Program.outcomesAt (program : Program) (session : Session) : Holder → Outcomes
  | .live thread => program.compiled.recordOutcomes program.overflow (session.live.get thread)
  | .record number => program.compiled.recordOutcomes program.overflow (session.records.get number)
  | .aggregator number =>
    program.compiled.ledgerOutcomes program.overflow (session.aggregators.get number)

/-- What is reduced over records that extend others is what is reduced over these. -/
theorem Ledger.reduce_extends {compiled compiled' : CompiledSchema} {ledger ledger' : Ledger Record}
    (extends' : List.Forall₂ (Record.Extends compiled compiled') ledger.entries ledger'.entries)
    {entry : BaseEntry} (here : entry ∈ compiled.storage) :
    (ledger'.reduce entry.kind.reduction fun record => record.get entry.name) =
      ledger.reduce entry.kind.reduction fun record => record.get entry.name := by
  have same : ledger'.entries.map (fun record => record.get entry.name) =
      ledger.entries.map fun record => record.get entry.name :=
    map_eq_of_forall₂ (List.forall₂_map_left_iff.2 (extends'.imp fun _ _ each =>
      each.agrees entry here))
  rw [reduce_eq_gather, reduce_eq_gather, same]

/-- Every metric of the smaller schema has the same outcome in both sessions, whatever holds its
values. -/
theorem Session.Extends.outcomes {schema schema' : Schema} {program : Program}
    {compiled' : CompiledSchema} (compiles : compile schema = .ok program.compiled)
    (compiles' : compile schema' = .ok compiled')
    (within : schema.declarations ⊆ schema'.declarations) {session session' : Session}
    (extends' : Session.Extends program.compiled compiled' session session') (holder : Holder)
    {metric : String} (declared : metric ∈ schema.names) :
    ((program.over compiled').outcomesAt session' holder).of metric =
      (program.outcomesAt session holder).of metric := by
  cases holder with
  | live thread =>
    exact CompiledSchema.outcomes_of_subset compiles compiles' within _
      (extends'.live thread).agrees metric declared
  | record number =>
    exact CompiledSchema.outcomes_of_subset compiles compiles' within _
      (extends'.records number).agrees metric declared
  | aggregator number =>
    exact CompiledSchema.outcomes_of_subset compiles compiles' within _
      (fun _ here => Ledger.reduce_extends (extends'.aggregators number) here) metric declared

end StatSchema
