/-
No call is lost, repeated or misplaced. Main statement, for generated code whose hooks are enabled and
whose spellings are plain: after every run the live record of a thread and the records of an
aggregator are what the calls since their last reset make of them, the next action changes nothing
but what it is about, and the emitted functions, run token by token, do to records and ledgers what
the actions do to the session.
-/
import StatSchema.Proofs.Artifact.Wiring

namespace StatSchema

open Token

/-! ## What an action shows -/

/-- Nothing is printed, no other function is called and nothing stops. -/
def Reaction.Quiet (reaction : Reaction) : Prop := reaction.events = [] ∧ reaction.panic = none

/-- Whether an action reports, or needs a record that is lent. -/
def Action.reports : Action → Bool
  | .dumpHook _ => true
  | .hookWhileLent _ _ _ => true
  | _ => false

theorem Program.perform_quiet {program : Program} (enabled : program.enabled = true)
    (session : Session) {action : Action} (silent : action.reports = false) :
    (program.perform session action).Quiet := by
  cases action with
  | hook thread metric amount times =>
    cases found : program.compiled.storage.find? (·.name == metric) with
    | some entry =>
      rw [perform_hook_of_some enabled found]
      exact ⟨rfl, rfl⟩
    | none =>
      rw [perform_hook_of_none found]
      exact ⟨rfl, rfl⟩
  | publishHook thread aggregator =>
    rw [perform_publishHook enabled]
    exact ⟨rfl, rfl⟩
  | clearHook aggregator =>
    rw [perform_clearHook enabled]
    exact ⟨rfl, rfl⟩
  | dumpHook aggregator => cases silent
  | hookWhileLent thread metric amount => cases silent
  | updateCurrent thread metric amount => exact ⟨rfl, rfl⟩
  | takeCurrent thread record => exact ⟨rfl, rfl⟩
  | mutate record metric amount times => exact ⟨rfl, rfl⟩
  | reset record => exact ⟨rfl, rfl⟩
  | copy record target => exact ⟨rfl, rfl⟩
  | publish aggregator record times => exact ⟨rfl, rfl⟩
  | clear aggregator => exact ⟨rfl, rfl⟩
  | copyAggregator aggregator target => exact ⟨rfl, rfl⟩

namespace Artifact

/-! ## Emitted functions -/

variable {artifact : Artifact} {compiled : CompiledSchema} {names : TypeNames} {runtime : Path}

theorem filled_zeros (storage : List BaseEntry) :
    filled ((storage.flatMap fun entry => name entry.identifier ++ code ": 0 ,") ++
      [.closing .brace]) = some (storage.map fun entry => (entry.identifier, 0)) := by
  induction storage with
  | nil => rfl
  | cons entry rest ih =>
    have first : filled (((entry :: rest).flatMap fun entry =>
          name entry.identifier ++ code ": 0 ,") ++ [.closing .brace]) =
        (filled ((rest.flatMap fun entry => name entry.identifier ++ code ": 0 ,") ++
          [.closing .brace])).map ((entry.identifier, 0) :: ·) := rfl
    rw [first, ih]
    rfl

/-- The constructor makes an empty record. -/
theorem constructed?_eq (represents : artifact.Represents compiled names runtime)
    (distinct : artifact.MembersDistinct names) :
    artifact.constructed? names.record = some (compiled.words (.empty compiled)) := by
  have found := method?_record represents distinct
    (List.mem_append_left _ (List.mem_cons_self (a := newRecord compiled)))
  have fills : artifact.constructed? names.record =
      (artifact.method? names.record (newRecord compiled).name).bind fun _ =>
        filled ((compiled.storage.flatMap fun entry => name entry.identifier ++ code ": 0 ,") ++
          [.closing .brace]) := by
    rw [found]
    show (artifact.method? names.record "new").bind _ = _
    rw [show artifact.method? names.record "new" = some (newRecord compiled) from found]
    rfl
  rw [fills, found, Option.bind_some, filled_zeros]
  unfold CompiledSchema.words
  simp

theorem records_eq (represents : artifact.Represents compiled names runtime)
    (distinct : artifact.MembersDistinct names) (memory : Memory) :
    artifact.records names.aggregator memory = some memory.ledger.entries := by
  have found := method?_aggregator represents distinct
    (List.mem_cons_of_mem _ (List.mem_cons_of_mem _ (List.mem_cons_of_mem _ List.mem_cons_self)))
  rw [records, found]
  rfl

theorem recordCount_eq (represents : artifact.Represents compiled names runtime)
    (distinct : artifact.MembersDistinct names) (memory : Memory) :
    artifact.recordCount names.aggregator memory = some memory.ledger.length := by
  have found := method?_aggregator represents distinct
    (List.mem_cons_of_mem _ (List.mem_cons_of_mem _ List.mem_cons_self))
  rw [recordCount, found]
  rfl

end Artifact

/-! ## Steps of the code and of the session -/

/-- Code that does to every memory that holds a part of the session what an action does to that
part. -/
def Program.Follows (program : Program) (names : TypeNames) (session : Session)
    (code : Memory → Option Memory) (action : Nat → Nat → Action) : Prop :=
  ∀ thread aggregator memory, memory.Holds program.compiled names session thread aggregator →
    ∃ after, code memory = some after ∧
      after.Holds program.compiled names
        (program.perform session (action thread aggregator)).session thread aggregator

/-- Generated code that does in a session what is said of actions: its functions are the hooks in
their order, and its methods take, publish, clear and read records. -/
structure Artifact.Performs (artifact : Artifact) (program : Program) (names : TypeNames)
    (runtime : Path) (session : Session) : Prop where
  cell : artifact.cellsOf names.record = [names.threadLocal]
  fresh : artifact.constructed? names.record =
    some (program.compiled.words (.empty program.compiled))
  mutators : ∀ entry ∈ program.compiled.storage, ∃ method,
    artifact.method? names.record entry.mutator = some method ∧
    ∀ (record : Record) (amount : UInt64), record.Fits program.compiled →
      Artifact.change runtime method (Artifact.argument? entry.kind amount)
          (program.compiled.words record) =
        some (program.compiled.words (program.updatedBy record ⟨entry.name, amount⟩))
  hooks : List.Forall₂ (fun hook routine => hook ≠ .lifecycle .dump → ∀ amount,
      program.Follows names session (artifact.runHook runtime routine amount)
        fun thread aggregator => hook.action thread aggregator amount)
    (Hook.all program.compiled) artifact.functions
  taken : ∀ record, program.Follows names session
    (fun memory => (artifact.take names.record memory).map (·.2))
    fun thread _ => .takeCurrent thread record
  published : ∀ record, program.Follows names session
    (fun memory => artifact.publish names.aggregator memory
      (program.compiled.words (session.records.get record)))
    fun _ aggregator => .publish aggregator record 1
  cleared : program.Follows names session (artifact.clear names.aggregator)
    fun _ aggregator => .clear aggregator
  read : ∀ thread aggregator memory,
    memory.Holds program.compiled names session thread aggregator →
    artifact.records names.aggregator memory =
      some ((session.aggregators.get aggregator).entries.map program.compiled.words) ∧
    artifact.recordCount names.aggregator memory =
      some (session.aggregators.get aggregator).length

theorem forall₂_flatten {α β : Type} {R : α → β → Prop} {l : List α} {parts : List (List β)}
    (h : List.Forall₂ (fun a part => ∃ b, part = [b] ∧ R a b) l parts) :
    List.Forall₂ R l parts.flatten := by
  induction h with
  | nil => exact .nil
  | cons first _ ih =>
    obtain ⟨b, rfl, related⟩ := first
    exact .cons related ih

namespace Artifact

variable {artifact : Artifact} {compiled : CompiledSchema} {names : TypeNames}

/-- Hooks that always do their work, or never. -/
def always (enabled : Bool) : Instrumentation := if enabled then .enabled else .disabled

/-- The functions of code without a feature: each hook has one effect. -/
theorem functions_of_always {naming : Naming} {enabled : Bool} {overrides : List Override}
    (h : hooks compiled naming names (always enabled) overrides =
      .ok (artifact.functions.map Item.routine)) :
    List.Forall₂ (fun hook routine => ∃ identifier,
        identifierOf (naming.hookText hook.name) = .ok identifier ∧
        routine = hookRoutine names naming.runtime identifier
          (hook.effect enabled (overrideOf? overrides hook.name)) hook)
      (StatSchema.Hook.all compiled) artifact.functions := by
  obtain ⟨routines, selections, same⟩ := hooks_eq_ok h
  have functions : artifact.functions = routines.flatten := by
    refine List.map_injective_iff.2 ?_ same
    intro first second h
    exact Item.routine.inj h
  rw [functions]
  refine forall₂_flatten (selections.imp ?_)
  rintro hook selection ⟨identifier, spelled, rfl⟩
  cases enabled <;> exact ⟨_, rfl, identifier, spelled, rfl⟩

/-- The functions of enabled code: each hook does its own work, the report apart. -/
theorem functions_of_enabled {naming : Naming} {overrides : List Override}
    (h : hooks compiled naming names .enabled overrides =
      .ok (artifact.functions.map Item.routine)) :
    List.Forall₂ (fun hook routine => hook ≠ .lifecycle .dump → ∃ identifier,
        routine = hookRoutine names naming.runtime identifier .work hook)
      (StatSchema.Hook.all compiled) artifact.functions := by
  have always : hooks compiled naming names (always true) overrides =
    .ok (artifact.functions.map Item.routine) := h
  refine (functions_of_always always).imp ?_
  rintro hook routine ⟨identifier, -, rfl⟩ working
  have effect : hook.effect true (overrideOf? overrides hook.name) = .work := by
    unfold StatSchema.Hook.effect
    split <;> simp [working]
  exact ⟨identifier, by rw [effect]⟩

end Artifact

namespace Program

variable {program : Program}

theorem fits_run (enabled : program.enabled = true) (actions : List Action) (thread : Nat) :
    ((program.run program.start actions).live.get thread).Fits program.compiled := by
  rw [live_run enabled]
  exact .foldl _ (.empty _)

end Program

/-- Generated code does in a session what is said of actions. -/
theorem Artifact.performs {artifact : Artifact} {program : Program} {naming : Naming}
    {names : TypeNames} {overrides : List Override}
    (represents : artifact.Represents program.compiled names naming.runtime)
    (distinct : artifact.MembersDistinct names)
    (hooked : Artifact.hooks program.compiled naming names .enabled overrides =
      .ok (artifact.functions.map Item.routine))
    (keys : (program.compiled.storage.map (·.name)).Nodup) (enabled : program.enabled = true)
    {session : Session}
    (fits : ∀ thread, (session.live.get thread).Fits program.compiled) :
    artifact.Performs program names naming.runtime session := by
  refine ⟨represents.cells, constructed?_eq represents distinct, ?_, ?_, ?_, ?_, ?_, ?_⟩
  · intro entry here
    refine ⟨_, method?_mutator represents distinct here, fun record amount fits => ?_⟩
    rw [change_words represents distinct keys here fits, Program.updatedBy, Program.mutated,
      find?_key keys here]
  · -- every function is one of the hooks, which the metrics of the schema are needed to name
    have known := (List.forall₂_and_left _ _).2
      ⟨fun hook (here : hook ∈ Hook.all program.compiled) => here, functions_of_enabled hooked⟩
    refine known.imp ?_
    rintro hook routine ⟨here, emitted⟩ working amount thread aggregator memory holds
    obtain ⟨identifier, rfl⟩ := emitted working
    exact runHook_holds represents distinct enabled keys here working (fits thread) holds identifier
      amount
  · intro record thread aggregator memory holds
    refine ⟨{ memory with current := memory.current.zeroed }, ?_, holds.cell, ?_, holds.ledger⟩
    · show (artifact.take names.record memory).map (·.2) = _
      rw [take_eq represents distinct holds.cell]
      rfl
    · rw [Program.live_perform enabled]
      simp [Action.empties, holds.current, CompiledSchema.zeroed_words]
  · intro record thread aggregator memory holds
    refine ⟨_, publish_eq represents distinct _ _, holds.cell, holds.current, ?_⟩
    rw [Program.entries_perform enabled session rfl]
    simp [Action.clears, Action.publishes, holds.ledger]
  · intro thread aggregator memory holds
    refine ⟨_, clear_eq represents distinct _, holds.cell, holds.current, ?_⟩
    rw [Program.entries_perform enabled session rfl]
    simp [Action.clears]
  · intro thread aggregator memory holds
    rw [records_eq represents distinct, recordCount_eq represents distinct, Ledger.length,
      holds.ledger, List.length_map]
    exact ⟨rfl, rfl⟩

/-- Calls are attributed to the thread that makes them and to the aggregator that they are for, by the
session and by the generated code alike. -/
theorem calls_attributed {schema : Schema} {naming : Naming} {overrides : List Override}
    {artifact : Artifact} (plain : schema.PlainlySpelled)
    (generated : generate schema naming .enabled overrides = .ok artifact) {program : Program}
    (compiles : compile schema = .ok program.compiled) (enabled : program.enabled = true)
    {actions : List Action} (original : ∀ action ∈ actions, action.replaces = false) :
    (∀ thread, (program.run program.start actions).live.get thread =
      program.recordOf (pending thread actions)) ∧
    (∀ aggregator,
      ((program.run program.start actions).aggregators.get aggregator).entries =
        program.published aggregator actions ∧
      ((program.run program.start actions).aggregators.get aggregator).length =
        (program.published aggregator actions).length) ∧
    (∀ action, Session.AgreesBut action (program.run program.start actions)
      (program.perform (program.run program.start actions) action).session ∧
      (action.reports = false →
        (program.perform (program.run program.start actions) action).Quiet)) ∧
    ∃ names, naming.typeNames = .ok names ∧
      artifact.Performs program names naming.runtime (program.run program.start actions) := by
  refine ⟨Program.live_run enabled actions, ?_, ?_, ?_⟩
  · intro aggregator
    have entries := Program.entries_run enabled original aggregator
    exact ⟨entries, congrArg List.length entries⟩
  · intro action
    exact ⟨program.perform_agrees _ action, Program.perform_quiet enabled _⟩
  · obtain ⟨names, named, represents, distinct, hooked⟩ :=
      Artifact.generate_of_plain plain generated compiles
    obtain ⟨wellFormed, holds⟩ := of_compile compiles
    exact ⟨names, named, Artifact.performs represents distinct hooked
      (holds.nodup_storage (wellFormed .names)) enabled (Program.fits_run enabled actions)⟩

/-- A schema of two metrics. -/
def transfers : Schema :=
  { declarations := [.base ⟨"reads", .counter⟩, .base ⟨"bytes read", .sum⟩] }

/-- Calls of two threads, one of which publishes twice. -/
def interleaved : List Action :=
  [.hook 1 "reads" 0 1, .hook 2 "reads" 0 2, .hook 1 "bytes read" 512 1, .publishHook 1 0,
    .hook 2 "bytes read" 64 1, .publishHook 1 0, .hook 1 "bytes read" 5 1]

theorem calls_attributed_interleaved : ∃ program : Program,
    compile transfers = .ok program.compiled ∧ program.enabled = true ∧
    (program.run program.start interleaved).live.get 1 =
      program.recordOf [⟨"bytes read", 5⟩] ∧
    ((program.run program.start interleaved).aggregators.get 0).length = 2 := by
  have generates : (generate transfers {} .enabled []).isOk = true := by decide +kernel
  have accepted : (compile transfers).isOk = true := by decide +kernel
  have plain : transfers.PlainlySpelled := by
    unfold Schema.PlainlySpelled
    decide +kernel
  obtain ⟨artifact, generated⟩ := exists_of_isOk generates
  obtain ⟨compiled, compiles⟩ := exists_of_isOk accepted
  let program : Program := ⟨compiled, true, [], .wraps⟩
  have original : ∀ action ∈ interleaved, action.replaces = false := by decide
  obtain ⟨live, published, -⟩ := calls_attributed plain generated
    (show compile transfers = .ok program.compiled from compiles) rfl original
  exact ⟨program, compiles, rfl, live 1, (published 0).2⟩

end StatSchema
