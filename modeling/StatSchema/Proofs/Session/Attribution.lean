/-
Which calls a session has taken in. Main statements, for every run that copies no aggregator: the live
record of a thread is an empty one after the updates since it was last emptied, and an aggregator
holds the records published to it since it was last cleared. Each action preserves both, and leaves
alone what it is not about.
-/
import StatSchema.Proofs.Session.History

namespace StatSchema

/-! ## Updates -/

namespace Record

theorem modify_modify (record : Record) (metric : String) (f g : UInt64 → UInt64) :
    (record.modify metric f).modify metric g = record.modify metric (g ∘ f) := by
  unfold modify
  rw [List.map_map]
  congr 1
  refine List.map_congr_left ?_
  rintro ⟨name, value⟩ -
  by_cases hit : name = metric <;> simp [hit]

theorem modify_id (record : Record) (metric : String) : record.modify metric id = record := by
  obtain ⟨values⟩ := record
  simp [modify]

theorem mutate_zero (record : Record) (entry : BaseEntry) (amount : UInt64) :
    record.mutate entry amount 0 = record :=
  record.modify_id entry.name

theorem mutate_succ (record : Record) (entry : BaseEntry) (amount : UInt64) (times : Nat) :
    record.mutate entry amount (times + 1) =
      (record.mutate entry amount times).mutate entry amount 1 := by
  unfold mutate
  rw [modify_modify]
  rfl

end Record

namespace Program

/-- The record after one update. -/
def updatedBy (program : Program) (record : Record) (update : Update) : Record :=
  program.mutated record update.metric update.amount 1

/-- The record that has taken in some updates and nothing else. -/
def recordOf (program : Program) (updates : List Update) : Record :=
  updates.foldl program.updatedBy (.empty program.compiled)

variable (program : Program)

/-- Calling a mutator several times is making as many updates. -/
theorem mutated_eq_foldl (record : Record) (metric : String) (amount : UInt64) (times : Nat) :
    program.mutated record metric amount times =
      (List.replicate times ⟨metric, amount⟩).foldl program.updatedBy record := by
  induction times with
  | zero =>
    unfold mutated
    split
    · exact record.mutate_zero _ _
    · rfl
  | succ times ih =>
    rw [List.replicate_succ', List.foldl_append, ← ih, List.foldl_cons, List.foldl_nil, updatedBy]
    unfold mutated
    cases program.compiled.storage.find? (·.name == metric) with
    | some entry => exact record.mutate_succ entry amount times
    | none => rfl

theorem effect_of_enabled (enabled : program.enabled = true) {hook : Hook}
    (h : hook ≠ .lifecycle .dump) : program.effect hook = .work := by
  unfold effect Hook.effect
  rw [enabled]
  split <;> simp [h]

end Program

/-- A record of the metrics of a compiled schema. -/
def Record.Fits (record : Record) (compiled : CompiledSchema) : Prop :=
  record.values.map (·.1) = compiled.storage.map (·.name)

namespace Record.Fits

variable {compiled : CompiledSchema} {record : Record}

theorem empty (compiled : CompiledSchema) : (Record.empty compiled).Fits compiled := by
  unfold Fits Record.empty
  rw [List.map_map]
  rfl

theorem modify (fits : record.Fits compiled) (metric : String) (change : UInt64 → UInt64) :
    (record.modify metric change).Fits compiled := by
  unfold Fits Record.modify
  rw [List.map_map]
  exact fits

theorem foldl {program : Program} (updates : List Update) (fits : record.Fits program.compiled) :
    (updates.foldl program.updatedBy record).Fits program.compiled := by
  induction updates generalizing record with
  | nil => exact fits
  | cons update rest ih =>
    refine ih ?_
    unfold Program.updatedBy Program.mutated
    split
    · exact fits.modify _ _
    · exact fits

end Record.Fits

namespace Program

/-! ## Single actions -/

variable {program : Program}

theorem call_of_enabled (enabled : program.enabled = true) {hook : Hook}
    (h : hook ≠ .lifecycle .dump) (session : Session) (argument : Argument) (times : Nat)
    (work : Reaction) : program.call session hook argument times work = work := by
  unfold call
  rw [program.effect_of_enabled enabled h]

theorem perform_hook_of_some (enabled : program.enabled = true) {metric : String}
    {entry : BaseEntry} (found : program.compiled.storage.find? (·.name == metric) = some entry)
    (session : Session) (thread : Nat) (amount : UInt64) (times : Nat) :
    program.perform session (.hook thread metric amount times) =
      { session := program.updated session thread metric amount times } := by
  rw [perform, callMetric, found]
  exact call_of_enabled enabled (by simp) _ _ _ _

theorem perform_hook_of_none {metric : String}
    (missing : program.compiled.storage.find? (·.name == metric) = none)
    (session : Session) (thread : Nat) (amount : UInt64) (times : Nat) :
    program.perform session (.hook thread metric amount times) = { session } := by
  rw [perform, callMetric, missing]

theorem perform_publishHook (enabled : program.enabled = true) (session : Session)
    (thread aggregator : Nat) :
    program.perform session (.publishHook thread aggregator) =
      { session := withAggregator (program.taken session thread).2 aggregator
          (·.publish (session.live.get thread)) } :=
  call_of_enabled enabled (by simp) _ _ _ _

theorem perform_clearHook (enabled : program.enabled = true) (session : Session)
    (aggregator : Nat) :
    program.perform session (.clearHook aggregator) =
      { session := withAggregator session aggregator (·.clear) } :=
  call_of_enabled enabled (by simp) _ _ _ _

theorem session_perform_dumpHook (session : Session) (aggregator : Nat) :
    (program.perform session (.dumpHook aggregator)).session = session := by
  rw [perform, call]
  split <;> rfl

theorem session_perform_hookWhileLent (session : Session) (thread : Nat) (metric : String)
    (amount : UInt64) :
    (program.perform session (.hookWhileLent thread metric amount)).session = session := by
  rw [perform, callMetric]
  split
  · rw [call]
    split <;> rfl
  · rfl

end Program

/-! ## Live records -/

theorem Slots.get_set {α : Type} (slots : Slots α) (number other : Nat) (value : α) :
    (slots.set number value).get other = if number = other then value else slots.get other := by
  split
  · rename_i same
    rw [same, slots.get_set_self]
  · rename_i apart
    rw [slots.get_set_of_ne value (Ne.symm apart)]

namespace Program

variable {program : Program}

theorem live_updated (session : Session) (thread other : Nat) (metric : String) (amount : UInt64)
    (times : Nat) :
    (program.updated session thread metric amount times).live.get other =
      (if thread = other then List.replicate times ⟨metric, amount⟩ else []).foldl program.updatedBy
        (session.live.get other) := by
  rw [updated, Slots.get_set]
  split
  · rename_i same
    rw [same, mutated_eq_foldl]
  · rfl

/-- What an action makes of the live record of a thread. -/
theorem live_perform (enabled : program.enabled = true) (session : Session) (action : Action)
    (thread : Nat) :
    (program.perform session action).session.live.get thread =
      if action.empties thread then .empty program.compiled
      else (action.updates thread).foldl program.updatedBy (session.live.get thread) := by
  cases action with
  | hook other metric amount times =>
    show _ = (if other = thread then _ else _ : List Update).foldl program.updatedBy _
    rw [← live_updated]
    cases found : program.compiled.storage.find? (·.name == metric) with
    | some entry => rw [perform_hook_of_some enabled found]
    | none =>
      -- there is no such metric, and then no mutator of it either
      rw [perform_hook_of_none found, updated, Slots.get_set, mutated, found]
      split
      · rename_i same
        rw [same]
      · rfl
  | publishHook other aggregator =>
    rw [perform_publishHook enabled]
    simp [taken, withAggregator, Slots.get_set, Action.empties, Action.updates]
  | clearHook aggregator =>
    rw [perform_clearHook enabled]
    rfl
  | dumpHook aggregator =>
    rw [session_perform_dumpHook]
    rfl
  | updateCurrent other metric amount => exact live_updated session other thread metric amount 1
  | hookWhileLent other metric amount =>
    rw [session_perform_hookWhileLent]
    rfl
  | takeCurrent other record =>
    simp [perform, taken, Slots.get_set, Action.empties, Action.updates]
  | mutate record metric amount times => rfl
  | reset record => rfl
  | copy record target => rfl
  | publish aggregator record times => rfl
  | clear aggregator => rfl
  | copyAggregator aggregator target => rfl

/-- The live record of a thread is an empty one after the updates since it was last emptied. -/
theorem live_run (enabled : program.enabled = true) (actions : List Action) (thread : Nat) :
    (program.run program.start actions).live.get thread =
      program.recordOf (pending thread actions) := by
  -- the last action is looked at first: it either empties the record or adds to what was pending
  induction actions using List.reverseRecOn with
  | nil => rfl
  | append_singleton actions action ih =>
    rw [run_concat, live_perform enabled, ih, pending_concat]
    split
    · rfl
    · rw [recordOf, recordOf, List.foldl_append]

end Program

/-! ## Aggregators -/

namespace Program

variable {program : Program}

theorem entries_withAggregator (session : Session) (aggregator other : Nat)
    (change : Ledger Record → Ledger Record) :
    ((withAggregator session aggregator change).aggregators.get other).entries =
      if aggregator = other then (change (session.aggregators.get other)).entries
      else (session.aggregators.get other).entries := by
  rw [withAggregator, Slots.get_set]
  split
  · rename_i same
    rw [same]
  · rfl

/-- What an action makes of the records of an aggregator. -/
theorem entries_perform (enabled : program.enabled = true) (session : Session) {action : Action}
    (original : action.replaces = false) (aggregator : Nat) :
    ((program.perform session action).session.aggregators.get aggregator).entries =
      if action.clears aggregator then []
      else (session.aggregators.get aggregator).entries ++ action.publishes aggregator session := by
  cases action with
  | hook thread metric amount times =>
    cases found : program.compiled.storage.find? (·.name == metric) with
    | some entry =>
      rw [perform_hook_of_some enabled found]
      exact (List.append_nil _).symm
    | none =>
      rw [perform_hook_of_none found]
      exact (List.append_nil _).symm
  | publishHook thread other =>
    rw [perform_publishHook enabled, entries_withAggregator]
    by_cases here : other = aggregator <;>
      simp [here, taken, Action.clears, Action.publishes]
  | clearHook other =>
    rw [perform_clearHook enabled, entries_withAggregator]
    by_cases here : other = aggregator <;> simp [here, Action.clears, Action.publishes]
  | dumpHook other =>
    rw [session_perform_dumpHook]
    exact (List.append_nil _).symm
  | updateCurrent thread metric amount => exact (List.append_nil _).symm
  | hookWhileLent thread metric amount =>
    rw [session_perform_hookWhileLent]
    exact (List.append_nil _).symm
  | takeCurrent thread record => exact (List.append_nil _).symm
  | mutate record metric amount times => exact (List.append_nil _).symm
  | reset record => exact (List.append_nil _).symm
  | copy record target => exact (List.append_nil _).symm
  | publish other record times =>
    rw [perform, entries_withAggregator]
    by_cases here : other = aggregator <;>
      simp [here, Ledger.publishAll, Action.clears, Action.publishes]
  | clear other =>
    rw [perform, entries_withAggregator]
    by_cases here : other = aggregator <;> simp [here, Action.clears, Action.publishes]
  | copyAggregator other target => cases original

/-- An aggregator holds the records published to it since it was last cleared. -/
theorem entries_run (enabled : program.enabled = true) {actions : List Action}
    (original : ∀ action ∈ actions, action.replaces = false) (aggregator : Nat) :
    ((program.run program.start actions).aggregators.get aggregator).entries =
      program.published aggregator actions := by
  induction actions using List.reverseRecOn with
  | nil => rfl
  | append_singleton actions action ih =>
    have last := original action (by simp)
    have before := ih fun other here => original other (List.mem_append_left _ here)
    rw [run_concat, entries_perform enabled _ last, before, published_concat]

end Program

/-! ## What an action leaves alone -/

namespace Action

/-- The thread whose live record an action may change. -/
def thread? : Action → Option Nat
  | .hook thread _ _ _ => some thread
  | .publishHook thread _ => some thread
  | .updateCurrent thread _ _ => some thread
  | .takeCurrent thread _ => some thread
  | _ => none

/-- The aggregator that an action may change. -/
def aggregator? : Action → Option Nat
  | .publishHook _ aggregator => some aggregator
  | .clearHook aggregator => some aggregator
  | .publish aggregator _ _ => some aggregator
  | .clear aggregator => some aggregator
  | .copyAggregator _ target => some target
  | _ => none

/-- The record, moved out of its thread, that an action may change. -/
def record? : Action → Option Nat
  | .takeCurrent _ record => some record
  | .mutate record _ _ _ => some record
  | .reset record => some record
  | .copy _ target => some target
  | _ => none

end Action

/-- Two sessions that agree but for what an action is about. -/
structure Session.AgreesBut (action : Action) (before after : Session) : Prop where
  live : ∀ thread, action.thread? ≠ some thread → after.live.get thread = before.live.get thread
  aggregators : ∀ aggregator, action.aggregator? ≠ some aggregator →
    after.aggregators.get aggregator = before.aggregators.get aggregator
  records : ∀ record, action.record? ≠ some record →
    after.records.get record = before.records.get record

namespace Session.AgreesBut

theorem refl (action : Action) (session : Session) : AgreesBut action session session :=
  ⟨fun _ _ => rfl, fun _ _ => rfl, fun _ _ => rfl⟩

variable {program : Program} {action : Action} {session : Session} {work : Reaction}

/-- A hook leaves the session as it is, or does its own work. -/
theorem call (h : AgreesBut action session work.session) (hook : Hook) (argument : Argument)
    (times : Nat) :
    AgreesBut action session (program.call session hook argument times work).session := by
  unfold Program.call
  split
  · exact refl action session
  · exact refl action session
  · exact h

theorem callMetric (h : AgreesBut action session work.session) (metric : String)
    (amount : UInt64) (times : Nat) :
    AgreesBut action session (program.callMetric session metric amount times work).session := by
  unfold Program.callMetric
  split
  · exact h.call _ _ _
  · exact refl action session

end Session.AgreesBut

theorem Slots.get_set_of_some_ne {α : Type} (slots : Slots α) {number other : Nat} (value : α)
    (apart : some number ≠ some other) : (slots.set number value).get other = slots.get other :=
  slots.get_set_of_ne value fun same => apart (congrArg some same.symm)

/-- An action, overridden or not, changes nothing but what it is about. -/
theorem Program.perform_agrees (program : Program) (session : Session) (action : Action) :
    Session.AgreesBut action session (program.perform session action).session := by
  cases action with
  | hook thread metric amount times =>
    refine Session.AgreesBut.callMetric ?_ _ _ _
    exact ⟨fun _ apart => Slots.get_set_of_some_ne _ _ apart, fun _ _ => rfl, fun _ _ => rfl⟩
  | publishHook thread aggregator =>
    refine Session.AgreesBut.call ?_ _ _ _
    exact ⟨fun _ apart => Slots.get_set_of_some_ne _ _ apart,
      fun _ apart => Slots.get_set_of_some_ne _ _ apart, fun _ _ => rfl⟩
  | clearHook aggregator =>
    refine Session.AgreesBut.call ?_ _ _ _
    exact ⟨fun _ _ => rfl, fun _ apart => Slots.get_set_of_some_ne _ _ apart, fun _ _ => rfl⟩
  | dumpHook aggregator =>
    rw [session_perform_dumpHook]
    exact .refl _ _
  | updateCurrent thread metric amount =>
    exact ⟨fun _ apart => Slots.get_set_of_some_ne _ _ apart, fun _ _ => rfl, fun _ _ => rfl⟩
  | hookWhileLent thread metric amount =>
    rw [session_perform_hookWhileLent]
    exact .refl _ _
  | takeCurrent thread record =>
    exact ⟨fun _ apart => Slots.get_set_of_some_ne _ _ apart, fun _ _ => rfl,
      fun _ apart => Slots.get_set_of_some_ne _ _ apart⟩
  | mutate record metric amount times =>
    exact ⟨fun _ _ => rfl, fun _ _ => rfl, fun _ apart => Slots.get_set_of_some_ne _ _ apart⟩
  | reset record =>
    exact ⟨fun _ _ => rfl, fun _ _ => rfl, fun _ apart => Slots.get_set_of_some_ne _ _ apart⟩
  | copy record target =>
    exact ⟨fun _ _ => rfl, fun _ _ => rfl, fun _ apart => Slots.get_set_of_some_ne _ _ apart⟩
  | publish aggregator record times =>
    exact ⟨fun _ _ => rfl, fun _ apart => Slots.get_set_of_some_ne _ _ apart, fun _ _ => rfl⟩
  | clear aggregator =>
    exact ⟨fun _ _ => rfl, fun _ apart => Slots.get_set_of_some_ne _ _ apart, fun _ _ => rfl⟩
  | copyAggregator aggregator target =>
    exact ⟨fun _ _ => rfl, fun _ apart => Slots.get_set_of_some_ne _ _ apart, fun _ _ => rfl⟩

end StatSchema
