/-
Hooks on and off. While they are off, the call of a hook is as many calls of the function that overrides
it and leaves the session alone; while they are on, only the report is handed over, and the other
hooks do what they do without overrides. Main statements: what one action does in either case, and from
it what a run leaves and shows.
-/
import StatSchema.Proofs.Session.Attribution

namespace StatSchema

/-! ## Calls of hooks -/

namespace Action

/-- Whether an action is the call of a hook. -/
def callsHook : Action → Bool
  | .hook _ _ _ _ => true
  | .publishHook _ _ => true
  | .clearHook _ => true
  | .dumpHook _ => true
  | .hookWhileLent _ _ _ => true
  | _ => false

/-- Whether an action is the call of the hook that reports. -/
def dumps : Action → Bool
  | .dumpHook _ => true
  | _ => false

end Action

namespace Program

/-- The hook that an action calls, what it hands on, and how often it is called. -/
def hookCall? (program : Program) (session : Session) : Action → Option (Hook × Argument × Nat)
  | .hook _ metric amount times =>
    (program.compiled.storage.find? (·.name == metric)).map fun entry =>
      (.metric entry, given entry amount, times)
  | .publishHook _ aggregator =>
    some (.lifecycle .publish, .aggregator (session.aggregators.get aggregator), 1)
  | .clearHook aggregator =>
    some (.lifecycle .clear, .aggregator (session.aggregators.get aggregator), 1)
  | .dumpHook aggregator =>
    some (.lifecycle .dump, .aggregator (session.aggregators.get aggregator), 1)
  | .hookWhileLent _ metric amount =>
    (program.compiled.storage.find? (·.name == metric)).map fun entry =>
      (.metric entry, given entry amount, 1)
  | _ => none

/-- The calls of the function that overrides the hook that an action calls, one for each call. -/
def delegated (program : Program) (session : Session) (action : Action) : List Event :=
  match program.hookCall? session action with
  | some (hook, argument, times) =>
    match overrideOf? program.overrides hook.name with
    | some target => List.replicate times (.called target argument)
    | none => []
  | none => []

/-- The program without its overrides. -/
def unoverridden (program : Program) : Program := { program with overrides := [] }

/-- What a run shows. -/
def trace (program : Program) (session : Session) (actions : List Action) : List Event :=
  (program.history session actions).flatMap fun (found, action) =>
    (program.perform found action).events

/-! ## Single actions -/

variable {program : Program}

theorem call_of_disabled (disabled : program.enabled = false) (session : Session) (hook : Hook)
    (argument : Argument) (times : Nat) (work : Reaction) :
    program.call session hook argument times work =
      { session
        events := match overrideOf? program.overrides hook.name with
          | some target => List.replicate times (.called target argument)
          | none => [] } := by
  unfold call effect Hook.effect
  rw [disabled]
  cases overrideOf? program.overrides hook.name <;> rfl

theorem callMetric_of_disabled (disabled : program.enabled = false) (session : Session)
    (metric : String) (amount : UInt64) (times : Nat) (work : Reaction) :
    program.callMetric session metric amount times work =
      { session, events := program.delegated session (.hook 0 metric amount times) } := by
  have called : program.hookCall? session (.hook 0 metric amount times) =
    (program.compiled.storage.find? (·.name == metric)).map fun entry =>
      (.metric entry, given entry amount, times) := rfl
  unfold callMetric delegated
  rw [called]
  cases program.compiled.storage.find? (·.name == metric) with
  | none => rfl
  | some entry => exact call_of_disabled disabled _ _ _ _ _

/-- While hooks are off, calling one calls what overrides it and does nothing else. -/
theorem perform_of_disabled (disabled : program.enabled = false) (session : Session)
    {action : Action} (calls : action.callsHook = true) :
    program.perform session action = { session, events := program.delegated session action } := by
  cases action with
  | hook thread metric amount times => exact callMetric_of_disabled disabled _ _ _ _ _
  | publishHook thread aggregator => exact call_of_disabled disabled _ _ _ _ _
  | clearHook aggregator => exact call_of_disabled disabled _ _ _ _ _
  | dumpHook aggregator => exact call_of_disabled disabled _ _ _ _ _
  | hookWhileLent thread metric amount => exact callMetric_of_disabled disabled _ _ _ _ _
  | updateCurrent _ _ _ => cases calls
  | takeCurrent _ _ => cases calls
  | mutate _ _ _ _ => cases calls
  | reset _ => cases calls
  | copy _ _ => cases calls
  | publish _ _ _ => cases calls
  | clear _ => cases calls
  | copyAggregator _ _ => cases calls

theorem callMetric_of_enabled (enabled : program.enabled = true) (session : Session)
    (metric : String) (amount : UInt64) (times : Nat) (work : Reaction) :
    program.callMetric session metric amount times work =
      if (program.compiled.storage.find? (·.name == metric)).isSome then work else { session } := by
  unfold callMetric
  cases program.compiled.storage.find? (·.name == metric) with
  | none => rfl
  | some entry => exact call_of_enabled enabled (by simp) _ _ _ _

/-- While hooks are on, overrides make no difference but to the report. -/
theorem perform_of_enabled (enabled : program.enabled = true) (session : Session)
    {action : Action} (other : action.dumps = false) :
    program.perform session action = program.unoverridden.perform session action ∧
      (program.perform session action).events = [] := by
  have enabled' : program.unoverridden.enabled = true := enabled
  cases action with
  | hook thread metric amount times =>
    rw [perform, perform, callMetric_of_enabled enabled, callMetric_of_enabled enabled']
    exact ⟨rfl, by split <;> rfl⟩
  | publishHook thread aggregator =>
    rw [perform_publishHook enabled, perform_publishHook enabled']
    exact ⟨rfl, rfl⟩
  | clearHook aggregator =>
    rw [perform_clearHook enabled, perform_clearHook enabled']
    exact ⟨rfl, rfl⟩
  | dumpHook aggregator => cases other
  | hookWhileLent thread metric amount =>
    rw [perform, perform, callMetric_of_enabled enabled, callMetric_of_enabled enabled']
    exact ⟨rfl, by split <;> rfl⟩
  | updateCurrent thread metric amount => exact ⟨rfl, rfl⟩
  | takeCurrent thread record => exact ⟨rfl, rfl⟩
  | mutate record metric amount times => exact ⟨rfl, rfl⟩
  | reset record => exact ⟨rfl, rfl⟩
  | copy record target => exact ⟨rfl, rfl⟩
  | publish aggregator record times => exact ⟨rfl, rfl⟩
  | clear aggregator => exact ⟨rfl, rfl⟩
  | copyAggregator aggregator target => exact ⟨rfl, rfl⟩

/-- The report is handed over whether hooks are on or off; without an override the toggle decides. -/
theorem effect_dump (program : Program) :
    program.effect (.lifecycle .dump) =
      match overrideOf? program.overrides Lifecycle.dump.word with
      | some target => .call target
      | none => if program.enabled then .work else .nothing := by
  have named : (Hook.lifecycle .dump).name = Lifecycle.dump.word := rfl
  unfold effect Hook.effect
  rw [named]
  cases overrideOf? program.overrides Lifecycle.dump.word <;> simp

/-- A function that overrides the report is called in place of it, whether hooks are on or off. -/
theorem perform_dumpHook {target : Path}
    (overridden : overrideOf? program.overrides Lifecycle.dump.word = some target)
    (session : Session) (aggregator : Nat) :
    program.perform session (.dumpHook aggregator) =
      { session
        events := [.called target (.aggregator (session.aggregators.get aggregator))] } := by
  rw [perform, call, effect_dump, overridden]
  rfl

/-- While hooks are on, an action leaves what it leaves without overrides. -/
theorem session_perform_of_enabled (enabled : program.enabled = true) (session : Session)
    (action : Action) :
    (program.perform session action).session =
      (program.unoverridden.perform session action).session := by
  cases dumping : action.dumps with
  | false => rw [(perform_of_enabled enabled session dumping).1]
  | true =>
    cases action with
    | dumpHook aggregator => rw [session_perform_dumpHook, session_perform_dumpHook]
    | _ => cases dumping

/-- While hooks are on, no function is called but the one that overrides the report. -/
theorem called_of_enabled (enabled : program.enabled = true) {session : Session} {action : Action}
    {target : Path} {argument : Argument}
    (called : .called target argument ∈ (program.perform session action).events) :
    overrideOf? program.overrides Lifecycle.dump.word = some target := by
  cases dumping : action.dumps with
  | false =>
    rw [(perform_of_enabled enabled session dumping).2] at called
    cases called
  | true =>
    cases action with
    | dumpHook aggregator =>
      cases overridden : overrideOf? program.overrides Lifecycle.dump.word with
      | some target' =>
        rw [perform_dumpHook overridden] at called
        cases List.mem_singleton.1 called
        rfl
      | none =>
        rw [perform, call, effect_dump, overridden, enabled] at called
        cases List.mem_singleton.1 called
    | _ => cases dumping

/-! ## Runs -/

/-- While hooks are off, a run of calls leaves the session as it is and shows the calls of the
functions that override them, in order. -/
theorem run_of_disabled (disabled : program.enabled = false) (session : Session)
    {actions : List Action} (calls : ∀ action ∈ actions, action.callsHook = true) :
    program.run session actions = session ∧
      program.trace session actions = actions.flatMap (program.delegated session) := by
  induction actions with
  | nil => exact ⟨rfl, rfl⟩
  | cons action rest ih =>
    have step := perform_of_disabled disabled session (calls action List.mem_cons_self)
    obtain ⟨kept, shown⟩ := ih fun later here => calls later (List.mem_cons_of_mem _ here)
    -- the rest of the run finds the session that the first call found
    constructor
    · show program.run (program.perform session action).session rest = session
      rw [step]
      exact kept
    · show (program.perform session action).events ++
        program.trace (program.perform session action).session rest = _
      rw [step, List.flatMap_cons, ← shown]

/-- While hooks are on, a run leaves what it leaves without overrides, and no function is called but
the one that overrides the report. -/
theorem run_of_enabled (enabled : program.enabled = true) (session : Session)
    (actions : List Action) :
    program.run session actions = program.unoverridden.run session actions ∧
      ∀ target argument, .called target argument ∈ program.trace session actions →
        overrideOf? program.overrides Lifecycle.dump.word = some target := by
  induction actions generalizing session with
  | nil =>
    refine ⟨rfl, fun target argument here => ?_⟩
    cases here
  | cons action rest ih =>
    obtain ⟨kept, shown⟩ := ih (program.perform session action).session
    constructor
    · have same := session_perform_of_enabled enabled session action
      exact kept.trans (by rw [same]; rfl)
    · intro target argument here
      have here : .called target argument ∈ (program.perform session action).events ++
        program.trace (program.perform session action).session rest := here
      rcases List.mem_append.1 here with now | later
      · exact called_of_enabled enabled now
      · exact shown target argument later

end Program

end StatSchema
