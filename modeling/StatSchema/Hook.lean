/-
What hooks do. While instrumentation is on, a hook does its own work; while it is off, it calls the
function that overrides it, or does nothing. The report is the exception: a function that overrides
it is called in either case.
-/
import StatSchema.Override

namespace StatSchema

/-- Whether hooks do their work: always, never, or as a feature of the compiled code says. -/
inductive Instrumentation where
  | enabled
  | disabled
  | feature (name : String)
  deriving DecidableEq, Repr

/-- A hook: of a base metric, or of a step in the life of an aggregator. -/
inductive Hook where
  | metric (entry : BaseEntry)
  | lifecycle (step : Lifecycle)
  deriving DecidableEq, Repr

/-- What a call of a hook does. -/
inductive HookEffect where
  | nothing
  /-- The hook's own work. -/
  | work
  /-- A call of another function, with what the hook is given. -/
  | call (target : Path)
  deriving DecidableEq, Repr

namespace Hook

/-- The name that a hook is overridden and called by. -/
def name : Hook → String
  | metric entry => entry.name
  | lifecycle step => step.word

/-- All hooks of a schema, in the order in which they are generated. -/
def all (compiled : CompiledSchema) : List Hook :=
  compiled.storage.map metric ++ Lifecycle.all.map lifecycle

/-- What a call of the hook does, given the function that overrides it. -/
def effect (hook : Hook) (enabled : Bool) (override? : Option Path) : HookEffect :=
  match override? with
  | some target => if enabled && hook ≠ lifecycle .dump then .work else .call target
  | none => if enabled then .work else .nothing

end Hook

end StatSchema
