/-
Hooks and the functions that may stand in for them. There is a hook for each base metric, named by
the metric, and one for each step in the life of an aggregator.
-/
import StatSchema.Compiled
import StatSchema.Path

namespace StatSchema

/-- The hooks that exist whatever the schema. -/
inductive Lifecycle where
  | publish
  | clear
  | dump
  deriving DecidableEq, Repr

/-- The name of a lifecycle hook. -/
def Lifecycle.word : Lifecycle → String
  | publish => "publish"
  | clear => "clear"
  | dump => "dump"

/-- All lifecycle hooks, in the order in which they are generated. -/
def Lifecycle.all : List Lifecycle := [publish, clear, dump]

/-- A function to call in place of a hook. -/
structure Override where
  hook : String
  target : Path
  deriving DecidableEq, Repr

/-- The function to call in place of a hook, by the first override of it. -/
def overrideOf? (overrides : List Override) (hook : String) : Option Path :=
  (overrides.find? (·.hook == hook)).map (·.target)

/-- Whether a schema leads to a hook of that name. -/
def CompiledSchema.hasHook (compiled : CompiledSchema) (hook : String) : Bool :=
  Lifecycle.all.any (·.word == hook) || compiled.storage.any (·.name == hook)

/-- Checks that every override is of a hook that exists and that none is repeated, `seen` having
come before. -/
def checkOverrides (compiled : CompiledSchema) (seen : List String) :
    List Override → Except Failure Unit
  | [] => .ok ()
  | override :: rest =>
    if !compiled.hasHook override.hook then refuse (.unknownHook override.hook)
    else if seen.contains override.hook then
      refuse (.duplicateName override.hook .overrides)
    else checkOverrides compiled (override.hook :: seen) rest

end StatSchema
