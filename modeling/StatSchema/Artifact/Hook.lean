/-
The generated hooks: one function for each, and under a feature two, of which one is kept.
-/
import StatSchema.Artifact.Record
import StatSchema.Hook

namespace StatSchema.Artifact

open StatSchema.Token

/-- The attributes of a hook; one that does nothing is always inlined. -/
def hookAttributes (documentation : String) (effect : HookEffect) : List Attribute :=
  [.doc documentation,
    .other (name "allow" ++
      parens (code "dead_code , reason =" ++ [.string "not every host calls every hook"])),
    .other (name "inline" ++ if effect = .nothing then parens (name "always") else [])]

/-- A hook that takes one argument, named otherwise where it goes unused. -/
def argumentHook (documentation identifier argument : String) (type : List Token)
    (effect : HookEffect) (body : List Token) : Routine where
  attributes := hookAttributes documentation effect
  name := identifier
  parameters :=
    name (if effect = .nothing then "_" ++ argument else argument) ++ code ":" ++ type
  body := body

/-- The hook of a base metric. -/
def metricHook (names : TypeNames) (runtime : Path) (entry : BaseEntry) (identifier : String)
    (effect : HookEffect) : Routine :=
  let updating (argument : List Token) : List Token :=
    name names.record ++ code ":: with_current" ++ parens argument ++ code ";"
  let taking (documentation : String) : Routine :=
    argumentHook documentation identifier "amount" (amountType runtime) effect
      (match effect with
      | .nothing => []
      | .work =>
        updating (code "| record | record ." ++ name entry.mutator ++ parens (name "amount"))
      | .call target => target.tokens ++ parens (asWord runtime "amount") ++ code ";")
  match entry.kind with
  | .counter =>
    { attributes :=
        hookAttributes ("Counts one " ++ shown entry.name ++ " event on the current thread.") effect
      name := identifier
      parameters := []
      body := match effect with
        | .nothing => []
        | .work => updating (name names.record ++ code "::" ++ name entry.mutator)
        | .call target => target.tokens ++ parens [] ++ code ";" }
  | .sum => taking ("Adds `amount` to " ++ shown entry.name ++ " on the current thread.")
  | .max =>
    taking ("Raises " ++ shown entry.name ++ " on the current thread to `amount` if it is larger.")

/-- The documentation of a lifecycle hook. -/
def lifecycleDocumentation : Lifecycle → String
  | .publish => "Moves the current thread's record into `aggregator` and starts a fresh one."
  | .clear => "Removes every record published to `aggregator`."
  | .dump => "Prints the report of `aggregator` to standard output."

/-- How a lifecycle hook takes its aggregator. -/
def receiver (names : TypeNames) : Lifecycle → List Token
  | .dump => code "&" ++ name names.aggregator
  | _ => code "& mut" ++ name names.aggregator

/-- The work of a lifecycle hook. -/
def lifecycleWork (names : TypeNames) : Lifecycle → List Token
  | .publish =>
    code "aggregator . publish" ++
      parens (name names.record ++ code ":: take_current" ++ parens []) ++ code ";"
  | .clear => code "aggregator . clear" ++ parens [] ++ code ";"
  | .dump => code ":: std :: print !" ++ parens [.string "\x7baggregator\x7d"] ++ code ";"

/-- A lifecycle hook. -/
def lifecycleHook (names : TypeNames) (step : Lifecycle) (identifier : String)
    (effect : HookEffect) : Routine :=
  argumentHook (lifecycleDocumentation step) identifier "aggregator" (receiver names step) effect
    (match effect with
    | .nothing => []
    | .work => lifecycleWork names step
    | .call target => target.tokens ++ parens (name "aggregator") ++ code ";")

/-- A hook with a given effect. -/
def hookRoutine (names : TypeNames) (runtime : Path) (identifier : String) (effect : HookEffect) :
    StatSchema.Hook → Routine
  | .metric entry => metricHook names runtime entry identifier effect
  | .lifecycle step => lifecycleHook names step identifier effect

/-- A function that is kept only while a feature is on, or only while it is off. -/
def gated (feature : String) (on : Bool) (routine : Routine) : Routine :=
  { routine with attributes := .feature feature on :: routine.attributes }

/-- A hook as instrumentation selects it. -/
def selected (instrumentation : Instrumentation) (routine : Bool → Routine) : List Routine :=
  match instrumentation with
  | .enabled => [routine true]
  | .disabled => [routine false]
  | .feature name => [gated name true (routine true), gated name false (routine false)]

/-- The functions of all hooks. -/
def hooks (compiled : CompiledSchema) (naming : Naming) (names : TypeNames)
    (instrumentation : Instrumentation) (overrides : List Override) :
    Except Failure (List Item) := do
  let routines ← (StatSchema.Hook.all compiled).mapM fun hook => do
    let identifier ← identifierOf (naming.hookText hook.name)
    let effect := fun enabled => hook.effect enabled (overrideOf? overrides hook.name)
    return selected instrumentation fun enabled =>
      hookRoutine names naming.runtime identifier (effect enabled) hook
  return routines.flatten.map Item.routine

end StatSchema.Artifact
