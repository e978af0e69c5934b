/-
What has been done to a session. A run does one action after the other; its history pairs each action
with the session that it found. What counts for a thread or for an aggregator is what came since its
own last reset, so a history is cut there.
-/
import StatSchema.Session
import Mathlib.Data.List.DropRight

namespace StatSchema

/-- What has come since the last element that ends something. -/
def since {α : Type} (ends : α → Bool) (l : List α) : List α := l.rtakeWhile fun a => !ends a

theorem since_concat {α : Type} (ends : α → Bool) (l : List α) (a : α) :
    since ends (l ++ [a]) = if ends a then [] else since ends l ++ [a] := by
  unfold since
  rw [List.rtakeWhile_concat]
  cases ends a <;> rfl

theorem flatMap_since_concat {α β : Type} (ends : α → Bool) (f : α → List β) (l : List α) (a : α) :
    (since ends (l ++ [a])).flatMap f =
      if ends a then [] else (since ends l).flatMap f ++ f a := by
  rw [since_concat]
  split
  · rfl
  · rw [List.flatMap_append, List.flatMap_singleton]

namespace Program

/-! ## Runs -/

/-- The session after some actions. -/
def run (program : Program) (session : Session) (actions : List Action) : Session :=
  actions.foldl (fun session action => (program.perform session action).session) session

/-- The actions of a run, each with the session that it found. -/
def history (program : Program) (session : Session) : List Action → List (Session × Action)
  | [] => []
  | action :: rest =>
    (session, action) :: program.history (program.perform session action).session rest

variable (program : Program) (session : Session)

theorem run_concat (actions : List Action) (action : Action) :
    program.run session (actions ++ [action]) =
      (program.perform (program.run session actions) action).session := by
  rw [run, List.foldl_append]
  rfl

theorem history_concat (actions : List Action) (action : Action) :
    program.history session (actions ++ [action]) =
      program.history session actions ++ [(program.run session actions, action)] := by
  induction actions generalizing session with
  | nil => rfl
  | cons first rest ih =>
    rw [List.cons_append, history, ih]
    rfl

end Program

/-! ## Threads -/

/-- A call of the mutator of a metric. -/
structure Update where
  metric : String
  amount : UInt64
  deriving DecidableEq

namespace Action

/-- Whether an action leaves a thread with an empty record. -/
def empties (thread : Nat) : Action → Bool
  | .publishHook other _ => other == thread
  | .takeCurrent other _ => other == thread
  | _ => false

/-- The updates that an action makes to the live record of a thread. -/
def updates (thread : Nat) : Action → List Update
  | .hook other metric amount times =>
    if other = thread then List.replicate times ⟨metric, amount⟩ else []
  | .updateCurrent other metric amount => if other = thread then [⟨metric, amount⟩] else []
  | _ => []

end Action

/-- The updates to the live record of a thread since it was last emptied. -/
def pending (thread : Nat) (actions : List Action) : List Update :=
  (since (Action.empties thread) actions).flatMap (Action.updates thread)

theorem pending_concat (thread : Nat) (actions : List Action) (action : Action) :
    pending thread (actions ++ [action]) =
      if action.empties thread then [] else pending thread actions ++ action.updates thread :=
  flatMap_since_concat _ _ _ _

/-! ## Aggregators -/

namespace Action

/-- Whether an action clears an aggregator. -/
def clears (aggregator : Nat) : Action → Bool
  | .clearHook other => other == aggregator
  | .clear other => other == aggregator
  | _ => false

/-- Whether an action replaces an aggregator by a copy of another. -/
def replaces : Action → Bool
  | .copyAggregator _ _ => true
  | _ => false

/-- The records that an action publishes to an aggregator, given the session that it finds. A hook
publishes what is live in its thread. -/
def publishes (aggregator : Nat) (session : Session) : Action → List Record
  | .publishHook thread other => if other = aggregator then [session.live.get thread] else []
  | .publish other record times =>
    if other = aggregator then List.replicate times (session.records.get record) else []
  | _ => []

end Action

/-- The records published to an aggregator since it was last cleared. -/
def Program.published (program : Program) (aggregator : Nat) (actions : List Action) :
    List Record :=
  (since (fun (_, action) => action.clears aggregator)
    (program.history program.start actions)).flatMap
      fun (session, action) => action.publishes aggregator session

theorem Program.published_concat (program : Program) (aggregator : Nat) (actions : List Action)
    (action : Action) :
    program.published aggregator (actions ++ [action]) =
      if action.clears aggregator then []
      else program.published aggregator actions ++
        action.publishes aggregator (program.run program.start actions) := by
  rw [published, history_concat, flatMap_since_concat]
  rfl

end StatSchema
