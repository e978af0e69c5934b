/-
Runs that distribute calls over threads and publications. What is in the aggregator, what has been
taken to be published and what is still pending in the threads are, at any time, the calls made so far
in some order; once all is published the records of the aggregator have taken in the calls and nothing
else.
-/
import StatSchema.Proofs.Session.Aggregation
import Mathlib.Data.List.Dedup

namespace StatSchema

/-- Runs that make some calls of metrics, in any threads, and publish to one aggregator that is never
cleared: by the hook, or by taking a record and publishing it later. `held` are the records that have
been taken and wait to be published; whatever touches none of these may happen as well. -/
inductive Distributes (aggregator : Nat) : List Update → List Nat → List Action → Prop
  | nil : Distributes aggregator [] [] []
  | hook {updates : List Update} {held : List Nat} {actions : List Action} (thread : Nat)
      (metric : String) (amount : UInt64) (times : Nat) :
      Distributes aggregator updates held actions →
      Distributes aggregator (updates ++ List.replicate times ⟨metric, amount⟩) held
        (actions ++ [.hook thread metric amount times])
  | publishHook {updates : List Update} {held : List Nat} {actions : List Action} (thread : Nat) :
      Distributes aggregator updates held actions →
      Distributes aggregator updates held (actions ++ [.publishHook thread aggregator])
  | take {updates : List Update} {held : List Nat} {actions : List Action} (thread : Nat)
      {record : Nat} : record ∉ held → Distributes aggregator updates held actions →
      Distributes aggregator updates (record :: held) (actions ++ [.takeCurrent thread record])
  | publish {updates : List Update} {held : List Nat} {actions : List Action} {record : Nat} :
      record ∈ held → Distributes aggregator updates held actions →
      Distributes aggregator updates (held.erase record)
        (actions ++ [.publish aggregator record 1])
  | aside {updates : List Update} {held : List Nat} {actions : List Action} {action : Action} :
      action.thread? = none → action.aggregator? ≠ some aggregator →
      (∀ record ∈ held, action.record? ≠ some record) →
      Distributes aggregator updates held actions →
      Distributes aggregator updates held (actions ++ [action])

/-! ## Threads -/

/-- An action of another thread, or of none, makes no updates and empties nothing. -/
theorem Action.leaves_pending {action : Action} {thread : Nat}
    (apart : action.thread? ≠ some thread) :
    action.empties thread = false ∧ action.updates thread = [] := by
  cases action <;> simp_all [Action.thread?, Action.empties, Action.updates]

theorem pending_concat_of_ne {action : Action} {thread : Nat}
    (apart : action.thread? ≠ some thread) (actions : List Action) :
    pending thread (actions ++ [action]) = pending thread actions := by
  obtain ⟨kept, none⟩ := Action.leaves_pending apart
  rw [pending_concat, kept, none, List.append_nil]
  rfl

/-- What is pending in some threads. -/
def pendingIn (threads : List Nat) (actions : List Action) : List Update :=
  threads.flatMap fun thread => pending thread actions

/-- One thread among others. -/
theorem perm_pendingIn {threads : List Nat} {thread : Nat} (here : thread ∈ threads)
    (actions : List Action) :
    (pendingIn threads actions).Perm
      (pending thread actions ++ pendingIn (threads.erase thread) actions) :=
  (List.perm_cons_erase here).flatMap_right _

theorem pendingIn_concat_of_none {action : Action} (idle : action.thread? = none)
    (threads : List Nat) (actions : List Action) :
    pendingIn threads (actions ++ [action]) = pendingIn threads actions := by
  refine List.flatMap_congr fun thread _ => pending_concat_of_ne ?_ actions
  rw [idle]
  nofun

section OneThread

variable {threads : List Nat} (distinct : threads.Nodup) {thread : Nat} (here : thread ∈ threads)
  (action : Action) (acts : action.thread? = some thread) (actions : List Action)

include distinct acts

/-- An action of one thread leaves what is pending in the others. -/
theorem pendingIn_erase_concat :
    pendingIn (threads.erase thread) (actions ++ [action]) =
      pendingIn (threads.erase thread) actions := by
  refine List.flatMap_congr fun other there => pending_concat_of_ne ?_ actions
  rw [acts]
  intro same
  cases same
  exact distinct.not_mem_erase there

include here

/-- An action that does not empty its thread adds its updates. -/
theorem perm_pendingIn_grown (kept : action.empties thread = false) :
    (pendingIn threads (actions ++ [action])).Perm
      (pendingIn threads actions ++ action.updates thread) := by
  have grown : pending thread (actions ++ [action]) =
      pending thread actions ++ action.updates thread := by
    rw [pending_concat, kept]
    rfl
  refine (perm_pendingIn here _).trans ?_
  rw [grown, pendingIn_erase_concat distinct action acts, List.append_assoc]
  refine (List.perm_append_comm.append_left _).trans ?_
  rw [← List.append_assoc]
  exact (perm_pendingIn here actions).symm.append_right _

/-- What a thread is emptied of is no longer pending. -/
theorem perm_pendingIn_emptied (empties : action.empties thread = true) :
    (pending thread actions ++ pendingIn threads (actions ++ [action])).Perm
      (pendingIn threads actions) := by
  have gone : pending thread (actions ++ [action]) = [] := by
    rw [pending_concat, if_pos empties]
  refine List.Perm.trans ?_ (perm_pendingIn here actions).symm
  refine List.Perm.append_left _ ?_
  refine (perm_pendingIn here _).trans ?_
  rw [gone, pendingIn_erase_concat distinct action acts]
  exact .refl _

end OneThread

/-! ## Publications -/

/-- Where the calls made so far are: in the records of the aggregator, part by part, in records that
wait to be published, and pending in the threads. -/
structure Split (program : Program) (aggregator : Nat) (threads : List Nat)
    (updates : List Update) (held : List Nat) (actions : List Action)
    (parts : List (List Update)) (carried : Nat → List Update) : Prop where
  entries : ((program.run program.start actions).aggregators.get aggregator).entries =
    parts.map program.recordOf
  records : ∀ record ∈ held, (program.run program.start actions).records.get record =
    program.recordOf (carried record)
  once : held.Nodup
  perm : (parts.flatten ++ (held.flatMap carried ++ pendingIn threads actions)).Perm updates

namespace Split

variable {program : Program} {aggregator : Nat} {threads : List Nat} {updates : List Update}
  {held : List Nat} {actions : List Action} {parts : List (List Update)}
  {carried : Nat → List Update}
  (split : Split program aggregator threads updates held actions parts carried)

include split

/-- The records that wait to be published stay as they are, if an action is not about them. -/
theorem records_concat (action : Action) (apart : ∀ record ∈ held, action.record? ≠ some record) :
    ∀ record ∈ held, (program.run program.start (actions ++ [action])).records.get record =
      program.recordOf (carried record) := by
  intro record waits
  rw [Program.run_concat, (program.perform_agrees _ action).records record (apart record waits)]
  exact split.records record waits

theorem hook (enabled : program.enabled = true) (distinct : threads.Nodup) {thread : Nat}
    (here : thread ∈ threads) (metric : String) (amount : UInt64) (times : Nat) :
    Split program aggregator threads (updates ++ List.replicate times ⟨metric, amount⟩) held
      (actions ++ [.hook thread metric amount times]) parts carried := by
  refine ⟨?_, split.records_concat _ fun _ _ => nofun, split.once, ?_⟩
  · rw [Program.run_concat, Program.entries_perform enabled _ rfl, ← split.entries]
    exact List.append_nil _
  · have grown := perm_pendingIn_grown distinct here (.hook thread metric amount times) rfl actions
      rfl
    rw [Action.updates, if_pos rfl] at grown
    refine ((grown.append_left _).append_left _).trans ?_
    rw [← List.append_assoc, ← List.append_assoc]
    exact (List.append_assoc _ _ _ ▸ split.perm).append_right _

theorem publishHook (enabled : program.enabled = true) (distinct : threads.Nodup) {thread : Nat}
    (here : thread ∈ threads) :
    Split program aggregator threads updates held (actions ++ [.publishHook thread aggregator])
      (parts ++ [pending thread actions]) carried := by
  refine ⟨?_, split.records_concat _ fun _ _ => nofun, split.once, ?_⟩
  · rw [Program.run_concat, Program.entries_perform enabled _ rfl, split.entries, List.map_append,
      List.map_singleton, ← Program.live_run enabled]
    simp [Action.clears, Action.publishes]
  · have emptied := perm_pendingIn_emptied distinct here (.publishHook thread aggregator) rfl actions
      (beq_self_eq_true thread)
    rw [List.flatten_append, List.flatten_singleton, List.append_assoc]
    refine (List.Perm.append_left _ ?_).trans split.perm
    exact (List.perm_append_comm_assoc _ _ _).trans (emptied.append_left _)

theorem take (enabled : program.enabled = true) (distinct : threads.Nodup) {thread : Nat}
    (here : thread ∈ threads) {record : Nat} (free : record ∉ held) :
    Split program aggregator threads updates (record :: held)
      (actions ++ [.takeCurrent thread record]) parts
      (Function.update carried record (pending thread actions)) := by
  -- the record that is taken is none of those that wait, so what they carry stays
  have others : ∀ other ∈ held,
      Function.update carried record (pending thread actions) other = carried other := by
    intro other waits
    refine Function.update_of_ne ?_ _ _
    rintro rfl
    exact free waits
  refine ⟨?_, ?_, List.nodup_cons.2 ⟨free, split.once⟩, ?_⟩
  · rw [Program.run_concat, Program.entries_perform enabled _ rfl, ← split.entries]
    exact List.append_nil _
  · intro other waits
    rcases List.mem_cons.1 waits with rfl | waits
    · rw [Function.update_self, Program.run_concat, ← Program.live_run enabled]
      exact Slots.get_set_self _ _ _
    · rw [others other waits]
      refine split.records_concat _ ?_ other waits
      rintro other waits ⟨⟩
      exact free waits
  · have emptied := perm_pendingIn_emptied distinct here (.takeCurrent thread record) rfl actions
      (beq_self_eq_true thread)
    rw [List.flatMap_cons, Function.update_self, List.flatMap_congr others, List.append_assoc]
    refine (List.Perm.append_left _ ?_).trans split.perm
    exact (List.perm_append_comm_assoc _ _ _).trans (emptied.append_left _)

theorem publish (enabled : program.enabled = true) {record : Nat} (waits : record ∈ held) :
    Split program aggregator threads updates (held.erase record)
      (actions ++ [.publish aggregator record 1]) (parts ++ [carried record]) carried := by
  have kept := split.records_concat (.publish aggregator record 1) fun _ _ => nofun
  refine ⟨?_, fun other there => kept other (List.mem_of_mem_erase there), split.once.erase _, ?_⟩
  · rw [Program.run_concat, Program.entries_perform enabled _ rfl, split.entries, List.map_append,
      List.map_singleton, ← split.records record waits]
    simp [Action.clears, Action.publishes]
  · have held_perm : (carried record ++ (held.erase record).flatMap carried).Perm
        (held.flatMap carried) :=
      ((List.perm_cons_erase waits).flatMap_right carried).symm
    rw [List.flatten_append, List.flatten_singleton, List.append_assoc,
      pendingIn_concat_of_none rfl, ← List.append_assoc (carried record)]
    exact ((held_perm.append_right _).append_left _).trans split.perm

theorem aside {action : Action} (idle : action.thread? = none)
    (apart : action.aggregator? ≠ some aggregator)
    (others : ∀ record ∈ held, action.record? ≠ some record) :
    Split program aggregator threads updates held (actions ++ [action]) parts carried := by
  refine ⟨?_, split.records_concat _ others, split.once, ?_⟩
  · rw [Program.run_concat, (program.perform_agrees _ action).aggregators aggregator apart]
    exact split.entries
  · rw [pendingIn_concat_of_none idle]
    exact split.perm

end Split

/-- At any time the calls made so far are in the aggregator, in records that wait, or pending. -/
theorem Distributes.split {program : Program} (enabled : program.enabled = true)
    {aggregator : Nat} {updates : List Update} {held : List Nat} {actions : List Action}
    (distributes : Distributes aggregator updates held actions) {threads : List Nat}
    (distinct : threads.Nodup)
    (all : ∀ action ∈ actions, ∀ thread, action.thread? = some thread → thread ∈ threads) :
    ∃ parts carried, Split program aggregator threads updates held actions parts carried := by
  induction distributes with
  | nil =>
    refine ⟨[], fun _ => [], rfl, by simp, List.nodup_nil, ?_⟩
    simp [pendingIn, pending, since]
  | hook thread metric amount times before ih =>
    obtain ⟨parts, carried, split⟩ := ih fun action here => all action (List.mem_append_left _ here)
    have here := all (.hook thread metric amount times) (by simp) thread rfl
    exact ⟨_, _, split.hook enabled distinct here metric amount times⟩
  | publishHook thread before ih =>
    obtain ⟨parts, carried, split⟩ := ih fun action here => all action (List.mem_append_left _ here)
    have here := all (.publishHook thread aggregator) (by simp) thread rfl
    exact ⟨_, _, split.publishHook enabled distinct here⟩
  | @take _ _ _ thread record free before ih =>
    obtain ⟨parts, carried, split⟩ := ih fun action here => all action (List.mem_append_left _ here)
    have here := all (.takeCurrent thread record) (by simp) thread rfl
    exact ⟨_, _, split.take enabled distinct here free⟩
  | publish waits before ih =>
    obtain ⟨parts, carried, split⟩ := ih fun action here => all action (List.mem_append_left _ here)
    exact ⟨_, _, split.publish enabled waits⟩
  | aside idle apart others before ih =>
    obtain ⟨parts, carried, split⟩ := ih fun action here => all action (List.mem_append_left _ here)
    exact ⟨_, _, split.aside idle apart others⟩

/-- Once nothing is pending or waits, the records of the aggregator have taken in all calls. -/
theorem Distributes.parts_of_finished {program : Program} (enabled : program.enabled = true)
    {aggregator : Nat} {updates : List Update} {actions : List Action}
    (distributes : Distributes aggregator updates [] actions)
    (finished : ∀ thread, pending thread actions = []) :
    ∃ parts : List (List Update),
      ((program.run program.start actions).aggregators.get aggregator).entries =
        parts.map program.recordOf ∧
      parts.flatten.Perm updates := by
  obtain ⟨parts, carried, split⟩ := distributes.split enabled
    (List.nodup_dedup (actions.filterMap Action.thread?)) fun action here thread acts =>
      List.mem_dedup.2 (List.mem_filterMap.2 ⟨action, here, acts⟩)
  have none : pendingIn (actions.filterMap Action.thread?).dedup actions = [] :=
    List.flatMap_eq_nil_iff.2 fun thread _ => finished thread
  have perm := split.perm
  rw [none, List.append_nil, List.flatMap_nil, List.append_nil] at perm
  exact ⟨parts, split.entries, perm⟩

end StatSchema
