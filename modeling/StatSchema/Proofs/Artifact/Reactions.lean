/-
What the generated hooks do, whether they are on or off. The body of a hook is empty, or does the work
of the hook, or prints the aggregator at hand, or calls a function from elsewhere with what the hook is
given. Main statement, for generated code whose spellings are plain and for overrides that leave
statistics alone: hooks that are off change nothing and call what overrides them, hooks that are on
heed no override but that of the report, and the emitted functions, run token by token, do and show
what the session says.
-/
import StatSchema.Proofs.Artifact.Calls
import StatSchema.Proofs.Session.Toggle

namespace StatSchema

open Token

/-- A path that is no access to a member of something: no dot follows its first token. -/
def Path.Standalone (path : Path) : Prop := path.tokens[1]? ≠ some (.punctuation '.' .alone)

namespace Artifact

/-! ## Functions from elsewhere -/

/-- What a hook hands on to a function from elsewhere. -/
inductive Handed where
  | nothing
  | word (amount : UInt64)
  | aggregator (ledger : Ledger Words)

/-- What generated code shows. -/
inductive Shown where
  | called (target : Path) (handed : Handed)
  | printed (ledger : Ledger Words)

/-- What is written between the parentheses of a call. -/
inductive Passed where
  | nothing
  | amount
  | aggregator

namespace Passed

/-- The tokens of a call after the function that is called. -/
def ending (runtime : Path) : Passed → List Token
  | nothing => parens [] ++ code ";"
  | amount => parens (asWord runtime "amount") ++ code ";"
  | aggregator => parens (name "aggregator") ++ code ";"

/-- What is handed on by a hook with given parameters. -/
def handed? (runtime : Path) (parameters : List Token) (word : UInt64) (memory : Memory) :
    Passed → Option Handed
  | nothing => if parameters = [] then some .nothing else none
  | amount =>
    if parameters = name "amount" ++ code ":" ++ amountType runtime then some (.word word)
    else none
  | aggregator =>
    match parameters with
    | .identifier "aggregator" :: .punctuation ':' .alone :: .punctuation '&' .alone :: _ =>
      some (.aggregator memory.ledger)
    | _ => none

/-- The function that a statement calls, and what is passed to it. -/
def read? (runtime : Path) (body : List Token) : Option (Path × Passed) :=
  [nothing, amount, aggregator].findSome? fun passed =>
    if passed.ending runtime <:+ body then
      some (⟨body.take (body.length - (passed.ending runtime).length)⟩, passed)
    else none

end Passed

/-- The statement that prints the aggregator at hand. -/
def printing : List Token :=
  code ":: std :: print !" ++ parens [.string "\x7baggregator\x7d"] ++ code ";"

/-- Runs a hook, which is given an amount or the aggregator at hand. A function from elsewhere does to
the memory what `elsewhere` says. -/
def reactHook (artifact : Artifact) (runtime : Path) (elsewhere : Path → Memory → Memory)
    (hook : Routine) (amount : UInt64) (memory : Memory) : Option (Memory × List Shown) :=
  if hook.body = [] then some (memory, [])
  else if hook.body = printing then some (memory, [.printed memory.ledger])
  else match Work.read? hook.body with
    | some work =>
      (work.run artifact runtime hook.parameters amount memory).map fun after => (after, [])
    | none => do
      let (target, passed) ← Passed.read? runtime hook.body
      let handed ← passed.handed? runtime hook.parameters amount memory
      return (elsewhere target memory, [.called target handed])

/-! ## Reading calls -/

namespace Passed

variable {runtime : Path}

/-- The last tokens of a call, from the end. -/
def endingReversed (runtime : Path) : Passed → List Token
  | nothing => [.punctuation ';' .alone, .closing .parenthesis, .opening .parenthesis]
  | amount =>
    .punctuation ';' .alone :: .closing .parenthesis :: .closing .parenthesis ::
      .identifier "amount" :: .opening .parenthesis :: .identifier "as_" ::
      .punctuation ':' .alone :: .punctuation ':' .joint ::
      ((code ":: __private :: AsPrimitive :: < u64 >").reverse ++ runtime.tokens.reverse ++
        [.opening .parenthesis])
  | aggregator =>
    [.punctuation ';' .alone, .closing .parenthesis, .identifier "aggregator",
      .opening .parenthesis]

theorem ending_reverse (passed : Passed) :
    (passed.ending runtime).reverse = passed.endingReversed runtime := by
  cases passed with
  | nothing => rfl
  | amount =>
    have split : code ":: __private :: AsPrimitive :: < u64 > :: as_" =
        code ":: __private :: AsPrimitive :: < u64 >" ++ code ":: as_" := by decide
    have ends : ending runtime amount = [.opening .parenthesis] ++ runtime.tokens ++
        code ":: __private :: AsPrimitive :: < u64 >" ++ (code ":: as_" ++
        [.opening .parenthesis, .identifier "amount", .closing .parenthesis,
          .closing .parenthesis, .punctuation ';' .alone]) := by
      unfold ending asWord parens
      rw [split]
      simp [name, show code ";" = [.punctuation ';' .alone] from rfl]
    rw [ends, List.reverse_append, List.reverse_append, List.reverse_append]
    simp [endingReversed, show code ":: as_" = [.punctuation ':' .joint, .punctuation ':' .alone,
      .identifier "as_"] from rfl]
  | aggregator => rfl

theorem suffix_iff {passed : Passed} {body : List Token} :
    passed.ending runtime <:+ body ↔ passed.endingReversed runtime <+: body.reverse := by
  rw [← ending_reverse, List.reverse_prefix]

/-- A statement has at most one of the endings. -/
theorem ending_unique {first second : Passed} {body : List Token}
    (h : first.ending runtime <:+ body) (h' : second.ending runtime <:+ body) : first = second := by
  obtain ⟨rest, ends⟩ := suffix_iff.1 h
  obtain ⟨rest', ends'⟩ := suffix_iff.1 h'
  have same := ends.trans ends'.symm
  cases first <;> cases second <;> first | rfl | simp [endingReversed] at same

/-- A call is read as what is called and what is passed. -/
theorem read?_call (target : Path) (passed : Passed) :
    read? runtime (target.tokens ++ passed.ending runtime) = some (target, passed) := by
  have itself : passed.ending runtime <:+ target.tokens ++ passed.ending runtime :=
    List.suffix_append _ _
  have others : ∀ other : Passed, other ≠ passed →
      ¬ other.ending runtime <:+ target.tokens ++ passed.ending runtime := fun other apart h =>
    apart (ending_unique h itself)
  unfold read?
  cases passed with
  | nothing => simp [itself]
  | amount => simp [itself, others]
  | aggregator => simp [itself, others]

/-- No call of a path is the statement of a hook's own work. -/
theorem work_read?_call {target : Path} (standalone : target.Standalone) (passed : Passed) :
    Work.read? (target.tokens ++ passed.ending runtime) = none := by
  generalize whole : target.tokens ++ passed.ending runtime = body
  have ends : passed.endingReversed runtime <+: body.reverse :=
    suffix_iff.1 (whole ▸ List.suffix_append _ _)
  obtain ⟨before, ends⟩ := ends
  unfold Work.read?
  split
  · cases passed <;> simp [endingReversed] at ends
  · cases passed <;> simp [endingReversed] at ends
  · cases passed <;> simp [endingReversed] at ends
  · -- the call of a method, whose receiver is followed by a dot
    rename_i receiver
    cases passed with
    | nothing =>
      have access : target.tokens ++ ending runtime nothing = [.identifier receiver,
          .punctuation '.' .alone, .identifier "clear"] ++ ending runtime nothing := whole
      replace access := List.append_cancel_right access
      exact absurd (by rw [access]; rfl) standalone
    | amount => simp [endingReversed] at ends
    | aggregator => simp [endingReversed] at ends
  · rfl

theorem call_ne_printing (target : Path) (passed : Passed) :
    target.tokens ++ passed.ending runtime ≠ printing := by
  intro same
  obtain ⟨before, ends⟩ := suffix_iff.1
    (same ▸ List.suffix_append target.tokens (passed.ending runtime))
  have printed : printing.reverse = .punctuation ';' .alone :: .closing .parenthesis ::
      .string "\x7baggregator\x7d" :: .opening .parenthesis ::
        (code ":: std :: print !").reverse := rfl
  rw [printed] at ends
  cases passed <;> simp [endingReversed, Token.string] at ends

end Passed

/-! ## Running hooks -/

section Bodies

variable {artifact : Artifact} {runtime : Path} {elsewhere : Path → Memory → Memory}
  {hook : Routine} {amount : UInt64} {memory : Memory}

theorem reactHook_of_call {target : Path} {passed : Passed} {handed : Handed}
    (body : hook.body = target.tokens ++ passed.ending runtime) (standalone : target.Standalone)
    (given : passed.handed? runtime hook.parameters amount memory = some handed) :
    artifact.reactHook runtime elsewhere hook amount memory =
      some (elsewhere target memory, [.called target handed]) := by
  have filled : hook.body ≠ [] := by
    rw [body]
    intro empty
    obtain ⟨-, empty⟩ := List.append_eq_nil_iff.1 empty
    cases passed <;> cases empty
  unfold reactHook
  rw [if_neg filled, if_neg (body ▸ Passed.call_ne_printing target passed), body,
    Passed.work_read?_call standalone, Passed.read?_call]
  show (passed.handed? runtime hook.parameters amount memory).bind _ = _
  rw [given]
  rfl

/-- A hook that does its own work shows nothing. -/
theorem reactHook_of_runHook {after : Memory}
    (ran : artifact.runHook runtime hook amount memory = some after) :
    artifact.reactHook runtime elsewhere hook amount memory = some (after, []) := by
  obtain ⟨work, read, ran⟩ := Option.bind_eq_some_iff.1 ran
  have filled : hook.body ≠ [] := by
    intro empty
    rw [empty] at read
    cases read
  have working : hook.body ≠ printing := by
    intro same
    rw [same] at read
    cases read
  unfold reactHook
  rw [if_neg filled, if_neg working, read]
  show (work.run artifact runtime hook.parameters amount memory).map _ = _
  rw [ran]
  rfl

end Bodies

/-! ## Hooks -/

/-- What the call of a function that overrides a hook passes to it. -/
def passedBy : StatSchema.Hook → Passed
  | .metric entry =>
    match entry.kind with
    | .counter => .nothing
    | .max => .amount
    | .sum => .amount
  | .lifecycle _ => .aggregator

variable {names : TypeNames} {runtime : Path}

theorem body_of_call (identifier : String) (target : Path) (hook : StatSchema.Hook) :
    (hookRoutine names runtime identifier (.call target) hook).body =
      target.tokens ++ (passedBy hook).ending runtime := by
  rcases hook with ⟨metric, kind, field, method⟩ | step
  · cases kind <;> exact List.append_assoc _ _ _
  · exact List.append_assoc _ _ _

theorem body_of_nothing (identifier : String) (hook : StatSchema.Hook) :
    (hookRoutine names runtime identifier .nothing hook).body = [] := by
  rcases hook with ⟨metric, kind, field, method⟩ | step
  · cases kind <;> rfl
  · rfl

/-- What the code of a program shows as what the program shows. -/
inductive Shown.Shows (program : Program) : Shown → Event → Prop
  | nothing (target : Path) : Shows program (.called target .nothing) (.called target .nothing)
  | word (target : Path) (amount : UInt64) :
    Shows program (.called target (.word amount)) (.called target (.word amount))
  | aggregator (target : Path) {held : Ledger Words} {ledger : Ledger Record}
      (same : held.entries = ledger.entries.map program.compiled.words) :
    Shows program (.called target (.aggregator held)) (.called target (.aggregator ledger))
  | printed {held : Ledger Words} {ledger : Ledger Record}
      (same : held.entries = ledger.entries.map program.compiled.words) :
    Shows program (.printed held) (.printed (String.join (program.report true ledger).written))

end Artifact

/-- What the call of a hook hands on. -/
def Hook.argument (session : Session) (aggregator : Nat) (amount : UInt64) : Hook → Argument
  | .metric entry => Program.given entry amount
  | .lifecycle _ => .aggregator (session.aggregators.get aggregator)

namespace Program

variable {program : Program} {hook : Hook}

/-- The call of a hook comes to what its effect is, whatever the hook. -/
theorem perform_action (keys : (program.compiled.storage.map (·.name)).Nodup)
    (known : hook ∈ Hook.all program.compiled) (session : Session) (thread aggregator : Nat)
    (amount : UInt64) :
    ∃ work, program.perform session (hook.action thread aggregator amount) =
      program.call session hook (hook.argument session aggregator amount) 1 work := by
  cases hook with
  | metric entry =>
    have entered := find?_key keys (Artifact.mem_all_metric.1 known)
    refine ⟨{ session := program.updated session thread entry.name amount 1 }, ?_⟩
    rw [Hook.action, perform, callMetric, entered]
    rfl
  | lifecycle step => cases step <;> exact ⟨_, rfl⟩

end Program

namespace Artifact

variable {artifact : Artifact} {program : Program} {names : TypeNames} {runtime : Path}
  {elsewhere : Path → Memory → Memory} {session : Session} {thread aggregator : Nat}
  {memory : Memory}

/-- What a hook hands on to the function that overrides it, in the code and in the session. -/
theorem handed?_spec (holds : memory.Holds program.compiled names session thread aggregator)
    (hook : StatSchema.Hook) (identifier : String) (target : Path) (amount : UInt64) :
    ∃ handed, (passedBy hook).handed? runtime
        (hookRoutine names runtime identifier (.call target) hook).parameters amount memory =
          some handed ∧
      Shown.Shows program (.called target handed)
        (.called target (hook.argument session aggregator amount)) := by
  rcases hook with ⟨metric, kind, field, method⟩ | step
  · cases kind with
    | counter => exact ⟨.nothing, rfl, .nothing target⟩
    | max => exact ⟨.word amount, if_pos rfl, .word target amount⟩
    | sum => exact ⟨.word amount, if_pos rfl, .word target amount⟩
  · cases step <;> exact ⟨.aggregator memory.ledger, rfl, .aggregator target holds.ledger⟩

end Artifact

/-- Generated code whose hooks do to every memory that holds a part of the session what the calls of
them do to that part, and show what those show. -/
def Artifact.Reacts (artifact : Artifact) (program : Program) (names : TypeNames) (runtime : Path)
    (elsewhere : Path → Memory → Memory) (session : Session) : Prop :=
  List.Forall₂ (fun hook routine => ∀ thread aggregator amount memory,
      memory.Holds program.compiled names session thread aggregator →
      ∃ after shown,
        artifact.reactHook runtime elsewhere routine amount memory = some (after, shown) ∧
        after.Holds program.compiled names
          (program.perform session (hook.action thread aggregator amount)).session thread
          aggregator ∧
        List.Forall₂ (Artifact.Shown.Shows program) shown
          (program.perform session (hook.action thread aggregator amount)).events)
    (Hook.all program.compiled) artifact.functions

theorem mem_of_overrideOf? {overrides : List Override} {hook : String} {target : Path}
    (found : overrideOf? overrides hook = some target) :
    ∃ override ∈ overrides, override.target = target := by
  obtain ⟨override, hit, same⟩ := Option.map_eq_some_iff.1 found
  exact ⟨override, List.mem_of_find?_eq_some hit, same⟩

theorem Hook.effect_eq_work {hook : Hook} {enabled : Bool} {override? : Option Path}
    (works : hook.effect enabled override? = .work) : enabled = true := by
  unfold effect at works
  cases override? <;> cases enabled <;> simp_all

theorem Hook.effect_eq_call {hook : Hook} {enabled : Bool} {override? : Option Path} {target : Path}
    (calls : hook.effect enabled override? = .call target) : override? = some target := by
  unfold effect at calls
  cases override? with
  | none => cases enabled <;> cases calls
  | some other =>
    dsimp only at calls
    split at calls
    · cases calls
    · cases calls
      rfl

/-- The emitted hooks of a program do and show what the session says. -/
theorem Artifact.reacts {artifact : Artifact} {program : Program} {naming : Naming}
    {names : TypeNames} {elsewhere : Path → Memory → Memory}
    (represents : artifact.Represents program.compiled names naming.runtime)
    (distinct : artifact.MembersDistinct names)
    (hooked : Artifact.hooks program.compiled naming names (always program.enabled)
      program.overrides = .ok (artifact.functions.map Item.routine))
    (keys : (program.compiled.storage.map (·.name)).Nodup)
    (standalone : ∀ override ∈ program.overrides, override.target.Standalone)
    (apart : ∀ override ∈ program.overrides, ∀ memory, elsewhere override.target memory = memory)
    {session : Session}
    (fits : program.enabled = true → ∀ thread, (session.live.get thread).Fits program.compiled) :
    artifact.Reacts program names naming.runtime elsewhere session := by
  -- every function is one of the hooks, which the metrics of the schema are needed to name
  have known := (List.forall₂_and_left _ _).2
    ⟨fun hook (here : hook ∈ Hook.all program.compiled) => here, functions_of_always hooked⟩
  refine known.imp ?_
  rintro hook _ ⟨here, identifier, -, rfl⟩ thread aggregator amount memory holds
  obtain ⟨work, performed⟩ := program.perform_action keys here session thread aggregator amount
  cases effect : hook.effect program.enabled (overrideOf? program.overrides hook.name) with
  | nothing =>
    rw [performed, Program.call, show program.effect hook = .nothing from effect]
    exact ⟨memory, [], if_pos (body_of_nothing identifier hook), holds, .nil⟩
  | call target =>
    rw [performed, Program.call, show program.effect hook = .call target from effect]
    obtain ⟨override, taken, rfl⟩ := mem_of_overrideOf? (Hook.effect_eq_call effect)
    obtain ⟨handed, given, shows⟩ :=
      handed?_spec holds hook identifier override.target amount
    refine ⟨_, _, reactHook_of_call (body_of_call identifier override.target hook)
      (standalone override taken) given, ?_, .cons shows .nil⟩
    rw [apart override taken]
    exact holds
  | work =>
    have enabled := Hook.effect_eq_work effect
    by_cases working : hook = .lifecycle .dump
    · subst working
      have reported : (program.perform session (.dumpHook aggregator)).events =
          [.printed (String.join (program.report true (session.aggregators.get aggregator)).written)] := by
        rw [Program.perform, Program.call,
          show program.effect (.lifecycle .dump) = .work from effect]
      have ran : artifact.reactHook naming.runtime elsewhere
          (lifecycleHook names .dump identifier .work) amount memory =
            some (memory, [.printed memory.ledger]) := by
        have body : (lifecycleHook names .dump identifier .work).body = printing := rfl
        unfold reactHook
        rw [body, if_neg (by decide), if_pos rfl]
      refine ⟨memory, _, ran, ?_, ?_⟩
      · rw [Hook.action, Program.session_perform_dumpHook]
        exact holds
      · rw [Hook.action, reported]
        exact .cons (.printed holds.ledger) .nil
    · obtain ⟨after, ran, held⟩ := runHook_holds represents distinct enabled keys here working
        (fits enabled thread) holds identifier amount
      refine ⟨after, [], reactHook_of_runHook ran, held, ?_⟩
      have other : (hook.action thread aggregator amount).dumps = false := by
        rcases hook with entry | step
        · rfl
        · cases step <;> first | rfl | exact absurd rfl working
      rw [(Program.perform_of_enabled enabled session other).2]
      exact .nil

/-- The switch of the hooks keeps statistics apart from what overrides them. While hooks are off, a call
of one leaves the session as it is and calls what overrides the hook, once and with what the hook is
given; while they are on, every hook but the report does what it does without overrides. The report
is handed over in either case, and the emitted hooks do and show what is said here of actions. -/
theorem toggle_isolates {schema : Schema} {naming : Naming} {artifact : Artifact}
    {program : Program} {elsewhere : Path → Memory → Memory} (plain : schema.PlainlySpelled)
    (generated : generate schema naming (Artifact.always program.enabled) program.overrides =
      .ok artifact)
    (compiles : compile schema = .ok program.compiled)
    (standalone : ∀ override ∈ program.overrides, override.target.Standalone)
    (apart : ∀ override ∈ program.overrides, ∀ memory, elsewhere override.target memory = memory) :
    (program.enabled = false → ∀ session,
      (∀ action, action.callsHook = true →
        program.perform session action =
          { session, events := program.delegated session action }) ∧
      ∀ actions, (∀ action ∈ actions, action.callsHook = true) →
        program.run session actions = session ∧
          program.trace session actions = actions.flatMap (program.delegated session)) ∧
    (program.enabled = true → ∀ session,
      (∀ action, action.dumps = false →
        program.perform session action = program.unoverridden.perform session action ∧
          (program.perform session action).events = []) ∧
      ∀ actions, program.run session actions = program.unoverridden.run session actions ∧
        ∀ target argument, .called target argument ∈ program.trace session actions →
          overrideOf? program.overrides Lifecycle.dump.word = some target) ∧
    (∀ target, overrideOf? program.overrides Lifecycle.dump.word = some target →
      ∀ session aggregator, program.perform session (.dumpHook aggregator) =
        { session
          events := [.called target (.aggregator (session.aggregators.get aggregator))] }) ∧
    ∃ names, naming.typeNames = .ok names ∧
      ∀ actions, artifact.Reacts program names naming.runtime elsewhere
        (program.run program.start actions) := by
  refine ⟨?_, ?_, ?_, ?_⟩
  · intro disabled session
    exact ⟨fun action calls => Program.perform_of_disabled disabled session calls,
      fun actions calls => Program.run_of_disabled disabled session calls⟩
  · intro enabled session
    exact ⟨fun action other => Program.perform_of_enabled enabled session other,
      Program.run_of_enabled enabled session⟩
  · intro target overridden session aggregator
    exact Program.perform_dumpHook overridden session aggregator
  · obtain ⟨names, named, represents, distinct, hooked⟩ :=
      Artifact.generate_of_plain plain generated compiles
    obtain ⟨wellFormed, holds⟩ := of_compile compiles
    refine ⟨names, named, fun actions => ?_⟩
    exact Artifact.reacts represents distinct hooked (holds.nodup_storage (wellFormed .names))
      standalone apart fun enabled => Program.fits_run enabled actions

/-- A function of the crate at hand. -/
def crateFunction (identifier : String) : Path :=
  ⟨code "crate ::" ++ [.identifier identifier]⟩

/-- Hooks of two threads, the reports included. -/
def hookCalls : List Action :=
  [.hook 1 "reads" 0 2, .hook 2 "bytes read" 64 1, .publishHook 1 0, .dumpHook 0]

theorem hookCalls_handed_over : ∃ program : Program,
    compile transfers = .ok program.compiled ∧ program.enabled = false ∧
    program.run program.start hookCalls = program.start ∧
    program.trace program.start hookCalls =
      [.called (crateFunction "count_reads") .nothing,
        .called (crateFunction "count_reads") .nothing,
        .called (crateFunction "show") (.aggregator {})] := by
  let overrides : List Override :=
    [⟨"reads", crateFunction "count_reads"⟩, ⟨"dump", crateFunction "show"⟩]
  let compiled : CompiledSchema := ⟨[⟨"reads", .counter, "reads", "count_reads"⟩,
    ⟨"bytes read", .sum, "bytes_read", "add_bytes_read"⟩], [], ["reads", "bytes read"], []⟩
  have compiles : compile transfers = .ok compiled := by decide +kernel
  have generates : (generate transfers {} .disabled overrides).isOk = true := by decide +kernel
  have plain : transfers.PlainlySpelled := by
    unfold Schema.PlainlySpelled
    decide +kernel
  have standalone : ∀ override ∈ overrides, override.target.Standalone := by
    unfold Path.Standalone
    decide
  obtain ⟨artifact, generated⟩ := exists_of_isOk generates
  let program : Program := ⟨compiled, false, overrides, .wraps⟩
  obtain ⟨off, -⟩ := @toggle_isolates transfers {} artifact program (fun _ memory => memory) plain
    generated compiles standalone fun _ _ _ => rfl
  obtain ⟨kept, shown⟩ := (off rfl _).2 hookCalls (by decide)
  exact ⟨program, compiles, rfl, kept, shown⟩

end StatSchema
