/-
Lists of overrides. A list is accepted exactly if every hook in it exists and none comes twice; otherwise
the first entry at fault is reported. A hook that is overridden once is overridden by that one function,
wherever it is listed, so the order of overrides reaches neither the artifact nor whether there is one;
it only decides which of several faults is reported. Main statements: `overrides_checked_exactly` and
`generate_of_perm`.
-/
import StatSchema.Proofs.Schema.WellFormed
import StatSchema.Artifact

namespace StatSchema

variable {overrides others : List Override}

/-! ## What overrides a hook -/

theorem overrideOf?_eq_some (distinct : (overrides.map (·.hook)).Nodup) {override : Override}
    (here : override ∈ overrides) : overrideOf? overrides override.hook = some override.target := by
  unfold overrideOf?
  rw [find?_key distinct here]
  rfl

theorem overrideOf?_eq_none {hook : String} (absent : hook ∉ overrides.map (·.hook)) :
    overrideOf? overrides hook = none := by
  unfold overrideOf?
  rw [List.find?_eq_none.2, Option.map_none]
  intro override here same
  exact absent (eq_of_beq same ▸ List.mem_map_of_mem here)

/-- What overrides a hook does not depend on the order of overrides. -/
theorem overrideOf?_of_perm (permuted : overrides.Perm others)
    (distinct : (overrides.map (·.hook)).Nodup) : overrideOf? overrides = overrideOf? others := by
  funext hook
  have hooks := permuted.map (·.hook)
  by_cases listed : hook ∈ overrides.map (·.hook)
  · obtain ⟨override, here, rfl⟩ := List.mem_map.1 listed
    rw [overrideOf?_eq_some distinct here,
      overrideOf?_eq_some (hooks.nodup_iff.1 distinct) (permuted.mem_iff.1 here)]
  · rw [overrideOf?_eq_none listed, overrideOf?_eq_none (mt hooks.mem_iff.2 listed)]

/-! ## What is accepted -/

/-- The names by which the hooks of a schema are overridden. -/
def Schema.hookNames (schema : Schema) : List String :=
  schema.bases.map (·.name) ++ Lifecycle.all.map (·.word)

/-- Overrides of hooks that exist, none of them overridden twice. -/
structure OverridesSound (hooks : List String) (overrides : List Override) : Prop where
  known : ∀ override ∈ overrides, override.hook ∈ hooks
  once : (overrides.map (·.hook)).Nodup

/-- What is reported of overrides that are not accepted: the first one at fault. -/
inductive OverrideObjection (hooks : List String) (overrides : List Override) : Failure → Prop
  | unknown {front rest : List Override} {override : Override} :
      overrides = front ++ override :: rest → OverridesSound hooks front → override.hook ∉ hooks →
      OverrideObjection hooks overrides (.refused (.unknownHook override.hook))
  | repeated {front rest : List Override} {override : Override} :
      overrides = front ++ override :: rest → OverridesSound hooks front →
      override.hook ∈ front.map (·.hook) →
      OverrideObjection hooks overrides (.refused (.duplicateName override.hook .overrides))

section Lists

variable {hooks : List String}

theorem OverridesSound.of_perm (permuted : overrides.Perm others)
    (sound : OverridesSound hooks overrides) : OverridesSound hooks others :=
  ⟨fun override here => sound.known override (permuted.mem_iff.2 here),
    (permuted.map _).nodup_iff.1 sound.once⟩

theorem OverridesSound.concat {override : Override} (sound : OverridesSound hooks overrides)
    (known : override.hook ∈ hooks) (fresh : override.hook ∉ overrides.map (·.hook)) :
    OverridesSound hooks (overrides ++ [override]) := by
  refine ⟨?_, ?_⟩
  · intro other here
    rcases List.mem_append.1 here with earlier | last
    · exact sound.known other earlier
    · rw [List.mem_singleton.1 last]
      exact known
  · rw [List.map_append, List.map_singleton]
    exact List.nodup_append.2 ⟨sound.once, List.nodup_singleton _, by simpa using fresh⟩

/-- What is at fault in a list is at fault in every longer one. -/
theorem OverrideObjection.append {failure : Failure}
    (objection : OverrideObjection hooks overrides failure) (more : List Override) :
    OverrideObjection hooks (overrides ++ more) failure := by
  have longer : ∀ {front rest : List Override} {override : Override},
      overrides = front ++ override :: rest →
      overrides ++ more = front ++ override :: (rest ++ more) := by
    rintro front rest override rfl
    exact List.append_assoc front (override :: rest) more
  cases objection with
  | unknown whole sound unknown => exact .unknown (longer whole) sound unknown
  | repeated whole sound again => exact .repeated (longer whole) sound again

/-- Of a list that is not sound there is something to report. -/
theorem sound_or_objection (hooks : List String) (overrides : List Override) :
    OverridesSound hooks overrides ∨ ∃ failure, OverrideObjection hooks overrides failure := by
  induction overrides using List.reverseRecOn with
  | nil => exact .inl ⟨by simp, by simp⟩
  | append_singleton front override ih =>
    rcases ih with sound | ⟨failure, objection⟩
    · by_cases known : override.hook ∈ hooks
      · by_cases again : override.hook ∈ front.map (·.hook)
        · exact .inr ⟨_, .repeated rfl sound again⟩
        · exact .inl (sound.concat known again)
      · exact .inr ⟨_, .unknown rfl sound known⟩
    · exact .inr ⟨failure, objection.append [override]⟩

end Lists

/-! ## The check -/

section Check

variable {compiled : CompiledSchema} {hooks : List String}
  (exist : ∀ hook, compiled.hasHook hook = true ↔ hook ∈ hooks)

include exist

/-- Overrides at which there is nothing to fault are passed over. -/
theorem checkOverrides_append {seen : List String} (sound : OverridesSound hooks overrides)
    (fresh : ∀ override ∈ overrides, override.hook ∉ seen) (rest : List Override) :
    checkOverrides compiled seen (overrides ++ rest) =
      checkOverrides compiled ((overrides.map (·.hook)).reverse ++ seen) rest := by
  induction overrides generalizing seen with
  | nil => rfl
  | cons override more ih =>
    obtain ⟨known, once⟩ := sound
    obtain ⟨apart, once⟩ := List.nodup_cons.1 once
    have present := (exist _).2 (known override List.mem_cons_self)
    have unseen := fresh override List.mem_cons_self
    have later : ∀ other ∈ more, other.hook ∉ override.hook :: seen := by
      intro other here
      rw [List.mem_cons, not_or]
      exact ⟨fun same => apart (List.mem_map.2 ⟨other, here, same⟩),
        fresh other (List.mem_cons_of_mem _ here)⟩
    rw [List.cons_append, checkOverrides, if_neg (by simp [present]), if_neg (by simpa using unseen),
      ih ⟨fun other here => known other (List.mem_cons_of_mem _ here), once⟩ later]
    simp

theorem checkOverrides_of_sound (sound : OverridesSound hooks overrides) :
    checkOverrides compiled [] overrides = .ok () := by
  have passed := checkOverrides_append exist sound (fun _ _ => List.not_mem_nil) []
  rwa [List.append_nil] at passed

theorem checkOverrides_of_objection {failure : Failure}
    (objection : OverrideObjection hooks overrides failure) :
    checkOverrides compiled [] overrides = .error failure := by
  cases objection with
  | @unknown front rest override whole sound unknown =>
    have absent := Bool.eq_false_iff.2 (mt (exist override.hook).1 unknown)
    rw [whole, checkOverrides_append exist sound fun _ _ => List.not_mem_nil, checkOverrides,
      if_pos (by simp [absent])]
    rfl
  | @repeated front rest override whole sound again =>
    obtain ⟨other, there, same⟩ := List.mem_map.1 again
    have present := (exist _).2 (same ▸ sound.known other there)
    rw [whole, checkOverrides_append exist sound fun _ _ => List.not_mem_nil, checkOverrides,
      if_neg (by simp [present]), if_pos (by simpa using again)]
    rfl

theorem checkOverrides_eq_ok_iff :
    checkOverrides compiled [] overrides = .ok () ↔ OverridesSound hooks overrides := by
  constructor
  · intro accepted
    rcases sound_or_objection hooks overrides with sound | ⟨failure, objection⟩
    · exact sound
    · rw [checkOverrides_of_objection exist objection] at accepted
      cases accepted
  · exact checkOverrides_of_sound exist

theorem checkOverrides_eq_error_iff {failure : Failure} :
    checkOverrides compiled [] overrides = .error failure ↔
      OverrideObjection hooks overrides failure := by
  constructor
  · intro refused
    rcases sound_or_objection hooks overrides with sound | ⟨other, objection⟩
    · rw [checkOverrides_of_sound exist sound] at refused
      cases refused
    · rw [checkOverrides_of_objection exist objection] at refused
      cases refused
      exact objection
  · exact checkOverrides_of_objection exist

end Check

/-! ## The hooks of a schema -/

theorem CompiledSchema.Represents.hasHook_iff {compiled : CompiledSchema} {schema : Schema}
    (represents : compiled.Represents schema) (hook : String) :
    compiled.hasHook hook = true ↔ hook ∈ schema.hookNames := by
  rw [hasHook, Schema.hookNames, List.mem_append, ← represents.perm_bases.mem_iff, Bool.or_eq_true,
    or_comm]
  simp

/-- The words of lifecycle hooks are their own spellings. -/
theorem Lifecycle.snake_word (step : Lifecycle) : Name.snake step.word = step.word := by
  cases step <;> decide +kernel

theorem Lifecycle.snake_mem_reservedNames (step : Lifecycle) :
    Name.snake step.word ∈ reservedNames := by
  rw [step.snake_word]
  cases step <;> decide

/-- No metric has the name of a lifecycle hook. -/
theorem NamesSound.ne_lifecycle {names : List String} (sound : NamesSound names) {name : String}
    (here : name ∈ names) : name ∉ Lifecycle.all.map (·.word) := by
  intro taken
  obtain ⟨step, -, rfl⟩ := List.mem_map.1 taken
  exact sound.unreserved step.word here step.snake_mem_reservedNames

/-- The hooks of a compiled schema are those of the schema that it represents. -/
theorem CompiledSchema.Represents.perm_hookNames {compiled : CompiledSchema} {schema : Schema}
    (represents : compiled.Represents schema) :
    ((Hook.all compiled).map Hook.name).Perm schema.hookNames := by
  have split : (Hook.all compiled).map Hook.name =
      compiled.storage.map (·.name) ++ Lifecycle.all.map (·.word) := by
    rw [Hook.all, List.map_append, List.map_map, List.map_map]
    rfl
  rw [split]
  exact represents.perm_bases.append_right _

/-- No two hooks have one spelling: metrics are apart, and the words of lifecycle hooks are reserved. -/
theorem NamesSound.nodup_hookSpellings {schema : Schema} (names : NamesSound schema.names) :
    (schema.hookNames.map Name.snake).Nodup := by
  have lifecycle : (Lifecycle.all.map (·.word)).map Name.snake = Lifecycle.all.map (·.word) := by
    rw [List.map_map]
    exact List.map_congr_left fun step _ => step.snake_word
  rw [Schema.hookNames, List.map_append]
  refine List.nodup_append.2 ⟨names.apart.sublist (schema.sublist_names_bases.map _), ?_, ?_⟩
  · rw [lifecycle]
    decide
  · rintro spelling here other there rfl
    obtain ⟨name, base, rfl⟩ := List.mem_map.1 here
    rw [List.map_map] at there
    obtain ⟨step, -, same⟩ := List.mem_map.1 there
    refine names.unreserved name (schema.sublist_names_bases.subset base) ?_
    rw [← same]
    exact step.snake_mem_reservedNames

theorem CompiledSchema.Represents.nodup_hooks {compiled : CompiledSchema} {schema : Schema}
    (represents : compiled.Represents schema) (names : NamesSound schema.names) :
    ((Hook.all compiled).map Hook.name).Nodup :=
  represents.perm_hookNames.nodup_iff.2 (names.nodup_hookSpellings.of_map _)

/-! ## Generation -/

/-- Accepted overrides lead to the same in every order. -/
theorem generate_of_sound {schema : Schema} {compiled : CompiledSchema}
    (compiles : compile schema = .ok compiled) (permuted : overrides.Perm others)
    (sound : OverridesSound schema.hookNames overrides) (naming : Naming)
    (instrumentation : Instrumentation) :
    generate schema naming instrumentation overrides =
      generate schema naming instrumentation others := by
  have exist := (of_compile compiles).2.hasHook_iff
  unfold generate
  rw [compiles, ok_bind, ok_bind, checkOverrides_of_sound exist sound,
    checkOverrides_of_sound exist (sound.of_perm permuted)]
  unfold Artifact.hooks
  rw [overrideOf?_of_perm permuted sound.once]

/-- What is reported of a list stops generation. -/
theorem generate_of_objection {schema : Schema} {compiled : CompiledSchema}
    (compiles : compile schema = .ok compiled) {failure : Failure}
    (objection : OverrideObjection schema.hookNames overrides failure) (naming : Naming)
    (instrumentation : Instrumentation) :
    generate schema naming instrumentation overrides = .error failure := by
  have exist := (of_compile compiles).2.hasHook_iff
  unfold generate
  rw [compiles, ok_bind, checkOverrides_of_objection exist objection, error_bind]

/-- Of overrides of distinct hooks only an unknown one is reported. -/
theorem OverrideObjection.of_nodup {hooks : List String} {failure : Failure}
    (objection : OverrideObjection hooks overrides failure)
    (distinct : (overrides.map (·.hook)).Nodup) :
    ∃ override ∈ overrides, override.hook ∉ hooks ∧
      failure = .refused (.unknownHook override.hook) := by
  cases objection with
  | unknown whole sound unknown => exact ⟨_, by simp [whole], unknown, rfl⟩
  | repeated whole sound again =>
    rw [whole, List.map_append, List.map_cons] at distinct
    exact absurd rfl ((List.nodup_append.1 distinct).2.2 _ again _ List.mem_cons_self)

/-- Generation is the same for overrides in another order, up to which of several unknown hooks is
reported. -/
theorem generate_of_perm (schema : Schema) (naming : Naming) (instrumentation : Instrumentation)
    (permuted : overrides.Perm others) (distinct : (overrides.map (·.hook)).Nodup) :
    generate schema naming instrumentation overrides =
        generate schema naming instrumentation others ∨
      ∃ compiled, compile schema = .ok compiled ∧
        ∃ first ∈ overrides, ∃ second ∈ overrides,
          compiled.hasHook first.hook = false ∧ compiled.hasHook second.hook = false ∧
          generate schema naming instrumentation overrides = refuse (.unknownHook first.hook) ∧
          generate schema naming instrumentation others = refuse (.unknownHook second.hook) := by
  cases compiles : compile schema with
  | error failure =>
    left
    unfold generate
    rw [compiles]
    rfl
  | ok compiled =>
    have exist := (of_compile compiles).2.hasHook_iff
    rcases sound_or_objection schema.hookNames overrides with sound | ⟨failure, objection⟩
    · exact .inl (generate_of_sound compiles permuted sound naming instrumentation)
    rcases sound_or_objection schema.hookNames others with sound | ⟨failure', objection'⟩
    · exact .inl (generate_of_sound compiles permuted.symm sound naming instrumentation).symm
    -- the lists have the same members, of which an unknown one comes first in each
    obtain ⟨first, here, unknown, rfl⟩ := objection.of_nodup distinct
    obtain ⟨second, there, unknown', rfl⟩ :=
      objection'.of_nodup ((permuted.map _).nodup_iff.1 distinct)
    exact .inr ⟨compiled, rfl, first, here, second, permuted.mem_iff.2 there,
      Bool.eq_false_iff.2 (mt (exist _).1 unknown), Bool.eq_false_iff.2 (mt (exist _).1 unknown'),
      generate_of_objection compiles objection naming instrumentation,
      generate_of_objection compiles objection' naming instrumentation⟩

/-- Whatever is generated with some overrides is generated with them in every order. -/
theorem generate_eq_ok_of_perm {schema : Schema} {compiled : CompiledSchema}
    (compiles : compile schema = .ok compiled) (permuted : overrides.Perm others) {naming : Naming}
    {instrumentation : Instrumentation} {artifact : Artifact}
    (generated : generate schema naming instrumentation overrides = .ok artifact) :
    generate schema naming instrumentation others = .ok artifact := by
  rcases sound_or_objection schema.hookNames overrides with sound | ⟨failure, objection⟩
  · rwa [← generate_of_sound compiles permuted sound]
  · rw [generate_of_objection compiles objection] at generated
    cases generated

/-- The overrides of an accepted schema are accepted exactly if each is of a base metric or of a
lifecycle hook and none is repeated; otherwise the first one that is unknown or repeats an earlier one is
reported. No base metric has the name of a lifecycle hook, so no two hooks are overridden by one name.
In every order of the overrides the same artifact is generated, or none is. -/
theorem overrides_checked_exactly {schema : Schema} {compiled : CompiledSchema}
    (compiles : compile schema = .ok compiled) (overrides : List Override) :
    (checkOverrides compiled [] overrides = .ok () ↔
      OverridesSound (schema.bases.map (·.name) ++ ["publish", "clear", "dump"]) overrides) ∧
    (∀ failure, checkOverrides compiled [] overrides = .error failure ↔
      OverrideObjection (schema.bases.map (·.name) ++ ["publish", "clear", "dump"]) overrides
        failure) ∧
    (∀ metric ∈ schema.bases, metric.name ∉ ["publish", "clear", "dump"]) ∧
    ((Hook.all compiled).map Hook.name).Nodup ∧
    ∀ others, overrides.Perm others → ∀ naming instrumentation artifact,
      generate schema naming instrumentation overrides = .ok artifact ↔
        generate schema naming instrumentation others = .ok artifact := by
  obtain ⟨wellFormed, represents⟩ := of_compile compiles
  have names : NamesSound schema.names := wellFormed .names
  refine ⟨checkOverrides_eq_ok_iff represents.hasHook_iff,
    fun failure => checkOverrides_eq_error_iff represents.hasHook_iff, fun metric here => ?_,
    represents.nodup_hooks names, fun others permuted naming instrumentation artifact => ⟨?_, ?_⟩⟩
  · exact names.ne_lifecycle (schema.sublist_names_bases.subset (List.mem_map_of_mem here))
  · exact generate_eq_ok_of_perm compiles permuted
  · exact generate_eq_ok_of_perm compiles permuted.symm

/-- A schema with two base metrics. -/
def requests : Schema :=
  { declarations := [.base ⟨"hits", .counter⟩, .base ⟨"Wait Time", .max⟩] }

/-- An override by a function of the crate at hand. -/
def handedTo (hook target : String) : Override :=
  ⟨hook, ⟨Token.code "crate ::" ++ [.identifier target]⟩⟩

/-- A key is a name as it is written, not its spelling, and a repetition is reported before what is
unknown behind it. -/
theorem requests_overridden :
    ∃ compiled, compile requests = .ok compiled ∧
      checkOverrides compiled [] [handedTo "dump" "show", handedTo "Wait Time" "wait"] = .ok () ∧
      checkOverrides compiled [] [handedTo "hits" "hit", handedTo "wait_time" "wait"] =
        .error (.refused (.unknownHook "wait_time")) ∧
      checkOverrides compiled [] [handedTo "dump" "show", handedTo "hits" "hit",
        handedTo "dump" "print", handedTo "wait_time" "wait"] =
          .error (.refused (.duplicateName "dump" .overrides)) ∧
      ∃ artifact,
        generate requests {} .disabled [handedTo "dump" "show", handedTo "hits" "hit"] =
          .ok artifact ∧
        generate requests {} .disabled [handedTo "hits" "hit", handedTo "dump" "show"] =
          .ok artifact := by
  have accepted : (compile requests).isOk = true := by decide +kernel
  obtain ⟨compiled, compiles⟩ := exists_of_isOk accepted
  refine ⟨compiled, compiles, ?_, ?_, ?_, ?_⟩
  · exact (overrides_checked_exactly compiles _).1.2 ⟨by decide, by decide⟩
  · refine ((overrides_checked_exactly compiles _).2.1 _).2 ?_
    exact @OverrideObjection.unknown _ _ [handedTo "hits" "hit"] [] (handedTo "wait_time" "wait") rfl
      ⟨by decide, by decide⟩ (by decide)
  · refine ((overrides_checked_exactly compiles _).2.1 _).2 ?_
    exact @OverrideObjection.repeated _ _ [handedTo "dump" "show", handedTo "hits" "hit"]
      [handedTo "wait_time" "wait"] (handedTo "dump" "print") rfl ⟨by decide, by decide⟩ (by decide)
  · have generates : (generate requests {} .disabled
        [handedTo "dump" "show", handedTo "hits" "hit"]).isOk = true := by decide +kernel
    obtain ⟨artifact, generated⟩ := exists_of_isOk generates
    obtain ⟨-, -, -, -, permuted⟩ := overrides_checked_exactly compiles
      [handedTo "dump" "show", handedTo "hits" "hit"]
    exact ⟨artifact, generated, (permuted _ (.swap _ _ _) {} .disabled artifact).1 generated⟩

end StatSchema
