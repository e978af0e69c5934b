/-
Code under a feature is the code of both other modes in one. Resolving a feature drops what is kept only
in the other case and then the attributes that ask for the feature, which are known by their tokens.
Main statement: generation stops alike in all three modes, or the code under a feature resolves to that
of hooks that do their work and to that of hooks that do not, and only the hooks differ.
-/
import StatSchema.Proofs.Artifact.Promises
import StatSchema.Proofs.Artifact.Calls

namespace StatSchema

/-! ## Resolving a feature -/

/-- Whether an attribute keeps its item only while a feature is on, or only while it is off. -/
def Attribute.gates (feature : String) (on : Bool) (mark : Attribute) : Bool :=
  mark.tokens = (Attribute.feature feature on).tokens

/-- Whether attributes keep what they stand before, once it is known that a feature is on or off. -/
def keeps (feature : String) (on : Bool) (attributes : List Attribute) : Bool :=
  !attributes.any fun mark => mark.gates feature !on

/-- The attributes other than those that ask for a feature. -/
def ungated (feature : String) (attributes : List Attribute) : List Attribute :=
  attributes.filter fun mark => !(mark.gates feature true || mark.gates feature false)

/-- What is left of a function, once it is known that a feature is on or off. -/
def Routine.resolved (feature : String) (on : Bool) (routine : Routine) : Option Routine :=
  if keeps feature on routine.attributes then
    some { routine with attributes := ungated feature routine.attributes }
  else none

/-- What is left of an item, once it is known that a feature is on or off. -/
def Item.resolved (feature : String) (on : Bool) : Item → Option Item
  | .structure attributes name fields =>
    if keeps feature on attributes then
      some (.structure (ungated feature attributes) name fields)
    else none
  | implementation attributes interface target methods =>
    if keeps feature on attributes then
      some (implementation (ungated feature attributes) interface target
        (methods.filterMap (Routine.resolved feature on)))
    else none
  | call callee content => some (call callee content)
  | routine definition => (definition.resolved feature on).map routine

/-- What is left of an artifact, once it is known that a feature is on or off. -/
def Artifact.resolved (feature : String) (on : Bool) (artifact : Artifact) : Artifact :=
  let items := artifact.items.filterMap (Item.resolved feature on)
  match artifact.enclosure with
  | some enclosure =>
    if keeps feature on enclosure.attributes then
      ⟨some { enclosure with attributes := ungated feature enclosure.attributes }, items⟩
    else ⟨none, []⟩
  | none => ⟨none, items⟩

/-- An artifact without its hooks, which are the functions that belong to no type. -/
def Artifact.besidesHooks (artifact : Artifact) : Artifact :=
  { artifact with items := artifact.items.filter fun
      | .routine _ => false
      | _ => true }

/-! ## What asks for no feature -/

/-- An attribute that is about no condition. -/
def Attribute.unconditional (mark : Attribute) : Bool :=
  mark.content.head? != some (.identifier "cfg")

/-- A function with no attribute that is about a condition. -/
def Routine.unconditional (routine : Routine) : Bool :=
  routine.attributes.all Attribute.unconditional

/-- An item with no attribute that is about a condition. -/
def Item.unconditional : Item → Bool
  | .structure attributes _ _ => attributes.all Attribute.unconditional
  | implementation attributes _ _ methods =>
    attributes.all Attribute.unconditional && methods.all Routine.unconditional
  | call _ _ => true
  | routine definition => definition.unconditional

section Unconditional

variable {feature : String} {on : Bool}

theorem Attribute.tokens_inj {mark other : Attribute} (same : mark.tokens = other.tokens) :
    mark.content = other.content := by
  unfold tokens Token.brackets at same
  simpa using same

theorem Attribute.gates_of_unconditional {mark : Attribute} (free : mark.unconditional = true)
    (on : Bool) : mark.gates feature on = false := by
  refine decide_eq_false fun same => ?_
  rw [unconditional, tokens_inj same] at free
  cases on <;> cases free

theorem keeps_of_unconditional {attributes : List Attribute}
    (free : attributes.all Attribute.unconditional = true) (on : Bool) :
    keeps feature on attributes = true := by
  rw [keeps, Bool.not_eq_true', List.any_eq_false]
  intro mark here
  rw [Attribute.gates_of_unconditional (List.all_eq_true.1 free mark here)]
  exact Bool.false_ne_true

theorem ungated_of_unconditional {attributes : List Attribute}
    (free : attributes.all Attribute.unconditional = true) :
    ungated feature attributes = attributes := by
  refine List.filter_eq_self.2 fun mark here => ?_
  have plain := List.all_eq_true.1 free mark here
  rw [Attribute.gates_of_unconditional plain, Attribute.gates_of_unconditional plain]
  rfl

theorem Routine.resolved_of_unconditional {routine : Routine}
    (free : routine.unconditional = true) (on : Bool) :
    routine.resolved feature on = some routine := by
  rw [resolved, keeps_of_unconditional free, if_pos rfl, ungated_of_unconditional free]

theorem filterMap_eq_self {α : Type} {f : α → Option α} {l : List α}
    (same : ∀ a ∈ l, f a = some a) : l.filterMap f = l := by
  rw [List.filterMap_congr same, List.filterMap_some]

theorem Item.resolved_of_unconditional {item : Item} (free : item.unconditional = true)
    (on : Bool) : item.resolved feature on = some item := by
  cases item with
  | «structure» attributes name fields =>
    rw [resolved, keeps_of_unconditional free, if_pos rfl, ungated_of_unconditional free]
  | implementation attributes interface target methods =>
    obtain ⟨marks, methods'⟩ := Bool.and_eq_true_iff.1 free
    have kept : methods.filterMap (Routine.resolved feature on) = methods :=
      filterMap_eq_self fun routine here =>
        Routine.resolved_of_unconditional (List.all_eq_true.1 methods' routine here) on
    rw [resolved, keeps_of_unconditional marks, if_pos rfl, ungated_of_unconditional marks, kept]
  | call callee content => rfl
  | routine definition =>
    rw [resolved, Routine.resolved_of_unconditional free]
    rfl

end Unconditional

/-! ## Gated functions -/

theorem gates_feature (feature : String) (on other : Bool) :
    (Attribute.feature feature on).gates feature other = (on == other) := by
  -- the third word tells the two attributes apart
  cases on <;> cases other
  · exact decide_eq_true rfl
  · refine decide_eq_false fun same => ?_
    have word : some (Token.identifier "not") = some (.identifier "feature") :=
      congrArg (·[2]?) (Attribute.tokens_inj same)
    exact absurd word (by decide)
  · refine decide_eq_false fun same => ?_
    have word : some (Token.identifier "feature") = some (.identifier "not") :=
      congrArg (·[2]?) (Attribute.tokens_inj same)
    exact absurd word (by decide)
  · exact decide_eq_true rfl

/-- A gated function is kept in its own case and dropped in the other. -/
theorem resolved_gated {routine : Routine} (free : routine.unconditional = true) (feature : String)
    (kept on : Bool) :
    (Artifact.gated feature kept routine).resolved feature on =
      if kept = on then some routine else none := by
  have keeps : keeps feature on (.feature feature kept :: routine.attributes) = (kept == on) := by
    rw [StatSchema.keeps, List.any_cons, gates_feature, Bool.not_or]
    have rest : (!routine.attributes.any fun mark => mark.gates feature !on) = true :=
      keeps_of_unconditional free on
    rw [rest]
    cases kept <;> cases on <;> rfl
  have ungated : ungated feature (.feature feature kept :: routine.attributes) =
      routine.attributes := by
    rw [StatSchema.ungated, List.filter_cons_of_neg]
    · exact ungated_of_unconditional free
    · rw [gates_feature, gates_feature]
      cases kept <;> decide
  rw [Routine.resolved, Artifact.gated, keeps, ungated]
  cases kept <;> cases on <;> rfl

/-- Of a hook under a feature one copy is left, the one of hooks that do their work or the other. -/
theorem filterMap_selected {hooks : List (Bool → Routine)}
    (free : ∀ hook ∈ hooks, ∀ enabled, (hook enabled).unconditional = true) (feature : String)
    (on : Bool) :
    (hooks.flatMap (Artifact.selected (.feature feature))).filterMap
        (Routine.resolved feature on) =
      hooks.flatMap (Artifact.selected (Artifact.always on)) := by
  induction hooks with
  | nil => rfl
  | cons hook rest ih =>
    have single : (Artifact.selected (.feature feature) hook).filterMap
        (Routine.resolved feature on) = Artifact.selected (Artifact.always on) hook := by
      have left := resolved_gated (free hook List.mem_cons_self true) feature true on
      have right := resolved_gated (free hook List.mem_cons_self false) feature false on
      unfold Artifact.selected
      rw [List.filterMap_cons, List.filterMap_cons, left, right]
      cases on <;> rfl
    rw [List.flatMap_cons, List.filterMap_append, single, List.flatMap_cons,
      ih fun other later => free other (List.mem_cons_of_mem _ later)]

/-! ## Both modes in one -/

/-- What is generated in all modes of instrumentation: the module and the types, and each hook in two
forms. Nothing of it is about a condition. -/
structure Blueprint where
  enclosure : Option Enclosure
  types : List Item
  hooks : List (Bool → Routine)
  enclosed : ∀ around, enclosure = some around →
    around.attributes.all Attribute.unconditional = true
  typed : ∀ item ∈ types, item.unconditional = true ∧ ∀ routine, item ≠ .routine routine
  hooked : ∀ hook ∈ hooks, ∀ enabled, (hook enabled).unconditional = true

namespace Blueprint

variable (blueprint : Blueprint)

/-- What is generated in a mode. -/
def artifact (instrumentation : Instrumentation) : Artifact where
  enclosure := blueprint.enclosure
  items := blueprint.types ++
    (blueprint.hooks.flatMap (Artifact.selected instrumentation)).map Item.routine

/-- What is generated under a feature resolves to what is generated in the other modes. -/
theorem resolved_artifact (feature : String) (on : Bool) :
    (blueprint.artifact (.feature feature)).resolved feature on =
      blueprint.artifact (Artifact.always on) := by
  have types : blueprint.types.filterMap (Item.resolved feature on) = blueprint.types :=
    filterMap_eq_self fun item here =>
      Item.resolved_of_unconditional (blueprint.typed item here).1 on
  have hooks : ((blueprint.hooks.flatMap (Artifact.selected (.feature feature))).map
        Item.routine).filterMap (Item.resolved feature on) =
      (blueprint.hooks.flatMap (Artifact.selected (Artifact.always on))).map Item.routine := by
    rw [← filterMap_selected blueprint.hooked, List.filterMap_map, List.map_filterMap]
    rfl
  have items : (blueprint.artifact (.feature feature)).items.filterMap
      (Item.resolved feature on) = (blueprint.artifact (Artifact.always on)).items := by
    rw [artifact, List.filterMap_append, types, hooks]
    rfl
  unfold Artifact.resolved
  rw [items]
  cases around : blueprint.enclosure with
  | none => simp [artifact, around]
  | some enclosure =>
    have free := blueprint.enclosed enclosure around
    simp [artifact, around, keeps_of_unconditional free, ungated_of_unconditional free]

/-- Only hooks depend on the mode. -/
theorem besidesHooks_artifact (instrumentation : Instrumentation) :
    (blueprint.artifact instrumentation).besidesHooks = ⟨blueprint.enclosure, blueprint.types⟩ := by
  unfold Artifact.besidesHooks artifact
  rw [List.filter_append, List.filter_map, List.filter_eq_self.2, List.filter_eq_nil_iff.2,
    List.map_nil, List.append_nil]
  · simp
  · intro item here
    have other := (blueprint.typed item here).2
    cases item with
    | routine definition => exact absurd rfl (other definition)
    | _ => rfl

end Blueprint

/-! ## Generation in every mode -/

namespace Artifact

/-- An item that is no hook, and about no condition. -/
def Stays (item : Item) : Prop :=
  item.unconditional = true ∧ ∀ routine, item ≠ .routine routine

section Parts

variable {compiled : CompiledSchema} {names : TypeNames} {runtime : Path} {items : List Item}

theorem unconditional_compoundAccessors {documentation : String → String}
    {accessors : List Routine}
    (h : compiled.derivation.mapM (compoundAccessor compiled documentation) = .ok accessors) :
    accessors.all Routine.unconditional = true := by
  refine List.all_eq_true.2 fun accessor here => ?_
  obtain ⟨entry, -, made⟩ := exists_mem_of_forall₂ (forall₂_of_mapM h) accessor here
  obtain ⟨expression, -, same⟩ := bind_eq_ok.1 made
  cases same
  rfl

theorem unconditional_mutator (runtime : Path) (entry : BaseEntry) :
    (mutator runtime entry).unconditional = true := by
  unfold mutator
  cases entry.kind <;> rfl

theorem stays_implementation {attributes : List Attribute} {interface : List Token}
    {target : String} {methods : List Routine}
    (free : attributes.all Attribute.unconditional = true)
    (methods_free : methods.all Routine.unconditional = true) :
    Stays (.implementation attributes interface target methods) :=
  ⟨Bool.and_eq_true_iff.2 ⟨free, methods_free⟩, nofun⟩

theorem stays_record (h : record compiled names runtime = .ok items) :
    ∀ item ∈ items, Stays item := by
  obtain ⟨accessors, derived, rfl⟩ := record_eq_ok h
  have fields : (compiled.storage.map fieldAccessor).all Routine.unconditional = true := by
    rw [List.all_map]
    exact List.all_eq_true.2 fun _ _ => rfl
  have mutators : (compiled.storage.map (mutator runtime)).all Routine.unconditional = true := by
    rw [List.all_map]
    exact List.all_eq_true.2 fun entry _ => unconditional_mutator runtime entry
  have methods : (newRecord compiled :: compiled.storage.map fieldAccessor ++
      compiled.storage.map (mutator runtime) ++ accessors ++
      [withCurrent names, takeCurrent names]).all Routine.unconditional = true := by
    rw [List.all_append, List.all_append, List.all_append, List.all_cons, fields, mutators,
      unconditional_compoundAccessors derived]
    rfl
  simp only [List.forall_mem_cons]
  exact ⟨⟨rfl, nofun⟩, stays_implementation rfl methods, ⟨rfl, nofun⟩, nofun⟩

theorem stays_aggregator (h : aggregator compiled names runtime = .ok items) :
    ∀ item ∈ items, Stays item := by
  obtain ⟨accessors, derived, rfl⟩ := aggregator_eq_ok h
  have reduced : (compiled.storage.map (reducedAccessor names)).all Routine.unconditional =
      true := by
    rw [List.all_map]
    exact List.all_eq_true.2 fun _ _ => rfl
  have methods : (newAggregator runtime :: ledgerMethods names ++
      compiled.storage.map (reducedAccessor names) ++ accessors).all Routine.unconditional =
        true := by
    rw [List.all_append, List.all_append, List.all_cons, reduced,
      unconditional_compoundAccessors derived]
    rfl
  simp only [List.forall_mem_cons]
  exact ⟨⟨rfl, nofun⟩, stays_implementation rfl methods, nofun⟩

theorem stays_recordReport (h : recordReport compiled names = .ok items) :
    ∀ item ∈ items, Stays item := by
  obtain ⟨lines, -, same⟩ := bind_eq_ok.1 h
  cases same
  simp only [List.forall_mem_cons]
  exact ⟨stays_implementation rfl rfl, nofun⟩

theorem stays_aggregatorReport (h : aggregatorReport compiled names runtime = .ok items) :
    ∀ item ∈ items, Stays item := by
  obtain ⟨lines, -, same⟩ := bind_eq_ok.1 h
  cases same
  simp only [List.forall_mem_cons]
  exact ⟨stays_implementation rfl rfl, stays_implementation rfl rfl, nofun⟩

theorem unconditional_hookRoutine (names : TypeNames) (runtime : Path) (identifier : String)
    (effect : HookEffect) (hook : StatSchema.Hook) :
    (hookRoutine names runtime identifier effect hook).unconditional = true := by
  cases hook with
  | lifecycle step => rfl
  | metric entry =>
    obtain ⟨name, kind, field, mutator⟩ := entry
    cases kind <;> rfl

end Parts

end Artifact

/-! ## Generation in every mode -/

/-- Each step of a sequence answers through a function, so the sequence does. -/
theorem mapM_map {ε α β γ : Type} {step : α → Except ε β} (f : β → γ) (l : List α) :
    (l.mapM fun a => (step a).map f) = (l.mapM step).map (List.map f) := by
  induction l with
  | nil => rfl
  | cons a rest ih =>
    rw [List.mapM_cons, List.mapM_cons, ih]
    cases step a with
    | error error => rfl
    | ok b => cases rest.mapM step <;> rfl

/-- Each hook in both of its forms. -/
def Artifact.hookForms (compiled : CompiledSchema) (naming : Naming) (names : TypeNames)
    (overrides : List Override) : Except Failure (List (Bool → Routine)) :=
  (Hook.all compiled).mapM fun hook =>
    (identifierOf (naming.hookText hook.name)).map fun identifier enabled =>
      hookRoutine names naming.runtime identifier
        (hook.effect enabled (overrideOf? overrides hook.name)) hook

/-- The mode only selects among the forms of hooks. -/
theorem Artifact.hooks_eq (compiled : CompiledSchema) (naming : Naming) (names : TypeNames)
    (instrumentation : Instrumentation) (overrides : List Override) :
    hooks compiled naming names instrumentation overrides =
      (hookForms compiled naming names overrides).map fun forms =>
        (forms.flatMap (selected instrumentation)).map Item.routine := by
  have steps : (fun hook : StatSchema.Hook => do
      let identifier ← identifierOf (naming.hookText hook.name)
      return selected instrumentation fun enabled =>
        hookRoutine names naming.runtime identifier
          (hook.effect enabled (overrideOf? overrides hook.name)) hook) =
      fun hook => ((identifierOf (naming.hookText hook.name)).map fun identifier enabled =>
        hookRoutine names naming.runtime identifier
          (hook.effect enabled (overrideOf? overrides hook.name)) hook).map
            (selected instrumentation) := by
    funext hook
    cases identifierOf (naming.hookText hook.name) <;> rfl
  unfold hooks hookForms
  dsimp only
  rw [steps, mapM_map]
  cases (StatSchema.Hook.all compiled).mapM fun hook =>
    (identifierOf (naming.hookText hook.name)).map fun identifier enabled =>
      hookRoutine names naming.runtime identifier
        (hook.effect enabled (overrideOf? overrides hook.name)) hook <;> rfl

/-- Answers in all modes that are values of one kind, or one failure. -/
def Alike {α : Type} (Values : (Instrumentation → α) → Prop)
    (answer : Instrumentation → Except Failure α) : Prop :=
  (∃ values, Values values ∧ ∀ instrumentation, answer instrumentation = .ok (values instrumentation)) ∨
    ∃ failure, ∀ instrumentation, answer instrumentation = .error failure

/-- A step that does not depend on the mode. -/
theorem Alike.bind {α β : Type} {Values : (Instrumentation → β) → Prop} {first : Except Failure α}
    {next : Instrumentation → α → Except Failure β}
    (later : ∀ value, first = .ok value → Alike Values fun mode => next mode value) :
    Alike Values fun mode => first >>= next mode := by
  cases first with
  | error failure => exact .inr ⟨failure, fun _ => rfl⟩
  | ok value => exact later value rfl

/-- Generation answers in the same way in every mode of instrumentation. -/
theorem generate_alike (schema : Schema) (naming : Naming) (overrides : List Override) :
    Alike (fun artifacts => ∃ blueprint : Blueprint, artifacts = blueprint.artifact)
      fun mode => generate schema naming mode overrides := by
  unfold generate
  simp only [Artifact.hooks_eq]
  refine Alike.bind fun compiled compiles => Alike.bind fun _ _ => Alike.bind fun names named => ?_
  have moved : ∀ {α β γ : Type} (x : Except Failure α) (f : α → β) (g : β → Except Failure γ),
      x.map f >>= g = x >>= fun a => g (f a) := by
    intro α β γ x f g
    cases x <;> rfl
  simp only [moved]
  refine Alike.bind fun forms formed => Alike.bind fun record recorded => ?_
  refine Alike.bind fun recordReport recordReported => Alike.bind fun aggregator aggregated => ?_
  refine Alike.bind fun aggregatorReport aggregatorReported => ?_
  refine .inl ⟨_, ⟨⟨names.module.map fun name =>
      { attributes :=
          [.doc ("Statistics hooks and reports for " ++ Artifact.shown names.aggregator ++ ".")]
        name }, record ++ recordReport ++ aggregator ++ aggregatorReport, forms, ?_, ?_, ?_⟩, rfl⟩,
    fun _ => rfl⟩
  · intro around enclosed
    obtain ⟨name, -, rfl⟩ := Option.map_eq_some_iff.1 enclosed
    rfl
  · intro item here
    simp only [List.mem_append] at here
    rcases here with ((here | here) | here) | here
    · exact Artifact.stays_record recorded item here
    · exact Artifact.stays_recordReport recordReported item here
    · exact Artifact.stays_aggregator aggregated item here
    · exact Artifact.stays_aggregatorReport aggregatorReported item here
  · intro form here enabled
    obtain ⟨hook, -, made⟩ := exists_mem_of_forall₂ (forall₂_of_mapM formed) form here
    cases spelled : identifierOf (naming.hookText hook.name) with
    | error failure =>
      rw [spelled] at made
      cases made
    | ok identifier =>
      rw [spelled] at made
      cases made
      exact Artifact.unconditional_hookRoutine _ _ _ _ _

/-- Generation stops for the same reason in every mode, or code under a feature resolves to that of the
other modes: with the feature on it is the code of hooks that do their work, with the feature off
that of hooks that do not. Besides the hooks the code is the same in all modes. -/
theorem feature_resolves_to_both (schema : Schema) (naming : Naming) (overrides : List Override)
    (feature : String) :
    (∃ both enabled disabled,
      generate schema naming (.feature feature) overrides = .ok both ∧
      generate schema naming .enabled overrides = .ok enabled ∧
      generate schema naming .disabled overrides = .ok disabled ∧
      both.resolved feature true = enabled ∧ both.resolved feature false = disabled ∧
      both.besidesHooks = enabled.besidesHooks ∧ both.besidesHooks = disabled.besidesHooks) ∨
    (∃ error, ∀ mode, generate schema naming mode overrides = .error (.refused error)) ∨
    ∃ identifier, ∀ mode,
      generate schema naming mode overrides = .error (.rawIdentifier identifier) := by
  rcases generate_alike schema naming overrides with ⟨_, ⟨blueprint, rfl⟩, made⟩ | ⟨failure, stopped⟩
  · refine .inl ⟨_, _, _, made _, made _, made _, blueprint.resolved_artifact feature true,
      blueprint.resolved_artifact feature false, ?_, ?_⟩
    · rw [blueprint.besidesHooks_artifact, blueprint.besidesHooks_artifact]
    · rw [blueprint.besidesHooks_artifact, blueprint.besidesHooks_artifact]
  · cases failure with
    | refused error => exact .inr (.inl ⟨error, stopped⟩)
    | rawIdentifier identifier => exact .inr (.inr ⟨identifier, stopped⟩)
    | defect broken =>
      exact absurd (stopped .enabled) (generate_keepsPromises schema naming .enabled overrides broken)

end StatSchema
