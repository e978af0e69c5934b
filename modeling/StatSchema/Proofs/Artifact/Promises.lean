/-
The promises between the stages of generation hold: once a schema compiles, every name resolves and
every compound has an expression of its type, so that whatever stops generation is an error of what is
given or a name in raw form. Main statement: `generate_concludes`.
-/
import StatSchema.Proofs.Expression.Compounds
import StatSchema.Artifact

namespace StatSchema

/-- What generation may come to, given the texts that are read as identifiers: an answer, a refusal, or
the raw identifier that one of the texts spells. -/
inductive Concludes {α : Type} (texts : List String) : Except Failure α → Prop
  | answered (value : α) : Concludes texts (.ok value)
  | refused (error : SchemaError) : Concludes texts (.error (.refused error))
  | raw {text identifier : String} : text ∈ texts → Identifier.read text = .raw identifier →
      Concludes texts (.error (.rawIdentifier identifier))

/-- No promise between two stages is broken. -/
def KeepsPromises {α : Type} (answer : Except Failure α) : Prop :=
  ∀ defect, answer ≠ .error (.defect defect)

/-! ## Steps -/

section Steps

variable {α β : Type} {texts : List String}

theorem Concludes.keepsPromises {answer : Except Failure α} (concludes : Concludes texts answer) :
    KeepsPromises answer := by
  cases concludes <;> exact nofun

theorem Concludes.mono {more : List String} (within : texts ⊆ more) {answer : Except Failure α}
    (concludes : Concludes texts answer) : Concludes more answer := by
  cases concludes with
  | answered value => exact .answered value
  | refused error => exact .refused error
  | raw here read => exact .raw (within here) read

theorem Concludes.bind {first : Except Failure α} {next : α → Except Failure β}
    (concludes : Concludes texts first)
    (later : ∀ value, first = .ok value → Concludes texts (next value)) :
    Concludes texts (first >>= next) := by
  cases concludes with
  | answered value => exact later value rfl
  | refused error => exact .refused error
  | raw here read => exact .raw here read

theorem concludes_mapM {step : α → Except Failure β} {values : List α}
    (single : ∀ value ∈ values, Concludes texts (step value)) :
    Concludes texts (values.mapM step) := by
  induction values with
  | nil => exact .answered []
  | cons value rest ih =>
    rw [List.mapM_cons]
    refine (single value List.mem_cons_self).bind fun first _ => ?_
    refine (ih fun other later => single other (List.mem_cons_of_mem _ later)).bind fun others _ => ?_
    exact .answered _

theorem concludes_identify {text : String} (here : text ∈ texts) (error : SchemaError) :
    Concludes texts (identify text error) := by
  unfold identify
  split
  · exact .answered _
  · rename_i read
    exact .raw here read
  · exact .refused _

end Steps

/-! ## Checks -/

/-- The texts that compiling reads as the identifiers of metrics. -/
def Schema.identifierTexts (schema : Schema) : List String := schema.names.map Name.snake

/-- What is reported of a schema is an error of it or a name in raw form. -/
theorem Schema.Reports.concludes {schema : Schema} {failure : Failure} {phase : Phase}
    (fault : schema.Reports failure phase) (α : Type) :
    Concludes schema.identifierTexts (.error failure : Except Failure α) := by
  cases phase with
  | names =>
    cases fault with
    | raw here read => exact .raw (List.mem_map_of_mem here) read
    | blank | repeated | formsNone | reserved | sameSpelling => exact .refused _
  | mutators => cases fault; exact .refused _
  | operands => cases fault <;> exact .refused _
  | spellings => cases fault; exact .refused _
  | cycles | storage | derivation | display =>
    obtain ⟨error, rfl, -⟩ := fault
    exact .refused _

theorem compile_concludes (schema : Schema) : Concludes schema.identifierTexts (compile schema) := by
  have verdict := compile_spec schema
  cases answer : compile schema with
  | ok compiled => exact .answered compiled
  | error failure =>
    rw [answer] at verdict
    cases verdict with
    | refused phase fault sofar => exact fault.concludes _

section Checks

variable {texts : List String}

theorem checkOverrides_concludes (compiled : CompiledSchema) (seen : List String)
    (overrides : List Override) : Concludes texts (checkOverrides compiled seen overrides) := by
  induction overrides generalizing seen with
  | nil => exact .answered ()
  | cons override rest ih =>
    unfold checkOverrides
    split
    · exact .refused _
    · split
      · exact .refused _
      · exact ih _

/-- The texts that are read as the identifiers of types, of the cell and of the module. -/
def Naming.typeTexts (naming : Naming) : List String :=
  [naming.record, naming.aggregator, naming.threadLocalText] ++ naming.module.toList

theorem typeNames_concludes (naming : Naming) : Concludes naming.typeTexts naming.typeNames := by
  have typed : ∀ name ∈ naming.typeTexts,
      Concludes naming.typeTexts (Naming.typeIdentifier name) := by
    intro name here
    unfold Naming.typeIdentifier
    split
    · exact .refused _
    · exact concludes_identify here _
  refine (typed _ (by simp [Naming.typeTexts])).bind fun record _ => ?_
  refine (typed _ (by simp [Naming.typeTexts])).bind fun aggregator _ => ?_
  refine (concludes_identify (by simp [Naming.typeTexts]) _).bind fun threadLocal _ => ?_
  have enclosed : Concludes naming.typeTexts (naming.module.mapM identifierOf) := by
    cases given : naming.module with
    | none => exact .answered none
    | some name =>
      refine (concludes_identify ?_ _).bind fun identifier _ => .answered _
      simp [Naming.typeTexts, given]
  refine enclosed.bind fun module _ => ?_
  split
  · exact .refused _
  · exact .answered _

end Checks

/-! ## Emission -/

/-- The texts that are read as the identifiers of hooks. -/
def Naming.hookTexts (naming : Naming) (schema : Schema) : List String :=
  (schema.bases.map (·.name) ++ Lifecycle.all.map (·.word)).map naming.hookText

namespace Artifact

section Compiled

variable {schema : Schema} {compiled : CompiledSchema} (compiles : compile schema = .ok compiled)
  {texts : List String}

include compiles

theorem hooks_concludes (naming : Naming) (names : TypeNames) (instrumentation : Instrumentation)
    (overrides : List Override) : Concludes (naming.hookTexts schema)
      (hooks compiled naming names instrumentation overrides) := by
  have represents := (of_compile compiles).2
  refine (concludes_mapM fun hook here => ?_).bind fun routines _ => .answered _
  refine (concludes_identify (List.mem_map_of_mem ?_) _).bind fun identifier _ => .answered _
  rcases List.mem_append.1 here with here | here
  · obtain ⟨entry, stored, rfl⟩ := List.mem_map.1 here
    exact List.mem_append_left _ (List.mem_map_of_mem (represents.mem_bases stored))
  · obtain ⟨step, there, rfl⟩ := List.mem_map.1 here
    exact List.mem_append_right _ (List.mem_map_of_mem there)

theorem compoundAccessors_concludes (documentation : String → String) :
    Concludes texts (compiled.derivation.mapM (compoundAccessor compiled documentation)) := by
  refine concludes_mapM fun compound here => ?_
  obtain ⟨tree, made⟩ := compiled.exists_expression compiles here
  unfold compoundAccessor
  rw [made]
  exact .answered _

theorem lineStatements_concludes (indent : String) :
    Concludes texts (lineStatements compiled indent) := by
  have represents := (of_compile compiles).2
  refine concludes_mapM fun (metric, label) here => ?_
  have shown : metric ∈ compiled.display := by
    obtain ⟨other, shown, same⟩ := List.mem_map.1 here
    cases same
    exact shown
  obtain ⟨entry, found⟩ := represents.exists_entry (represents.display.mem_iff.1 shown)
  dsimp only
  rw [found]
  exact .answered _

end Compiled

end Artifact

/-- The texts that generation reads as identifiers. -/
def identifierTexts (schema : Schema) (naming : Naming) : List String :=
  schema.identifierTexts ++ naming.typeTexts ++ naming.hookTexts schema

/-- Generation answers or refuses what is given, unless a text that it reads as an identifier is in raw
form. -/
theorem generate_concludes (schema : Schema) (naming : Naming) (instrumentation : Instrumentation)
    (overrides : List Override) : Concludes (identifierTexts schema naming)
      (generate schema naming instrumentation overrides) := by
  have ofMetrics : schema.identifierTexts ⊆ identifierTexts schema naming :=
    fun _ here => List.mem_append_left _ (List.mem_append_left _ here)
  have ofTypes : naming.typeTexts ⊆ identifierTexts schema naming :=
    fun _ here => List.mem_append_left _ (List.mem_append_right _ here)
  have ofHooks : naming.hookTexts schema ⊆ identifierTexts schema naming :=
    fun _ here => List.mem_append_right _ here
  refine ((compile_concludes schema).mono ofMetrics).bind fun compiled compiles => ?_
  refine (checkOverrides_concludes _ _ _).bind fun _ _ => ?_
  refine ((typeNames_concludes _).mono ofTypes).bind fun names _ => ?_
  refine ((Artifact.hooks_concludes compiles _ _ _ _).mono ofHooks).bind fun hooks _ => ?_
  refine Concludes.bind ((Artifact.compoundAccessors_concludes compiles _).bind
    fun accessors _ => .answered _) fun record _ => ?_
  refine Concludes.bind ((Artifact.lineStatements_concludes compiles _).bind
    fun lines _ => .answered _) fun recordReport _ => ?_
  refine Concludes.bind ((Artifact.compoundAccessors_concludes compiles _).bind
    fun accessors _ => .answered _) fun aggregator _ => ?_
  refine Concludes.bind ((Artifact.lineStatements_concludes compiles _).bind
    fun lines _ => .answered _) fun aggregatorReport _ => ?_
  exact .answered _

/-- Generation breaks no promise. -/
theorem generate_keepsPromises (schema : Schema) (naming : Naming)
    (instrumentation : Instrumentation) (overrides : List Override) :
    KeepsPromises (generate schema naming instrumentation overrides) :=
  (generate_concludes schema naming instrumentation overrides).keepsPromises

end StatSchema
