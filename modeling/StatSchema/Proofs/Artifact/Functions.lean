/-
The names of the functions of an artifact and of the cell that holds the record of a thread. Each hook is
one function, named by the prefix and the spelling of the hook. Spellings of hooks are apart as texts, so
the functions are; to the language they are one if the spellings are equivalent. No spelling ends in a
capital, but the name of the cell does, in either form, so no function has its name. Main statement:
`functions_apart_from_cell`.
-/
import StatSchema.Proofs.Artifact.Calls
import StatSchema.Proofs.Artifact.Overriding
import StatSchema.Proofs.Canonical
import StatSchema.Proofs.Case

namespace StatSchema

open Identifier

/-! ## Spellings of hooks -/

/-- What is so of the declared names and of the words of lifecycle hooks is so of all hooks. -/
theorem Schema.forall_hookNames {schema : Schema} {p : String → Prop}
    (declared : ∀ name ∈ schema.names, p name) (lifecycle : ∀ step : Lifecycle, p step.word) :
    ∀ hook ∈ schema.hookNames, p hook := by
  intro hook here
  rcases List.mem_append.1 here with base | standing
  · exact declared hook (schema.sublist_names_bases.subset base)
  · obtain ⟨step, -, rfl⟩ := List.mem_map.1 standing
    exact lifecycle step

theorem NamesSound.snake_ne_nil {names : List String} (sound : NamesSound names) {name : String}
    (here : name ∈ names) : (Name.snake name).toList ≠ [] := by
  intro empty
  obtain ⟨identifier, plain⟩ := sound.spelled name here
  have noSlash : '/' ∉ (Name.snake name).toList := by simp [empty]
  obtain ⟨nonempty, space, behind, -⟩ := suffix_of_read_plain noSlash plain
  rw [empty, List.suffix_nil, List.append_eq_nil_iff] at behind
  exact nonempty behind.1

/-- Every hook is spelled with some character. -/
theorem NamesSound.snake_hook_ne_nil {schema : Schema} (sound : NamesSound schema.names) :
    ∀ hook ∈ schema.hookNames, (Name.snake hook).toList ≠ [] := by
  refine Schema.forall_hookNames (fun name => sound.snake_ne_nil) fun step => ?_
  rw [step.snake_word]
  cases step <;> decide

/-- The word of a lifecycle hook is equivalent to itself alone. -/
theorem Lifecycle.canonical_eq_word (step : Lifecycle) (identifier : String) :
    canonical identifier = step.word ↔ identifier = step.word := by
  refine Identifier.canonical_eq_word ?_
  cases step <;> decide

theorem Lifecycle.canonical_snake_word (step : Lifecycle) :
    canonical (Name.snake step.word) = step.word :=
  (step.canonical_eq_word _).2 step.snake_word

/-- No metric is spelled like a lifecycle hook, not even by an equivalent text. -/
theorem NamesSound.canonical_snake_ne {names : List String} (sound : NamesSound names) {name : String}
    (here : name ∈ names) (step : Lifecycle) : canonical (Name.snake name) ≠ step.word := by
  intro same
  refine sound.unreserved name here ?_
  rw [(step.canonical_eq_word _).1 same, ← step.snake_word]
  exact step.snake_mem_reservedNames

namespace Naming

variable {naming : Naming} {names : TypeNames} {schema : Schema}

/-! ## Texts of hooks -/

/-- One prefix stands before all hooks, so their texts are as far apart as their spellings. -/
theorem nodup_hookTexts (naming : Naming) (sound : NamesSound schema.names) :
    (schema.hookNames.map naming.hookText).Nodup := by
  have split : schema.hookNames.map naming.hookText =
      (schema.hookNames.map Name.snake).map (naming.hookPrefix ++ ·) := by
    rw [List.map_map]
    rfl
  rw [split]
  refine sound.nodup_hookSpellings.map ?_
  intro first second same
  exact (String.append_right_inj _).1 same

theorem canonical_hookText (naming : Naming) (hook other : String) :
    canonical (naming.hookText hook) = canonical (naming.hookText other) ↔
      canonical (Name.snake hook) = canonical (Name.snake other) :=
  canonical_append_inj naming.hookPrefix

/-- Texts of hooks are as far apart as the spellings of metrics. -/
theorem nodup_canonical_hookTexts_iff (naming : Naming) (sound : NamesSound schema.names) :
    (schema.hookNames.map fun hook => canonical (naming.hookText hook)).Nodup ↔
      (schema.bases.map fun metric => canonical (Name.snake metric.name)).Nodup := by
  have unprefixed : (schema.hookNames.map fun hook => canonical (naming.hookText hook)).Nodup ↔
      (schema.hookNames.map fun hook => canonical (Name.snake hook)).Nodup := by
    unfold List.Nodup
    rw [List.pairwise_map, List.pairwise_map]
    simp only [ne_eq, canonical_hookText]
  have words : (Lifecycle.all.map fun step => canonical (Name.snake step.word)) =
      Lifecycle.all.map (·.word) :=
    List.map_congr_left fun step _ => step.canonical_snake_word
  rw [unprefixed, Schema.hookNames, List.map_append, List.map_map, List.map_map]
  refine ⟨fun distinct => (List.nodup_append.1 distinct).1, fun distinct => ?_⟩
  refine List.nodup_append.2 ⟨distinct, words ▸ by decide, ?_⟩
  rintro identifier here other there rfl
  obtain ⟨metric, declared, rfl⟩ := List.mem_map.1 here
  obtain ⟨step, -, same⟩ := List.mem_map.1 there
  exact sound.canonical_snake_ne (schema.sublist_names_bases.subset (List.mem_map_of_mem declared))
    step (same.symm.trans step.canonical_snake_word)

theorem continuation_hookText (prefixed : Continuation naming.hookPrefix)
    (spelled : ∀ name ∈ schema.names, Continuation (Name.snake name)) :
    ∀ hook ∈ schema.hookNames, Continuation (naming.hookText hook) := by
  refine Schema.forall_hookNames (fun name here => prefixed.append (spelled name here)) fun step => ?_
  refine prefixed.append ?_
  rw [step.snake_word]
  cases step <;> decide

/-- The text of a hook ends as its spelling does, with no capital. -/
theorem not_isUpper_of_hookText {hook : String} {last : Char}
    (nonempty : (Name.snake hook).toList ≠ [])
    (ends : (naming.hookText hook).toList.getLast? = some last) : last.isUpper = false := by
  rw [hookText, String.toList_append, List.getLast?_append,
    List.getLast?_eq_some_getLast nonempty, Option.some_or] at ends
  exact Name.not_isUpper_snake hook last (Option.some.inj ends ▸ List.getLast_mem nonempty)

/-! ## The cell -/

theorem read_threadLocalText (h : naming.typeNames = .ok names) :
    Identifier.read naming.threadLocalText = .plain names.threadLocal := by
  obtain ⟨record, -, h⟩ := bind_eq_ok.1 h
  obtain ⟨aggregator, -, h⟩ := bind_eq_ok.1 h
  obtain ⟨threadLocal, spelled, h⟩ := bind_eq_ok.1 h
  obtain ⟨module, -, h⟩ := bind_eq_ok.1 h
  split at h
  · cases h
  · cases h
    exact identifierOf_eq_ok.1 spelled

/-- The name of the cell ends in a capital, as its text does: no comment hides the end, since upper case
opens none that is not in the name of the record type. -/
theorem getLast?_threadLocal (h : naming.typeNames = .ok names)
    (noSlash : '/' ∉ naming.record.toList) : names.threadLocal.toList.getLast? = some 'E' := by
  have ending : "_INSTANCE".toList = ['_', 'I', 'N', 'S', 'T', 'A', 'N', 'C', 'E'] := rfl
  refine getLast?_of_read_plain ?_ ?_ (by decide) (read_threadLocalText h)
  · rw [threadLocalText, String.toList_append, List.mem_append, not_or]
    exact ⟨Name.noSlash_upperSnake noSlash, by decide⟩
  · rw [threadLocalText, String.toList_append, List.getLast?_append, ending]
    rfl

/-- Whatever the prefix, no text of a hook is equivalent to the name of the cell. -/
theorem canonical_threadLocal_ne (h : naming.typeNames = .ok names)
    (noSlash : '/' ∉ naming.record.toList) (sound : NamesSound schema.names) {hook : String}
    (here : hook ∈ schema.hookNames) :
    canonical names.threadLocal ≠ canonical (naming.hookText hook) := by
  intro same
  have capital : Text.isBasic 'E' = true := by decide
  have ends := (getLast?_canonical capital _).2 (getLast?_threadLocal h noSlash)
  rw [same] at ends
  have lower := not_isUpper_of_hookText (sound.snake_hook_ne_nil hook here)
    ((getLast?_canonical capital _).1 ends)
  revert lower
  decide

end Naming

/-! ## Functions -/

namespace Artifact

variable {artifact : Artifact} {compiled : CompiledSchema} {names : TypeNames} {naming : Naming}

theorem name_hookRoutine (names : TypeNames) (runtime : Path) (identifier : String)
    (effect : HookEffect) (hook : StatSchema.Hook) :
    (hookRoutine names runtime identifier effect hook).name = identifier := by
  cases hook with
  | lifecycle step => rfl
  | metric entry =>
    obtain ⟨name, kind, field, mutator⟩ := entry
    cases kind <;> rfl

/-- Where the texts of hooks are identifiers, each hook is one function of that name, in the order of
hooks. -/
theorem functions_eq {enabled : Bool} {overrides : List Override}
    (continues : ∀ hook ∈ StatSchema.Hook.all compiled, Continuation (naming.hookText hook.name))
    (hooked : hooks compiled naming names (always enabled) overrides =
      .ok (artifact.functions.map Item.routine)) :
    artifact.functions = (StatSchema.Hook.all compiled).map fun hook =>
      hookRoutine names naming.runtime (naming.hookText hook.name)
        (hook.effect enabled (overrideOf? overrides hook.name)) hook := by
  have made := (List.forall₂_and_left _ _).2
    ⟨fun hook (here : hook ∈ StatSchema.Hook.all compiled) => here, functions_of_always hooked⟩
  refine (map_eq_of_forall₂ (made.imp ?_).flip).symm
  rintro hook routine ⟨here, identifier, spelled, rfl⟩
  -- the name is what the text reads as, which is all of it
  rw [(continues hook here).eq_of_read (identifierOf_eq_ok.1 spelled)]
  rfl

/-- Functions made of hooks under the texts of the hooks are named by these texts. -/
theorem names_functions {effect : StatSchema.Hook → HookEffect}
    (functions : artifact.functions = (StatSchema.Hook.all compiled).map fun hook =>
      hookRoutine names naming.runtime (naming.hookText hook.name) (effect hook) hook) :
    artifact.functions.map (·.name) =
      ((StatSchema.Hook.all compiled).map StatSchema.Hook.name).map naming.hookText := by
  rw [functions, List.map_map, List.map_map]
  exact List.map_congr_left fun hook _ => name_hookRoutine _ _ _ _ hook

end Artifact

/-- In code without a feature, whose prefix, record type and spellings hold nothing but characters that
identifiers go on with, the functions are the hooks of the base metrics and of the life of an aggregator,
each of them once and named by the prefix and its spelling. No two names are the same as they are written,
and to the language they are distinct exactly if no two base metrics have equivalent spellings, as is so if
all are in one normal form. None is equivalent to the name of the one cell that holds the record of a
thread. -/
theorem functions_apart_from_cell {schema : Schema} {naming : Naming} {enabled : Bool}
    {overrides : List Override} {artifact : Artifact}
    (generated : generate schema naming (Artifact.always enabled) overrides = .ok artifact)
    (prefixed : Continuation naming.hookPrefix) (recorded : Continuation naming.record)
    (spelled : ∀ name ∈ schema.names, Continuation (Name.snake name)) :
    ∃ compiled names, compile schema = .ok compiled ∧ naming.typeNames = .ok names ∧
      (compiled.storage.map BaseEntry.metric).Perm schema.bases ∧
      artifact.functions = (Hook.all compiled).map (fun hook =>
        Artifact.hookRoutine names naming.runtime (naming.hookText hook.name)
          (hook.effect enabled (overrideOf? overrides hook.name)) hook) ∧
      (artifact.functions.map (·.name)).Perm (schema.hookNames.map naming.hookText) ∧
      (artifact.functions.map (·.name)).Nodup ∧
      ((artifact.functions.map fun function => canonical function.name).Nodup ↔
        (schema.bases.map fun metric => canonical (Name.snake metric.name)).Nodup) ∧
      (∀ normal, Normalizes normal →
        (∀ metric ∈ schema.bases, normal (Name.snake metric.name) = Name.snake metric.name) →
        (artifact.functions.map fun function => canonical function.name).Nodup) ∧
      Identifier.read naming.threadLocalText = .plain names.threadLocal ∧
      artifact.cellsOf names.record = [names.threadLocal] ∧
      names.threadLocal ∉ artifact.functions.map (·.name) ∧
      canonical names.threadLocal ∉ artifact.functions.map fun function =>
        canonical function.name := by
  obtain ⟨compiled, names, compiles, named, represents, hooked⟩ := Artifact.generate_eq_ok generated
  obtain ⟨wellFormed, holds⟩ := of_compile compiles
  have sound : NamesSound schema.names := wellFormed .names
  have continues : ∀ hook ∈ Hook.all compiled, Continuation (naming.hookText hook.name) :=
    fun hook here => Naming.continuation_hookText prefixed spelled hook.name
      (holds.perm_hookNames.subset (List.mem_map_of_mem here))
  have functions := Artifact.functions_eq continues hooked
  have texts : (artifact.functions.map (·.name)).Perm (schema.hookNames.map naming.hookText) := by
    rw [Artifact.names_functions functions]
    exact holds.perm_hookNames.map _
  have forms : (artifact.functions.map fun function => canonical function.name).Perm
      (schema.hookNames.map fun hook => canonical (naming.hookText hook)) := by
    have mapped := texts.map canonical
    rwa [List.map_map, List.map_map] at mapped
  have exact_condition := forms.nodup_iff.trans (naming.nodup_canonical_hookTexts_iff sound)
  have apart : ∀ function ∈ artifact.functions,
      canonical names.threadLocal ≠ canonical function.name := by
    intro function here
    obtain ⟨hook, there, same⟩ := List.mem_map.1 (texts.subset (List.mem_map_of_mem here))
    exact same ▸ Naming.canonical_threadLocal_ne named recorded.noSlash sound there
  refine ⟨compiled, names, compiles, named, holds.storage, functions, texts, ?_, exact_condition, ?_,
    Naming.read_threadLocalText named, represents.cells, ?_, ?_⟩
  · exact texts.nodup_iff.2 (naming.nodup_hookTexts sound)
  · intro normal normalizes normalized
    refine exact_condition.2 ?_
    have spellings : (schema.bases.map fun metric => Name.snake metric.name).Nodup := by
      have declared := sound.apart.sublist (schema.sublist_names_bases.map Name.snake)
      rwa [List.map_map] at declared
    refine (spellings.of_map _).map_on fun metric here other there same => ?_
    exact List.inj_on_of_nodup_map spellings here there
      (normalizes.eq_of_canonical_eq (normalized metric here) (normalized other there) same)
  · intro shared
    obtain ⟨function, here, same⟩ := List.mem_map.1 shared
    exact apart function here (same ▸ rfl)
  · intro shared
    obtain ⟨function, here, same⟩ := List.mem_map.1 shared
    exact apart function here same.symm

/-- Two names that are spelled with the same letter, as one character and as two. -/
def accented : Schema :=
  { declarations := [.base ⟨"\u00E9", .counter⟩, .base ⟨"e\u0301", .counter⟩] }

/-- Names that differ in the spelling of a letter alone are generated into functions that are one to the
language, though neither is the cell. -/
theorem accented_functions_shared :
    ∃ artifact names, generate accented {} .enabled [] = .ok artifact ∧
      Naming.typeNames {} = .ok names ∧
      (artifact.functions.map (·.name)).Perm ["\u00E9", "e\u0301", "publish", "clear", "dump"] ∧
      (artifact.functions.map (·.name)).Nodup ∧
      ¬ (artifact.functions.map fun function => canonical function.name).Nodup ∧
      artifact.cellsOf names.record = ["PERF_STATS_RECORD_INSTANCE"] ∧
      canonical names.threadLocal ∉ artifact.functions.map fun function =>
        canonical function.name := by
  have generates : (generate accented {} .enabled []).isOk = true := by decide +kernel
  obtain ⟨artifact, generated⟩ := exists_of_isOk generates
  have always : generate accented {} (Artifact.always true) [] = .ok artifact := generated
  obtain ⟨compiled, names, -, named, -, -, texts, written, exact_condition, -, read, cells, -, apart⟩ :=
    functions_apart_from_cell always (by decide) (by decide) (by decide +kernel)
  have cell : Identifier.read (Naming.threadLocalText {}) = .plain "PERF_STATS_RECORD_INSTANCE" := by
    decide +kernel
  have hooks : accented.hookNames.map (Naming.hookText {}) =
      ["\u00E9", "e\u0301", "publish", "clear", "dump"] := by
    decide +kernel
  have together :
      ¬ (accented.bases.map fun metric => canonical (Name.snake metric.name)).Nodup := by
    decide +kernel
  rw [cell] at read
  rw [hooks] at texts
  rw [← Identifier.Reading.plain.inj read] at cells
  exact ⟨artifact, names, generated, named, texts, written, mt exact_condition.1 together, cells, apart⟩

end StatSchema
