/-
Both notations of an outline lead to the same code. Definitions and documents are read as the same
schema and the same names, and as the same overrides but for their order, which does not reach the
artifact. Main statement: `notations_agree`.
-/
import StatSchema.Definition.Expansion
import StatSchema.Proofs.Artifact.Overriding
import StatSchema.Proofs.Artifact.Promises
import StatSchema.Proofs.Notation.Document
import StatSchema.Proofs.Notation.Tokens
import StatSchema.Source

namespace StatSchema

open Token

/-- How the expansion of a definition and the generation from a document may come out together: with
one artifact, with one error of the schema or of the names, with errors for overrides of hooks that the
schema does not have, or with one identifier in raw form. -/
inductive Agree (outline : Outline) : Except ExpansionError Artifact → Except Failure Artifact → Prop
  | generated (artifact : Artifact) : Agree outline (.ok artifact) (.ok artifact)
  | refused (error : SchemaError) (span : Span) :
    Agree outline (.error (.refused error span)) (.error (.refused error))
  | unknownHooks {compiled : CompiledSchema} (compiles : compile outline.schema = .ok compiled)
      {first second : String} (span : Span)
      (given : first ∈ outline.overrides.map (·.1)) (unknown : compiled.hasHook first = false)
      (given' : second ∈ outline.overrides.map (·.1)) (unknown' : compiled.hasHook second = false) :
    Agree outline (.error (.refused (.unknownHook first) span))
      (.error (.refused (.unknownHook second)))
  | raw (identifier : String) :
    Agree outline (.error (.failed (.rawIdentifier identifier))) (.error (.rawIdentifier identifier))

/-- An outline comes to the same code in both notations. Its tokens, wherever they are placed, and its
document are accepted, and what is generated from them is one artifact, or stops with one error, the
choice among several unknown hooks aside, or with one identifier in raw form. -/
theorem notations_agree (outline : Outline) {placed : List Placed}
    (spelled : placed.map (·.token) = outline.tokens) :
    ∃ configuration, Configuration.ofTable outline.document = .ok configuration ∧
      configuration.instrumentation = .enabled ∧
      Agree outline (Definition.expandTokens placed .enabled) configuration.artifact := by
  refine ⟨_, outline.ofTable_document, rfl, ?_⟩
  obtain ⟨definition, read, schema, naming, overrides⟩ := outline.ofTokens_eq_ok spelled
  have permuted : (outline.overrides.map overrideBy).Perm
      ((Toml.sorted outline.overrides).map overrideBy) := (List.mergeSort_perm _ _).symm.map _
  have distinct : ((outline.overrides.map overrideBy).map (·.hook)).Nodup := by
    rw [List.map_map]
    exact outline.distinct
  -- what is left is generation from the same schema and names, with the overrides in two orders
  unfold Definition.expandTokens Configuration.artifact
  rw [read]
  dsimp only
  rw [schema, naming, overrides]
  rcases generate_of_perm outline.schema outline.naming .enabled permuted distinct with
    same | ⟨compiled, compiles, _, here, _, there, unknown, unknown', refused, refused'⟩
  · rw [← same]
    have kept := generate_keepsPromises outline.schema outline.naming .enabled
      (outline.overrides.map overrideBy)
    cases answer : generate outline.schema outline.naming .enabled
        (outline.overrides.map overrideBy) with
    | ok artifact => exact .generated artifact
    | error failure =>
      cases failure with
      | refused error => exact .refused error _
      | rawIdentifier identifier => exact .raw identifier
      | defect defect => exact absurd answer (kept defect)
  · rw [refused, refused']
    obtain ⟨first, given, rfl⟩ := List.mem_map.1 here
    obtain ⟨second, given', rfl⟩ := List.mem_map.1 there
    exact .unknownHooks compiles _ (List.mem_map_of_mem given) unknown (List.mem_map_of_mem given')
      unknown'

/-- Visits to a site, with overrides that are not sorted by hook. -/
def siteOutline : Outline where
  bases := [⟨"jumps", .max⟩, ⟨"visits", .counter⟩]
  compounds := [⟨"pages", .add, ["visits", "jumps"]⟩]
  arrangement := { storage := ["visits"] }
  hookPrefix := "log_"
  record := "Visit"
  aggregator := "Site"
  module := some "site"
  runtime := .plain true "tallies" [] "::tallies" (by decide) (by decide +kernel)
  overrides := [
    ("visits", .plain false "crate" ["sink", "tick"] "crate::sink::tick" (by decide)
      (by decide +kernel)),
    ("dump", .plain false "crate" ["sink", "show"] "crate :: sink :: show" (by decide)
      (by decide +kernel))]
  operands := by decide
  identifiers := by decide
  distinct := by decide

theorem site_notations_agree :
    (siteOutline.tokens.map (⟨·, .whole⟩)).map Placed.token = siteOutline.tokens ∧
      ∃ configuration, Configuration.ofTable siteOutline.document = .ok configuration ∧
        configuration.instrumentation = .enabled ∧
        Agree siteOutline
          (Definition.expandTokens (siteOutline.tokens.map (⟨·, .whole⟩)) .enabled)
          configuration.artifact :=
  have spelled : (siteOutline.tokens.map (⟨·, .whole⟩)).map Placed.token = siteOutline.tokens := by
    rw [List.map_map]
    exact List.map_id _
  ⟨spelled, notations_agree siteOutline spelled⟩

end StatSchema
