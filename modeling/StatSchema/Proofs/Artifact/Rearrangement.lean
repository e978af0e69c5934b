/-
Artifacts of declarations in another order. Main statement: `generate_of_rearranged`, declaration order
decides neither whether an artifact is generated nor the code of any metric, but only the order of what
is left unlisted; where all metrics are listed it does not reach the artifact at all.
-/
import StatSchema.Proofs.Artifact.Extension
import StatSchema.Proofs.Report.Labels
import StatSchema.Proofs.Schema.Rearrangement

namespace StatSchema

/-- Whether overrides are accepted depends on which hooks there are. -/
theorem checkOverrides_congr {compiled compiled' : CompiledSchema}
    (same : ∀ hook, compiled'.hasHook hook = compiled.hasHook hook) (seen : List String)
    (overrides : List Override) :
    checkOverrides compiled' seen overrides = checkOverrides compiled seen overrides := by
  induction overrides generalizing seen with
  | nil => rfl
  | cons override rest ih => rw [checkOverrides, checkOverrides, same, ih]

namespace Artifact

/-- Parts that are others in another order. -/
structure Parts.Reorders (made' made : Parts) : Prop where
  bases : made'.bases.Perm made.bases
  compounds : made'.compounds.Perm made.compounds
  lines : made'.lines.Perm made.lines

section Rearranged

variable {schema schema' : Schema} {compiled compiled' : CompiledSchema} {naming : Naming}
  {names names' : TypeNames} {instrumentation : Instrumentation} {overrides : List Override}
  {steps steps' : List Routine} {made made' : Parts}

theorem labelled_perm (perm : compiled'.display.Perm compiled.display) :
    (Report.labelled compiled').Perm (Report.labelled compiled) := by
  unfold Report.labelled
  rw [Report.width_of_perm (perm.map Report.label)]
  exact perm.map _

theorem compoundCode_eq (found : ∀ metric, compiled'.find? metric = compiled.find? metric) :
    compoundCode compiled' = compoundCode compiled :=
  funext fun _ => compoundCode_congr fun operand _ => found operand

theorem lineCode_eq (found : ∀ metric, compiled'.find? metric = compiled.find? metric) :
    lineCode compiled' = lineCode compiled := by
  funext labelled
  rw [lineCode, lineCode, found]

/-- Of declarations in another order the same can be made, in another order. -/
theorem Composed.rearranged (rearranges : schema'.Rearranges schema)
    (composed : Composed schema naming instrumentation overrides compiled names steps made) :
    ∃ compiled' made',
      Composed schema' naming instrumentation overrides compiled' names steps made' ∧
        made'.Reorders made := by
  obtain ⟨compiled', compiles'⟩ := rearranges.compiles composed.compiles
  have stored := rearranges.storage_perm composed.compiles compiles'
  have derived := rearranges.derivation_perm composed.compiles compiles'
  have found := rearranges.find?_eq composed.compiles compiles'
  have shown := labelled_perm (rearranges.display_perm composed.compiles compiles')
  obtain ⟨bases, based, permBases⟩ := mapM_eq_ok_of_perm stored.symm composed.made.bases
  obtain ⟨compounds, computed, permCompounds⟩ :=
    mapM_eq_ok_of_perm derived.symm composed.made.compounds
  obtain ⟨lines, lined, permLines⟩ := mapM_eq_ok_of_perm shown.symm composed.made.lines
  have hooks : ∀ hook, compiled'.hasHook hook = compiled.hasHook hook := by
    intro hook
    unfold CompiledSchema.hasHook
    rw [stored.any_eq]
  refine ⟨compiled', ⟨bases, compounds, lines⟩, ⟨compiles', ?_, composed.named, composed.stepped,
    based, ?_, ?_⟩, permBases.symm, permCompounds.symm, permLines.symm⟩
  · rw [checkOverrides_congr hooks]
    exact composed.checked
  · rw [compoundCode_eq found]
    exact computed
  · rw [lineCode_eq found]
    exact lined

/-- Where all metrics are listed, the parts do not depend on the order of declarations. -/
theorem Composed.parts_eq (rearranges : schema'.Rearranges schema)
    (composed : Composed schema naming instrumentation overrides compiled names steps made)
    (composed' : Composed schema' naming instrumentation overrides compiled' names steps made')
    (listed : schema.Listed) : made' = made := by
  obtain ⟨stored, derived, shown⟩ :=
    rearranges.orders_eq composed.compiles composed'.compiles listed
  have found := rearranges.find?_eq composed.compiles composed'.compiles
  obtain ⟨based, computed, lined⟩ := composed'.made
  rw [stored, composed.made.bases] at based
  rw [derived, compoundCode_eq found, composed.made.compounds] at computed
  rw [Report.labelled, shown, lineCode_eq found, ← Report.labelled, composed.made.lines] at lined
  obtain ⟨bases, compounds, lines⟩ := made
  obtain ⟨bases', compounds', lines'⟩ := made'
  cases based
  cases computed
  cases lined
  rfl

end Rearranged

end Artifact

open Artifact in
/-- Declaration order only decides what is left unlisted: in every order of the declarations generation
succeeds or in none, each metric has one type and one code, and the parts of the artifact are the same in
another order; if all metrics are listed, the artifact is the same token for token. -/
theorem generate_of_rearranged {schema schema' : Schema} (rearranges : schema'.Rearranges schema)
    (naming : Naming) (instrumentation : Instrumentation) (overrides : List Override) :
    ((∃ artifact, generate schema naming instrumentation overrides = .ok artifact) ↔
      ∃ artifact', generate schema' naming instrumentation overrides = .ok artifact') ∧
    ∀ artifact artifact', generate schema naming instrumentation overrides = .ok artifact →
      generate schema' naming instrumentation overrides = .ok artifact' →
      ∃ compiled compiled' names steps made made',
        Composed schema naming instrumentation overrides compiled names steps made ∧
        Composed schema' naming instrumentation overrides compiled' names steps made' ∧
        artifact = assembled names naming.runtime steps made ∧
        artifact' = assembled names naming.runtime steps made' ∧
        made'.Reorders made ∧
        (∀ metric ∈ schema.names, ∃ entry code,
          compiled.find? metric = some entry ∧ compiled'.find? metric = some entry ∧
          metricCode compiled naming names instrumentation overrides entry = .ok code ∧
          made.code? metric = some code ∧ made'.code? metric = some code) ∧
        (schema.Listed → artifact'.tokens = artifact.tokens) := by
  have succeeds : ∀ {schema schema' : Schema}, schema'.Rearranges schema →
      (∃ artifact, generate schema naming instrumentation overrides = .ok artifact) →
      ∃ artifact', generate schema' naming instrumentation overrides = .ok artifact' := by
    rintro schema schema' rearranges ⟨artifact, generated⟩
    obtain ⟨compiled, names, steps, made, composed, -⟩ := generate_eq_ok_iff.1 generated
    obtain ⟨compiled', made', composed', -⟩ := composed.rearranged rearranges
    exact ⟨_, composed'.generate_eq⟩
  refine ⟨⟨succeeds rearranges, succeeds rearranges.symm⟩, ?_⟩
  intro artifact artifact' generated generated'
  obtain ⟨compiled, names, steps, made, composed, rfl⟩ := generate_eq_ok_iff.1 generated
  obtain ⟨compiled', made', composed', reorders⟩ := composed.rearranged rearranges
  rw [composed'.generate_eq] at generated'
  cases generated'
  have within := rearranges.declarations.symm.subset
  refine ⟨compiled, compiled', names, steps, made, made', composed, composed', rfl, rfl, reorders,
    fun metric declared => composed.same_code composed' within declared, fun listed => ?_⟩
  rw [composed.parts_eq rearranges composed' listed]

/-- A schema whose arrangement lists all metrics. -/
def ranked : Schema :=
  { declarations := [.base ⟨"reads", .counter⟩, .base ⟨"bytes", .sum⟩,
      .compound ⟨"bytes per read", .divide, ["bytes", "reads"]⟩]
    arrangement :=
      { storage := ["bytes", "reads"]
        derivation := ["bytes per read"]
        display := ["bytes per read", "reads", "bytes"] } }

theorem generate_of_rearranged_ranked :
    ∃ artifact artifact', generate ranked {} .enabled [] = .ok artifact ∧
      generate { ranked with declarations := ranked.declarations.reverse } {} .enabled [] =
        .ok artifact' ∧
      artifact'.tokens = artifact.tokens := by
  have rearranges : Schema.Rearranges
      { ranked with declarations := ranked.declarations.reverse } ranked :=
    ⟨List.reverse_perm _, rfl⟩
  have listed : ranked.Listed := ⟨by decide, by decide, by decide⟩
  obtain ⟨accepts, same⟩ := generate_of_rearranged rearranges {} .enabled []
  have generates : (generate ranked {} .enabled []).isOk = true := by decide +kernel
  obtain ⟨artifact, generated⟩ := exists_of_isOk generates
  obtain ⟨artifact', generated'⟩ := accepts.1 ⟨artifact, generated⟩
  obtain ⟨_, _, _, _, _, _, -, -, -, -, -, -, identical⟩ :=
    same artifact artifact' generated generated'
  exact ⟨artifact, artifact', generated, generated', identical listed⟩

end StatSchema
