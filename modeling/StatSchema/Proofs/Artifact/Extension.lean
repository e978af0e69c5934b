/-
The code of a metric under more declarations. It is made from the entry of the metric and from those of
its operands, which are the same wherever the metric is declared, so the code is the same as well, and
so is what its accessors answer after the same actions. Main statement: `schemas_extend_conservatively`.
-/
import StatSchema.Proofs.Artifact.Aggregation
import StatSchema.Proofs.Artifact.Assembly
import StatSchema.Proofs.Report.Labels
import StatSchema.Proofs.Session.Extension
import Mathlib.Data.List.Perm.Subperm

namespace StatSchema

namespace Artifact

/-- Parts that are among others, in any order. More lines may need wider labels. -/
structure Parts.Within (made made' : Parts) : Prop where
  bases : made.bases.Subperm made'.bases
  compounds : made.compounds.Subperm made'.compounds
  lines : ∀ line ∈ made.lines, ∃ spaces,
    { line with label := line.label.pushn ' ' spaces } ∈ made'.lines

variable {compiled compiled' : CompiledSchema} {naming : Naming} {names : TypeNames}
  {instrumentation : Instrumentation} {overrides : List Override}

/-- The accessors of a compound whose operands are looked up alike. -/
theorem compoundCode_congr {entry : CompoundEntry}
    (same : ∀ operand ∈ entry.operands, compiled'.find? operand = compiled.find? operand) :
    compoundCode compiled' entry = compoundCode compiled entry := by
  have expression : compiled'.expression entry = compiled.expression entry := by
    unfold CompiledSchema.expression
    rw [CompiledSchema.entries_congr same]
  unfold compoundCode compoundAccessor
  rw [expression]

section Composed

variable {schema schema' : Schema} {names' : TypeNames} {steps steps' : List Routine}
  {made made' : Parts}
  (composed : Composed schema naming instrumentation overrides compiled names steps made)
  (composed' : Composed schema' naming instrumentation overrides compiled' names' steps' made')

include composed composed'

/-- What depends on names alone is the same for every schema. -/
theorem Composed.names_eq : names' = names ∧ steps' = steps := by
  have named := composed'.named
  rw [composed.named] at named
  cases named
  have stepped := composed'.stepped
  rw [composed.stepped] at stepped
  cases stepped
  exact ⟨rfl, rfl⟩

/-- The operands of a compound are looked up alike under more declarations. -/
theorem Composed.operands_eq (within : schema.declarations ⊆ schema'.declarations)
    {entry : CompoundEntry} (here : entry ∈ compiled.derivation) :
    ∀ operand ∈ entry.operands, compiled'.find? operand = compiled.find? operand := by
  obtain ⟨wellFormed, represents⟩ := of_compile composed.compiles
  exact fun operand taken => CompiledSchema.find?_of_subset composed.compiles composed'.compiles within
    operand (represents.declared wellFormed here taken)

/-- Whatever else is declared, in whatever order, the code of a metric is the same. -/
theorem Composed.code?_eq (within : schema.declarations ⊆ schema'.declarations) {metric : String}
    (declared : metric ∈ schema.names) : made'.code? metric = made.code? metric := by
  obtain ⟨rfl, -⟩ := composed.names_eq composed'
  rw [composed.made.code?_eq, composed'.made.code?_eq,
    CompiledSchema.find?_of_subset composed.compiles composed'.compiles within metric declared]
  cases found : compiled.find? metric with
  | none => rfl
  | some entry =>
    cases entry with
    | base entry => rfl
    | compound entry =>
      have here := CompiledSchema.mem_derivation_of_find? found
      show (metricCode compiled' _ _ _ _ (.compound entry)).toOption =
        (metricCode compiled _ _ _ _ (.compound entry)).toOption
      rw [metricCode, compoundCode_congr (composed.operands_eq composed' within here)]
      rfl

/-- A metric is found as one entry, from which both artifacts have the same code about it. -/
theorem Composed.same_code (within : schema.declarations ⊆ schema'.declarations) {metric : String}
    (declared : metric ∈ schema.names) :
    ∃ entry code, compiled.find? metric = some entry ∧ compiled'.find? metric = some entry ∧
      metricCode compiled naming names instrumentation overrides entry = .ok code ∧
      made.code? metric = some code ∧ made'.code? metric = some code := by
  obtain ⟨entry, found⟩ := (of_compile composed.compiles).2.exists_entry declared
  obtain ⟨code, given, coded⟩ := composed.made.exists_code found
  refine ⟨entry, code, found, ?_, given, coded, ?_⟩
  · rw [CompiledSchema.find?_of_subset composed.compiles composed'.compiles within metric declared,
      found]
  · rw [composed.code?_eq composed' within declared, coded]

theorem Composed.lines_within (within : schema.declarations ⊆ schema'.declarations) :
    ∀ line ∈ made.lines, ∃ spaces,
      { line with label := line.label.pushn ' ' spaces } ∈ made'.lines := by
  have represents := (of_compile composed.compiles).2
  have represents' := (of_compile composed'.compiles).2
  have displayed : compiled.display ⊆ compiled'.display := by
    intro metric here
    have declared := represents.display.mem_iff.1 here
    exact represents'.display.mem_iff.2 (List.map_subset _ within declared)
  have wider := Report.width_mono (List.map_subset Report.label displayed)
  intro line here
  obtain ⟨labelled, there, given⟩ :=
    exists_mem_of_forall₂ (mapM_eq_ok_iff.1 composed.made.lines) line here
  obtain ⟨metric, shown, rfl⟩ := List.mem_map.1 there
  obtain ⟨line', here', given'⟩ :=
    exists_mem_of_forall₂ (mapM_eq_ok_iff.1 composed'.made.lines).flip
      _ (List.mem_map_of_mem (displayed shown))
  rw [lineCode] at given given'
  rw [CompiledSchema.find?_of_subset composed.compiles composed'.compiles within metric
    (represents.display.mem_iff.1 shown)] at given'
  cases found : compiled.find? metric with
  | none =>
    rw [found] at given
    cases given
  | some entry =>
    rw [found] at given given'
    cases given
    cases given'
    have fits := Report.length_lt_width (List.mem_map_of_mem (f := Report.label) shown)
    rw [Report.padded_of_le fits.le wider] at here'
    exact ⟨_, here'⟩

/-- The parts of an artifact are among those of one for more declarations. -/
theorem Composed.within (within : schema.declarations ⊆ schema'.declarations) :
    made.Within made' := by
  obtain ⟨rfl, -⟩ := composed.names_eq composed'
  obtain ⟨wellFormed, represents⟩ := of_compile composed.compiles
  have names : NamesSound schema.names := wellFormed .names
  have bases : (made.bases.map (·.entry)).Nodup := by
    rw [composed.made.entries]
    exact (represents.nodup_storage names).of_map
  have compounds : (made.compounds.map (·.entry)).Nodup := by
    rw [composed.made.compoundEntries]
    exact (represents.nodup_derivation names).of_map
  refine ⟨List.subperm_of_subset bases.of_map ?_, List.subperm_of_subset compounds.of_map ?_,
    composed.lines_within composed' within⟩
  · exact mapM_subset composed.made.bases composed'.made.bases
      (CompiledSchema.storage_of_subset composed.compiles composed'.compiles within) fun _ _ => rfl
  · exact mapM_subset composed.made.compounds composed'.made.compounds
      (CompiledSchema.derivation_of_subset composed.compiles composed'.compiles within)
      fun _ here => compoundCode_congr (composed.operands_eq composed' within here)

end Composed

/-! ## Answers -/

/-- An accessor answers the outcome of its metric and nothing else. -/
theorem Wired.gives_found {artifact : Artifact} {type : String} {receiver : Receiver}
    {base : BaseEntry → UInt64} (wired : artifact.Wired compiled type receiver base) {schema : Schema}
    (represents : compiled.Represents schema) (wellFormed : schema.WellFormed) (overflow : Overflow)
    {metric : String} {entry : Entry} (found : compiled.find? metric = some entry) :
    artifact.Gives overflow type receiver entry.identifier
      ((compiled.outcomes overflow base).of metric) := by
  have answers := wired.answers represents wellFormed overflow metric entry found
  intro other
  constructor
  · exact fun answers' => answers.unique answers'
  · rintro rfl
    exact answers

end Artifact

namespace Holder

/-- The type whose accessors a holder is looked at with. -/
def type (names : TypeNames) : Holder → String
  | live _ => names.record
  | record _ => names.record
  | aggregator _ => names.aggregator

/-- A holder as its code sees it. -/
def receiver (compiled : CompiledSchema) (session : Session) : Holder → Receiver
  | live thread => .record (compiled.words (session.live.get thread))
  | record number => .record (compiled.words (session.records.get number))
  | aggregator number =>
    .aggregator ⟨(session.aggregators.get number).entries.map compiled.words⟩

end Holder

/-- In generated code whose identifiers are apart, accessors give the outcomes of the session. -/
theorem Artifact.Represents.gives {artifact : Artifact} {program : Program} {names : TypeNames}
    {runtime : Path} (represents : artifact.Represents program.compiled names runtime)
    (distinct : artifact.MembersDistinct names) {schema : Schema}
    (compiles : compile schema = .ok program.compiled) (session : Session) (holder : Holder)
    {metric : String} {entry : Entry} (found : program.compiled.find? metric = some entry) :
    artifact.Gives program.overflow (holder.type names) (holder.receiver program.compiled session)
      entry.identifier ((program.outcomesAt session holder).of metric) := by
  obtain ⟨wellFormed, holds⟩ := of_compile compiles
  cases holder with
  | live thread =>
    exact (wired_record represents distinct _).gives_found holds wellFormed _ found
  | record number =>
    exact (wired_record represents distinct _).gives_found holds wellFormed _ found
  | aggregator number =>
    exact (wired_aggregator represents distinct _).gives_found holds wellFormed _ found

/-- Identifiers that are apart among more declarations are apart. -/
theorem Schema.IdentifiersApart.of_sublist {schema schema' : Schema}
    (apart : schema'.IdentifiersApart)
    (within : schema.declarations.Sublist schema'.declarations) : schema.IdentifiersApart where
  metrics := apart.metrics.sublist ((within.map _).map _)
  unreserved name here := apart.unreserved name (List.map_subset _ within.subset here)
  mutators metric here name there :=
    apart.mutators metric (List.filterMap_subset _ within.subset here) name
      (List.map_subset _ within.subset there)

open Artifact in
/-- Schemas extend conservatively. Under more declarations every metric keeps its type and its code, the
rest of an artifact depends on names alone, and after the same actions on metrics of the smaller schema
every accessor of these metrics answers the same on every record and aggregator. -/
theorem schemas_extend_conservatively {schema schema' : Schema} {program : Program}
    {compiled' : CompiledSchema} (compiles : compile schema = .ok program.compiled)
    (compiles' : compile schema' = .ok compiled')
    (within : schema.declarations.Sublist schema'.declarations) :
    (∀ metric ∈ schema.names, compiled'.valueType? metric = program.compiled.valueType? metric) ∧
    (∀ actions, Confined schema.names actions → ∀ holder : Holder, ∀ metric ∈ schema.names,
        ((program.over compiled').outcomesAt
            ((program.over compiled').run (program.over compiled').start actions) holder).of metric =
          (program.outcomesAt (program.run program.start actions) holder).of metric) ∧
    ∀ naming instrumentation overrides artifact artifact',
      generate schema naming instrumentation overrides = .ok artifact →
      generate schema' naming instrumentation overrides = .ok artifact' →
      ∃ names steps made made',
        Composed schema naming instrumentation overrides program.compiled names steps made ∧
        Composed schema' naming instrumentation overrides compiled' names steps made' ∧
        artifact = assembled names naming.runtime steps made ∧
        artifact' = assembled names naming.runtime steps made' ∧
        made.Within made' ∧
        (∀ metric ∈ schema.names, ∃ entry code,
          program.compiled.find? metric = some entry ∧ compiled'.find? metric = some entry ∧
          metricCode program.compiled naming names instrumentation overrides entry = .ok code ∧
          made.code? metric = some code ∧ made'.code? metric = some code) ∧
        (schema'.IdentifiersApart → ∀ actions, Confined schema.names actions →
          ∀ holder : Holder, ∀ metric ∈ schema.names, ∃ entry outcome,
            program.compiled.find? metric = some entry ∧
            artifact.Gives program.overflow (holder.type names)
              (holder.receiver program.compiled (program.run program.start actions))
              entry.identifier outcome ∧
            artifact'.Gives program.overflow (holder.type names)
              (holder.receiver compiled'
                ((program.over compiled').run (program.over compiled').start actions))
              entry.identifier outcome) := by
  have unchanged := CompiledSchema.find?_of_subset compiles compiles' within.subset
  have larger := CompiledSchema.extends_of_subset compiles compiles' within.subset
  have outcomes : ∀ actions, Confined schema.names actions →
      ∀ holder : Holder, ∀ metric ∈ schema.names,
        ((program.over compiled').outcomesAt
            ((program.over compiled').run (program.over compiled').start actions) holder).of metric =
          (program.outcomesAt (program.run program.start actions) holder).of metric :=
    fun actions confined holder metric declared =>
      (Session.Extends.run larger confined).outcomes compiles compiles' within.subset holder declared
  refine ⟨fun metric declared => ?_, outcomes, ?_⟩
  · rw [CompiledSchema.valueType?, CompiledSchema.valueType?, unchanged metric declared]
  intro naming instrumentation overrides artifact artifact' generated generated'
  obtain ⟨compiled, names, steps, made, composed, rfl⟩ := generate_eq_ok_iff.1 generated
  cases compiles.symm.trans composed.compiles
  obtain ⟨compiled, names', steps', made', composed', rfl⟩ := generate_eq_ok_iff.1 generated'
  cases compiles'.symm.trans composed'.compiles
  obtain ⟨rfl, rfl⟩ := composed.names_eq composed'
  refine ⟨names', steps', made, made', composed, composed', rfl, rfl,
    composed.within composed' within.subset,
    fun metric declared => composed.same_code composed' within.subset declared, ?_⟩
  intro apart actions confined holder metric declared
  obtain ⟨entry, found⟩ := (of_compile compiles).2.exists_entry declared
  have found' := (unchanged metric declared).trans found
  obtain ⟨names, known, represents, distinct, -⟩ :=
    generate_of_apart (apart.of_sublist within) generated compiles
  cases composed.named.symm.trans known
  obtain ⟨names, known', represents', distinct', -⟩ := generate_of_apart apart generated' compiles'
  cases composed.named.symm.trans known'
  refine ⟨entry, _, found, represents.gives distinct compiles _ holder found, ?_⟩
  rw [← outcomes actions confined holder metric declared]
  have accepted : compile schema' = .ok (program.over compiled').compiled := compiles'
  exact represents'.gives distinct' accepted _ holder found'

/-- The schema of a quotient, with other metrics before, among and after its own. -/
def throughputAndErrors : Schema :=
  { declarations := [.base ⟨"errors", .counter⟩, .base ⟨"reads", .counter⟩, .base ⟨"bytes", .sum⟩,
      .compound ⟨"error rate", .divide, ["errors", "reads"]⟩,
      .compound ⟨"bytes per read", .divide, ["bytes", "reads"]⟩, .base ⟨"longest read", .max⟩] }

theorem throughput_extends_conservatively :
    ∃ (program : Program) (compiled' : CompiledSchema),
      compile throughput = .ok program.compiled ∧ compile throughputAndErrors = .ok compiled' ∧
      throughput.declarations.Sublist throughputAndErrors.declarations ∧
      ((program.over compiled').outcomesAt
          ((program.over compiled').run (program.over compiled').start fourfold)
          (.aggregator 0)).of "bytes per read" =
        (program.outcomesAt (program.run program.start fourfold) (.aggregator 0)).of
          "bytes per read" := by
  have accepted' : (compile throughputAndErrors).isOk = true := by decide +kernel
  have within : throughput.declarations.Sublist throughputAndErrors.declarations := by decide
  have confined : Confined throughput.names fourfold := by
    unfold Confined fourfold
    decide
  obtain ⟨_, generated⟩ := throughput_generates
  obtain ⟨compiled, compiles, -⟩ := bind_eq_ok.1 generated
  obtain ⟨compiled', compiles'⟩ := exists_of_isOk accepted'
  let program : Program := ⟨compiled, true, [], .wraps⟩
  obtain ⟨-, outcomes, -⟩ := schemas_extend_conservatively
    (show compile throughput = .ok program.compiled from compiles) compiles' within
  exact ⟨program, compiled', compiles, compiles', within,
    outcomes fourfold confined (.aggregator 0) "bytes per read" (by decide)⟩

end StatSchema
