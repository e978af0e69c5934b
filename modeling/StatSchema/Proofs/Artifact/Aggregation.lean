/-
Aggregation does not depend on how the work was split. Main statement, for every way to distribute
calls over threads and publications: once all is published, the accessor of each metric answers on the
aggregator what it answers on one record that has taken in all calls.
-/
import StatSchema.Proofs.Artifact.Accessors
import StatSchema.Proofs.Session.Distribution

namespace StatSchema

open Token

/-- An accessor that answers one thing and nothing else. -/
def Artifact.Gives (artifact : Artifact) (overflow : Overflow) (type : String)
    (receiver : Receiver) (accessor : String) (outcome : Outcome) : Prop :=
  ∀ other, artifact.Answers overflow type receiver accessor other ↔ other = outcome

namespace CompiledSchema

variable {compiled : CompiledSchema}

theorem outcomes_congr (overflow : Overflow) {base base' : BaseEntry → UInt64}
    (same : ∀ entry ∈ compiled.storage, base entry = base' entry) :
    compiled.outcomes overflow base = compiled.outcomes overflow base' := by
  have start : (compiled.storage.map fun entry =>
        ((entry.name, .ok (.integer (base entry))) : String × Outcome)) =
      compiled.storage.map fun entry => (entry.name, .ok (.integer (base' entry))) := by
    refine List.map_congr_left fun entry here => ?_
    rw [same entry here]
  unfold outcomes
  rw [start]

/-- The identifier of an entry is what the name of its metric spells. -/
theorem Represents.read_name {schema : Schema} (represents : compiled.Represents schema)
    {metric : String} {entry : Entry} (found : compiled.find? metric = some entry) :
    Identifier.read (Name.snake metric) = .plain entry.identifier := by
  obtain ⟨rfl, ⟨stored, here, rfl⟩ | ⟨compound, here, rfl⟩⟩ := find?_eq_some found
  · exact (represents.stored stored here).field
  · exact represents.derived compound here

end CompiledSchema

/-- An accessor of a compiled schema answers the outcome of its metric and nothing else. -/
theorem Artifact.Wired.gives {artifact : Artifact} {compiled : CompiledSchema} {type : String}
    {receiver : Receiver} {base : BaseEntry → UInt64}
    (wired : artifact.Wired compiled type receiver base) {schema : Schema}
    (represents : compiled.Represents schema) (wellFormed : schema.WellFormed)
    (plain : schema.PlainlySpelled) (overflow : Overflow) {metric : String}
    (declared : metric ∈ schema.names) :
    artifact.Gives overflow type receiver (Name.snake metric)
      ((compiled.outcomes overflow base).of metric) := by
  obtain ⟨entry, found⟩ := represents.exists_entry declared
  have spelled := represents.read_name found
  rw [plain metric declared] at spelled
  have answers := wired.answers represents wellFormed overflow metric entry found
  rw [← Identifier.Reading.plain.inj spelled] at answers
  intro other
  constructor
  · exact fun answers' => answers.unique answers'
  · rintro rfl
    exact answers

/-- Once all is published, the outcomes of an aggregator are those of one record of all calls. -/
theorem Distributes.outcomes {program : Program} (enabled : program.enabled = true)
    (keys : (program.compiled.storage.map (·.name)).Nodup) {aggregator : Nat}
    {updates calls : List Update} {actions : List Action}
    (distributes : Distributes aggregator updates [] actions) (perm : updates.Perm calls)
    (finished : ∀ thread, pending thread actions = []) (overflow : Overflow) :
    program.compiled.ledgerOutcomes overflow
        ((program.run program.start actions).aggregators.get aggregator) =
      program.compiled.recordOutcomes overflow (program.recordOf calls) := by
  obtain ⟨parts, entries, whole⟩ := distributes.parts_of_finished enabled finished
  exact CompiledSchema.outcomes_congr overflow fun entry here =>
    Ledger.reduce_of_parts keys here entries (whole.trans perm)

/-- However calls are distributed over threads and publications, once all is published every accessor
answers on the aggregator what it answers on one record of all calls. -/
theorem aggregation_independent_of_split {schema : Schema} {naming : Naming}
    {overrides : List Override} {artifact : Artifact} (plain : schema.PlainlySpelled)
    (generated : generate schema naming .enabled overrides = .ok artifact) {program : Program}
    (compiles : compile schema = .ok program.compiled) (enabled : program.enabled = true)
    (calls : List Update) :
    ∃ names, naming.typeNames = .ok names ∧
      ∀ overflow, ∀ metric ∈ schema.names, ∃ outcome,
        (program.compiled.recordOutcomes overflow (program.recordOf calls)).of metric = outcome ∧
        artifact.Gives overflow names.record
          (.record (program.compiled.words (program.recordOf calls))) (Name.snake metric) outcome ∧
        ∀ aggregator updates actions, Distributes aggregator updates [] actions →
          updates.Perm calls → (∀ thread, pending thread actions = []) →
          artifact.Gives overflow names.aggregator
            (.aggregator ⟨((program.run program.start actions).aggregators.get aggregator).entries.map
              program.compiled.words⟩) (Name.snake metric) outcome := by
  obtain ⟨names, named, represents, distinct, -⟩ :=
    Artifact.generate_of_plain plain generated compiles
  obtain ⟨wellFormed, holds⟩ := of_compile compiles
  refine ⟨names, named, fun overflow metric declared => ⟨_, rfl, ?_, ?_⟩⟩
  · exact (Artifact.wired_record represents distinct _).gives holds wellFormed plain overflow declared
  · intro aggregator updates actions distributes perm finished
    have outcomes := distributes.outcomes enabled (holds.nodup_storage (wellFormed .names)) perm
      finished overflow
    have gives := (Artifact.wired_aggregator represents distinct
      ((program.run program.start actions).aggregators.get aggregator)).gives holds wellFormed plain
        overflow declared
    have same := congrArg (·.of metric) outcomes
    exact same ▸ gives

/-- A schema with a quotient. -/
def throughput : Schema :=
  { declarations := [.base ⟨"reads", .counter⟩, .base ⟨"bytes", .sum⟩,
      .compound ⟨"bytes per read", .divide, ["bytes", "reads"]⟩] }

theorem throughput_plainlySpelled : throughput.PlainlySpelled := by
  unfold Schema.PlainlySpelled
  decide +kernel

theorem throughput_generates : ∃ artifact, generate throughput {} .enabled [] = .ok artifact :=
  exists_of_isOk (by decide +kernel)

/-- Calls of two threads in four publications. One publishes nothing, and one is made of a record that
was taken before calls of the other thread. -/
def fourfold : List Action :=
  [.hook 1 "bytes" 512 1, .hook 2 "reads" 0 3, .publishHook 1 0, .takeCurrent 2 7,
    .hook 1 "bytes" 64 1, .publishHook 2 0, .publish 0 7 1, .publishHook 1 0]

theorem distributes_fourfold : Distributes 0
    [⟨"bytes", 512⟩, ⟨"reads", 0⟩, ⟨"reads", 0⟩, ⟨"reads", 0⟩, ⟨"bytes", 64⟩] [] fourfold := by
  have begun : Distributes 0 _ [] _ :=
    ((Distributes.nil.hook 1 "bytes" 512 1).hook 2 "reads" 0 3).publishHook 1
  have taken := begun.take 2 (List.not_mem_nil (a := 7))
  exact (((taken.hook 1 "bytes" 64 1).publishHook 2).publish List.mem_cons_self).publishHook 1

theorem pending_fourfold (thread : Nat) : pending thread fourfold = [] := by
  match thread with
  | 0 => rfl
  | 1 => rfl
  | 2 => rfl
  | thread + 3 => rfl

theorem aggregation_independent_of_split_fourfold :
    ∃ (artifact : Artifact) (program : Program) (names : TypeNames),
    generate throughput {} .enabled [] = .ok artifact ∧
    compile throughput = .ok program.compiled ∧
    ∀ overflow, ∃ outcome,
      artifact.Gives overflow names.record
        (.record (program.compiled.words (program.recordOf
          [⟨"reads", 0⟩, ⟨"reads", 0⟩, ⟨"reads", 0⟩, ⟨"bytes", 64⟩, ⟨"bytes", 512⟩])))
        (Name.snake "bytes per read") outcome ∧
      artifact.Gives overflow names.aggregator
        (.aggregator ⟨((program.run program.start fourfold).aggregators.get 0).entries.map
          program.compiled.words⟩) (Name.snake "bytes per read") outcome := by
  have generates : (generate throughput {} .enabled []).isOk = true := by decide +kernel
  have accepted : (compile throughput).isOk = true := by decide +kernel
  have plain : throughput.PlainlySpelled := by
    unfold Schema.PlainlySpelled
    decide +kernel
  obtain ⟨artifact, generated⟩ := exists_of_isOk generates
  obtain ⟨compiled, compiles⟩ := exists_of_isOk accepted
  let program : Program := ⟨compiled, true, [], .wraps⟩
  obtain ⟨names, -, gives⟩ := aggregation_independent_of_split plain generated
    (show compile throughput = .ok program.compiled from compiles) rfl
    [⟨"reads", 0⟩, ⟨"reads", 0⟩, ⟨"reads", 0⟩, ⟨"bytes", 64⟩, ⟨"bytes", 512⟩]
  refine ⟨artifact, program, names, generated, compiles, fun overflow => ?_⟩
  obtain ⟨outcome, -, alone, split⟩ := gives overflow "bytes per read" (by decide)
  exact ⟨outcome, alone, split 0 _ fourfold distributes_fourfold (by decide) pending_fourfold⟩

end StatSchema
