/-
Divisions by zero show at once. If a schema has a quotient that divides words, the report of a new
aggregator stops there; if it has none, nothing that a session computes ever divides by zero, and the
report of a new aggregator is whole. Main statement: `divisions_by_zero_show_at_once`.
-/
import StatSchema.Proofs.Artifact.Aggregation
import StatSchema.Proofs.Artifact.Typing
import StatSchema.Proofs.Expression.Division

namespace StatSchema

/-! ## Lines -/

namespace Lines

theorem mem_of_panic? {lines : Lines} {panic : Panic} (stopped : lines.panic? = some panic) :
    .error panic ∈ lines := by
  induction lines with
  | nil => cases stopped
  | cons line rest ih =>
    cases line with
    | ok text => exact List.mem_cons_of_mem _ (ih stopped)
    | error other =>
      cases stopped
      exact List.mem_cons_self

theorem mem_of_fit {lines : Lines} {limit : Nat} {panic : Panic}
    (stopped : lines.fit limit = .error panic) : .error panic ∈ lines := by
  induction lines generalizing limit with
  | nil => cases stopped
  | cons line rest ih =>
    cases line with
    | ok text =>
      rw [fit] at stopped
      split at stopped
      · cases stopped
      · exact List.mem_cons_of_mem _ (ih stopped)
    | error other =>
      cases stopped
      exact List.mem_cons_self

/-- If nothing else stops any line, the text stops for this. -/
theorem panic?_of_mem {lines : Lines} {panic : Panic} (here : .error panic ∈ lines)
    (only : ∀ other, .error other ∈ lines → other = panic) : lines.panic? = some panic := by
  induction lines with
  | nil => cases here
  | cons line rest ih =>
    cases line with
    | error other =>
      rw [only other List.mem_cons_self]
      rfl
    | ok text =>
      have later : .error panic ∈ rest := by simpa using here
      exact ih later fun other there => only other (List.mem_cons_of_mem _ there)

end Lines

theorem Outcomes.error_mem_lines {outcomes : Outcomes} {indent : String}
    {labelled : List (String × String)} {panic : Panic} :
    .error panic ∈ outcomes.lines indent labelled ↔
      ∃ metric ∈ labelled.map (·.1), outcomes.of metric = .error panic := by
  unfold lines
  constructor
  · intro here
    obtain ⟨⟨metric, label⟩, there, same⟩ := List.mem_map.1 here
    refine ⟨metric, List.mem_map_of_mem there, ?_⟩
    dsimp only at same
    cases computed : outcomes.of metric with
    | error other =>
      rw [computed] at same
      cases same
      rfl
    | ok value =>
      rw [computed] at same
      cases same
  · rintro ⟨metric, here, stopped⟩
    obtain ⟨⟨metric, label⟩, there, rfl⟩ := List.mem_map.1 here
    refine List.mem_map.2 ⟨(metric, label), there, ?_⟩
    dsimp only at stopped ⊢
    rw [stopped]
    rfl

/-! ## Reports -/

namespace CompiledSchema

variable {compiled : CompiledSchema} {overflow : Overflow} {panic : Panic}

theorem map_labelled : (Report.labelled compiled).map (·.1) = compiled.display := by
  unfold Report.labelled
  rw [List.map_map]
  exact List.map_id _

/-- Why the report of a record stops is why some metric does. -/
theorem error_mem_recordLines {record : Record} :
    .error panic ∈ compiled.recordLines overflow record ↔
      ∃ metric ∈ compiled.display, (compiled.recordOutcomes overflow record).of metric =
        .error panic := by
  rw [recordLines, Outcomes.error_mem_lines, map_labelled]

theorem error_mem_summaryLines {ledger : Ledger Record} :
    .error panic ∈ compiled.summaryLines overflow ledger ↔
      ∃ metric ∈ compiled.display, (compiled.ledgerOutcomes overflow ledger).of metric =
        .error panic := by
  rw [summaryLines, Outcomes.error_mem_lines, map_labelled]

theorem error_mem_entryLines {ledger : Ledger Record}
    (here : .error panic ∈ compiled.entryLines overflow ledger) :
    ∃ record ∈ ledger.entries, .error panic ∈ compiled.recordLines overflow record := by
  obtain ⟨⟨record, index⟩, there, stopped⟩ := List.mem_flatMap.1 here
  refine ⟨record, (List.mem_zipIdx' there).2 ▸ List.getElem_mem _, ?_⟩
  -- the header and the empty line are fixed
  simpa [recordLines] using stopped

/-- Why a report stops is why some metric does, for values that the base metrics have. -/
theorem exists_outcome_of_ledgerLines {perRecord : Bool} {ledger : Ledger Record}
    (here : .error panic ∈ compiled.ledgerLines overflow perRecord ledger) :
    ∃ base, ∃ metric ∈ compiled.display, (compiled.outcomes overflow base).of metric =
      .error panic := by
  rcases List.mem_append.1 here with summary | entries
  · exact ⟨_, error_mem_summaryLines.1 summary⟩
  · split at entries
    · obtain ⟨record, -, stopped⟩ := error_mem_entryLines entries
      exact ⟨_, error_mem_recordLines.1 stopped⟩
    · cases entries

/-- On a new aggregator every base metric is zero. -/
theorem ledgerOutcomes_empty :
    compiled.ledgerOutcomes overflow {} = compiled.outcomes overflow fun _ => 0 := by
  refine outcomes_congr overflow fun entry _ => ?_
  cases entry.kind <;> rfl

end CompiledSchema

/-! ## Sessions -/

/-- The records that a session holds: live ones, those that were moved out, and published ones. -/
inductive Session.Holds (session : Session) : Record → Prop
  | live (thread : Nat) : Holds session (session.live.get thread)
  | kept (number : Nat) : Holds session (session.records.get number)
  | published {aggregator : Nat} {record : Record} :
      record ∈ (session.aggregators.get aggregator).entries → Holds session record

/-- Something that a session computes stops at a division of words by zero: an accessor or the report
of a record that it holds, an accessor or a report of an aggregator, a summary written up to a limit, or
what is done next. -/
inductive Artifact.DividesByZero (artifact : Artifact) (names : TypeNames) (metrics : List String)
    (program : Program) (session : Session) : Prop
  | recordAccessor {record : Record} {metric : String} : session.Holds record → metric ∈ metrics →
      artifact.Answers program.overflow names.record (.record (program.compiled.words record))
        (Name.snake metric) (.error .divisionByZero) →
      DividesByZero artifact names metrics program session
  | recordReport {record : Record} : session.Holds record →
      (program.compiled.recordLines program.overflow record).panic? = some .divisionByZero →
      DividesByZero artifact names metrics program session
  | aggregatorAccessor {aggregator : Nat} {metric : String} : metric ∈ metrics →
      artifact.Answers program.overflow names.aggregator
        (.aggregator ⟨(session.aggregators.get aggregator).entries.map program.compiled.words⟩)
        (Name.snake metric) (.error .divisionByZero) →
      DividesByZero artifact names metrics program session
  | aggregatorReport {aggregator : Nat} {perRecord : Bool} :
      (program.report perRecord (session.aggregators.get aggregator)).panic? =
        some .divisionByZero →
      DividesByZero artifact names metrics program session
  | summary {aggregator limit : Nat} :
      (program.compiled.summaryLines program.overflow (session.aggregators.get aggregator)).fit
        limit = .error .divisionByZero →
      DividesByZero artifact names metrics program session
  | action (action : Action) : (program.perform session action).panic = some .divisionByZero →
      DividesByZero artifact names metrics program session

namespace Program

variable {program : Program} {session : Session} {panic : Panic}

theorem panic_call {hook : Hook} {argument : Argument} {times : Nat} {work : Reaction}
    (stopped : (program.call session hook argument times work).panic = some panic) :
    work.panic = some panic := by
  unfold call at stopped
  split at stopped
  · cases stopped
  · cases stopped
  · exact stopped

theorem panic_callMetric {metric : String} {amount : UInt64} {times : Nat} {work : Reaction}
    (stopped : (program.callMetric session metric amount times work).panic = some panic) :
    work.panic = some panic := by
  unfold callMetric at stopped
  split at stopped
  · exact panic_call stopped
  · cases stopped

/-- An action stops because a record is lent, or because the report that it prints does. -/
theorem panic_perform {action : Action}
    (stopped : (program.perform session action).panic = some panic) :
    panic = .borrowed ∨
      ∃ aggregator, (program.report true (session.aggregators.get aggregator)).panic? =
        some panic := by
  cases action with
  | hook | publishHook | clearHook =>
    first | cases panic_callMetric stopped | cases panic_call stopped
  | dumpHook aggregator => exact .inr ⟨aggregator, panic_call stopped⟩
  | hookWhileLent =>
    cases panic_callMetric stopped
    exact .inl rfl
  | updateCurrent | takeCurrent | mutate | reset | copy | publish | clear | copyAggregator =>
    cases stopped

end Program

/-! ## Where divisions by zero come from -/

section Sources

variable {schema : Schema} {program : Program} (compiles : compile schema = .ok program.compiled)

include compiles

/-- A report that stops at a division by zero is that of a schema with a quotient that divides words. -/
theorem dividesWords_of_report {perRecord : Bool} {ledger : Ledger Record}
    (stopped : (program.report perRecord ledger).panic? = some .divisionByZero) :
    ∃ compound ∈ schema.compounds, program.compiled.DividesWords compound := by
  obtain ⟨base, metric, shown, stopped⟩ :=
    CompiledSchema.exists_outcome_of_ledgerLines (Lines.mem_of_panic? stopped)
  have declared := (of_compile compiles).2.display.mem_iff.1 shown
  exact CompiledSchema.divisionByZero_of_outcome compiles metric declared stopped

/-- Whatever divides by zero in a session, it is for a quotient that divides words. -/
theorem dividesWords_of_session {artifact : Artifact} {names : TypeNames} {runtime : Path}
    (represents : artifact.Represents program.compiled names runtime)
    (distinct : artifact.MembersDistinct names) (plain : schema.PlainlySpelled) {session : Session}
    (divides : artifact.DividesByZero names schema.names program session) :
    ∃ compound ∈ schema.compounds, program.compiled.DividesWords compound := by
  obtain ⟨wellFormed, holds⟩ := of_compile compiles
  have shown : ∀ metric ∈ program.compiled.display, metric ∈ schema.names :=
    fun metric => holds.display.mem_iff.1
  cases divides with
  | @recordAccessor record metric _ declared answers =>
    have gives := (Artifact.wired_record represents distinct record).gives holds wellFormed plain
      program.overflow declared
    exact CompiledSchema.divisionByZero_of_outcome compiles metric declared
      ((gives _).1 answers).symm
  | recordReport _ stopped =>
    obtain ⟨metric, displayed, stopped⟩ :=
      CompiledSchema.error_mem_recordLines.1 (Lines.mem_of_panic? stopped)
    exact CompiledSchema.divisionByZero_of_outcome compiles metric (shown metric displayed) stopped
  | @aggregatorAccessor aggregator metric declared answers =>
    have gives := (Artifact.wired_aggregator represents distinct
      (session.aggregators.get aggregator)).gives holds wellFormed plain program.overflow declared
    exact CompiledSchema.divisionByZero_of_outcome compiles metric declared
      ((gives _).1 answers).symm
  | aggregatorReport stopped => exact dividesWords_of_report compiles stopped
  | summary stopped =>
    obtain ⟨metric, displayed, stopped⟩ :=
      CompiledSchema.error_mem_summaryLines.1 (Lines.mem_of_fit stopped)
    exact CompiledSchema.divisionByZero_of_outcome compiles metric (shown metric displayed) stopped
  | action action stopped =>
    rcases Program.panic_perform stopped with lent | ⟨aggregator, stopped⟩
    · cases lent
    · exact dividesWords_of_report compiles stopped

/-- Only a division by zero stops the report of a new aggregator. -/
theorem eq_divisionByZero_of_report {perRecord : Bool} {panic : Panic}
    (stopped : .error panic ∈ program.report perRecord {}) : panic = .divisionByZero := by
  rcases List.mem_append.1 stopped with summary | entries
  · obtain ⟨metric, displayed, stopped⟩ := CompiledSchema.error_mem_summaryLines.1 summary
    rw [CompiledSchema.ledgerOutcomes_empty] at stopped
    have declared := (of_compile compiles).2.display.mem_iff.1 displayed
    exact (CompiledSchema.idle_of_zeros compiles program.overflow metric declared).panic _ stopped
  · -- a new aggregator holds no records
    split at entries <;> cases entries

/-- The report of a new aggregator stops at a quotient that divides words. -/
theorem report_of_dividesWords {compound : CompoundMetric} (here : compound ∈ schema.compounds)
    (divides : program.compiled.DividesWords compound) :
    (program.report false {}).panic? = some .divisionByZero := by
  obtain ⟨-, holds⟩ := of_compile compiles
  refine Lines.panic?_of_mem ?_ fun other stopped => eq_divisionByZero_of_report compiles stopped
  refine List.mem_append_left _ (CompiledSchema.error_mem_summaryLines.2 ⟨compound.name, ?_, ?_⟩)
  · exact holds.display.mem_iff.2
      (schema.sublist_names_compounds.subset (List.mem_map_of_mem here))
  · rw [CompiledSchema.ledgerOutcomes_empty]
    exact CompiledSchema.outcome_of_dividesWords compiles program.overflow here divides

end Sources

/-- A session can come to divide by zero exactly if the schema has a quotient of more than two metrics
of which the first two are words, and exactly if the summary of a new aggregator already does. Nothing
else stops the report of a new aggregator. -/
theorem divisions_by_zero_show_at_once {schema : Schema} {naming : Naming}
    {instrumentation : Instrumentation} {overrides : List Override} {artifact : Artifact}
    (plain : schema.PlainlySpelled)
    (generated : generate schema naming instrumentation overrides = .ok artifact)
    {program : Program} (compiles : compile schema = .ok program.compiled) :
    ∃ names, naming.typeNames = .ok names ∧
      ((∃ compound ∈ schema.compounds, program.compiled.DividesWords compound) ↔
        ∃ actions, artifact.DividesByZero names schema.names program
          (program.run program.start actions)) ∧
      ((∃ compound ∈ schema.compounds, program.compiled.DividesWords compound) ↔
        (program.report false {}).panic? = some .divisionByZero) ∧
      ∀ perRecord panic, (program.report perRecord {}).panic? = some panic →
        panic = .divisionByZero ∧
          ∃ compound ∈ schema.compounds, program.compiled.DividesWords compound := by
  obtain ⟨names, named, represents, distinct, -⟩ :=
    Artifact.generate_of_plain plain generated compiles
  refine ⟨names, named, ⟨?_, ?_⟩, ⟨?_, dividesWords_of_report compiles⟩, ?_⟩
  · rintro ⟨compound, here, divides⟩
    -- a new aggregator is reached at once
    have shown : (program.report false ((program.run program.start []).aggregators.get 0)).panic? =
        some .divisionByZero := report_of_dividesWords compiles here divides
    exact ⟨[], .aggregatorReport shown⟩
  · rintro ⟨actions, divides⟩
    exact dividesWords_of_session compiles represents distinct plain divides
  · rintro ⟨compound, here, divides⟩
    exact report_of_dividesWords compiles here divides
  · intro perRecord panic stopped
    obtain rfl := eq_divisionByZero_of_report compiles (Lines.mem_of_panic? stopped)
    exact ⟨rfl, dividesWords_of_report compiles stopped⟩

/-- A schema with a quotient of three metrics, the first two of which are words. -/
def shares : Schema :=
  { declarations := [.base ⟨"a", .counter⟩, .base ⟨"b", .sum⟩,
      .compound ⟨"q", .divide, ["a", "b", "b"]⟩] }

theorem shares_divide_by_zero :
    ∃ (artifact : Artifact) (program : Program) (names : TypeNames),
      generate shares {} .enabled [] = .ok artifact ∧ compile shares = .ok program.compiled ∧
      program.overflow = .panics ∧ (program.report false {}).panic? = some .divisionByZero ∧
      ∃ actions, artifact.DividesByZero names shares.names program
        (program.run program.start actions) := by
  have generates : (generate shares {} .enabled []).isOk = true := by decide +kernel
  have plain : shares.PlainlySpelled := by
    unfold Schema.PlainlySpelled
    decide +kernel
  obtain ⟨artifact, generated⟩ := exists_of_isOk generates
  obtain ⟨compiled, -, compiles, -⟩ := Artifact.generate_eq_ok generated
  let program : Program := ⟨compiled, true, [], .panics⟩
  obtain ⟨names, -, reached, shown, -⟩ := divisions_by_zero_show_at_once plain generated
    (show compile shares = .ok program.compiled from compiles)
  have words : ∀ metric ∈ ["a", "b"], compiled.valueType? metric = some .integer := by
    intro metric here
    have leaf : metric ∈ shares.names ∧ metric ∉ shares.compounds.map (·.name) := by
      rcases List.mem_pair.1 here with rfl | rfl <;> decide
    exact (CompiledSchema.valueType?_eq_integer_iff compiles leaf.1).2
      (not_reachesDivision_of_not_compound leaf.2)
  have divides : ∃ compound ∈ shares.compounds, program.compiled.DividesWords compound :=
    ⟨⟨"q", .divide, ["a", "b", "b"]⟩, by decide, rfl, "a", "b", "b", [], rfl, words "a" (by simp),
      words "b" (by simp)⟩
  exact ⟨artifact, program, names, generated, compiles, rfl, shown.1 divides, reached.1 divides⟩

end StatSchema
