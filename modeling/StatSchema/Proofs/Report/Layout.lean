/-
How reports are laid out. Every line is a label, padded to the width of all labels, and the value that an
accessor prints; a record is displayed by its own lines under an indent, and an aggregator by the lines
of its reduced values and then the displays of its records. Main statement: `reports_laid_out`.
-/
import StatSchema.Proofs.Artifact.Assembly
import StatSchema.Proofs.Report.Reading

namespace StatSchema

/-! ## Texts of lines -/

namespace Lines

theorem whole_nil {text : String} : whole [] = .ok text ↔ text = "" := by
  constructor
  · intro h
    cases h
    rfl
  · rintro rfl
    rfl

theorem whole_cons {line : Except Panic String} {lines : Lines} {text : String} :
    whole (line :: lines) = .ok text ↔
      ∃ part rest, line = .ok part ∧ lines.whole = .ok rest ∧ text = part ++ rest := by
  unfold whole
  rw [List.mapM_cons]
  cases line with
  | error panic => simp [error_bind, id]
  | ok part =>
    cases lines.mapM id with
    | error panic => simp [ok_bind, id]
    | ok parts => simp [ok_bind, id, pure, Except.pure, eq_comm, String.join_cons]

/-- A line that is made of an outcome. -/
theorem whole_cons_map {α : Type} {outcome : Except Panic α} {line : α → String} {lines : Lines}
    {text : String} :
    whole (outcome.map line :: lines) = .ok text ↔
      ∃ a rest, outcome = .ok a ∧ lines.whole = .ok rest ∧ text = line a ++ rest := by
  rw [whole_cons]
  cases outcome with
  | error panic => simp [Except.map]
  | ok a => simp [Except.map]

theorem whole_append {lines more : Lines} {text : String} :
    whole (lines ++ more) = .ok text ↔
      ∃ front rest, lines.whole = .ok front ∧ more.whole = .ok rest ∧ text = front ++ rest := by
  induction lines generalizing text with
  | nil => simp [whole_nil]
  | cons line lines ih =>
    rw [List.cons_append, whole_cons]
    simp only [ih, whole_cons]
    constructor
    · rintro ⟨part, _, given, ⟨front, rest, before, after, rfl⟩, rfl⟩
      exact ⟨part ++ front, rest, ⟨part, front, given, before, rfl⟩, after,
        (String.append_assoc ..).symm⟩
    · rintro ⟨_, rest, ⟨part, front, given, before, rfl⟩, after, rfl⟩
      exact ⟨part, front ++ rest, given, ⟨front, rest, before, after, rfl⟩,
        String.append_assoc ..⟩

end Lines

theorem forall₂_concat_iff {α β : Type} {R : α → β → Prop} {l : List α} {a : α} {answers : List β} :
    List.Forall₂ R (l ++ [a]) answers ↔
      ∃ front last, List.Forall₂ R l front ∧ R a last ∧ answers = front ++ [last] := by
  constructor
  · intro all
    induction l generalizing answers with
    | nil =>
      obtain ⟨last, _, related, none, rfl⟩ := List.forall₂_cons_left_iff.1 all
      cases none
      exact ⟨[], last, .nil, related, rfl⟩
    | cons first rest ih =>
      obtain ⟨b, _, related, later, rfl⟩ := List.forall₂_cons_left_iff.1 all
      obtain ⟨front, last, before, final, rfl⟩ := ih later
      exact ⟨b :: front, last, .cons related before, final, rfl⟩
  · rintro ⟨front, last, before, final, rfl⟩
    exact List.rel_append before (.cons final .nil)

/-! ## Texts of sub-reports -/

namespace Ledger

/-- A sub-report: a display under its header and before an empty line. -/
def subReport (report : String) (index : Nat) : String := header index ++ report ++ "\n"

theorem text_eq {ρ : Type} (ledger : Ledger ρ) (report : ρ → String) :
    ledger.text report = String.join (ledger.entries.zipIdx.map fun (record, index) =>
      subReport (report record) index) := by
  unfold text subReports
  induction ledger.entries.zipIdx with
  | nil => rfl
  | cons entry rest ih =>
    rw [List.flatMap_cons, List.map_cons, String.join_append, String.join_cons, ih]
    simp [subReport, String.join_cons, String.append_assoc]

/-- One more record adds one sub-report and leaves the others. -/
theorem text_publish {ρ : Type} (ledger : Ledger ρ) (record : ρ) (report : ρ → String) :
    (ledger.publish record).text report =
      ledger.text report ++ subReport (report record) ledger.length := by
  rw [text_eq, text_eq, entries_publish, List.zipIdx_append, List.map_append, String.join_append]
  simp [length, String.join_cons]

/-- The number of a record stands to the right in at least four columns. -/
theorem header_eq (index : Nat) :
    ∃ spaces, header index = "--== Thread: " ++ "".pushn ' ' spaces ++ toString index ++ " ==--\n" ∧
      spaces + (toString index).length = Nat.max 4 (toString index).length :=
  ⟨4 - (toString index).length, rfl, Nat.sub_add_eq_max ..⟩

/-- Displays as sub-reports, which are numbered from an index on. -/
def numbered (reports : List String) (start : Nat) : String :=
  String.join ((reports.zipIdx start).map fun (report, index) => subReport report index)

theorem numbered_cons (report : String) (reports : List String) (start : Nat) :
    numbered (report :: reports) start = subReport report start ++ numbered reports (start + 1) := by
  rw [numbered, List.zipIdx_cons, List.map_cons, String.join_cons, numbered]

/-- The sub-reports of records from an index on can be written if all displays can. -/
theorem whole_subReports {ρ : Type} (body : ρ → Lines) (records : List ρ) (start : Nat)
    {text : String} :
    Lines.whole ((records.zipIdx start).flatMap fun (record, index) =>
        .ok (header index) :: body record ++ [.ok "\n"]) = .ok text ↔
      ∃ reports, List.Forall₂ (fun record report => (body record).whole = .ok report)
          records reports ∧ text = numbered reports start := by
  induction records generalizing start text with
  | nil => simp [Lines.whole_nil, numbered]
  | cons record rest ih =>
    rw [List.zipIdx_cons, List.flatMap_cons]
    show Lines.whole (.ok (header start) :: (body record ++ [.ok "\n"]) ++ List.flatMap _ _) =
      .ok text ↔ _
    rw [List.cons_append, Lines.whole_cons]
    simp only [Lines.whole_append, ih, Lines.whole_cons, Lines.whole_nil]
    constructor
    · rintro ⟨_, _, ⟨⟩, ⟨_, _, ⟨report, _, shown, ⟨_, _, ⟨⟩, rfl, rfl⟩, rfl⟩,
        ⟨reports, later, rfl⟩, rfl⟩, rfl⟩
      refine ⟨report :: reports, .cons shown later, ?_⟩
      simp [numbered_cons, subReport, String.append_assoc]
    · rintro ⟨all, related, rfl⟩
      obtain ⟨report, reports, shown, later, rfl⟩ := List.forall₂_cons_left_iff.1 related
      refine ⟨_, _, rfl, ⟨_, _, ⟨report, _, shown, ⟨_, _, rfl, rfl, rfl⟩, rfl⟩,
        ⟨reports, later, rfl⟩, rfl⟩, ?_⟩
      simp [numbered_cons, subReport, String.append_assoc]

end Ledger

namespace Artifact

open Token

/-! ## Emitted reports -/

theorem lines?_lineStatement (label accessor : String) (rest : List Token) :
    lines? (lineStatement label accessor ++ rest) =
      (lines? rest).map ((label ++ "\x7b\x7d", accessor) :: ·) := by
  have read : lines? (lineStatement label accessor ++ rest) =
      (stringValue? (Text.literal (label ++ "\x7b\x7d"))).bind fun format =>
        (lines? rest).map ((format, accessor) :: ·) := rfl
  rw [read, stringValue?_literal]
  rfl

/-- The statements of a report are read as the formats and the accessors of its lines. -/
theorem lines?_statements (parts : Parts) (indent : String) :
    lines? ((parts.statements indent).flatten ++ written) =
      some (parts.lines.map fun line => (indent ++ line.label ++ "\x7b\x7d", line.accessor)) := by
  unfold Parts.statements
  induction parts.lines with
  | nil => rfl
  | cons line rest ih =>
    rw [List.map_cons, List.flatten_cons, List.append_assoc, lines?_lineStatement, ih]
    rfl

/-- Code whose reports write lines, given those after each indent: a record is displayed by them, and an
aggregator by a summary of them and the displays of its records. -/
structure Reporting (artifact : Artifact) (names : TypeNames) (runtime : Path)
    (lines : String → List (String × String)) : Prop where
  record : ∃ body, artifact.display? names.record = some body ∧
    lines? body = some (lines Report.recordIndent)
  summary : ∃ routine, artifact.method? names.aggregator "write_summary" = some routine ∧
    lines? routine.body = some (lines "")
  results : ∃ routine, artifact.method? names.aggregator "results" = some routine ∧
    ∀ perRecord, returnedSections? runtime perRecord routine.body =
      some (.summary :: if perRecord then [.entries] else [])
  display : ∃ body, artifact.display? names.aggregator = some body ∧
    displayedSections? runtime body = some [.summary, .entries]

section Assembled

variable {names : TypeNames} (runtime : Path) (steps : List Routine) (parts : Parts)

theorem displays_assembled (apart : names.record ≠ names.aggregator) :
    (assembled names runtime steps parts).items.flatMap (Item.displaysOf names.record) =
        [displayMethod ((parts.statements Report.recordIndent).flatten ++ written)] ∧
      (assembled names runtime steps parts).items.flatMap (Item.displaysOf names.aggregator) =
        [displayMethod (code "self . write_summary" ++ parens (name "f") ++ code "? ;" ++
          writeEntries runtime (name "f"))] := by
  have inherent : [] ≠ displayInterface := by decide
  constructor
  all_goals
    simp [assembled, Item.displaysOf, recordType, threadLocal, aggregatorType, apart, apart.symm,
      inherent]
    -- functions are displays of no type
    rintro _ routine code - - rfl
    rfl

theorem methods_assembled (apart : names.record ≠ names.aggregator) :
    [writeSummary (parts.statements ""), results runtime] ⊆
      (assembled names runtime steps parts).methodsOf names.aggregator := by
  have interface : displayInterface.isEmpty = false := by decide
  simp [methodsOf, assembled, Item.methodsOf, recordType, threadLocal, aggregatorType, apart,
    interface]

theorem reporting_assembled (apart : names.record ≠ names.aggregator)
    (distinct : (assembled names runtime steps parts).MembersDistinct names) :
    (assembled names runtime steps parts).Reporting names runtime fun indent =>
      parts.lines.map fun line => (indent ++ line.label ++ "\x7b\x7d", line.accessor) := by
  obtain ⟨onRecord, onAggregator⟩ := displays_assembled runtime steps parts apart
  have methods := methods_assembled runtime steps parts apart
  refine ⟨⟨_, ?_, lines?_statements parts _⟩,
    ⟨writeSummary (parts.statements ""), ?_, lines?_statements parts ""⟩,
    ⟨results runtime, ?_, fun perRecord => if_pos rfl⟩, ⟨_, ?_, if_pos rfl⟩⟩
  · rw [display?, onRecord]
    exact if_pos rfl
  · exact method?_of_mem distinct.aggregator (methods (List.mem_cons_self))
  · exact method?_of_mem distinct.aggregator (methods (List.mem_cons_of_mem _ List.mem_cons_self))
  · rw [display?, onAggregator]
    exact if_pos rfl

end Assembled

/-! ## What lines write -/

section Lines

variable {artifact : Artifact} {overflow : Overflow} {type : String} {receiver : Receiver}

theorem writes_nil {text : String} :
    artifact.Writes overflow type receiver [] text ↔ text = "" := by
  constructor
  · rintro ⟨parts, none, rfl⟩
    cases none
    rfl
  · rintro rfl
    exact ⟨[], .nil, rfl⟩

theorem writes_cons {format accessor text : String} {lines : List (String × String)} :
    artifact.Writes overflow type receiver ((format, accessor) :: lines) text ↔
      ∃ value filled rest, artifact.Answers overflow type receiver accessor (.ok value) ∧
        formatted? value.text.toList false format.toList = some filled ∧
        artifact.Writes overflow type receiver lines rest ∧
        text = String.ofList filled ++ "\n" ++ rest := by
  constructor
  · rintro ⟨_, all, rfl⟩
    obtain ⟨_, parts, ⟨value, filled, answers, formatted, rfl⟩, later, rfl⟩ :=
      List.forall₂_cons_left_iff.1 all
    exact ⟨value, filled, _, answers, formatted, ⟨parts, later, rfl⟩, String.join_cons⟩
  · rintro ⟨value, filled, _, answers, formatted, ⟨parts, later, rfl⟩, rfl⟩
    exact ⟨_, .cons ⟨value, filled, answers, formatted, rfl⟩ later, String.join_cons.symm⟩

/-- A line whose label has no structural characters writes the label and the value. -/
theorem formatted?_line {label : String} (plain : ∀ c ∈ label.toList, isStructural c = false)
    (value : String) :
    formatted? value.toList false (label ++ "\x7b\x7d").toList =
      some (label.toList ++ value.toList) := by
  rw [String.toList_append]
  exact formatted?_label plain value.toList

/-- Lines are written exactly if every accessor answers a value, each after its label. -/
theorem writes_iff_whole {indent : String} {labelled : List (String × String)}
    {accessor : String → String} (outcome : String → Outcome)
    (gives : ∀ line ∈ labelled,
      artifact.Gives overflow type receiver (accessor line.1) (outcome line.1))
    (plain : ∀ line ∈ labelled, ∀ c ∈ (indent ++ line.2).toList, isStructural c = false)
    {text : String} :
    artifact.Writes overflow type receiver
        (labelled.map fun (metric, label) => (indent ++ label ++ "\x7b\x7d", accessor metric)) text ↔
      Lines.whole (labelled.map fun (metric, label) =>
        (outcome metric).map fun value => indent ++ label ++ value.text ++ "\n") = .ok text := by
  induction labelled generalizing text with
  | nil => rw [List.map_nil, List.map_nil, writes_nil, Lines.whole_nil]
  | cons line rest ih =>
    obtain ⟨metric, label⟩ := line
    -- an accessor has one outcome, so a line is written exactly if that is a value
    have given := gives (metric, label) List.mem_cons_self
    have plainly := plain (metric, label) List.mem_cons_self
    rw [List.map_cons, List.map_cons, writes_cons, Lines.whole_cons_map]
    simp only [ih (fun line later => gives line (List.mem_cons_of_mem _ later))
      (fun line later => plain line (List.mem_cons_of_mem _ later)), formatted?_line plainly]
    constructor
    · rintro ⟨value, _, rest, answers, ⟨⟩, written, rfl⟩
      exact ⟨value, rest, ((given _).1 answers).symm, written, by simp [← String.toList_inj]⟩
    · rintro ⟨value, rest, found, written, rfl⟩
      exact ⟨value, _, rest, (given _).2 found.symm, rfl, written, by simp [← String.toList_inj]⟩

end Lines

/-! ## What sections write -/

/-- What is found and read is found and read as one thing. -/
theorem exists_read_iff {α β : Type} {found? : Option α} {read? : α → Option β} {P : β → Prop} {a : α}
    {b : β} (found : found? = some a) (read : read? a = some b) :
    (∃ a b, found? = some a ∧ read? a = some b ∧ P b) ↔ P b := by
  constructor
  · rintro ⟨_, _, found', read', holds⟩
    cases found.symm.trans found'
    cases read.symm.trans read'
    exact holds
  · exact fun holds => ⟨a, b, found, read, holds⟩

section Sections

variable {artifact : Artifact} {overflow : Overflow} {names : TypeNames} {runtime : Path}
  {lines : String → List (String × String)} (reporting : artifact.Reporting names runtime lines)

include reporting

theorem Reporting.shows_iff {words : Words} {text : String} :
    artifact.Shows overflow names.record words text ↔
      artifact.Writes overflow names.record (.record words) (lines Report.recordIndent) text := by
  obtain ⟨body, displayed, read⟩ := reporting.record
  exact exists_read_iff displayed read

theorem Reporting.summarizes_iff {ledger : Ledger Words} {text : String} :
    artifact.Summarizes overflow names.aggregator ledger text ↔
      artifact.Writes overflow names.aggregator (.aggregator ledger) (lines "") text := by
  obtain ⟨routine, found, read⟩ := reporting.summary
  exact exists_read_iff found read

theorem Reporting.returns_iff {perRecord : Bool} {ledger : Ledger Words} {text : String} :
    artifact.Returns overflow names runtime perRecord ledger text ↔
      artifact.WritesSections overflow names ledger
        (.summary :: if perRecord then [.entries] else []) text := by
  obtain ⟨routine, found, read⟩ := reporting.results
  exact exists_read_iff found (read perRecord)

/-- An aggregator is displayed as its results with all records. -/
theorem Reporting.displays_iff {ledger : Ledger Words} {text : String} :
    artifact.Displays overflow names runtime ledger text ↔
      artifact.Returns overflow names runtime true ledger text := by
  rw [reporting.returns_iff]
  obtain ⟨body, displayed, read⟩ := reporting.display
  exact exists_read_iff displayed read

/-- Without records, the results are the summary. -/
theorem Reporting.returns_false_iff {ledger : Ledger Words} {text : String} :
    artifact.Returns overflow names runtime false ledger text ↔
      artifact.Summarizes overflow names.aggregator ledger text := by
  rw [reporting.returns_iff]
  constructor
  · rintro ⟨_, all, rfl⟩
    obtain ⟨summary, _, written, none, rfl⟩ := List.forall₂_cons_left_iff.1 all
    cases none
    have same : String.join [summary] = summary := by simp [String.join_cons]
    rw [same]
    exact written
  · intro written
    exact ⟨[text], .cons written .nil, by simp [String.join_cons]⟩

/-- With records, the results are the summary and then all sub-reports. -/
theorem Reporting.returns_true_iff {ledger : Ledger Words} {text : String} :
    artifact.Returns overflow names runtime true ledger text ↔
      ∃ summary reports, artifact.Summarizes overflow names.aggregator ledger summary ∧
        List.Forall₂ (artifact.Shows overflow names.record) ledger.entries reports ∧
        text = summary ++ (Ledger.mk reports).text id := by
  rw [reporting.returns_iff]
  constructor
  · rintro ⟨_, all, rfl⟩
    obtain ⟨summary, _, written, later, rfl⟩ := List.forall₂_cons_left_iff.1 all
    obtain ⟨_, _, ⟨reports, shown, rfl⟩, none, rfl⟩ := List.forall₂_cons_left_iff.1 later
    cases none
    exact ⟨summary, reports, written, shown, by simp [String.join_cons]⟩
  · rintro ⟨summary, reports, written, shown, rfl⟩
    exact ⟨_, .cons written (.cons ⟨reports, shown, rfl⟩ .nil), by simp [String.join_cons]⟩

end Sections

end Artifact

/-! ## Labels -/

theorem Report.spaces_recordIndent : ∀ c ∈ recordIndent.toList, c = ' ' :=
  forall_mem_of_all (by decide)

theorem Report.spaces_empty : ∀ c ∈ "".toList, c = ' ' := forall_mem_of_all (by decide)

namespace CompiledSchema

variable {schema : Schema} {compiled : CompiledSchema}

/-- The width of the labels of a compiled schema. -/
def labelWidth (compiled : CompiledSchema) : Nat := Report.width (compiled.display.map Report.label)

/-- The lines of a report under an indent, given the values of all metrics. -/
def reportText (compiled : CompiledSchema) (indent : String) (value : String → Value Float) :
    String :=
  String.join (compiled.display.map fun metric =>
    indent ++ Report.padded compiled.labelWidth (Report.label metric) ++ (value metric).text ++ "\n")

theorem Represents.mem_names_of_labelled (represents : compiled.Represents schema)
    {line : String × String} (here : line ∈ Report.labelled compiled) : line.1 ∈ schema.names := by
  obtain ⟨metric, shown, rfl⟩ := List.mem_map.1 here
  exact represents.display.mem_iff.1 shown

/-- Labels of plainly spelled names, and the spaces around them, have no structural
characters. -/
theorem not_isStructural_labelled (represents : compiled.Represents schema)
    (plain : schema.PlainlySpelled) {indent : String} (spaces : ∀ c ∈ indent.toList, c = ' ') :
    ∀ line ∈ Report.labelled compiled, ∀ c ∈ (indent ++ line.2).toList, isStructural c = false := by
  intro line here c among
  obtain ⟨metric, shown, rfl⟩ := List.mem_map.1 here
  rw [String.toList_append, Report.padded, toList_pushn] at among
  rcases List.mem_append.1 among with before | among
  · rw [spaces c before]
    rfl
  · rcases List.mem_append.1 among with inside | after
    · exact not_isStructural_label (plain metric (represents.display.mem_iff.1 shown)) c inside
    · rw [List.eq_of_mem_replicate after]
      rfl

end CompiledSchema

theorem Lines.whole_map_ok {α : Type} (l : List α) (line : α → String) {text : String} :
    whole (l.map fun a => .ok (line a)) = .ok text ↔ text = String.join (l.map line) := by
  induction l generalizing text with
  | nil => exact whole_nil
  | cons a rest ih =>
    rw [List.map_cons, whole_cons, List.map_cons, String.join_cons]
    simp only [ih]
    constructor
    · rintro ⟨_, _, ⟨⟩, rfl, rfl⟩
      rfl
    · rintro rfl
      exact ⟨_, _, rfl, rfl, rfl⟩

namespace Artifact

variable {schema : Schema} {compiled : CompiledSchema} {naming : Naming} {names : TypeNames}
  {instrumentation : Instrumentation} {overrides : List Override} {steps : List Routine}
  {made : Parts}

/-- The lines of plainly spelled metrics call the accessors that are named by their spellings. -/
theorem Made.lines_eq (h : Made compiled naming names instrumentation overrides made)
    (represents : compiled.Represents schema) (plain : schema.PlainlySpelled) :
    made.lines = (Report.labelled compiled).map fun (metric, label) => ⟨label, Name.snake metric⟩ := by
  have each : ∀ line ∈ Report.labelled compiled,
      lineCode compiled line = .ok ⟨line.2, Name.snake line.1⟩ := by
    intro line here
    obtain ⟨metric, shown, rfl⟩ := List.mem_map.1 here
    have declared := represents.display.mem_iff.1 shown
    obtain ⟨entry, found⟩ := represents.exists_entry declared
    have spelled := represents.read_name found
    rw [plain metric declared] at spelled
    rw [lineCode, found, Identifier.Reading.plain.inj spelled]
  have all := h.lines
  rw [mapM_eq_ok_map each] at all
  exact (Except.ok.inj all).symm

/-- The formats and accessors of the lines of a compiled schema, under an indent. -/
def formats (compiled : CompiledSchema) (indent : String) : List (String × String) :=
  (Report.labelled compiled).map fun (metric, label) =>
    (indent ++ label ++ "\x7b\x7d", Name.snake metric)

theorem Composed.reporting
    (composed : Composed schema naming instrumentation overrides compiled names steps made)
    (plain : schema.PlainlySpelled) :
    (assembled names naming.runtime steps made).Reporting names naming.runtime
      (formats compiled) := by
  have represents := (of_compile composed.compiles).2
  obtain ⟨_, named, -, distinct, -⟩ :=
    generate_of_plain plain composed.generate_eq composed.compiles
  cases composed.named.symm.trans named
  have reporting :=
    reporting_assembled naming.runtime steps made (typeNames_apart composed.named) distinct
  rw [composed.made.lines_eq represents plain] at reporting
  simp only [List.map_map] at reporting
  exact reporting

/-- The reports of code that is generated for plainly spelled names. -/
theorem reporting_of_plain {artifact : Artifact} (plain : schema.PlainlySpelled)
    (generated : generate schema naming instrumentation overrides = .ok artifact)
    (compiles : compile schema = .ok compiled) :
    ∃ names, naming.typeNames = .ok names ∧ artifact.Represents compiled names naming.runtime ∧
      artifact.MembersDistinct names ∧
      artifact.Reporting names naming.runtime (formats compiled) := by
  obtain ⟨names, named, represents, distinct, -⟩ := generate_of_plain plain generated compiles
  obtain ⟨_, _, steps, made, composed, rfl⟩ := generate_eq_ok_iff.1 generated
  cases compiles.symm.trans composed.compiles
  cases named.symm.trans composed.named
  exact ⟨names, named, represents, distinct, composed.reporting plain⟩

/-- Accessors of metrics that answer values and do not stop. -/
def Valued (artifact : Artifact) (overflow : Overflow) (type : String) (receiver : Receiver)
    (metrics : List String) (value : String → Value Float) : Prop :=
  ∀ metric ∈ metrics,
    artifact.Gives overflow type receiver (Name.snake metric) (.ok (value metric))

section Values

variable {artifact : Artifact} {overflow : Overflow} {type : String} {receiver : Receiver}
  {indent : String} (represents : compiled.Represents schema) (plain : schema.PlainlySpelled)
  (spaces : ∀ c ∈ indent.toList, c = ' ')

include represents plain spaces

/-- Lines whose accessors all answer values are laid out under their labels. -/
theorem writes_valued {value : String → Value Float}
    (valued : artifact.Valued overflow type receiver schema.names value) {text : String} :
    artifact.Writes overflow type receiver (formats compiled indent) text ↔
      text = compiled.reportText indent value := by
  have gives : ∀ line ∈ Report.labelled compiled,
      artifact.Gives overflow type receiver (Name.snake line.1) (.ok (value line.1)) :=
    fun line here => valued line.1 (represents.mem_names_of_labelled here)
  rw [formats, writes_iff_whole (fun metric => .ok (value metric)) gives
    (compiled.not_isStructural_labelled represents plain spaces)]
  refine (Lines.whole_map_ok _ fun (metric, label) =>
    indent ++ label ++ (value metric).text ++ "\n").trans ?_
  rw [CompiledSchema.reportText, Report.labelled, List.map_map]
  rfl

/-- Lines are written as they are computed, or not at all. -/
theorem writes_outcomes {base : BaseEntry → UInt64}
    (wired : artifact.Wired compiled type receiver base) (wellFormed : schema.WellFormed)
    {text : String} :
    artifact.Writes overflow type receiver (formats compiled indent) text ↔
      ((compiled.outcomes overflow base).lines indent (Report.labelled compiled)).whole =
        .ok text :=
  writes_iff_whole _ (fun _ here => wired.gives represents wellFormed plain overflow
    (represents.mem_names_of_labelled here))
    (compiled.not_isStructural_labelled represents plain spaces)

end Values

/-! ## What a session reports -/

section Sessions

variable {artifact : Artifact} {overflow : Overflow} {runtime : Path}
  (reporting : artifact.Reporting names runtime (formats compiled))
  (holds : artifact.Represents compiled names runtime) (distinct : artifact.MembersDistinct names)
  (represents : compiled.Represents schema) (wellFormed : schema.WellFormed)
  (plain : schema.PlainlySpelled)

include reporting holds distinct represents wellFormed plain

/-- A record is displayed as its lines are computed. -/
theorem shows_recordLines {record : Record} {text : String} :
    artifact.Shows overflow names.record (compiled.words record) text ↔
      (compiled.recordLines overflow record).whole = .ok text :=
  reporting.shows_iff.trans (writes_outcomes represents plain Report.spaces_recordIndent
    (wired_record holds distinct record) wellFormed)

theorem summarizes_summaryLines {ledger : Ledger Record} {text : String} :
    artifact.Summarizes overflow names.aggregator ⟨ledger.entries.map compiled.words⟩ text ↔
      (compiled.summaryLines overflow ledger).whole = .ok text :=
  reporting.summarizes_iff.trans (writes_outcomes represents plain Report.spaces_empty
    (wired_aggregator holds distinct ledger) wellFormed)

/-- Results are returned as their lines are computed. -/
theorem returns_ledgerLines {perRecord : Bool} {ledger : Ledger Record} {text : String} :
    artifact.Returns overflow names runtime perRecord ⟨ledger.entries.map compiled.words⟩ text ↔
      (compiled.ledgerLines overflow perRecord ledger).whole = .ok text := by
  have summarized : ∀ {text : String},
      artifact.Summarizes overflow names.aggregator ⟨ledger.entries.map compiled.words⟩ text ↔
        (compiled.summaryLines overflow ledger).whole = .ok text :=
    summarizes_summaryLines reporting holds distinct represents wellFormed plain
  rw [CompiledSchema.ledgerLines, Lines.whole_append]
  cases perRecord with
  | false =>
    rw [reporting.returns_false_iff, summarized]
    simp [Lines.whole_nil]
  | true =>
    have shown : ∀ reports,
        List.Forall₂ (artifact.Shows overflow names.record)
            (ledger.entries.map compiled.words) reports ↔
          List.Forall₂ (fun record report => (compiled.recordLines overflow record).whole =
            .ok report) ledger.entries reports := by
      intro reports
      rw [List.forall₂_map_left_iff]
      simp only [shows_recordLines reporting holds distinct represents wellFormed plain]
    have entries : ∀ {text : String}, (compiled.entryLines overflow ledger).whole = .ok text ↔
        ∃ reports, List.Forall₂ (fun record report => (compiled.recordLines overflow record).whole =
            .ok report) ledger.entries reports ∧ text = (Ledger.mk reports).text id := by
      intro text
      simp only [Ledger.text_eq]
      exact Ledger.whole_subReports (compiled.recordLines overflow) ledger.entries 0
    rw [reporting.returns_true_iff, if_pos rfl]
    simp only [summarized, shown, entries]
    constructor
    · rintro ⟨summary, reports, written, all, rfl⟩
      exact ⟨summary, _, written, ⟨reports, all, rfl⟩, rfl⟩
    · rintro ⟨summary, _, written, ⟨reports, all, rfl⟩, rfl⟩
      exact ⟨summary, reports, written, all, rfl⟩

end Sessions

end Artifact

open Artifact in
/-- How reports of plainly spelled metrics are laid out. Labels are padded to one width, one more than
the longest has characters; where no accessor stops, the summary and the display of a record are a line
for each metric in display order, its padded label and then its value. Results with records and the
display of an aggregator are one text, the summary and a sub-report for each record, and publishing adds
one sub-report to those that are there. All of this is what is computed for a session. -/
theorem reports_laid_out {schema : Schema} {naming : Naming} {instrumentation : Instrumentation}
    {overrides : List Override} {artifact : Artifact} {compiled : CompiledSchema}
    (plain : schema.PlainlySpelled)
    (generated : generate schema naming instrumentation overrides = .ok artifact)
    (compiles : compile schema = .ok compiled) (overflow : Overflow) :
    ((∀ metric ∈ schema.names, ∃ spaces,
        Report.padded compiled.labelWidth (Report.label metric) =
          (Report.label metric).pushn ' ' spaces ∧
        (Report.padded compiled.labelWidth (Report.label metric)).length = compiled.labelWidth ∧
        0 < spaces) ∧
      (schema.names ≠ [] →
        ∃ metric ∈ schema.names, compiled.labelWidth = (Report.label metric).length + 1)) ∧
    ∃ names, naming.typeNames = .ok names ∧
      (∀ ledger value,
        artifact.Valued overflow names.aggregator (.aggregator ledger) schema.names value →
        ∀ text, artifact.Returns overflow names naming.runtime false ledger text ↔
          text = compiled.reportText "" value) ∧
      (∀ words value, artifact.Valued overflow names.record (.record words) schema.names value →
        ∀ text, artifact.Shows overflow names.record words text ↔
          text = compiled.reportText "    " value) ∧
      (∀ ledger text, artifact.Displays overflow names naming.runtime ledger text ↔
        artifact.Returns overflow names naming.runtime true ledger text) ∧
      (∀ ledger text, artifact.Returns overflow names naming.runtime true ledger text ↔
        ∃ summary reports,
          artifact.Returns overflow names naming.runtime false ledger summary ∧
          List.Forall₂ (artifact.Shows overflow names.record) ledger.entries reports ∧
          text = summary ++ String.join (reports.zipIdx.map fun (report, index) =>
            Ledger.header index ++ report ++ "\n")) ∧
      (∀ index, ∃ spaces, Ledger.header index =
          "--== Thread: " ++ "".pushn ' ' spaces ++ toString index ++ " ==--\n" ∧
        spaces + (toString index).length = max 4 (toString index).length) ∧
      (∀ (ledger : Ledger Words) (words : Words) (text : String),
        artifact.Returns overflow names naming.runtime true (ledger.publish words) text ↔
          ∃ summary reports report,
            artifact.Returns overflow names naming.runtime false (ledger.publish words) summary ∧
            List.Forall₂ (artifact.Shows overflow names.record) ledger.entries reports ∧
            artifact.Shows overflow names.record words report ∧
            text = summary ++ (Ledger.mk reports).text id ++
              (Ledger.header ledger.length ++ report ++ "\n")) ∧
      ∀ (ledger : Ledger Record) (perRecord : Bool) (text : String),
        artifact.Returns overflow names naming.runtime perRecord
            ⟨ledger.entries.map compiled.words⟩ text ↔
          (compiled.ledgerLines overflow perRecord ledger).whole = .ok text := by
  obtain ⟨wellFormed, represents⟩ := of_compile compiles
  obtain ⟨names, named, holds, distinct, reporting⟩ := reporting_of_plain plain generated compiles
  refine ⟨⟨?_, ?_⟩, names, named, ?_, ?_, fun ledger text => reporting.displays_iff, ?_,
    Ledger.header_eq, ?_, fun ledger perRecord text =>
      returns_ledgerLines reporting holds distinct represents wellFormed plain⟩
  · intro metric declared
    have shown := represents.display.mem_iff.2 declared
    have shorter : (Report.label metric).length < compiled.labelWidth :=
      Report.length_lt_width (List.mem_map_of_mem shown)
    exact ⟨_, rfl, Report.length_padded shorter.le, Nat.sub_pos_of_lt shorter⟩
  · intro some_metric
    obtain ⟨metric, declared⟩ := List.exists_mem_of_ne_nil _ some_metric
    have shown := represents.display.mem_iff.2 declared
    obtain ⟨_, longest, width⟩ := Report.exists_width_eq
      (List.ne_nil_of_mem (List.mem_map_of_mem (f := Report.label) shown))
    obtain ⟨metric, shown, rfl⟩ := List.mem_map.1 longest
    exact ⟨metric, represents.display.mem_iff.1 shown, width⟩
  · intro ledger value valued text
    rw [reporting.returns_false_iff, reporting.summarizes_iff]
    exact writes_valued represents plain Report.spaces_empty valued
  · intro words value valued text
    rw [reporting.shows_iff]
    exact writes_valued represents plain Report.spaces_recordIndent valued
  · intro ledger text
    simp only [reporting.returns_true_iff, reporting.returns_false_iff, Ledger.text_eq]
    rfl
  · intro ledger words text
    simp only [reporting.returns_true_iff, reporting.returns_false_iff, Ledger.entries_publish,
      forall₂_concat_iff]
    constructor
    · rintro ⟨summary, _, written, ⟨reports, report, before, last, rfl⟩, rfl⟩
      refine ⟨summary, reports, report, written, before, last, ?_⟩
      rw [Ledger.length, before.length_eq, String.append_assoc]
      exact congrArg (summary ++ ·) (Ledger.text_publish (Ledger.mk reports) report id)
    · rintro ⟨summary, reports, report, written, before, last, rfl⟩
      refine ⟨summary, _, written, ⟨reports, report, before, last, rfl⟩, ?_⟩
      rw [Ledger.length, before.length_eq, String.append_assoc]
      exact congrArg (summary ++ ·) (Ledger.text_publish (Ledger.mk reports) report id).symm

/-- A ledger of one record of `throughput`. -/
def oneReading : Ledger Record := ⟨[⟨[("reads", 2), ("bytes", 513)]⟩]⟩

/-- What is displayed for `oneReading`. -/
def oneReadingText : String :=
  "Reads:          2\nBytes:          513\nBytes Per Read: 256.5\n" ++
    "--== Thread:    0 ==--\n" ++
    "    Reads:          2\n    Bytes:          513\n    Bytes Per Read: 256.5\n\n"

theorem oneReading_report {compiled : CompiledSchema} (compiles : compile throughput = .ok compiled) :
    (compiled.ledgerLines .panics true oneReading).whole = .ok oneReadingText := by
  have computed : ∀ compiled ∈ (compile throughput).toOption,
      (compiled.ledgerLines .panics true oneReading).whole.toOption = some oneReadingText := by
    decide +kernel
  exact eq_ok_of_toOption (computed compiled (by rw [compiles]; rfl))

theorem reports_laid_out_one_reading :
    ∃ artifact names compiled, generate throughput {} .enabled [] = .ok artifact ∧
      compile throughput = .ok compiled ∧
      artifact.Displays .panics names (Naming.runtime {}) ⟨oneReading.entries.map compiled.words⟩
        oneReadingText := by
  obtain ⟨artifact, generated⟩ := throughput_generates
  obtain ⟨compiled, compiles, -⟩ := bind_eq_ok.1 generated
  obtain ⟨-, names, -, -, -, displays, -, -, -, session⟩ :=
    reports_laid_out throughput_plainlySpelled generated compiles .panics
  refine ⟨artifact, names, compiled, generated, compiles, ?_⟩
  rw [displays, session]
  exact oneReading_report compiles

end StatSchema
