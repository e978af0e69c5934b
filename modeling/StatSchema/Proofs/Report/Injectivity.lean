/-
What a full report tells. No line break stands in a label or in the text of a value, so the lines of a
report are read back one by one: each tells the text of its value, the display of a record tells all its
words, since no two words have one text and every base metric has a line, and after the display of a
record either the text ends or a header follows. Main statement: `display_determines_ledger`.
-/
import StatSchema.Proofs.Report.Layout

namespace StatSchema

/-! ## Texts of values -/

theorem unbroken_toDigits (n : Nat) : '\n' ∉ Nat.toDigits 10 n := fun here =>
  absurd (Nat.isDigit_of_mem_toDigits (by decide) (by decide) here) (by decide)

theorem unbroken_signed {text : List Char} (unbroken : '\n' ∉ text) (negative : Bool) :
    '\n' ∉ if negative then '-' :: text else text := by
  split
  · simpa using unbroken
  · exact unbroken

theorem Decimal.unbroken_positional (decimal : Decimal) : '\n' ∉ decimal.positional.toList := by
  have digits := unbroken_toDigits decimal.significand
  have zeros : ∀ count, '\n' ∉ List.replicate count '0' := fun count here =>
    absurd (List.eq_of_mem_replicate here) (by decide)
  rw [positional, String.toList_ofList]
  refine unbroken_signed ?_ _
  split
  · exact fun here => (List.mem_append.1 here).elim digits (zeros _)
  · intro here
    have padded : ∀ count,
        '\n' ∉ List.replicate count '0' ++ Nat.toDigits 10 decimal.significand :=
      fun count among => (List.mem_append.1 among).elim (zeros count) digits
    rcases List.mem_append.1 here with whole | fraction
    · exact padded _ (List.mem_of_mem_take whole)
    · rcases List.mem_cons.1 fraction with point | fraction
      · cases point
      · exact padded _ (List.mem_of_mem_drop fraction)

theorem unbroken_shortestText (value : Float) : '\n' ∉ (shortestText value).toList := by
  unfold shortestText
  extract_lets negative binary decimal
  split
  · decide
  · split
    · split <;> decide
    · exact Decimal.unbroken_positional _

/-- The text of a value is a part of one line. -/
theorem Value.unbroken_text (value : Value Float) : '\n' ∉ value.text.toList := by
  cases value with
  | integer word =>
    rw [text, Nat.toString_eq_ofList_toDigits, String.toList_ofList]
    exact unbroken_toDigits _
  | fraction number => exact unbroken_shortestText number

/-- No two words have one text. -/
theorem Value.word_of_text {word other : UInt64}
    (same : (Value.integer (φ := Float) word).text = (Value.integer other).text) : word = other := by
  have digits : Nat.toDigits 10 word.toNat = Nat.toDigits 10 other.toNat := by
    rw [text, text, Nat.toString_eq_ofList_toDigits, Nat.toString_eq_ofList_toDigits] at same
    exact String.ofList_inj.1 same
  refine UInt64.toNat_inj.1 ?_
  calc word.toNat
      = Nat.ofDigitChars 10 (Nat.toDigits 10 word.toNat) 0 := Nat.ofDigitChars_ten_toDigits.symm
    _ = Nat.ofDigitChars 10 (Nat.toDigits 10 other.toNat) 0 := by rw [digits]
    _ = other.toNat := Nat.ofDigitChars_ten_toDigits

/-! ## Lines -/

/-- A text before its first line break is told by the whole. -/
theorem break_inj {text text' rest rest' : List Char} (unbroken : '\n' ∉ text)
    (unbroken' : '\n' ∉ text') (same : text ++ '\n' :: rest = text' ++ '\n' :: rest') :
    text = text' ∧ rest = rest' := by
  -- the rest may have breaks of its own, so only the first one can be looked for
  have cut : ∀ {text rest : List Char}, '\n' ∉ text →
      (text ++ '\n' :: rest).takeWhile (· ≠ '\n') = text := by
    intro text rest unbroken
    rw [List.takeWhile_append_of_pos, List.takeWhile_cons_of_neg (by simp), List.append_nil]
    exact fun c here => decide_eq_true (ne_of_mem_of_not_mem here unbroken)
  obtain rfl : text = text' := by rw [← cut unbroken, same, cut unbroken']
  exact ⟨rfl, List.tail_eq_of_cons_eq (List.append_cancel_left same)⟩

/-- A line is told by all that begins with it. -/
theorem line_inj {line line' rest rest' : String} (unbroken : '\n' ∉ line.toList)
    (unbroken' : '\n' ∉ line'.toList) (same : line ++ "\n" ++ rest = line' ++ "\n" ++ rest') :
    line = line' ∧ rest = rest' := by
  have characters := congrArg String.toList same
  simp only [String.toList_append, List.append_assoc] at characters
  obtain ⟨lines, rests⟩ := break_inj unbroken unbroken' characters
  exact ⟨String.toList_inj.1 lines, String.toList_inj.1 rests⟩

/-- Lines under the same labels tell the text of each value. -/
theorem Outcomes.texts_of_lines {outcomes outcomes' : Outcomes} {indent : String}
    {labelled : List (String × String)}
    (unbroken : ∀ line ∈ labelled, '\n' ∉ (indent ++ line.2).toList) {text text' rest rest' : String}
    (written : (outcomes.lines indent labelled).whole = .ok text)
    (written' : (outcomes'.lines indent labelled).whole = .ok text')
    (same : text ++ rest = text' ++ rest') :
    (∀ line ∈ labelled, ∃ value value', outcomes.of line.1 = .ok value ∧
      outcomes'.of line.1 = .ok value' ∧ value.text = value'.text) ∧ rest = rest' := by
  induction labelled generalizing text text' with
  | nil =>
    rw [Lines.whole_nil.1 written, Lines.whole_nil.1 written', String.empty_append,
      String.empty_append] at same
    exact ⟨fun line here => (List.not_mem_nil here).elim, same⟩
  | cons line labelled ih =>
    obtain ⟨metric, label⟩ := line
    obtain ⟨value, more, found, later, rfl⟩ := Lines.whole_cons_map.1 written
    obtain ⟨value', more', found', later', rfl⟩ := Lines.whole_cons_map.1 written'
    have one : ∀ value : Value Float, '\n' ∉ (indent ++ label ++ value.text).toList := by
      intro value here
      rw [String.toList_append] at here
      exact (List.mem_append.1 here).elim (unbroken _ List.mem_cons_self) value.unbroken_text
    have split : indent ++ label ++ value.text ++ "\n" ++ (more ++ rest) =
        indent ++ label ++ value'.text ++ "\n" ++ (more' ++ rest') := by
      simpa only [String.append_assoc] using same
    obtain ⟨line, further⟩ := line_inj (one value) (one value') split
    obtain ⟨others, behind⟩ := ih (fun line there => unbroken line (List.mem_cons_of_mem _ there))
      later later' further
    refine ⟨List.forall_mem_cons.2 ⟨⟨value, value', found, found', ?_⟩, others⟩, behind⟩
    exact (String.append_right_inj _).1 line

/-! ## Records -/

/-- Where there is a sub-report, there is text. -/
theorem Ledger.numbered_cons_ne_nil (report : String) (reports : List String) (start : Nat) :
    numbered (report :: reports) start ≠ numbered [] start := by
  simp [numbered, subReport, String.join_cons]

/-- A table under distinct keys is made of what is looked up in it. -/
theorem eq_map_lookup {β : Type} {table : List (String × β)} (distinct : (table.map (·.1)).Nodup)
    (spare : β) :
    table = (table.map (·.1)).map fun key => (key, (table.lookup key).getD spare) := by
  have each : ∀ entry ∈ table, (entry.1, (table.lookup entry.1).getD spare) = entry := by
    intro entry here
    have found : (table.map fun entry => (entry.1, entry.2)).lookup entry.1 = some entry.2 :=
      lookup_map_key distinct here
    rw [List.map_id'] at found
    rw [found]
    rfl
  rw [List.map_map]
  exact ((List.map_congr_left each).trans (List.map_id' _)).symm

/-- Records of one schema with the same words are the same. -/
theorem Record.Fits.ext {compiled : CompiledSchema} {record record' : Record}
    (fits : record.Fits compiled) (fits' : record'.Fits compiled)
    (distinct : (compiled.storage.map (·.name)).Nodup)
    (same : ∀ entry ∈ compiled.storage, record.get entry.name = record'.get entry.name) :
    record = record' := by
  have words : (compiled.storage.map (·.name)).map (fun metric => (metric, record.get metric)) =
      (compiled.storage.map (·.name)).map fun metric => (metric, record'.get metric) := by
    rw [List.map_map, List.map_map]
    exact List.map_congr_left fun entry here => congrArg (entry.name, ·) (same entry here)
  rw [← fits] at words distinct
  have values := (eq_map_lookup distinct 0).trans words
  rw [fits, ← fits'] at values distinct
  replace values := values.trans (eq_map_lookup distinct 0).symm
  cases record
  cases record'
  exact congrArg Record.mk values

namespace CompiledSchema

variable {schema : Schema} {compiled : CompiledSchema} {overflow : Overflow}

/-- Labels and the spaces around them are parts of one line. -/
theorem Represents.unbroken (represents : compiled.Represents schema)
    (plain : schema.PlainlySpelled) {indent : String} (spaces : ∀ c ∈ indent.toList, c = ' ') :
    ∀ line ∈ Report.labelled compiled, '\n' ∉ (indent ++ line.2).toList := by
  intro line here among
  have plainly := not_isStructural_labelled represents plain spaces line here _ among
  revert plainly
  decide

section Displays

variable (represents : compiled.Represents schema) (wellFormed : schema.WellFormed)
  (plain : schema.PlainlySpelled)

include represents wellFormed plain

/-- The display of a record tells the record, and what follows it. -/
theorem record_of_display {record record' : Record} (fits : record.Fits compiled)
    (fits' : record'.Fits compiled) {text text' rest rest' : String}
    (shown : (compiled.recordLines overflow record).whole = .ok text)
    (shown' : (compiled.recordLines overflow record').whole = .ok text')
    (same : text ++ rest = text' ++ rest') : record = record' ∧ rest = rest' := by
  -- two fractions may have one text, but base metrics are words, and all of them are displayed
  obtain ⟨texts, behind⟩ := Outcomes.texts_of_lines
    (represents.unbroken plain Report.spaces_recordIndent) shown shown' same
  refine ⟨fits.ext fits' (represents.nodup_storage (wellFormed .names)) fun entry here => ?_, behind⟩
  have declared := represents.name_mem_of_stored here
  have labelled : (entry.name, Report.padded compiled.labelWidth (Report.label entry.name)) ∈
      Report.labelled compiled := List.mem_map_of_mem (represents.display.mem_iff.2 declared)
  obtain ⟨value, value', found, found', alike⟩ := texts _ labelled
  have own := (represents.settled wellFormed overflow fun entry => record.get entry.name).base _ here
  have own' := (represents.settled wellFormed overflow fun entry => record'.get entry.name).base _ here
  cases found.symm.trans own
  cases found'.symm.trans own'
  exact Value.word_of_text alike

/-- Sub-reports tell the records. -/
theorem records_of_subReports {records records' : List Record}
    (fits : ∀ record ∈ records, record.Fits compiled)
    (fits' : ∀ record ∈ records', record.Fits compiled) (start : Nat) {reports reports' : List String}
    (shown : List.Forall₂ (fun record report =>
      (compiled.recordLines overflow record).whole = .ok report) records reports)
    (shown' : List.Forall₂ (fun record report =>
      (compiled.recordLines overflow record).whole = .ok report) records' reports')
    (same : Ledger.numbered reports start = Ledger.numbered reports' start) : records = records' := by
  -- sub-reports are not counted: either the text ends, or there is one more on both sides
  induction shown generalizing start records' reports' with
  | nil =>
    cases shown' with
    | nil => rfl
    | cons => exact absurd same.symm (Ledger.numbered_cons_ne_nil _ _ _)
  | @cons record report records reports first later ih =>
    cases shown' with
    | nil => exact absurd same (Ledger.numbered_cons_ne_nil _ _ _)
    | @cons record' report' records' reports' first' later' =>
      have split : report ++ ("\n" ++ Ledger.numbered reports (start + 1)) =
          report' ++ ("\n" ++ Ledger.numbered reports' (start + 1)) := by
        simpa only [Ledger.numbered_cons, Ledger.subReport, String.append_assoc,
          String.append_right_inj] using same
      obtain ⟨rfl, behind⟩ := record_of_display represents wellFormed plain
        (fits _ List.mem_cons_self) (fits' _ List.mem_cons_self) first first' split
      rw [ih (fun other there => fits other (List.mem_cons_of_mem _ there))
        (fun other there => fits' other (List.mem_cons_of_mem _ there)) (start + 1) later'
        ((String.append_right_inj _).1 behind)]

/-- A full report tells the ledger. -/
theorem ledger_of_report {ledger ledger' : Ledger Record}
    (fits : ∀ record ∈ ledger.entries, record.Fits compiled)
    (fits' : ∀ record ∈ ledger'.entries, record.Fits compiled) {text : String}
    (written : (compiled.ledgerLines overflow true ledger).whole = .ok text)
    (written' : (compiled.ledgerLines overflow true ledger').whole = .ok text) :
    ledger = ledger' := by
  obtain ⟨summary, entries, summarized, shown, rfl⟩ := Lines.whole_append.1 written
  obtain ⟨summary', entries', summarized', shown', same⟩ := Lines.whole_append.1 written'
  obtain ⟨-, rfl⟩ := Outcomes.texts_of_lines (represents.unbroken plain Report.spaces_empty)
    summarized summarized' same
  rw [if_pos rfl] at shown shown'
  obtain ⟨reports, displays, rfl⟩ :=
    (Ledger.whole_subReports (compiled.recordLines overflow) ledger.entries 0).1 shown
  obtain ⟨reports', displays', same⟩ :=
    (Ledger.whole_subReports (compiled.recordLines overflow) ledger'.entries 0).1 shown'
  exact congrArg Ledger.mk
    (records_of_subReports represents wellFormed plain fits fits' 0 displays displays' same)

end Displays

/-! ## Values of generated types -/

/-- The record of the words of a value: under the name of a metric stands the word of its field. -/
def recordOf (compiled : CompiledSchema) (words : Words) : Record :=
  ⟨compiled.storage.map fun entry => (entry.name, (words.lookup entry.identifier).getD 0)⟩

theorem fits_recordOf (words : Words) : (compiled.recordOf words).Fits compiled := by
  unfold Record.Fits recordOf
  rw [List.map_map]
  rfl

theorem words_recordOf {words : Words} (fields : words.map (·.1) = compiled.storage.map (·.identifier))
    (named : (compiled.storage.map (·.name)).Nodup)
    (identified : (compiled.storage.map (·.identifier)).Nodup) :
    compiled.words (compiled.recordOf words) = words := by
  have each : ∀ entry ∈ compiled.storage, (entry.identifier, (compiled.recordOf words).get entry.name) =
      (entry.identifier, (words.lookup entry.identifier).getD 0) := by
    intro entry here
    rw [Record.get, recordOf, lookup_map_key named here]
    rfl
  have own : words = _ := eq_map_lookup (fields ▸ identified) 0
  rw [fields, List.map_map] at own
  exact (List.map_congr_left each).trans own.symm

end CompiledSchema

namespace Artifact

/-- Words that a value of a type can hold: one for each field, in order. -/
def Holds (artifact : Artifact) (type : String) (words : Words) : Prop :=
  words.map (·.1) = artifact.fieldsOf type

/-- Ledgers of generated code are displayed as the reports of ledgers of records. -/
theorem displays_of_plain {schema : Schema} {naming : Naming} {instrumentation : Instrumentation}
    {overrides : List Override} {artifact : Artifact} {compiled : CompiledSchema}
    (plain : schema.PlainlySpelled)
    (generated : generate schema naming instrumentation overrides = .ok artifact)
    (compiles : compile schema = .ok compiled) :
    ∃ names, naming.typeNames = .ok names ∧
      (∀ words, artifact.Holds names.record words ↔
        words.map (·.1) = compiled.storage.map (·.identifier)) ∧
      (compiled.storage.map (·.identifier)).Nodup ∧
      ∀ overflow (ledger : Ledger Record) text,
        artifact.Displays overflow names naming.runtime ⟨ledger.entries.map compiled.words⟩ text ↔
          (compiled.ledgerLines overflow true ledger).whole = .ok text := by
  obtain ⟨wellFormed, represents⟩ := of_compile compiles
  obtain ⟨names, named, holds, distinct, reporting⟩ := reporting_of_plain plain generated compiles
  refine ⟨names, named, fun words => ?_, holds.fields ▸ distinct.fields,
    fun overflow ledger text => reporting.displays_iff.trans
      (returns_ledgerLines reporting holds distinct represents wellFormed plain)⟩
  rw [Holds, holds.fields]

end Artifact

/-- The full report of plainly spelled metrics tells the ledger: two aggregators whose displays both come
to an end, with the same text, hold as many records, and at every position records with the same
words. -/
theorem display_determines_ledger {schema : Schema} {naming : Naming}
    {instrumentation : Instrumentation} {overrides : List Override} {artifact : Artifact}
    (plain : schema.PlainlySpelled)
    (generated : generate schema naming instrumentation overrides = .ok artifact) :
    ∃ names, naming.typeNames = .ok names ∧
      ∀ (overflow : Overflow) (ledger ledger' : Ledger Words),
        (∀ words ∈ ledger.entries, artifact.Holds names.record words) →
        (∀ words ∈ ledger'.entries, artifact.Holds names.record words) →
        ∀ text, artifact.Displays overflow names naming.runtime ledger text →
          artifact.Displays overflow names naming.runtime ledger' text → ledger = ledger' := by
  obtain ⟨compiled, _, _, _, composed, _⟩ := Artifact.generate_eq_ok_iff.1 generated
  obtain ⟨wellFormed, represents⟩ := of_compile composed.compiles
  obtain ⟨names, named, fields, identified, displays⟩ :=
    Artifact.displays_of_plain plain generated composed.compiles
  -- values of the generated type are the words of records
  have recorded : ∀ ledger : Ledger Words,
      (∀ words ∈ ledger.entries, artifact.Holds names.record words) →
      ledger = ⟨(Ledger.mk (ledger.entries.map compiled.recordOf)).entries.map compiled.words⟩ := by
    intro ledger holds
    have each : ∀ words ∈ ledger.entries, compiled.words (compiled.recordOf words) = words :=
      fun words here => CompiledSchema.words_recordOf ((fields words).1 (holds words here))
        (represents.nodup_storage (wellFormed .names)) identified
    refine congrArg Ledger.mk ?_
    rw [List.map_map]
    exact ((List.map_congr_left each).trans (List.map_id' _)).symm
  have fits : ∀ ledger : Ledger Words, ∀ record ∈ ledger.entries.map compiled.recordOf,
      record.Fits compiled := fun ledger =>
    List.forall_mem_map.2 fun words _ => compiled.fits_recordOf words
  refine ⟨names, named, fun overflow ledger ledger' holds holds' text shown shown' => ?_⟩
  rw [recorded ledger holds, displays] at shown
  rw [recorded ledger' holds', displays] at shown'
  have same := CompiledSchema.ledger_of_report represents wellFormed plain (fits ledger) (fits ledger')
    shown shown'
  rw [recorded ledger holds, same, ← recorded ledger' holds']

/-- The ledger of `oneReading` as generated code holds it. -/
def oneReadingWords : Ledger Words := ⟨[[("reads", 2), ("bytes", 513)]]⟩

/-- No other ledger is displayed as `oneReading`. -/
theorem one_reading_determined :
    ∃ artifact names, generate throughput {} .enabled [] = .ok artifact ∧
      artifact.Displays .panics names (Naming.runtime {}) oneReadingWords oneReadingText ∧
      ∀ ledger : Ledger Words, (∀ words ∈ ledger.entries, artifact.Holds names.record words) →
        artifact.Displays .panics names (Naming.runtime {}) ledger oneReadingText →
        ledger = oneReadingWords := by
  obtain ⟨artifact, generated⟩ := throughput_generates
  obtain ⟨compiled, compiles, -⟩ := bind_eq_ok.1 generated
  have computed : ∀ compiled ∈ (compile throughput).toOption,
      oneReading.entries.map compiled.words = oneReadingWords.entries ∧
        compiled.storage.map (·.identifier) = ["reads", "bytes"] := by
    decide +kernel
  obtain ⟨words, identifiers⟩ := computed compiled (by rw [compiles]; rfl)
  obtain ⟨names, named, fields, -, displays⟩ :=
    Artifact.displays_of_plain throughput_plainlySpelled generated compiles
  obtain ⟨_, named', determined⟩ := display_determines_ledger throughput_plainlySpelled generated
  cases named.symm.trans named'
  have shown := (displays .panics oneReading oneReadingText).2 (oneReading_report compiles)
  rw [words] at shown
  have held : ∀ words ∈ oneReadingWords.entries, artifact.Holds names.record words := by
    simp only [fields, identifiers]
    decide
  exact ⟨artifact, names, generated, shown, fun ledger holds shown' =>
    determined .panics ledger oneReadingWords holds held oneReadingText shown' shown⟩

end StatSchema
