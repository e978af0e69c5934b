/-
The document that a configuration is written as. It has every key that can be given a value, and the
entries of all its tables are sorted by key. Main statement: reading loses nothing and adds nothing. What
is written is read back with the overrides sorted by hook, what is read means what the document says, and
writing it again and reading that comes to the same configuration.
-/
import StatSchema.Proofs.Configuration.Meaning

namespace StatSchema

/-- The text of a path, its tokens with spaces between them. -/
def Path.text (path : Path) : String := Token.print path.tokens

namespace Configuration

open Toml (Table)

/-- The feature that instrumentation depends on. -/
def featureOf? : Instrumentation → Option String
  | .feature name => some name
  | _ => none

/-- The table of names. -/
def namesTable (naming : Naming) (instrumentation : Instrumentation) : Table :=
  [("aggregator", .string naming.aggregator), ("hook_prefix", .string naming.hookPrefix)] ++
    naming.module.toList.map (fun name => ("module", .string name)) ++
    [("record", .string naming.record), ("runtime", .string naming.runtime.text)] ++
    (featureOf? instrumentation).toList.map (fun name => ("toggle_feature", .string name))

/-- The table of orders. -/
def ordersTable (arrangement : Arrangement) : Table :=
  [("derivation", textArray arrangement.derivation), ("display", textArray arrangement.display),
    ("storage", textArray arrangement.storage), ("strict", .boolean arrangement.strict)]

/-- The table of overrides. -/
def overridesTable (overrides : List Override) : Table :=
  Toml.sorted (overrides.map fun override => (override.hook, .string override.target.text))

/-- The document that a configuration is written as. -/
def document (configuration : Configuration) : Table :=
  [("metric", .array (configuration.schema.declarations.map Declaration.table)),
    ("naming", .table (namesTable configuration.naming configuration.instrumentation)),
    ("order", .table (ordersTable configuration.schema.arrangement)),
    ("overrides", .table (overridesTable configuration.overrides))]

/-- A configuration whose paths are read back from their texts. -/
def PathsReadBack (configuration : Configuration) : Prop :=
  ∀ path ∈ configuration.naming.runtime :: configuration.overrides.map (·.target),
    Path.read? path.text = some path

/-! ## Orders of overrides -/

/-- Overrides sorted by hook. -/
def byHook (overrides : List Override) : List Override :=
  overrides.mergeSort fun first second => !decide (second.hook < first.hook)

theorem overridesTable_eq (overrides : List Override) :
    overridesTable overrides =
      (byHook overrides).map fun override => (override.hook, .string override.target.text) := by
  refine Eq.symm (List.map_mergeSort ?_)
  intro first _ second _
  rfl

theorem perm_byHook (overrides : List Override) : (byHook overrides).Perm overrides :=
  List.mergeSort_perm _ _

theorem not_decide_lt {first second : String} :
    (!decide (second < first)) = true ↔ first ≤ second := by
  rw [Bool.not_eq_true', decide_eq_false_iff_not, String.not_lt]

theorem pairwise_byHook {overrides : List Override} (distinct : (overrides.map (·.hook)).Nodup) :
    (byHook overrides).Pairwise (·.hook < ·.hook) := by
  have sorted : (byHook overrides).Pairwise fun first second =>
      (!decide (second.hook < first.hook)) = true := by
    refine List.pairwise_mergeSort ?_ ?_ overrides
    · intro a b c first second
      exact not_decide_lt.2 (String.le_trans (not_decide_lt.1 first) (not_decide_lt.1 second))
    · intro a b
      rw [Bool.or_eq_true, not_decide_lt, not_decide_lt]
      exact String.le_total a.hook b.hook
  have apart : (byHook overrides).Pairwise fun first second => first.hook ≠ second.hook := by
    have nodup := ((perm_byHook overrides).map (·.hook)).nodup_iff.2 distinct
    rwa [List.Nodup, List.pairwise_map] at nodup
  refine (sorted.and apart).imp fun ⟨ordered, different⟩ => ?_
  exact Classical.not_not.1 fun later =>
    different (String.le_antisymm (not_decide_lt.1 ordered) (String.not_lt.1 later))

theorem byHook_eq_self {overrides : List Override}
    (sorted : overrides.Pairwise (·.hook < ·.hook)) : byHook overrides = overrides := by
  refine List.mergeSort_of_pairwise (sorted.imp fun ordered => ?_)
  refine not_decide_lt.2 (String.not_lt.1 fun later => ?_)
  exact String.lt_irrefl _ (String.lt_trans ordered later)

/-! ## What is written -/

theorem describesMetric_table (made : Declaration) :
    ∃ table, made.table = .table table ∧ DescribesMetric table made := by
  cases made with
  | base metric =>
    refine ⟨_, rfl, ?_, rfl, rfl⟩
    simp [KeysAmong]
  | compound metric =>
    refine ⟨_, rfl, ?_, rfl, rfl, rfl⟩
    simp [KeysAmong]

theorem describesMetrics_table (declarations : List Declaration) :
    DescribesMetrics (.array (declarations.map Declaration.table)) declarations := by
  induction declarations with
  | nil => exact ⟨[], rfl, .nil⟩
  | cons made rest ih =>
    obtain ⟨table, same, describes⟩ := describesMetric_table made
    obtain ⟨tables, others, describe⟩ := ih
    refine ⟨table :: tables, ?_, .cons describes describe⟩
    rw [List.map_cons, List.map_cons, same, Toml.Value.array.inj others]

theorem describesNames_table {naming : Naming} {instrumentation : Instrumentation}
    (shown : instrumentation ≠ .disabled)
    (back : Path.read? naming.runtime.text = some naming.runtime) :
    DescribesNames (namesTable naming instrumentation) naming instrumentation := by
  obtain ⟨hookPrefix, record, aggregator, module, runtime⟩ := naming
  -- the table has an entry for the module and for a feature only if there is one
  cases module <;> cases instrumentation <;> first | exact absurd rfl shown | skip
  all_goals
    refine ⟨?_, rfl, rfl, rfl, ?_, ⟨_, rfl, back⟩, ?_⟩
    · simp [KeysAmong, namesTable, featureOf?]
    · first | rfl | exact ⟨_, rfl, rfl⟩
    · first | rfl | exact ⟨_, rfl, rfl⟩

theorem describesOrders_table (arrangement : Arrangement) :
    DescribesOrders (ordersTable arrangement) arrangement := by
  refine ⟨?_, rfl, rfl, rfl, rfl⟩
  simp [KeysAmong, ordersTable]

theorem describesOverrides_table {overrides : List Override}
    (back : ∀ override ∈ overrides, Path.read? override.target.text = some override.target) :
    DescribesOverrides
      (overrides.map fun override => (override.hook, .string override.target.text)) overrides := by
  refine List.forall₂_map_left_iff.2 (List.forall₂_same.2 fun override here => ?_)
  exact ⟨rfl, _, rfl, back override here⟩

/-- A configuration is described by the document that it is written as. -/
theorem describes_document {configuration : Configuration}
    (shown : configuration.instrumentation ≠ .disabled) (back : configuration.PathsReadBack) :
    Describes configuration.document
      { configuration with overrides := byHook configuration.overrides } := by
  refine ⟨?_, ⟨_, rfl, describesNames_table shown (back _ List.mem_cons_self)⟩,
    describesMetrics_table _, ⟨_, rfl, describesOrders_table _⟩, ⟨_, rfl, ?_⟩⟩
  · simp [KeysAmong, document]
  · rw [overridesTable_eq]
    refine describesOverrides_table fun override here => ?_
    have there := (perm_byHook configuration.overrides).mem_iff.1 here
    exact back _ (List.mem_cons_of_mem _ (List.mem_map_of_mem there))

/-! ## What is read -/

/-- No document turns hooks off for good. -/
theorem Describes.shown {document : Table} {configuration : Configuration}
    (describes : Describes document configuration) :
    configuration.instrumentation ≠ .disabled := by
  intro off
  have naming := describes.naming
  unfold Says at naming
  split at naming
  · obtain ⟨table, -, names⟩ := naming
    have feature := names.feature
    unfold Says at feature
    split at feature
    · obtain ⟨name, -, same⟩ := feature
      rw [off] at same
      cases same
    · rw [off] at feature
      cases feature
  · have same : configuration.instrumentation = .enabled := congrArg Prod.snd naming
    rw [off] at same
    cases same

/-- Overrides are read in the order of their table. -/
theorem Describes.pairwise_overrides {document : Table} {configuration : Configuration}
    (describes : Describes document configuration)
    (sorted : ∀ table, document.lookup "overrides" = some (.table table) →
      table.Pairwise (·.1 < ·.1)) :
    configuration.overrides.Pairwise (·.hook < ·.hook) := by
  have overridden := describes.overrides
  unfold Says at overridden
  split at overridden
  · rename_i found
    obtain ⟨table, rfl, each⟩ := overridden
    have keys : configuration.overrides.map (·.hook) = table.map (·.1) :=
      (map_eq_of_forall₂ (List.forall₂_map_left_iff.2 (each.imp fun _ _ same => same.1.symm)))
    have ordered := sorted table found
    rw [← List.pairwise_map] at ordered ⊢
    rwa [keys]
  · rw [overridden]
    exact .nil

/-- A text is read as the configuration that its document describes. -/
theorem read_eq_ok {text : String} {configuration : Configuration} :
    read text = .ok configuration ↔
      ∃ document, Toml.read text = some document ∧ Describes document configuration := by
  unfold read
  cases Toml.read text with
  | none => simp
  | some document => simp [ofTable_eq_ok]

/-- Reading is faithful. A document is read as the configuration that it describes, if it describes one,
and refused if not; a text is read as its document. A configuration whose hooks are not turned off for
good, with overrides of distinct hooks, is read back from the document that it is written as, with the
overrides sorted. And what any document is read as is read back from the document that it is then written
as. -/
theorem reading_is_faithful :
    (∀ document configuration, ofTable document = .ok configuration ↔
      Describes document configuration) ∧
    (∀ text configuration, read text = .ok configuration ↔
      ∃ document, Toml.read text = some document ∧ Describes document configuration) ∧
    (∀ configuration : Configuration, configuration.instrumentation ≠ .disabled →
      (configuration.overrides.map (·.hook)).Nodup → configuration.PathsReadBack →
      ∃ overrides, overrides.Perm configuration.overrides ∧
        overrides.Pairwise (·.hook < ·.hook) ∧
        ofTable configuration.document = .ok { configuration with overrides }) ∧
    ∀ document configuration, ofTable document = .ok configuration →
      (∀ table, document.lookup "overrides" = some (.table table) → table.Pairwise (·.1 < ·.1)) →
      configuration.PathsReadBack → ofTable configuration.document = .ok configuration := by
  refine ⟨fun _ _ => ofTable_eq_ok, fun _ _ => read_eq_ok, ?_, ?_⟩
  · intro configuration shown distinct back
    exact ⟨byHook configuration.overrides, perm_byHook _, pairwise_byHook distinct,
      ofTable_eq_ok.2 (describes_document shown back)⟩
  · intro document configuration read sorted back
    have describes := ofTable_eq_ok.1 read
    have again := describes_document describes.shown back
    rw [byHook_eq_self (describes.pairwise_overrides sorted)] at again
    exact ofTable_eq_ok.2 again

/-- Visits to a site under a feature, with a compound before what it is made of and with overrides that
are not sorted by hook. -/
def siteConfiguration : Configuration where
  schema := {
    declarations := [.compound ⟨"pages", .divide, ["visits", "jumps", "visits"]⟩,
      .base ⟨"visits", .counter⟩, .base ⟨"jumps", .max⟩]
    arrangement := { display := ["pages"], strict := true } }
  naming := { hookPrefix := "log_", record := "two words", module := some "site" }
  instrumentation := .feature "visits"
  overrides := [⟨"visits", ⟨Token.code "crate :: tick :: < u8 >"⟩⟩, ⟨"dump", ⟨Token.code ":: show"⟩⟩]

theorem site_is_read_back :
    siteConfiguration.PathsReadBack ∧ ∃ overrides,
      overrides.Pairwise (·.hook < ·.hook) ∧
      ofTable siteConfiguration.document = .ok { siteConfiguration with overrides } ∧
      ofTable (document { siteConfiguration with overrides }) =
        .ok { siteConfiguration with overrides } := by
  have back : siteConfiguration.PathsReadBack := by
    unfold PathsReadBack
    decide +kernel
  have distinct : (siteConfiguration.overrides.map (·.hook)).Nodup := by decide
  obtain ⟨-, -, written, again⟩ := reading_is_faithful
  obtain ⟨overrides, perm, sorted, read⟩ := written siteConfiguration (by decide) distinct back
  refine ⟨back, overrides, sorted, read, again _ _ read ?_ ?_⟩
  · intro table found
    cases found
    rw [overridesTable_eq, List.pairwise_map]
    exact pairwise_byHook distinct
  · intro path here
    refine back path ?_
    rwa [((perm.map (·.target)).cons _).mem_iff] at here

end Configuration

end StatSchema
