/-
What documents say. A document describes a configuration by what stands under each of its keys; a key
that is missing stands for a default, and no other key may be there. Main statement: reading a document
answers the configuration that it describes, and nothing for a document that describes none.
-/
import StatSchema.Proofs.Notation.Document
import StatSchema.Proofs.Schema.Entries

namespace StatSchema.Configuration

open Toml (Table)

/-! ## What documents say -/

/-- A table with keys that are known. -/
def KeysAmong (known : List String) (table : Table) : Prop := ∀ entry ∈ table, entry.1 ∈ known

/-- What a table says under a key, or else the value that a missing key stands for. -/
def Says {α : Type} (table : Table) (key : String) (Means : Toml.Value → α → Prop)
    (default value : α) : Prop :=
  match table.lookup key with
  | some written => Means written value
  | none => value = default

/-- A string that means itself. -/
def MeansText (written : Toml.Value) (text : String) : Prop := written = .string text

/-- An array of strings. -/
def MeansTexts (written : Toml.Value) (texts : List String) : Prop := written = textArray texts

/-- A string that is a path. -/
def MeansPath (written : Toml.Value) (path : Path) : Prop :=
  ∃ text, written = .string text ∧ Path.read? text = some path

/-- A string that is there. -/
def MeansModule (written : Toml.Value) (module : Option String) : Prop :=
  ∃ name, written = .string name ∧ module = some name

/-- A string that names the feature which turns hooks on. -/
def MeansFeature (written : Toml.Value) (instrumentation : Instrumentation) : Prop :=
  ∃ name, written = .string name ∧ instrumentation = .feature name

/-- A table that describes names and instrumentation. -/
structure DescribesNames (table : Table) (naming : Naming) (instrumentation : Instrumentation) :
    Prop where
  keys : KeysAmong
    ["hook_prefix", "record", "aggregator", "module", "runtime", "toggle_feature"] table
  hookPrefix : Says table "hook_prefix" MeansText ({} : Naming).hookPrefix naming.hookPrefix
  record : Says table "record" MeansText ({} : Naming).record naming.record
  aggregator : Says table "aggregator" MeansText ({} : Naming).aggregator naming.aggregator
  module : Says table "module" MeansModule ({} : Naming).module naming.module
  runtime : Says table "runtime" MeansPath ({} : Naming).runtime naming.runtime
  feature : Says table "toggle_feature" MeansFeature .enabled instrumentation

/-- A table that describes a metric: a kind without operator or operands, or an operator with operands
and without a kind. -/
def DescribesMetric (table : Table) : Declaration → Prop
  | .base metric =>
    KeysAmong ["name", "kind"] table ∧
      table.lookup "name" = some (.string metric.name) ∧
      table.lookup "kind" = some (.string metric.kind.word)
  | .compound metric =>
    KeysAmong ["name", "op", "operands"] table ∧
      table.lookup "name" = some (.string metric.name) ∧
      table.lookup "op" = some (.string metric.operator.symbol) ∧
      table.lookup "operands" = some (textArray metric.operands)

/-- An array of tables, each of which describes a metric. -/
def DescribesMetrics (written : Toml.Value) (declarations : List Declaration) : Prop :=
  ∃ tables : List Table, written = .array (tables.map .table) ∧
    List.Forall₂ DescribesMetric tables declarations

/-- A table that describes the three orders. -/
structure DescribesOrders (table : Table) (arrangement : Arrangement) : Prop where
  keys : KeysAmong ["strict", "storage", "derivation", "display"] table
  strict : Says table "strict" (fun written truth => written = .boolean truth) false
    arrangement.strict
  storage : Says table "storage" MeansTexts [] arrangement.storage
  derivation : Says table "derivation" MeansTexts [] arrangement.derivation
  display : Says table "display" MeansTexts [] arrangement.display

/-- A table of paths by hook. -/
def DescribesOverrides (table : Table) (overrides : List Override) : Prop :=
  List.Forall₂ (fun entry override => entry.1 = override.hook ∧ MeansPath entry.2 override.target)
    table overrides

/-- A value that is a table of some kind. -/
def IsTable (Describes : Table → Prop) (written : Toml.Value) : Prop :=
  ∃ table, written = .table table ∧ Describes table

/-- A document that describes a configuration. -/
structure Describes (document : Table) (configuration : Configuration) : Prop where
  keys : KeysAmong ["naming", "order", "metric", "overrides"] document
  naming : Says document "naming" (fun written (naming, instrumentation) =>
    IsTable (DescribesNames · naming instrumentation) written) ({}, .enabled)
    (configuration.naming, configuration.instrumentation)
  metrics : Says document "metric" DescribesMetrics [] configuration.schema.declarations
  order : Says document "order" (fun written arrangement =>
    IsTable (DescribesOrders · arrangement) written) {} configuration.schema.arrangement
  overrides : Says document "overrides" (fun written overrides =>
    IsTable (DescribesOverrides · overrides) written) [] configuration.overrides

/-! ## Values -/

theorem table_eq_ok {key : String} {written : Toml.Value} {entries : Table} :
    table key written = .ok entries ↔ written = .table entries := by
  constructor
  · intro decoded
    cases written <;> cases decoded
    rfl
  · rintro rfl
    rfl

theorem string_eq_ok {key : String} {written : Toml.Value} {text : String} :
    string key written = .ok text ↔ MeansText written text := by
  constructor
  · intro decoded
    cases written <;> cases decoded
    rfl
  · rintro rfl
    rfl

theorem boolean_eq_ok {key : String} {written : Toml.Value} {truth : Bool} :
    boolean key written = .ok truth ↔ written = .boolean truth := by
  constructor
  · intro decoded
    cases written <;> cases decoded
    rfl
  · rintro rfl
    rfl

theorem path_eq_ok {key text : String} {target : Path} :
    path key text = .ok target ↔ Path.read? text = some target := by
  unfold path
  constructor
  · intro decoded
    split at decoded
    · cases decoded
      assumption
    · cases decoded
  · intro read
    rw [read]

theorem strings_eq_ok {key : String} {written : Toml.Value} {texts : List String} :
    strings key written = .ok texts ↔ MeansTexts written texts := by
  constructor
  · intro decoded
    cases written with
    | array elements =>
      have each := forall₂_of_mapM (show elements.mapM _ = Except.ok texts from decoded)
      have same : texts.map Toml.Value.string = elements := by
        refine map_eq_of_forall₂ (each.imp fun element text given => ?_)
        cases element <;> cases given
        rfl
      rw [MeansTexts, textArray, same]
    | _ => cases decoded
  · rintro rfl
    exact strings_textArray key texts

theorem checkKeys_eq_ok {place : String} {known : List String} {table : Table} :
    checkKeys place known table = .ok () ↔ KeysAmong known table := by
  unfold checkKeys KeysAmong
  constructor
  · intro checked entry here
    split at checked
    · cases checked
    · rename_i none
      simpa using List.find?_eq_none.1 none entry here
  · intro all
    rw [List.find?_eq_none.2]
    intro entry here
    simpa using all entry here

section Optional

variable {α β : Type} {decode : String → Toml.Value → Decoded α} {place : String} {table : Table}
  {key : String} {Means : Toml.Value → β → Prop}

/-- A key whose value is decoded and put to use, or else stands for a default. -/
theorem optional_elim {use : α → β}
    (means : ∀ written value,
      (∃ decoded, decode (place ++ key) written = .ok decoded ∧ use decoded = value) ↔
        Means written value) (default value : β) :
    (∃ answer, optional decode place table key = .ok answer ∧ answer.elim default use = value) ↔
      Says table key Means default value := by
  unfold optional Says
  cases table.lookup key with
  | none =>
    constructor
    · rintro ⟨answer, given, rfl⟩
      cases given
      rfl
    · rintro rfl
      exact ⟨none, rfl, rfl⟩
  | some written =>
    refine Iff.trans ?_ (means written value)
    constructor
    · rintro ⟨answer, given, same⟩
      obtain ⟨decoded, ran, found⟩ := bind_eq_ok.1 given
      cases found
      exact ⟨decoded, ran, same⟩
    · rintro ⟨decoded, ran, same⟩
      exact ⟨some decoded, bind_eq_ok.2 ⟨decoded, ran, rfl⟩, same⟩

theorem optional_getD {Means : Toml.Value → α → Prop}
    (means : ∀ written value, decode (place ++ key) written = .ok value ↔ Means written value)
    (default value : α) :
    (∃ answer, optional decode place table key = .ok answer ∧ answer.getD default = value) ↔
      Says table key Means default value := by
  have itself : ∀ written value, (∃ decoded, decode (place ++ key) written = .ok decoded ∧
      id decoded = value) ↔ Means written value := by
    intro written value
    rw [← means]
    exact ⟨fun ⟨_, ran, same⟩ => same ▸ ran, fun ran => ⟨value, ran, rfl⟩⟩
  rw [← optional_elim itself]
  refine exists_congr fun answer => and_congr_right fun _ => ?_
  cases answer <;> exact Iff.rfl

end Optional

/-! ## Names -/

section Names

variable {place : String} {table : Table} {key : String}

theorem text_getD (default value : String) :
    (∃ answer, optional string place table key = .ok answer ∧ answer.getD default = value) ↔
      Says table key MeansText default value :=
  optional_getD (fun _ _ => string_eq_ok) default value

/-- A key whose value is the text of a path. -/
theorem path_getD (default value : Path) :
    (∃ text, optional string place table key = .ok text ∧ ∃ answer,
      text.mapM (path (place ++ key)) = .ok answer ∧ answer.getD default = value) ↔
      Says table key MeansPath default value := by
  unfold optional Says
  cases table.lookup key with
  | none =>
    constructor
    · rintro ⟨text, given, answer, located, rfl⟩
      cases given
      cases located
      rfl
    · rintro rfl
      exact ⟨none, rfl, none, rfl, rfl⟩
  | some written =>
    constructor
    · rintro ⟨text, given, answer, located, rfl⟩
      obtain ⟨decoded, ran, same⟩ := bind_eq_ok.1 given
      cases same
      obtain ⟨target, read, same⟩ := bind_eq_ok.1 located
      cases same
      exact ⟨decoded, string_eq_ok.1 ran, path_eq_ok.1 read⟩
    · rintro ⟨text, rfl, read⟩
      exact ⟨some text, rfl, some value, bind_eq_ok.2 ⟨value, path_eq_ok.2 read, rfl⟩, rfl⟩

theorem names_eq_ok {naming : Naming} {instrumentation : Instrumentation} :
    names table = .ok (naming, instrumentation) ↔ DescribesNames table naming instrumentation := by
  have module : ∀ default value, (∃ answer, optional string "naming." table "module" = .ok answer ∧
      answer.elim default some = value) ↔ Says table "module" MeansModule default value :=
    optional_elim fun written value => by
      constructor
      · rintro ⟨name, ran, rfl⟩
        exact ⟨name, string_eq_ok.1 ran, rfl⟩
      · rintro ⟨name, rfl, rfl⟩
        exact ⟨name, rfl, rfl⟩
  have feature : ∀ default value, (∃ answer,
      optional string "naming." table "toggle_feature" = .ok answer ∧
      answer.elim default .feature = value) ↔
        Says table "toggle_feature" MeansFeature default value :=
    optional_elim fun written value => by
      constructor
      · rintro ⟨name, ran, rfl⟩
        exact ⟨name, string_eq_ok.1 ran, rfl⟩
      · rintro ⟨name, rfl, rfl⟩
        exact ⟨name, rfl, rfl⟩
  constructor
  · intro h
    obtain ⟨⟨⟩, checked, h⟩ := bind_eq_ok.1 h
    obtain ⟨hookPrefix, ranPrefix, h⟩ := bind_eq_ok.1 h
    obtain ⟨record, ranRecord, h⟩ := bind_eq_ok.1 h
    obtain ⟨aggregator, ranAggregator, h⟩ := bind_eq_ok.1 h
    obtain ⟨enclosing, ranModule, h⟩ := bind_eq_ok.1 h
    obtain ⟨text, ranText, h⟩ := bind_eq_ok.1 h
    obtain ⟨runtime, ranRuntime, h⟩ := bind_eq_ok.1 h
    obtain ⟨toggle, ranToggle, h⟩ := bind_eq_ok.1 h
    cases h
    refine ⟨checkKeys_eq_ok.1 checked, (text_getD _ _).1 ⟨_, ranPrefix, rfl⟩,
      (text_getD _ _).1 ⟨_, ranRecord, rfl⟩, (text_getD _ _).1 ⟨_, ranAggregator, rfl⟩,
      (module _ _).1 ⟨_, ranModule, ?_⟩, (path_getD _ _).1 ⟨_, ranText, _, ranRuntime, rfl⟩,
      (feature _ _).1 ⟨_, ranToggle, rfl⟩⟩
    cases enclosing <;> rfl
  · intro describes
    obtain ⟨hookPrefix, ranPrefix, samePrefix⟩ := (text_getD _ _).2 describes.hookPrefix
    obtain ⟨record, ranRecord, sameRecord⟩ := (text_getD _ _).2 describes.record
    obtain ⟨aggregator, ranAggregator, sameAggregator⟩ := (text_getD _ _).2 describes.aggregator
    obtain ⟨enclosing, ranModule, sameModule⟩ := (module _ _).2 describes.module
    obtain ⟨text, ranText, runtime, ranRuntime, sameRuntime⟩ := (path_getD _ _).2 describes.runtime
    obtain ⟨toggle, ranToggle, sameToggle⟩ := (feature _ _).2 describes.feature
    refine bind_eq_ok.2 ⟨(), checkKeys_eq_ok.2 describes.keys, bind_eq_ok.2 ⟨_, ranPrefix, ?_⟩⟩
    refine bind_eq_ok.2 ⟨_, ranRecord, bind_eq_ok.2 ⟨_, ranAggregator, ?_⟩⟩
    refine bind_eq_ok.2 ⟨_, ranModule, bind_eq_ok.2 ⟨_, ranText, ?_⟩⟩
    refine bind_eq_ok.2 ⟨_, ranRuntime, bind_eq_ok.2 ⟨_, ranToggle, ?_⟩⟩
    have module' : enclosing.or ({} : Naming).module = naming.module := by
      rw [← sameModule]
      cases enclosing <;> rfl
    dsimp only
    rw [module', samePrefix, sameRecord, sameAggregator, sameRuntime, sameToggle]
    rfl

end Names

/-! ## Orders -/

theorem arrangement_eq_ok {table : Table} {arrangement : Arrangement} :
    Configuration.arrangement table = .ok arrangement ↔ DescribesOrders table arrangement := by
  have truth : ∀ default value, (∃ answer, optional boolean "order." table "strict" = .ok answer ∧
      answer.getD default = value) ↔
        Says table "strict" (fun written truth => written = .boolean truth) default value :=
    optional_getD fun _ _ => boolean_eq_ok
  have texts : ∀ key default value, (∃ answer, optional strings "order." table key = .ok answer ∧
      answer.getD default = value) ↔ Says table key MeansTexts default value :=
    fun key => optional_getD fun _ _ => strings_eq_ok
  constructor
  · intro h
    obtain ⟨⟨⟩, checked, h⟩ := bind_eq_ok.1 h
    obtain ⟨strict, ranStrict, h⟩ := bind_eq_ok.1 h
    obtain ⟨storage, ranStorage, h⟩ := bind_eq_ok.1 h
    obtain ⟨derivation, ranDerivation, h⟩ := bind_eq_ok.1 h
    obtain ⟨display, ranDisplay, h⟩ := bind_eq_ok.1 h
    cases h
    exact ⟨checkKeys_eq_ok.1 checked, (truth _ _).1 ⟨_, ranStrict, rfl⟩,
      (texts _ _ _).1 ⟨_, ranStorage, rfl⟩, (texts _ _ _).1 ⟨_, ranDerivation, rfl⟩,
      (texts _ _ _).1 ⟨_, ranDisplay, rfl⟩⟩
  · intro describes
    obtain ⟨strict, ranStrict, sameStrict⟩ := (truth _ _).2 describes.strict
    obtain ⟨storage, ranStorage, sameStorage⟩ := (texts _ _ _).2 describes.storage
    obtain ⟨derivation, ranDerivation, sameDerivation⟩ := (texts _ _ _).2 describes.derivation
    obtain ⟨display, ranDisplay, sameDisplay⟩ := (texts _ _ _).2 describes.display
    refine bind_eq_ok.2 ⟨(), checkKeys_eq_ok.2 describes.keys, bind_eq_ok.2 ⟨_, ranStrict, ?_⟩⟩
    refine bind_eq_ok.2 ⟨_, ranStorage, bind_eq_ok.2 ⟨_, ranDerivation, ?_⟩⟩
    refine bind_eq_ok.2 ⟨_, ranDisplay, ?_⟩
    rw [sameStrict, sameStorage, sameDerivation, sameDisplay]
    rfl

/-! ## Metrics -/

theorem ofWord?_eq_some {word : String} {kind : MetricKind} :
    MetricKind.ofWord? word = some kind ↔ word = kind.word := by
  constructor
  · intro found
    have same := List.find?_some (p := fun kind : MetricKind => kind.word == word) found
    exact (beq_iff_eq.1 same).symm
  · rintro rfl
    cases kind <;> rfl

theorem ofSymbol?_eq_some {symbol : String} {operator : Operator} :
    Operator.ofSymbol? symbol = some operator ↔ symbol = operator.symbol := by
  constructor
  · intro found
    have same := List.find?_some (p := fun operator : Operator => operator.symbol == symbol) found
    exact (beq_iff_eq.1 same).symm
  · rintro rfl
    cases operator <;> rfl

section Keys

variable {known fewer : List String} {table : Table} {key : String}

theorem KeysAmong.mono (among : KeysAmong fewer table) (subset : fewer ⊆ known) :
    KeysAmong known table := fun entry here => subset (among entry here)

theorem KeysAmong.lookup_eq_none (among : KeysAmong known table) (other : key ∉ known) :
    table.lookup key = none := by
  refine lookup_eq_none_of_not_mem fun there => ?_
  obtain ⟨entry, here, rfl⟩ := List.mem_map.1 there
  exact other (among entry here)

/-- A known key that is not there is not among the keys. -/
theorem KeysAmong.without (among : KeysAmong known table) (absent : table.lookup key = none) :
    KeysAmong (known.filter (· ≠ key)) table := by
  intro entry here
  have missed := bne_iff_ne.1 (List.lookup_eq_none_iff.1 absent entry here)
  exact List.mem_filter.2 ⟨among entry here, decide_eq_true missed.symm⟩

theorem optional_string_eq_ok {place : String} {answer : Option String} :
    optional string place table key = .ok answer ↔
      table.lookup key = answer.map Toml.Value.string := by
  unfold optional
  cases table.lookup key with
  | none =>
    constructor
    · intro given
      cases given
      rfl
    · intro same
      cases answer with
      | none => rfl
      | some text => cases same
  | some written =>
    constructor
    · intro given
      obtain ⟨text, ran, same⟩ := bind_eq_ok.1 given
      cases same
      exact congrArg some (string_eq_ok.1 ran)
    · intro same
      cases answer with
      | none => cases same
      | some text =>
        cases same
        rfl

end Keys

theorem baseMetric_eq_ok {name word : String} {table : Table} {metric : BaseMetric} :
    baseMetric name word table = .ok metric ↔
      table.lookup "operands" = none ∧ metric.name = name ∧ word = metric.kind.word := by
  obtain ⟨name', kind⟩ := metric
  unfold baseMetric
  constructor
  · intro given
    split at given
    · cases given
    · rename_i absent
      split at given
      · rename_i found
        cases given
        exact ⟨Option.not_isSome_iff_eq_none.1 absent, rfl, ofWord?_eq_some.1 found⟩
      · cases given
  · rintro ⟨absent, rfl, same⟩
    rw [absent, ofWord?_eq_some.2 same]
    rfl

theorem compoundMetric_eq_ok {name symbol : String} {table : Table} {metric : CompoundMetric} :
    compoundMetric name symbol table = .ok metric ↔
      metric.name = name ∧ symbol = metric.operator.symbol ∧
        table.lookup "operands" = some (textArray metric.operands) := by
  obtain ⟨name', operator, operands⟩ := metric
  unfold compoundMetric
  constructor
  · intro given
    split at given
    · cases given
    · rename_i found
      split at given
      · cases given
      · rename_i listed
        obtain ⟨texts, ran, same⟩ := bind_eq_ok.1 given
        cases same
        rw [listed, show _ = textArray operands from strings_eq_ok.1 ran]
        exact ⟨rfl, ofSymbol?_eq_some.1 found, rfl⟩
  · rintro ⟨rfl, same, listed⟩
    rw [ofSymbol?_eq_some.2 same, listed]
    exact bind_eq_ok.2 ⟨operands, strings_textArray _ _, rfl⟩

/-- A table is read as the metric that it describes. -/
theorem declaration_eq_ok {table : Table} {made : Declaration} :
    declaration table = .ok made ↔ DescribesMetric table made := by
  constructor
  · intro h
    obtain ⟨⟨⟩, checked, h⟩ := bind_eq_ok.1 h
    have keys := checkKeys_eq_ok.1 checked
    obtain ⟨name, ranName, h⟩ := bind_eq_ok.1 h
    have named := optional_string_eq_ok.1 ranName
    cases name with
    | none => cases h
    | some name =>
      obtain ⟨kind, ranKind, h⟩ := bind_eq_ok.1 h
      obtain ⟨symbol, ranSymbol, h⟩ := bind_eq_ok.1 h
      have kinded := optional_string_eq_ok.1 ranKind
      have operated := optional_string_eq_ok.1 ranSymbol
      cases kind with
      | none =>
        cases symbol with
        | none => cases h
        | some symbol =>
          obtain ⟨metric, given, same⟩ := bind_eq_ok.1 h
          cases same
          obtain ⟨rfl, rfl, listed⟩ := compoundMetric_eq_ok.1 given
          exact ⟨keys.without kinded, named, operated, listed⟩
      | some word =>
        cases symbol with
        | some symbol => cases h
        | none =>
          obtain ⟨metric, given, same⟩ := bind_eq_ok.1 h
          cases same
          obtain ⟨absent, rfl, rfl⟩ := baseMetric_eq_ok.1 given
          exact ⟨(keys.without operated).without absent, named, kinded⟩
  · intro describes
    cases made with
    | base metric =>
      obtain ⟨keys, named, kinded⟩ := describes
      have operated : table.lookup "op" = none := keys.lookup_eq_none (by decide)
      have absent : table.lookup "operands" = none := keys.lookup_eq_none (by decide)
      refine bind_eq_ok.2 ⟨(), checkKeys_eq_ok.2 (keys.mono (by decide)), ?_⟩
      refine bind_eq_ok.2 ⟨some metric.name, optional_string_eq_ok.2 named, ?_⟩
      refine bind_eq_ok.2 ⟨some metric.kind.word, optional_string_eq_ok.2 kinded, ?_⟩
      refine bind_eq_ok.2 ⟨none, optional_string_eq_ok.2 operated, ?_⟩
      exact bind_eq_ok.2 ⟨metric, baseMetric_eq_ok.2 ⟨absent, rfl, rfl⟩, rfl⟩
    | compound metric =>
      obtain ⟨keys, named, operated, listed⟩ := describes
      have kinded : table.lookup "kind" = none := keys.lookup_eq_none (by decide)
      refine bind_eq_ok.2 ⟨(), checkKeys_eq_ok.2 (keys.mono (by decide)), ?_⟩
      refine bind_eq_ok.2 ⟨some metric.name, optional_string_eq_ok.2 named, ?_⟩
      refine bind_eq_ok.2 ⟨none, optional_string_eq_ok.2 kinded, ?_⟩
      refine bind_eq_ok.2 ⟨some metric.operator.symbol, optional_string_eq_ok.2 operated, ?_⟩
      exact bind_eq_ok.2 ⟨metric, compoundMetric_eq_ok.2 ⟨rfl, rfl, listed⟩, rfl⟩

theorem declarations_eq_ok {written : Toml.Value} {made : List Declaration} :
    declarations written = .ok made ↔ DescribesMetrics written made := by
  constructor
  · intro h
    cases written with
    | array elements =>
      have each := mapM_eq_ok_iff.1
        (show (elements.mapM fun element => table "metric" element >>= declaration) = .ok made
          from h)
      clear h
      induction each with
      | nil => exact ⟨[], rfl, .nil⟩
      | cons first _ ih =>
        obtain ⟨tables, same, describe⟩ := ih
        obtain ⟨table, ran, given⟩ := bind_eq_ok.1 first
        cases same
        cases table_eq_ok.1 ran
        exact ⟨table :: tables, rfl, .cons (declaration_eq_ok.1 given) describe⟩
    | _ => cases h
  · rintro ⟨tables, rfl, describe⟩
    refine mapM_eq_ok_iff.2 (List.forall₂_map_left_iff.2 (describe.imp ?_))
    intro table made describes
    exact bind_eq_ok.2 ⟨table, rfl, declaration_eq_ok.2 describes⟩

/-! ## Overrides -/

theorem overrideList_eq_ok {table : Table} {overrides : List Override} :
    overrideList table = .ok overrides ↔ DescribesOverrides table overrides := by
  have single : ∀ (entry : String × Toml.Value) (override : Override),
      (string ("overrides." ++ entry.1) entry.2 >>= fun text =>
        path ("overrides." ++ entry.1) text >>= fun target =>
          pure (Override.mk entry.1 target)) = .ok override ↔
        entry.1 = override.hook ∧ MeansPath entry.2 override.target := by
    rintro ⟨hook, written⟩ ⟨hook', target⟩
    constructor
    · intro h
      obtain ⟨text, ran, h⟩ := bind_eq_ok.1 h
      obtain ⟨path, located, same⟩ := bind_eq_ok.1 h
      cases same
      exact ⟨rfl, text, string_eq_ok.1 ran, path_eq_ok.1 located⟩
    · rintro ⟨rfl, text, rfl, read⟩
      exact bind_eq_ok.2 ⟨text, rfl, bind_eq_ok.2 ⟨target, path_eq_ok.2 read, rfl⟩⟩
  unfold overrideList DescribesOverrides
  rw [mapM_eq_ok_iff]
  exact ⟨fun each => each.imp fun entry override => (single entry override).1,
    fun each => each.imp fun entry override => (single entry override).2⟩

/-! ## Documents -/

/-- What a table is decoded to, or a default if there is none. -/
def decodedOr {α : Type} (decode : Table → Decoded α) (default : α) : Option Table → Decoded α
  | some table => decode table
  | none => .ok default

/-- A table under a key of a document, or else a default. -/
theorem decodedOr_eq_ok {α : Type} (document : Table) (key : String) (decode : Table → Decoded α)
    (Describe : Table → α → Prop)
    (describes : ∀ table value, decode table = .ok value ↔ Describe table value)
    (default value : α) :
    (∃ answer, optional table "" document key = .ok answer ∧
      decodedOr decode default answer = .ok value) ↔
      Says document key (fun written value => IsTable (Describe · value) written) default
        value := by
  unfold optional Says
  cases document.lookup key with
  | none =>
    constructor
    · rintro ⟨answer, given, same⟩
      cases given
      cases same
      rfl
    · rintro rfl
      exact ⟨none, rfl, rfl⟩
  | some written =>
    constructor
    · rintro ⟨answer, given, decoded⟩
      obtain ⟨table, ran, same⟩ := bind_eq_ok.1 given
      cases same
      exact ⟨table, table_eq_ok.1 ran, (describes _ _).1 decoded⟩
    · rintro ⟨table, rfl, described⟩
      exact ⟨some table, rfl, (describes _ _).2 described⟩

/-- The declarations of a document, if it has any. -/
def metricsOf (document : Table) : Decoded (List Declaration) :=
  match document.lookup "metric" with
  | some metrics => declarations metrics
  | none => .ok []

theorem metricsOf_eq_ok {document : Table} {made : List Declaration} :
    metricsOf document = .ok made ↔ Says document "metric" DescribesMetrics [] made := by
  unfold metricsOf Says
  cases document.lookup "metric" with
  | none =>
    constructor
    · intro same
      cases same
      rfl
    · rintro rfl
      rfl
  | some written => exact declarations_eq_ok

theorem decodedOr_bind {α β : Type} (decode : Table → Decoded α) (default : α)
    (answer : Option Table) (next : α → Decoded β) :
    decodedOr decode default answer >>= next =
      match answer with
      | some table => decode table >>= next
      | none => next default := by
  cases answer <;> rfl

theorem metricsOf_bind {β : Type} (document : Table) (next : List Declaration → Decoded β) :
    metricsOf document >>= next =
      match document.lookup "metric" with
      | some metrics => declarations metrics >>= next
      | none => next [] := by
  unfold metricsOf
  cases document.lookup "metric" <;> rfl

/-- The steps of reading a document. -/
theorem ofTable_eq (document : Table) :
    ofTable document =
      (checkKeys "" ["naming", "order", "metric", "overrides"] document >>= fun _ =>
        optional table "" document "naming" >>= fun named =>
        decodedOr names ({}, .enabled) named >>= fun called =>
        metricsOf document >>= fun declarations =>
        optional table "" document "order" >>= fun ordered =>
        decodedOr arrangement {} ordered >>= fun arrangement =>
        optional table "" document "overrides" >>= fun overridden =>
        decodedOr overrideList [] overridden >>= fun overrides =>
        .ok { schema := { declarations, arrangement }, naming := called.1,
              instrumentation := called.2, overrides }) := by
  simp only [decodedOr_bind, metricsOf_bind]
  rfl

/-- Reading a document answers the configuration that it describes. -/
theorem ofTable_eq_ok {document : Table} {configuration : Configuration} :
    ofTable document = .ok configuration ↔ Describes document configuration := by
  have naming := decodedOr_eq_ok document "naming" names
    (fun table value => DescribesNames table value.1 value.2) (fun _ _ => names_eq_ok)
    ({}, .enabled)
  have order := decodedOr_eq_ok document "order" arrangement DescribesOrders
    (fun _ _ => arrangement_eq_ok) {}
  have overrides := decodedOr_eq_ok document "overrides" overrideList DescribesOverrides
    (fun _ _ => overrideList_eq_ok) []
  rw [ofTable_eq]
  constructor
  · intro h
    obtain ⟨⟨⟩, checked, h⟩ := bind_eq_ok.1 h
    obtain ⟨named, ranNaming, h⟩ := bind_eq_ok.1 h
    obtain ⟨⟨naming', instrumentation⟩, decodedNaming, h⟩ := bind_eq_ok.1 h
    obtain ⟨declarations, decodedMetrics, h⟩ := bind_eq_ok.1 h
    obtain ⟨ordered, ranOrder, h⟩ := bind_eq_ok.1 h
    obtain ⟨arrangement, decodedOrder, h⟩ := bind_eq_ok.1 h
    obtain ⟨overridden, ranOverrides, h⟩ := bind_eq_ok.1 h
    obtain ⟨overrides', decodedOverrides, h⟩ := bind_eq_ok.1 h
    cases h
    exact ⟨checkKeys_eq_ok.1 checked, (naming _).1 ⟨_, ranNaming, decodedNaming⟩,
      metricsOf_eq_ok.1 decodedMetrics, (order _).1 ⟨_, ranOrder, decodedOrder⟩,
      (overrides _).1 ⟨_, ranOverrides, decodedOverrides⟩⟩
  · intro describes
    obtain ⟨named, ranNaming, decodedNaming⟩ := (naming (_, _)).2 describes.naming
    obtain ⟨ordered, ranOrder, decodedOrder⟩ := (order _).2 describes.order
    obtain ⟨overridden, ranOverrides, decodedOverrides⟩ := (overrides _).2 describes.overrides
    refine bind_eq_ok.2 ⟨(), checkKeys_eq_ok.2 describes.keys, bind_eq_ok.2 ⟨_, ranNaming, ?_⟩⟩
    refine bind_eq_ok.2 ⟨_, decodedNaming, ?_⟩
    refine bind_eq_ok.2 ⟨_, metricsOf_eq_ok.2 describes.metrics, ?_⟩
    refine bind_eq_ok.2 ⟨_, ranOrder, bind_eq_ok.2 ⟨_, decodedOrder, ?_⟩⟩
    exact bind_eq_ok.2 ⟨_, ranOverrides, bind_eq_ok.2 ⟨_, decodedOverrides, rfl⟩⟩

end StatSchema.Configuration
