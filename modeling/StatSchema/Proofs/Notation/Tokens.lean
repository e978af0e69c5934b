/-
The tokens of an outline, wherever they are placed, are read as a definition of it. Each piece of
tokens is shown to be a phrase of its production whatever comes behind it; paths alone look at what
comes behind them. Main statement: `Outline.ofTokens_eq_ok`.
-/
import StatSchema.Proofs.Definition.Meaning
import StatSchema.Proofs.Notation.Outline
import StatSchema.Proofs.Quotation

namespace StatSchema

open Token Lookahead

namespace Definition

/-! ## Entries -/

/-- Tokens that are, wherever they are placed, a phrase that means something, if what is behind it
`follows`. -/
def Spells {α : Type} (production : Production α) (follows : List Placed → Prop)
    (tokens : List Token) (means : α → Prop) : Prop :=
  ∀ placed : List Placed, placed.map (·.token) = tokens →
    ∃ value, means value ∧ ∀ rest, follows rest → production (placed ++ rest) value rest

section Entries

variable {follows : List Placed → Prop}

theorem spells_string (text : String) :
    Spells StringPhrase follows [Token.string text] (·.text = text) := by
  intro placed spelled
  obtain ⟨span, _, rfl, ended⟩ := placed_cons spelled
  obtain rfl := List.map_eq_nil_iff.1 ended
  exact ⟨⟨text, span⟩, rfl, fun rest _ => .mk (stringValue?_literal text) span rest⟩

theorem spells_identifier {text : String} (free : Identifier.keywords.contains text = false) :
    Spells IdentifierPhrase follows [.identifier text] (·.text = text) := by
  intro placed spelled
  obtain ⟨span, _, rfl, ended⟩ := placed_cons spelled
  obtain rfl := List.map_eq_nil_iff.1 ended
  exact ⟨⟨text, span⟩, rfl, fun rest _ => .mk free span rest⟩

theorem spells_path (written : WrittenPath) :
    Spells PathPhrase PhraseEnds written.tokens (· = ⟨written.path, none⟩) :=
  fun _ spelled => ⟨_, rfl, fun _ ends => written.reads spelled ends⟩

theorem spells_baseMetric (metric : BaseMetric) :
    Spells BaseEntry follows metric.tokens (·.declaration = .base metric) := by
  intro placed spelled
  obtain ⟨span, _, rfl, marked⟩ := placed_cons spelled
  obtain ⟨place, _, rfl, worded⟩ := placed_cons marked
  obtain ⟨place', _, rfl, ended⟩ := placed_cons worded
  obtain rfl := List.map_eq_nil_iff.1 ended
  refine ⟨⟨⟨metric.name, span⟩, metric.kind⟩, rfl, fun rest _ => ?_⟩
  have free : Identifier.keywords.contains metric.kind.word = false := by
    cases metric.kind <;> rfl
  have known : MetricKind.ofWord? metric.kind.word = some metric.kind := by
    cases metric.kind <;> rfl
  exact .mk (.mk (stringValue?_literal _) span _) (.mk _ place _) (.mk free place' rest) known

theorem spells_operands (operator : Operator) (operands : List String) :
    Spells (FurtherOperands operator) follows (operandTokens operator operands)
      (·.map (·.text) = operands) := by
  intro placed spelled
  induction operands generalizing placed with
  | nil =>
    obtain rfl := List.map_eq_nil_iff.1 spelled
    exact ⟨[], rfl, fun rest _ => .nil rest⟩
  | cons operand operands ih =>
    obtain ⟨place, _, rfl, named⟩ := placed_cons spelled
    obtain ⟨span, behind, rfl, later⟩ := placed_cons named
    obtain ⟨others, same, phrase⟩ := ih _ later
    refine ⟨⟨operand, span⟩ :: others, congrArg (operand :: ·) same, fun rest follow => ?_⟩
    have begun : StringPhrase (⟨Token.string operand, span⟩ :: (behind ++ rest)) ⟨operand, span⟩
        (behind ++ rest) := .mk (stringValue?_literal operand) span _
    cases operator with
    | add =>
      have spelled : Operator.add.symbol = .singleton '+' := rfl
      exact .cons spelled (.mk .alone place _) begun (phrase rest follow)
    | subtract =>
      have spelled : Operator.subtract.symbol = .singleton '-' := rfl
      exact .cons spelled (.mk .alone place _) begun (phrase rest follow)
    | divide =>
      have spelled : Operator.divide.symbol = .singleton '/' := rfl
      exact .cons spelled (.mk .alone place _) begun (phrase rest follow)

theorem spells_compoundMetric {metric : CompoundMetric} (enough : 2 ≤ metric.operands.length) :
    Spells CompoundEntry follows metric.tokens (·.declaration = .compound metric) := by
  obtain ⟨name, operator, operands⟩ := metric
  obtain ⟨first, second, others, rfl⟩ : ∃ first second others, operands = first :: second :: others := by
    match operands, enough with
    | first :: second :: others, _ => exact ⟨first, second, others, rfl⟩
  intro placed spelled
  obtain ⟨span, _, rfl, marked⟩ := placed_cons spelled
  obtain ⟨place, _, rfl, named⟩ := placed_cons marked
  obtain ⟨span', _, rfl, later⟩ := placed_cons named
  have operands : Spells _ follows _ _ := spells_operands operator (second :: others)
  obtain ⟨more, same, phrase⟩ := operands _ later
  refine ⟨⟨⟨name, span⟩, operator, ⟨first, span'⟩ :: more⟩, ?_, fun rest follow => ?_⟩
  · simp [CompoundLine.declaration, same]
  · refine .mk (.mk (stringValue?_literal name) span _) (.mk _ place _)
      (.mk (stringValue?_literal first) span' _) (phrase rest follow) ?_
    rintro rfl
    cases same

theorem spells_override (entry : String × WrittenPath) :
    Spells OverrideEntry PhraseEnds (overrideTokens entry)
      fun line => line.override = overrideBy entry ∧ line.target.leftover = none := by
  intro placed spelled
  obtain ⟨span, _, rfl, marked⟩ := placed_cons spelled
  obtain ⟨place, _, rfl, given⟩ := placed_cons marked
  obtain ⟨_, rfl, phrase⟩ := spells_path entry.2 _ given
  refine ⟨⟨⟨entry.1, span⟩, ⟨entry.2.path, none⟩⟩, ⟨rfl, rfl⟩, fun rest follow => ?_⟩
  exact .mk (.inl (.mk (stringValue?_literal _) span _)) (.mk _ place _) (phrase rest follow)

end Entries

/-! ## Lists -/

section Lists

variable {α β : Type} {production : Production β} {write : α → List Token} {means : α → β → Prop}

theorem spells_entries {entries : List α} (each : ∀ entry ∈ entries,
    Spells production PhraseEnds (write entry) (means entry)) {follows : List Placed → Prop} :
    Spells (Entries production) follows (entryTokens write entries)
      (List.Forall₂ means entries) := by
  intro placed spelled
  induction entries generalizing placed with
  | nil =>
    obtain rfl := List.map_eq_nil_iff.1 spelled
    exact ⟨[], .nil, fun rest _ => .nil rest⟩
  | cons entry entries ih =>
    rw [entryTokens, List.flatMap_cons, List.append_assoc] at spelled
    obtain ⟨front, _, rfl, written, marked⟩ := List.map_eq_append_iff.1 spelled
    obtain ⟨place, behind, rfl, later⟩ := placed_cons marked
    obtain ⟨value, meant, phrase⟩ := each entry List.mem_cons_self _ written
    obtain ⟨values, all, phrases⟩ :=
      ih (fun other here => each other (List.mem_cons_of_mem _ here)) _ later
    refine ⟨value :: values, .cons meant all, fun rest follow => ?_⟩
    rw [List.append_assoc]
    -- the comma is where the path in an entry ends, so even the last entry has one
    have first := phrase (⟨mark ',', place⟩ :: (behind ++ rest)) (.inr (.inl rfl))
    exact .cons first (.mk _ place _) (phrases rest follow)

theorem spells_block {entries : List α} (each : ∀ entry ∈ entries,
    Spells production PhraseEnds (write entry) (means entry)) (delimiter : Delimiter)
    {follows : List Placed → Prop} :
    Spells (Block production delimiter) follows
      (.opening delimiter :: entryTokens write entries ++ [.closing delimiter])
      (List.Forall₂ means entries) := by
  intro placed spelled
  obtain ⟨start, _, rfl, inside⟩ := placed_cons spelled
  obtain ⟨front, _, rfl, written, closed⟩ := List.map_eq_append_iff.1 inside
  obtain ⟨stop, _, rfl, ended⟩ := placed_cons closed
  obtain rfl := List.map_eq_nil_iff.1 ended
  have inner : Spells _ (fun _ => True) _ _ := spells_entries each
  obtain ⟨values, all, phrases⟩ := inner _ written
  refine ⟨values, all, fun rest _ => .plain ?_⟩
  rw [List.cons_append, List.append_assoc]
  exact .mk start stop (phrases _ trivial)

end Lists

theorem spells_assigned {α : Type} {production : Production α} {value : List Token}
    {means : α → Prop} (given : Spells production PhraseEnds value means)
    {follows : List Placed → Prop} :
    Spells (Assigned production) follows (mark '=' :: value ++ [mark ';']) means := by
  intro placed spelled
  obtain ⟨place, _, rfl, inside⟩ := placed_cons spelled
  obtain ⟨front, _, rfl, written, closed⟩ := List.map_eq_append_iff.1 inside
  obtain ⟨place', _, rfl, ended⟩ := placed_cons closed
  obtain rfl := List.map_eq_nil_iff.1 ended
  obtain ⟨answer, meant, phrase⟩ := given _ written
  refine ⟨answer, meant, fun rest _ => ?_⟩
  rw [List.cons_append, List.append_assoc]
  exact .mk (.mk _ place _) (phrase _ (.inr (.inr rfl))) (.mk _ place' rest)

/-! ## Settings -/

/-- Tokens that are, wherever they are placed, a setting that means something, with nothing left
over. -/
def SpellsSetting (tokens : List Token) (means : Setting → Prop) : Prop :=
  ∀ placed : List Placed, placed.map (·.token) = tokens →
    ∃ setting span body, placed = ⟨.identifier setting.word, span⟩ :: body ∧ means setting ∧
      leftover? setting = none ∧ ∀ rest, SettingBody (body ++ rest) setting rest

/-- A word and what follows it are a setting. -/
theorem spellsSetting_of_body {α : Type} {production : Production α} {tokens : List Token}
    {means : α → Prop} (of : α → Setting) {word : String}
    (spells : Spells production (fun _ => True) tokens means)
    (begins : ∀ value, (of value).word = word)
    (body : ∀ {source value rest}, production source value rest →
      SettingBody source (of value) rest)
    (whole : ∀ value, means value → leftover? (of value) = none) :
    SpellsSetting (.identifier word :: tokens) fun setting =>
      ∃ value, means value ∧ setting = of value := by
  intro placed spelled
  obtain ⟨span, behind, rfl, later⟩ := placed_cons spelled
  obtain ⟨value, meant, phrase⟩ := spells _ later
  refine ⟨of value, span, behind, ?_, ⟨value, meant, rfl⟩, whole value meant, fun rest => ?_⟩
  · rw [begins value]
  · exact body (phrase rest trivial)

/-- Clauses one after the other are a list of settings. -/
theorem settings_of_clauses {clauses : List (List Token)} {meanings : List (Setting → Prop)}
    (each : List.Forall₂ SpellsSetting clauses meanings) {placed : List Placed}
    (spelled : placed.map (·.token) = clauses.flatten) :
    ∃ given, Settings placed given ∧ (∀ setting ∈ given, leftover? setting = none) ∧
      List.Forall₂ (fun means setting => means setting) meanings given := by
  induction each generalizing placed with
  | nil =>
    obtain rfl := List.map_eq_nil_iff.1 spelled
    exact ⟨[], .nil, List.forall_mem_nil _, .nil⟩
  | cons clause others ih =>
    rw [List.flatten_cons] at spelled
    obtain ⟨front, rest, rfl, written, later⟩ := List.map_eq_append_iff.1 spelled
    obtain ⟨setting, span, body, rfl, meant, whole, phrase⟩ := clause _ written
    obtain ⟨given, more, wholes, all⟩ := ih later
    exact ⟨setting :: given, .cons span (phrase rest) more,
      List.forall_mem_cons.2 ⟨whole, wholes⟩, .cons meant all⟩

theorem SpellsSetting.imp {tokens : List Token} {means means' : Setting → Prop}
    (spells : SpellsSetting tokens means) (weaker : ∀ setting, means setting → means' setting) :
    SpellsSetting tokens means' := by
  intro placed spelled
  obtain ⟨setting, span, body, begins, meant, rest⟩ := spells _ spelled
  exact ⟨setting, span, body, begins, weaker setting meant, rest⟩

/-! ## Outlines -/

/-- A setting whose value is an identifier. -/
theorem spellsSetting_identifier {text word : String} {of : String → Setting}
    (free : Identifier.keywords.contains text = false) (begins : ∀ name, (of name).word = word)
    (body : ∀ {source : List Placed} {name : Written} {rest : List Placed},
      Assigned IdentifierPhrase source name rest → SettingBody source (of name.text) rest)
    (whole : ∀ name, leftover? (of name) = none) :
    SpellsSetting (assignedTokens word [.identifier text]) (· = of text) := by
  have value := spellsSetting_of_body (fun name : Written => of name.text)
    (spells_assigned (spells_identifier free)) (fun _ => begins _) body fun _ _ => whole _
  refine value.imp ?_
  rintro _ ⟨name, rfl, rfl⟩
  rfl

theorem spellsSetting_hookPrefix (text : String) :
    SpellsSetting (assignedTokens "hook_prefix" [Token.string text]) (· = .hookPrefix text) := by
  have value := spellsSetting_of_body (fun written : Written => .hookPrefix written.text)
    (spells_assigned (spells_string text)) (fun _ => rfl) .hookPrefix fun _ _ => rfl
  refine value.imp ?_
  rintro _ ⟨written, rfl, rfl⟩
  rfl

theorem spellsSetting_runtime (written : WrittenPath) :
    SpellsSetting (assignedTokens "runtime" written.tokens) (· = .runtime ⟨written.path, none⟩) := by
  have value := spellsSetting_of_body .runtime (spells_assigned (spells_path written))
    (fun _ => rfl) .runtime fun reading (same : reading = ⟨written.path, none⟩) => by rw [same]; rfl
  refine value.imp ?_
  rintro _ ⟨reading, rfl, rfl⟩
  rfl

theorem spellsSetting_base (metrics : List BaseMetric) :
    SpellsSetting (blockTokens "base" .brace BaseMetric.tokens metrics) fun setting =>
      ∃ lines, lines.map (·.declaration) = metrics.map .base ∧ setting = .base lines := by
  have block := spellsSetting_of_body .base
    (spells_block (fun metric (_ : metric ∈ metrics) => spells_baseMetric metric) .brace)
    (fun _ => rfl) .base fun _ _ => rfl
  refine block.imp ?_
  rintro _ ⟨lines, all, rfl⟩
  exact ⟨lines, map_eq_of_forall₂ (List.forall₂_map_left_iff.2 all), rfl⟩

theorem spellsSetting_compound {metrics : List CompoundMetric}
    (enough : ∀ metric ∈ metrics, 2 ≤ metric.operands.length) :
    SpellsSetting (blockTokens "compound" .brace CompoundMetric.tokens metrics) fun setting =>
      ∃ lines, lines.map (·.declaration) = metrics.map .compound ∧ setting = .compound lines := by
  have block := spellsSetting_of_body .compound
    (spells_block (fun metric here => spells_compoundMetric (enough metric here)) .brace)
    (fun _ => rfl) .compound fun _ _ => rfl
  refine block.imp ?_
  rintro _ ⟨lines, all, rfl⟩
  exact ⟨lines, map_eq_of_forall₂ (List.forall₂_map_left_iff.2 all), rfl⟩

theorem spellsSetting_order (which : MetricOrder) (names : List String) :
    SpellsSetting (orderTokens which names) (· = .order which names) := by
  have block := spellsSetting_of_body (fun written => .order which (written.map (·.text)))
    (spells_block (fun name (_ : name ∈ names) => spells_string name) .bracket)
    (fun _ => rfl) (.order which) fun _ _ => rfl
  refine block.imp ?_
  rintro _ ⟨written, all, rfl⟩
  rw [map_eq_of_forall₂ all]

theorem spellsSetting_overrides (entries : List (String × WrittenPath)) :
    SpellsSetting (blockTokens "overrides" .brace overrideTokens entries) fun setting =>
      ∃ lines, lines.map (·.override) = entries.map overrideBy ∧ setting = .overrides lines := by
  have block := spellsSetting_of_body .overrides
    (spells_block (fun entry (_ : entry ∈ entries) => spells_override entry) .brace)
    (fun _ => rfl) .overrides fun lines all => List.findSome?_eq_none_iff.2
      (forall_mem_of_forall₂ (all.imp fun _ _ meant => meant.2))
  refine block.imp ?_
  rintro _ ⟨lines, all, rfl⟩
  refine ⟨lines, map_eq_of_forall₂ (List.forall₂_map_left_iff.2 ?_), rfl⟩
  exact all.imp fun _ _ meant => meant.1

theorem spellsSetting_strict :
    SpellsSetting [.identifier "strict_orderings", mark ';'] (· = .strictOrderings) := by
  intro placed spelled
  obtain ⟨span, _, rfl, marked⟩ := placed_cons spelled
  obtain ⟨place, _, rfl, ended⟩ := placed_cons marked
  obtain rfl := List.map_eq_nil_iff.1 ended
  exact ⟨.strictOrderings, span, _, rfl, rfl, rfl, fun rest => .strictOrderings (.mk _ place rest)⟩

end Definition

namespace Outline

open Definition

variable (outline : Outline)

/-- The settings of an outline, with lines for the metrics and overrides of it. -/
def settings (bases : List BaseLine) (compounds : List CompoundLine)
    (overrides : List OverrideLine) : List Setting :=
  [.record outline.record, .aggregator outline.aggregator, .hookPrefix outline.hookPrefix,
    .runtime ⟨outline.runtime.path, none⟩, .base bases, .compound compounds,
    .order .storage outline.arrangement.storage, .order .derivation outline.arrangement.derivation,
    .order .display outline.arrangement.display, .overrides overrides] ++
  outline.module.toList.map .module ++
  if outline.arrangement.strict then [.strictOrderings] else []

/-- What each clause of an outline means. -/
def meanings : List (Setting → Prop) :=
  [(· = .record outline.record), (· = .aggregator outline.aggregator),
    (· = .hookPrefix outline.hookPrefix), (· = .runtime ⟨outline.runtime.path, none⟩),
    fun setting => ∃ lines, lines.map (·.declaration) = outline.bases.map .base ∧
      setting = .base lines,
    fun setting => ∃ lines, lines.map (·.declaration) = outline.compounds.map .compound ∧
      setting = .compound lines,
    (· = .order .storage outline.arrangement.storage),
    (· = .order .derivation outline.arrangement.derivation),
    (· = .order .display outline.arrangement.display),
    fun setting => ∃ lines, lines.map (·.override) = outline.overrides.map overrideBy ∧
      setting = .overrides lines] ++
  outline.module.toList.map (fun name setting => setting = .module name) ++
  if outline.arrangement.strict then [(· = .strictOrderings)] else []

theorem clauses_spell : List.Forall₂ SpellsSetting outline.clauses outline.meanings := by
  have free := outline.identifiers
  refine List.rel_append (List.rel_append ?_ ?_) ?_
  · have record := free outline.record List.mem_cons_self
    have aggregator := free outline.aggregator (List.mem_cons_of_mem _ List.mem_cons_self)
    refine .cons (spellsSetting_identifier record (fun _ => rfl) .record fun _ => rfl) ?_
    refine .cons (spellsSetting_identifier aggregator (fun _ => rfl) .aggregator fun _ => rfl) ?_
    refine .cons (spellsSetting_hookPrefix _) (.cons (spellsSetting_runtime _) ?_)
    refine .cons (spellsSetting_base _) (.cons (spellsSetting_compound outline.operands) ?_)
    refine .cons (spellsSetting_order _ _) (.cons (spellsSetting_order _ _) ?_)
    exact .cons (spellsSetting_order _ _) (.cons (spellsSetting_overrides _) .nil)
  · cases named : outline.module with
    | none => exact .nil
    | some name =>
      have module := free name (by rw [named]; simp)
      exact .cons (spellsSetting_identifier module (fun _ => rfl) .module fun _ => rfl) .nil
  · split
    · exact .cons spellsSetting_strict .nil
    · exact .nil

theorem settings_of_meanings {given : List Setting}
    (all : List.Forall₂ (fun means setting => means setting) outline.meanings given) :
    ∃ bases compounds overrides, given = outline.settings bases compounds overrides ∧
      bases.map (·.declaration) = outline.bases.map .base ∧
      compounds.map (·.declaration) = outline.compounds.map .compound ∧
      overrides.map (·.override) = outline.overrides.map overrideBy := by
  unfold meanings at all
  simp only [List.cons_append, List.nil_append, List.forall₂_cons_left_iff] at all
  obtain ⟨_, _, rfl, ⟨_, _, rfl, ⟨_, _, rfl, ⟨_, _, rfl, ⟨_, _, ⟨bases, based, rfl⟩, ⟨_, _,
    ⟨compounds, derived, rfl⟩, ⟨_, _, rfl, ⟨_, _, rfl, ⟨_, _, rfl, ⟨_, others, ⟨overrides, replaced,
    rfl⟩, all, rfl⟩, rfl⟩, rfl⟩, rfl⟩, rfl⟩, rfl⟩, rfl⟩, rfl⟩, rfl⟩, rfl⟩ := all
  refine ⟨bases, compounds, overrides, ?_, based, derived, replaced⟩
  have optional : others = outline.module.toList.map .module ++
      if outline.arrangement.strict then [.strictOrderings] else [] := by
    revert all
    cases outline.module <;> cases outline.arrangement.strict <;>
      simp [List.forall₂_cons_left_iff]
  rw [optional]
  rfl

/-- The settings of an outline mean its schema, its names and its overrides. -/
theorem meaning_settings {bases : List BaseLine} {compounds : List CompoundLine}
    {overrides : List OverrideLine} (based : bases.map (·.declaration) = outline.bases.map .base)
    (derived : compounds.map (·.declaration) = outline.compounds.map .compound)
    (replaced : overrides.map (·.override) = outline.overrides.map overrideBy) :
    (meaning (outline.settings bases compounds overrides)).schema = outline.schema ∧
      (meaning (outline.settings bases compounds overrides)).naming = outline.naming ∧
      (meaning (outline.settings bases compounds overrides)).overrides =
        outline.overrides.map overrideBy := by
  refine ⟨?_, ?_, ?_⟩
  · unfold schema meaning settings
    obtain ⟨storage, derivation, display, strict⟩ := outline.arrangement
    cases outline.module <;> cases strict <;> simp [List.findSome?_cons, based, derived]
  · unfold naming meaning settings
    cases outline.module <;> cases outline.arrangement.strict <;> rfl
  · unfold meaning settings
    cases outline.module <;> cases outline.arrangement.strict <;> simp [replaced]

theorem nodup_words (bases : List BaseLine) (compounds : List CompoundLine)
    (overrides : List OverrideLine) :
    ((outline.settings bases compounds overrides).map Setting.word).Nodup := by
  unfold settings
  cases outline.module <;> cases outline.arrangement.strict <;>
    simp [Setting.word, MetricOrder.word]

/-- The tokens of an outline, wherever they are placed, are read as its schema, its names and its
overrides. -/
theorem ofTokens_eq_ok {placed : List Placed} (spelled : placed.map (·.token) = outline.tokens) :
    ∃ definition, ofTokens placed = .ok definition ∧ definition.schema = outline.schema ∧
      definition.naming = outline.naming ∧
      definition.overrides = outline.overrides.map overrideBy := by
  obtain ⟨given, phrase, whole, all⟩ := settings_of_clauses outline.clauses_spell spelled
  obtain ⟨bases, compounds, overrides, rfl, based, derived, replaced⟩ :=
    outline.settings_of_meanings all
  have distinct := outline.nodup_words bases compounds overrides
  have read := settings_complete phrase distinct (fun _ _ => List.not_mem_nil) (Nat.le_refl _)
  refine ⟨_, ?_, outline.meaning_settings based derived replaced⟩
  unfold ofTokens
  rw [read]
  dsimp only
  rw [List.findSome?_eq_none_iff.2 whole, ofSettings_eq_meaning distinct]

end Outline

end StatSchema
