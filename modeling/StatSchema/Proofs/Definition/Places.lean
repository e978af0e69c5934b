/-
Where errors of definitions point. A definition writes names to declare metrics, to override hooks, as
operands and in the orders that it lists. Main statement: an error that refuses the schema points at
the first place where its subject is declared or overridden, else at the first place where it is an
operand, else at the definition as a whole. Places come in the order of the tokens, whichever setting
they are in.
-/
import StatSchema.Definition.Expansion
import StatSchema.Proofs.Definition.Meaning

namespace StatSchema

open Token

/-! ## Occurrences of names -/

/-- What a name is written for. -/
inductive Role where
  | base
  | compound
  | hook
  | operand
  deriving DecidableEq, Repr

/-- Whether what is written declares a metric or overrides a hook. -/
def Role.introduces (role : Role) : Bool := role != .operand

theorem Role.introduces_or_operand (role : Role) :
    role.introduces = true ∨ (role == .operand) = true := by
  cases role <;> decide

/-- A name where it is written. -/
structure Occurrence where
  role : Role
  name : Written
  deriving DecidableEq, Repr

/-- The name in a line. -/
def BaseLine.occurrences (line : BaseLine) : List Occurrence := [⟨.base, line.name⟩]

/-- The names in a line, in the order in which they are written. -/
def CompoundLine.occurrences (line : CompoundLine) : List Occurrence :=
  ⟨.compound, line.name⟩ :: line.operands.map (⟨.operand, ·⟩)

/-- The name in a line. -/
def OverrideLine.occurrences (line : OverrideLine) : List Occurrence := [⟨.hook, line.hook⟩]

/-- The names in a setting, in the order in which they are written. Those of a listed order do not
count. -/
def Setting.occurrences : Setting → List Occurrence
  | base lines => lines.flatMap (·.occurrences)
  | compound lines => lines.flatMap (·.occurrences)
  | overrides lines => lines.flatMap (·.occurrences)
  | _ => []

/-- An occurrence is the first one of a name in certain roles. -/
structure Occurrence.IsFirst (wanted : Role → Bool) (name : String) (occurrences : List Occurrence)
    (first : Occurrence) : Prop where
  role : wanted first.role = true
  text : first.name.text = name
  before : ∃ front back, occurrences = front ++ first :: back ∧
    ∀ earlier ∈ front, wanted earlier.role = true → earlier.name.text ≠ name

/-- A place is where an error points, names being written as listed. -/
inductive PointsAt (occurrences : List Occurrence) (error : SchemaError) : Span → Prop
  | whole (subjectless : error.subject? = none) : PointsAt occurrences error .whole
  | introduced {name : String} {first : Occurrence} (about : error.subject? = some name)
      (found : first.IsFirst Role.introduces name occurrences) :
    PointsAt occurrences error first.name.span
  | operand {name : String} {first : Occurrence} (about : error.subject? = some name)
      (absent : ∀ occurrence ∈ occurrences, occurrence.role.introduces = true →
        occurrence.name.text ≠ name)
      (found : first.IsFirst (· == .operand) name occurrences) :
    PointsAt occurrences error first.name.span
  | unwritten {name : String} (about : error.subject? = some name)
      (absent : ∀ occurrence ∈ occurrences, occurrence.name.text ≠ name) :
    PointsAt occurrences error .whole

/-- The names that are written in certain roles. -/
def namesIn (wanted : Role → Bool) (occurrences : List Occurrence) : List Written :=
  (occurrences.filter (wanted ·.role)).map (·.name)

theorem namesIn_flatMap {α : Type} (wanted : Role → Bool) (occurrences : α → List Occurrence)
    (entries : List α) :
    namesIn wanted (entries.flatMap occurrences) =
      entries.flatMap fun entry => namesIn wanted (occurrences entry) := by
  unfold namesIn
  rw [List.filter_flatMap, List.map_flatMap]

/-! ## Lines and settings -/

theorem CompoundLine.introduced (line : CompoundLine) :
    namesIn Role.introduces line.occurrences = [line.name] := by
  have operands : (line.operands.map (Occurrence.mk .operand)).filter (·.role.introduces) = [] := by
    simp [List.filter_map, Function.comp_def, Role.introduces]
  unfold namesIn occurrences
  rw [List.filter_cons_of_pos rfl, operands]
  rfl

theorem CompoundLine.referenced (line : CompoundLine) :
    namesIn (· == .operand) line.occurrences = line.operands := by
  have operands : (line.operands.map (Occurrence.mk .operand)).filter (·.role == .operand) =
      line.operands.map (Occurrence.mk .operand) := by
    simp [List.filter_map, Function.comp_def]
  unfold namesIn occurrences
  rw [List.filter_cons_of_neg Bool.false_ne_true, operands, List.map_map]
  exact List.map_id _

namespace Setting

theorem named_eq (setting : Setting) :
    setting.named = namesIn Role.introduces setting.occurrences := by
  cases setting with
  | base lines =>
    rw [occurrences, namesIn_flatMap, named, List.map_eq_flatMap]
    rfl
  | compound lines =>
    rw [occurrences, namesIn_flatMap, named, List.map_eq_flatMap]
    simp only [CompoundLine.introduced]
  | overrides lines =>
    rw [occurrences, namesIn_flatMap, named, List.map_eq_flatMap]
    rfl
  | _ => rfl

theorem referenced_eq (setting : Setting) :
    setting.referenced = namesIn (· == .operand) setting.occurrences := by
  cases setting with
  | base lines =>
    rw [occurrences, namesIn_flatMap]
    exact (List.flatMap_eq_nil_iff.2 fun line listed => rfl).symm
  | compound lines =>
    rw [occurrences, namesIn_flatMap, referenced]
    simp only [CompoundLine.referenced]
  | overrides lines =>
    rw [occurrences, namesIn_flatMap]
    exact (List.flatMap_eq_nil_iff.2 fun line listed => rfl).symm
  | _ => rfl

end Setting

namespace Definition

/-! ## Places of a definition -/

section Lookups

variable {wanted : Role → Bool} {name : String} {occurrences : List Occurrence}

theorem placeIn?_namesIn :
    placeIn? (namesIn wanted occurrences) name =
      (occurrences.find? fun occurrence => wanted occurrence.role && occurrence.name.text == name).map
        (·.name.span) := by
  unfold placeIn? namesIn
  rw [List.find?_map, List.find?_filter, Option.map_map]
  simp only [Function.comp_def, Bool.decide_and, Bool.decide_eq_true]

theorem placeIn?_eq_some {span : Span} :
    placeIn? (namesIn wanted occurrences) name = some span ↔
      ∃ first : Occurrence, first.IsFirst wanted name occurrences ∧ first.name.span = span := by
  rw [placeIn?_namesIn, Option.map_eq_some_iff]
  constructor
  · rintro ⟨first, found, placed⟩
    obtain ⟨fits, front, back, split, passed⟩ := List.find?_eq_some_iff_append.1 found
    simp only [Bool.and_eq_true, beq_iff_eq] at fits
    refine ⟨first, ⟨fits.1, fits.2, front, back, split, fun earlier listed role same => ?_⟩, placed⟩
    simpa [role, same] using passed earlier listed
  · rintro ⟨first, ⟨role, text, front, back, split, passed⟩, placed⟩
    refine ⟨first, List.find?_eq_some_iff_append.2 ⟨?_, front, back, split, ?_⟩, placed⟩
    · simp [role, text]
    · intro earlier listed
      by_cases fits : wanted earlier.role = true
      · simp [passed earlier listed fits]
      · simp [fits]

theorem placeIn?_eq_none :
    placeIn? (namesIn wanted occurrences) name = none ↔
      ∀ occurrence ∈ occurrences, wanted occurrence.role = true → occurrence.name.text ≠ name := by
  rw [placeIn?_namesIn, Option.map_eq_none_iff, List.find?_eq_none]
  simp

end Lookups

/-- The names in settings, in the order in which they are written. -/
def occurrences (settings : List Setting) : List Occurrence := settings.flatMap Setting.occurrences

theorem named_meaning (settings : List Setting) :
    (meaning settings).named = namesIn Role.introduces (occurrences settings) := by
  rw [occurrences, namesIn_flatMap]
  exact congrArg settings.flatMap (funext Setting.named_eq)

theorem referenced_meaning (settings : List Setting) :
    (meaning settings).referenced = namesIn (· == .operand) (occurrences settings) := by
  rw [occurrences, namesIn_flatMap]
  exact congrArg settings.flatMap (funext Setting.referenced_eq)

/-- The place of an error in a definition is the one place where the error points. -/
theorem placeOf_eq_iff {settings : List Setting} {error : SchemaError} {span : Span} :
    (meaning settings).placeOf error = span ↔ PointsAt (occurrences settings) error span := by
  unfold placeOf
  rw [named_meaning, referenced_meaning]
  constructor
  · rintro rfl
    cases about : error.subject? with
    | none => exact .whole about
    | some name =>
      dsimp only
      -- operands are looked up only where the name is not introduced
      cases introduced : placeIn? (namesIn Role.introduces (occurrences settings)) name with
      | some span =>
        obtain ⟨first, found, rfl⟩ := placeIn?_eq_some.1 introduced
        exact .introduced about found
      | none =>
        have absent := placeIn?_eq_none.1 introduced
        cases referenced : placeIn? (namesIn (· == .operand) (occurrences settings)) name with
        | some span =>
          obtain ⟨first, found, rfl⟩ := placeIn?_eq_some.1 referenced
          exact .operand about absent found
        | none =>
          refine .unwritten about fun occurrence listed => ?_
          rcases Role.introduces_or_operand occurrence.role with role | role
          · exact absent occurrence listed role
          · exact placeIn?_eq_none.1 referenced occurrence listed role
  · rintro (subjectless | ⟨about, found⟩ | ⟨about, absent, found⟩ | ⟨about, absent⟩)
    · rw [subjectless]
    · rw [about]
      dsimp only
      rw [placeIn?_eq_some.2 ⟨_, found, rfl⟩]
      rfl
    · rw [about]
      dsimp only
      rw [placeIn?_eq_none.2 absent, placeIn?_eq_some.2 ⟨_, found, rfl⟩]
      rfl
    · rw [about]
      dsimp only
      rw [placeIn?_eq_none.2 fun occurrence listed _ => absent occurrence listed,
        placeIn?_eq_none.2 fun occurrence listed _ => absent occurrence listed]
      rfl

/-! ## Tokens that spell names -/

/-- A token spells a name: a string literal the text that it denotes, an identifier itself. -/
inductive SpelledBy : Written → Placed → Prop
  | literal {literal text : String} (denotes : stringValue? literal = some text) (span : Span) :
    SpelledBy ⟨text, span⟩ ⟨.literal literal, span⟩
  | identifier {text : String} (free : Identifier.keywords.contains text = false) (span : Span) :
    SpelledBy ⟨text, span⟩ ⟨.identifier text, span⟩

/-- Names are spelled by tokens of a source, one after the other, before what is left of it: with
whatever further names are spelled in what is left, they are spelled in the source. -/
def Spelled (source : List Placed) (names : List Written) (rest : List Placed) : Prop :=
  ∀ further, List.SublistForall₂ SpelledBy further rest →
    List.SublistForall₂ SpelledBy (names ++ further) source

section Spelled

variable {source behind rest : List Placed} {names : List Written}

theorem Spelled.trans {more : List Written} (first : Spelled source names behind)
    (second : Spelled behind more rest) : Spelled source (names ++ more) rest := by
  intro further later
  rw [List.append_assoc]
  exact first _ (second _ later)

theorem Spelled.of_suffix (suffix : rest <:+ source) : Spelled source [] rest := by
  obtain ⟨front, rfl⟩ := suffix
  intro further later
  induction front with
  | nil => exact later
  | cons token front ih => exact .cons_right ih

theorem Spelled.after (suffix : behind <:+ source) (later : Spelled behind names rest) :
    Spelled source names rest :=
  Spelled.trans (.of_suffix suffix) later

theorem Spelled.before (spelled : Spelled source names behind) (suffix : rest <:+ behind) :
    Spelled source names rest := by
  simpa using spelled.trans (.of_suffix suffix)

end Spelled

section Phrases

variable {source rest : List Placed}

theorem StringPhrase.spelled {name : Written} (phrase : StringPhrase source name rest) :
    Spelled source [name] rest := by
  obtain ⟨denotes, span, rest⟩ := phrase
  exact fun further later => .cons (.literal denotes span) later

theorem IdentifierPhrase.spelled {name : Written} (phrase : IdentifierPhrase source name rest) :
    Spelled source [name] rest := by
  obtain ⟨free, span, rest⟩ := phrase
  exact fun further later => .cons (.identifier free span) later

theorem FurtherOperands.spelled {operator : Operator} {operands : List Written}
    (phrase : FurtherOperands operator source operands rest) : Spelled source operands rest := by
  induction phrase with
  | nil rest => exact .of_suffix (List.suffix_refl rest)
  | cons known sign first more ih => exact (first.spelled.after sign.remains.suffix).trans ih

theorem BaseEntry.spelled {line : BaseLine} (entry : BaseEntry source line rest) :
    Spelled source (line.occurrences.map (·.name)) rest := by
  obtain ⟨named, colon, spelled, known⟩ := entry
  exact named.spelled.before (colon.remains.trans spelled.remains).suffix

theorem CompoundEntry.spelled {line : CompoundLine} (entry : CompoundEntry source line rest) :
    Spelled source (line.occurrences.map (·.name)) rest := by
  obtain ⟨named, equals, begun, more, single⟩ := entry
  have operands := (begun.spelled.after equals.remains.suffix).trans more.spelled
  rw [CompoundLine.occurrences, List.map_cons, List.map_map]
  simpa [Function.comp_def] using named.spelled.trans operands

theorem OverrideEntry.spelled {line : OverrideLine} (entry : OverrideEntry source line rest) :
    Spelled source (line.occurrences.map (·.name)) rest := by
  obtain ⟨literal | word, equals, given⟩ := entry
  · exact literal.spelled.before (equals.remains.trans given.remains).suffix
  · exact word.spelled.before (equals.remains.trans given.remains).suffix

end Phrases

section Lists

variable {α : Type} {production : Production α} {names : α → List Written}
  {source rest : List Placed} {values : List α}

theorem Entries.spelled
    (each : ∀ {source value rest}, production source value rest → Spelled source (names value) rest)
    (entries : Entries production source values rest) :
    Spelled source (values.flatMap names) rest := by
  induction entries with
  | nil rest => exact .of_suffix (List.suffix_refl rest)
  | last first => simpa using each first
  | cons first comma more ih => exact (each first).trans (ih.after comma.remains.suffix)

theorem Block.spelled
    (each : ∀ {source value rest}, production source value rest → Spelled source (names value) rest)
    {delimiter : Delimiter} (block : Block production delimiter source values rest) :
    Spelled source (values.flatMap names) rest := by
  have grouped {source rest : List Placed} (group : Group production delimiter source values rest) :
      Spelled source (values.flatMap names) rest := by
    obtain ⟨start, stop, entries⟩ := group
    have inside : Spelled _ (values.flatMap names) _ := entries.spelled each
    exact (inside.before (List.suffix_cons _ _)).after (List.suffix_cons _ _)
  cases block with
  | plain group => exact grouped group
  | ended group semicolon => exact (grouped group).before semicolon.remains.suffix

end Lists

theorem SettingBody.spelled {source rest : List Placed} {setting : Setting}
    (body : SettingBody source setting rest) :
    Spelled source (setting.occurrences.map (·.name)) rest := by
  cases body with
  | base given =>
    rw [Setting.occurrences, List.map_flatMap]
    exact given.spelled BaseEntry.spelled
  | compound given =>
    rw [Setting.occurrences, List.map_flatMap]
    exact given.spelled CompoundEntry.spelled
  | overrides given =>
    rw [Setting.occurrences, List.map_flatMap]
    exact given.spelled OverrideEntry.spelled
  | record given => exact .of_suffix (given.remains IdentifierPhrase.remains).suffix
  | aggregator given => exact .of_suffix (given.remains IdentifierPhrase.remains).suffix
  | module given => exact .of_suffix (given.remains IdentifierPhrase.remains).suffix
  | hookPrefix given => exact .of_suffix (given.remains StringPhrase.remains).suffix
  | runtime given => exact .of_suffix (given.remains PathPhrase.remains).suffix
  | strictOrderings semicolon => exact .of_suffix semicolon.remains.suffix
  | order which given => exact .of_suffix (given.remains named_stringPhrase).suffix

theorem Settings.spelled {source : List Placed} {settings : List Setting}
    (phrase : Settings source settings) :
    Spelled source ((occurrences settings).map (·.name)) [] := by
  induction phrase with
  | nil => exact .of_suffix (List.suffix_refl [])
  | cons span body more ih =>
    rw [occurrences, List.flatMap_cons, List.map_append]
    exact (body.spelled.after (List.suffix_cons _ _)).trans ih

/-! ## Errors -/

/-- Tokens that are read are a list of settings, and what is read is what these mean. -/
theorem settings_of_read {tokens : List Placed} (balanced : balancedFrom [] tokens = true)
    {definition : Definition} (read : ofTokens tokens = .ok definition) :
    ∃ settings, Settings tokens settings ∧ definition = meaning settings := by
  unfold ofTokens at read
  split at read
  · rename_i given rest taken
    obtain ⟨-, phrase, distinct⟩ := (settings_eq_ok balanced).1 taken
    split at read
    · cases read
    · cases read
      exact ⟨given, phrase, ofSettings_eq_meaning distinct⟩
  · cases read

/-- The error that refuses the schema of a definition points at the first place where its subject is
declared or overridden, else at the first place where it is an operand, else at the definition as a
whole. The names of the settings are spelled by tokens in the same order. -/
theorem errors_point_at_first_occurrences {tokens : List Placed}
    (balanced : balancedFrom [] tokens = true) {definition : Definition}
    (read : ofTokens tokens = .ok definition) {instrumentation : Instrumentation} {error : SchemaError}
    (refused : generate definition.schema definition.naming instrumentation definition.overrides =
      .error (.refused error)) :
    ∃ settings, Settings tokens settings ∧ definition = meaning settings ∧
      List.SublistForall₂ SpelledBy ((occurrences settings).map (·.name)) tokens ∧
      ∀ span, expandTokens tokens instrumentation = .error (.refused error span) ↔
        PointsAt (occurrences settings) error span := by
  obtain ⟨settings, phrase, rfl⟩ := settings_of_read balanced read
  refine ⟨settings, phrase, rfl, ?_, fun span => ?_⟩
  · simpa using phrase.spelled [] .nil
  · have expands : expandTokens tokens instrumentation =
        .error (.refused error ((meaning settings).placeOf error)) := by
      unfold expandTokens
      rw [read]
      dsimp only
      rw [refused]
    rw [expands, ← placeOf_eq_iff]
    constructor
    · rintro ⟨⟩
      rfl
    · rintro rfl
      rfl

/-- A definition that refers to a metric, lists it in an order and overrides its hook, but does not
declare it. -/
def lossTokens : List Placed :=
  (Token.read
    "compound \x7b \"both\" = \"lost\" + \"kept\" \x7d storage_order [\"lost\"]
     overrides \x7b lost = site::lost \x7d base \x7b \"kept\": counter \x7d").getD []

/-- What it comes to. -/
def lossDefinition : Definition where
  schema := {
    declarations := [.compound ⟨"both", .add, ["lost", "kept"]⟩, .base ⟨"kept", .counter⟩]
    arrangement := { storage := ["lost"] } }
  overrides := [⟨"lost", ⟨Token.code "site :: lost"⟩⟩]
  named := [⟨"both", ⟨⟨1, 11⟩, ⟨1, 17⟩⟩⟩, ⟨"lost", ⟨⟨2, 17⟩, ⟨2, 21⟩⟩⟩,
    ⟨"kept", ⟨⟨2, 44⟩, ⟨2, 50⟩⟩⟩]
  referenced := [⟨"lost", ⟨⟨1, 20⟩, ⟨1, 26⟩⟩⟩, ⟨"kept", ⟨⟨1, 29⟩, ⟨1, 35⟩⟩⟩]

/-- The error that the operand is unknown points at the override, which is written later. -/
theorem loss_points_at_override :
    balancedFrom [] lossTokens = true ∧ ofTokens lossTokens = .ok lossDefinition ∧
      generate lossDefinition.schema lossDefinition.naming .enabled lossDefinition.overrides =
        .error (.refused (.unknownOperand "both" "lost")) ∧
      ∃ settings, Settings lossTokens settings ∧
        PointsAt (occurrences settings) (.unknownOperand "both" "lost") ⟨⟨2, 17⟩, ⟨2, 21⟩⟩ := by
  have balanced : balancedFrom [] lossTokens = true := by decide +kernel
  have read : ofTokens lossTokens = .ok lossDefinition := by decide +kernel
  have refused : generate lossDefinition.schema lossDefinition.naming .enabled
      lossDefinition.overrides = .error (.refused (.unknownOperand "both" "lost")) := by
    decide +kernel
  obtain ⟨settings, phrase, -, -, points⟩ :=
    errors_point_at_first_occurrences balanced read refused
  exact ⟨balanced, read, refused, settings, phrase, (points _).1 (by decide +kernel)⟩

end Definition

end StatSchema
