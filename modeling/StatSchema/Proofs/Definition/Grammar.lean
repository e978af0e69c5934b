/-
The grammar of definitions. A production relates tokens to what a phrase at the head of them stands for
and to the tokens behind it, and looks at nothing but the phrase. String literals, identifiers and paths
are those of the language. What is behind a phrase remains of its tokens, outside of every group that
the phrase opens.
-/
import StatSchema.Definition.Reader

namespace StatSchema

open Token Lookahead

/-- The word that a setting begins with. -/
def Setting.word : Setting → String
  | .record _ => "record"
  | .aggregator _ => "aggregator"
  | .module _ => "module"
  | .hookPrefix _ => "hook_prefix"
  | .runtime _ => "runtime"
  | .strictOrderings => "strict_orderings"
  | .base _ => "base"
  | .compound _ => "compound"
  | .order which _ => which.word ++ "_order"
  | .overrides _ => "overrides"

namespace Definition

/-- A production: tokens, what a phrase at the head of them stands for, and the tokens behind it. -/
abbrev Production (α : Type) := List Placed → α → List Placed → Prop

/-! ## Words and signs -/

/-- A string literal, by the text that it denotes. -/
inductive StringPhrase : Production Written
  | mk {literal text : String} (denotes : stringValue? literal = some text) (span : Span)
      (rest : List Placed) : StringPhrase (⟨.literal literal, span⟩ :: rest) ⟨text, span⟩ rest

/-- An identifier that is no word of the language. -/
inductive IdentifierPhrase : Production Written
  | mk {text : String} (free : Identifier.keywords.contains text = false) (span : Span)
      (rest : List Placed) : IdentifierPhrase (⟨.identifier text, span⟩ :: rest) ⟨text, span⟩ rest

/-- A character, glued to the next one or not. -/
inductive Sign (symbol : Char) : List Placed → List Placed → Prop
  | mk (spacing : Spacing) (span : Span) (rest : List Placed) :
    Sign symbol (⟨.punctuation symbol spacing, span⟩ :: rest) rest

/-- A path. -/
def PathPhrase : Production Path.Reading := fun source reading rest =>
  Path.parser source = .ok (reading, rest)

/-! ## Lists -/

section Lists

variable {α : Type} (entry : Production α)

/-- Entries with commas between them, the last one with a comma or without. -/
inductive Entries : Production (List α)
  | nil (rest : List Placed) : Entries rest [] rest
  | last {source rest : List Placed} {value : α} (first : entry source value rest) :
    Entries source [value] rest
  | cons {source behind next rest : List Placed} {value : α} {values : List α}
      (first : entry source value behind) (comma : Sign ',' behind next)
      (more : Entries next values rest) : Entries source (value :: values) rest

/-- A group of entries. -/
inductive Group (delimiter : Delimiter) : Production (List α)
  | mk {inside rest : List Placed} {values : List α} (start stop : Span)
      (entries : Entries entry inside values (⟨.closing delimiter, stop⟩ :: rest)) :
    Group delimiter (⟨.opening delimiter, start⟩ :: inside) values rest

/-- A group of entries, with a semicolon after it or without. -/
inductive Block (delimiter : Delimiter) : Production (List α)
  | plain {source rest : List Placed} {values : List α}
      (group : Group entry delimiter source values rest) : Block delimiter source values rest
  | ended {source behind rest : List Placed} {values : List α}
      (group : Group entry delimiter source values behind) (semicolon : Sign ';' behind rest) :
    Block delimiter source values rest

/-- A value between an equals sign and a semicolon. -/
inductive Assigned : Production α
  | mk {source next behind rest : List Placed} {value : α} (equals : Sign '=' source next)
      (given : entry next value behind) (semicolon : Sign ';' behind rest) :
    Assigned source value rest

end Lists

/-! ## Entries -/

/-- A name, a colon and a word for a kind. -/
inductive BaseEntry : Production BaseLine
  | mk {source next behind rest : List Placed} {name word : Written} {kind : MetricKind}
      (named : StringPhrase source name next) (colon : Sign ':' next behind)
      (spelled : IdentifierPhrase behind word rest) (known : MetricKind.ofWord? word.text = some kind) :
    BaseEntry source ⟨name, kind⟩ rest

/-- Operands, each after the sign of one operator. -/
inductive FurtherOperands (operator : Operator) : Production (List Written)
  | nil (rest : List Placed) : FurtherOperands operator rest [] rest
  | cons {source next behind rest : List Placed} {symbol : Char} {operand : Written}
      {operands : List Written} (spelled : operator.symbol = .singleton symbol)
      (sign : Sign symbol source next) (first : StringPhrase next operand behind)
      (more : FurtherOperands operator behind operands rest) :
    FurtherOperands operator source (operand :: operands) rest

/-- A name, an equals sign and operands with one operator between them. A single operand counts as a
sum. -/
inductive CompoundEntry : Production CompoundLine
  | mk {source next behind middle rest : List Placed} {name first : Written}
      {operator : Operator} {operands : List Written} (named : StringPhrase source name next)
      (equals : Sign '=' next behind) (begun : StringPhrase behind first middle)
      (more : FurtherOperands operator middle operands rest)
      (single : operands = [] → operator = .add) :
    CompoundEntry source ⟨name, operator, first :: operands⟩ rest

/-- A hook, an equals sign and a path. -/
inductive OverrideEntry : Production OverrideLine
  | mk {source next behind rest : List Placed} {hook : Written} {target : Path.Reading}
      (named : StringPhrase source hook next ∨ IdentifierPhrase source hook next)
      (equals : Sign '=' next behind) (given : PathPhrase behind target rest) :
    OverrideEntry source ⟨hook, target⟩ rest

/-! ## Settings -/

/-- What follows the word of a setting. -/
inductive SettingBody : Production Setting
  | record {source rest : List Placed} {name : Written} (given : Assigned IdentifierPhrase source name rest) :
    SettingBody source (.record name.text) rest
  | aggregator {source rest : List Placed} {name : Written}
      (given : Assigned IdentifierPhrase source name rest) : SettingBody source (.aggregator name.text) rest
  | module {source rest : List Placed} {name : Written} (given : Assigned IdentifierPhrase source name rest) :
    SettingBody source (.module name.text) rest
  | hookPrefix {source rest : List Placed} {text : Written}
      (given : Assigned StringPhrase source text rest) :
    SettingBody source (.hookPrefix text.text) rest
  | runtime {source rest : List Placed} {reading : Path.Reading}
      (given : Assigned PathPhrase source reading rest) : SettingBody source (.runtime reading) rest
  | strictOrderings {source rest : List Placed} (semicolon : Sign ';' source rest) :
    SettingBody source .strictOrderings rest
  | base {source rest : List Placed} {lines : List BaseLine}
      (given : Block BaseEntry .brace source lines rest) : SettingBody source (.base lines) rest
  | compound {source rest : List Placed} {lines : List CompoundLine}
      (given : Block CompoundEntry .brace source lines rest) :
    SettingBody source (.compound lines) rest
  | order {source rest : List Placed} {names : List Written} (which : MetricOrder)
      (given : Block StringPhrase .bracket source names rest) :
    SettingBody source (.order which (names.map (·.text))) rest
  | overrides {source rest : List Placed} {lines : List OverrideLine}
      (given : Block OverrideEntry .brace source lines rest) :
    SettingBody source (.overrides lines) rest

/-- Settings up to the end. -/
inductive Settings : List Placed → List Setting → Prop
  | nil : Settings [] []
  | cons {source rest : List Placed} {setting : Setting} {settings : List Setting} (span : Span)
      (body : SettingBody source setting rest) (more : Settings rest settings) :
    Settings (⟨.identifier setting.word, span⟩ :: source) (setting :: settings)

/-! ## What phrases leave -/

section Remainders

variable {source rest : List Placed}

theorem StringPhrase.remains {text : Written} (phrase : StringPhrase source text rest) :
    Remains source rest := by
  cases phrase with
  | mk denotes span rest => exact .of_literal _ _ _

theorem IdentifierPhrase.remains {name : Written} (phrase : IdentifierPhrase source name rest) :
    Remains source rest := by
  cases phrase with
  | mk free span rest => exact .of_identifier _ _ _

theorem Sign.remains {symbol : Char} (sign : Sign symbol source rest) : Remains source rest := by
  cases sign with
  | mk spacing span rest => exact .of_punctuation _ _ _ _

theorem PathPhrase.remains {reading : Path.Reading} (phrase : PathPhrase source reading rest) :
    Remains source rest := by
  unfold PathPhrase at phrase
  rw [Path.parser_eq] at phrase
  cases ran : Phrase.run (·.path false) source with
  | error error =>
    rw [ran] at phrase
    cases phrase
  | ok progress =>
    rw [ran] at phrase
    cases phrase
    exact progress.remains

theorem FurtherOperands.remains {operator : Operator} {operands : List Written}
    (phrase : FurtherOperands operator source operands rest) : Remains source rest := by
  induction phrase with
  | nil rest => exact .refl rest
  | cons spelled sign first more ih => exact (sign.remains.trans first.remains).trans ih

end Remainders

/-- A production whose phrases begin with a string literal or an identifier. -/
def Production.Named {α : Type} (production : Production α) : Prop :=
  ∀ {source value rest}, production source value rest → ∃ name behind,
    (StringPhrase source name behind ∨ IdentifierPhrase source name behind) ∧ Remains behind rest

theorem named_stringPhrase : Production.Named StringPhrase := fun phrase =>
  ⟨_, _, .inl phrase, .refl _⟩

theorem named_baseEntry : Production.Named BaseEntry := by
  rintro source _ rest ⟨named, colon, spelled, known⟩
  exact ⟨_, _, .inl named, colon.remains.trans spelled.remains⟩

theorem named_compoundEntry : Production.Named CompoundEntry := by
  rintro source _ rest ⟨named, equals, begun, more, single⟩
  exact ⟨_, _, .inl named, equals.remains.trans (begun.remains.trans more.remains)⟩

theorem named_overrideEntry : Production.Named OverrideEntry := by
  rintro source _ rest ⟨named, equals, given⟩
  exact ⟨_, _, named, equals.remains.trans given.remains⟩

namespace Production.Named

variable {α : Type} {production : Production α} {source rest : List Placed} {value : α}

theorem remains (named : production.Named) (phrase : production source value rest) :
    Remains source rest := by
  obtain ⟨name, behind, first | first, more⟩ := named phrase
  · exact first.remains.trans more
  · exact first.remains.trans more

theorem shorter (named : production.Named) (phrase : production source value rest) :
    rest.length < source.length := by
  obtain ⟨name, behind, ⟨_, _, _⟩ | ⟨_, _, _⟩, more⟩ := named phrase
  · exact Nat.lt_succ_of_le more.suffix.length_le
  · exact Nat.lt_succ_of_le more.suffix.length_le

theorem not_atEnd (named : production.Named) (phrase : production source value rest) :
    atEnd source = false := by
  obtain ⟨name, behind, ⟨_, _, _⟩ | ⟨_, _, _⟩, -⟩ := named phrase
  · rfl
  · rfl

end Production.Named

section Lists

variable {α : Type} {production : Production α} {source rest : List Placed} {values : List α}

theorem Entries.remains (named : production.Named)
    (entries : Entries production source values rest) : Remains source rest := by
  induction entries with
  | nil rest => exact .refl rest
  | last first => exact named.remains first
  | cons first comma more ih => exact (named.remains first).trans (comma.remains.trans ih)

theorem Group.remains (named : production.Named) {delimiter : Delimiter}
    (group : Group production delimiter source values rest) : Remains source rest := by
  obtain ⟨start, stop, entries⟩ := group
  have within := entries.remains named
  refine ⟨?_, fun opened balanced => ?_⟩
  · exact (List.suffix_cons _ _).trans (within.suffix.trans (List.suffix_cons _ _))
  · have closed := within.balanced (delimiter :: opened) balanced
    simp only [balancedFrom, List.map_cons, Token.balanced, Bool.and_eq_true] at closed
    exact closed.2

theorem Block.remains (named : production.Named) {delimiter : Delimiter}
    (block : Block production delimiter source values rest) : Remains source rest := by
  cases block with
  | plain group => exact group.remains named
  | ended group semicolon => exact (group.remains named).trans semicolon.remains

theorem Assigned.remains
    (leaves : ∀ {source value rest}, production source value rest → Remains source rest) {value : α}
    (assigned : Assigned production source value rest) : Remains source rest := by
  obtain ⟨equals, given, semicolon⟩ := assigned
  exact equals.remains.trans ((leaves given).trans semicolon.remains)

end Lists

theorem SettingBody.remains {source rest : List Placed} {setting : Setting}
    (body : SettingBody source setting rest) : Remains source rest := by
  cases body with
  | record given => exact given.remains IdentifierPhrase.remains
  | aggregator given => exact given.remains IdentifierPhrase.remains
  | module given => exact given.remains IdentifierPhrase.remains
  | hookPrefix given => exact given.remains StringPhrase.remains
  | runtime given => exact given.remains PathPhrase.remains
  | strictOrderings semicolon => exact semicolon.remains
  | base given => exact given.remains named_baseEntry
  | compound given => exact given.remains named_compoundEntry
  | order which given => exact given.remains named_stringPhrase
  | overrides given => exact given.remains named_overrideEntry

end Definition

end StatSchema
