/-
What can be said in both notations, as the tokens of a definition and as a document: base metrics,
then compounds of two operands or more, the three orders, names that are identifiers, and overrides of
distinct hooks. Paths are tokens in one notation and text in the other.
-/
import StatSchema.Configuration.Reader
import StatSchema.Expression
import StatSchema.Proofs.Notation.PlainPath

namespace StatSchema

open Token

/-! ## Paths -/

/-- A path in both notations: tokens that are read as the path wherever a phrase may end behind them,
and a text that consists of these tokens. -/
structure WrittenPath where
  path : Path
  tokens : List Token
  text : String
  lexed : (Token.read text).map (·.map (·.token)) = some tokens
  reads : ∀ {placed rest : List Placed}, placed.map (·.token) = tokens → PhraseEnds rest →
    Path.parser (placed ++ rest) = .ok (⟨path, none⟩, rest)

namespace WrittenPath

/-- A plain path, as a text that consists of its tokens. -/
def plain (rooted : Bool) (first : String) (words : List String) (text : String)
    (valid : ∀ word ∈ first :: words, isSegment word = true)
    (lexed : (Token.read text).map (·.map (·.token)) = some (plainPath rooted first words)) :
    WrittenPath where
  path := ⟨plainPath rooted first words⟩
  tokens := plainPath rooted first words
  text := text
  lexed := lexed
  reads spelled ends := Path.parser_plainPath spelled valid ends

/-- The text of a path denotes it. -/
theorem read?_text (written : WrittenPath) : Path.read? written.text = some written.path := by
  obtain ⟨placed, lexed, spelled⟩ := Option.map_eq_some_iff.1 written.lexed
  have read := written.reads spelled (show PhraseEnds [] from .inl rfl)
  rw [List.append_nil] at read
  unfold Path.read?
  rw [lexed]
  dsimp only
  rw [read]

end WrittenPath

/-! ## Outlines -/

/-- What can be said in both notations. -/
structure Outline where
  bases : List BaseMetric
  compounds : List CompoundMetric
  arrangement : Arrangement
  hookPrefix : String
  record : String
  aggregator : String
  module : Option String
  runtime : WrittenPath
  overrides : List (String × WrittenPath)
  operands : ∀ compound ∈ compounds, 2 ≤ compound.operands.length
  identifiers : ∀ name ∈ record :: aggregator :: module.toList,
    Identifier.keywords.contains name = false
  distinct : (overrides.map (·.1)).Nodup

/-- The override that a hook and a path make. -/
def overrideBy (entry : String × WrittenPath) : Override := ⟨entry.1, entry.2.path⟩

namespace Outline

/-- The schema of an outline. -/
def schema (outline : Outline) : Schema where
  declarations := outline.bases.map .base ++ outline.compounds.map .compound
  arrangement := outline.arrangement

/-- The names of an outline. -/
def naming (outline : Outline) : Naming where
  hookPrefix := outline.hookPrefix
  record := outline.record
  aggregator := outline.aggregator
  module := outline.module
  runtime := outline.runtime.path

end Outline

/-! ## Tokens -/

/-- A character as a token of its own. -/
def mark (symbol : Char) : Token := .punctuation symbol .alone

/-- The tokens of a base metric. -/
def BaseMetric.tokens (metric : BaseMetric) : List Token :=
  [Token.string metric.name, mark ':', .identifier metric.kind.word]

/-- The tokens of operands, each after an operator. -/
def operandTokens (operator : Operator) (operands : List String) : List Token :=
  operands.flatMap fun operand => [operator.token, Token.string operand]

/-- The tokens of a compound. -/
def CompoundMetric.tokens (metric : CompoundMetric) : List Token :=
  [Token.string metric.name, mark '=', Token.string (metric.operands.headD "")] ++
    operandTokens metric.operator metric.operands.tail

/-- The tokens of an override. -/
def overrideTokens (entry : String × WrittenPath) : List Token :=
  [Token.string entry.1, mark '='] ++ entry.2.tokens

/-- The tokens of entries, each with a comma. -/
def entryTokens {α : Type} (write : α → List Token) (entries : List α) : List Token :=
  entries.flatMap fun entry => write entry ++ [mark ',']

/-- The tokens of a setting with a value. -/
def assignedTokens (word : String) (value : List Token) : List Token :=
  .identifier word :: mark '=' :: value ++ [mark ';']

/-- The tokens of a setting with a list of entries. -/
def blockTokens {α : Type} (word : String) (delimiter : Delimiter) (write : α → List Token)
    (entries : List α) : List Token :=
  .identifier word :: .opening delimiter :: entryTokens write entries ++ [.closing delimiter]

/-- The tokens of an order. -/
def orderTokens (which : MetricOrder) (names : List String) : List Token :=
  blockTokens (which.word ++ "_order") .bracket (fun name => [Token.string name]) names

namespace Outline

/-- The tokens of each setting of an outline. -/
def clauses (outline : Outline) : List (List Token) :=
  [assignedTokens "record" [.identifier outline.record],
    assignedTokens "aggregator" [.identifier outline.aggregator],
    assignedTokens "hook_prefix" [Token.string outline.hookPrefix],
    assignedTokens "runtime" outline.runtime.tokens,
    blockTokens "base" .brace BaseMetric.tokens outline.bases,
    blockTokens "compound" .brace CompoundMetric.tokens outline.compounds,
    orderTokens .storage outline.arrangement.storage,
    orderTokens .derivation outline.arrangement.derivation,
    orderTokens .display outline.arrangement.display,
    blockTokens "overrides" .brace overrideTokens outline.overrides] ++
  outline.module.toList.map (fun name => assignedTokens "module" [.identifier name]) ++
  if outline.arrangement.strict then [[.identifier "strict_orderings", mark ';']] else []

/-- The tokens of an outline. -/
def tokens (outline : Outline) : List Token := outline.clauses.flatten

end Outline

/-! ## Documents -/

/-- An array of strings. -/
def textArray (texts : List String) : Toml.Value := .array (texts.map .string)

/-- The table of a declaration. -/
def Declaration.table : Declaration → Toml.Value
  | base metric => .table [("kind", .string metric.kind.word), ("name", .string metric.name)]
  | compound metric =>
    .table [("name", .string metric.name), ("op", .string metric.operator.symbol),
      ("operands", textArray metric.operands)]

namespace Outline

/-- The table of the names of an outline. -/
def names (outline : Outline) : Toml.Table :=
  [("aggregator", .string outline.aggregator), ("hook_prefix", .string outline.hookPrefix)] ++
    outline.module.toList.map (fun name => ("module", .string name)) ++
    [("record", .string outline.record), ("runtime", .string outline.runtime.text)]

/-- The table of the orders of an outline. -/
def orders (outline : Outline) : Toml.Table :=
  [("derivation", textArray outline.arrangement.derivation),
    ("display", textArray outline.arrangement.display),
    ("storage", textArray outline.arrangement.storage),
    ("strict", .boolean outline.arrangement.strict)]

/-- The document of an outline. The entries of every table are sorted by key. -/
def document (outline : Outline) : Toml.Table :=
  [("metric", .array (outline.schema.declarations.map Declaration.table)),
    ("naming", .table outline.names),
    ("order", .table outline.orders),
    ("overrides", .table
      ((Toml.sorted outline.overrides).map fun (hook, target) => (hook, .string target.text)))]

end Outline

end StatSchema
