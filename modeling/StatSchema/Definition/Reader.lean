/-
Reading definitions. A setting begins with its word, which must not have come before. Names end in a
semicolon; lists in braces or brackets may do without one, and their last entry may have a comma.
-/
import StatSchema.Definition.Basic

namespace StatSchema.Definition

open StatSchema.Parser StatSchema.Lookahead

/-! ## Entries -/

/-- A string literal with its place. -/
def writtenString : Parser Written := do
  let (text, span) ← string
  return { text, span }

/-- An identifier with its place. -/
def writtenIdentifier : Parser Written := do
  let (text, span) ← identifier
  return { text, span }

/-- A string literal, a colon and a word for a kind. -/
def baseLine : Parser BaseLine := do
  let name ← writtenString
  punctuation ':'
  let (word, span) ← identifier
  match MetricKind.ofWord? word with
  | some kind => return { name, kind }
  | none => failAt span (.unknownKind word)

/-- The sign of an operator and its place. -/
def operatorSign : Parser (Operator × Token.Span) := do
  let tokens ← get
  let span := nextSpan tokens
  if comesNext ['+'] tokens then
    advance
    return (.add, span)
  else if comesNext ['-'] tokens then
    advance
    return (.subtract, span)
  else if comesNext ['/'] tokens then
    advance
    return (.divide, span)
  else unmet [.code "+", .code "-", .code "/"]

/-- The operands after the first one, each after a sign, all signs being those of one operator. The
bound is on their number. -/
def furtherOperands (known : Option Operator) : Nat → Parser (Option Operator × List Written)
  | 0 => return (known, [])
  | bound + 1 => do
    let tokens ← get
    if atEnd tokens || comesNext [','] tokens then return (known, [])
    let (operator, span) ← operatorSign
    match known with
    | some previous =>
      if previous ≠ operator then failAt span (.mixedOperators previous operator)
    | none => pure ()
    let operand ← writtenString
    let (result, more) ← furtherOperands (known.or (some operator)) bound
    return (result, operand :: more)

/-- A string literal, an equals sign and operands; a single one counts as a sum. -/
def compoundLine : Parser CompoundLine := do
  let name ← writtenString
  punctuation '='
  let first ← writtenString
  let (operator, more) ← furtherOperands none (← get).length
  return { name, operator := operator.getD .add, operands := first :: more }

/-- A hook, by its name or as a word. -/
def hookName : Parser Written := do
  match ← get with
  | ⟨.literal written, _⟩ :: _ =>
    if (Token.stringValue? written).isSome then writtenString else writtenIdentifier
  | _ => writtenIdentifier

/-- A hook, an equals sign and a path. -/
def overrideLine : Parser OverrideLine := do
  let hook ← hookName
  punctuation '='
  let target ← Path.parser
  return { hook, target }

/-! ## Settings -/

/-- What follows a word that sets a name: an equals sign, the value and a semicolon. -/
def assigned {α : Type} (value : Parser α) : Parser α := do
  punctuation '='
  let value ← value
  punctuation ';'
  return value

/-- A delimited list, with an optional semicolon. -/
def block {α : Type} (delimiter : Delimiter) (line : Parser α) : Parser (List α) := do
  let lines ← group delimiter line
  optionalSemicolon
  return lines

/-- Names in brackets, with an optional semicolon. -/
def nameList : Parser (List String) := do
  return (← block .bracket writtenString).map (·.text)

/-- The rest of a setting that begins with a word at the given place. -/
def setting (word : String) (span : Token.Span) : Parser Setting :=
  let name : Parser String := assigned (do return (← identifier).1)
  match word with
  | "record" => do return .record (← name)
  | "aggregator" => do return .aggregator (← name)
  | "module" => do return .module (← name)
  | "hook_prefix" => do return .hookPrefix (← assigned (do return (← string).1))
  | "runtime" => do return .runtime (← assigned Path.parser)
  | "strict_orderings" => do
    punctuation ';'
    return .strictOrderings
  | "base" => do return .base (← block .brace baseLine)
  | "compound" => do return .compound (← block .brace compoundLine)
  | "storage_order" => do return .order .storage (← nameList)
  | "derivation_order" => do return .order .derivation (← nameList)
  | "display_order" => do return .order .display (← nameList)
  | "overrides" => do return .overrides (← block .brace overrideLine)
  | _ => failAt span (.unknownSetting word)

/-- Settings up to the end of the source, `seen` having come before. The bound is on their
number. -/
def settings (seen : List String) : Nat → Parser (List Setting)
  | 0 => return []
  | bound + 1 => do
    if (← get).isEmpty then return []
    let (word, span) ← identifier
    if seen.contains word then failAt span (.repeatedSetting word)
    let first ← setting word span
    return first :: (← settings (word :: seen) bound)

/-- The first token that was left over in a group of a path. -/
def leftover? : Setting → Option SyntaxError
  | .runtime reading => reading.leftover
  | .overrides lines => lines.findSome? (·.target.leftover)
  | _ => none

/-- The definition that a list of tokens is. There are no more settings than tokens. What is left
over in a group counts only if nothing else is wrong. -/
def ofTokens (tokens : List Token.Placed) : Except SyntaxError Definition :=
  match settings [] tokens.length tokens with
  | .ok (settings, _) =>
    match settings.findSome? leftover? with
    | some error => .error error
    | none => .ok (ofSettings settings)
  | .error error => .error error

end StatSchema.Definition
