/-
What is wrong with a list of tokens that describes nothing: the problem, its message and its place.
Something that is missing at the end of a group or of the source is reported as such, punctuation
apart.
-/
import StatSchema.Schema
import StatSchema.Token.Reader

namespace StatSchema

open Token

/-- A word between backquotes. -/
def inBackquotes (word : String) : String := "`" ++ word ++ "`"

/-- What could have come next. -/
inductive Expectation where
  /-- A word or a sign of the language. -/
  | code (text : String)
  | identifier
  | integer
  | literal
  | string
  | lifetime
  | parentheses
  | squareBrackets
  | curlyBraces
  | delimiter
  | expression
  | loopOrBlock
  | upperBound
  | segment
  deriving DecidableEq, Repr

/-- What could have come next, in words. -/
def Expectation.text : Expectation → String
  | code text => inBackquotes text
  | identifier => "identifier"
  | integer => "integer"
  | literal => "literal"
  | string => "string literal"
  | lifetime => "lifetime"
  | parentheses => "parentheses"
  | squareBrackets => "square brackets"
  | curlyBraces => "curly braces"
  | delimiter => "delimiter"
  | expression => "an expression"
  | loopOrBlock => "loop or block expression"
  | upperBound => "range upper bound"
  | segment => "path segment after `::`"

/-- The group that a delimiter opens. -/
def Expectation.group : Delimiter → Expectation
  | .parenthesis => parentheses
  | .bracket => squareBrackets
  | .brace => curlyBraces

/-- What may not follow a conversion. -/
inductive CastSuffix where
  | await
  | methodCall
  | fieldAccess
  | question
  | indexing
  | call
  deriving DecidableEq, Repr

/-- What may not follow a conversion, in words. -/
def CastSuffix.text : CastSuffix → String
  | await => "`.await`"
  | methodCall => "a method call"
  | fieldAccess => "a field access"
  | question => "`?`"
  | indexing => "indexing"
  | call => "a function call"

/-- Constructs that are well formed but not allowed where they stand. -/
inductive Restriction where
  | chainedComparison
  | afterCast (suffix : CastSuffix)
  | objectWithoutTrait
  | boundsWithoutTrait
  | capture
  | binder
  | constant
  | conditionalConstant
  | rangeAttribute
  | nestedAttribute
  | labelledOperand
  | openRange
  | suffixedInteger
  | fractionalInteger
  | largeInteger
  deriving DecidableEq, Repr

/-- A restriction in words. -/
def Restriction.text : Restriction → String
  | chainedComparison => "comparison operators cannot be chained"
  | afterCast suffix => "casts cannot be followed by " ++ suffix.text
  | objectWithoutTrait => "at least one trait is required for an object type"
  | boundsWithoutTrait => "at least one trait must be specified"
  | capture => "`use<...>` precise capturing syntax is not allowed here"
  | binder => "`for<...>` binder not allowed with `?` trait polarity modifier"
  | constant => "`const` is not allowed here"
  | conditionalConstant => "`[const]` is not allowed here"
  | rangeAttribute => "attributes are not allowed on range expressions starting with `..`"
  | nestedAttribute => "unexpected attribute inside of attribute"
  | labelledOperand => "parentheses required"
  | openRange => "range pattern is not allowed unparenthesized inside slice pattern"
  | suffixedInteger => "expected unsuffixed integer"
  | fractionalInteger => "expected integer literal"
  | largeInteger => "number too large to fit in target type"

/-- Why a list of tokens is no definition. -/
inductive SyntaxProblem where
  | missing (sign : String)
  | expected (choices : List Expectation) (atEnd : Bool)
  | keyword (word : String)
  /-- A token that nothing accounts for stands before the end of a group. -/
  | leftover (delimiter : Delimiter)
  /-- A statement is not ended. -/
  | unended
  | restricted (restriction : Restriction)
  | repeatedSetting (word : String)
  | unknownSetting (word : String)
  | unknownKind (word : String)
  | mixedOperators (first second : Operator)
  deriving DecidableEq, Repr

/-- A problem and where it is. -/
structure SyntaxError where
  problem : SyntaxProblem
  span : Span
  deriving DecidableEq, Repr

/-! ## Messages -/

/-- The settings of a definition, in the order in which messages list them. -/
def settingWords : List String :=
  ["record", "aggregator", "module", "hook_prefix", "runtime", "strict_orderings", "base",
    "compound", "storage_order", "derivation_order", "display_order", "overrides"]

/-- Choices in words. -/
def choicesText : List Expectation → String
  | [only] => only.text
  | [first, second] => first.text ++ " or " ++ second.text
  | choices => "one of: " ++ ", ".intercalate (choices.map (·.text))

/-- That something else was expected, in words. -/
def expectedText (choices : List Expectation) (atEnd : Bool) : String :=
  if choices.isEmpty then if atEnd then "unexpected end of input" else "unexpected token"
  else (if atEnd then "unexpected end of input, " else "") ++ "expected " ++ choicesText choices

/-- The message of a problem. -/
def SyntaxProblem.message : SyntaxProblem → String
  | missing sign => "expected " ++ inBackquotes sign
  | expected choices atEnd => expectedText choices atEnd
  | keyword word => "expected identifier, found keyword " ++ inBackquotes word
  | leftover delimiter =>
    "unexpected token, expected " ++ inBackquotes (Token.closing delimiter).text
  | unended => "unexpected token, expected `;`"
  | restricted restriction => restriction.text
  | repeatedSetting word => inBackquotes word ++ " is given more than once"
  | unknownSetting word =>
    "unknown setting " ++ inBackquotes word ++ ", expected one of: " ++
      ", ".intercalate settingWords
  | unknownKind word =>
    "unknown metric kind " ++ inBackquotes word ++ ", expected counter, max or sum"
  | mixedOperators first second =>
    "a compound metric applies one operator to all its operands, found both " ++
      inBackquotes first.symbol ++ " and " ++ inBackquotes second.symbol

end StatSchema
