/-
Patterns: names, literals, ranges, paths with fields or without, tuples, slices and references, and
alternatives of these.
-/
import StatSchema.Phrase.Member
import StatSchema.Phrase.Path

namespace StatSchema.Phrase

open Token Lookahead

/-- What may open a pattern, in the order in which it is looked for. -/
def patternChoices : List Expectation :=
  [.identifier, .code "::", .code "<", .code "_", .literal, .code "const", .code "ref",
    .code "mut", .code "&", .parentheses, .squareBrackets, .code "..", .code "const"]

/-- What may bound a range, in the order in which it is looked for. -/
def rangeBoundChoices : List Expectation :=
  [.literal, .identifier, .code "::", .code "<", .code "self", .code "Self", .code "super",
    .code "crate", .code "const"]

/-- Whether a pattern that begins with a path comes next. -/
def pathPatternNext (tokens : List Placed) : Bool :=
  let next := second tokens
  identifierNext tokens &&
      (signNext "::" next || signNext "!" next || opens .brace next || opens .parenthesis next ||
        signNext ".." next) ||
    wordComesNext "self" tokens && signNext "::" next || signNext "::" tokens ||
    signNext "<" tokens || anyWordNext ["Self", "super", "crate"] tokens

/-- Whether a further alternative comes next. -/
def alternativeNext (tokens : List Placed) : Bool :=
  signNext "|" tokens && !signNext "||" tokens && !signNext "|=" tokens

/-- Whether a range may end without a bound before what comes next. -/
def rangeEndNext (tokens : List Placed) : Bool :=
  atEnd tokens || signNext "|" tokens || signNext "=" tokens ||
    signNext ":" tokens && !signNext "::" tokens || signNext "," tokens || signNext ";" tokens ||
    wordComesNext "if" tokens

/-- The place of dots that stand next, so many of them. -/
def dotsSpan (count : Nat) (tokens : List Placed) : Span :=
  ⟨(nextSpan tokens).start, (nextSpan (tokens.drop (count - 1))).stop⟩

namespace Grammar

variable (grammar : Grammar)

/-! ## Alternatives -/

/-- A pattern, with alternatives or without. The answer is as for one without. -/
def alternatives : Phrase (Option Span) := do
  let first ← grammar.pattern
  if alternativeNext (← rest) then
    grammar.repeated do
      if alternativeNext (← rest) then
        sign "|"
        discard grammar.pattern
        return true
      else return false
    return none
  else return first

/-- A pattern with alternatives or without, before which a bar may stand. -/
def anyPattern : Phrase (Option Span) := do
  if ← optionalSign "|" then
    discard grammar.alternatives
    return none
  else grammar.alternatives

/-! ## Ranges -/

/-- A bound of a range, unless the range ends without one. The answer tells whether it does not. -/
def rangeBound : Phrase Bool := do
  let tokens ← rest
  if rangeEndNext tokens then return false
  if literalNext tokens then literal
  else if segmentNext tokens || signNext "::" tokens || signNext "<" tokens then
    discard (grammar.anyPath true)
  else if wordComesNext "const" tokens then
    copy
    grammar.attributedBlock
  else unmet rangeBoundChoices
  return true

/-- The dots of a range and the bound after them, `start` telling whether there is one before. Three
dots are written as two and an equals sign, and only after a bound. The answer is the place of the
dots if the range is open on a side. -/
def rangeEnd (start : Bool) : Phrase (Option Span) := do
  let tokens ← rest
  let obsolete := signNext "..." tokens
  if obsolete && !start then unmet [.code "..", .code "..="]
  let closed := obsolete || signNext "..=" tokens
  if closed then
    skip 3
    write (operator ['.', '.', '='])
  else sign ".."
  let bounded ← grammar.rangeBound
  if closed && !bounded then unmet [.upperBound]
  return if start && bounded then none
    else if !start && !bounded then none
    else some (dotsSpan (if closed then 3 else 2) tokens)

/-! ## Patterns -/

/-- The field of a structure pattern: a name or a number and a pattern, or a name to bind. -/
def fieldPattern : Phrase Unit := do
  let binding := anyWordNext ["box", "ref", "mut"] (← rest)
  let _ ← optionalWord "box"
  let _ ← optionalWord "ref"
  let _ ← optionalWord "mut"
  if binding then identifier
  else
    let named ← member
    if !named || signNext ":" (← rest) then
      sign ":"
      discard grammar.anyPattern

/-- The fields of a structure pattern, up to dots that stand for the others. The bound is on their
number. -/
def fieldPatterns : Nat → Phrase Unit
  | 0 => return
  | bound + 1 => do
    if atEnd (← rest) then return
    let _ ← grammar.attributes
    if ← optionalSign ".." then return
    grammar.fieldPattern
    if atEnd (← rest) then return
    sign ","
    fieldPatterns bound

/-- A pattern that begins with a path. -/
def pathPattern : Phrase (Option Span) := do
  let form ← grammar.anyPath true
  let tokens ← rest
  if !form.qualified && form.plain && signNext "!" tokens && !signNext "!=" tokens then
    sign "!"
    anyGroup
    return none
  else if opens .brace tokens then
    group .brace (grammar.fieldPatterns grammar.size)
    return none
  else if opens .parenthesis tokens then
    group .parenthesis (grammar.list (discard grammar.anyPattern))
    return none
  else if signNext ".." tokens then grammar.rangeEnd true
  else return none

/-- A name to bind, with a pattern after an at sign or without. -/
def namePattern : Phrase Unit := do
  let _ ← optionalWord "ref"
  let _ ← optionalWord "mut"
  if wordComesNext "self" (← rest) then copy else identifier
  if ← optionalSign "@" then discard grammar.pattern

/-- An element of a slice pattern, which is no range that is open on a side. -/
def elementPattern : Phrase Unit := do
  match ← grammar.anyPattern with
  | some dots => failAt dots (.restricted .openRange)
  | none => return

/-- A pattern without alternatives. -/
def patternBody : Phrase (Option Span) := do
  let tokens ← rest
  let closed (phrase : Phrase Unit) : Phrase (Option Span) := do
    phrase
    return none
  if pathPatternNext tokens then grammar.pathPattern
  else if wordComesNext "_" tokens then closed copy
  else if wordComesNext "box" tokens then
    closed <| verbatim do
      copy
      discard grammar.pattern
  else if signNext "-" tokens || literalNext tokens || wordComesNext "const" tokens then
    let _ ← grammar.rangeBound
    if signNext ".." (← rest) then grammar.rangeEnd true else return none
  else if anyWordNext ["ref", "mut", "self"] tokens || identifierNext tokens then
    closed grammar.namePattern
  else if signNext "&" tokens then
    closed do
      sign "&"
      let _ ← optionalWord "mut"
      discard grammar.pattern
  else if opens .parenthesis tokens then
    closed (group .parenthesis (grammar.list (discard grammar.anyPattern)))
  else if opens .bracket tokens then closed (group .bracket (grammar.list grammar.elementPattern))
  else if signNext ".." tokens && !signNext "..." tokens then grammar.rangeEnd false
  else unmet patternChoices

end Grammar

end StatSchema.Phrase
