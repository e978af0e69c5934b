/-
Attributes of constructs: a path, with a group or a value after it or nothing, in brackets.
-/
import StatSchema.Phrase.Grammar

namespace StatSchema.Phrase

open Token Lookahead

/-- The words that may stand in any path although they are no identifiers. -/
def pathWords : List String := ["super", "self", "Self", "crate"]

/-- Whether an identifier or a word that may stand in any path comes next. -/
def segmentNext (tokens : List Placed) : Bool :=
  identifierNext tokens || anyWordNext pathWords tokens

namespace Grammar

variable (grammar : Grammar)

/-- Segments without arguments, joined by double colons. -/
def plainSegments : Phrase Unit := do
  if segmentNext (← rest) then copy else identifier
  grammar.repeated do
    if ← optionalSign "::" then
      if segmentNext (← rest) then copy else unmet [.segment]
      return true
    else return false

/-- A path without arguments. -/
def plainPath : Phrase Unit := do
  let _ ← optionalSign "::"
  grammar.plainSegments

/-- What stands between the brackets of an attribute. -/
def attributeContent : Phrase Unit := do
  if !(← optionalWord "unsafe") then grammar.plainPath
  let tokens ← rest
  if opensGroup tokens then anyGroup
  else if assignmentNext tokens && !signNext "==" tokens then
    sign "="
    if signNext "#" (← rest) && opens .bracket (second (← rest)) then
      fail (.restricted .nestedAttribute)
    else grammar.expression

/-- Attributes of what follows them, and whether there are any. -/
def attributes : Phrase Bool := do
  let any := signNext "#" (← rest)
  grammar.repeated do
    if signNext "#" (← rest) then
      sign "#"
      group .bracket grammar.attributeContent
      return true
    else return false
  return any

/-- Attributes of what they stand in. -/
def innerAttributes : Phrase Unit :=
  grammar.repeated do
    let tokens ← rest
    if signNext "#" tokens && signNext "!" (second tokens) then
      sign "#"
      sign "!"
      group .bracket grammar.attributeContent
      return true
    else return false

/-- Statements in curly braces, after attributes of the block. -/
def attributedBlock : Phrase Unit :=
  group .brace do
    grammar.innerAttributes
    grammar.statements

/-- Statements in curly braces. -/
def block : Phrase Unit := group .brace grammar.statements

end Grammar

end StatSchema.Phrase
