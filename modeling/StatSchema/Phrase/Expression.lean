/-
Expressions: operands with what may follow them, joined by operators that bind more or less tightly.
Comparisons are not chained, and nothing but a comma or an operator follows a conversion.
-/
import StatSchema.Phrase.Pattern
import StatSchema.Phrase.Type

namespace StatSchema.Phrase

open Token Lookahead

/-! ## Looking ahead -/

/-- Whether an expression may come next. -/
def expressionNext (tokens : List Placed) : Bool :=
  anyIdentifierNext tokens && !wordComesNext "as" tokens || opensGroup tokens ||
    literalNext tokens || signNext "!" tokens && !signNext "!=" tokens ||
    signNext "-" tokens && !signNext "-=" tokens && !signNext "->" tokens ||
    signNext "*" tokens && !signNext "*=" tokens || signNext "|" tokens && !signNext "|=" tokens ||
    signNext "&" tokens && !signNext "&=" tokens || signNext ".." tokens ||
    signNext "<" tokens && !signNext "<=" tokens && !signNext "<<=" tokens ||
    signNext "::" tokens || lifetimeNext tokens || signNext "#" tokens

/-- Whether the field or the method of a value comes next. -/
def memberNext (tokens : List Placed) : Bool := signNext "." tokens && !signNext ".." tokens

/-- Whether parameters that are bound before a closure come next, and no loop. -/
def binderNext (tokens : List Placed) : Bool :=
  wordComesNext "for" tokens && signNext "<" (second tokens) &&
    (lifetimeNext (third tokens) || signNext ">" (third tokens))

/-- Whether a closure comes next. -/
def closureNext (tokens : List Placed) : Bool :=
  let next := second tokens
  signNext "|" tokens || wordComesNext "move" tokens || binderNext tokens ||
    wordComesNext "const" tokens && !opens .brace next || wordComesNext "static" tokens ||
    wordComesNext "async" tokens && (signNext "|" next || wordComesNext "move" next)

/-- Whether a block that runs on its own comes next. -/
def asyncNext (tokens : List Placed) : Bool :=
  let next := second tokens
  wordComesNext "async" tokens &&
    (opens .brace next || wordComesNext "move" next && opens .brace (second next))

/-- Whether a path comes next. -/
def pathNext (tokens : List Placed) : Bool :=
  segmentNext tokens || signNext "::" tokens || signNext "<" tokens ||
    wordComesNext "try" tokens && (signNext "!" (second tokens) || signNext "::" (second tokens))

/-- Whether a construct comes next that ends in a block and is a statement by itself. -/
def blockNext (tokens : List Placed) : Bool :=
  let next := second tokens
  anyWordNext ["if", "while", "loop", "match", "unsafe"] tokens ||
    wordComesNext "for" tokens && !binderNext tokens ||
    anyWordNext ["try", "const"] tokens && opens .brace next ||
    opens .brace tokens || lifetimeNext tokens

/-- Whether a range ends without an operand before what comes next. -/
def rangeStops (structures : Bool) (tokens : List Placed) : Bool :=
  atEnd tokens || memberNext tokens || !structures && opens .brace tokens ||
    wordComesNext "as" tokens ||
    [",", ";", "?", "=>", "=", "+", "/", "%", "^", ">", "<=", "!=", "-=", "*=", "&=", "|=",
      "<<="].any (signNext · tokens)

/-- What comes next that may not follow a conversion. -/
def castSuffix? (tokens : List Placed) : Option CastSuffix :=
  if memberNext tokens then
    if wordComesNext "await" (second tokens) then some .await
    else if identifierNext (second tokens) &&
        (opens .parenthesis (third tokens) || signNext "::" (third tokens)) then
      some .methodCall
    else some .fieldAccess
  else if signNext "?" tokens then some .question
  else if opens .bracket tokens then some .indexing
  else if opens .parenthesis tokens then some .call
  else none

namespace Grammar

variable (grammar : Grammar)

/-! ## What follows an operand -/

/-- Expressions in parentheses. -/
def callArguments : Phrase Unit := group .parenthesis (grammar.list grammar.expression)

/-- A member after a point, with the arguments of a method or without. -/
def memberAccess : Phrase Unit := do
  let fraction := match ← rest with
    | ⟨.literal text, _⟩ :: _ => isFraction text
    | _ => false
  let complete ← if fraction then (! ·) <$> numberedMembers else pure false
  if complete then return
  if ← optionalWord "await" then return
  let named ← member
  if named then
    let marked := signNext "::" (← rest)
    if marked then discard grammar.arguments
    if marked || opens .parenthesis (← rest) then grammar.callArguments

/-- Calls, members, indices and question marks after an expression. The bound is on their number. -/
def suffixes : Nat → ExpressionForm → Phrase ExpressionForm
  | 0, form => return form
  | bound + 1, form => do
    let tokens ← rest
    if opens .parenthesis tokens then
      grammar.callArguments
      suffixes bound .other
    else if memberNext tokens && form ≠ .range then
      sign "."
      grammar.memberAccess
      suffixes bound .other
    else if opens .bracket tokens then
      group .bracket grammar.expression
      suffixes bound .other
    else if signNext "?" tokens && form ≠ .range then
      sign "?"
      suffixes bound .other
    else return form

/-! ## Operators -/

/-- The operand of an operator with the tighter operators after it. The bound is on their number. -/
def tighter (structures : Bool) (precedence : Precedence) : Nat → ExpressionForm → Phrase Unit
  | 0, _ => return
  | bound + 1, form => do
    let next := precedenceNext (← rest)
    let associates := next = precedence && precedence = .assignment
    if form ≠ .range && (precedence.rank < next.rank || associates) then
      let form ← grammar.operations structures next form
      tighter structures precedence bound form

/-- The operand on the right of an operator. -/
def rightOperand (structures : Bool) (precedence : Precedence) : Phrase Unit := do
  let first ← grammar.operand structures
  grammar.tighter structures precedence grammar.size first

/-- The dots of a range. -/
def rangeDots : Phrase Bool := do
  let tokens ← rest
  if signNext "..=" tokens then
    sign "..="
    return true
  else if signNext ".." tokens && !signNext "..." tokens then
    sign ".."
    return false
  else unmet [.code "..", .code "..="]

/-- The dots of a range and the operand after them. -/
def rangeRest (structures : Bool) : Phrase Unit := do
  let closed ← rangeDots
  if closed || !rangeStops structures (← rest) then grammar.rightOperand structures .range

/-- The operators after an expression that bind no looser than a class, with their operands. The
bound is on their number. -/
def operationsBody (structures : Bool) (least : Precedence) :
    Nat → ExpressionForm → Phrase ExpressionForm
  | 0, form => return form
  | bound + 1, form => do
    let tokens ← rest
    let admits (precedence : Precedence) : Bool := least.rank ≤ precedence.rank
    if form = .range then return form
    match binaryNext? tokens with
    | some (text, precedence) =>
      if !admits precedence then return form
      if precedence = .comparison && form = .comparison then
        fail (.restricted .chainedComparison)
      sign text
      grammar.rightOperand structures precedence
      operationsBody structures least bound
        (if precedence = .comparison then .comparison else .other)
    | none =>
      if admits .assignment && assignmentNext tokens then
        sign "="
        grammar.rightOperand structures .assignment
        operationsBody structures least bound .other
      else if admits .range && signNext ".." tokens then
        grammar.rangeRest structures
        operationsBody structures least bound .range
      else if wordComesNext "as" tokens then
        copy
        discard (grammar.type false)
        match castSuffix? (← rest) with
        | some suffix => fail (.restricted (.afterCast suffix))
        | none => operationsBody structures least bound .other
      else return form

/-! ## Blocks -/

/-- A condition and a block, with further conditions after it or a last block. The bound is on the
number of conditions. -/
def conditional : Nat → Phrase Unit
  | 0 => return
  | bound + 1 => do
    word "if"
    discard (grammar.expressionIn false)
    grammar.block
    if ← optionalWord "else" then
      let tokens ← rest
      if wordComesNext "if" tokens then conditional bound
      else if opens .brace tokens then grammar.block
      else unmet [.code "if", .curlyBraces]

/-- The arms of a match. -/
def arms : Phrase Unit :=
  grammar.repeated do
    if atEnd (← rest) then return false
    let _ ← grammar.attributes
    discard grammar.anyPattern
    if ← optionalWord "if" then grammar.expression
    sign "=>"
    let form ← grammar.early
    if form = .block || atEnd (← rest) then discard (optionalSign ",") else sign ","
    return true

/-- A loop, without a label. -/
def loop : Phrase Unit := do
  if ← optionalWord "while" then discard (grammar.expressionIn false)
  else if ← optionalWord "for" then
    discard grammar.anyPattern
    word "in"
    discard (grammar.expressionIn false)
  else word "loop"
  grammar.attributedBlock

/-- A loop or a block after a label. -/
def labelled : Phrase Unit := do
  lifetime
  sign ":"
  let tokens ← rest
  if anyWordNext ["while", "for", "loop"] tokens then grammar.loop
  else if opens .brace tokens then grammar.attributedBlock
  else unmet [.loopOrBlock]

/-- A construct that ends in a block and is a statement by itself. -/
def blockConstruct : Phrase Unit := do
  let tokens ← rest
  if lifetimeNext tokens then grammar.labelled
  else if wordComesNext "if" tokens then grammar.conditional grammar.size
  else if wordComesNext "match" tokens then
    copy
    discard (grammar.expressionIn false)
    group .brace do
      grammar.innerAttributes
      grammar.arms
  else if anyWordNext ["while", "for", "loop"] tokens then grammar.loop
  else if ← optionalWord "try" then grammar.block
  else
    if anyWordNext ["unsafe", "const"] tokens then copy
    grammar.attributedBlock

/-- An expression that ends early. -/
def earlyBody : Phrase ExpressionForm := do
  let _ ← grammar.attributes
  if blockNext (← rest) then
    grammar.blockConstruct
    let tokens ← rest
    if memberNext tokens || signNext "?" tokens then
      grammar.operations true .jump (← grammar.suffixes grammar.size .block)
    else return .block
  else grammar.expressionIn true

/-! ## Operands -/

/-- A parameter of a closure. -/
def closureParameter : Phrase Unit := do
  let _ ← grammar.attributes
  discard grammar.pattern
  if ← optionalSign ":" then grammar.anyType

/-- A closure. -/
def closure (structures : Bool) : Phrase Unit := do
  if wordComesNext "for" (← rest) then grammar.binder
  let _ ← optionalWord "const"
  let _ ← optionalWord "static"
  let _ ← optionalWord "async"
  let _ ← optionalWord "move"
  sign "|"
  separated (signNext "|") grammar.closureParameter grammar.size
  sign "|"
  if ← optionalSign "->" then
    grammar.anyType
    grammar.block
  else discard (grammar.expressionIn structures)

/-- The fields of a structure, up to the value that gives the others. The bound is on their
number. -/
def fields : Nat → Phrase Unit
  | 0 => return
  | bound + 1 => do
    if atEnd (← rest) then return
    if ← optionalSign ".." then
      if !atEnd (← rest) then grammar.expression
      return
    let _ ← grammar.attributes
    let named ← member
    if !named || signNext ":" (← rest) then
      sign ":"
      grammar.expression
    if atEnd (← rest) then return
    sign ","
    fields bound

/-- A path, a call that expands to code, or a structure. -/
def pathOperand (structures : Bool) : Phrase ExpressionForm := do
  let form ← grammar.anyPath true
  let tokens ← rest
  if !form.qualified && form.plain && signNext "!" tokens && !signNext "!=" tokens then
    sign "!"
    let braced := opens .brace (← rest)
    anyGroup
    return if braced then .bracedCall else .other
  else
    if structures && opens .brace tokens then group .brace (grammar.fields grammar.size)
    return .other

/-- The elements of an array, or one element and how often it is repeated. -/
def arrayContent : Phrase Unit := do
  if atEnd (← rest) then return
  grammar.expression
  let tokens ← rest
  if atEnd tokens then return
  else if signNext "," tokens then
    sign ","
    grammar.list grammar.expression
  else if ← optionalSign ";" then grammar.expression
  else unmet [.code ",", .code ";"]

/-- A jump out of a block, to a label or not, with a value or without. -/
def breakOperand (structures : Bool) : Phrase Unit := do
  word "break"
  let start ← rest
  if lifetimeNext start && signNext ":" (second start) then
    grammar.expression
    let stop := ((between start (← rest)).getLast?.map (·.span.stop)).getD (nextSpan start).stop
    failAt ⟨(nextSpan start).start, stop⟩ (.restricted .labelledOperand)
  optionalLifetime
  let tokens ← rest
  if expressionNext tokens && (structures || !opens .brace tokens) then grammar.expression

/-- A word with an expression after it or without. -/
def wordOperand : Phrase Unit := do
  copy
  if expressionNext (← rest) then grammar.expression

/-- A condition that binds what a pattern matches. -/
def letOperand (structures : Bool) : Phrase Unit := do
  word "let"
  discard grammar.anyPattern
  sign "="
  let first ← grammar.operand structures
  discard (grammar.operations structures .comparison first)

/-- An operand without operators before it and without what may follow it. -/
def atom (structures : Bool) : Phrase ExpressionForm := do
  let tokens ← rest
  let other (phrase : Phrase Unit) : Phrase ExpressionForm := do
    phrase
    return .other
  if literalNext tokens then other literal
  else if asyncNext tokens then
    other do
      copy
      let _ ← optionalWord "move"
      grammar.block
  else if closureNext tokens then other (grammar.closure structures)
  else if wordComesNext "builtin" tokens && signNext "#" (second tokens) then
    other <| verbatim do
      copy
      sign "#"
      identifier
      if opens .parenthesis (← rest) then anyGroup else unmet [.parentheses]
  else if pathNext tokens then grammar.pathOperand structures
  else if opens .parenthesis tokens then other grammar.callArguments
  else if wordComesNext "break" tokens then other (grammar.breakOperand structures)
  else if wordComesNext "continue" tokens then
    other do
      copy
      optionalLifetime
  else if anyWordNext ["return", "yield"] tokens then other grammar.wordOperand
  else if wordComesNext "become" tokens then
    other <| verbatim do
      copy
      grammar.expression
  else if opens .bracket tokens then other (group .bracket grammar.arrayContent)
  else if wordComesNext "let" tokens then other (grammar.letOperand structures)
  else if blockNext tokens then
    grammar.blockConstruct
    return .block
  else if signNext ".." tokens then
    grammar.rangeRest structures
    return .range
  else if wordComesNext "_" tokens then other copy
  else unmet [.expression]

/-- A reference to an operand. -/
def referenceOperand (structures : Bool) : Phrase Unit := do
  sign "&"
  let tokens ← rest
  if wordComesNext "raw" tokens && anyWordNext ["mut", "const"] (second tokens) then
    copy
    copy
  else discard (optionalWord "mut")
  discard (grammar.operand structures)

/-- An operand: attributes, signs before it, and what may follow it. -/
def operandBody (structures : Bool) : Phrase ExpressionForm := do
  let attributed ← grammar.attributes
  let tokens ← rest
  if signNext "&" tokens then
    grammar.referenceOperand structures
    return .other
  else if ["*", "!", "-"].any (signNext · tokens) then
    copySign tokens
    discard (grammar.operand structures)
    return .other
  else
    let form ← grammar.suffixes grammar.size (← grammar.atom structures)
    if attributed && form = .range then
      let count := if signNext "..=" tokens then 3 else 2
      failAt (dotsSpan count tokens) (.restricted .rangeAttribute)
    return form
where
  /-- The sign before an operand. -/
  copySign (tokens : List Placed) : Phrase Unit :=
    match ["*", "!"].find? (signNext · tokens) with
    | some text => sign text
    | none => sign "-"

end Grammar

end StatSchema.Phrase
