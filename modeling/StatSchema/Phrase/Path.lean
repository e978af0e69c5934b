/-
Paths: segments joined by double colons, each with or without generic arguments. Of arguments
between angle brackets, lifetimes are written before the others. In a type, a segment may have
arguments in parentheses instead, and a result; no double colon is written before them.
-/
import StatSchema.Phrase.Attribute

namespace StatSchema.Phrase

open Token Lookahead

/-! ## Arguments -/

/-- One generic argument, and whether a comma follows it. -/
structure Argument where
  tokens : List Token
  isLifetime : Bool
  followed : Bool

/-- A comma that stands alone. -/
def comma : Token := .punctuation ',' .alone

/-- The tokens of an argument with its comma. -/
def Argument.code (argument : Argument) : List Token :=
  argument.tokens ++ if argument.followed then [comma] else []

/-- Arguments one after the other, a comma being due before the first one unless `settled`. -/
def inOrder (settled : Bool) : List Argument → List Token
  | [] => []
  | argument :: rest =>
    (if settled then [] else [comma]) ++ argument.code ++ inOrder argument.followed rest

/-- Arguments, lifetimes first. -/
def arranged (arguments : List Argument) : List Token :=
  let lifetimes := arguments.filter (·.isLifetime)
  let others := arguments.filter (!·.isLifetime)
  let settled := (lifetimes.getLast?.map (·.followed)).getD true
  lifetimes.flatMap Argument.code ++ inOrder settled others

/-- Entries up to a closing angle bracket, each of which tells whether it is a lifetime, and how
they are written. The bound is on their number. -/
def angledArguments (entry : Phrase Bool) : Nat → Phrase (List Argument)
  | 0 => return []
  | bound + 1 => do
    if signNext ">" (← rest) then return []
    let (isLifetime, tokens) ← captured entry
    if signNext ">" (← rest) then return [⟨tokens, isLifetime, false⟩]
    let _ ← captured (sign ",")
    return ⟨tokens, isLifetime, true⟩ :: (← angledArguments entry bound)

/-! ## Forms -/

/-- The arguments of a segment. -/
inductive ArgumentsForm where
  | none
  /-- Angle brackets without anything between them, written with so many tokens. -/
  | empty (length : Nat)
  | angled
  | parenthesized
  deriving DecidableEq, Repr

/-- What a path is, as far as the constructs around it depend on it. -/
structure PathForm where
  /-- Whether it begins with a type in angle brackets. -/
  qualified : Bool := false
  /-- Whether it begins with a double colon. -/
  rooted : Bool := false
  /-- Whether it has one segment only. -/
  single : Bool := true
  /-- Whether no segment has arguments. -/
  plain : Bool
  /-- The arguments of the last segment. -/
  last : ArgumentsForm
  deriving DecidableEq, Repr

/-- A path of one segment. -/
def PathForm.ofSegment (arguments : ArgumentsForm) : PathForm :=
  { plain := arguments = .none, last := arguments }

/-- A path with one more segment. -/
def PathForm.join (form : PathForm) (arguments : ArgumentsForm) : PathForm :=
  { form with
    single := false
    plain := form.plain && arguments = .none
    last := arguments }

/-- Whether the last segment may still be given arguments in parentheses. -/
def PathForm.isOpen (form : PathForm) : Bool :=
  match form.last with
  | .none => true
  | .empty _ => true
  | _ => false

/-- What a path is as a type. -/
def PathForm.type (form : PathForm) : TypeForm :=
  if form.qualified then .other
  else if form.single && !form.rooted && form.last ≠ .parenthesized then .name
  else .path

/-- Whether the tokens after a segment open its arguments: an angle bracket after a double colon
or, where no expression is meant, at once. -/
def argumentsNext (inExpression : Bool) (tokens : List Placed) : Bool :=
  !inExpression && signNext "<" tokens && !signNext "<=" tokens && !signNext "<<=" tokens ||
    signNext "::" tokens && signNext "<" (tokens.drop 2)

/-- Whether a double colon comes next that joins a further segment. -/
def joinNext (tokens : List Placed) : Bool :=
  signNext "::" tokens && !opens .parenthesis (tokens.drop 2)

/-- Whether arguments in parentheses come next, after a double colon or at once. -/
def parenthesesNext (tokens : List Placed) : Bool :=
  opens .parenthesis tokens || signNext "::" tokens && opens .parenthesis (tokens.drop 2)

/-- Whether a constant comes next that can be an argument as it is. -/
def constantNext (tokens : List Placed) : Bool := literalNext tokens || opens .brace tokens

namespace Grammar

variable (grammar : Grammar)

/-- A constant as it stands in a list of arguments. -/
def constant : Phrase Unit := do
  let tokens ← rest
  if literalNext tokens then literal
  else if identifierNext tokens then identifier
  else if opens .brace tokens then grammar.attributedBlock
  else unmet []

/-- One generic argument: a lifetime, a constant, a type, or a name with an equals sign and a type
or constant, or with a colon and bounds. The answer tells whether it is a lifetime. -/
def argument : Phrase Bool := do
  let tokens ← rest
  if lifetimeNext tokens && !signNext "+" (second tokens) then
    lifetime
    return true
  if constantNext tokens then grammar.constant
  else if (← grammar.type true) = .name then
    if ← optionalSign "=" then
      if constantNext (← rest) then grammar.constant else grammar.anyType
    else if ← optionalSign ":" then
      let ends := fun tokens => signNext "," tokens || signNext ">" tokens
      discard (grammar.bounds ends)
  return false

/-- Generic arguments between angle brackets, after a double colon or not. -/
def arguments : Phrase ArgumentsForm := do
  let marked ← optionalSign "::"
  sign "<"
  let arguments ← angledArguments (grammar.argument) grammar.size
  write (arranged arguments)
  sign ">"
  return if arguments.isEmpty then .empty (if marked then 4 else 2) else .angled

/-- A segment: a word that stands alone, or an identifier and its arguments. -/
def segment (inExpression : Bool) : Phrase ArgumentsForm := do
  let tokens ← rest
  if anyWordNext ["super", "self", "crate", "try"] tokens then
    copy
    return .none
  if wordComesNext "Self" tokens then copy else identifier
  if argumentsNext inExpression (← rest) then grammar.arguments else return .none

/-- Segments after a path, as long as what comes next `joins` them. The bound is on their
number. -/
def furtherSegments (inExpression : Bool) (joins : List Placed → Bool) :
    Nat → PathForm → Phrase PathForm
  | 0, form => return form
  | bound + 1, form => do
    if joins (← rest) then
      sign "::"
      let arguments ← grammar.segment inExpression
      furtherSegments inExpression joins bound (form.join arguments)
    else return form

/-- A path that is not qualified by a type. -/
def path (inExpression : Bool) : Phrase PathForm := do
  let rooted ← optionalSign "::"
  let first := PathForm.ofSegment (← grammar.segment inExpression)
  grammar.furtherSegments inExpression joinNext grammar.size { first with rooted }

/-- A path that may be qualified by a type in angle brackets, as it is or as another path. -/
def anyPath (inExpression : Bool) : Phrase PathForm := do
  if signNext "<" (← rest) then
    sign "<"
    grammar.anyType
    if ← optionalWord "as" then discard (grammar.path false)
    sign ">"
    sign "::"
    let first := PathForm.ofSegment (← grammar.segment inExpression)
    grammar.furtherSegments inExpression (signNext "::") grammar.size
      { first with qualified := true }
  else grammar.path inExpression

/-- The result of a function, if an arrow comes next; whether there is none or one in
parentheses. -/
def result : Phrase Bool := do
  if ← optionalSign "->" then return (← grammar.type false) = .grouped
  else return true

/-- Arguments in parentheses and a result, in place of the empty ones that a path may have. The
answer tells whether a further segment may follow. -/
def parenthesizedArguments (form : PathForm) : Phrase Bool := do
  match form.last with
  | .empty length => takeBack length
  | _ => pure ()
  let _ ← captured (optionalSign "::")
  groupThen .parenthesis (grammar.list grammar.anyType) fun _ => grammar.result

/-- Arguments in parentheses after a path, and the segments after those. The bound is on their
number. -/
def furtherArguments : Nat → PathForm → Phrase PathForm
  | 0, form => return form
  | bound + 1, form => do
    if form.isOpen && parenthesesNext (← rest) then
      let extensible ← grammar.parenthesizedArguments form
      let form := { form with plain := false, last := .parenthesized }
      if extensible then
        let form ← grammar.furtherSegments false joinNext grammar.size form
        furtherArguments bound form
      else return form
    else return form

/-- A path as a type. -/
def typePath : Phrase PathForm := do
  let form ← grammar.anyPath false
  grammar.furtherArguments grammar.size form

end Grammar

end StatSchema.Phrase
