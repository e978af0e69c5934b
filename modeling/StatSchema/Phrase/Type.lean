/-
Types and the bounds that they are made of: paths, functions, objects and implementations of traits,
tuples, arrays, references and pointers. A list of bounds needs a trait among them.
-/
import StatSchema.Phrase.Path

namespace StatSchema.Phrase

open Token Lookahead

/-- What may open a type, in the order in which it is looked for. -/
def typeChoices : List Expectation :=
  [.code "for", .parentheses, .code "fn", .code "unsafe", .code "extern", .identifier, .code "::",
    .code "<", .code "dyn", .squareBrackets, .code "*", .code "&", .code "!", .code "impl",
    .code "_", .lifetime]

/-- What may follow lifetimes that are bound in a type. -/
def boundTypeChoices : List Expectation :=
  [.identifier, .code "fn", .code "unsafe", .code "extern", .code "super", .code "self",
    .code "Self", .code "crate"]

/-- The words that open a function type. -/
def functionWords : List String := ["fn", "unsafe", "extern"]

/-- Whether a further bound may come next. -/
def boundNext (constants : Bool) (tokens : List Placed) : Bool :=
  anyIdentifierNext tokens || signNext "::" tokens || signNext "?" tokens ||
    lifetimeNext tokens || opens .parenthesis tokens || constants && opens .bracket tokens

/-- Whether a name and a colon come next. -/
def namedNext (alsoSelf : Bool) (tokens : List Placed) : Bool :=
  (identifierNext tokens || wordComesNext "_" tokens ||
      alsoSelf && wordComesNext "self" tokens) &&
    signNext ":" (second tokens) && !signNext "::" (second tokens)

/-- Whether the dots that stand for further arguments come next, after a name or without one. -/
def variadicNext (tokens : List Placed) : Bool :=
  signNext "..." tokens ||
    (identifierNext tokens || wordComesNext "_" tokens) && signNext ":" (second tokens) &&
      signNext "..." (third tokens)

/-- Whether the next word is mutable and the one after it is the value itself. -/
def mutableSelfNext (tokens : List Placed) : Bool :=
  wordComesNext "mut" tokens && wordComesNext "self" (second tokens)

/-- The traits and the end of what else there is in a list of bounds, and whether a plus sign comes
after the first one. -/
structure BoundsForm where
  trait : Bool
  stop : Position
  several : Bool := false

/-- A list of bounds with one more. -/
def BoundsForm.add (form : BoundsForm) : BoundForm → BoundsForm
  | .trait => { form with trait := true }
  | .other stop => { form with stop }

/-- The dots that stand for further arguments, after a name or without one. -/
def variadicArgument : Phrase Unit := do
  if !signNext "..." (← rest) then
    copy
    sign ":"
  sign "..."
  discard (optionalSign ",")

namespace Grammar

variable (grammar : Grammar)

/-! ## Lifetimes that are bound -/

/-- A parameter that is bound before a type: a type, a lifetime or a constant. A colon without
bounds after it is not written. -/
def parameter : Phrase Unit := do
  let _ ← grammar.attributes
  let ends := fun tokens =>
    atEnd tokens || signNext "," tokens || signNext ">" tokens || signNext "=" tokens
  let constrained (bounds : Phrase Bool) : Phrase Unit := do
    if signNext ":" (← rest) then
      let (any, tokens) ← captured do
        sign ":"
        bounds
      if any then write tokens
  let tokens ← rest
  if identifierNext tokens then
    identifier
    constrained (grammar.bounds ends)
    if ← optionalSign "=" then grammar.anyType
  else if lifetimeNext tokens then
    lifetime
    constrained do
      let any := !ends (← rest)
      grammar.repeated do
        if ends (← rest) then return false
        lifetime
        optionalSign "+"
      return any
  else if wordComesNext "const" tokens then
    copy
    identifier
    sign ":"
    grammar.anyType
    if ← optionalSign "=" then grammar.constant
  else unmet [.identifier, .lifetime, .code "const"]

/-- Parameters that are bound before a type or a closure. -/
def binder : Phrase Unit := do
  word "for"
  sign "<"
  separated (signNext ">") grammar.parameter grammar.size
  sign ">"

/-! ## Bounds -/

/-- A list of captured parameters, of which lifetimes are written first. The answer is where it
ends. -/
def captures : Phrase Position := do
  word "use"
  sign "<"
  let parameter : Phrase Bool := do
    let tokens ← rest
    if lifetimeNext tokens then
      lifetime
      return true
    else if identifierNext tokens || wordComesNext "Self" tokens then
      copy
      return false
    else unmet [.lifetime, .identifier, .code ">"]
  let separatedParameter : Phrase Bool := do
    let isLifetime ← parameter
    let tokens ← rest
    if signNext "," tokens || signNext ">" tokens then return isLifetime
    else unmet [.code ",", .code ">"]
  let parameters ← angledArguments separatedParameter grammar.size
  write (arranged parameters)
  let stop := (nextSpan (← rest)).stop
  sign ">"
  return stop

/-- A trait, with the parameters that are bound in it. The answer tells whether it is constant. -/
def trait (constants : Bool) : Phrase Bool := do
  let bound := wordComesNext "for" (← rest)
  if bound then grammar.binder
  let tokens ← rest
  let conditional := opens .bracket tokens
  let constant := wordComesNext "const" tokens
  if conditional then
    group .bracket (word "const")
    if !constants then failAt (wholeSpan tokens) (.restricted .conditionalConstant)
  else if constant then
    copy
    if !constants then failAt (nextSpan tokens) (.restricted .constant)
  let tokens ← rest
  let relaxed ← optionalSign "?"
  let bound ← if relaxed && !bound && wordComesNext "for" (← rest) then
      grammar.binder
      pure true
    else pure bound
  let form ← grammar.path false
  if form.isOpen && parenthesesNext (← rest) then discard (grammar.parenthesizedArguments form)
  if bound && relaxed then failAt (nextSpan tokens) (.restricted .binder)
  return conditional || constant

/-- A bound: a lifetime, a list of captures, or a trait in parentheses or without. A constant trait
is written as it stands. -/
def boundBody (captures constants : Bool) : Phrase BoundForm := do
  let start ← rest
  if lifetimeNext start then
    lifetime
    return .other (nextSpan (start.drop 1)).stop
  else if wordComesNext "use" start then
    let stop ← grammar.captures
    if captures then return .other stop
    else failAt ⟨(nextSpan start).start, stop⟩ (.restricted .capture)
  else
    let trait : Phrase Bool := grammar.trait constants
    let (constant, tokens) ← captured
      (if opens .parenthesis start then group .parenthesis trait else trait)
    if constant then write ((between start (← rest)).map (·.token)) else write tokens
    return .trait

/-- Bounds after plus signs, the last sign with a bound or without. -/
def furtherBounds (captures constants : Bool) : Nat → BoundsForm → Phrase BoundsForm
  | 0, form => return form
  | bound + 1, form => do
    if ← optionalSign "+" then
      let form := { form with several := true }
      if boundNext constants (← rest) then
        furtherBounds captures constants bound (form.add (← grammar.bound captures constants))
      else return form
    else return form

/-- Bounds joined by plus signs, or a single one unless `sums`. -/
def boundList (sums captures constants : Bool) : Phrase BoundsForm := do
  let stop := (nextSpan (← rest)).stop
  let empty : BoundsForm := { trait := false, stop }
  let first := empty.add (← grammar.bound captures constants)
  if sums then grammar.furtherBounds captures constants grammar.size first else return first

/-- The bounds of an object type that begins at a place. -/
def objectBounds (sums : Bool) (start : Position) : Phrase BoundsForm := do
  let form ← grammar.boundList sums false false
  if form.trait then return form
  else failAt ⟨start, form.stop⟩ (.restricted .objectWithoutTrait)

/-! ## Functions -/

/-- An argument of a function type, with a name or without one. The first one may be the value
itself; where that is mutable, the argument is written as it stands. -/
def functionArgument (first : Bool) : Phrase Unit := do
  let tokens ← rest
  if first && mutableSelfNext tokens then
    verbatim do
      copy
      if namedNext true (← rest) then
        copy
        sign ":"
        grammar.anyType
      else copy
  else
    if namedNext first tokens then
      copy
      sign ":"
    grammar.anyType

/-- The arguments of a function type. The bound is on their number. -/
def functionArguments (first : Bool) : Nat → Phrase Unit
  | 0 => return
  | bound + 1 => do
    if atEnd (← rest) then return
    let _ ← grammar.attributes
    if variadicNext (← rest) then variadicArgument
    else
      grammar.functionArgument first
      if atEnd (← rest) then return
      sign ","
      functionArguments false bound

/-- A function type. -/
def functionType : Phrase Unit := do
  let _ ← optionalWord "unsafe"
  if ← optionalWord "extern" then
    if stringNext (← rest) then copy
  word "fn"
  groupThen .parenthesis (grammar.functionArguments true grammar.size) fun _ =>
    discard grammar.result

/-! ## Types -/

/-- A path as a type, a call that expands to a type, or a list of bounds that begins with a path.
The `binder` is written before a bound. -/
def namedType (binder : Option (List Token)) (sums : Bool) : Phrase TypeForm := do
  let (form, tokens) ← captured grammar.typePath
  let next ← rest
  if !form.qualified && form.plain && signNext "!" next && !signNext "!=" next then
    write tokens
    sign "!"
    anyGroup
    return .other
  else if !form.qualified && (binder.isSome || sums && signNext "+" next) then
    write (binder.getD [] ++ tokens)
    let bounds : BoundsForm := { trait := true, stop := (nextSpan next).stop }
    let bounds ← if sums then grammar.furtherBounds false false grammar.size bounds
      else pure bounds
    return if bounds.several then .other else .bound
  else
    write tokens
    return form.type

/-- Bounds after plus signs, each of them with a bound. The answer tells whether there are any. -/
def plusBounds : Phrase Bool := do
  let any := signNext "+" (← rest)
  grammar.repeated do
    if ← optionalSign "+" then
      discard (grammar.bound false false)
      return true
    else return false
  return any

/-- What stands between parentheses in a type. The answer tells what the whole is, or nothing if it
is a type that a plus sign may follow. -/
def parenthesizedContent : Phrase (Option TypeForm × TypeForm) := do
  let tokens ← rest
  if atEnd tokens then return (some .other, .other)
  else if lifetimeNext tokens then
    let _ ← grammar.objectBounds true (nextSpan tokens).start
    return (some .grouped, .other)
  else if signNext "?" tokens then
    let _ ← grammar.trait false
    return (none, .bound)
  else
    let first ← grammar.type true
    if ← optionalSign "," then
      grammar.list grammar.anyType
      return (some .other, .other)
    else return (none, first)

/-- A tuple, a type in parentheses, or a list of bounds that begins with one in parentheses. -/
def parenthesizedType (sums : Bool) : Phrase TypeForm := do
  let relaxed := signNext "?" ((← rest).drop 1)
  groupThen .parenthesis grammar.parenthesizedContent fun (whole, first) => do
    match whole with
    | some form => return form
    | none =>
      if relaxed then return if ← grammar.plusBounds then .other else .bound
      else if sums && [.name, .path, .bound].contains first && signNext "+" (← rest) then
        discard grammar.plusBounds
        return .other
      else return .grouped

/-- An object type after a word. A pointer-like one is written as it stands. -/
def objectType (sums : Bool) : Phrase Unit := do
  let start := (nextSpan (← rest)).start
  let object : Phrase Unit := do
    word "dyn"
    let _ ← optionalSign "*"
    discard (grammar.objectBounds sums start)
  if signNext "*" (second (← rest)) then verbatim object else object

/-- A type that implements traits. -/
def implementationType (sums : Bool) : Phrase Unit := do
  let start := (nextSpan (← rest)).start
  word "impl"
  let form ← grammar.boundList sums true true
  if !form.trait then failAt ⟨start, form.stop⟩ (.restricted .boundsWithoutTrait)

/-- An array or a slice. -/
def arrayType : Phrase Unit :=
  group .bracket do
    grammar.anyType
    if ← optionalSign ";" then grammar.expression

/-- A pointer. -/
def pointerType : Phrase Unit := do
  sign "*"
  if anyWordNext ["const", "mut"] (← rest) then copy else unmet [.code "const", .code "mut"]
  discard (grammar.type false)

/-- A reference. -/
def referenceType : Phrase Unit := do
  sign "&"
  optionalLifetime
  let _ ← optionalWord "mut"
  discard (grammar.type false)

/-- A type after parameters that are bound in it. -/
def boundType (sums : Bool) : Phrase TypeForm := do
  let (_, binder) ← captured grammar.binder
  let tokens ← rest
  if anyWordNext functionWords tokens then
    write binder
    grammar.functionType
    return .other
  else if segmentNext tokens then grammar.namedType (some binder) sums
  else unmet boundTypeChoices

/-- A type, which may be a sum of bounds if `sums`. -/
def typeBody (sums : Bool) : Phrase TypeForm := do
  let tokens ← rest
  let other (phrase : Phrase Unit) : Phrase TypeForm := do
    phrase
    return .other
  if wordComesNext "for" tokens then grammar.boundType sums
  else if opens .parenthesis tokens then grammar.parenthesizedType sums
  else if anyWordNext functionWords tokens then other grammar.functionType
  else if segmentNext tokens || signNext "::" tokens || signNext "<" tokens then
    grammar.namedType none sums
  else if wordComesNext "dyn" tokens then other (grammar.objectType sums)
  else if opens .bracket tokens then other grammar.arrayType
  else if signNext "*" tokens then other grammar.pointerType
  else if signNext "&" tokens then other grammar.referenceType
  else if signNext "!" tokens then other (sign "!")
  else if wordComesNext "impl" tokens then other (grammar.implementationType sums)
  else if wordComesNext "_" tokens then other copy
  else if lifetimeNext tokens then
    other (discard (grammar.objectBounds true (nextSpan tokens).start))
  else unmet typeChoices

end Grammar

end StatSchema.Phrase
