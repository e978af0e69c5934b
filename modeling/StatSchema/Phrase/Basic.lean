/-
Phrases of code: constructs that are read from placed tokens and written as plain ones. A reader of
phrases writes what it takes, with signs in their usual form: of the characters of a sign, all but
the last are joint. Tokens that nothing accounts for may be left over in a group; the first of them
is kept and does not stop the reader. How far a reader is goes together with a proof that it is at a
place where every group that it has entered is closed again.
-/
import StatSchema.SyntaxError
import StatSchema.Token.Remains

namespace StatSchema

open Token Lookahead

namespace Phrase

/-- How far a reader of a source is. -/
structure Progress (source : List Placed) where
  /-- The tokens that are left. -/
  rest : List Placed
  /-- The tokens that are written, the last one first. -/
  written : List Token := []
  /-- The first token that was left over in a group. -/
  leftover : Option SyntaxError := none
  remains : Remains source rest

/-- The beginning of a source. -/
def Progress.start (source : List Placed) : Progress source where
  rest := source
  remains := .refl source

end Phrase

/-- A reader of phrases, from whatever source. -/
abbrev Phrase (α : Type) :=
  {source : List Placed} → StateT (Phrase.Progress source) (Except SyntaxError) α

namespace Phrase

/-! ## What is left and what is written -/

/-- The tokens that are left. -/
def rest : Phrase (List Placed) := do return (← get).rest

/-- Writes tokens. -/
def write (tokens : List Token) : Phrase Unit :=
  modify fun progress => { progress with written := tokens.reverse ++ progress.written }

/-- The tokens from one rest up to another. -/
def between (start stop : List Placed) : List Placed := start.take (start.length - stop.length)

/-- Takes tokens, none of which is a delimiter, without writing them. -/
def skip (count : Nat) : Phrase Unit :=
  modify fun progress =>
    { progress with
      rest := past count progress.rest
      remains := progress.remains.trans (.past count _) }

/-- Takes the next token, which is no delimiter, and writes it as it is. -/
def copy : Phrase Unit := do
  let start ← rest
  skip 1
  write ((between start (← rest)).map (·.token))

/-- Takes back the tokens that were written last. -/
def takeBack (count : Nat) : Phrase Unit :=
  modify fun progress => { progress with written := progress.written.drop count }

/-- What a reader answers, and what it writes, which is not written yet. -/
def captured {α : Type} (phrase : Phrase α) : Phrase (α × List Token) := do
  let before := (← get).written
  modify ({ · with written := [] })
  let answer ← phrase
  let written := (← get).written
  modify ({ · with written := before })
  return (answer, written.reverse)

/-- A phrase that is written with the very tokens that it is read from. -/
def verbatim {α : Type} (phrase : Phrase α) : Phrase α := do
  let start ← rest
  let (answer, _) ← captured phrase
  write ((between start (← rest)).map (·.token))
  return answer

/-! ## Failing -/

/-- Fails at a given place. -/
def failAt {α : Type} (span : Span) (problem : SyntaxProblem) : Phrase α :=
  throw ⟨problem, span⟩

/-- Fails at the next token. -/
def fail {α : Type} (problem : SyntaxProblem) : Phrase α := do
  failAt (nextSpan (← rest)) problem

/-- Fails for want of one of the choices. -/
def unmet {α : Type} (choices : List Expectation) : Phrase α := do
  fail (.expected choices (atEnd (← rest)))

/-! ## Single tokens -/

/-- A sign. -/
def sign (text : String) : Phrase Unit := do
  if signNext text (← rest) then
    skip text.length
    write (operator text.toList)
  else fail (.missing text)

/-- Takes a sign, if it comes next, and tells whether it did. -/
def optionalSign (text : String) : Phrase Bool := do
  if signNext text (← rest) then
    sign text
    return true
  else return false

/-- A word of the language. -/
def word (text : String) : Phrase Unit := do
  if wordComesNext text (← rest) then copy else unmet [.code text]

/-- Takes a word, if it comes next, and tells whether it did. -/
def optionalWord (text : String) : Phrase Bool := do
  if wordComesNext text (← rest) then
    copy
    return true
  else return false

/-- An identifier that is no word of the language. -/
def identifier : Phrase Unit := do
  match ← rest with
  | ⟨.identifier name, _⟩ :: _ =>
    if Identifier.keywords.contains name then fail (.keyword name) else copy
  | _ => unmet [.identifier]

/-- A lifetime. -/
def lifetime : Phrase Unit := do
  if lifetimeNext (← rest) then
    copy
    copy
  else unmet [.lifetime]

/-- Takes a lifetime, if it comes next. -/
def optionalLifetime : Phrase Unit := do
  if lifetimeNext (← rest) then lifetime

/-- A literal. -/
def literal : Phrase Unit := do
  match literalLength (← rest) with
  | 0 => unmet [.literal]
  | 1 => copy
  | _ =>
    sign "-"
    copy

/-! ## Repetition -/

/-- Takes steps until one answers that it was the last. The bound is on their number. -/
def steps (step : Phrase Bool) : Nat → Phrase Unit
  | 0 => return
  | bound + 1 => do
    if ← step then steps step bound

/-- Entries separated by commas up to what ends them, the last of them with a comma or without. The
bound is on their number. -/
def separated (ends : List Placed → Bool) (entry : Phrase Unit) (bound : Nat) : Phrase Unit :=
  steps (do
    if ends (← rest) then return false
    entry
    if ends (← rest) then return false
    sign ","
    return true) bound

/-! ## Groups -/

/-- Keeps the first of the tokens that are left over before the end of a group. -/
def keepLeftover (delimiter : Delimiter) (left : List Placed) : Phrase Unit :=
  modify fun progress =>
    if atEnd left then progress
    else { progress with
      leftover := progress.leftover.or (some ⟨.leftover delimiter, wholeSpan left⟩) }

namespace Progress

variable {source : List Placed}

/-- The beginning of the group that comes next. -/
def entered (progress : Progress source) : Progress progress.rest.tail where
  rest := progress.rest.tail
  written := (progress.rest.take 1).map (·.token) ++ progress.written
  leftover := progress.leftover
  remains := .refl _

/-- What is behind the group that comes next, once some of the group has been read. -/
def left (progress : Progress source) (within : Progress progress.rest.tail)
    (opened : opensGroup progress.rest = true) : Progress source where
  rest := (fromClosing 0 within.rest).tail
  written := ((fromClosing 0 within.rest).take 1).map (·.token) ++ within.written
  leftover := within.leftover
  remains := progress.remains.trans (within.remains.group opened)

end Progress

/-- A group with something after it that belongs to the same phrase. -/
def groupThen {α β : Type} (delimiter : Delimiter) (content : Phrase α) (after : α → Phrase β) :
    Phrase β := do
  let progress ← get
  if opened : opens delimiter progress.rest = true then
    let (inside, within) ← StateT.lift (content progress.entered)
    set (progress.left within (opensGroup_of_opens opened))
    let answer ← after inside
    keepLeftover delimiter within.rest
    return answer
  else unmet [.group delimiter]

/-- A group. -/
def group {α : Type} (delimiter : Delimiter) (content : Phrase α) : Phrase α :=
  groupThen delimiter content fun answer => return answer

/-- A group of any kind, whatever it holds. -/
def anyGroup : Phrase Unit := do
  let tokens ← rest
  if opensGroup tokens then
    write ((between tokens (second tokens)).map (·.token))
    modify fun progress =>
      { progress with
        rest := second progress.rest
        remains := progress.remains.trans (.second _) }
  else unmet [.delimiter]

end Phrase

end StatSchema
