/-
What generated code does when it runs, read from its tokens. A method is found by its name among
those of its type, where no other may have that name; a field is found by its name among the words of
a record. Of the thread at work and of the aggregator at hand there is a cell with the live record
and a ledger of records. Statements of no known form do not run.
-/
import StatSchema.Proofs.Artifact.Layout

namespace StatSchema

open Token

/-- A record as its code sees it: its words under the identifiers of the fields. -/
abbrev Words := List (String × UInt64)

namespace Words

/-- Words with one of them replaced. -/
def store (words : Words) (field : String) (value : UInt64) : Words :=
  words.map fun (name, word) => (name, if name = field then value else word)

/-- Words that are all zero, as a default record has them. -/
def zeroed (words : Words) : Words := words.map fun (name, _) => (name, 0)

end Words

/-- What a hook works on: the cell of the current thread, by its name, and an aggregator. -/
structure Memory where
  cell : String
  current : Words
  ledger : Ledger Words

namespace Artifact

/-- The method of a type that is meant by a name. No type may have two of one name. -/
def method? (artifact : Artifact) (type name : String) : Option Routine :=
  match (artifact.methodsOf type).filter (·.name = name) with
  | [routine] => some routine
  | _ => none

/-! ## Records -/

/-- The words that an expression of zeros fills in, up to the closing brace. -/
def filled : List Token → Option Words
  | [.closing .brace] => some []
  | .identifier field :: .punctuation ':' .alone :: .literal "0" :: .punctuation ',' .alone :: rest =>
    (filled rest).map ((field, 0) :: ·)
  | _ => none

/-- The record that the constructor of a type makes. -/
def constructed? (artifact : Artifact) (type : String) : Option Words := do
  match (← artifact.method? type "new").body with
  | .identifier "Self" :: .opening .brace :: fields => filled fields
  | _ => none

/-- The word of an operand, which is one or the argument in scope. -/
def operand? (argument? : Option (String × UInt64)) : Token → Option UInt64
  | .literal "1" => some 1
  | .identifier name => argument?.bind fun (argument, word) => if name = argument then word else none
  | _ => none

/-- Runs a statement that stores into a field: a sum that wraps around, or the larger of two words. -/
def assign (argument? : Option (String × UInt64)) (words : Words) : List Token → Option Words
  | [.identifier "self", .punctuation '.' .alone, .identifier target, .punctuation '=' .alone,
      .identifier "self", .punctuation '.' .alone, .identifier source, .punctuation '.' .alone,
      .identifier "wrapping_add", .opening .parenthesis, operand, .closing .parenthesis,
      .punctuation ';' .alone] => do
    return words.store target ((← words.lookup source) + (← operand? argument? operand))
  | [.identifier "self", .punctuation '.' .alone, .identifier target, .punctuation '=' .alone,
      .punctuation ':' .joint, .punctuation ':' .alone, .identifier "core",
      .punctuation ':' .joint, .punctuation ':' .alone, .identifier "cmp",
      .punctuation ':' .joint, .punctuation ':' .alone, .identifier "max", .opening .parenthesis,
      .identifier "self", .punctuation '.' .alone, .identifier source, .punctuation ',' .alone,
      operand, .closing .parenthesis, .punctuation ';' .alone] => do
    return words.store target (max (← words.lookup source) (← operand? argument? operand))
  | _ => none

/-- Runs a method that changes a record. One that takes an argument converts it first; the argument
is the word that it is converted to. -/
def change (runtime : Path) (routine : Routine) (argument? : Option UInt64) (words : Words) :
    Option Words :=
  match routine.parameters, argument? with
  | [.punctuation '&' .alone, .identifier "mut", .identifier "self"], none =>
    assign none words routine.body
  | .punctuation '&' .alone :: .identifier "mut" :: .identifier "self" :: .punctuation ',' .alone ::
      .identifier argument :: .punctuation ':' .alone :: type, some word =>
    if type = amountType runtime then
      (routine.body.dropPrefix? (code "let" ++ name argument ++ code "=" ++
        asWord runtime argument ++ code ";")).bind (assign (some (argument, word)) words)
    else none
  | _, _ => none

/-! ## Cells -/

/-- Lends the live record to something that changes it. -/
def lend (artifact : Artifact) (type : String) (memory : Memory)
    (body : Words → Option Words) : Option Memory := do
  match (← artifact.method? type "with_current").body with
  | [.identifier cell, .punctuation '.' .alone, .identifier "with_borrow_mut",
      .opening .parenthesis, .identifier "f", .closing .parenthesis] =>
    if cell = memory.cell then return { memory with current := ← body memory.current } else none
  | _ => none

/-- Takes the live record and leaves a default one. -/
def take (artifact : Artifact) (type : String) (memory : Memory) : Option (Words × Memory) := do
  match (← artifact.method? type "take_current").body with
  | [.identifier cell, .punctuation '.' .alone, .identifier "with_borrow_mut",
      .opening .parenthesis, .punctuation ':' .joint, .punctuation ':' .alone, .identifier "core",
      .punctuation ':' .joint, .punctuation ':' .alone, .identifier "mem",
      .punctuation ':' .joint, .punctuation ':' .alone, .identifier "take",
      .closing .parenthesis] =>
    if cell = memory.cell then
      return (memory.current, { memory with current := memory.current.zeroed })
    else none
  | _ => none

/-! ## Ledgers -/

/-- Publishes a record to the aggregator at hand. -/
def publish (artifact : Artifact) (type : String) (memory : Memory) (words : Words) :
    Option Memory := do
  if (← artifact.method? type "publish").body =
      code "self . ledger . publish" ++ parens (name "record") ++ code ";" then
    return { memory with ledger := memory.ledger.publish words }
  else none

/-- Clears the aggregator at hand. -/
def clear (artifact : Artifact) (type : String) (memory : Memory) : Option Memory := do
  if (← artifact.method? type "clear").body =
      code "self . ledger . clear" ++ parens [] ++ code ";" then
    return { memory with ledger := memory.ledger.clear }
  else none

/-- The records of the aggregator at hand. -/
def records (artifact : Artifact) (type : String) (memory : Memory) : Option (List Words) := do
  if (← artifact.method? type "records").body = code "self . ledger . as_slice" ++ parens [] then
    return memory.ledger.entries
  else none

/-- How many records the aggregator at hand has. -/
def recordCount (artifact : Artifact) (type : String) (memory : Memory) : Option Nat := do
  if (← artifact.method? type "record_count").body = code "self . ledger . len" ++ parens [] then
    return memory.ledger.length
  else none

/-! ## Hooks -/

/-- The one statement of a hook. -/
inductive Work where
  /-- Lends the record of a type to a method of it, perhaps with an argument. -/
  | update (type method : String) (argument? : Option String)
  /-- Publishes what is taken from the cell of a type. -/
  | publish (receiver type : String)
  | clear (receiver : String)
  deriving DecidableEq

/-- The statement that a body is. -/
def Work.read? : List Token → Option Work
  | [.identifier type, .punctuation ':' .joint, .punctuation ':' .alone,
      .identifier "with_current", .opening .parenthesis, .identifier owner,
      .punctuation ':' .joint, .punctuation ':' .alone, .identifier method,
      .closing .parenthesis, .punctuation ';' .alone] =>
    if owner = type then some (.update type method none) else none
  | [.identifier type, .punctuation ':' .joint, .punctuation ':' .alone,
      .identifier "with_current", .opening .parenthesis, .punctuation '|' .alone,
      .identifier bound, .punctuation '|' .alone, .identifier receiver, .punctuation '.' .alone,
      .identifier method, .opening .parenthesis, .identifier argument, .closing .parenthesis,
      .closing .parenthesis, .punctuation ';' .alone] =>
    if receiver = bound then some (.update type method (some argument)) else none
  | [.identifier receiver, .punctuation '.' .alone, .identifier "publish",
      .opening .parenthesis, .identifier type, .punctuation ':' .joint, .punctuation ':' .alone,
      .identifier "take_current", .opening .parenthesis, .closing .parenthesis,
      .closing .parenthesis, .punctuation ';' .alone] =>
    some (.publish receiver type)
  | [.identifier receiver, .punctuation '.' .alone, .identifier "clear", .opening .parenthesis,
      .closing .parenthesis, .punctuation ';' .alone] =>
    some (.clear receiver)
  | _ => none

/-- Runs the statement of a hook with given parameters. A hook that updates a metric is given an
amount, if it has a parameter; others are given the aggregator at hand. -/
def Work.run (artifact : Artifact) (runtime : Path) (parameters : List Token) (amount : UInt64)
    (memory : Memory) : Work → Option Memory
  | .update type method none => do
    let method ← artifact.method? type method
    artifact.lend type memory (change runtime method none)
  | .update type method (some argument) => do
    let method ← artifact.method? type method
    if parameters = name argument ++ code ":" ++ amountType runtime then
      artifact.lend type memory (change runtime method (some amount))
    else none
  | .publish receiver type => do
    match parameters with
    | [.identifier parameter, .punctuation ':' .alone, .punctuation '&' .alone, .identifier "mut",
        .identifier aggregator] =>
      if receiver = parameter then
        let (words, emptied) ← artifact.take type memory
        artifact.publish aggregator emptied words
      else none
    | _ => none
  | .clear receiver =>
    match parameters with
    | [.identifier parameter, .punctuation ':' .alone, .punctuation '&' .alone, .identifier "mut",
        .identifier aggregator] =>
      if receiver = parameter then artifact.clear aggregator memory else none
    | _ => none

/-- Runs a hook, which is given an amount or the aggregator at hand. -/
def runHook (artifact : Artifact) (runtime : Path) (hook : Routine) (amount : UInt64)
    (memory : Memory) : Option Memory := do
  let work ← Work.read? hook.body
  work.run artifact runtime hook.parameters amount memory

end Artifact

end StatSchema
