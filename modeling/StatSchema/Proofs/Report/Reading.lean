/-
What generated reports write, read from their tokens. A statement that writes a line has a format and
calls an accessor; it writes the format filled with the answer. A report of an aggregator is made of
sections, and which ones is told by the code that renders it. Statements of no known form write nothing,
and an accessor that stops leaves no text.
-/
import StatSchema.Proofs.Artifact.Aggregation
import StatSchema.Proofs.Quotation
import StatSchema.Proofs.Report.Formats

namespace StatSchema

open Token

/-- The methods that an item gives to a type for its display. -/
def Item.displaysOf (type : String) : Item → List Routine
  | .implementation _ interface target methods =>
    if interface = Artifact.displayInterface ∧ target = type then methods else []
  | _ => []

namespace Artifact

/-- The code that a type is displayed by. No type may have two. -/
def display? (artifact : Artifact) (type : String) : Option (List Token) :=
  match artifact.items.flatMap (Item.displaysOf type) with
  | [method] => if method = displayMethod method.body then some method.body else none
  | _ => none

/-! ## Lines -/

/-- The formats and accessors of the statements that a body writes lines with, up to its success. -/
def lines? : List Token → Option (List (String × String))
  | .punctuation ':' .joint :: .punctuation ':' .alone :: .identifier "core" ::
      .punctuation ':' .joint :: .punctuation ':' .alone :: .identifier "writeln" ::
      .punctuation '!' .alone :: .opening .parenthesis :: .identifier "f" ::
      .punctuation ',' .alone :: .literal format :: .punctuation ',' .alone ::
      .identifier "self" :: .punctuation '.' .alone :: .identifier accessor ::
      .opening .parenthesis :: .closing .parenthesis :: .closing .parenthesis ::
      .punctuation '?' .alone :: .punctuation ';' .alone :: rest =>
    (stringValue? format).bind fun format => (lines? rest).map ((format, accessor) :: ·)
  | tokens => if tokens = written then some [] else none

/-- What lines write: each its format, filled with what its accessor answers, and a line break. -/
def Writes (artifact : Artifact) (overflow : Overflow) (type : String) (receiver : Receiver)
    (lines : List (String × String)) (text : String) : Prop :=
  ∃ parts, List.Forall₂ (fun (format, accessor) part => ∃ value filled,
      artifact.Answers overflow type receiver accessor (.ok value) ∧
      formatted? value.text.toList false format.toList = some filled ∧
      part = String.ofList filled ++ "\n") lines parts ∧
    text = String.join parts

/-- The text that a record is displayed as. -/
def Shows (artifact : Artifact) (overflow : Overflow) (type : String) (words : Words)
    (text : String) : Prop :=
  ∃ body lines, artifact.display? type = some body ∧ lines? body = some lines ∧
    artifact.Writes overflow type (.record words) lines text

/-- The text that a type summarizes a ledger in. -/
def Summarizes (artifact : Artifact) (overflow : Overflow) (type : String) (ledger : Ledger Words)
    (text : String) : Prop :=
  ∃ routine lines, artifact.method? type "write_summary" = some routine ∧
    lines? routine.body = some lines ∧
    artifact.Writes overflow type (.aggregator ledger) lines text

/-! ## Sections -/

/-- A part of the report of an aggregator. -/
inductive Section where
  | summary
  /-- The displays of all records, each under its header and before an empty line. -/
  | entries
  deriving DecidableEq

/-- The sections that a body writes to a new string, which it returns. -/
def returnedSections? (runtime : Path) (perRecord : Bool) (body : List Token) :
    Option (List Section) :=
  if body = code "let mut output = :: std :: string :: String :: new" ++ parens [] ++ code ";" ++
      code "self . write_summary" ++ parens (code "& mut output") ++ infallibly ++
      code "if per_record" ++
        braces (writeEntries runtime (code "& mut output") ++ infallibly) ++
      name "output" then
    some (.summary :: if perRecord then [.entries] else [])
  else none

/-- The sections that a body writes to what it is given. -/
def displayedSections? (runtime : Path) (body : List Token) : Option (List Section) :=
  if body = code "self . write_summary" ++ parens (name "f") ++ code "? ;" ++
      writeEntries runtime (name "f") then
    some [.summary, .entries]
  else none

section Rendering

variable (artifact : Artifact) (overflow : Overflow) (names : TypeNames) (runtime : Path)

/-- The text of a section. -/
def WritesSection (ledger : Ledger Words) : Section → String → Prop
  | .summary, text => artifact.Summarizes overflow names.aggregator ledger text
  | .entries, text => ∃ reports,
      List.Forall₂ (artifact.Shows overflow names.record) ledger.entries reports ∧
      text = (Ledger.mk reports).text id

/-- The text of some sections. -/
def WritesSections (ledger : Ledger Words) (sections : List Section) (text : String) : Prop :=
  ∃ parts, List.Forall₂ (artifact.WritesSection overflow names ledger) sections parts ∧
    text = String.join parts

/-- The text that the method for results returns. -/
def Returns (perRecord : Bool) (ledger : Ledger Words) (text : String) : Prop :=
  ∃ routine sections, artifact.method? names.aggregator "results" = some routine ∧
    returnedSections? runtime perRecord routine.body = some sections ∧
    artifact.WritesSections overflow names ledger sections text

/-- The text that an aggregator is displayed as. -/
def Displays (ledger : Ledger Words) (text : String) : Prop :=
  ∃ body sections, artifact.display? names.aggregator = some body ∧
    displayedSections? runtime body = some sections ∧
    artifact.WritesSections overflow names ledger sections text

end Rendering

end Artifact

end StatSchema
