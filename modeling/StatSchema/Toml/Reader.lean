/-
Reading TOML documents, version 1.0 with the additions of 1.1: inline tables over several lines and
with a comma after their last entry, escapes by two hexadecimal digits, times without seconds.
Arrays and inline tables nest up to a fixed depth, and a key has no more parts than that. A text
that is no document has no reading; which of its faults comes first makes no difference.
-/
import StatSchema.Toml.Quoted
import StatSchema.Toml.Resolution
import StatSchema.Toml.Tree

namespace StatSchema.Toml

/-- A reader takes characters from the head of what is left. -/
abbrev Reader := StateT (List Char) Option

namespace Reader

/-! ## Space -/

/-- Takes space within a line. -/
def space : Reader Unit := modify (·.dropWhile isLineSpace)

/-- Takes a character that must come next. -/
def expect (c : Char) : Reader Unit := fun text => (after? c text).map ((), ·)

/-- Whether a character comes next; it is taken if it does. -/
def takes (c : Char) : Reader Bool := fun text =>
  match after? c text with
  | some rest => some (true, rest)
  | none => some (false, text)

/-- Takes a comment, if one comes next, up to the end of the line. -/
def comment : Reader Unit := fun text =>
  match text with
  | '#' :: rest =>
    let line := rest.takeWhile isLineChar
    let left := rest.drop line.length
    if left.isEmpty || breakLength left ≠ 0 then some ((), left) else none
  | _ => some ((), text)

/-- Takes what may stand after a statement: space, a comment and the end of the line or of the
document. -/
def lineEnd : Reader Unit := do
  space
  comment
  let text ← get
  if text.isEmpty then return
  else if breakLength text = 0 then failure
  else set (text.drop (breakLength text))

/-- Takes space, comments and line breaks, as many as there are. -/
def blanks : Nat → Reader Unit
  | 0 => return
  | bound + 1 => do
    space
    comment
    let text ← get
    if breakLength text ≠ 0 then
      set (text.drop (breakLength text))
      blanks bound

/-- Takes all space, comments and line breaks. There are no more of them than characters. -/
def gap : Reader Unit := do blanks (← get).length

/-! ## Keys -/

/-- Whether a character may stand in a key without quotes. -/
def isKeyChar (c : Char) : Bool := c.isAlphanum || c = '_' || c = '-'

/-- One part of a key, quoted or not. -/
def keyPart : Reader String := fun text =>
  match quotedLine? text with
  | some (key, rest) => some (String.ofList key, rest)
  | none =>
    let key := text.takeWhile isKeyChar
    if key.isEmpty then none else some (String.ofList key, text.drop key.length)

/-- The parts of a key up to the last one. The bound is on their number. -/
def keyParts : Nat → Reader DottedKey
  | 0 => failure
  | bound + 1 => do
    space
    let part ← keyPart
    space
    if ← takes '.' then
      let more ← keyParts bound
      return { more with tables := part :: more.tables }
    else return { tables := [], last := part }

/-- How deep arrays and inline tables nest, and how many parts a key has at most. -/
def maximalDepth : Nat := 80

/-- A key, with the space around it. -/
def key : Reader DottedKey := keyParts maximalDepth

/-! ## Values -/

/-- Whether a character may stand in a scalar without quotes. -/
def isScalarChar (c : Char) : Bool := c.isAlphanum || ['+', '-', '_', '.', ':'].contains c

/-- The extent of a scalar without quotes: a date takes in the time that follows after one space. -/
def scalarLength (text : List Char) : Nat :=
  let first := (text.takeWhile isScalarChar).length
  match text.drop first with
  | ' ' :: c :: rest =>
    if afterDate? (text.take first) = some [] && c.isDigit then
      first + 1 + ((c :: rest).takeWhile isScalarChar).length
    else first
  | _ => first

/-- A scalar without quotes. -/
def scalar : Reader Value := fun text =>
  (scalar? (text.take (scalarLength text))).map (·, text.drop (scalarLength text))

/-- Entries separated by commas up to a closing mark, the last of them with a comma or without. The
bound is on their number. -/
def separated {α : Type} (close : Char) (entry : Reader α) : Nat → Reader (List α)
  | 0 => failure
  | bound + 1 => do
    gap
    if ← takes close then return []
    let first ← entry
    gap
    if ← takes close then return [first]
    expect ','
    return first :: (← separated close entry bound)

/-- A key and its value, with what may stand `between` them on either side of the equals sign. -/
def assignment (between : Reader Unit) (value : Reader Value) : Reader (DottedKey × Value) := do
  let key ← key
  between
  expect '='
  between
  return (key, ← value)

/-- A value, inside which arrays and inline tables nest no deeper than `depth`. There are no more
entries of one than characters. -/
def value (depth : Nat) : Reader Value := do
  match ← get with
  | '[' :: rest =>
    match depth with
    | 0 => failure
    | depth + 1 =>
      set rest
      return .array (← separated ']' (value depth) (rest.length + 1))
  | '{' :: rest =>
    match depth with
    | 0 => failure
    | depth + 1 =>
      set rest
      let assignments ← separated '}' (assignment gap (value depth)) (rest.length + 1)
      let entries ← (Entries.setAll [] assignments : Option Entries)
      return .table entries.close
  | text =>
    match quoted? text with
    | some (content, rest) =>
      set rest
      return .string (String.ofList content)
    | none => if text.head?.any fun c => c = '"' || c = '\'' then failure else scalar

/-! ## Documents -/

/-- A header, and whether it is in double brackets. -/
def header : Reader (DottedKey × Bool) := do
  expect '['
  let repeated ← takes '['
  let key ← key
  expect ']'
  if repeated then expect ']'
  lineEnd
  return (key, repeated)

/-- Assignments up to a header or the end. The bound is on the number of lines. -/
def assignments : Nat → Reader (List (DottedKey × Value))
  | 0 => return []
  | bound + 1 => do
    gap
    let text ← get
    if text.isEmpty || text.head? = some '[' then return []
    let first ← assignment space (value maximalDepth)
    lineEnd
    return first :: (← assignments bound)

/-- Sections up to the end. The bound is on their number. -/
def sections : Nat → Reader (List Section)
  | 0 => return []
  | bound + 1 => do
    if (← get).isEmpty then return []
    let (key, repeated) ← header
    let content ← assignments (← get).length
    return ⟨key, repeated, content⟩ :: (← sections bound)

/-- The assignments before the first header, and the sections. -/
def parts : Reader (List (DottedKey × Value) × List Section) := do
  let first ← assignments (← get).length
  return (first, ← sections (← get).length)

end Reader

/-- The document that a text is; a byte order mark before it is no part of it. -/
def read (source : String) : Option Table :=
  let text := match source.toList with
    | '\uFEFF' :: rest => rest
    | text => text
  match Reader.parts text with
  | some ((assignments, sections), []) => (document? assignments sections).bind resolveEntries?
  | _ => none

end StatSchema.Toml
