/-
Tables while a document is read. A table remembers what opened it, since that decides what may still
be added: a header opens a table once, the longer header that only passes through a table leaves it
to be opened, and dotted keys add to no table but those that dotted keys made. Inline tables and
listed arrays are closed.
-/
import StatSchema.Toml.Value

namespace StatSchema.Toml

/-- What opened a table. -/
inductive Origin where
  /-- Its own header. -/
  | header
  /-- The header of a table inside it. -/
  | passage
  /-- A dotted key. -/
  | dottedKey
  deriving DecidableEq, Repr

/-- What a key stands for while a document is read. -/
inductive Node where
  | closed (value : Value)
  | table (origin : Origin) (entries : List (String × Node))
  /-- The tables of one double-bracketed header; only the last is still open. -/
  | tables (earlier : List Value) (last : List (String × Node))
  deriving Repr

/-- The entries of an open table, in the order in which they were added. -/
abbrev Entries := List (String × Node)

/-! ## Closing -/

mutual

/-- The value of a node to which nothing more is added. -/
def Node.value : Node → Value
  | .closed value => value
  | .table _ entries => .table (sorted (values entries))
  | .tables earlier last => .array (earlier ++ [.table (sorted (values last))])

/-- The values of entries to which nothing more is added. -/
def values : List (String × Node) → List (String × Value)
  | [] => []
  | (key, node) :: rest => (key, node.value) :: values rest

end

/-- The table of entries to which nothing more is added. -/
def Entries.close (entries : Entries) : Table := sorted (values entries)

/-! ## Adding -/

/-- Entries with the node of a key that they hold replaced. -/
def Entries.replace (entries : Entries) (key : String) (node : Node) : Entries :=
  entries.map fun entry => if entry.1 = key then (key, node) else entry

/-- Changes the table at the end of a path. Tables on the way are made as they are needed; the last
one of an array stands for the array. -/
def Entries.along (byKey : Bool) (change : Origin → Entries → Option Entries) (origin : Origin)
    (entries : Entries) : List String → Option Entries
  | [] => change origin entries
  | key :: rest =>
    match entries.lookup key with
    | none => do
      let made : Origin := if byKey then .dottedKey else .passage
      let inner ← along byKey change made [] rest
      return entries ++ [(key, .table made inner)]
    | some (.table origin inner) =>
      if byKey && origin = .header then none
      else do return entries.replace key (.table origin (← along byKey change origin inner rest))
    | some (.tables earlier last) => do
      return entries.replace key (.tables earlier (← along byKey change .header last rest))
    | some (.closed _) => none

/-- Adds a value under a key that is not taken yet. -/
def Entries.add (entries : Entries) (key : String) (value : Value) : Option Entries :=
  if (entries.lookup key).isSome then none else some (entries ++ [(key, .closed value)])

/-- A dotted key: the tables it leads through and the last part. -/
structure DottedKey where
  tables : List String
  last : String
  deriving DecidableEq, Repr

/-- Adds a value under a dotted key. -/
def Entries.set (entries : Entries) (key : DottedKey) (value : Value) : Option Entries :=
  let dotted := !key.tables.isEmpty
  entries.along dotted
    (fun origin entries =>
      if dotted && origin ≠ .dottedKey then none else entries.add key.last value)
    .header key.tables

/-- Adds values under dotted keys one after the other. -/
def Entries.setAll (entries : Entries) (assignments : List (DottedKey × Value)) : Option Entries :=
  assignments.foldlM (fun entries (key, value) => entries.set key value) entries

/-! ## Sections -/

/-- A header and the assignments after it. -/
structure Section where
  key : DottedKey
  /-- Whether the header is in double brackets, and so adds a table to an array. -/
  repeated : Bool
  assignments : List (DottedKey × Value)
  deriving Repr

/-- The table that a section opens, given what its key stands for so far. -/
def Section.open? (opened : Section) : Option Node → Option Node
  | none => do
    let entries ← Entries.setAll [] opened.assignments
    return if opened.repeated then .tables [] entries else .table .header entries
  | some (.table .passage entries) =>
    if opened.repeated then none
    else do return .table .header (← Entries.setAll entries opened.assignments)
  | some (.tables earlier last) =>
    if opened.repeated then do
      let entries ← Entries.setAll [] opened.assignments
      return .tables (earlier ++ [.table (Entries.close last)]) entries
    else none
  | some _ => none

/-- Adds a section to a document. -/
def Entries.addSection (entries : Entries) (opened : Section) : Option Entries :=
  entries.along false
    (fun _ entries => do
      let previous := entries.lookup opened.key.last
      let node ← opened.open? previous
      return if previous.isSome then entries.replace opened.key.last node
        else entries ++ [(opened.key.last, node)])
    .header opened.key.tables

/-- The document of the assignments before the first header and of the sections. -/
def document? (assignments : List (DottedKey × Value)) (sections : List Section) :
    Option Table := do
  let entries ← Entries.setAll [] assignments
  let entries ← sections.foldlM Entries.addSection entries
  return Entries.close entries

end StatSchema.Toml
