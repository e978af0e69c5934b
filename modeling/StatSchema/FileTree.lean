/-
Trees of files, as far as one program sees and changes them: files of bytes in directories, read and
written by relative paths. The root is its own parent. A path with a slash at its end only names a
directory.
-/
namespace StatSchema

/-- Why a file cannot be read or written. -/
inductive AccessProblem where
  | missing
  | isDirectory
  | notDirectory
  /-- The file holds bytes that are no text. -/
  | notText
  /-- The path holds a zero character, which no name can. -/
  | unnameable
  | other (reason : String)
  deriving DecidableEq, Repr

/-- The reason in words. -/
def AccessProblem.text : AccessProblem → String
  | missing => "No such file or directory (os error 2)"
  | isDirectory => "Is a directory (os error 21)"
  | notDirectory => "Not a directory (os error 20)"
  | notText => "stream did not contain valid UTF-8"
  | unnameable => "file name contained an unexpected NUL byte"
  | other reason => reason

/-- What stands at a place in a tree. -/
inductive FileNode where
  | file (content : ByteArray)
  | directory

/-- A place in a tree: the names on the way from the root. -/
abbrev Place := List String

/-- The places below the root that are not empty. -/
structure FileTree where
  nodes : List (Place × FileNode) := []

namespace FileTree

/-- What stands at a place. -/
def node? (tree : FileTree) (place : Place) : Option FileNode :=
  if place.isEmpty then some .directory else tree.nodes.lookup place

/-- A tree with a node put at a place. -/
def put (tree : FileTree) (place : Place) (node : FileNode) : FileTree :=
  { nodes := (place, node) :: tree.nodes }

/-- The place that a path leads to from the directory at `place`, whatever stands there. Every step
but the last must lead to a directory. -/
def walk (tree : FileTree) (place : Place) : List String → Except AccessProblem Place
  | [] => .ok place
  | step :: rest =>
    match tree.node? place with
    | none => .error .missing
    | some (.file _) => .error .notDirectory
    | some .directory =>
      let next :=
        if step.isEmpty || step = "." then place
        else if step = ".." then place.dropLast
        else place ++ [step]
      walk tree next rest

/-- The steps of a path. -/
def steps (path : String) : List String :=
  (path.toList.splitOn '/').map String.ofList

/-- The steps of a path that may lead somewhere. -/
def steps? (path : String) : Except AccessProblem (List String) :=
  if path.toList.contains '\x00' then .error .unnameable
  else if path.isEmpty then .error .missing
  else .ok (steps path)

/-- The bytes of the file at the end of a path. -/
def readBytes (tree : FileTree) (path : String) : Except AccessProblem ByteArray := do
  match tree.node? (← tree.walk [] (← steps? path)) with
  | some (.file content) => return content
  | some .directory => throw .isDirectory
  | none => throw .missing

/-- The text of the file at the end of a path. -/
def read (tree : FileTree) (path : String) : Except AccessProblem String := do
  match String.fromUTF8? (← tree.readBytes path) with
  | some text => return text
  | none => throw .notText

/-- The tree with a text written to the end of a path. -/
def write (tree : FileTree) (path text : String) : Except AccessProblem FileTree := do
  let steps ← steps? path
  let named := (steps.reverse.dropWhile (·.isEmpty)).reverse
  let place ← tree.walk [] named.dropLast
  match tree.node? place with
  | none => throw .missing
  | some (.file _) => throw .notDirectory
  | some .directory =>
    let name := named.getLast?.getD ""
    let target := place ++ [name]
    let isDirectory := match tree.node? target with
      | some .directory => true
      | _ => false
    if named.length < steps.length || ["", ".", ".."].contains name || isDirectory then
      throw .isDirectory
    else return tree.put target (.file text.toUTF8)

/-- The directories on the way to a place, from the root down. -/
def parents (place : Place) : List Place := (List.range' 1 (place.length - 1)).map place.take

/-- A tree with a directory at a place where there was nothing. -/
def ensure (tree : FileTree) (place : Place) : FileTree :=
  if (tree.node? place).isSome then tree else tree.put place .directory

/-- The tree with the given nodes at the ends of the given paths, and all directories on the way. -/
def ofList (nodes : List (String × FileNode)) : FileTree :=
  nodes.foldl
    (fun tree (path, node) =>
      let place := steps path
      ((parents place).foldl ensure tree).put place node)
    {}

end FileTree

end StatSchema
