/-
The generator: it reads a configuration from a file or takes the standing one, and writes the source
text to a file or prints it. Nothing is written unless the whole text is there.
-/
import StatSchema.FileTree
import StatSchema.Source
import StatSchema.TransactionLog

namespace StatSchema

/-- Access to files, with effects in any monad. -/
structure FileAccess (m : Type → Type) where
  read : String → m (Except AccessProblem String)
  write : String → String → m (Except AccessProblem Unit)

/-- Access to the files of a tree that is kept as a state. -/
def FileTree.access : FileAccess (StateM FileTree) where
  read path := do return (← get).read path
  write path text := do
    match (← get).write path text with
    | .ok tree =>
      set tree
      return .ok ()
    | .error problem => return .error problem

/-- What to read and where to write. -/
structure Request where
  /-- The file of the configuration; the standing one if there is none. -/
  schema : Option String := none
  /-- The file of the source text; standard output if there is none. -/
  output : Option String := none
  deriving DecidableEq, Repr

/-- Why a request is not met. -/
inductive RequestError where
  | source (error : SourceError)
  | inaccessible (path : String) (problem : AccessProblem)
  deriving DecidableEq, Repr

/-- The message of an error. -/
def RequestError.message : RequestError → String
  | source error => error.message
  | inaccessible path problem => "cannot access " ++ inQuotes path ++ ": " ++ problem.text

namespace Request

variable {m : Type → Type} [Monad m]

/-- The source text that a request is for. -/
def source (files : FileAccess m) (request : Request) : m (Except RequestError String) := do
  match request.schema with
  | none =>
    return (TransactionLog.configuration.source "the embedded schema").mapError .source
  | some path =>
    match ← files.read path with
    | .ok text => return (sourceOf text path).mapError .source
    | .error problem => return .error (.inaccessible path problem)

/-- Meets a request. The answer is what is to be printed. -/
def run (files : FileAccess m) (request : Request) : m (Except RequestError String) := do
  match ← request.source files, request.output with
  | .error error, _ => return .error error
  | .ok source, none => return .ok source
  | .ok source, some path =>
    match ← files.write path source with
    | .ok () => return .ok ""
    | .error problem => return .error (.inaccessible path problem)

end Request

end StatSchema
