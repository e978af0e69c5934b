/-
The names of generated items: what an author may choose, and the identifiers that follow from it.
-/
import StatSchema.Compiled
import StatSchema.Path

namespace StatSchema

/-- What an author may choose about names. -/
structure Naming where
  /-- Stands before the name of every hook. -/
  hookPrefix : String := ""
  /-- The record type. -/
  record : String := "PerfStatsRecord"
  /-- The aggregator type. -/
  aggregator : String := "PerfStats"
  /-- The module around everything, if there is one. -/
  module : Option String := none
  /-- Where generated code finds what it runs on. -/
  runtime : Path := { tokens := Token.code ":: tallies" }
  deriving DecidableEq, Repr

/-- The identifiers of the types, of the cell that holds a thread's record, and of the module. -/
structure TypeNames where
  record : String
  aggregator : String
  threadLocal : String
  module : Option String
  deriving DecidableEq, Repr

namespace Naming

/-- The identifier of a type, whose name is not empty and holds no space. -/
def typeIdentifier (name : String) : Except Failure String :=
  if name.isEmpty || name.toList.contains ' ' then refuse (.invalidName name .noSingleIdentifier)
  else identifierOf name

/-- The text that the cell of a record type is named by. -/
def threadLocalText (naming : Naming) : String := Name.upperSnake naming.record ++ "_INSTANCE"

/-- The text that a hook is named by. -/
def hookText (naming : Naming) (hook : String) : String := naming.hookPrefix ++ Name.snake hook

/-- The identifiers of everything but the hooks; the two types must differ. -/
def typeNames (naming : Naming) : Except Failure TypeNames := do
  let record ← typeIdentifier naming.record
  let aggregator ← typeIdentifier naming.aggregator
  let threadLocal ← identifierOf naming.threadLocalText
  let module ← naming.module.mapM identifierOf
  if record = aggregator then refuse (.duplicateName record .typeNames)
  else return { record, aggregator, threadLocal, module }

end Naming

end StatSchema
