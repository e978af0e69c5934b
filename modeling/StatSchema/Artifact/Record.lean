/-
The generated record type: one word per base metric, an accessor for every metric, a mutator for
every base metric, and the cell that holds the record of the current thread.
-/
import StatSchema.Expression
import StatSchema.Item
import StatSchema.Naming

namespace StatSchema.Artifact

open StatSchema.Token

/-- The identifier of something as a token of its own. -/
abbrev name (identifier : String) : List Token := [.identifier identifier]

/-- The attribute that warns when a result goes unused. -/
def mustUse : Attribute := .other (code "must_use")

/-- The attribute of the implementations that hold arithmetic. -/
def arithmeticAllowed : Attribute :=
  .other (.identifier "allow" :: parens (
    code "dead_code , clippy :: arithmetic_side_effects , clippy :: cast_precision_loss ," ++
    code "clippy :: float_arithmetic , clippy :: integer_division , reason =" ++
    [.string "generated statistics code; not every host calls every item"]))

/-- The number type of an accessor, as its result. -/
def resultOf : ValueType → List Token
  | .integer => code "-> u64"
  | .fraction => code "-> f64"

/-- A name in backquotes, as documentation shows it. -/
def shown (metric : String) : String := "`" ++ metric ++ "`"

/-- The accessor of a compound metric. -/
def compoundAccessor (compiled : CompiledSchema) (documentation : String → String)
    (entry : CompoundEntry) : Except Failure Routine := do
  let expression ← compiled.expression entry
  return {
    attributes := [.doc (documentation (shown entry.name)), mustUse]
    name := entry.identifier
    result := resultOf entry.valueType
    body := expression.tokens Entry.identifier }

/-! ## Records -/

/-- The accessor of a field. -/
def fieldAccessor (entry : BaseEntry) : Routine where
  attributes := [.doc ("The " ++ shown entry.name ++ " value of this record."), mustUse]
  qualifiers := code "pub const fn"
  name := entry.identifier
  result := resultOf .integer
  body := code "self ." ++ name entry.identifier

/-- The type of an amount that any number converts to. -/
def amountType (runtime : Path) : List Token :=
  .identifier "impl" :: runtime.tokens ++ code ":: __private :: AsPrimitive < u64 >"

/-- An amount converted to a word. -/
def asWord (runtime : Path) (amount : String) : List Token :=
  runtime.tokens ++ code ":: __private :: AsPrimitive :: < u64 > :: as_" ++ parens (name amount)

/-- Stores a new value in a field. -/
def store (entry : BaseEntry) (value : List Token) : List Token :=
  code "self ." ++ name entry.identifier ++ code "=" ++ value ++ code ";"

/-- Adds to a field, wrapping around. -/
def wrappingAdd (entry : BaseEntry) (amount : String) : List Token :=
  store entry (code "self ." ++ name entry.identifier ++ code ". wrapping_add" ++
    parens (code amount))

/-- The mutator of a field. -/
def mutator (runtime : Path) (entry : BaseEntry) : Routine :=
  let taking (amount documentation : String) (update : List Token) : Routine :=
    { attributes := [.doc documentation]
      name := entry.mutator
      parameters := code "& mut self ," ++ name amount ++ code ":" ++ amountType runtime
      body := code "let" ++ name amount ++ code "=" ++ asWord runtime amount ++ code ";" ++ update }
  match entry.kind with
  | .counter =>
    { attributes := [.doc ("Counts one " ++ shown entry.name ++ " event.")]
      name := entry.mutator
      parameters := code "& mut self"
      body := wrappingAdd entry "1" }
  | .sum =>
    taking "amount" ("Adds `amount` to " ++ shown entry.name ++ ".") (wrappingAdd entry "amount")
  | .max =>
    taking "value" ("Raises " ++ shown entry.name ++ " to `value` if `value` is larger.")
      (store entry (code ":: core :: cmp :: max" ++
        parens (code "self ." ++ name entry.identifier ++ code ", value")))

/-- The record type. -/
def recordType (compiled : CompiledSchema) (names : TypeNames) : Item :=
  .structure
    [.comment (" Statistics collected by one thread. Hooks write to the calling thread's " ++
        "instance"),
      .comment " and `take_current()` moves it out for publishing.",
      .other (name "derive" ++ parens (code "Clone , Copy , Debug , Default , Eq , PartialEq"))]
    names.record (compiled.storage.map fun entry => ⟨entry.identifier, code "u64"⟩)

/-- The constructor of an empty record. -/
def newRecord (compiled : CompiledSchema) : Routine where
  attributes := [.comment " Creates a record with every metric at zero.", mustUse]
  qualifiers := code "pub const fn"
  name := "new"
  parameters := []
  result := code "-> Self"
  body := name "Self" ++
    braces (compiled.storage.flatMap fun entry => name entry.identifier ++ code ": 0 ,")

/-- The method that lends the current thread's record. -/
def withCurrent (names : TypeNames) : Routine where
  attributes := [.comment " Runs `f` with exclusive access to the current thread's record."]
  name := "with_current"
  generics := code "< R >"
  parameters :=
    code "f : impl :: core :: ops :: FnOnce" ++ parens (code "& mut Self") ++ code "-> R"
  result := code "-> R"
  body := name names.threadLocal ++ code ". with_borrow_mut" ++ parens (name "f")

/-- The method that takes the current thread's record and leaves an empty one. -/
def takeCurrent (names : TypeNames) : Routine where
  attributes :=
    [.comment " Moves the current thread's record out, leaving a zeroed record behind.", mustUse]
  name := "take_current"
  parameters := []
  result := code "-> Self"
  body :=
    name names.threadLocal ++ code ". with_borrow_mut" ++ parens (code ":: core :: mem :: take")

/-- The cell that holds the record of the current thread. -/
def threadLocal (names : TypeNames) : Item :=
  .call (code ":: std :: thread_local")
    (code "static" ++ name names.threadLocal ++ code ": :: core :: cell :: RefCell <" ++
      name names.record ++ code "> = const" ++
      braces (code ":: core :: cell :: RefCell :: new" ++
        parens (name names.record ++ code ":: new" ++ parens [])) ++ code ";")

/-- The record type with its methods and its cell. -/
def record (compiled : CompiledSchema) (names : TypeNames) (runtime : Path) :
    Except Failure (List Item) := do
  let compounds ← compiled.derivation.mapM (compoundAccessor compiled fun metric =>
    "The " ++ metric ++ " value derived from this record.")
  let methods :=
    newRecord compiled :: compiled.storage.map fieldAccessor ++
      compiled.storage.map (mutator runtime) ++ compounds ++ [withCurrent names, takeCurrent names]
  return [recordType compiled names,
    .implementation [arithmeticAllowed] [] names.record methods,
    threadLocal names]

end StatSchema.Artifact
