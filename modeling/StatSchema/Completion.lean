/-
Completing an order: what the author lists comes first, what is left out follows in the order of
the keys. A list that repeats a key, or names none of them, has no completion; under `strict`
neither has one that is begun but not finished.
-/
import StatSchema.SchemaError

namespace StatSchema

/-- The entry of a list whose second occurrence comes first, `seen` having come before it. -/
def firstRepeated (seen : List String) : List String → Option String
  | [] => none
  | name :: rest => if seen.contains name then some name else firstRepeated (name :: seen) rest

/-- The keys that a list leaves out, in their own order. -/
def omitted (listed keys : List String) : List String := keys.filter fun key => !listed.contains key

/-- The whole order that a list begins. -/
def complete (order : MetricOrder) (listed keys : List String) (strict : Bool) :
    Except SchemaError (List String) :=
  match firstRepeated [] listed with
  | some name => .error (.duplicateName name (.order order))
  | none =>
    match listed.find? fun name => !keys.contains name with
    | some name => .error (.incompleteOrder order (.unknown name))
    | none =>
      let missing := omitted listed keys
      if strict && !listed.isEmpty && !missing.isEmpty then
        .error (.incompleteOrder order (.missing missing))
      else .ok (listed ++ missing)

/-- The problem of a display order that is no arrangement of the declared names. -/
def displayProblem (display names : List String) : Option OrderProblem :=
  if (firstRepeated [] display).isSome then some .repeated
  else match names.find? fun name => !display.contains name with
    | some name => some (.neverShown name)
    | none => if display.length ≠ names.length then some .undeclared else none

end StatSchema
