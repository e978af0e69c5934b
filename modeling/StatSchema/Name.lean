/-
The three spellings of a name: `snake` for identifiers, `pretty` for report labels and
`upperSnake` for constants.
-/
import StatSchema.Text.Blank
import StatSchema.Text.Case

namespace StatSchema.Name

open StatSchema.Text

/-- The words of a name in lower case, joined by underscores: `max write size` becomes
`max_write_size`. -/
def snake (name : String) : String :=
  String.ofList (['_'].intercalate ((words name.toList).map lowerWord))

/-- The words of a name capitalized, joined by spaces: `max write size` becomes
`Max Write Size`. -/
def pretty (name : String) : String :=
  String.ofList ([' '].intercalate ((words name.toList).map capitalized))

/-- Upper-cases a text of which `previous` is the last character written so far, with an
underscore before each capital that neither opens the result nor follows an underscore. -/
def upperSnakeAfter (previous : Option Char) : List Char → List Char
  | [] => []
  | c :: rest =>
    let upper := upperChar c
    let separated := isUppercase c && previous.isSome && previous != some '_'
    (if separated then ['_'] else []) ++ upper ++
      upperSnakeAfter (upper.getLast? <|> previous) rest

/-- A type name as a constant: `ThreadRecord` becomes `THREAD_RECORD`. -/
def upperSnake (name : String) : String := String.ofList (upperSnakeAfter none name.toList)

end StatSchema.Name
