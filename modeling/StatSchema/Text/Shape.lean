/-
The shape of a value in debug output: words, named records of fields, and lists. A shape has one
text on a single line and one with every part on a line of its own.
-/
import StatSchema.Text.Escape

namespace StatSchema.Text

/-- What a value is made of. -/
inductive Shape where
  | word (text : String)
  | record (name : String) (fields : List (String × Shape))
  | list (elements : List Shape)
  deriving Repr

/-- The shape of a text, which is quoted. -/
def Shape.ofText (text : String) : Shape := .word (quoted text)

/-- The shape of a number. -/
def Shape.ofWord (number : UInt64) : Shape := .word (toString number.toNat)

/-! ## On one line -/

mutual

/-- The text of a shape on one line. A record without fields is only its name. -/
def Shape.line : Shape → String
  | .word text => text
  | .record name [] => name
  | .record name (field :: rest) =>
    name ++ " \x7b " ++ ", ".intercalate (fieldLines (field :: rest)) ++ " \x7d"
  | .list elements => "[" ++ ", ".intercalate (lines elements) ++ "]"

/-- The texts of fields on one line. -/
def fieldLines : List (String × Shape) → List String
  | [] => []
  | (name, shape) :: rest => (name ++ ": " ++ shape.line) :: fieldLines rest

/-- The texts of elements on one line. -/
def lines : List Shape → List String
  | [] => []
  | shape :: rest => shape.line :: lines rest

end

/-! ## On several lines -/

/-- The space before a line at a depth. -/
def margin (depth : Nat) : String := "".pushn ' ' (4 * depth)

/-- Parts on lines of their own, one step further in, between an opening and a closing mark. -/
def stacked (depth : Nat) (opening closing : String) (parts : List String) : String :=
  opening ++ "\n" ++ String.join (parts.map fun part => margin (depth + 1) ++ part ++ ",\n") ++
    margin depth ++ closing

mutual

/-- The text of a shape over several lines, at a depth. -/
def Shape.block (depth : Nat) : Shape → String
  | .word text => text
  | .record name [] => name
  | .record name (field :: rest) =>
    stacked depth (name ++ " \x7b") "\x7d" (fieldBlocks (depth + 1) (field :: rest))
  | .list [] => "[]"
  | .list (element :: rest) => stacked depth "[" "]" (blocks (depth + 1) (element :: rest))

/-- The texts of fields over several lines. -/
def fieldBlocks (depth : Nat) : List (String × Shape) → List String
  | [] => []
  | (name, shape) :: rest => (name ++ ": " ++ shape.block depth) :: fieldBlocks depth rest

/-- The texts of elements over several lines. -/
def blocks (depth : Nat) : List Shape → List String
  | [] => []
  | shape :: rest => shape.block depth :: blocks depth rest

end

end StatSchema.Text
