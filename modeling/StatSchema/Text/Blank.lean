/-
White space and words. A character is blank when it has the Unicode property White_Space; the
words of a text are its maximal runs of characters that are not blank.
-/
namespace StatSchema.Text

/-- The Unicode property White_Space. -/
def isBlank (c : Char) : Bool :=
  (0x09 ≤ c.toNat && c.toNat ≤ 0x0D) || (0x2000 ≤ c.toNat && c.toNat ≤ 0x200A) ||
    [0x20, 0x85, 0xA0, 0x1680, 0x2028, 0x2029, 0x202F, 0x205F, 0x3000].contains c.toNat

/-- The maximal runs of characters that are not blank, in order. -/
def words (text : List Char) : List (List Char) :=
  match _skip : text.dropWhile isBlank with
  | [] => []
  | c :: rest =>
    (c :: rest.takeWhile (!isBlank ·)) :: words (rest.dropWhile (!isBlank ·))
termination_by text.length
decreasing_by
  have skipped := (List.dropWhile_sublist (l := text) isBlank).length_le
  have left := (List.dropWhile_sublist (l := rest) (!isBlank ·)).length_le
  simp only [_skip, List.length_cons] at skipped
  omega

/-- Whether a text holds nothing but blanks. -/
def isAllBlank (text : String) : Bool := text.toList.all isBlank

end StatSchema.Text
