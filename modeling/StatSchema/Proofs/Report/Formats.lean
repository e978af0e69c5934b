/-
Format strings with one hole. The format of a line is its label and the hole, so the line is the label
and the value as long as no brace is in the label, and one line as long as no line break is; names whose
spelling is an identifier lead to labels without either, whatever changes of case make of their
characters.
-/
import StatSchema.Proofs.Case
import StatSchema.Proofs.Report.Labels
import StatSchema.Proofs.Spelling

namespace StatSchema

/-- What a format with one hole writes for a value, `filled` saying whether the hole came before. A brace
that is text is written twice. -/
def formatted? (value : List Char) (filled : Bool) : List Char → Option (List Char)
  | [] => if filled then some [] else none
  | '\x7b' :: '\x7b' :: rest => (formatted? value filled rest).map ('\x7b' :: ·)
  | '\x7d' :: '\x7d' :: rest => (formatted? value filled rest).map ('\x7d' :: ·)
  | '\x7b' :: '\x7d' :: rest =>
    if filled then none else (formatted? value true rest).map (value ++ ·)
  | c :: rest =>
    if c = '\x7b' ∨ c = '\x7d' then none else (formatted? value filled rest).map (c :: ·)

/-- Whether a character structures a report: a brace in its formats, or a line break. -/
def isStructural (c : Char) : Bool := c = '\x7b' || c = '\x7d' || c = '\n'

theorem of_isStructural {c : Char} (structural : isStructural c = true) :
    c = '\x7b' ∨ c = '\x7d' ∨ c = '\n' := by
  simpa [isStructural, or_assoc] using structural

theorem formatted?_cons {c : Char} (plain : isStructural c = false) (value : List Char) (filled : Bool)
    (rest : List Char) :
    formatted? value filled (c :: rest) = (formatted? value filled rest).map (c :: ·) := by
  have apart : (c ≠ '\x7b' ∧ c ≠ '\x7d') ∧ c ≠ '\n' := by simpa [isStructural] using plain
  obtain ⟨⟨opening, closing⟩, -⟩ := apart
  rw [formatted?.eq_def]
  split
  · rename_i h
    cases h
  · rename_i h
    cases h
    exact absurd rfl opening
  · rename_i h
    cases h
    exact absurd rfl closing
  · rename_i h
    cases h
    exact absurd rfl opening
  · rename_i h
    cases h
    rw [if_neg (by simp [opening, closing])]

/-- A label without structural characters and then the hole write the label and the value. -/
theorem formatted?_label {label : List Char} (plain : ∀ c ∈ label, isStructural c = false)
    (value : List Char) :
    formatted? value false (label ++ ['\x7b', '\x7d']) = some (label ++ value) := by
  induction label with
  | nil => simp [formatted?]
  | cons c rest ih =>
    rw [List.cons_append, formatted?_cons (plain c List.mem_cons_self),
      ih fun d later => plain d (List.mem_cons_of_mem _ later)]
    rfl

namespace Text

/-! ## Changes of case -/

/-- A structural character comes of itself alone. -/
theorem avoided_of_isStructural {c : Char} (structural : isStructural c = true) :
    lowercaseAvoids c = true ∧ uppercaseAvoids c = true := by
  rcases of_isStructural structural with rfl | rfl | rfl <;> decide +kernel

theorem not_isStructural_lowerChar {c : Char} (plain : isStructural c = false) :
    ∀ d ∈ lowerChar c, isStructural d = false := by
  intro d here
  rw [← Bool.not_eq_true]
  intro structural
  obtain rfl := eq_of_mem_lowerChar (avoided_of_isStructural structural).1 here
  rw [structural] at plain
  cases plain

theorem not_isStructural_upperChar {c : Char} (plain : isStructural c = false) :
    ∀ d ∈ upperChar c, isStructural d = false := by
  intro d here
  rw [← Bool.not_eq_true]
  intro structural
  obtain rfl := eq_of_mem_upperChar (avoided_of_isStructural structural).2 here
  rw [structural] at plain
  cases plain

theorem mem_lowerChar_self {c : Char} (structural : isStructural c = true) : c ∈ lowerChar c := by
  rcases of_isStructural structural with rfl | rfl | rfl <;> decide +kernel

/-- A structural character of a word is still there in lower case. -/
theorem mem_lowerAfter {word : List Char} {c : Char} (structural : isStructural c = true)
    (here : c ∈ word) (before : List Char) : c ∈ lowerAfter before word := by
  induction word generalizing before with
  | nil => cases here
  | cons first rest ih =>
    rw [lowerAfter, List.mem_append]
    rcases List.mem_cons.1 here with rfl | later
    · have noSigma : c ≠ '\u03A3' := by
        rintro rfl
        revert structural
        decide
      rw [if_neg noSigma]
      exact .inl (mem_lowerChar_self structural)
    · exact .inr (ih later _)

end Text

/-! ## Labels -/

/-- An identifier holds no structural character. -/
theorem not_isStructural_of_plain {text name : String} (plain : Identifier.read text = .plain name) :
    ∀ c ∈ name.toList, isStructural c = false := by
  obtain ⟨first, rest, -, opens, rfl, -⟩ := Identifier.of_read_plain plain
  intro c here
  rw [String.toList_ofList] at here
  have continues : Token.continuesIdentifier c = true := by
    rcases List.mem_cons.1 here with rfl | later
    · exact Token.continuesIdentifier_of_opens opens
    · exact List.mem_takeWhile_imp later
  rw [← Bool.not_eq_true]
  intro structural
  rcases of_isStructural structural with rfl | rfl | rfl <;> revert continues <;> decide +kernel

/-- Where the spelling of a name is an identifier, its label has no structural characters. -/
theorem not_isStructural_label {name : String}
    (plain : Identifier.read (Name.snake name) = .plain (Name.snake name)) :
    ∀ c ∈ (Report.label name).toList, isStructural c = false := by
  -- such a character in a word would still be there in the spelling
  have words : ∀ word ∈ Text.words name.toList, ∀ c ∈ word, isStructural c = false := by
    intro word among c here
    rw [← Bool.not_eq_true]
    intro structural
    have spelled : c ∈ (Name.snake name).toList := by
      rw [Name.snake, String.toList_ofList]
      exact mem_intercalate _ (List.mem_map_of_mem among) (Text.mem_lowerAfter structural here [])
    rw [not_isStructural_of_plain plain c spelled] at structural
    cases structural
  intro c here
  rw [Report.label, String.toList_append, Name.pretty, String.toList_ofList] at here
  rcases List.mem_append.1 here with here | here
  · rcases of_mem_intercalate here with here | ⟨part, among, here⟩
    · rw [List.mem_singleton.1 here]
      rfl
    · obtain ⟨word, given, rfl⟩ := List.mem_map.1 among
      cases word with
      | nil => cases here
      | cons first rest =>
        rcases List.mem_append.1 here with here | here
        · exact Text.not_isStructural_upperChar (words _ given first List.mem_cons_self) c here
        · obtain ⟨d, later, here⟩ := List.mem_flatMap.1 here
          exact Text.not_isStructural_lowerChar (words _ given d (List.mem_cons_of_mem _ later)) c here
  · exact forall_mem_of_all (p := (isStructural · = false)) (by decide) c here

end StatSchema
