/-
What changes of case lead to. A character that no run of a mapping and no expansion leads to comes of
itself alone: the upper case of a text brings nothing that opens a comment, and of what is spelled in
lower case nothing is a capital of ASCII.
-/
import StatSchema.Name
import StatSchema.Proofs.Printing.Numbers

namespace StatSchema

namespace Text

/-! ## Mappings -/

theorem toNat_ofNat (code : Nat) :
    (Char.ofNat code).toNat = code ∨ (Char.ofNat code).toNat = 0 := by
  by_cases valid : code.isValidChar
  · rw [Char.ofNat, dif_pos valid]
    exact .inl rfl
  · rw [Char.ofNat, dif_neg valid]
    exact .inr rfl

/-- Whether a run of a case mapping leads to characters before or behind the given one only. -/
def CaseShift.avoids (c : Char) (run : CaseShift) : Bool :=
  c.toNat < (run.first : Int) + run.shift || (run.last : Int) + run.shift < c.toNat

/-- A character that no run leads to is the image of itself alone. -/
theorem eq_of_shifted {runs : List CaseShift} {c d : Char} (avoid : runs.all (CaseShift.avoids d) = true)
    (positive : 0 < d.toNat) (image : shifted runs c = d) : c = d := by
  unfold shifted at image
  split at image
  · rename_i run found
    have covered := List.find?_some found
    have avoids := List.all_eq_true.1 avoid run (List.mem_of_find?_eq_some found)
    simp only [CaseShift.covers, Bool.and_eq_true, decide_eq_true_eq] at covered
    simp only [CaseShift.avoids, Bool.or_eq_true, decide_eq_true_eq] at avoids
    have code := toNat_ofNat (c.toNat + run.shift).toNat
    rw [image] at code
    omega
  · exact image

/-- Whether changes to lower case leave a character to come of itself alone: no run leads to it, and it is
in no lower case of two characters. -/
def lowercaseAvoids (d : Char) : Bool :=
  0 < d.toNat && lowercaseShifts.all (CaseShift.avoids d) && d ∉ ['i', '\u0307']

theorem eq_of_mem_lowerChar {c d : Char} (avoid : lowercaseAvoids d = true)
    (here : d ∈ lowerChar c) : c = d := by
  simp only [lowercaseAvoids, Bool.and_eq_true, decide_eq_true_eq] at avoid
  obtain ⟨⟨positive, runs⟩, expansion⟩ := avoid
  unfold lowerChar at here
  split at here
  · exact absurd here expansion
  · exact eq_of_shifted runs positive (List.mem_singleton.1 here).symm

/-- Whether changes to upper case leave a character to come of itself alone. -/
def uppercaseAvoids (d : Char) : Bool :=
  0 < d.toNat && uppercaseShifts.all (CaseShift.avoids d) &&
    uppercaseExpansions.all fun (_, expansion) => !expansion.contains d.toNat

theorem eq_of_mem_upperChar {c d : Char} (avoid : uppercaseAvoids d = true)
    (here : d ∈ upperChar c) : c = d := by
  simp only [uppercaseAvoids, Bool.and_eq_true, decide_eq_true_eq] at avoid
  obtain ⟨⟨positive, runs⟩, expansions⟩ := avoid
  unfold upperChar at here
  split at here
  · rename_i expansion found
    have listed : (c.toNat, expansion) ∈ uppercaseExpansions := by
      obtain ⟨front, rest, split, -⟩ := List.lookup_eq_some_iff.1 found
      rw [split]
      exact List.mem_append_right _ List.mem_cons_self
    obtain ⟨code, there, rfl⟩ := List.mem_map.1 here
    have absent := List.all_eq_true.1 expansions _ listed
    rcases toNat_ofNat code with same | zero
    · rw [same] at absent
      simp [there] at absent
    · omega
  · exact eq_of_shifted runs positive (List.mem_singleton.1 here).symm

/-! ## Words -/

/-- What is in a word in lower case is one of the two sigmas or comes of one of its characters. -/
theorem of_mem_lowerAfter {before word : List Char} {d : Char} (here : d ∈ lowerAfter before word) :
    d ∈ ['\u03C2', '\u03C3'] ∨ ∃ c ∈ word, d ∈ lowerChar c := by
  induction word generalizing before with
  | nil => cases here
  | cons c rest ih =>
    rcases List.mem_append.1 here with first | later
    · split at first
      · left
        split at first <;> simp [List.mem_singleton.1 first]
      · exact .inr ⟨c, List.mem_cons_self, first⟩
    · rcases ih later with sigma | ⟨other, there, image⟩
      · exact .inl sigma
      · exact .inr ⟨other, List.mem_cons_of_mem _ there, image⟩

/-- No character of ASCII that is a capital is in lower case. -/
theorem not_isUpper_lowerChar (c : Char) : ∀ d ∈ lowerChar c, d.isUpper = false := by
  have capitals : ∀ code < 0x80, (Char.ofNat code).isUpper = true →
      lowercaseAvoids (Char.ofNat code) = true ∧
        (lowerChar (Char.ofNat code)).contains (Char.ofNat code) = false := by decide +kernel
  intro d here
  rw [← Bool.not_eq_true]
  intro upper
  have below : d ≤ 'Z' := (of_decide_eq_true upper).2
  obtain ⟨avoid, apart⟩ := holds_of_le (p := fun d => d.isUpper = true →
    lowercaseAvoids d = true ∧ (lowerChar d).contains d = false) capitals below (by decide) upper
  obtain rfl := eq_of_mem_lowerChar avoid here
  simp [here] at apart

theorem not_isUpper_lowerWord (word : List Char) : ∀ d ∈ lowerWord word, d.isUpper = false := by
  intro d here
  rcases of_mem_lowerAfter here with sigma | ⟨c, -, image⟩
  · exact forall_mem_of_all (p := (Char.isUpper · = false)) (by decide) d sigma
  · exact not_isUpper_lowerChar c d image

end Text

/-! ## Joined words -/

theorem mem_intercalate {α : Type} (separator : List α) {parts : List (List α)} {part : List α}
    (among : part ∈ parts) {a : α} (here : a ∈ part) : a ∈ separator.intercalate parts := by
  induction parts with
  | nil => cases among
  | cons first rest ih =>
    cases rest with
    | nil =>
      rw [List.mem_singleton.1 among] at here
      simpa using here
    | cons next rest =>
      rw [List.intercalate_cons_cons]
      rcases List.mem_cons.1 among with rfl | later
      · exact List.mem_append_left _ (List.mem_append_left _ here)
      · exact List.mem_append_right _ (ih later)

theorem of_mem_intercalate {α : Type} {separator : List α} {parts : List (List α)} {a : α}
    (here : a ∈ separator.intercalate parts) : a ∈ separator ∨ ∃ part ∈ parts, a ∈ part := by
  induction parts with
  | nil => cases here
  | cons first rest ih =>
    cases rest with
    | nil => exact .inr ⟨first, List.mem_cons_self, by simpa using here⟩
    | cons next rest =>
      rw [List.intercalate_cons_cons, List.append_assoc, List.mem_append, List.mem_append] at here
      rcases here with here | here | here
      · exact .inr ⟨first, List.mem_cons_self, here⟩
      · exact .inl here
      · rcases ih here with among | ⟨part, later, among⟩
        · exact .inl among
        · exact .inr ⟨part, List.mem_cons_of_mem _ later, among⟩

/-! ## Names -/

namespace Name

open Text

/-- The spelling of a name holds no capital of ASCII. -/
theorem not_isUpper_snake (name : String) : ∀ d ∈ (snake name).toList, d.isUpper = false := by
  intro d here
  rw [snake, String.toList_ofList] at here
  rcases of_mem_intercalate here with joint | ⟨part, among, here⟩
  · rw [List.mem_singleton.1 joint]
    rfl
  · obtain ⟨word, -, rfl⟩ := List.mem_map.1 among
    exact not_isUpper_lowerWord word d here

/-- What is in a constant is an underscore or comes of a character of the name. -/
theorem of_mem_upperSnakeAfter {previous : Option Char} {name : List Char} {d : Char}
    (here : d ∈ upperSnakeAfter previous name) : d = '_' ∨ ∃ c ∈ name, d ∈ upperChar c := by
  induction name generalizing previous with
  | nil => cases here
  | cons c rest ih =>
    rw [upperSnakeAfter, List.mem_append, List.mem_append] at here
    rcases here with (separated | image) | later
    · split at separated
      · exact .inl (List.mem_singleton.1 separated)
      · cases separated
    · exact .inr ⟨c, List.mem_cons_self, image⟩
    · rcases ih later with joint | ⟨other, there, image⟩
      · exact .inl joint
      · exact .inr ⟨other, List.mem_cons_of_mem _ there, image⟩

/-- No comment begins in a constant, if none does in the name. -/
theorem noSlash_upperSnake {name : String} (noSlash : '/' ∉ name.toList) :
    '/' ∉ (upperSnake name).toList := by
  intro here
  rw [upperSnake, String.toList_ofList] at here
  rcases of_mem_upperSnakeAfter here with joint | ⟨c, there, image⟩
  · revert joint
    decide
  · obtain rfl := eq_of_mem_upperChar (by decide +kernel) image
    exact noSlash there

end Name

end StatSchema
