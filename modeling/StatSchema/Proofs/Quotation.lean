/-
String literals denote the texts that they are written for: every escape is read back as the character
that it stands for, and every other character as itself. Main statement: `stringValue?_literal`.
-/
import Mathlib.Tactic.SplitIfs
import StatSchema.Text.Escape
import StatSchema.Token.Literal

namespace StatSchema

open Text

namespace Token

/-! ## Code points -/

theorem hexValue_digitChar : ∀ digit < 16, hexValue (Nat.digitChar digit) = some digit := by decide

theorem digitChar_ne : ∀ digit < 16, Nat.digitChar digit ≠ '}' ∧ Nat.digitChar digit ≠ '_' := by
  decide

theorem codePoint_digit {digit : Nat} (small : digit < 16) (value : Nat) {count : Nat}
    (few : count < 6) (rest : List Char) :
    codePoint value count (Nat.digitChar digit :: rest) =
      (codePoint (16 * value + digit) (count + 1) rest).map fun (c, n) => (c, n + 1) := by
  obtain ⟨unclosed, unfilled⟩ := digitChar_ne digit small
  rw [codePoint, if_neg unclosed, if_neg unfilled, hexValue_digitChar digit small]
  dsimp only
  rw [if_neg (Nat.ne_of_lt few)]

/-- The digits of a number are read as that number, if there are at most six. -/
theorem codePoint_hexDigits (number : Nat) (few : (hexDigits number).length ≤ 6) (rest : List Char) :
    codePoint 0 0 (hexDigits number ++ rest) =
      (codePoint number (hexDigits number).length rest).map fun (c, n) =>
        (c, n + (hexDigits number).length) := by
  induction number using Nat.strongRecOn generalizing rest with
  | ind number ih =>
    unfold hexDigits at *
    rcases Nat.lt_or_ge number 16 with small | large
    · rw [Nat.toDigits_of_lt_base small]
      exact (codePoint_digit small 0 (by decide) rest).trans (by simp)
    · -- the number without its last digit is read first, and then that digit
      have last := Nat.mod_lt number (show 0 < 16 by decide)
      rw [Nat.toDigits_of_base_le (by decide) large, List.length_append] at few ⊢
      simp only [List.length_singleton] at few ⊢
      rw [List.append_assoc, ih (number / 16) (by omega) (by omega), List.singleton_append,
        codePoint_digit last _ (by omega), Nat.div_add_mod, Option.map_map]
      congr 1
      funext ⟨c, n⟩
      simp only [Function.comp_apply, Prod.mk.injEq, true_and]
      omega

theorem escape_codePointEscape (c : Char) (rest : List Char) :
    escape .text ((codePointEscape c).tail ++ rest) = some (c, (codePointEscape c).tail.length) := by
  have valid : c.toNat.isValidChar := c.valid
  have few : (hexDigits c.toNat).length ≤ 6 := by
    refine (Nat.length_toDigits_le_iff (by decide) (by decide)).2 ?_
    rcases valid with low | ⟨-, high⟩ <;> omega
  have some_digit : (hexDigits c.toNat).length ≠ 0 := Nat.ne_of_gt Nat.length_toDigits_pos
  have closed : codePoint c.toNat (hexDigits c.toNat).length ('}' :: rest) = some (c, 1) := by
    rw [codePoint, if_pos rfl, if_pos ⟨some_digit, valid⟩, Char.ofNat_toNat]
  have spelled : (codePointEscape c).tail ++ rest =
      'u' :: '{' :: (hexDigits c.toNat ++ ['}'] ++ rest) := rfl
  rw [spelled, escape, if_neg (by decide), List.append_assoc, List.singleton_append,
    codePoint_hexDigits _ few, closed]
  simp [codePointEscape]
  omega

/-! ## Characters -/

/-- A character that needs no escape is read as itself. -/
theorem quotedText_plain {quotation : Quotation} {c : Char} (unquoted : c ≠ '"')
    (unescaped : c ≠ '\\') (unbroken : c ≠ '\r') (admitted : quotation.admits c = true)
    (rest : List Char) :
    quotedText quotation (c :: rest) =
      (quotedText quotation rest).map fun (value, n) => (c :: value, n + 1) := by
  rw [quotedText]
  · exact if_pos admitted
  all_goals simp_all

/-- An escape is read as the character that it stands for. -/
theorem quotedText_escape {quotation : Quotation} {c next : Char} {length : Nat} {rest : List Char}
    (inside : next ≠ '\n') (within : next ≠ '\r')
    (stands : escape quotation (next :: rest) = some (c, length)) :
    quotedText quotation ('\\' :: next :: rest) =
      (quotedText quotation ((next :: rest).drop length)).map fun (value, n) =>
        (c :: value, n + length + 1) := by
  rw [quotedText]
  · rw [stands]
  all_goals simp_all

theorem quotedText_escaped (c : Char) (rest : List Char) :
    quotedText .text (escaped c ++ rest) =
      (quotedText .text rest).map fun (value, n) => (c :: value, n + (escaped c).length) := by
  unfold escaped
  split_ifs with zero tab line carriage quote backslash printable
  · subst zero
    exact quotedText_escape (by decide) (by decide) rfl
  · subst tab
    exact quotedText_escape (by decide) (by decide) rfl
  · subst line
    exact quotedText_escape (by decide) (by decide) rfl
  · subst carriage
    exact quotedText_escape (by decide) (by decide) rfl
  · subst quote
    exact quotedText_escape (by decide) (by decide) rfl
  · subst backslash
    exact quotedText_escape (by decide) (by decide) rfl
  · exact quotedText_plain quote backslash carriage rfl rest
  · have read := quotedText_escape (show 'u' ≠ '\n' by decide) (by decide)
      (escape_codePointEscape c rest)
    refine read.trans ?_
    simp [codePointEscape, Nat.add_assoc]

/-! ## Texts -/

theorem quotedText_literalChars (chars : List Char) :
    quotedText .text (literalChars chars ++ ['"']) =
      some (chars, (literalChars chars).length + 1) := by
  induction chars with
  | nil => rw [literalChars, List.nil_append, quotedText]; rfl
  | cons c rest ih =>
    unfold literalChars
    rw [List.append_assoc]
    split
    · rename_i followed
      obtain ⟨zero, -⟩ := Bool.and_eq_true_iff.1 followed
      obtain rfl := of_decide_eq_true zero
      have read : quotedText .text ('\\' :: 'x' :: '0' :: '0' :: (literalChars rest ++ ['"'])) =
          (quotedText .text (literalChars rest ++ ['"'])).map fun (value, n) =>
            ('\x00' :: value, n + 3 + 1) :=
        quotedText_escape (by decide) (by decide) rfl
      exact read.trans (by rw [ih]; rfl)
    · rw [quotedText_escaped, ih]
      simp
      omega

/-- A string literal denotes the text that it is written for. -/
theorem stringValue?_literal (text : String) : stringValue? (Text.literal text) = some text := by
  unfold stringValue? Text.literal
  rw [String.toList_ofList]
  simp [quotedText_literalChars]

end Token

end StatSchema
