/-
Canonical forms of identifiers. What stands before two texts makes no difference to whether they are
equivalent, basic characters before or at the end of a text are what they are in its form, and a word of
basic characters is equivalent to no other text.
-/
import StatSchema.Identifier
import Mathlib.Data.List.Basic

namespace StatSchema

namespace Text

/-! ## Order -/

theorem putInOrder_of_starter {c : Char} (starter : combiningClass c = 0) (text : List Char) :
    putInOrder c text = c :: text := by
  cases text with
  | nil => rfl
  | cons d rest => simp [putInOrder, precedes, starter]

theorem perm_putInOrder (c : Char) (text : List Char) : (putInOrder c text).Perm (c :: text) := by
  induction text with
  | nil => rfl
  | cons d rest ih =>
    rw [putInOrder]
    split
    · exact (ih.cons d).trans (List.Perm.swap c d rest)
    · rfl

theorem perm_inOrder (text : List Char) : (inOrder text).Perm text := by
  induction text with
  | nil => rfl
  | cons c rest ih => exact (perm_putInOrder c _).trans (ih.cons c)

/-- A character that is put in order can be told from those that it went behind, since it does not precede
itself. -/
theorem putInOrder_injective (c : Char) : Function.Injective (putInOrder c) := by
  have itself : precedes c c = false := by simp [precedes]
  intro text other same
  have lengths : text.length = other.length := by
    have counted := congrArg List.length same
    rwa [(perm_putInOrder c text).length_eq, (perm_putInOrder c other).length_eq,
      List.length_cons, List.length_cons, Nat.add_right_cancel_iff] at counted
  induction text generalizing other with
  | nil => exact (List.length_eq_zero_iff.1 lengths.symm).symm
  | cons d rest ih =>
    cases other with
    | nil => cases lengths
    | cons d' rest' =>
      rw [putInOrder, putInOrder] at same
      split at same <;> split at same
      · obtain ⟨rfl, behind⟩ := List.cons.inj same
        rw [ih behind (Nat.succ.inj lengths)]
      · rename_i before _
        rw [(List.cons.inj same).1, itself] at before
        cases before
      · rename_i before
        rw [← (List.cons.inj same).1, itself] at before
        cases before
      · exact (List.cons.inj same).2

theorem inOrder_append_inj (front : List Char) {text other : List Char} :
    inOrder (front ++ text) = inOrder (front ++ other) ↔ inOrder text = inOrder other := by
  induction front with
  | nil => rfl
  | cons c rest ih => exact (putInOrder_injective c).eq_iff.trans ih

/-- Nothing is put behind a character that begins a letter, and nothing moves such a one. -/
theorem getLast?_putInOrder {last : Char} (starter : combiningClass last = 0) (c : Char)
    (text : List Char) :
    (putInOrder c text).getLast? = some last ↔ (c :: text).getLast? = some last := by
  induction text with
  | nil => rfl
  | cons d rest ih =>
    rw [putInOrder]
    split
    · rename_i before
      have nonempty : putInOrder c rest ≠ [] := fun empty => by
        have counted := (perm_putInOrder c rest).length_eq
        rw [empty] at counted
        cases counted
      rw [List.getLast?_cons_of_ne_nil nonempty, ih]
      cases rest with
      | nil =>
        -- both are marks
        simp only [precedes, Bool.and_eq_true, decide_eq_true_eq] at before
        simp only [List.getLast?_cons_cons, List.getLast?_singleton, Option.some.injEq]
        constructor <;> rintro rfl <;> omega
      | cons e more => simp
    · rfl

theorem getLast?_inOrder {last : Char} (starter : combiningClass last = 0) (text : List Char) :
    (inOrder text).getLast? = some last ↔ text.getLast? = some last := by
  induction text with
  | nil => rfl
  | cons c rest ih =>
    refine (getLast?_putInOrder starter c (inOrder rest)).trans ?_
    cases rest with
    | nil => rfl
    | cons d more =>
      have nonempty : inOrder (d :: more) ≠ [] := fun empty =>
        List.cons_ne_nil d more (empty ▸ perm_inOrder (d :: more)).nil_eq.symm
      rw [List.getLast?_cons_of_ne_nil nonempty, ih, List.getLast?_cons_cons]

/-! ## Characters -/

/-- The characters of ASCII that nothing else decomposes into. A capital K, a grave accent and a semicolon
have doubles among other characters. -/
def isBasic (c : Char) : Bool := c.toNat < 0x80 && c ∉ ['K', '\u0060', ';']

theorem toNat_lt_of_isBasic {c : Char} (basic : isBasic c = true) : c.toNat < 0x80 := by
  simp only [isBasic, Bool.and_eq_true, decide_eq_true_eq] at basic
  exact basic.1

theorem decomposedChar_of_isBasic {c : Char} (basic : isBasic c = true) : decomposedChar c = [c] := by
  have := toNat_lt_of_isBasic basic
  exact if_pos (by omega)

theorem combiningClass_of_isBasic {c : Char} (basic : isBasic c = true) : combiningClass c = 0 := by
  have := toNat_lt_of_isBasic basic
  exact if_pos (by omega)

/-- No decomposition of the table ends in a basic character. -/
theorem not_isBasic_decompositions : ∀ block ∈ decompositions, ∀ letters ∈ block.2,
    letters.getLast?.any (fun code => !isBasic (Char.ofNat code)) = true := by
  decide +kernel

/-- A syllable ends in a letter of Hangul. -/
theorem getLast?_syllableLetters (index : Nat) :
    ∃ code, (syllableLetters index).getLast? = some code ∧ isBasic (Char.ofNat code) = false := by
  have hangul {code : Nat} (low : 0x1100 ≤ code) (high : code < 0x1200) :
      isBasic (Char.ofNat code) = false := by
    have same : (Char.ofNat code).toNat = code := by
      rw [Char.ofNat, dif_pos (.inl (by omega))]
      rfl
    have big : ¬ code < 0x80 := by omega
    simp [isBasic, same, big]
  unfold syllableLetters
  split
  · exact ⟨0x1161 + index % 588 / 28, rfl, hangul (by omega) (by omega)⟩
  · exact ⟨0x11A7 + index % 28, rfl, hangul (by omega) (by omega)⟩

/-- A character that is not its own decomposition has one that ends in no basic character. -/
theorem decomposedChar_eq_or (c : Char) : decomposedChar c = [c] ∨
    ∃ last, (decomposedChar c).getLast? = some last ∧ isBasic last = false := by
  unfold decomposedChar
  split
  · exact .inl rfl
  split
  · obtain ⟨code, last, apart⟩ := getLast?_syllableLetters (c.toNat - 0xAC00)
    exact .inr ⟨Char.ofNat code, by rw [List.getLast?_map, last]; rfl, apart⟩
  · split
    · rename_i letters found
      obtain ⟨⟨first, texts⟩, here, entry⟩ := List.exists_of_findSome?_eq_some found
      simp only at entry
      split at entry
      · obtain ⟨code, last, apart⟩ := Option.any_eq_true _ _ |>.1
          (not_isBasic_decompositions _ here letters (List.mem_of_getElem? entry))
        exact .inr ⟨Char.ofNat code, by rw [List.getLast?_map, last]; rfl, by simpa using apart⟩
      · cases entry
    · exact .inl rfl

theorem decomposedChar_ne_nil (c : Char) : decomposedChar c ≠ [] := by
  intro empty
  rcases decomposedChar_eq_or c with itself | ⟨last, ends, -⟩
  · rw [empty] at itself
    cases itself
  · rw [empty] at ends
    cases ends

theorem getLast?_decomposedChar {last : Char} (basic : isBasic last = true) (c : Char) :
    (decomposedChar c).getLast? = some last ↔ c = last := by
  constructor
  · intro ends
    rcases decomposedChar_eq_or c with itself | ⟨other, ends', apart⟩
    · rw [itself] at ends
      exact Option.some.inj ends
    · rw [ends] at ends'
      rw [← Option.some.inj ends', basic] at apart
      cases apart
  · rintro rfl
    rw [decomposedChar_of_isBasic basic]
    rfl

/-! ## Texts -/

/-- What follows one text is equivalent on its own. -/
theorem decomposed_append_inj (front : List Char) {text other : List Char} :
    decomposed (front ++ text) = decomposed (front ++ other) ↔ decomposed text = decomposed other := by
  unfold decomposed
  rw [List.flatMap_append, List.flatMap_append]
  exact inOrder_append_inj _

theorem decomposed_append_of_isBasic {front : List Char} (basic : ∀ c ∈ front, isBasic c = true)
    (text : List Char) : decomposed (front ++ text) = front ++ decomposed text := by
  induction front with
  | nil => rfl
  | cons c rest ih =>
    obtain ⟨first, others⟩ := List.forall_mem_cons.1 basic
    have step : decomposed (c :: (rest ++ text)) = putInOrder c (decomposed (rest ++ text)) := by
      rw [decomposed, List.flatMap_cons, decomposedChar_of_isBasic first]
      rfl
    rw [List.cons_append, step, ih others, putInOrder_of_starter (combiningClass_of_isBasic first)]
    rfl

theorem decomposed_of_isBasic {text : List Char} (basic : ∀ c ∈ text, isBasic c = true) :
    decomposed text = text := by
  have whole := decomposed_append_of_isBasic basic []
  rwa [List.append_nil, show decomposed [] = [] from rfl, List.append_nil] at whole

/-- A text of basic characters is equivalent to itself alone. -/
theorem decomposed_eq_iff {text word : List Char} (basic : ∀ c ∈ word, isBasic c = true) :
    decomposed text = word ↔ text = word := by
  constructor
  · intro same
    have taken : ∀ c ∈ text, isBasic c = true := by
      intro c here
      rcases decomposedChar_eq_or c with itself | ⟨last, ends, apart⟩
      · refine basic c (same ▸ (perm_inOrder _).mem_iff.2 (List.mem_flatMap.2 ⟨c, here, ?_⟩))
        rw [itself]
        exact List.mem_singleton_self c
      · have inside := basic last (same ▸ (perm_inOrder _).mem_iff.2
          (List.mem_flatMap.2 ⟨c, here, List.mem_of_getLast? ends⟩))
        rw [inside] at apart
        cases apart
    rwa [decomposed_of_isBasic taken] at same
  · rintro rfl
    exact decomposed_of_isBasic basic

/-- The form of a text ends in a basic character if the text does. -/
theorem getLast?_decomposed {last : Char} (basic : isBasic last = true) (text : List Char) :
    (decomposed text).getLast? = some last ↔ text.getLast? = some last := by
  refine (getLast?_inOrder (combiningClass_of_isBasic basic) _).trans ?_
  rcases List.eq_nil_or_concat text with rfl | ⟨front, c, rfl⟩
  · rfl
  · rw [List.concat_eq_append, List.flatMap_append, List.flatMap_singleton,
      List.getLast?_append_of_ne_nil _ (decomposedChar_ne_nil c), List.getLast?_concat,
      Option.some.injEq]
    exact getLast?_decomposedChar basic c

end Text

namespace Identifier

/-! ## Identifiers -/

theorem canonical_eq_iff {identifier other : String} :
    canonical identifier = canonical other ↔
      Text.decomposed identifier.toList = Text.decomposed other.toList :=
  String.ofList_inj

/-- Under one prefix, identifiers are equivalent if what follows it is. -/
theorem canonical_append_inj (front : String) {identifier other : String} :
    canonical (front ++ identifier) = canonical (front ++ other) ↔
      canonical identifier = canonical other := by
  rw [canonical_eq_iff, canonical_eq_iff, String.toList_append, String.toList_append]
  exact Text.decomposed_append_inj _

theorem canonical_append {front : String} (basic : front.toList.all Text.isBasic = true)
    (identifier : String) : canonical (front ++ identifier) = front ++ canonical identifier := by
  rw [canonical, String.toList_append,
    Text.decomposed_append_of_isBasic (List.all_eq_true.1 basic), String.ofList_append,
    String.ofList_toList]
  rfl

/-- No other identifier is equivalent to a word of basic characters. -/
theorem canonical_eq_word {identifier word : String} (basic : word.toList.all Text.isBasic = true) :
    canonical identifier = word ↔ identifier = word := by
  have forms : canonical identifier = word ↔ Text.decomposed identifier.toList = word.toList := by
    rw [canonical, ← String.toList_inj, String.toList_ofList]
  rw [forms, Text.decomposed_eq_iff (List.all_eq_true.1 basic), String.toList_inj]

theorem getLast?_canonical {last : Char} (basic : Text.isBasic last = true) (identifier : String) :
    (canonical identifier).toList.getLast? = some last ↔
      identifier.toList.getLast? = some last := by
  rw [canonical, String.toList_ofList]
  exact Text.getLast?_decomposed basic _

/-! ## Normal forms -/

/-- What leads equivalent identifiers to one text, as composition and decomposition do. -/
def Normalizes (normal : String → String) : Prop :=
  ∀ identifier other, canonical identifier = canonical other → normal identifier = normal other

/-- Identifiers in one normal form are told apart by their texts. -/
theorem Normalizes.eq_of_canonical_eq {normal : String → String} (normalizes : Normalizes normal)
    {identifier other : String} (first : normal identifier = identifier) (second : normal other = other)
    (same : canonical identifier = canonical other) : identifier = other := by
  rw [← first, ← second]
  exact normalizes identifier other same

/-- What a text spells, with the identifier in another form. -/
def Reading.map (form : String → String) : Reading → Reading
  | .plain identifier => .plain (form identifier)
  | .raw identifier => .raw (form identifier)
  | .none => .none

theorem Reading.map_id (reading : Reading) : reading.map id = reading := by
  cases reading <;> rfl

end Identifier

end StatSchema
