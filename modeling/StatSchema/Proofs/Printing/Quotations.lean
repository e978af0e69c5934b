/-
What is quoted closes itself: an escape, a quoted text and a character literal are as long before one
text as before any other. Main statements: `stringLength_closes` and `characterLength_closes`.
-/
import Mathlib.Data.List.TakeWhile
import StatSchema.Proofs.Quotation

namespace StatSchema.Token

open Text

/-- What a reader answers at the head of a text, whatever follows so much of the text. -/
def Closes {α : Type} (reader : List Char → Option α) (source : List Char) (answer : α)
    (length : Nat) : Prop :=
  ∃ text tail, source = text ++ tail ∧ text.length = length ∧
    ∀ rest, reader (text ++ rest) = some answer

theorem Closes.ne_nil {α : Type} {reader : List Char → Option α} {source : List Char} {answer : α}
    {length : Nat} (closes : Closes reader source answer length) (empty : reader [] = none) :
    ∃ c text tail, source = c :: text ++ tail ∧ text.length + 1 = length ∧
      ∀ rest, reader (c :: text ++ rest) = some answer := by
  obtain ⟨text, tail, rfl, rfl, closes⟩ := closes
  cases text with
  | nil =>
    have impossible := closes []
    rw [List.nil_append, empty] at impossible
    cases impossible
  | cons c text => exact ⟨c, text, tail, rfl, rfl, closes⟩

/-! ## Escapes -/

theorem codePoint_closes {value count : Nat} {source : List Char} {c : Char} {n : Nat}
    (read : codePoint value count source = some (c, n)) :
    Closes (codePoint value count) source (c, n) n := by
  induction source generalizing value count c n with
  | nil => cases read
  | cons first rest ih =>
    unfold codePoint at read
    split_ifs at read with brace valid underscore counted full
    · cases read
      refine ⟨[first], rest, rfl, rfl, fun other => ?_⟩
      rw [List.singleton_append, codePoint, if_pos brace, if_pos valid]
    · obtain ⟨⟨c', n'⟩, later, same⟩ := Option.map_eq_some_iff.1 read
      cases same
      obtain ⟨text, tail, rfl, rfl, closes⟩ := ih later
      refine ⟨first :: text, tail, rfl, rfl, fun other => ?_⟩
      rw [List.cons_append, codePoint, if_neg brace, if_pos underscore, if_neg counted, closes]
      rfl
    · split at read <;> cases read
    · split at read
      · rename_i digit value'
        obtain ⟨⟨c', n'⟩, later, same⟩ := Option.map_eq_some_iff.1 read
        cases same
        obtain ⟨text, tail, rfl, rfl, closes⟩ := ih later
        refine ⟨first :: text, tail, rfl, rfl, fun other => ?_⟩
        rw [List.cons_append, codePoint, if_neg brace, if_neg underscore, value']
        dsimp only
        rw [if_neg full, closes]
        rfl
      · cases read

theorem escape_closes {quotation : Quotation} {source : List Char} {c : Char} {n : Nat}
    (read : escape quotation source = some (c, n)) : Closes (escape quotation) source (c, n) n := by
  unfold escape at read
  split at read
  all_goals try (cases read; exact ⟨[_], _, rfl, rfl, fun _ => rfl⟩)
  · split_ifs at read with terminated
    cases read
    exact ⟨['0'], _, rfl, rfl, fun _ => if_neg terminated⟩
  · rename_i high low rest
    refine ⟨['x', high, low], rest, rfl, ?_, fun other => ?_⟩
    · split at read
      · split_ifs at read
        cases read
        rfl
      · cases read
    · exact read
  · rename_i rest
    split_ifs at read with bytes
    split at read
    · rename_i d k point
      split_ifs at read with zero
      cases read
      obtain ⟨text, tail, rfl, rfl, closes⟩ := codePoint_closes point
      refine ⟨'u' :: '{' :: text, tail, rfl, rfl, fun other => ?_⟩
      rw [List.cons_append, List.cons_append, escape, if_neg bytes, closes]
      exact if_neg zero
    · cases read
  · cases read

theorem continuation_closes {source : List Char} {k : Nat} (read : continuation source = some k) :
    ∃ text c tail, source = text ++ c :: tail ∧ text.length = k ∧
      ∀ rest, continuation (text ++ c :: rest) = some k := by
  fun_induction continuation source generalizing k with
  | case1 => cases read
  | case2 rest ih =>
    obtain ⟨k', later, rfl⟩ := Option.map_eq_some_iff.1 read
    obtain ⟨text, c, tail, rfl, rfl, closes⟩ := ih later
    refine ⟨'\r' :: '\n' :: text, c, tail, rfl, rfl, fun other => ?_⟩
    simp [continuation, closes]
  | case3 => cases read
  | case4 first rest apart carriage blank ih =>
    obtain ⟨k', later, rfl⟩ := Option.map_eq_some_iff.1 read
    obtain ⟨text, c, tail, rfl, rfl, closes⟩ := ih later
    refine ⟨first :: text, c, tail, rfl, rfl, fun other => ?_⟩
    rw [List.cons_append, continuation.eq_3 _ _ fun _ same _ => carriage same, if_neg carriage,
      if_pos blank, closes]
    rfl
  | case5 first rest apart carriage blank =>
    cases read
    refine ⟨[], first, rest, rfl, rfl, fun other => ?_⟩
    rw [List.nil_append, continuation.eq_3 _ _ fun _ same _ => carriage same, if_neg carriage,
      if_neg blank]

/-! ## Quoted text -/

/-- A line break that is escaped after so many characters is passed over. -/
theorem quotedText_closes_continued {quotation : Quotation} (mark : List Char) {rest : List Char}
    {k : Nat} {value : List Char} {n : Nat}
    (unfolds : ∀ rest, quotedText quotation (mark ++ rest) = match continuation rest with
      | some k => (quotedText quotation (rest.drop k)).map fun (value, n) =>
        (value, n + k + mark.length)
      | none => none)
    (continued : continuation rest = some k)
    (later : Closes (quotedText quotation) (rest.drop k) (value, n) n) :
    Closes (quotedText quotation) (mark ++ rest) (value, n + k + mark.length)
      (n + k + mark.length) := by
  obtain ⟨blanks, c, behind, rfl, rfl, passes⟩ := continuation_closes continued
  rw [List.drop_left] at later
  obtain ⟨_, text, tail, same, rfl, closes⟩ := later.ne_nil (by rw [quotedText])
  obtain ⟨rfl, rfl⟩ := List.cons.inj same
  refine ⟨mark ++ blanks ++ c :: text, tail, by simp, by simp; omega, fun other => ?_⟩
  rw [show mark ++ blanks ++ c :: text ++ other = mark ++ (blanks ++ c :: (text ++ other)) by simp,
    unfolds, passes]
  dsimp only
  rw [List.drop_left, ← List.cons_append, closes]
  rfl

theorem quotedText_closes {quotation : Quotation} {source value : List Char} {n : Nat}
    (read : quotedText quotation source = some (value, n)) :
    Closes (quotedText quotation) source (value, n) n := by
  fun_induction quotedText quotation source generalizing value n with
  | case1 => cases read
  | case2 tail =>
    cases read
    exact ⟨['"'], tail, rfl, rfl, fun other => by rw [List.singleton_append, quotedText]⟩
  | case3 rest ih =>
    obtain ⟨⟨value', n'⟩, later, same⟩ := Option.map_eq_some_iff.1 read
    cases same
    obtain ⟨text, tail, rfl, rfl, closes⟩ := ih later
    refine ⟨'\r' :: '\n' :: text, tail, rfl, rfl, fun other => ?_⟩
    rw [List.cons_append, List.cons_append, quotedText, closes]
    rfl
  | case4 => cases read
  | case5 rest k continued ih =>
    obtain ⟨⟨value', n'⟩, later, same⟩ := Option.map_eq_some_iff.1 read
    cases same
    refine quotedText_closes_continued ['\\', '\n'] (fun rest => ?_) continued (ih later)
    exact quotedText.eq_5 quotation rest
  | case6 => cases read
  | case7 rest k continued ih =>
    obtain ⟨⟨value', n'⟩, later, same⟩ := Option.map_eq_some_iff.1 read
    cases same
    refine quotedText_closes_continued ['\\', '\r', '\n'] (fun rest => ?_) continued
      (ih later)
    exact quotedText.eq_6 quotation rest
  | case8 => cases read
  | case9 rest inside within c k stands ih =>
    obtain ⟨⟨value', n'⟩, later, same⟩ := Option.map_eq_some_iff.1 read
    cases same
    obtain ⟨next, mark, behind, rfl, rfl, escapes⟩ := (escape_closes stands).ne_nil rfl
    rw [show (next :: mark ++ behind).drop (mark.length + 1) = behind from List.drop_left] at ih later
    obtain ⟨text, tail, rfl, rfl, closes⟩ := ih later
    refine ⟨'\\' :: next :: mark ++ text, tail, by simp, by simp; omega, fun other => ?_⟩
    have unbroken : next ≠ '\r' := by
      rintro rfl
      cases escapes []
    have stands' : escape quotation (next :: (mark ++ (text ++ other))) =
        some (c, mark.length + 1) := escapes _
    have read' := quotedText_escape (fun same => inside _ (by rw [same]; rfl)) unbroken stands'
    rw [show (next :: (mark ++ (text ++ other))).drop (mark.length + 1) = text ++ other from
      List.drop_left, closes] at read'
    simpa using read'
  | case10 => cases read
  | case11 c rest unquoted _ unbroken _ _ unescaped admitted ih =>
    obtain ⟨⟨value', n'⟩, later, same⟩ := Option.map_eq_some_iff.1 read
    cases same
    obtain ⟨text, tail, rfl, rfl, closes⟩ := ih later
    refine ⟨c :: text, tail, rfl, rfl, fun other => ?_⟩
    rw [List.cons_append, quotedText_plain unquoted unescaped unbroken admitted, closes]
    rfl
  | case12 => cases read


/-! ## Raw text -/

theorem rawText_eq {quotation : Quotation} {pounds : Nat} {c : Char} {rest : List Char}
    (unbroken : c ≠ '\r') :
    rawText quotation pounds (c :: rest) =
      if c = '"' && rest.take pounds == List.replicate pounds '#' then some (pounds + 1)
      else if c ≠ '\r' && quotation.admits c then (rawText quotation pounds rest).map (· + 1)
      else none :=
  rawText.eq_3 quotation pounds c rest fun _ same _ => unbroken same

theorem rawText_closes {quotation : Quotation} {pounds : Nat} {source : List Char} {n : Nat}
    (read : rawText quotation pounds source = some n) :
    Closes (rawText quotation pounds) source n n ∧ pounds < n := by
  fun_induction rawText quotation pounds source generalizing n with
  | case1 => cases read
  | case2 rest ih =>
    obtain ⟨n', later, rfl⟩ := Option.map_eq_some_iff.1 read
    obtain ⟨⟨text, tail, rfl, rfl, closes⟩, longer⟩ := ih later
    refine ⟨⟨'\r' :: '\n' :: text, tail, rfl, rfl, fun other => ?_⟩, by omega⟩
    rw [List.cons_append, List.cons_append, rawText, closes]
    rfl
  | case3 c rest apart closing =>
    cases read
    obtain ⟨rfl, marked⟩ : c = '"' ∧ rest.take pounds = List.replicate pounds '#' := by
      simpa using closing
    have counted : (rest.take pounds).length = pounds := by rw [marked, List.length_replicate]
    refine ⟨⟨'"' :: rest.take pounds, rest.drop pounds, by simp, by simp [counted],
      fun other => ?_⟩, by omega⟩
    rw [List.cons_append, rawText_eq (by decide), List.take_append_of_le_length (by omega),
      List.take_take, Nat.min_self, marked]
    exact if_pos (by simp)
  | case4 c rest apart unclosed admitted ih =>
    obtain ⟨n', later, rfl⟩ := Option.map_eq_some_iff.1 read
    obtain ⟨⟨text, tail, rfl, rfl, closes⟩, longer⟩ := ih later
    refine ⟨⟨c :: text, tail, rfl, rfl, fun other => ?_⟩, by omega⟩
    -- the mark that closes the text is long enough for every quote before it to be seen through
    rw [List.take_append_of_le_length (by omega)] at unclosed
    rw [List.cons_append, rawText_eq (by simp_all), List.take_append_of_le_length (by omega),
      if_neg unclosed, if_pos admitted, closes]
    rfl
  | case5 => cases read

theorem eq_pounds_append {source rest : List Char} (opened : source.drop (poundCount source) = rest) :
    source = List.replicate (poundCount source) '#' ++ rest := by
  have pounds : source.take (poundCount source) = List.replicate (poundCount source) '#' := by
    have whole := List.prefix_iff_eq_take.1 (List.takeWhile_prefix (p := (· = '#')) (l := source))
    refine List.eq_replicate_iff.2 ⟨?_, fun c here => ?_⟩
    · rw [poundCount, ← whole]
    · rw [poundCount, ← whole] at here
      simpa using List.mem_takeWhile_imp here
  rw [← pounds, ← opened, List.take_append_drop]

theorem rawLength_pounds (quotation : Quotation) (pounds : Nat) (rest : List Char) :
    rawLength quotation (List.replicate pounds '#' ++ '"' :: rest) =
      if pounds ≤ 255 then (rawText quotation pounds rest).map (· + pounds + 1) else none := by
  have counted : poundCount (List.replicate pounds '#' ++ '"' :: rest) = pounds := by
    rw [poundCount, List.takeWhile_append_of_pos (by simp)]
    simp
  unfold rawLength
  rw [counted]
  dsimp only
  rw [show (List.replicate pounds '#' ++ '"' :: rest).drop pounds = '"' :: rest by simp]
  rfl

theorem rawLength_closes {quotation : Quotation} {source : List Char} {n : Nat}
    (read : rawLength quotation source = some n) : Closes (rawLength quotation) source n n := by
  have marked : ∃ rest, source.drop (poundCount source) = '"' :: rest := by
    unfold rawLength at read
    dsimp only at read
    split at read
    · rename_i rest opened
      exact ⟨rest, opened⟩
    · cases read
  obtain ⟨rest, opened⟩ := marked
  have split := eq_pounds_append opened
  generalize poundCount source = pounds at split
  subst split
  rw [rawLength_pounds] at read
  split_ifs at read with few
  obtain ⟨n', later, rfl⟩ := Option.map_eq_some_iff.1 read
  obtain ⟨⟨text, tail, rfl, rfl, closes⟩, -⟩ := rawText_closes later
  refine ⟨List.replicate pounds '#' ++ '"' :: text, tail, by simp, by simp; omega,
    fun other => ?_⟩
  rw [List.append_assoc, List.cons_append, rawLength_pounds, if_pos few, closes]
  rfl

/-! ## String and character literals -/

theorem quotedLength_closes {quotation : Quotation} {source : List Char} {n : Nat}
    (read : quotedLength quotation source = some n) :
    Closes (quotedLength quotation) source n n := by
  unfold quotedLength at read
  split at read
  · obtain ⟨⟨value, n'⟩, later, rfl⟩ := Option.map_eq_some_iff.1 read
    obtain ⟨text, tail, rfl, rfl, closes⟩ := quotedText_closes later
    refine ⟨'"' :: text, tail, rfl, rfl, fun other => ?_⟩
    rw [List.cons_append, quotedLength, closes]
    rfl
  · cases read

theorem stringLength_closes {source : List Char} {n : Nat} (read : stringLength source = some n) :
    Closes stringLength source n n := by
  unfold stringLength at read
  split at read
  · obtain ⟨n', later, rfl⟩ := Option.map_eq_some_iff.1 read
    obtain ⟨text, tail, rfl, rfl, closes⟩ := rawLength_closes later
    refine ⟨'r' :: text, tail, rfl, rfl, fun other => ?_⟩
    rw [List.cons_append, stringLength, closes]
    rfl
  · obtain ⟨n', later, rfl⟩ := Option.map_eq_some_iff.1 read
    obtain ⟨text, tail, rfl, rfl, closes⟩ := rawLength_closes later
    refine ⟨'b' :: 'r' :: text, tail, rfl, rfl, fun other => ?_⟩
    rw [List.cons_append, List.cons_append, stringLength, closes]
    rfl
  · obtain ⟨n', later, rfl⟩ := Option.map_eq_some_iff.1 read
    obtain ⟨text, tail, rfl, rfl, closes⟩ := rawLength_closes later
    refine ⟨'c' :: 'r' :: text, tail, rfl, rfl, fun other => ?_⟩
    rw [List.cons_append, List.cons_append, stringLength, closes]
    rfl
  · rename_i rest apart
    obtain ⟨n', later, rfl⟩ := Option.map_eq_some_iff.1 read
    obtain ⟨c, text, tail, rfl, counted, closes⟩ := (quotedLength_closes later).ne_nil rfl
    refine ⟨'b' :: c :: text, tail, rfl, by simp [← counted], fun other => ?_⟩
    rw [List.cons_append, stringLength, closes]
    · rfl
    · rintro rest' same
      exact apart (text ++ tail) (by rw [List.cons_append] at same ⊢; cases same; rfl)
  · rename_i rest apart
    obtain ⟨n', later, rfl⟩ := Option.map_eq_some_iff.1 read
    obtain ⟨c, text, tail, rfl, counted, closes⟩ := (quotedLength_closes later).ne_nil rfl
    refine ⟨'c' :: c :: text, tail, rfl, by simp [← counted], fun other => ?_⟩
    rw [List.cons_append, stringLength, closes]
    · rfl
    · rintro rest' same
      exact apart (text ++ tail) (by rw [List.cons_append] at same ⊢; cases same; rfl)
  · obtain ⟨c, text, tail, rfl, counted, closes⟩ := (quotedLength_closes read).ne_nil rfl
    refine ⟨c :: text, tail, rfl, by simp [← counted], fun other => ?_⟩
    have quote : c = '"' := by
      have read := closes []
      unfold quotedLength at read
      split at read
      · rename_i same
        cases same
        rfl
      · cases read
    subst quote
    exact closes other

theorem characterLength_closes {quotation : Quotation} {source : List Char} {n : Nat}
    (read : characterLength quotation source = some n) :
    Closes (characterLength quotation) source n n := by
  unfold characterLength at read
  split at read
  · split at read
    · rename_i rest _ c n' escaped
      split_ifs at read with closed
      cases read
      obtain ⟨text, tail, rfl, rfl, closes⟩ := escape_closes escaped
      rw [List.getElem?_append_right (Nat.le_refl _), Nat.sub_self] at closed
      cases tail with
      | nil => cases closed
      | cons c tail =>
        cases closed
        refine ⟨'\\' :: text ++ ['\''], tail, by simp, by simp, fun other => ?_⟩
        rw [List.append_assoc, List.cons_append, characterLength, closes]
        simp
    · cases read
  · rename_i c rest unescaped
    split_ifs at read with admitted
    cases read
    refine ⟨[c, '\''], rest, rfl, rfl, fun other => ?_⟩
    rw [List.cons_append, List.cons_append, List.nil_append, characterLength, if_pos admitted]
    exact unescaped
  · cases read

theorem characterLength_closes_behind (quotation : Quotation) (mark : List Char)
    {source : List Char} {n : Nat}
    (read : (characterLength quotation (source.drop mark.length)).map (· + mark.length) = some n) :
    Closes (fun source => (characterLength quotation (source.drop mark.length)).map
      (· + mark.length)) source n n := by
  obtain ⟨n', later, rfl⟩ := Option.map_eq_some_iff.1 read
  obtain ⟨c, text, tail, split, rfl, same⟩ := (characterLength_closes later).ne_nil rfl
  have counted : (source.take mark.length).length = mark.length := by
    have longer := congrArg List.length split
    simp only [List.length_drop, List.length_append, List.length_cons] at longer
    rw [List.length_take]
    omega
  refine ⟨source.take mark.length ++ c :: text, tail, ?_, by simp [counted, Nat.add_comm],
    fun rest => ?_⟩
  · rw [List.append_assoc, ← split, List.take_append_drop]
  · dsimp only
    rw [List.append_assoc, List.drop_left' counted, same]
    rfl

end StatSchema.Token
