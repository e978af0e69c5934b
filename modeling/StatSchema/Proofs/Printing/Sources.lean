/-
The tokens of a source are lexable and a chain: what a text is cut into is read back from what it is
printed as. Main statement: `legible_of_lexed`.
-/
import StatSchema.Proofs.Printing.Chains

namespace StatSchema.Token

open Text

/-! ## Lengths -/

theorem fractionLength_le {source : List Char} {n : Nat} (read : fractionLength source = some n) :
    n ≤ source.length := by
  have run := digitRun_le source
  have exponent {text : List Char} {m : Nat} (marked : markedExponent text = some m) :
      m ≤ text.length :=
    markedExponent_separated separated_nil (by rw [List.append_nil]; exact marked)
  rw [fractionLength_eq] at read
  split_ifs at read
  have rest := List.length_drop (i := digitRun source) (l := source)
  unfold fractionBehind at read
  split at read
  · rename_i places same
    split_ifs at read
    cases read
    rw [same, List.length_cons] at rest
    have run' := digitRun_le places
    cases marked : markedExponent (places.drop (digitRun places)) with
    | none => simp only [Option.getD_none]; omega
    | some m =>
      have within := exponent marked
      rw [List.length_drop] at within
      simp only [Option.getD_some]
      omega
  · obtain ⟨m, marked, rfl⟩ := Option.map_eq_some_iff.1 read
    have within := exponent marked
    omega

theorem withNumberSuffix_le {source : List Char} {n m : Nat} (within : n ≤ source.length)
    (read : withNumberSuffix source n = some m) : m ≤ source.length := by
  obtain ⟨rfl, -⟩ := withNumberSuffix_eq_some read
  have suffix := identifierLength_le (source.drop n)
  rw [List.length_drop] at suffix
  omega

theorem suffixed_le {reader : List Char → Option Nat} {source : List Char} {m : Nat}
    (closes : ∀ {n}, reader source = some n → Closes reader source n n)
    (read : suffixed reader source = some m) : m ≤ source.length := by
  obtain ⟨n, measured, rfl⟩ := Option.map_eq_some_iff.1 read
  obtain ⟨text, tail, rfl, rfl, -⟩ := closes measured
  rw [List.drop_left, List.length_append]
  exact Nat.add_le_add_left (identifierLength_le tail) _

/-- A literal is no longer than the text that it opens. -/
theorem literalLength_le {source : List Char} {m : Nat} (read : literalLength source = some m) :
    m ≤ source.length := by
  by_cases byte : ∃ rest, source = 'b' :: '\'' :: rest
  · obtain ⟨rest, rfl⟩ := byte
    rw [literalLength_byte] at read
    exact suffixed_le (characterLength_closes_behind .bytes ['b', '\'']) read
  · by_cases character : ∃ rest, source = '\'' :: rest
    · obtain ⟨rest, rfl⟩ := character
      rw [literalLength_character] at read
      exact suffixed_le (characterLength_closes_behind .text ['\'']) read
    · rw [literalLength_other (fun rest same => byte ⟨rest, same⟩)
        fun rest same => character ⟨rest, same⟩] at read
      rcases orElse_eq_some.1 read with string | ⟨-, number⟩
      · exact suffixed_le stringLength_closes string
      · rcases orElse_eq_some.1 number with fraction | ⟨-, whole⟩
        · obtain ⟨n, measured, suffix⟩ := Option.bind_eq_some_iff.1 fraction
          exact withNumberSuffix_le (fractionLength_le measured) suffix
        · obtain ⟨n, measured, suffix⟩ := Option.bind_eq_some_iff.1 whole
          exact withNumberSuffix_le (wholeLength_continues measured).1 suffix

theorem lexable_literal {source : List Char} {n : Nat} (measured : literalLength source = some n)
    (some_text : n ≠ 0) : Lexable (.literal (String.ofList (source.take n))) := by
  have within := literalLength_le measured
  have counted : (source.take n).length = n := List.length_take_of_le within
  obtain ⟨c, text, same⟩ := List.exists_cons_of_length_pos (l := source.take n) (by omega)
  have front : literalLength (c :: text ++ source.drop n) = some (c :: text).length := by
    rw [← same, List.take_append_drop, counted, measured]
  have alone := literalLength_separated separated_nil front
  rw [List.append_nil] at alone
  refine ⟨.inr ?_, ?_⟩
  · rw [String.toList_ofList, same, alone]
  · rw [String.toList_ofList, same]
    simp

/-- A string literal is read as itself. -/
theorem lexable_string (text : String) : Lexable (Token.string text) := by
  have chars : (Text.literal text).toList = '"' :: (literalChars text.toList ++ ['"']) :=
    String.toList_ofList
  refine ⟨.inr ?_, by rw [chars]; simp⟩
  have quoted : quotedText .text (literalChars text.toList ++ ['"']) =
      some (text.toList, (literalChars text.toList).length + 1) := quotedText_literalChars _
  rw [chars, literalLength_other (by simp) (by simp), suffixed]
  show ((quotedLength .text ('"' :: (literalChars text.toList ++ ['"']))).map _ <|> _) = _
  rw [quotedLength, quoted]
  simp [identifierLength]

/-! ## Digits -/

theorem baseDigits_digits {digits : List Char} (any : Bool)
    (all : ∀ c ∈ digits, c.isDigit = true) (some_digit : any = true ∨ digits ≠ []) :
    baseDigits 10 any digits = some digits.length := by
  induction digits generalizing any with
  | nil =>
    obtain rfl := some_digit.resolve_right (fun none => none rfl)
    rfl
  | cons c rest ih =>
    have digit : c.isDigit = true := all c List.mem_cons_self
    have noMark : c ≠ '_' := by
      rintro rfl
      cases digit
    have value : hexValue c = some (c.toNat - '0'.toNat) := if_pos digit
    have small : c.toNat - '0'.toNat < 10 := by
      simp only [Char.isDigit, Bool.and_eq_true, decide_eq_true_eq] at digit
      have below : c.toNat ≤ '9'.toNat := UInt32.le_iff_toNat_le.1 digit.2
      have nine : '9'.toNat - '0'.toNat < 10 := by decide
      omega
    rw [baseDigits, if_neg noMark, value]
    dsimp only
    rw [if_pos small, ih true (fun d here => all d (List.mem_cons_of_mem _ here)) (.inl rfl)]
    rfl

/-- A sequence of digits is one literal. -/
theorem lexable_digits {digits : List Char} (some_digit : digits ≠ [])
    (all : ∀ c ∈ digits, c.isDigit = true) : Lexable (.literal (String.ofList digits)) := by
  have noMark {mark : Char} (other : mark.isDigit = false) : mark ∉ digits := fun here => by
    rw [all mark here] at other
    cases other
  have noString : suffixed stringLength digits = none := by
    obtain ⟨c, rest, rfl⟩ := List.exists_cons_of_ne_nil some_digit
    rw [suffixed, stringLength_digit (all c List.mem_cons_self) rest]
    rfl
  have noFraction : fractionLength digits = none := by
    have run : digitRun digits = digits.length := by
      rw [digitRun, List.takeWhile_eq_self_iff.2 fun c here => by simp [all c here]]
    rw [fractionLength_eq, run, List.drop_length]
    split_ifs <;> rfl
  have whole : wholeLength digits = some digits.length := by
    rw [wholeLength_decimal, baseDigits_digits false all (.inr some_digit)]
    rintro mark here more rfl
    have others : ∀ mark ∈ ['x', 'o', 'b'], mark.isDigit = false := forall_mem_of_all (by decide)
    exact noMark (others mark here) (by simp)
  have measured : literalLength digits = some digits.length := by
    rw [literalLength_other, noString, numberLength, noFraction, whole]
    · simp [withNumberSuffix, identifierLength]
    · rintro rest rfl
      exact noMark (show ('b').isDigit = false by decide) List.mem_cons_self
    · rintro rest rfl
      exact noMark (show ('\'').isDigit = false by decide) List.mem_cons_self
  refine ⟨.inr ?_, ?_⟩
  · rw [String.toList_ofList, measured]
  · rwa [String.toList_ofList]

/-! ## Words -/

theorem isPlain_take {source : List Char} (some_length : identifierLength source ≠ 0) :
    isPlain (source.take (identifierLength source)) = true := by
  cases source with
  | nil => exact absurd rfl some_length
  | cons c rest =>
    rw [identifierLength] at some_length ⊢
    split_ifs at some_length ⊢ with opens
    · rw [List.take_succ_cons, ← List.prefix_iff_eq_take.1 (List.takeWhile_prefix _)]
      refine Bool.and_eq_true_iff.2 ⟨opens, List.all_eq_true.2 fun d here => ?_⟩
      exact List.mem_takeWhile_imp here
    · exact absurd rfl some_length

/-- An identifier at the head of a text is a word. -/
theorem word_of_length {source : List Char} {n : Nat}
    (measured : anyIdentifierLength source = some n) : Word (source.take n) := by
  unfold anyIdentifierLength at measured
  split at measured
  · dsimp only at measured
    split_ifs at measured with refused
    cases measured
    rw [Bool.or_eq_true, not_or, decide_eq_true_eq] at refused
    exact .raw (isPlain_take refused.1) (Bool.eq_false_iff.2 refused.2)
  · split_ifs at measured with empty
    cases measured
    exact .plain (isPlain_take empty)

/-! ## Single tokens -/

theorem text_delimiterOf {c : Char} {token : Token} (delimiter : delimiterOf c = some token) :
    token.text.toList = [c] ∧ Lexable token ∧ ∀ symbol, token ≠ .punctuation symbol .joint := by
  unfold delimiterOf at delimiter
  split at delimiter
  all_goals first
    | (cases delimiter; exact ⟨rfl, trivial, by simp⟩)
    | cases delimiter

theorem mark_of_opensPunctuation {source : List Char} (opens : opensPunctuation source = true) :
    ∃ c rest, source = c :: rest ∧ isPunctuation c = true ∧ opensComment (c :: rest) = false := by
  unfold opensPunctuation at opens
  split at opens
  · cases opens
  · cases opens
  · rename_i c rest noLine noBlock
    refine ⟨c, rest, rfl, opens, ?_⟩
    unfold opensComment
    split
    · exact absurd ‹c :: rest = _› fun same => by cases same; exact noLine _ rfl rfl
    · exact absurd ‹c :: rest = _› fun same => by cases same; exact noBlock _ rfl rfl
    · rfl
  · cases opens

/-- What the token at the head of a text is written as, that it is lexable, and what is behind it if
it is joint. -/
theorem leaf_sound {source : List Char} {token : Token} {n : Nat}
    (read : leaf source = some (token, n)) (some_text : n ≠ 0) :
    token.text.toList = source.take n ∧ Lexable token ∧
      ∀ symbol, token = .punctuation symbol .joint → n = 1 ∧ Admits token source.tail := by
  unfold leaf at read
  split at read
  · cases read
  · rename_i c rest
    split at read
    · rename_i failed
      cases read
      refine ⟨?_, ⟨.inl rfl, by rw [failedLiteral_chars]; simp⟩, by simp⟩
      exact List.prefix_iff_eq_take.1 (List.isPrefixOf_iff_prefix.1 failed)
    · split at read
      · rename_i delimiter
        cases read
        obtain ⟨text, lexable, unjoined⟩ := text_delimiterOf delimiter
        exact ⟨text, lexable, fun symbol same => absurd same (unjoined symbol)⟩
      · split at read
        · rename_i measured
          cases read
          exact ⟨String.toList_ofList, lexable_literal measured some_text, by simp⟩
        · split_ifs at read with lifetime here opens joined
          · cases read
            refine ⟨?_, ⟨by decide, fun _ => rfl⟩, fun _ same => ⟨rfl, ?_⟩⟩
            · rw [lifetime]; rfl
            · cases same
              exact here
          · cases read
            obtain ⟨_, _, same, mark, code⟩ := mark_of_opensPunctuation opens
            cases same
            refine ⟨String.toList_singleton .., ⟨mark, fun same => absurd same lifetime⟩,
              fun symbol same => ⟨rfl, ?_⟩⟩
            cases same
            exact (if_neg lifetime).mpr ⟨joined, code⟩
          · cases read
            obtain ⟨_, _, same, mark, -⟩ := mark_of_opensPunctuation opens
            cases same
            exact ⟨String.toList_singleton .., ⟨mark, fun same => absurd same lifetime⟩, by simp⟩
          · obtain ⟨m, measured, same⟩ := Option.map_eq_some_iff.1 read
            cases same
            refine ⟨String.toList_ofList, ?_, by simp⟩
            show Word (String.ofList _).toList
            rw [String.toList_ofList]
            exact word_of_length measured

/-! ## Sequences of tokens -/

/-- Where code opens a text, its first token is read there. -/
theorem lexed_head {c : Char} {rest : List Char} {tokens : List Token}
    (noSpace : isSpace c = false) (code : opensComment (c :: rest) = false)
    (read : lexed (c :: rest) = some tokens) :
    ∃ token n more, leaf (c :: rest) = some (token, n + 1) ∧ tokens = token :: more := by
  have bare : spaceLength (c :: rest) = 0 := by
    rw [spaceLength, plainComment_eq_none code]
    simp [noSpace]
  rw [lexed_eq, bare, List.drop_zero] at read
  dsimp only at read
  rw [lexeme, docComment_eq_none code] at read
  dsimp only at read
  cases head : leaf (c :: rest) with
  | none =>
    rw [head] at read
    cases read
  | some answer =>
    obtain ⟨token, n⟩ := answer
    rw [head] at read
    cases n with
    | zero => cases read
    | succ n =>
      obtain ⟨more, -, rfl⟩ := Option.map_eq_some_iff.1 (show (lexed (rest.drop n)).map _ = _ from read)
      exact ⟨token, n, more, rfl, rfl⟩

theorem isLifetime_word {text : List Char} (word : Word text) : isLifetime text = true := by
  have measured := anyIdentifierLength_word word separated_nil
  rw [List.append_nil] at measured
  rw [isLifetime, measured]
  dsimp only
  rw [List.drop_length]

/-- A lifetime that is no raw identifier is one as far as any text reaches that opens it. -/
theorem isLifetime_front {c : Char} {text tail : List Char}
    (unmarked : ∀ rest, c :: text ++ tail ≠ 'r' :: '#' :: rest)
    (lifetime : isLifetime (c :: text ++ tail) = true) : isLifetime (c :: text) = true := by
  have measure {source : List Char} (unmarked : ∀ rest, source ≠ 'r' :: '#' :: rest) :
      anyIdentifierLength source =
        if identifierLength source = 0 then none else some (identifierLength source) := by
    unfold anyIdentifierLength
    split
    · exact absurd rfl (unmarked _)
    · rfl
  have unmarked' : ∀ rest, c :: text ≠ 'r' :: '#' :: rest := fun rest same =>
    unmarked (rest ++ tail) (by rw [same]; rfl)
  obtain ⟨_, _, same, opens⟩ := exists_of_isLifetime lifetime
  cases same
  have whole : (text ++ tail).takeWhile continuesIdentifier = _ := List.takeWhile_append
  split_ifs at whole with all
  · refine isLifetime_word (.plain (Bool.and_eq_true_iff.2 ⟨opens, List.all_eq_true.2 ?_⟩))
    rw [← List.takeWhile_eq_self_iff]
    exact (List.takeWhile_prefix _).eq_of_length all
  · rw [isLifetime, measure unmarked, List.cons_append, identifierLength, if_pos opens, whole,
      if_neg (Nat.succ_ne_zero _)] at lifetime
    rw [isLifetime, measure unmarked', identifierLength, if_pos opens, if_neg (Nat.succ_ne_zero _)]
    dsimp only at lifetime ⊢
    rw [List.drop_succ_cons] at lifetime ⊢
    have run := (List.takeWhile_prefix (p := continuesIdentifier) (l := text)).length_le
    rw [List.drop_append_of_le_length run] at lifetime
    have unraw : ['r', '#'].isPrefixOf (c :: (text ++ tail)) = false := by
      refine Bool.eq_false_iff.2 fun marked => ?_
      obtain ⟨rest, same⟩ := List.isPrefixOf_iff_prefix.1 marked
      exact unmarked rest same.symm
    rw [unraw] at lifetime
    have behind : text.drop (text.takeWhile continuesIdentifier).length ≠ [] := fun ended => by
      rw [List.drop_eq_nil_iff] at ended
      exact all (Nat.le_antisymm run ended)
    obtain ⟨d, more, ended⟩ := List.exists_cons_of_ne_nil behind
    rw [ended] at lifetime ⊢
    rw [List.cons_append] at lifetime
    split at lifetime
    · cases lifetime
    · cases lifetime
    · rename_i noQuote noPound
      split
      · exact absurd (by rw [(List.cons.inj ‹d :: more = _›).1]) (noQuote (more ++ tail))
      · exact absurd (by rw [(List.cons.inj ‹d :: more = _›).1]) (noPound (more ++ tail))
      · rfl

theorem exists_of_isLifetime_raw {rest : List Char} (lifetime : isLifetime ('r' :: '#' :: rest) = true) :
    ∃ c more, rest = c :: more ∧ opensIdentifier c = true := by
  have some_length : identifierLength rest ≠ 0 := by
    intro none
    have unmeasured : anyIdentifierLength ('r' :: '#' :: rest) = .none := by
      show (if identifierLength rest = 0 || _ then _ else _) = _
      rw [none]
      rfl
    rw [isLifetime, unmeasured] at lifetime
    cases lifetime
  cases rest with
  | nil => exact absurd rfl some_length
  | cons c more =>
    refine ⟨c, more, rfl, ?_⟩
    by_contra closed
    exact some_length (if_neg closed)

/-- What opens a lifetime does so as far as its first token goes. -/
theorem isLifetime_leaf {source : List Char} {token : Token} {n : Nat}
    (lifetime : isLifetime source = true) (read : leaf source = some (token, n)) (some_text : n ≠ 0) :
    isLifetime (source.take n) = true := by
  obtain ⟨c, rest, rfl, opens⟩ := exists_of_isLifetime lifetime
  by_cases marked : ∃ more, c :: rest = 'r' :: '#' :: more
  · -- a raw identifier, which is no literal, is read as a whole
    obtain ⟨more, same⟩ := marked
    cases same
    obtain ⟨d, others, rfl, opens⟩ := exists_of_isLifetime_raw lifetime
    rw [leaf_cons (.inl (by decide)), show delimiterOf 'r' = none from rfl,
      literalLength_raw opens, if_neg (by decide), show opensPunctuation ('r' :: _) = false from rfl,
      if_neg Bool.false_ne_true] at read
    split_ifs at read
    obtain ⟨m, measured, same⟩ := Option.map_eq_some_iff.1 read
    cases same
    exact isLifetime_word (word_of_length measured)
  · obtain ⟨n, rfl⟩ := Nat.exists_eq_succ_of_ne_zero some_text
    rw [← List.take_append_drop n rest, ← List.cons_append] at lifetime
    exact isLifetime_front (fun more same => marked ⟨more, by
      rw [← same, List.cons_append, List.take_append_drop]⟩) lifetime

/-- A joint character is glued to the token that is read behind it. -/
theorem glues_of_admits {symbol : Char} {behind : List Char} {tokens : List Token}
    (admits : Admits (.punctuation symbol .joint) behind) (read : lexed behind = some tokens) :
    ∃ token more, tokens = token :: more ∧ glues symbol token.text.toList = true := by
  by_cases lifetime : symbol = '\''
  · have opens : isLifetime behind = true := by simpa [Admits, lifetime] using admits
    obtain ⟨c, rest, rfl, begun⟩ := exists_of_isLifetime opens
    obtain ⟨noSpace, noSlash⟩ := head_facts (.inl begun)
    obtain ⟨token, n, more, head, rfl⟩ := lexed_head noSpace (opensComment_cons noSlash rest) read
    obtain ⟨text, -, -⟩ := leaf_sound head (Nat.succ_ne_zero n)
    refine ⟨token, more, rfl, (if_pos lifetime).trans ?_⟩
    rw [text]
    exact isLifetime_leaf opens head (Nat.succ_ne_zero n)
  · obtain ⟨opens, code⟩ : opensPunctuation behind = true ∧ opensComment (symbol :: behind) = false := by
      simpa [Admits, lifetime] using admits
    obtain ⟨c, rest, rfl, mark, code'⟩ := mark_of_opensPunctuation opens
    obtain ⟨noSpace, -⟩ := mark_facts c (mem_marks mark)
    obtain ⟨token, n, more, head, rfl⟩ := lexed_head noSpace code' read
    obtain ⟨text, -, -⟩ := leaf_sound head (Nat.succ_ne_zero n)
    refine ⟨token, more, rfl, (if_neg lifetime).trans ?_⟩
    rw [text, List.take_succ_cons, List.head?_cons, Option.any_some, mark, Bool.true_and,
      Bool.not_eq_true', Bool.eq_false_iff]
    intro comment
    simp only [Bool.and_eq_true, Bool.or_eq_true, decide_eq_true_eq] at comment
    obtain ⟨rfl, rfl | rfl⟩ := comment
    · cases code
    · cases code

theorem lexable_mark {symbol : Char} {spacing : Spacing} (mark : isPunctuation symbol = true)
    (noLifetime : symbol ≠ '\'') : Lexable (.punctuation symbol spacing) :=
  ⟨mark, fun same => absurd same noLifetime⟩

theorem lexable_plain {name : String} (plain : isPlain name.toList = true) :
    Lexable (.identifier name) :=
  Word.plain plain

theorem docAttribute_legible (text : List Char) (inner : Bool) :
    (∀ token ∈ docAttribute text inner, Lexable token) ∧
      ∀ next more, chained next (docAttribute text inner ++ more) = chained next more := by
  have string := lexable_string (String.ofList text)
  have content : ∀ token ∈ brackets [.identifier "doc", .punctuation '=' .alone,
      .string (String.ofList text)], Lexable token := by
    simp only [brackets, List.cons_append, List.nil_append, List.forall_mem_cons]
    exact ⟨trivial, lexable_plain (by decide), lexable_mark (by decide) (by decide), string, trivial,
      List.forall_mem_nil _⟩
  have mark : Lexable (.punctuation '#' .alone) := lexable_mark (by decide) (by decide)
  have inside : Lexable (.punctuation '!' .alone) := lexable_mark (by decide) (by decide)
  constructor
  · cases inner with
    | true => exact List.forall_mem_cons.2 ⟨mark, List.forall_mem_cons.2 ⟨inside, content⟩⟩
    | false => exact List.forall_mem_cons.2 ⟨mark, content⟩
  · intro next more
    cases inner <;> simp [docAttribute, brackets, chained, coupled, Token.string]

/-- The tokens that a text is cut into are lexable and a chain. -/
theorem legible_of_lexed {source : List Char} {tokens : List Token}
    (read : lexed source = some tokens) :
    (∀ token ∈ tokens, Lexable token) ∧ chained none tokens = true := by
  generalize counted : source.length = size
  induction size using Nat.strongRecOn generalizing source tokens with
  | ind size ih =>
    rw [lexed_eq] at read
    split at read
    · cases read
      simp [chained]
    · rename_i c rest begun
      split at read
      · rename_i ts n head
        obtain ⟨more, later, rfl⟩ := Option.map_eq_some_iff.1 read
        have shorter : (rest.drop n).length < size := by
          have left := congrArg List.length begun
          simp only [List.length_drop, List.length_cons] at left ⊢
          omega
        obtain ⟨lexable, chain⟩ := ih _ shorter later rfl
        unfold lexeme at head
        split at head
        · cases head
          obtain ⟨documented, chain'⟩ := docAttribute_legible ‹_› ‹_›
          exact ⟨List.forall_mem_append.2 ⟨documented, lexable⟩, (chain' _ _).trans chain⟩
        · obtain ⟨⟨token, m⟩, single, same⟩ := Option.map_eq_some_iff.1 head
          cases same
          obtain ⟨-, lexable', joined⟩ := leaf_sound single (Nat.succ_ne_zero n)
          refine ⟨List.forall_mem_cons.2 ⟨lexable', lexable⟩, Bool.and_eq_true_iff.2 ⟨?_, chain⟩⟩
          unfold coupled
          split
          · rename_i symbol
            obtain ⟨single, admits⟩ := joined symbol rfl
            obtain rfl := Nat.succ.inj single
            obtain ⟨next, others, rfl, glued⟩ := glues_of_admits admits later
            exact glued
          · rfl
      · cases read

end StatSchema.Token
