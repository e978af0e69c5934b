/-
Single tokens at the head of a text: what is behind a delimiter, a punctuation character, a literal or
a word decides whether it is read alone. Main statements: `literalLength_separated`, `leaf_word` and
`lexed_leaf`.
-/
import StatSchema.Proofs.Printing.Numbers
import StatSchema.Proofs.Printing.Quotations
import StatSchema.Proofs.Spelling

namespace StatSchema.Token

open Text

/-! ## Any literal -/

/-- The length of a literal with its suffix, given the length without it. -/
def suffixed (reader : List Char → Option Nat) (source : List Char) : Option Nat :=
  (reader source).map fun n => n + identifierLength (source.drop n)

theorem suffixed_separated {reader : List Char → Option Nat} (text : List Char) {rest stop : List Char}
    (closes : ∀ {source n}, reader source = some n → Closes reader source n n)
    (separated : Separated stop) (read : suffixed reader (text ++ rest) = some text.length) :
    suffixed reader (text ++ stop) = some text.length := by
  obtain ⟨n, measured, total⟩ := Option.map_eq_some_iff.1 read
  obtain ⟨front, tail, split, rfl, same⟩ := closes measured
  rw [split, List.drop_left] at total
  obtain ⟨suffix, rfl⟩ : front <+: text := List.prefix_of_prefix_length_le
    (List.prefix_append front tail) (split ▸ List.prefix_append text rest) (by omega)
  rw [List.append_assoc, List.append_cancel_left_eq] at split
  subst split
  rw [List.length_append, Nat.add_left_cancel_iff] at total
  rw [suffixed, List.append_assoc, same, Option.map_some, List.drop_left,
    (identifierLength_suffix total).2 stop separated.uncontinued, List.length_append]

theorem literalLength_byte (text : List Char) :
    literalLength ('b' :: '\'' :: text) =
      suffixed (fun source => (characterLength .bytes (source.drop 2)).map (· + 2))
        ('b' :: '\'' :: text) := rfl

theorem literalLength_character (text : List Char) :
    literalLength ('\'' :: text) =
      suffixed (fun source => (characterLength .text (source.drop 1)).map (· + 1))
        ('\'' :: text) := rfl

theorem literalLength_other {source : List Char} (noByte : ∀ rest, source ≠ 'b' :: '\'' :: rest)
    (noCharacter : ∀ rest, source ≠ '\'' :: rest) :
    literalLength source = (suffixed stringLength source <|> numberLength source) := by
  unfold literalLength
  dsimp only
  split
  · exact absurd rfl (noByte _)
  · exact absurd rfl (noCharacter _)
  · rfl

theorem stringLength_digit {c : Char} (digit : c.isDigit = true) (text : List Char) :
    stringLength (c :: text) = none := by
  have others : ∀ d ∈ ['r', 'b', 'c', '"'], d ≠ c := by
    have plain : ∀ d ∈ ['r', 'b', 'c', '"'], d.isDigit = false := forall_mem_of_all (by decide)
    rintro d here rfl
    rw [plain d here] at digit
    cases digit
  unfold stringLength
  split
  all_goals try exact absurd (List.cons.inj ‹_›).1.symm (others _ (by decide))
  unfold quotedLength
  split
  · exact absurd (List.cons.inj ‹_›).1.symm (others _ (by decide))
  · rfl

/-- A literal ends where it does before a separator. -/
theorem literalLength_separated {c : Char} {text rest stop : List Char} (separated : Separated stop)
    (read : literalLength (c :: text ++ rest) = some (c :: text).length) :
    literalLength (c :: text ++ stop) = some (c :: text).length := by
  have noQuote : '\'' ∉ separators := by decide
  by_cases byte : ∃ more, c :: text ++ rest = 'b' :: '\'' :: more
  · obtain ⟨more, opened⟩ := byte
    match text with
    | [] =>
      rw [opened, literalLength_byte, suffixed] at read
      obtain ⟨n, measured, total⟩ := Option.map_eq_some_iff.1 read
      obtain ⟨n', -, rfl⟩ := Option.map_eq_some_iff.1 measured
      rw [List.length_singleton] at total
      omega
    | second :: text =>
      cases opened
      exact suffixed_separated ('b' :: '\'' :: text)
        (characterLength_closes_behind .bytes ['b', '\'']) separated read
  · by_cases character : c = '\''
    · subst character
      exact suffixed_separated ('\'' :: text) (characterLength_closes_behind .text ['\''])
        separated read
    · have noByte : ∀ more, c :: text ++ stop ≠ 'b' :: '\'' :: more := by
        intro more opened
        cases text with
        | nil =>
          cases opened
          exact noQuote (separated '\'' rfl)
        | cons second text =>
          cases opened
          exact byte ⟨text ++ rest, rfl⟩
      have noCharacter (rest : List Char) : ∀ more, c :: text ++ rest ≠ '\'' :: more := fun _ same =>
        character (List.cons.inj same).1
      rw [literalLength_other (fun more opened => byte ⟨more, opened⟩) (noCharacter rest)] at read
      rw [literalLength_other noByte (noCharacter stop), orElse_eq_some]
      rcases orElse_eq_some.1 read with string | ⟨-, number⟩
      · exact .inl (suffixed_separated (c :: text) stringLength_closes separated string)
      · refine .inr ⟨?_, numberLength_separated separated number⟩
        have digit : c.isDigit = true := by
          by_contra noDigit
          rw [List.cons_append, numberLength_eq_none (Bool.eq_false_iff.2 noDigit)] at number
          cases number
        rw [suffixed, List.cons_append, stringLength_digit digit]
        rfl

/-! ## The tokens of a text -/

/-- The tokens that a text is cut into. -/
def lexed (source : List Char) : Option (List Token) :=
  (lexemes source).map fun all => all.flatMap (·.tokens)

/-- Only what follows the space at the head of a text decides its tokens. -/
theorem lexed_eq (source : List Char) :
    lexed source = match source.drop (spaceLength source) with
      | [] => some []
      | c :: rest => match lexeme (c :: rest) with
        | some (tokens, n + 1) => (lexed (rest.drop n)).map (tokens ++ ·)
        | _ => none := by
  unfold lexed
  rw [lexemes]
  split
  · rename_i ended
    rw [ended]
    rfl
  · rename_i c rest begun
    rw [begun]
    dsimp only
    rcases lexeme (c :: rest) with _ | ⟨tokens, _ | n⟩
    · rfl
    · rfl
    · dsimp only
      cases lexemes (rest.drop n) <;> rfl

theorem lexed_congr {source other : List Char}
    (same : source.drop (spaceLength source) = other.drop (spaceLength other)) :
    lexed source = lexed other := by
  rw [lexed_eq source, lexed_eq other, same]

theorem lexed_nil : lexed [] = some [] := by
  rw [lexed_eq, spaceLength]
  rfl

/-- Whether a text opens with the mark of a comment. -/
def opensComment : List Char → Bool
  | '/' :: '/' :: _ => true
  | '/' :: '*' :: _ => true
  | _ => false

theorem plainComment_eq_none {source : List Char} (code : opensComment source = false) :
    plainComment source = none := by
  unfold plainComment
  split
  · cases code
  · cases code
  · rfl

theorem docComment_eq_none {source : List Char} (code : opensComment source = false) :
    docComment source = none := by
  unfold docComment
  dsimp only
  split
  · cases code
  · cases code
  · rfl

/-- Space at the head of a text is passed over. -/
theorem lexed_space {c : Char} (space : isSpace c = true) (noMark : c ≠ '/') (rest : List Char) :
    lexed (c :: rest) = lexed rest := by
  have code : opensComment (c :: rest) = false := by
    unfold opensComment
    split <;> simp_all
  refine lexed_congr ?_
  rw [spaceLength, plainComment_eq_none code]
  simp [space, Nat.add_comm 1]

/-- One token at the head of a text. -/
theorem lexed_leaf {c : Char} {text rest : List Char} {token : Token}
    (noSpace : isSpace c = false) (code : opensComment (c :: text ++ rest) = false)
    (read : leaf (c :: text ++ rest) = some (token, (c :: text).length)) :
    lexed (c :: text ++ rest) = (lexed rest).map (token :: ·) := by
  have bare : spaceLength (c :: text ++ rest) = 0 := by
    rw [List.cons_append, spaceLength, ← List.cons_append, plainComment_eq_none code]
    simp [noSpace]
  have head : lexeme (c :: text ++ rest) = some ([token], text.length + 1) := by
    rw [lexeme, docComment_eq_none code]
    dsimp only
    rw [read]
    rfl
  rw [lexed_eq, bare, List.drop_zero, List.cons_append]
  dsimp only
  rw [← List.cons_append, head]
  dsimp only
  rw [List.drop_left]
  rfl

/-! ## Single tokens -/

theorem failedLiteral_chars :
    failedLiteral.toList = ['(', '/', '*', 'E', 'R', 'R', 'O', 'R', '*', '/', ')'] := by
  rfl
/-- Only a parenthesis and a comment stand for a literal that could not be given. -/
theorem no_failure {c : Char} {rest : List Char} (code : c ≠ '(' ∨ opensComment rest = false) :
    failedLiteral.toList.isPrefixOf (c :: rest) = false := by
  rw [failedLiteral_chars]
  by_cases opening : c = '('
  · have code := code.resolve_left (not_not_intro opening)
    match rest with
    | [] => simp [List.isPrefixOf]
    | [d] => simp [List.isPrefixOf]
    | d :: e :: rest =>
      have noMark : ¬(d = '/' ∧ e = '*') := by
        rintro ⟨rfl, rfl⟩
        cases code
      simp only [List.isPrefixOf, Bool.and_eq_false_iff, beq_eq_false_iff_ne]
      by_cases slash : d = '/'
      · exact .inr (.inr (.inl fun star => noMark ⟨slash, star.symm⟩))
      · exact .inr (.inl (Ne.symm slash))
  · simp [List.isPrefixOf, Ne.symm opening]

theorem leaf_cons {c : Char} {rest : List Char} (given : c ≠ '(' ∨ opensComment rest = false) :
    leaf (c :: rest) = match delimiterOf c with
      | some token => some (token, 1)
      | none =>
        match literalLength (c :: rest) with
        | some n => some (.literal (String.ofList ((c :: rest).take n)), n)
        | none =>
          if c = '\'' then
            if isLifetime rest then some (.punctuation '\'' .joint, 1) else none
          else if opensPunctuation (c :: rest) then
            some (.punctuation c (if opensPunctuation rest then .joint else .alone), 1)
          else if opensLiteral (c :: rest) then none
          else (anyIdentifierLength (c :: rest)).map fun n =>
            (.identifier (String.ofList ((c :: rest).take n)), n) := by
  unfold leaf
  dsimp only
  rewrite [no_failure given, if_neg Bool.false_ne_true]
  rfl

theorem leaf_delimiter {c : Char} {token : Token} {rest : List Char}
    (delimiter : delimiterOf c = some token) (code : opensComment rest = false) :
    leaf (c :: rest) = some (token, 1) := by
  rw [leaf_cons (.inr code), delimiter]
/-- The characters that may open a literal. -/
def opensAnyLiteral (c : Char) : Bool := ['r', 'b', 'c', '"', '\''].contains c || c.isDigit

theorem literalLength_eq_none {c : Char} (other : opensAnyLiteral c = false) (rest : List Char) :
    literalLength (c :: rest) = none := by
  simp only [opensAnyLiteral, Bool.or_eq_false_iff] at other
  obtain ⟨noMark, noDigit⟩ := other
  have apart : ∀ d ∈ ['r', 'b', 'c', '"', '\''], d ≠ c := by
    rintro d here rfl
    rw [List.contains_iff_mem.2 here] at noMark
    cases noMark
  have differs {d : Char} {more other : List Char} (here : d ∈ ['r', 'b', 'c', '"', '\'']) :
      c :: other ≠ d :: more := fun same => apart d here (List.cons.inj same).1.symm
  have noString : stringLength (c :: rest) = none := by
    unfold stringLength
    split
    all_goals try exact absurd ‹_› (differs (by decide))
    unfold quotedLength
    split
    · exact absurd ‹_› (differs (by decide))
    · rfl
  rw [literalLength_other (fun _ => differs (by decide)) (fun _ => differs (by decide)), suffixed,
    noString, numberLength_eq_none noDigit]
  rfl

/-- The characters that are punctuation. -/
def marks : List Char := "~!@#$%^&*-=+|;:,<.>/?'".toList

theorem mem_marks {c : Char} (mark : isPunctuation c = true) : c ∈ marks :=
  List.contains_iff_mem.1 mark

theorem mark_facts : ∀ c ∈ marks, isSpace c = false ∧ c ≠ '(' ∧ delimiterOf c = none ∧
    (c ≠ '\'' → opensAnyLiteral c = false) :=
  forall_mem_of_all (by decide)

theorem opensPunctuation_of_mark {c : Char} {rest : List Char} (mark : isPunctuation c = true)
    (code : opensComment (c :: rest) = false) : opensPunctuation (c :: rest) = true := by
  unfold opensPunctuation
  split
  · rename_i same
    rw [same] at code
    cases code
  · rename_i same
    rw [same] at code
    cases code
  · rename_i same
    cases same
    exact mark
  · rename_i same
    cases same

theorem leaf_punctuation {c : Char} {rest : List Char} (mark : isPunctuation c = true)
    (noLifetime : c ≠ '\'') (code : opensComment (c :: rest) = false) :
    leaf (c :: rest) =
      some (.punctuation c (if opensPunctuation rest then .joint else .alone), 1) := by
  obtain ⟨-, given, noDelimiter, noLiteral⟩ := mark_facts c (mem_marks mark)
  have opens := opensPunctuation_of_mark mark code
  rw [leaf_cons (.inl given), noDelimiter, literalLength_eq_none (noLiteral noLifetime), if_neg noLifetime,
    if_pos opens]

/-- No character literal opens where a lifetime does. -/
theorem characterLength_lifetime {rest : List Char} (lifetime : isLifetime rest = true) :
    characterLength .text rest = none := by
  unfold characterLength
  split
  · rename_i rest
    have closed : anyIdentifierLength ('\\' :: rest) = none := rfl
    rw [isLifetime, closed] at lifetime
    cases lifetime
  · rename_i c rest unescaped
    have noMark : continuesIdentifier '\'' = false := by decide
    have alone : anyIdentifierLength (c :: '\'' :: rest) =
        if identifierLength (c :: '\'' :: rest) = 0 then none
        else some (identifierLength (c :: '\'' :: rest)) := by
      unfold anyIdentifierLength
      split
      · cases ‹c :: '\'' :: rest = _›
      · rfl
    rw [isLifetime, alone, identifierLength, List.takeWhile_cons_of_neg (by simp [noMark])] at lifetime
    by_cases opens : opensIdentifier c = true
    · rw [if_pos opens] at lifetime
      cases lifetime
    · rw [if_neg opens] at lifetime
      cases lifetime
  · rfl

theorem leaf_lifetime {rest : List Char} (lifetime : isLifetime rest = true) :
    leaf ('\'' :: rest) = some (.punctuation '\'' .joint, 1) := by
  have noCharacter := characterLength_lifetime lifetime
  have noLiteral : literalLength ('\'' :: rest) = none := by
    rw [literalLength_character, suffixed, List.drop_one, List.tail_cons, noCharacter]
    rfl
  rw [leaf_cons (.inl (by decide)), noLiteral, if_pos rfl, if_pos lifetime]
  rfl


/-! ## Words -/

/-- Whether a text is an identifier without the mark of a raw one. -/
def isPlain : List Char → Bool
  | c :: rest => opensIdentifier c && rest.all continuesIdentifier
  | [] => false

/-- The texts of identifiers. -/
inductive Word : List Char → Prop where
  | plain {text : List Char} : isPlain text = true → Word text
  | raw {text : List Char} : isPlain text = true →
      neverRaw.contains (String.ofList text) = false → Word ('r' :: '#' :: text)

theorem exists_of_isPlain {text : List Char} (plain : isPlain text = true) :
    ∃ c rest, text = c :: rest ∧ opensIdentifier c = true ∧
      ∀ d ∈ rest, continuesIdentifier d = true := by
  cases text with
  | nil => cases plain
  | cons c rest =>
    obtain ⟨opens, continues⟩ := Bool.and_eq_true_iff.1 plain
    exact ⟨c, rest, rfl, opens, List.all_eq_true.1 continues⟩

/-- The characters that open what is quoted. -/
def quotes : List Char := ['"', '\'', '#']

/-- No quote is behind the first character of a word. -/
theorem noQuote_behind {rest stop : List Char}
    (continues : ∀ d ∈ rest, continuesIdentifier d = true) (separated : Separated stop) :
    ∀ d ∈ (rest ++ stop).head?, d ∉ quotes := by
  intro d head quote
  have facts : ∀ d ∈ quotes, continuesIdentifier d = false ∧ d ∉ separators :=
    forall_mem_of_all (by decide)
  obtain ⟨ends, noSeparator⟩ := facts d quote
  cases rest with
  | nil => exact noSeparator (separated d head)
  | cons e rest =>
    cases head
    rw [continues d List.mem_cons_self] at ends
    cases ends

theorem rawLength_eq_none {quotation : Quotation} {rest : List Char}
    (unquoted : ∀ d ∈ rest.head?, d ∉ quotes) : rawLength quotation rest = none := by
  cases rest with
  | nil => rfl
  | cons d rest =>
    have noQuote := unquoted d rfl
    have noPound : d ≠ '#' := fun same => noQuote (by rw [same]; decide)
    unfold rawLength poundCount
    rw [List.takeWhile_cons_of_neg (by simpa using noPound)]
    dsimp only
    split
    · rename_i same
      cases same
      exact absurd (by decide) noQuote
    · rfl

theorem quotedLength_eq_none {quotation : Quotation} {rest : List Char}
    (unquoted : ∀ d ∈ rest.head?, d ∉ quotes) : quotedLength quotation rest = none := by
  unfold quotedLength
  split
  · exact absurd (by decide) (unquoted '"' rfl)
  · rfl

theorem not_opensIdentifier_digit {c : Char} (digit : c.isDigit = true) :
    opensIdentifier c = false := by
  have all : ∀ code < 0x80, (Char.ofNat code).isDigit = true →
      opensIdentifier (Char.ofNat code) = false := by decide
  have nine : c ≤ '9' := by
    simp only [Char.isDigit, Bool.and_eq_true, decide_eq_true_eq] at digit
    exact digit.2
  exact holds_of_le (p := fun c => c.isDigit = true → opensIdentifier c = false) all nine
    (by decide) digit

theorem delimiterOf_eq_none {c : Char} (other : c ∉ ['(', ')', '[', ']', '{', '}']) :
    delimiterOf c = none := by
  unfold delimiterOf
  split
  all_goals first
    | rfl
    | exact absurd (by decide) other

/-- What opens an identifier opens nothing else that is no literal. -/
theorem opening_facts {c : Char} (opens : opensIdentifier c = true) :
    c.isDigit = false ∧ c ∉ quotes ∧ isPunctuation c = false ∧ delimiterOf c = none := by
  have apart : ∀ d ∈ quotes ++ marks ++ ['(', ')', '[', ']', '{', '}'], opensIdentifier d = false :=
    forall_mem_of_all (by decide)
  have other : c ∉ quotes ++ marks ++ ['(', ')', '[', ']', '{', '}'] := fun here => by
    rw [apart c here] at opens
    cases opens
  simp only [List.mem_append, not_or] at other
  refine ⟨Bool.eq_false_iff.2 fun digit => ?_, other.1.1, Bool.eq_false_iff.2 fun mark => ?_,
    delimiterOf_eq_none other.2⟩
  · rw [not_opensIdentifier_digit digit] at opens
    cases opens
  · exact other.1.2 (mem_marks mark)

theorem suffixed_eq_none {reader : List Char → Option Nat} {source : List Char}
    (none : reader source = none) : suffixed reader source = .none := by
  rw [suffixed, none]
  rfl

theorem stringLength_eq_none {c : Char} {behind : List Char} (noQuote : c ∉ quotes)
    (unquoted : ∀ d ∈ behind.head?, d ∉ quotes)
    (unmarked : ∀ rest, behind = 'r' :: rest → ∀ d ∈ rest.head?, d ∉ quotes) :
    stringLength (c :: behind) = none := by
  unfold stringLength
  split
  · obtain ⟨-, rfl⟩ := List.cons.inj ‹c :: behind = _›
    rw [rawLength_eq_none unquoted]
    rfl
  · obtain ⟨-, same⟩ := List.cons.inj ‹c :: behind = _›
    rw [rawLength_eq_none (unmarked _ same)]
    rfl
  · obtain ⟨-, same⟩ := List.cons.inj ‹c :: behind = _›
    rw [rawLength_eq_none (unmarked _ same)]
    rfl
  · obtain ⟨-, rfl⟩ := List.cons.inj ‹c :: behind = _›
    rw [quotedLength_eq_none unquoted]
    rfl
  · obtain ⟨-, rfl⟩ := List.cons.inj ‹c :: behind = _›
    rw [quotedLength_eq_none unquoted]
    rfl
  · exact quotedLength_eq_none fun d head => by cases head; exact noQuote

/-- A text that opens with an identifier and no quote behind it is no literal. -/
theorem literalLength_unquoted {c : Char} {behind : List Char} (opens : opensIdentifier c = true)
    (noString : stringLength (c :: behind) = none) (noByte : ∀ rest, behind ≠ '\'' :: rest) :
    literalLength (c :: behind) = none := by
  obtain ⟨noDigit, noQuote, -, -⟩ := opening_facts opens
  rw [literalLength_other, suffixed_eq_none noString, numberLength_eq_none noDigit]
  · rfl
  · exact fun rest same => noByte rest (List.cons.inj same).2
  · intro rest same
    rw [(List.cons.inj same).1] at noQuote
    exact noQuote (by decide)

/-- The mark of a raw identifier opens no literal. -/
theorem literalLength_raw {c : Char} (opens : opensIdentifier c = true) (rest : List Char) :
    literalLength ('r' :: '#' :: c :: rest) = none := by
  have apart : ∀ d ∈ quotes, d ≠ c := by
    rintro d here rfl
    exact (opening_facts opens).2.1 here
  refine literalLength_unquoted (by decide) ?_ fun behind same => by cases same
  -- one number sign and then no quote
  show (rawLength .text ('#' :: c :: rest)).map (· + 1) = none
  have counted : poundCount ('#' :: c :: rest) = 1 := by
    simp [poundCount, (apart '#' (by decide)).symm]
  rw [rawLength, counted]
  split
  · rename_i same
    exact absurd (List.cons.inj same).1.symm (apart '"' (by decide))
  · rfl

/-- A word is no literal. -/
theorem literalLength_word {text stop : List Char} (word : Word text) (separated : Separated stop) :
    literalLength (text ++ stop) = none := by
  cases word with
  | plain plain =>
    obtain ⟨c, rest, rfl, opens, continues⟩ := exists_of_isPlain plain
    have unquoted := noQuote_behind continues separated
    refine literalLength_unquoted opens (stringLength_eq_none (opening_facts opens).2.1 unquoted ?_)
      fun behind same => unquoted '\'' (by rw [show rest ++ stop = _ from same]; rfl) (by decide)
    intro behind same
    cases rest with
    | nil => exact absurd (separated 'r' (by rw [show stop = _ from same]; rfl)) (by decide)
    | cons d rest =>
      obtain ⟨-, rfl⟩ := List.cons.inj same
      exact noQuote_behind (fun d here => continues d (List.mem_cons_of_mem _ here)) separated
  | raw plain =>
    obtain ⟨c, rest, rfl, opens, -⟩ := exists_of_isPlain plain
    exact literalLength_raw opens (rest ++ stop)

theorem identifierLength_plain {text stop : List Char} (plain : isPlain text = true)
    (separated : Separated stop) : identifierLength (text ++ stop) = text.length := by
  obtain ⟨c, rest, rfl, opens, continues⟩ := exists_of_isPlain plain
  rw [List.cons_append, identifierLength, if_pos opens,
    takeWhile_append_of_head separated.uncontinued, List.takeWhile_eq_self_iff.2 continues]
  rfl

theorem anyIdentifierLength_word {text stop : List Char} (word : Word text)
    (separated : Separated stop) : anyIdentifierLength (text ++ stop) = some text.length := by
  cases word with
  | plain plain =>
    have measured := identifierLength_plain plain separated
    obtain ⟨c, rest, rfl, opens, continues⟩ := exists_of_isPlain plain
    unfold anyIdentifierLength
    split
    · rename_i behind same
      have pound := noQuote_behind continues separated '#' (by
        rw [show rest ++ stop = _ from (List.cons.inj same).2]
        rfl)
      exact absurd (by decide) pound
    · rw [measured, if_neg (by simp)]
  | raw plain kept =>
    rename_i text
    have measured := identifierLength_plain plain separated
    have some_text : text.length ≠ 0 := by
      obtain ⟨c, rest, rfl, -, -⟩ := exists_of_isPlain plain
      simp
    show (if identifierLength (text ++ stop) = 0 || neverRaw.contains (String.ofList
      ((text ++ stop).take (identifierLength (text ++ stop)))) then none
        else some (identifierLength (text ++ stop) + 2)) = _
    rw [measured, List.take_left, kept, if_neg (by simpa using some_text)]
    rfl

/-- The marks that open a literal and no word. -/
def literalMarks : List (List Char) :=
  [['r', '"'], ['r', '#', '"'], ['r', '#', '#'], ['b', '"'], ['b', '\''], ['b', 'r', '"'],
    ['b', 'r', '#'], ['c', '"'], ['c', 'r', '"'], ['c', 'r', '#']]

theorem opensLiteral_eq (source : List Char) :
    opensLiteral source = literalMarks.any (·.isPrefixOf source) := rfl

/-- No literal opens a word. -/
theorem opensLiteral_word {text stop : List Char} (word : Word text) (separated : Separated stop) :
    opensLiteral (text ++ stop) = false := by
  rw [opensLiteral_eq, List.any_eq_false]
  intro mark here opened
  cases word with
  | plain plain =>
    obtain ⟨c, rest, rfl, opens, continues⟩ := exists_of_isPlain plain
    have all : ∀ d ∈ c :: rest, continuesIdentifier d = true :=
      List.forall_mem_cons.2 ⟨continuesIdentifier_of_opens opens, continues⟩
    have facts : ∀ mark ∈ literalMarks, mark.any (!continuesIdentifier ·) = true ∧
        mark.all (!separators.contains ·) = true := by decide
    obtain ⟨some_quote, noSeparator⟩ := facts mark here
    obtain ⟨quote, quoted, ends⟩ := List.any_eq_true.1 some_quote
    have begun : mark <+: c :: rest ++ stop := List.isPrefixOf_iff_prefix.1 opened
    have outside : ¬ mark <+: c :: rest := fun inside => by
      rw [all quote (inside.subset quoted)] at ends
      cases ends
    rcases List.prefix_or_prefix_of_prefix begun (List.prefix_append _ _) with inside | ⟨more, rfl⟩
    · exact outside inside
    · rw [List.prefix_append_right_inj] at begun
      cases more with
      | nil => exact outside ⟨[], by simp⟩
      | cons d more =>
        obtain ⟨behind, rfl⟩ := begun
        have apart := List.all_eq_true.1 noSeparator d (by simp)
        rw [List.contains_iff_mem.2 (separated d rfl)] at apart
        cases apart
  | raw plain =>
    obtain ⟨c, rest, rfl, opens, -⟩ := exists_of_isPlain plain
    have apart : ∀ d ∈ quotes, d ≠ c := by
      rintro d here rfl
      exact (opening_facts opens).2.1 here
    have noQuote := apart '"' (by decide)
    have noPound := apart '#' (by decide)
    simp only [literalMarks, List.mem_cons, List.not_mem_nil, or_false] at here
    rcases here with rfl | rfl | rfl | rfl | rfl | rfl | rfl | rfl | rfl | rfl <;>
      simp [List.isPrefixOf, noQuote, noPound] at opened

/-- A word is read as the identifier that it is. -/
theorem leaf_word {text stop : List Char} (word : Word text) (separated : Separated stop) :
    leaf (text ++ stop) = some (.identifier (String.ofList text), text.length) := by
  have noLiteral := literalLength_word word separated
  have noMark := opensLiteral_word word separated
  have measured := anyIdentifierLength_word word separated
  obtain ⟨c, rest, rfl, opens⟩ : ∃ c rest, text = c :: rest ∧ opensIdentifier c = true := by
    cases word with
    | plain plain =>
      obtain ⟨c, rest, rfl, opens, -⟩ := exists_of_isPlain plain
      exact ⟨c, rest, rfl, opens⟩
    | raw => exact ⟨'r', _, rfl, by decide⟩
  obtain ⟨-, noQuote, noPunctuation, noDelimiter⟩ := opening_facts opens
  have given : c ≠ '(' := by
    rintro rfl
    cases noDelimiter
  have noLifetime : c ≠ '\'' := by
    rintro rfl
    exact noQuote (by decide)
  have closed : opensPunctuation (c :: (rest ++ stop)) = false := by
    unfold opensPunctuation
    split <;> simp_all
  rw [List.cons_append] at noLiteral noMark measured ⊢
  rw [leaf_cons (.inl given), noDelimiter, noLiteral, if_neg noLifetime, closed,
    if_neg Bool.false_ne_true, noMark, if_neg Bool.false_ne_true, measured, Option.map_some,
    ← List.cons_append, List.take_left]

/-- A literal is read as itself. -/
theorem leaf_literal {c : Char} {text rest : List Char}
    (measured : literalLength (c :: text ++ rest) = some (c :: text).length) :
    leaf (c :: text ++ rest) =
      some (.literal (String.ofList (c :: text)), (c :: text).length) := by
  have opens : opensAnyLiteral c = true := by
    by_contra other
    rw [List.cons_append, literalLength_eq_none (Bool.eq_false_iff.2 other)] at measured
    cases measured
  have none : ∀ d ∈ ['(', ')', '[', ']', '{', '}'], opensAnyLiteral d = false :=
    forall_mem_of_all (by decide)
  have apart : ∀ d ∈ ['(', ')', '[', ']', '{', '}'], d ≠ c := by
    rintro d here rfl
    rw [none d here] at opens
    cases opens
  rw [List.cons_append] at measured ⊢
  rw [leaf_cons (.inl (apart '(' (by decide)).symm),
    delimiterOf_eq_none fun here => apart c here rfl, measured]
  dsimp only
  rw [← List.cons_append, List.take_left]

theorem leaf_failed (rest : List Char) :
    leaf (failedLiteral.toList ++ rest) =
      some (.literal failedLiteral, failedLiteral.toList.length) := by
  have failed : failedLiteral.toList.isPrefixOf (failedLiteral.toList ++ rest) = true :=
    List.isPrefixOf_iff_prefix.2 (List.prefix_append _ _)
  rw [failedLiteral_chars, List.cons_append] at failed ⊢
  unfold leaf
  dsimp only
  rw [failedLiteral_chars, failed]
  rfl

/-! ## Texts that open no comment -/

theorem opensComment_separated {stop : List Char} (separated : Separated stop) :
    opensComment stop = false := by
  have noSlash : '/' ∉ separators := by decide
  unfold opensComment
  split
  · exact absurd (separated '/' rfl) noSlash
  · exact absurd (separated '/' rfl) noSlash
  · rfl

theorem opensComment_cons {c : Char} (other : c ≠ '/') (rest : List Char) :
    opensComment (c :: rest) = false := by
  unfold opensComment
  split <;> simp_all

theorem opensPunctuation_separated {stop : List Char} (separated : Separated stop) :
    opensPunctuation stop = false := by
  have noMark : ∀ c ∈ separators, isPunctuation c = false := forall_mem_of_all (by decide)
  unfold opensPunctuation
  split
  · rfl
  · rfl
  · exact noMark _ (separated _ rfl)
  · rfl

theorem opensComment_separated_cons {stop : List Char} (separated : Separated stop) (c : Char) :
    opensComment (c :: stop) = false := by
  have noMark : '/' ∉ separators ∧ '*' ∉ separators := by decide
  unfold opensComment
  split
  · obtain ⟨-, rfl⟩ := List.cons.inj ‹c :: stop = _›
    exact absurd (separated '/' rfl) noMark.1
  · obtain ⟨-, rfl⟩ := List.cons.inj ‹c :: stop = _›
    exact absurd (separated '*' rfl) noMark.2
  · rfl

end StatSchema.Token
