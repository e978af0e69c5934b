/-
What printed code is read back as. A token is lexable if it is read alone wherever a separator is
behind it, and a chain of tokens is one in which every joint character is followed by a token that it
is glued to. A chain of lexable tokens is read back from what it is printed as, whatever separated
text follows. Main statement: `lexed_print`.
-/
import StatSchema.Proofs.Printing.Lexemes

namespace StatSchema.Token

open Text

/-! ## Tokens that are read alone -/

/-- The texts of literals. -/
def IsLiteral (text : String) : Prop :=
  text = failedLiteral ∨ literalLength text.toList = some text.toList.length

/-- A token that is read back from its own text. -/
def Lexable : Token → Prop
  | .identifier name => Word name.toList
  | .literal text => IsLiteral text ∧ text.toList ≠ []
  | .punctuation symbol spacing =>
    isPunctuation symbol = true ∧ (symbol = '\'' → spacing = .joint)
  | .opening _ => True
  | .closing _ => True

/-- Whether a joint character is glued to what a token is written as. -/
def glues (symbol : Char) (text : List Char) : Bool :=
  if symbol = '\'' then isLifetime text
  else text.head?.any fun c => isPunctuation c && !(symbol = '/' && (c = '/' || c = '*'))

/-- What the text behind a token must be for the token to be read alone. -/
def Admits : Token → List Char → Prop
  | .punctuation symbol .joint, behind =>
    if symbol = '\'' then isLifetime behind = true
    else opensPunctuation behind = true ∧ opensComment (symbol :: behind) = false
  | .opening _, behind => opensComment behind = false
  | _, behind => Separated behind

theorem isSpace_eq_false {c : Char} (continues : continuesIdentifier c = true) :
    isSpace c = false := by
  by_contra space
  rw [not_continues_of_isSpace (by simpa using space)] at continues
  cases continues

/-- What opens a word or a literal is no space and opens no comment. -/
theorem head_facts {c : Char} (opens : opensIdentifier c = true ∨ opensAnyLiteral c = true) :
    isSpace c = false ∧ c ≠ '/' := by
  have quoted : ∀ c ∈ ['r', 'b', 'c', '"', '\''], isSpace c = false ∧ c ≠ '/' :=
    forall_mem_of_all (by decide)
  have slash : continuesIdentifier '/' = false := by decide
  have continued {c : Char} (continues : continuesIdentifier c = true) :
      isSpace c = false ∧ c ≠ '/' := by
    refine ⟨isSpace_eq_false continues, ?_⟩
    rintro rfl
    rw [slash] at continues
    cases continues
  rcases opens with opens | opens
  · exact continued (continuesIdentifier_of_opens opens)
  · rcases Bool.or_eq_true_iff.1 opens with mark | digit
    · exact quoted c (List.contains_iff_mem.1 mark)
    · exact continued (continuesIdentifier_digit digit)

theorem Word.exists_cons {text : List Char} (word : Word text) :
    ∃ c rest, text = c :: rest ∧ opensIdentifier c = true := by
  cases word with
  | plain plain =>
    obtain ⟨c, rest, rfl, opens, -⟩ := exists_of_isPlain plain
    exact ⟨c, rest, rfl, opens⟩
  | raw => exact ⟨'r', _, rfl, by decide⟩

theorem opensAnyLiteral_of_length {c : Char} {rest : List Char} {n : Nat}
    (measured : literalLength (c :: rest) = some n) : opensAnyLiteral c = true := by
  by_contra other
  rw [literalLength_eq_none (Bool.eq_false_iff.2 other)] at measured
  cases measured

theorem leaf_mark {symbol : Char} {spacing : Spacing} {behind : List Char}
    (lexable : Lexable (.punctuation symbol spacing))
    (admits : Admits (.punctuation symbol spacing) behind) :
    opensComment (symbol :: behind) = false ∧
      leaf (symbol :: behind) = some (.punctuation symbol spacing, 1) := by
  obtain ⟨mark, lifetime⟩ := lexable
  cases spacing with
  | alone =>
    have noLifetime : symbol ≠ '\'' := fun same => by cases lifetime same
    have code := opensComment_separated_cons admits symbol
    refine ⟨code, ?_⟩
    rw [leaf_punctuation mark noLifetime code, opensPunctuation_separated admits]
    rfl
  | joint =>
    by_cases same : symbol = '\''
    · subst same
      exact ⟨opensComment_cons (by decide) _, leaf_lifetime (by simpa [Admits] using admits)⟩
    · obtain ⟨opens, code⟩ : opensPunctuation behind = true ∧
          opensComment (symbol :: behind) = false := by simpa [Admits, same] using admits
      refine ⟨code, ?_⟩
      rw [leaf_punctuation mark same code, opens]
      rfl

/-- A lexable token is read alone before what it admits. -/
theorem Lexable.leaf {token : Token} (lexable : Lexable token) {behind : List Char}
    (admits : Admits token behind) :
    ∃ c rest, token.text.toList = c :: rest ∧ isSpace c = false ∧
      opensComment (c :: rest ++ behind) = false ∧
      leaf (c :: rest ++ behind) = some (token, (c :: rest).length) := by
  cases token with
  | identifier name =>
    have word : Word name.toList := lexable
    have read := leaf_word word admits
    obtain ⟨c, rest, same, opens⟩ := word.exists_cons
    rw [same] at read
    obtain ⟨noSpace, noSlash⟩ := head_facts (.inl opens)
    refine ⟨c, rest, same, noSpace, opensComment_cons noSlash _, ?_⟩
    rw [read, ← same, String.ofList_toList]
  | literal text =>
    obtain ⟨failed | measured, some_text⟩ := lexable
    · subst failed
      have read := leaf_failed behind
      rw [failedLiteral_chars] at read
      exact ⟨_, _, failedLiteral_chars, by decide, opensComment_cons (by decide) _, read⟩
    · obtain ⟨c, rest, same⟩ := List.exists_cons_of_ne_nil some_text
      rw [same] at measured
      have front : literalLength (c :: rest ++ []) = some (c :: rest).length := by
        rw [List.append_nil, measured]
      have separated := literalLength_separated admits front
      obtain ⟨noSpace, noSlash⟩ := head_facts (.inr (opensAnyLiteral_of_length measured))
      refine ⟨c, rest, same, noSpace, opensComment_cons noSlash _, ?_⟩
      rw [leaf_literal separated, ← same, String.ofList_toList]
  | punctuation symbol spacing =>
    obtain ⟨noSpace, -⟩ := mark_facts symbol (mem_marks lexable.1)
    obtain ⟨code, read⟩ := leaf_mark lexable admits
    exact ⟨symbol, [], String.toList_singleton .., noSpace, code, read⟩
  | opening delimiter =>
    cases delimiter
    all_goals
      refine ⟨_, [], rfl, by decide, opensComment_cons (by decide) _, ?_⟩
      exact leaf_delimiter rfl admits
  | closing delimiter =>
    cases delimiter
    all_goals
      refine ⟨_, [], rfl, by decide, opensComment_cons (by decide) _, ?_⟩
      exact leaf_delimiter rfl (opensComment_separated admits)

theorem lexed_token {token : Token} (lexable : Lexable token) {behind : List Char}
    (admits : Admits token behind) :
    lexed (token.text.toList ++ behind) = (lexed behind).map (token :: ·) := by
  obtain ⟨c, rest, same, noSpace, code, read⟩ := lexable.leaf admits
  rw [same, lexed_leaf noSpace code read]

theorem opensComment_token {token : Token} (lexable : Lexable token) {behind : List Char}
    (admits : Admits token behind) : opensComment (token.text.toList ++ behind) = false := by
  obtain ⟨c, rest, same, -, code, -⟩ := lexable.leaf admits
  rw [same, code]

/-! ## Chains of tokens -/

/-- Whether a token is glued to the next one if it is joint. -/
def coupled (next : Option Token) : Token → Bool
  | .punctuation symbol .joint => next.any fun token => glues symbol token.text.toList
  | _ => true

/-- Whether every joint character is glued to the token behind it, `next` being behind the last
token. -/
def chained (next : Option Token) : List Token → Bool
  | [] => true
  | token :: rest => coupled (rest.head?.or next) token && chained next rest

theorem anyIdentifierLength_append {text behind : List Char} {n : Nat}
    (measured : anyIdentifierLength text = some n) (separated : Separated behind) :
    anyIdentifierLength (text ++ behind) = some n ∧ n ≤ text.length := by
  unfold anyIdentifierLength at measured
  split at measured
  · rename_i rest
    dsimp only at measured
    split_ifs at measured with refused
    cases measured
    have within := identifierLength_le rest
    have some_rest : rest ≠ [] := by
      rintro rfl
      exact refused rfl
    refine ⟨?_, Nat.add_le_add_right within 2⟩
    show (if identifierLength (rest ++ behind) = 0 || neverRaw.contains (String.ofList
      ((rest ++ behind).take (identifierLength (rest ++ behind)))) then none
        else some (identifierLength (rest ++ behind) + 2)) = _
    rw [identifierLength_append separated.uncontinued some_rest,
      List.take_append_of_le_length within, if_neg refused]
  · rename_i unmarked
    split_ifs at measured with empty
    cases measured
    have some_text : text ≠ [] := by
      rintro rfl
      exact empty rfl
    refine ⟨?_, identifierLength_le text⟩
    unfold anyIdentifierLength
    split
    · rename_i rest same
      match text, some_text with
      | ['r'], _ =>
        obtain ⟨-, same⟩ := List.cons.inj same
        exact absurd (separated '#' (by rw [show behind = _ from same]; rfl)) (by decide)
      | c :: d :: text, _ =>
        cases same
        exact absurd rfl (unmarked text)
    · rw [identifierLength_append separated.uncontinued some_text, if_neg empty]

theorem isLifetime_append {text behind : List Char} (lifetime : isLifetime text = true)
    (separated : Separated behind) : isLifetime (text ++ behind) = true := by
  unfold isLifetime at lifetime ⊢
  cases measured : anyIdentifierLength text with
  | none =>
    rw [measured] at lifetime
    cases lifetime
  | some n =>
    obtain ⟨measured', within⟩ := anyIdentifierLength_append measured separated
    rw [measured] at lifetime
    rw [measured']
    dsimp only at lifetime ⊢
    rw [List.drop_append_of_le_length within]
    cases ended : text.drop n with
    | nil =>
      rw [List.nil_append]
      split
      · exact absurd (separated '\'' rfl) (by decide)
      · exact absurd (separated '#' rfl) (by decide)
      · rfl
    | cons c rest =>
      rw [ended] at lifetime
      rw [List.cons_append]
      split at lifetime
      · cases lifetime
      · rename_i same
        cases same
        exact List.isPrefixOf_iff_prefix.2
          ((List.isPrefixOf_iff_prefix.1 lifetime).trans (List.prefix_append _ _))
      · rename_i noQuote noPound
        split
        · rename_i same
          exact absurd (by rw [(List.cons.inj same).1]) (noQuote rest)
        · rename_i same
          exact absurd (by rw [(List.cons.inj same).1]) (noPound rest)
        · rfl

theorem exists_of_isLifetime {text : List Char} (lifetime : isLifetime text = true) :
    ∃ c rest, text = c :: rest ∧ opensIdentifier c = true := by
  unfold isLifetime anyIdentifierLength at lifetime
  match text with
  | [] => cases lifetime
  | c :: rest =>
    refine ⟨c, rest, rfl, ?_⟩
    by_contra closed
    split at lifetime
    · cases lifetime
    · rename_i measured
      split at measured
      · rename_i same
        obtain ⟨rfl, -⟩ := List.cons.inj same
        exact closed (by decide)
      · rw [identifierLength, if_neg closed] at measured
        cases measured

/-- What is glued to a joint character is admitted behind it. -/
theorem admits_of_glues {symbol : Char} {token : Token} (lexable : Lexable token)
    {behind : List Char} (admits : Admits token behind)
    (glued : glues symbol token.text.toList = true) :
    Admits (.punctuation symbol .joint) (token.text.toList ++ behind) := by
  unfold glues at glued
  split_ifs at glued with lifetime
  · refine (if_pos lifetime).mpr (isLifetime_append glued ?_)
    obtain ⟨c, rest, same, opens⟩ := exists_of_isLifetime glued
    obtain ⟨-, -, noMark, noDelimiter⟩ := opening_facts opens
    -- a lifetime is a word or a literal, which admit only what is separated
    cases token with
    | identifier name => exact admits
    | literal text => exact admits
    | punctuation mark spacing =>
      obtain ⟨rfl, -⟩ := List.cons.inj ((String.toList_singleton mark).symm.trans same)
      rw [lexable.1] at noMark
      cases noMark
    | opening delimiter =>
      cases delimiter
      all_goals
        cases same
        cases noDelimiter
    | closing delimiter =>
      cases delimiter
      all_goals
        cases same
        cases noDelimiter
  · obtain ⟨c, rest, same, -, code, -⟩ := lexable.leaf admits
    rw [same, List.head?_cons, Option.any_some, Bool.and_eq_true, Bool.not_eq_true'] at glued
    obtain ⟨mark, apart⟩ := glued
    rw [same]
    refine (if_neg lifetime).mpr ⟨opensPunctuation_of_mark mark code, ?_⟩
    unfold opensComment
    split
    · cases ‹symbol :: (c :: rest ++ behind) = _›
      cases apart
    · cases ‹symbol :: (c :: rest ++ behind) = _›
      cases apart
    · rfl

/-! ## Printed chains -/

theorem print_cons_cons (token next : Token) (rest : List Token) :
    (print (token :: next :: rest)).toList =
      token.text.toList ++ ((gap token next).toList ++ (print (next :: rest)).toList) := by
  simp [print, printed, String.join_cons]

theorem print_singleton (token : Token) : (print [token]).toList = token.text.toList := by
  simp [print, printed, String.join_cons]

/-- Between tokens that are not glued together stands a separator, or what closes a group. -/
theorem separated_gap {token next : Token} (apart : ∀ d, token ≠ .opening d)
    (unjoined : ∀ symbol, token ≠ .punctuation symbol .joint) (rest : List Char) :
    Separated ((gap token next).toList ++ (next.text.toList ++ rest)) := by
  unfold gap
  split
  · exact absurd rfl (apart _)
  · exact absurd rfl (apart _)
  · exact separated_cons _ (by decide)
  · rename_i delimiter noBrace _ _
    cases delimiter with
    | parenthesis => exact separated_cons _ (by decide)
    | bracket => exact separated_cons _ (by decide)
    | brace => exact absurd rfl noBrace
  · exact absurd rfl (unjoined _)
  · exact separated_cons _ (by decide)

theorem gap_eq (token next : Token) : gap token next = " " ∨ gap token next = "" := by
  unfold gap
  split <;> simp

theorem lexed_gap (token next : Token) (rest : List Char) :
    lexed ((gap token next).toList ++ rest) = lexed rest := by
  rcases gap_eq token next with space | none
  · rw [space]
    exact lexed_space (by decide) (by decide) rest
  · rw [none]
    rfl

theorem opensComment_gap {token next : Token} {rest : List Char}
    (code : opensComment rest = false) :
    opensComment ((gap token next).toList ++ rest) = false := by
  rcases gap_eq token next with space | none
  · rw [space]
    exact opensComment_cons (by decide) rest
  · rw [none]
    exact code

/-- Nothing stands between a joint character and what is glued to it. -/
theorem gap_joint {symbol : Char} {next : Token} (glued : glues symbol next.text.toList = true) :
    gap (.punctuation symbol .joint) next = "" := by
  cases next with
  | closing delimiter =>
    have loose : ∀ c ∈ [')', ']', '\x7d'], isLifetime [c] = false ∧ isPunctuation c = false :=
      forall_mem_of_all (by decide)
    have unglued : glues symbol (Token.closing delimiter).text.toList = false := by
      unfold glues
      cases delimiter <;> split_ifs <;> simp [text, loose]
    rw [unglued] at glued
    cases glued
  | _ => rfl

/-- The first token of a printed chain admits what is printed behind it, and the chain is read back. -/
theorem lexed_print_cons {token : Token} {rest : List Token}
    (lexable : ∀ t ∈ token :: rest, Lexable t) (chain : chained none (token :: rest) = true)
    {stop : List Char} (separated : Separated stop) :
    ∃ behind, (print (token :: rest)).toList ++ stop = token.text.toList ++ behind ∧
      Admits token behind ∧ lexed behind = (lexed stop).map (rest ++ ·) := by
  induction rest generalizing token with
  | nil =>
    refine ⟨stop, by rw [print_singleton], ?_, by simp⟩
    cases token with
    | opening delimiter => exact opensComment_separated separated
    | punctuation symbol spacing =>
      cases spacing with
      | alone => exact separated
      | joint => cases chain
    | _ => exact separated
  | cons next rest ih =>
    have lexable' : ∀ t ∈ next :: rest, Lexable t := fun t here =>
      lexable t (List.mem_cons_of_mem _ here)
    obtain ⟨couple, chain'⟩ := Bool.and_eq_true_iff.1 chain
    obtain ⟨behind, same, admits, read⟩ := ih lexable' chain'
    have next_lexable := lexable' next List.mem_cons_self
    refine ⟨(gap token next).toList ++ (next.text.toList ++ behind), ?_, ?_, ?_⟩
    · rw [print_cons_cons, List.append_assoc, List.append_assoc, same]
    · cases token with
      | opening delimiter => exact opensComment_gap (opensComment_token next_lexable admits)
      | punctuation symbol spacing =>
        cases spacing with
        | alone => exact separated_gap (by simp) (by simp) behind
        | joint =>
          have glued : glues symbol next.text.toList = true := couple
          rw [gap_joint glued]
          exact admits_of_glues next_lexable admits glued
      | _ => exact separated_gap (by simp) (by simp) behind
    · rw [lexed_gap, lexed_token next_lexable admits, read, Option.map_map]
      rfl

/-- A chain of lexable tokens is read back from what it is printed as. -/
theorem lexed_print {tokens : List Token} (lexable : ∀ t ∈ tokens, Lexable t)
    (chain : chained none tokens = true) {stop : List Char} (separated : Separated stop) :
    lexed ((print tokens).toList ++ stop) = (lexed stop).map (tokens ++ ·) := by
  cases tokens with
  | nil => simp [print, printed]
  | cons token rest =>
    obtain ⟨behind, same, admits, read⟩ := lexed_print_cons lexable chain separated
    rw [same, lexed_token (lexable token List.mem_cons_self) admits, read, Option.map_map]
    rfl

end StatSchema.Token
