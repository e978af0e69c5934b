/-
What the texts that identifiers are taken from read as. A text that reads as a plain identifier
holds it between space and comments, and the identifier is the longest that begins there; without
comments it stands at the end of the text, and without space it is the text. The text of a mutator,
a verb before the spelling of a metric, therefore reads as the verb before the identifier of that
spelling, if it reads as an identifier at all, and never as a raw one.
-/
import StatSchema.Compiled
import Mathlib.Data.List.TakeWhile
import Mathlib.Data.List.Basic

namespace StatSchema

open Token Text

namespace Token

/-! ## Characters -/

/-- The code points of the characters that separate tokens. -/
def spaceCodes : List Nat :=
  [0x09, 0x0A, 0x0B, 0x0C, 0x0D, 0x20, 0x85, 0xA0, 0x1680, 0x2000, 0x2001, 0x2002, 0x2003, 0x2004,
    0x2005, 0x2006, 0x2007, 0x2008, 0x2009, 0x200A, 0x200E, 0x200F, 0x2028, 0x2029, 0x202F, 0x205F,
    0x3000]

theorem mem_spaceCodes {c : Char} (h : isSpace c = true) : c.toNat ∈ spaceCodes := by
  have marks : c = '\u200E' ∨ c = '\u200F' ∨ isBlank c = true := by
    simp only [isSpace, Bool.or_eq_true, decide_eq_true_eq] at h
    tauto
  rcases marks with rfl | rfl | blank
  · decide
  · decide
  · simp only [isBlank, Bool.or_eq_true, Bool.and_eq_true, decide_eq_true_eq,
      List.contains_iff_mem, List.mem_cons, List.not_mem_nil, or_false] at blank
    simp only [spaceCodes, List.mem_cons, List.not_mem_nil, or_false]
    omega

/-- No identifier goes on with a space. -/
theorem not_continues_of_isSpace {c : Char} (h : isSpace c = true) :
    continuesIdentifier c = false := by
  have all : ∀ code ∈ spaceCodes, continuesIdentifier (Char.ofNat code) = false := by
    decide +kernel
  have here := all c.toNat (mem_spaceCodes h)
  rwa [Char.ofNat_toNat] at here

/-! ## Lexemes -/

theorem tokens_place (position : Position) (lexemes : List Lexeme) :
    (place position lexemes).map (·.token) = lexemes.flatMap (·.tokens) := by
  induction lexemes generalizing position with
  | nil => rfl
  | cons lexeme rest ih => simp [place, ih, Function.comp_def]

/-- A lexeme stands for one token at least. -/
theorem tokens_ne_nil {source : List Char} {tokens : List Token} {n : Nat}
    (h : lexeme source = some (tokens, n)) : tokens ≠ [] := by
  unfold lexeme at h
  split at h
  · cases h
    simp [docAttribute]
  · obtain ⟨⟨token, length⟩, -, same⟩ := Option.map_eq_some_iff.1 h
    cases same
    simp

/-- The first lexeme of a text, and the others. -/
theorem lexemes_eq_cons {source : List Char} {first : Lexeme} {others : List Lexeme}
    (h : lexemes source = some (first :: others)) :
    ∃ c rest n, source.drop (spaceLength source) = c :: rest ∧
      lexeme (c :: rest) = some (first.tokens, n + 1) ∧
      lexemes (rest.drop n) = some others := by
  rw [lexemes] at h
  split at h
  · cases h
  · rename_i c rest text
    split at h
    · rename_i tokens n head
      obtain ⟨others', tail, same⟩ := Option.map_eq_some_iff.1 h
      cases same
      exact ⟨c, rest, n, text, head, tail⟩
    · cases h

/-- Only space is left of a text without lexemes. -/
theorem lexemes_eq_nil {source : List Char} (h : lexemes source = some []) :
    source.drop (spaceLength source) = [] := by
  rw [lexemes] at h
  split at h
  · rename_i text
    exact text
  · split at h
    · obtain ⟨others, -, same⟩ := Option.map_eq_some_iff.1 h
      cases same
    · cases h

theorem tokens_ne_nil_of_lexemes {source : List Char} {all : List Lexeme}
    (h : lexemes source = some all) : ∀ lexeme ∈ all, lexeme.tokens ≠ [] := by
  induction all generalizing source with
  | nil => simp
  | cons first others ih =>
    obtain ⟨c, rest, n, -, head, tail⟩ := lexemes_eq_cons h
    intro lexeme here
    rcases List.mem_cons.1 here with rfl | later
    · exact tokens_ne_nil head
    · exact ih tail lexeme later

/-- An identifier at the head of a text is as long as it can be. -/
theorem leaf_eq_identifier {source : List Char} {name : String} {n : Nat}
    (h : leaf source = some (.identifier name, n)) :
    anyIdentifierLength source = some n ∧ name = String.ofList (source.take n) := by
  unfold leaf at h
  split at h
  · cases h
  · rename_i c rest
    split at h
    · cases h
    · split at h
      · rename_i token delimiter
        cases h
        unfold delimiterOf at delimiter
        split at delimiter <;> cases delimiter
      · split at h
        · cases h
        · split at h
          · split at h <;> cases h
          · split at h
            · cases h
            · split at h
              · cases h
              · obtain ⟨length, measured, same⟩ := Option.map_eq_some_iff.1 h
                cases same
                exact ⟨measured, rfl⟩

theorem lexeme_eq_identifier {source : List Char} {name : String} {n : Nat}
    (h : lexeme source = some ([.identifier name], n)) :
    anyIdentifierLength source = some n ∧ name = String.ofList (source.take n) := by
  unfold lexeme at h
  split at h
  · cases h
  · obtain ⟨⟨token, length⟩, head, same⟩ := Option.map_eq_some_iff.1 h
    cases same
    exact leaf_eq_identifier head

/-- Where no comment begins, only space is skipped. -/
theorem spaceLength_cons {c : Char} (noSlash : c ≠ '/') (rest : List Char) :
    spaceLength (c :: rest) = if isSpace c then 1 + spaceLength rest else 0 := by
  have noComment : plainComment (c :: rest) = none := by
    unfold plainComment
    split
    · rename_i same
      cases same
      exact absurd rfl noSlash
    · rename_i same
      cases same
      exact absurd rfl noSlash
    · rfl
  rw [spaceLength, noComment]

/-- No space stands before a character that identifiers go on with. -/
theorem spaceLength_of_continues {c : Char} {rest : List Char} (h : continuesIdentifier c = true) :
    spaceLength (c :: rest) = 0 := by
  have noSpace : isSpace c = false := by
    cases spaced : isSpace c with
    | false => rfl
    | true => rw [not_continues_of_isSpace spaced] at h; cases h
  have noSlash : c ≠ '/' := by
    rintro rfl
    revert h
    decide
  rw [spaceLength_cons noSlash, noSpace]
  rfl

/-- A text without comments that is skipped as a whole is space. -/
theorem isSpace_of_skipped {source : List Char} (noSlash : '/' ∉ source)
    (skipped : source.drop (spaceLength source) = []) : ∀ c ∈ source, isSpace c = true := by
  induction source with
  | nil => simp
  | cons c rest ih =>
    rw [List.mem_cons, not_or] at noSlash
    rw [spaceLength_cons (Ne.symm noSlash.1)] at skipped
    split at skipped
    · rename_i space
      rw [Nat.add_comm, List.drop_succ_cons] at skipped
      exact List.forall_mem_cons.2 ⟨space, ih noSlash.2 skipped⟩
    · cases skipped

end Token

namespace Identifier

/-! ## Readings -/

/-- The source that a text is, without a byte order mark before it. -/
def unmarked (text : String) : List Char :=
  match text.toList with
  | '\uFEFF' :: rest => rest
  | chars => chars

theorem unmarked_of_marked {text : String} {rest : List Char}
    (h : text.toList = '\uFEFF' :: rest) : unmarked text = rest := by
  unfold unmarked
  rw [h]
  rfl

theorem unmarked_of_unmarked {text : String} (h : ∀ rest, text.toList = '\uFEFF' :: rest → False) :
    unmarked text = text.toList := by
  unfold unmarked
  split
  · rename_i rest marked
    exact absurd marked (h rest)
  · rfl

theorem lexemes_of_read {text : String} {placed : List Placed} (h : Token.read text = some placed) :
    ∃ all, lexemes (unmarked text) = some all ∧
      placed.map (·.token) = all.flatMap (·.tokens) := by
  unfold Token.read at h
  split at h
  rename_i position chars source
  have bare : chars = unmarked text := by
    split at source <;> cases source <;> rename_i marked
    · exact (unmarked_of_marked marked).symm
    · exact (unmarked_of_unmarked marked).symm
  rw [bare] at h
  split at h
  · rename_i all whole
    simp only at h
    split at h
    · cases h
      exact ⟨all, whole, tokens_place position all⟩
    · cases h
  · cases h

/-- A text that is one identifier: space, the identifier, and space. -/
theorem of_read {text name : String} {span : Span}
    (h : Token.read text = some [⟨.identifier name, span⟩]) :
    ∃ c rest n, (unmarked text).drop (spaceLength (unmarked text)) = c :: rest ∧
      anyIdentifierLength (c :: rest) = some (n + 1) ∧
      name = String.ofList ((c :: rest).take (n + 1)) ∧ lexemes (rest.drop n) = some [] := by
  obtain ⟨all, cut, tokens⟩ := lexemes_of_read h
  cases all with
  | nil => cases tokens
  | cons first others =>
    have some_tokens := tokens_ne_nil_of_lexemes cut
    obtain ⟨c, rest, n, text, head, tail⟩ := lexemes_eq_cons cut
    cases others with
    | cons second others =>
      -- every lexeme brings a token, and there is one token in all
      have one := some_tokens first List.mem_cons_self
      have two := some_tokens second (by simp)
      have count := congrArg List.length tokens
      simp only [List.map_cons, List.map_nil, List.length_singleton, List.flatMap_cons,
        List.length_append] at count
      have := List.length_pos_iff.2 one
      have := List.length_pos_iff.2 two
      omega
    | nil =>
      have only : first.tokens = [.identifier name] := by simpa using tokens.symm
      rw [only] at head
      obtain ⟨measured, rfl⟩ := lexeme_eq_identifier head
      exact ⟨c, rest, n, text, measured, rfl, tail⟩

theorem token_of_read_plain {text name : String} (h : read text = .plain name) :
    (∃ span, Token.read text = some [⟨.identifier name, span⟩]) ∧ isRaw name = false := by
  unfold read at h
  split at h
  · rename_i span cut
    split at h
    · cases h
    · split at h
      · cases h
      · rename_i plain
        cases h
        exact ⟨⟨span, cut⟩, by simpa using plain⟩
  · cases h

theorem token_of_read_raw {text name : String} (h : read text = .raw name) :
    (∃ span, Token.read text = some [⟨.identifier name, span⟩]) ∧ isRaw name = true := by
  unfold read at h
  split at h
  · rename_i span cut
    split at h
    · cases h
    · split at h
      · rename_i raw
        cases h
        exact ⟨⟨span, cut⟩, raw⟩
      · cases h
  · cases h

/-- The identifier that a text holds is the longest one there. -/
theorem of_read_plain {text name : String} (h : read text = .plain name) :
    ∃ c rest, (unmarked text).drop (spaceLength (unmarked text)) = c :: rest ∧
      opensIdentifier c = true ∧ name = String.ofList (c :: rest.takeWhile continuesIdentifier) ∧
      lexemes (rest.dropWhile continuesIdentifier) = some [] := by
  obtain ⟨⟨span, cut⟩, plain⟩ := token_of_read_plain h
  obtain ⟨c, rest, n, text, measured, rfl, tail⟩ := of_read cut
  unfold anyIdentifierLength at measured
  split at measured
  · rename_i rest' source
    cases source
    simp only at measured
    split at measured
    · cases measured
    · cases measured
      simp [isRaw] at plain
  · split at measured
    · cases measured
    · rename_i length_ne
      unfold identifierLength at measured length_ne
      simp only at measured length_ne
      split at measured
      · rename_i opens
        have n_eq : n = (rest.takeWhile continuesIdentifier).length := by
          simpa using measured.symm
        have whole := List.takeWhile_append_dropWhile (p := continuesIdentifier) (l := rest)
        have taken : rest.take n = rest.takeWhile continuesIdentifier := by
          rw [n_eq]
          exact (List.prefix_iff_eq_take.1 (List.takeWhile_prefix _)).symm
        have dropped : rest.drop n = rest.dropWhile continuesIdentifier := by
          have left : (rest.takeWhile continuesIdentifier ++
              rest.dropWhile continuesIdentifier).drop (rest.takeWhile continuesIdentifier).length =
              rest.dropWhile continuesIdentifier := List.drop_left
          rwa [whole, ← n_eq] at left
        rw [dropped] at tail
        exact ⟨c, rest, text, opens, by rw [List.take_succ_cons, taken], tail⟩
      · rename_i closed
        simp [closed] at length_ne

theorem unmarked_suffix (text : String) : unmarked text <:+ text.toList := by
  unfold unmarked
  split
  · rename_i rest marked
    rw [marked]
    exact List.suffix_cons _ _
  · exact List.suffix_rfl

/-- A text without comments that reads as an identifier ends with it, up to space. -/
theorem suffix_of_read_plain {text name : String} (noSlash : '/' ∉ text.toList)
    (h : read text = .plain name) : name.toList ≠ [] ∧
      ∃ space, name.toList ++ space <:+ text.toList ∧ ∀ c ∈ space, isSpace c = true := by
  obtain ⟨c, rest, opened, -, rfl, tail⟩ := of_read_plain h
  have behind : c :: rest <:+ text.toList := by
    rw [← opened]
    exact (List.drop_suffix _ _).trans (unmarked_suffix text)
  rw [String.toList_ofList]
  refine ⟨List.cons_ne_nil _ _, rest.dropWhile continuesIdentifier, ?_, ?_⟩
  · rw [List.cons_append, List.takeWhile_append_dropWhile]
    exact behind
  · refine isSpace_of_skipped (fun here => noSlash (behind.subset ?_)) (lexemes_eq_nil tail)
    exact List.mem_cons_of_mem _ ((List.dropWhile_sublist _).subset here)

/-- It ends as the text does, if that is with no space. -/
theorem getLast?_of_read_plain {text name : String} {last : Char} (noSlash : '/' ∉ text.toList)
    (ends : text.toList.getLast? = some last) (noSpace : isSpace last = false)
    (h : read text = .plain name) : name.toList.getLast? = some last := by
  obtain ⟨nonempty, space, ⟨front, whole⟩, spaces⟩ := suffix_of_read_plain noSlash h
  rw [← whole, List.getLast?_append, List.getLast?_append] at ends
  cases skipped : space.getLast? with
  | some c =>
    rw [skipped] at ends
    cases ends
    rw [spaces last (List.mem_of_getLast? skipped)] at noSpace
    cases noSpace
  | none =>
    rw [skipped, Option.none_or, List.getLast?_eq_some_getLast nonempty] at ends
    rw [List.getLast?_eq_some_getLast nonempty]
    exact ends

/-! ## Texts that identifiers go on with -/

theorem unmarked_of_continues {text : String} {c : Char} {rest : List Char}
    (source : text.toList = c :: rest) (h : continuesIdentifier c = true) :
    unmarked text = c :: rest := by
  rw [unmarked_of_unmarked, source]
  intro other marked
  have mark : continuesIdentifier '\uFEFF' = false := by decide +kernel
  rw [source] at marked
  cases marked
  rw [mark] at h
  cases h

/-- A text that an identifier character opens holds an identifier from there on, and space. -/
theorem of_read_plain_of_continues {text name : String} {c : Char} {rest : List Char}
    (source : text.toList = c :: rest) (continues : continuesIdentifier c = true)
    (h : read text = .plain name) :
    name = String.ofList (text.toList.takeWhile continuesIdentifier) ∧
      lexemes (text.toList.dropWhile continuesIdentifier) = some [] := by
  obtain ⟨c', rest', dropped, opens, named, tail⟩ := of_read_plain h
  rw [unmarked_of_continues source continues, spaceLength_of_continues continues,
    List.drop_zero] at dropped
  cases dropped
  rw [source, List.takeWhile_cons_of_pos continues, List.dropWhile_cons_of_pos continues]
  exact ⟨named, tail⟩

/-- A text of nothing but space is no identifier. -/
theorem read_ne_plain_of_lexemes {text name : String} (h : lexemes text.toList = some []) :
    read text ≠ .plain name := by
  intro plain
  obtain ⟨c, rest, opened, opens, -, -⟩ := of_read_plain plain
  have space := lexemes_eq_nil h
  by_cases marked : ∃ rest, text.toList = '\uFEFF' :: rest
  · obtain ⟨rest, marked⟩ := marked
    have bare : spaceLength ('\uFEFF' :: rest) = 0 := by
      have noSpace : isSpace '\uFEFF' = false := by decide
      rw [spaceLength, show plainComment ('\uFEFF' :: rest) = none from rfl]
      simp [noSpace]
    rw [marked, bare] at space
    cases space
  · rw [unmarked_of_unmarked fun rest h => marked ⟨rest, h⟩, space] at opened
    cases opened

/-- A text of nothing but characters that identifiers go on with. -/
def Continuation (text : String) : Prop := ∀ c ∈ text.toList, continuesIdentifier c = true

instance (text : String) : Decidable (Continuation text) :=
  decidable_of_iff (text.toList.all continuesIdentifier = true) List.all_eq_true

namespace Continuation

variable {text more : String}

theorem append (front : Continuation text) (back : Continuation more) :
    Continuation (text ++ more) := by
  intro c here
  rw [String.toList_append, List.mem_append] at here
  exact here.elim (front c) (back c)

/-- No comment begins in it. -/
theorem noSlash (continues : Continuation text) : '/' ∉ text.toList := by
  intro here
  have slash : continuesIdentifier '/' = false := by decide
  rw [continues _ here] at slash
  cases slash

/-- It is itself the identifier that it reads as. -/
theorem eq_of_read {name : String} (continues : Continuation text) (h : read text = .plain name) :
    name = text := by
  cases source : text.toList with
  | nil =>
    obtain ⟨nonempty, space, behind, -⟩ := suffix_of_read_plain continues.noSlash h
    rw [source, List.suffix_nil, List.append_eq_nil_iff] at behind
    exact absurd behind.1 nonempty
  | cons c rest =>
    have first : c ∈ text.toList := by
      rw [source]
      exact List.mem_cons_self
    obtain ⟨named, -⟩ := of_read_plain_of_continues source (continues c first) h
    rw [named, List.takeWhile_eq_self_iff.2 continues, String.ofList_toList]

end Continuation

/-! ## Mutators -/

theorem verb_continues (kind : MetricKind) :
    ∃ c rest, (kind.verb ++ "_").toList = c :: rest ∧ c ≠ 'r' ∧
      ∀ d ∈ c :: rest, continuesIdentifier d = true := by
  cases kind
  · exact ⟨'c', ['o', 'u', 'n', 't', '_'], rfl, by decide, List.all_eq_true.1 (by decide)⟩
  · exact ⟨'o', ['b', 's', 'e', 'r', 'v', 'e', '_'], rfl, by decide, List.all_eq_true.1 (by decide)⟩
  · exact ⟨'a', ['d', 'd', '_'], rfl, by decide, List.all_eq_true.1 (by decide)⟩

theorem toList_mutator (metric : BaseMetric) :
    metric.mutator.toList =
      (metric.kind.verb ++ "_").toList ++ (Name.snake metric.name).toList := by
  rw [BaseMetric.mutator, String.toList_append]

/-- The text of a mutator reads as the verb before the identifier of the metric, if it reads as an
identifier: the spelling of the metric then begins with that identifier. -/
theorem name_of_read_mutator {metric : BaseMetric} {name mutator : String}
    (plain : read (Name.snake metric.name) = .plain name)
    (h : read metric.mutator = .plain mutator) :
    mutator = metric.kind.verb ++ "_" ++ name := by
  obtain ⟨c, rest, verb, -, continues⟩ := verb_continues metric.kind
  have source : metric.mutator.toList = c :: (rest ++ (Name.snake metric.name).toList) := by
    rw [toList_mutator, verb]
    rfl
  obtain ⟨named, tail⟩ := of_read_plain_of_continues source (continues c List.mem_cons_self) h
  rw [toList_mutator, verb, List.takeWhile_append_of_pos continues] at named
  rw [toList_mutator, verb, List.dropWhile_append_of_pos continues] at tail
  cases spelling : (Name.snake metric.name).toList with
  | nil =>
    rw [spelling] at tail
    exact absurd plain (read_ne_plain_of_lexemes (by rw [spelling]; exact tail))
  | cons d others =>
    by_cases begun : continuesIdentifier d = true
    · obtain ⟨same, -⟩ := of_read_plain_of_continues spelling begun plain
      rw [named, same, String.ofList_append, ← verb, String.ofList_toList]
    · rw [spelling, List.dropWhile_cons_of_neg begun] at tail
      exact absurd plain (read_ne_plain_of_lexemes (by rw [spelling]; exact tail))

/-- The text of a mutator is no raw identifier. -/
theorem read_mutator_ne_raw (metric : BaseMetric) (mutator : String) :
    read metric.mutator ≠ .raw mutator := by
  intro h
  obtain ⟨⟨span, cut⟩, raw⟩ := token_of_read_raw h
  obtain ⟨c, rest, verb, noRaw, continues⟩ := verb_continues metric.kind
  have begun := continues c List.mem_cons_self
  have source : metric.mutator.toList = c :: (rest ++ (Name.snake metric.name).toList) := by
    rw [toList_mutator, verb]
    rfl
  obtain ⟨c', rest', n, dropped, -, rfl, -⟩ := of_read cut
  rw [unmarked_of_continues source begun, spaceLength_of_continues begun, List.drop_zero] at dropped
  cases dropped
  rw [List.take_succ_cons] at raw
  simp [isRaw, List.isPrefixOf, Ne.symm noRaw] at raw

end Identifier

end StatSchema
