/-
Settings are read by their grammar, up to the end and each at most once. A list in braces or brackets
takes the semicolon behind it for its own, which loses nothing, since no setting begins with one. Main
statement: `settings_eq_ok`.
-/
import StatSchema.Proofs.Definition.Reading

namespace StatSchema

open Token Lookahead

namespace Definition

/-! ## Values -/

theorem optionalSemicolon_eq (source : List Placed) :
    Parser.optionalSemicolon source =
      .ok ((), if comesNext [';'] source then source.tail else source) := by
  show (if comesNext [';'] source then _ else _ : Parser Unit) source = _
  split <;> rfl

section Blocks

variable {α : Type} {entry : Parser α} {production : Production α}
  (reads : Reads entry production EntryEnds) (named : production.Named)

include reads named

theorem block_sound {delimiter : Delimiter} {source rest : List Placed} {values : List α}
    {opened : List Delimiter} (balanced : balancedFrom opened source = true)
    (h : block delimiter entry source = .ok (values, rest)) :
    Block production delimiter source values rest := by
  obtain ⟨_, behind, group, h⟩ := run_bind_eq_ok.1 h
  obtain ⟨_, _, semicolon, h⟩ := run_bind_eq_ok.1 h
  rw [optionalSemicolon_eq] at semicolon
  cases semicolon
  cases h
  replace group := group_sound reads named balanced group
  split
  · rename_i next
    exact .ended group (sign_of_comesNext next)
  · exact .plain group

theorem block_complete {delimiter : Delimiter} {source rest : List Placed} {values : List α}
    (given : Block production delimiter source values rest) (ends : comesNext [';'] rest = false) :
    block delimiter entry source = .ok (values, rest) := by
  cases given with
  | plain group =>
    refine run_bind_eq_ok.2 ⟨_, _, group_complete reads named group, ?_⟩
    refine run_bind_eq_ok.2 ⟨(), rest, ?_, rfl⟩
    rw [optionalSemicolon_eq, if_neg (Bool.eq_false_iff.1 ends)]
  | ended group semicolon =>
    refine run_bind_eq_ok.2 ⟨_, _, group_complete reads named group, ?_⟩
    refine run_bind_eq_ok.2 ⟨(), rest, ?_, rfl⟩
    rw [optionalSemicolon_eq, if_pos (comesNext_of_sign semicolon), semicolon.tail_eq]

end Blocks

theorem assigned_eq_ok {α β : Type} {value : Parser β} {production : Production α} {of : α → β}
    (reads : ∀ {source answer rest}, value source = .ok (answer, rest) ↔
      ∃ phrase, production source phrase rest ∧ of phrase = answer)
    {source rest : List Placed} {answer : β} :
    assigned value source = .ok (answer, rest) ↔
      ∃ phrase, Assigned production source phrase rest ∧ of phrase = answer := by
  constructor
  · intro h
    obtain ⟨_, next, equals, h⟩ := run_bind_eq_ok.1 h
    obtain ⟨_, behind, given, h⟩ := run_bind_eq_ok.1 h
    obtain ⟨_, _, semicolon, h⟩ := run_bind_eq_ok.1 h
    cases h
    obtain ⟨phrase, given, same⟩ := reads.1 given
    exact ⟨phrase, .mk (punctuation_eq_ok.1 equals) given (punctuation_eq_ok.1 semicolon), same⟩
  · rintro ⟨phrase, ⟨equals, given, semicolon⟩, same⟩
    refine run_bind_eq_ok.2 ⟨(), _, punctuation_eq_ok.2 equals, ?_⟩
    refine run_bind_eq_ok.2 ⟨_, _, reads.2 ⟨phrase, given, same⟩, ?_⟩
    exact run_bind_eq_ok.2 ⟨(), _, punctuation_eq_ok.2 semicolon, rfl⟩

theorem assigned_identifier_eq_ok {source rest : List Placed} {text : String} :
    assigned (do return (← Parser.identifier).1) source = .ok (text, rest) ↔
      ∃ name, Assigned IdentifierPhrase source name rest ∧ name.text = text := by
  refine assigned_eq_ok fun {source answer rest} => ⟨fun h => ?_, ?_⟩
  · obtain ⟨⟨text, span⟩, _, read, h⟩ := run_bind_eq_ok.1 h
    cases h
    exact ⟨_, identifier_eq_ok.1 read, rfl⟩
  · rintro ⟨name, phrase, rfl⟩
    exact run_bind_eq_ok.2 ⟨_, _, identifier_eq_ok.2 phrase, rfl⟩

theorem assigned_string_eq_ok {source rest : List Placed} {text : String} :
    assigned (do return (← Parser.string).1) source = .ok (text, rest) ↔
      ∃ written, Assigned StringPhrase source written rest ∧ written.text = text := by
  refine assigned_eq_ok fun {source answer rest} => ⟨fun h => ?_, ?_⟩
  · obtain ⟨⟨text, span⟩, _, read, h⟩ := run_bind_eq_ok.1 h
    cases h
    exact ⟨⟨text, span⟩, writtenString_eq_ok.1 (run_bind_eq_ok.2 ⟨_, _, read, rfl⟩), rfl⟩
  · rintro ⟨written, phrase, rfl⟩
    obtain ⟨⟨text, span⟩, _, read, h⟩ := run_bind_eq_ok.1 (writtenString_eq_ok.2 phrase)
    cases h
    exact run_bind_eq_ok.2 ⟨_, _, read, rfl⟩

theorem assigned_path_eq_ok {source rest : List Placed} {reading : Path.Reading} :
    assigned Path.parser source = .ok (reading, rest) ↔
      Assigned PathPhrase source reading rest := by
  have reads : ∀ {source answer rest}, Path.parser source = .ok (answer, rest) ↔
      ∃ phrase, PathPhrase source phrase rest ∧ id phrase = answer := by
    simp [PathPhrase]
  refine (assigned_eq_ok reads).trans ?_
  simp

theorem nameList_sound {source rest : List Placed} {names : List String}
    {opened : List Delimiter} (balanced : balancedFrom opened source = true)
    (h : nameList source = .ok (names, rest)) :
    ∃ written, Block StringPhrase .bracket source written rest ∧ written.map (·.text) = names := by
  obtain ⟨written, _, read, h⟩ := run_bind_eq_ok.1 h
  cases h
  exact ⟨written, block_sound reads_writtenString named_stringPhrase balanced read, rfl⟩

theorem nameList_complete {source rest : List Placed} {written : List Written}
    (given : Block StringPhrase .bracket source written rest) (ends : comesNext [';'] rest = false) :
    nameList source = .ok (written.map (·.text), rest) :=
  run_bind_eq_ok.2 ⟨_, _, block_complete reads_writtenString named_stringPhrase given ends, rfl⟩

/-! ## A setting -/

theorem setting_sound {word : String} {span : Span} {source rest : List Placed} {read : Setting}
    {opened : List Delimiter} (balanced : balancedFrom opened source = true)
    (h : setting word span source = .ok (read, rest)) :
    SettingBody source read rest ∧ read.word = word := by
  unfold setting at h
  split at h
  · obtain ⟨_, _, given, h⟩ := run_bind_eq_ok.1 h
    obtain ⟨_, phrase, rfl⟩ := assigned_identifier_eq_ok.1 given
    cases h
    exact ⟨.record phrase, rfl⟩
  · obtain ⟨_, _, given, h⟩ := run_bind_eq_ok.1 h
    obtain ⟨_, phrase, rfl⟩ := assigned_identifier_eq_ok.1 given
    cases h
    exact ⟨.aggregator phrase, rfl⟩
  · obtain ⟨_, _, given, h⟩ := run_bind_eq_ok.1 h
    obtain ⟨_, phrase, rfl⟩ := assigned_identifier_eq_ok.1 given
    cases h
    exact ⟨.module phrase, rfl⟩
  · obtain ⟨_, _, given, h⟩ := run_bind_eq_ok.1 h
    obtain ⟨_, phrase, rfl⟩ := assigned_string_eq_ok.1 given
    cases h
    exact ⟨.hookPrefix phrase, rfl⟩
  · obtain ⟨_, _, given, h⟩ := run_bind_eq_ok.1 h
    cases h
    exact ⟨.runtime (assigned_path_eq_ok.1 given), rfl⟩
  · obtain ⟨_, _, semicolon, h⟩ := run_bind_eq_ok.1 h
    cases h
    exact ⟨.strictOrderings (punctuation_eq_ok.1 semicolon), rfl⟩
  · obtain ⟨_, _, given, h⟩ := run_bind_eq_ok.1 h
    cases h
    exact ⟨.base (block_sound reads_baseLine named_baseEntry balanced given), rfl⟩
  · obtain ⟨_, _, given, h⟩ := run_bind_eq_ok.1 h
    cases h
    exact ⟨.compound (block_sound reads_compoundLine named_compoundEntry balanced given), rfl⟩
  · obtain ⟨_, _, given, h⟩ := run_bind_eq_ok.1 h
    obtain ⟨_, phrase, rfl⟩ := nameList_sound balanced given
    cases h
    exact ⟨.order .storage phrase, rfl⟩
  · obtain ⟨_, _, given, h⟩ := run_bind_eq_ok.1 h
    obtain ⟨_, phrase, rfl⟩ := nameList_sound balanced given
    cases h
    exact ⟨.order .derivation phrase, rfl⟩
  · obtain ⟨_, _, given, h⟩ := run_bind_eq_ok.1 h
    obtain ⟨_, phrase, rfl⟩ := nameList_sound balanced given
    cases h
    exact ⟨.order .display phrase, rfl⟩
  · obtain ⟨_, _, given, h⟩ := run_bind_eq_ok.1 h
    cases h
    exact ⟨.overrides (block_sound reads_overrideLine named_overrideEntry balanced given), rfl⟩
  · cases h

theorem setting_complete {span : Span} {source rest : List Placed} {given : Setting}
    (body : SettingBody source given rest) (ends : comesNext [';'] rest = false) :
    setting given.word span source = .ok (given, rest) := by
  cases body with
  | record given =>
    exact run_bind_eq_ok.2 ⟨_, _, assigned_identifier_eq_ok.2 ⟨_, given, rfl⟩, rfl⟩
  | aggregator given =>
    exact run_bind_eq_ok.2 ⟨_, _, assigned_identifier_eq_ok.2 ⟨_, given, rfl⟩, rfl⟩
  | module given =>
    exact run_bind_eq_ok.2 ⟨_, _, assigned_identifier_eq_ok.2 ⟨_, given, rfl⟩, rfl⟩
  | hookPrefix given =>
    exact run_bind_eq_ok.2 ⟨_, _, assigned_string_eq_ok.2 ⟨_, given, rfl⟩, rfl⟩
  | runtime given => exact run_bind_eq_ok.2 ⟨_, _, assigned_path_eq_ok.2 given, rfl⟩
  | strictOrderings semicolon =>
    exact run_bind_eq_ok.2 ⟨(), _, punctuation_eq_ok.2 semicolon, rfl⟩
  | base given =>
    exact run_bind_eq_ok.2 ⟨_, _, block_complete reads_baseLine named_baseEntry given ends, rfl⟩
  | compound given =>
    exact run_bind_eq_ok.2
      ⟨_, _, block_complete reads_compoundLine named_compoundEntry given ends, rfl⟩
  | order which given =>
    have read := nameList_complete given ends
    cases which
    · exact run_bind_eq_ok.2 ⟨_, _, read, rfl⟩
    · exact run_bind_eq_ok.2 ⟨_, _, read, rfl⟩
    · exact run_bind_eq_ok.2 ⟨_, _, read, rfl⟩
  | overrides given =>
    exact run_bind_eq_ok.2
      ⟨_, _, block_complete reads_overrideLine named_overrideEntry given ends, rfl⟩

/-! ## Lists of settings -/

theorem free_word (setting : Setting) : Identifier.keywords.contains setting.word = false := by
  cases setting with
  | order which names => cases which <;> rfl
  | _ => rfl

/-- No list of settings begins with a semicolon. -/
theorem Settings.ends {tokens : List Placed} {given : List Setting} (phrase : Settings tokens given) :
    comesNext [';'] tokens = false := by
  cases phrase <;> rfl

theorem settings_sound {seen : List String} {bound : Nat} {tokens rest : List Placed}
    {read : List Setting} {opened : List Delimiter} (balanced : balancedFrom opened tokens = true)
    (bounded : tokens.length ≤ bound) (h : settings seen bound tokens = .ok (read, rest)) :
    rest = [] ∧ Settings tokens read ∧ (read.map Setting.word).Nodup ∧
      ∀ setting ∈ read, setting.word ∉ seen := by
  induction bound generalizing seen tokens read with
  | zero =>
    obtain rfl := List.eq_nil_of_length_eq_zero (Nat.le_zero.1 bounded)
    cases h
    exact ⟨rfl, .nil, List.nodup_nil, List.forall_mem_nil _⟩
  | succ bound ih =>
    obtain ⟨_, _, same, h⟩ := run_bind_eq_ok.1 h
    cases same
    cases tokens with
    | nil =>
      cases h
      exact ⟨rfl, .nil, List.nodup_nil, List.forall_mem_nil _⟩
    | cons next more =>
      obtain ⟨⟨word, span⟩, behind, begun, h⟩ := run_bind_eq_ok.1 h
      replace begun := identifier_eq_ok.1 begun
      cases begun with
      | mk free span behind =>
        dsimp only at h
        -- a word that was seen is refused, which keeps the words of what is left apart from it
        by_cases repeated : seen.contains word = true
        · rw [if_pos repeated] at h
          cases h
        · rw [if_neg repeated] at h
          obtain ⟨first, left, body, h⟩ := run_bind_eq_ok.1 h
          obtain ⟨later, _, remaining, h⟩ := run_bind_eq_ok.1 h
          cases h
          replace balanced := (Remains.of_identifier word span more).balanced opened balanced
          obtain ⟨phrase, rfl⟩ := setting_sound balanced body
          have shorter := phrase.remains.suffix.length_le
          simp only [List.length_cons] at bounded
          obtain ⟨rfl, others, distinct, fresh⟩ :=
            ih (phrase.remains.balanced opened balanced) (by omega) remaining
          refine ⟨rfl, .cons span phrase others, ?_, ?_⟩
          · refine List.nodup_cons.2 ⟨fun again => ?_, distinct⟩
            obtain ⟨other, listed, same⟩ := List.mem_map.1 again
            exact fresh other listed (same ▸ List.mem_cons_self)
          · rintro setting (_ | ⟨_, listed⟩)
            · simpa using repeated
            · exact fun earlier => fresh setting listed (List.mem_cons_of_mem _ earlier)

theorem settings_complete {seen : List String} {bound : Nat} {tokens : List Placed}
    {given : List Setting} (phrase : Settings tokens given)
    (distinct : (given.map Setting.word).Nodup) (fresh : ∀ setting ∈ given, setting.word ∉ seen)
    (bounded : tokens.length ≤ bound) : settings seen bound tokens = .ok (given, []) := by
  induction phrase generalizing seen bound with
  | nil =>
    cases bound with
    | zero => rfl
    | succ bound => rfl
  | @cons source rest setting given span body more ih =>
    cases bound with
    | zero => cases bounded
    | succ bound =>
      have shorter := body.remains.suffix.length_le
      simp only [List.length_cons] at bounded
      obtain ⟨once, distinct⟩ := List.nodup_cons.1 distinct
      have later : settings (setting.word :: seen) bound rest = .ok (given, []) := by
        refine ih distinct (fun other listed => ?_) (by omega)
        rw [List.mem_cons, not_or]
        exact ⟨fun same => once (same ▸ List.mem_map_of_mem listed),
          fresh other (List.mem_cons_of_mem _ listed)⟩
      have new : seen.contains setting.word = false := by
        simpa using fresh setting List.mem_cons_self
      refine run_bind_eq_ok.2 ⟨_, _, rfl, ?_⟩
      rw [if_neg (by simp)]
      refine run_bind_eq_ok.2
        ⟨_, _, identifier_eq_ok.2 (.mk (free_word setting) span source), ?_⟩
      dsimp only
      rw [if_neg (Bool.eq_false_iff.1 new)]
      -- a list without a semicolon ends here, since the next setting does not begin with one
      refine run_bind_eq_ok.2 ⟨_, _, setting_complete body more.ends, ?_⟩
      exact run_bind_eq_ok.2 ⟨_, _, later, rfl⟩

/-- Tokens whose brackets match are read as the settings that they are a list of, if no two of these
begin with the same word. -/
theorem settings_eq_ok {tokens rest : List Placed} {read : List Setting}
    (balanced : balancedFrom [] tokens = true) :
    settings [] tokens.length tokens = .ok (read, rest) ↔
      rest = [] ∧ Settings tokens read ∧ (read.map Setting.word).Nodup := by
  constructor
  · intro h
    obtain ⟨ended, phrase, distinct, -⟩ := settings_sound balanced (Nat.le_refl _) h
    exact ⟨ended, phrase, distinct⟩
  · rintro ⟨rfl, phrase, distinct⟩
    exact settings_complete phrase distinct (fun _ _ => List.not_mem_nil) (Nat.le_refl _)

end Definition

end StatSchema
