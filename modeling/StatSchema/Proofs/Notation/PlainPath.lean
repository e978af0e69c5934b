/-
Plain paths, whose segments have no arguments. A plain path is read as it stands wherever a phrase may
end behind it, with a double colon before it or without. Main statement: `parser_plainPath`.
-/
import StatSchema.Proofs.Sequencing
import StatSchema.Path

namespace StatSchema

open Token Lookahead

/-- Whether a phrase may end before tokens. -/
def PhraseEnds (rest : List Placed) : Prop :=
  atEnd rest = true ∨ comesNext [','] rest = true ∨ comesNext [';'] rest = true

theorem signNext_eq_false {rest : List Placed} (ends : PhraseEnds rest) (sign : String)
    (other : ∃ first more, sign.toList = first :: more ∧ first ≠ ',' ∧ first ≠ ';') :
    signNext sign rest = false := by
  obtain ⟨first, more, spelled, noComma, noSemicolon⟩ := other
  unfold signNext
  rw [spelled]
  match rest with
  | [] => rfl
  | ⟨.punctuation symbol spacing, span⟩ :: behind =>
    have mark : symbol = ',' ∨ symbol = ';' := by simpa [PhraseEnds, atEnd, comesNext] using ends
    have apart : symbol ≠ first := by
      rcases mark with rfl | rfl
      · exact noComma.symm
      · exact noSemicolon.symm
    simp [comesNext, apart]
  | ⟨.identifier _, _⟩ :: _ => rfl
  | ⟨.literal _, _⟩ :: _ => rfl
  | ⟨.opening _, _⟩ :: _ => rfl
  | ⟨.closing _, _⟩ :: _ => rfl

/-- Whether a word can be a segment of a path. -/
def isSegment (word : String) : Bool :=
  ["super", "self", "crate", "try"].contains word || word = "Self" ||
    !Identifier.keywords.contains word

/-- Two colons that are glued together. -/
def doubleColon : List Token := [.punctuation ':' .joint, .punctuation ':' .alone]

/-- The tokens of further segments, each after a double colon. -/
def furtherPlain (words : List String) : List Token :=
  words.flatMap fun word => doubleColon ++ [.identifier word]

/-- The tokens of a plain path. -/
def plainPath (rooted : Bool) (first : String) (words : List String) : List Token :=
  (if rooted then doubleColon else []) ++ .identifier first :: furtherPlain words

/-- Placed tokens that spell a token and others begin with that token. -/
theorem placed_cons {placed : List Placed} {token : Token} {more : List Token}
    (spelled : placed.map (·.token) = token :: more) :
    ∃ span behind, placed = ⟨token, span⟩ :: behind ∧ behind.map (·.token) = more := by
  obtain ⟨⟨_, span⟩, behind, rfl, rfl, later⟩ := List.map_eq_cons_iff.1 spelled
  exact ⟨span, behind, rfl, later⟩

/-- Placed double colons. -/
theorem placed_doubleColon {placed : List Placed} {more : List Token}
    (spelled : placed.map (·.token) = doubleColon ++ more) :
    ∃ first second behind, placed = ⟨.punctuation ':' .joint, first⟩ ::
      ⟨.punctuation ':' .alone, second⟩ :: behind ∧ behind.map (·.token) = more := by
  obtain ⟨first, _, rfl, joined⟩ := placed_cons spelled
  obtain ⟨second, behind, rfl, later⟩ := placed_cons joined
  exact ⟨first, second, behind, rfl, later⟩

namespace Phrase

variable {source : List Placed}

/-- What it takes of a reader's place that it has taken tokens and written others. -/
structure Progress.Past (before after : Progress source) (rest : List Placed)
    (written : List Token) : Prop where
  rest : after.rest = rest
  written : after.written = written.reverse ++ before.written
  leftover : after.leftover = before.leftover

theorem Progress.Past.trans {before middle after : Progress source} {rest rest' : List Placed}
    {written written' : List Token} (first : before.Past middle rest written)
    (second : middle.Past after rest' written') : before.Past after rest' (written ++ written') where
  rest := second.rest
  written := by rw [second.written, first.written, List.reverse_append, List.append_assoc]
  leftover := second.leftover.trans first.leftover

theorem copy_identifier {before : Progress source} {word : String} {span : Span}
    {rest : List Placed} (next : before.rest = ⟨.identifier word, span⟩ :: rest) :
    ∃ after, copy before = .ok ((), after) ∧ before.Past after rest [.identifier word] := by
  refine ⟨_, rfl, ⟨?_, ?_, rfl⟩⟩
  · show past 1 before.rest = rest
    rw [next]
    rfl
  · show ((between before.rest (past 1 before.rest)).map (·.token)).reverse ++ before.written = _
    rw [next]
    simp [past, between]

theorem signNext_doubleColon (first second : Span) (spacing : Spacing) (rest : List Placed) :
    signNext "::" (⟨.punctuation ':' .joint, first⟩ :: ⟨.punctuation ':' spacing, second⟩ :: rest) =
      true := by
  simp [signNext, comesNext]

theorem sign_doubleColon {before : Progress source} {first second : Span} {spacing : Spacing}
    {rest : List Placed} (next : before.rest =
      ⟨.punctuation ':' .joint, first⟩ :: ⟨.punctuation ':' spacing, second⟩ :: rest) :
    ∃ after, sign "::" before = .ok ((), after) ∧ before.Past after rest doubleColon := by
  have comes : signNext "::" before.rest = true := by rw [next, signNext_doubleColon]
  have taken : sign "::" before =
      (do skip "::".length; write (operator "::".toList) :
        StateT (Progress source) (Except SyntaxError) Unit) before := by
    show (if signNext "::" before.rest then _ else _ :
      StateT (Progress source) (Except SyntaxError) Unit) before = _
    rw [if_pos comes]
  rw [taken]
  refine ⟨_, rfl, ⟨?_, rfl, rfl⟩⟩
  show past 2 before.rest = rest
  rw [next]
  rfl

theorem identifier_plain {before : Progress source} {word : String} {span : Span}
    {rest : List Placed} (next : before.rest = ⟨.identifier word, span⟩ :: rest)
    (free : Identifier.keywords.contains word = false) :
    identifier before = copy before := by
  obtain ⟨tokens, written, leftover, remains⟩ := before
  cases next
  show (if Identifier.keywords.contains word then _ else _ :
    StateT (Progress source) (Except SyntaxError) Unit) _ = _
  rw [free, if_neg Bool.false_ne_true]

/-- A word that can be a segment is one, if no arguments come after it. -/
theorem segment_plain (grammar : Grammar) {before : Progress source} {word : String} {span : Span}
    {rest : List Placed} (next : before.rest = ⟨.identifier word, span⟩ :: rest)
    (valid : isSegment word = true) (bare : argumentsNext false rest = false) :
    ∃ after, grammar.segment false before = .ok (.none, after) ∧
      before.Past after rest [.identifier word] := by
  obtain ⟨after, copied, past⟩ := copy_identifier next
  refine ⟨after, run_bind_eq_ok.2 ⟨before.rest, before, rfl, ?_⟩, past⟩
  have alone : anyWordNext ["super", "self", "crate", "try"] before.rest =
      ["super", "self", "crate", "try"].contains word := by rw [next]; rfl
  have named : wordComesNext "Self" before.rest = decide (word = "Self") := by rw [next]; rfl
  have closed : (do
      if argumentsNext false (← Phrase.rest) then grammar.arguments else return .none :
        StateT (Progress source) (Except SyntaxError) ArgumentsForm) after = .ok (.none, after) := by
    refine run_bind_eq_ok.2 ⟨after.rest, after, rfl, ?_⟩
    rw [past.rest, bare]
    rfl
  rw [alone, named]
  dsimp only
  split
  · exact run_bind_eq_ok.2 ⟨(), after, copied, rfl⟩
  · rename_i noWord
    split
    · exact run_bind_eq_ok.2 ⟨(), after, copied, closed⟩
    · rename_i noName
      have free : Identifier.keywords.contains word = false := by
        rcases Bool.or_eq_true_iff.1 valid with special | free
        · rcases Bool.or_eq_true_iff.1 special with word | name
          · exact absurd word noWord
          · exact absurd name noName
        · simpa using free
      exact run_bind_eq_ok.2 ⟨(), after, (identifier_plain next free).trans copied, closed⟩

/-- No arguments come next where further segments do, or where a phrase may end. -/
theorem argumentsNext_plain {words : List String} {placed rest : List Placed}
    (spelled : placed.map (·.token) = furtherPlain words) (ends : PhraseEnds rest) :
    argumentsNext false (placed ++ rest) = false := by
  cases words with
  | nil =>
    obtain rfl := List.map_eq_nil_iff.1 spelled
    have unopened := signNext_eq_false ends "<" ⟨'<', [], rfl, by decide⟩
    have unjoined := signNext_eq_false ends "::" ⟨':', [':'], rfl, by decide⟩
    simp [argumentsNext, unopened, unjoined]
  | cons word words =>
    obtain ⟨first, second, _, rfl, named⟩ := placed_doubleColon spelled
    obtain ⟨span, behind, rfl, -⟩ := placed_cons named
    simp [argumentsNext, signNext, comesNext]

/-- Further segments are read up to where a phrase may end. -/
theorem furtherSegments_plain (grammar : Grammar) {words : List String} {before : Progress source}
    {placed rest : List Placed} (spelled : placed.map (·.token) = furtherPlain words)
    (valid : ∀ word ∈ words, isSegment word = true) (ends : PhraseEnds rest)
    (next : before.rest = placed ++ rest) {bound : Nat} (enough : words.length ≤ bound)
    (form : PathForm) :
    ∃ after form', grammar.furtherSegments false joinNext bound form before = .ok (form', after) ∧
      before.Past after rest (furtherPlain words) := by
  induction words generalizing before placed bound form with
  | nil =>
    obtain rfl := List.map_eq_nil_iff.1 spelled
    refine ⟨before, form, ?_, ⟨next, rfl, rfl⟩⟩
    cases bound with
    | zero => rfl
    | succ bound =>
      have unjoined := signNext_eq_false ends "::" ⟨':', [':'], rfl, by decide⟩
      refine run_bind_eq_ok.2 ⟨before.rest, before, rfl, ?_⟩
      rw [next, List.nil_append, joinNext, unjoined]
      rfl
  | cons word words ih =>
    obtain ⟨first, second, _, rfl, named⟩ := placed_doubleColon spelled
    obtain ⟨span, behind, rfl, later⟩ := placed_cons named
    cases bound with
    | zero => cases enough
    | succ bound =>
      obtain ⟨joined, signed, past⟩ := sign_doubleColon next
      obtain ⟨ended, segmented, past'⟩ := segment_plain grammar past.rest
        (valid word List.mem_cons_self) (argumentsNext_plain later ends)
      obtain ⟨after, form', further, past''⟩ := ih later
        (fun other here => valid other (List.mem_cons_of_mem _ here)) past'.rest
        (Nat.le_of_succ_le_succ enough) (form.join .none)
      refine ⟨after, form', ?_, past.trans (past'.trans past'')⟩
      refine run_bind_eq_ok.2 ⟨before.rest, before, rfl, ?_⟩
      have joins : joinNext before.rest = true := by
        rw [next]
        simp [joinNext, signNext_doubleColon, opens]
      rw [joins, if_pos rfl]
      refine run_bind_eq_ok.2 ⟨(), joined, signed, ?_⟩
      exact run_bind_eq_ok.2 ⟨.none, ended, segmented, further⟩

/-- The double colon before a path, if it has one. -/
theorem optionalSign_root {rooted : Bool} {before : Progress source} {placed rest : List Placed}
    {word : String} {more : List Token} (spelled : placed.map (·.token) =
      (if rooted then doubleColon else []) ++ .identifier word :: more)
    (next : before.rest = placed ++ rest) :
    ∃ after span behind, optionalSign "::" before = .ok (rooted, after) ∧
      before.Past after (⟨.identifier word, span⟩ :: (behind ++ rest))
        (if rooted then doubleColon else []) ∧ behind.map (·.token) = more := by
  cases rooted with
  | true =>
    obtain ⟨first, second, _, rfl, named⟩ := placed_doubleColon spelled
    obtain ⟨span, behind, rfl, later⟩ := placed_cons named
    obtain ⟨after, signed, past⟩ := sign_doubleColon next
    refine ⟨after, span, behind, run_bind_eq_ok.2 ⟨before.rest, before, rfl, ?_⟩, past, later⟩
    have comes : signNext "::" before.rest = true := by rw [next]; exact signNext_doubleColon ..
    rw [if_pos comes]
    exact run_bind_eq_ok.2 ⟨(), after, signed, rfl⟩
  | false =>
    obtain ⟨span, behind, rfl, later⟩ := placed_cons spelled
    refine ⟨before, span, behind, run_bind_eq_ok.2 ⟨before.rest, before, rfl, ?_⟩,
      ⟨next, rfl, rfl⟩, later⟩
    have differs : signNext "::" before.rest = false := by rw [next]; rfl
    rw [if_neg (Bool.eq_false_iff.1 differs)]
    rfl

/-- A plain path is read as it stands, if no more than its segments are needed. -/
theorem path_plain (grammar : Grammar) {rooted : Bool} {first : String} {words : List String}
    {before : Progress source} {placed rest : List Placed}
    (spelled : placed.map (·.token) = plainPath rooted first words)
    (valid : ∀ word ∈ first :: words, isSegment word = true) (ends : PhraseEnds rest)
    (next : before.rest = placed ++ rest) (enough : words.length ≤ grammar.size) :
    ∃ after form, grammar.path false before = .ok (form, after) ∧
      before.Past after rest (plainPath rooted first words) := by
  obtain ⟨begun, span, behind, rooting, past, later⟩ := optionalSign_root spelled next
  obtain ⟨named, segmented, past'⟩ := segment_plain grammar past.rest
    (valid first List.mem_cons_self) (argumentsNext_plain later ends)
  obtain ⟨after, form, further, past''⟩ := furtherSegments_plain grammar later
    (fun other here => valid other (List.mem_cons_of_mem _ here)) ends past'.rest enough
    { PathForm.ofSegment .none with rooted }
  refine ⟨after, form, ?_, past.trans (past'.trans past'')⟩
  refine run_bind_eq_ok.2 ⟨rooted, begun, rooting, ?_⟩
  exact run_bind_eq_ok.2 ⟨.none, named, segmented, further⟩

end Phrase

/-- A plain path is read as it stands wherever a phrase may end behind it. -/
theorem Path.parser_plainPath {rooted : Bool} {first : String} {words : List String}
    {placed rest : List Placed} (spelled : placed.map (·.token) = plainPath rooted first words)
    (valid : ∀ word ∈ first :: words, isSegment word = true) (ends : PhraseEnds rest) :
    Path.parser (placed ++ rest) = .ok (⟨⟨plainPath rooted first words⟩, none⟩, rest) := by
  have enough : words.length ≤ (Phrase.grammarFor (placed ++ rest).length).size := by
    have counted : placed.length = (plainPath rooted first words).length := by
      rw [← spelled, List.length_map]
    -- each further segment takes three tokens, so the number of tokens bounds that of segments
    have further : (furtherPlain words).length = 3 * words.length := by
      simp [furtherPlain, doubleColon, Nat.mul_comm]
    show words.length ≤ (placed ++ rest).length
    rw [List.length_append, counted, plainPath, List.length_append, List.length_cons, further]
    omega
  have start : (Phrase.Progress.start (placed ++ rest)).rest = placed ++ rest := rfl
  obtain ⟨after, form, read, past⟩ := Phrase.path_plain _ spelled valid ends start enough
  rw [parser_eq, Phrase.run, read]
  simp [past.rest, past.written, past.leftover, Phrase.Progress.start]

end StatSchema
