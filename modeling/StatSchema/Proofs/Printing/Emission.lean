/-
Source text is the artifact and nothing else. What is printed is cut into lines, but is read back as the
tokens of the artifact, behind a heading that is one comment as long as the origin that it names holds no
line break. An origin with a line break puts what is behind the break among the code. Main statement:
`source_lexes_to_artifact`.
-/
import StatSchema.Proofs.Configuration.Writing
import StatSchema.Proofs.Printing.Artifacts
import StatSchema.Source

namespace StatSchema

open Token

/-! ## Texts and their tokens -/

/-- A text that is read as some tokens. -/
def LexesTo (text : String) (tokens : List Token) : Prop :=
  ∃ placed, Token.read text = some placed ∧ placed.map (·.token) = tokens

namespace Token

/-- No code begins with a byte order mark. -/
theorem lexed_marked (rest : List Char) : lexed ('\uFEFF' :: rest) = none := by
  have code : opensComment ('\uFEFF' :: rest) = false := opensComment_cons (by decide) rest
  have bare : spaceLength ('\uFEFF' :: rest) = 0 := by
    rw [spaceLength, plainComment_eq_none code]
    rfl
  have unread : leaf ('\uFEFF' :: rest) = none := by
    have noIdentifier : opensIdentifier '\uFEFF' = false := by decide +kernel
    have noLiteral : opensLiteral ('\uFEFF' :: rest) = false := by
      rw [opensLiteral_eq]
      simp [literalMarks, List.isPrefixOf]
    have length : anyIdentifierLength ('\uFEFF' :: rest) = none := by
      simp [anyIdentifierLength, identifierLength, noIdentifier]
    have noMark : opensPunctuation ('\uFEFF' :: rest) = false := by
      show isPunctuation '\uFEFF' = false
      decide
    rw [leaf_cons (.inl (by decide)), delimiterOf_eq_none (by decide),
      literalLength_eq_none (by decide)]
    dsimp only
    rw [if_neg (by decide), noMark, if_neg Bool.false_ne_true, noLiteral,
      if_neg Bool.false_ne_true, length]
    rfl
  rw [lexed_eq, bare, List.drop_zero]
  dsimp only
  rw [lexeme, docComment_eq_none code]
  dsimp only
  rw [unread]
  rfl

end Token

/-- A text is read as the tokens that it is cut into, if their brackets are closed. -/
theorem lexesTo_of_lexed {text : String} {tokens : List Token}
    (cut : lexed text.toList = some tokens) (closed : balanced [] tokens = true) :
    LexesTo text tokens := by
  have unmarked : ∀ rest, text.toList ≠ '\uFEFF' :: rest := by
    intro rest marked
    rw [marked, lexed_marked] at cut
    cases cut
  obtain ⟨all, whole, rfl⟩ := Option.map_eq_some_iff.1 cut
  unfold LexesTo Token.read
  split
  rename_i position chars source
  split at source
  · rename_i rest marked
    exact absurd marked (unmarked rest)
  · cases source
    rw [whole]
    dsimp only
    rw [tokens_place, if_pos closed]
    exact ⟨_, rfl, tokens_place _ _⟩

/-- What a text is read as is what it is cut into. -/
theorem LexesTo.eq_of_lexed {text : String} {tokens others : List Token}
    (read : LexesTo text tokens) (cut : lexed text.toList = some others) : tokens = others := by
  obtain ⟨placed, read, rfl⟩ := read
  obtain ⟨all, whole, same⟩ := Identifier.lexemes_of_read read
  have unmarked : Identifier.unmarked text = text.toList := by
    refine Identifier.unmarked_of_unmarked fun rest marked => ?_
    rw [marked, lexed_marked] at cut
    cases cut
  rw [unmarked] at whole
  rw [lexed, whole, Option.map_some, Option.some.injEq] at cut
  rw [same, cut]

/-- A text that stands for some tokens before any other text. -/
def Prints (text : List Char) (tokens : List Token) : Prop :=
  ∀ behind, lexed (text ++ behind) = (lexed behind).map (tokens ++ ·)

namespace Prints

variable {text more : List Char} {tokens others : List Token}

theorem nil : Prints [] [] := fun behind => by simp

theorem append (first : Prints text tokens) (second : Prints more others) :
    Prints (text ++ more) (tokens ++ others) := by
  intro behind
  rw [List.append_assoc, first, second, Option.map_map]
  simp [Function.comp_def]

theorem lexed_eq (prints : Prints text tokens) : lexed text = some tokens := by
  have whole := prints []
  rwa [List.append_nil, lexed_nil, Option.map_some, List.append_nil] at whole

theorem flatMap {α : Type} {values : List α} {text : α → List Char} {tokens : α → List Token}
    (each : ∀ value ∈ values, Prints (text value) (tokens value)) :
    Prints (values.flatMap text) (values.flatMap tokens) := by
  induction values with
  | nil => exact nil
  | cons value rest ih =>
    rw [List.forall_mem_cons] at each
    exact each.1.append (ih each.2)

theorem lineBreak : Prints ['\n'] [] := by
  intro behind
  rw [List.singleton_append, lexed_space (by decide) (by decide)]
  simp

end Prints

/-! ## Lines of source text -/

/-- Code on a line of its own. -/
theorem Token.ReadsBack.prints {tokens : List Token} (reads : ReadsBack tokens) :
    Prints ((print tokens).toList ++ ['\n']) tokens := by
  intro behind
  have separated : Separated ('\n' :: behind) := separated_cons behind (by decide)
  rw [List.append_assoc, List.singleton_append, lexed_print reads.lexable reads.chain separated,
    lexed_space (by decide) (by decide)]

theorem Item.prints {item : Item} (reads : ReadsBack item.tokens) :
    Prints item.source.toList item.tokens := by
  have lines : item.source.toList = (print item.tokens).toList ++ ['\n'] ++ ['\n'] := by
    simp [Item.source, line, String.toList_append]
  rw [lines]
  simpa using reads.prints.append .lineBreak

/-- The line that opens a module. -/
theorem prints_opening {tokens : List Token} (reads : ReadsBack tokens) :
    Prints (line (print tokens ++ " \x7b")).toList (tokens ++ [.opening .brace]) := by
  intro behind
  have chars : (line (print tokens ++ " \x7b")).toList ++ behind =
      (print tokens).toList ++ (' ' :: ((Token.opening .brace).text.toList ++ '\n' :: behind)) := by
    simp [line, String.toList_append, Token.text]
  have separated : Separated (' ' :: ((Token.opening .brace).text.toList ++ '\n' :: behind)) :=
    separated_cons _ (by decide)
  have lexable : Lexable (.opening .brace) := trivial
  have admits : Admits (.opening .brace) ('\n' :: behind) := opensComment_cons (by decide) behind
  rw [chars, lexed_print reads.lexable reads.chain separated, lexed_space (by decide) (by decide),
    lexed_token lexable admits, lexed_space (by decide) (by decide), Option.map_map]
  simp [Function.comp_def]

/-- The line that closes a module. -/
theorem prints_closing : Prints (line "\x7d").toList [.closing .brace] := by
  intro behind
  have chars : (line "\x7d").toList ++ behind =
      (Token.closing .brace).text.toList ++ ('\n' :: behind) := by
    simp [line, Token.text]
  have lexable : Lexable (.closing .brace) := trivial
  have admits : Admits (.closing .brace) ('\n' :: behind) := separated_cons behind (by decide)
  rw [chars, lexed_token lexable admits, lexed_space (by decide) (by decide)]
  rfl

namespace Artifact

/-- The text of an artifact stands for its tokens, in lines. -/
theorem Readable.prints {artifact : Artifact} (readable : artifact.Readable) :
    Prints artifact.source.toList artifact.tokens := by
  have items : Prints (String.join (artifact.items.map Item.source)).toList
      (artifact.items.flatMap Item.tokens) := by
    rw [String.toList_join, List.flatMap_map]
    exact .flatMap fun item here => Item.prints (readable.items item here)
  unfold source tokens
  cases enclosed : artifact.enclosure with
  | none => exact items
  | some enclosure =>
    have marks : Prints (String.join (enclosure.attributes.map fun mark =>
        line (print mark.tokens))).toList (attributeTokens enclosure.attributes) := by
      rw [String.toList_join, List.flatMap_map]
      refine .flatMap fun mark here => ?_
      have own : (line (print mark.tokens)).toList = (print mark.tokens).toList ++ ['\n'] := by
        simp [line, String.toList_append]
      rw [own]
      exact (readable.attributes enclosure enclosed mark here).prints
    have opening : ReadsBack enclosure.opening :=
      .append (.fixed rfl) (.name (readable.name enclosure enclosed))
    have whole := ((marks.append (prints_opening opening)).append items).append prints_closing
    simpa [String.toList_append, braces] using whole

/-- Every bracket of a readable artifact is closed by its own kind. -/
theorem Readable.balanced {artifact : Artifact} (readable : artifact.Readable) :
    balanced [] artifact.tokens = true := by
  have items : ReadsBack (artifact.items.flatMap Item.tokens) := .flatMap readable.items
  have closed : Phrase.Closed artifact.tokens := by
    unfold tokens
    cases enclosed : artifact.enclosure with
    | none => exact items.closed
    | some enclosure =>
      have marks : ReadsBack (attributeTokens enclosure.attributes) :=
        .flatMap (readable.attributes enclosure enclosed)
      have opening : ReadsBack enclosure.opening :=
        .append (.fixed rfl) (.name (readable.name enclosure enclosed))
      exact ((marks.append opening).append items.braces).closed
  have whole := closed [] []
  rwa [List.append_nil] at whole

end Artifact

/-! ## Headings -/

section Headings

variable {front rest : List Char}

/-- A line comment ends where its line does. -/
theorem plainComment_line (unbroken : '\n' ∉ front) :
    plainComment ('/' :: '/' :: ' ' :: (front ++ '\n' :: rest)) = some (front.length + 3) := by
  have line : lineLength (' ' :: (front ++ '\n' :: rest)) = front.length + 1 := by
    have inside : ∀ c ∈ front, decide (c ≠ '\n') = true := by
      intro c here
      exact decide_eq_true fun same => unbroken (same ▸ here)
    rw [lineLength, List.takeWhile_cons_of_pos (by decide), List.takeWhile_append_of_pos inside]
    simp
  have plain : isLineDoc (' ' :: (front ++ '\n' :: rest)) = false := rfl
  rw [plainComment, plain, if_neg Bool.false_ne_true, line]

/-- What stands behind a comment decides the tokens of a text. -/
theorem lexed_comment (unbroken : '\n' ∉ front) :
    lexed ('/' :: '/' :: ' ' :: (front ++ '\n' :: rest)) = lexed rest := by
  rw [← lexed_space (c := '\n') (by decide) (by decide) rest]
  have behind : ('/' :: ' ' :: (front ++ '\n' :: rest)).drop (front.length + 2) = '\n' :: rest := by
    simp
  refine lexed_congr ?_
  rw [spaceLength, plainComment_line unbroken]
  dsimp only
  rw [behind, ← List.drop_drop, List.drop_succ_cons, behind]

end Headings

/-! ## Source text -/

theorem readsBack_of_means {written : Toml.Value} {path : Path}
    (means : Configuration.MeansPath written path) : ReadsBack path.tokens := by
  obtain ⟨text, -, read⟩ := means
  exact Path.settled_of_read read

/-- The paths of a configuration that was read are read back. -/
theorem Configuration.readsBack_paths {text : String} {configuration : Configuration}
    (h : Configuration.read text = .ok configuration) :
    ReadsBack configuration.naming.runtime.tokens ∧
      ∀ override ∈ configuration.overrides, ReadsBack override.target.tokens := by
  obtain ⟨document, -, describes⟩ := read_eq_ok.1 h
  constructor
  · have standing : ReadsBack ({} : Naming).runtime.tokens := .fixed rfl
    have naming := describes.naming
    unfold Says at naming
    split at naming
    · obtain ⟨table, -, names⟩ := naming
      have runtime := names.runtime
      unfold Says at runtime
      split at runtime
      · exact readsBack_of_means runtime
      · rw [runtime]
        exact standing
    · rw [(Prod.mk.inj naming).1]
      exact standing
  · have overrides := describes.overrides
    unfold Says at overrides
    split at overrides
    · obtain ⟨table, -, entries⟩ := overrides
      intro override here
      obtain ⟨entry, -, -, means⟩ := exists_mem_of_forall₂ entries override here
      exact readsBack_of_means means
    · rw [overrides]
      exact List.forall_mem_nil _

/-- The characters of a source text. -/
theorem toList_source (origin code : String) :
    (heading origin ++ code).toList = '/' :: '/' :: ' ' ::
      ("@generated by tallies_gen from ".toList ++ origin.toList ++
        ". Do not edit by hand.".toList ++ '\n' :: '\n' :: code.toList) := by
  have lead : "// @generated by tallies_gen from ".toList =
      '/' :: '/' :: ' ' :: "@generated by tallies_gen from ".toList := by decide +kernel
  simp only [heading, line, String.toList_append, lead]
  simp

/-- Source text is a heading, an empty line and the code of the artifact that the configuration leads
to, which is read as the tokens of the artifact. While the origin holds no line break, the heading is one
comment, as long as its line, and the whole text is read as the tokens of the artifact, too. What an
origin holds behind a line break, with the end of the heading, is read as code before them. -/
theorem source_lexes_to_artifact {text origin source : String} (h : sourceOf text origin = .ok source) :
    ∃ configuration artifact code,
      Configuration.read text = .ok configuration ∧ configuration.artifact = .ok artifact ∧
      source = "// @generated by tallies_gen from " ++ origin ++ ". Do not edit by hand." ++ "\n\n" ++
        code ∧
      LexesTo code artifact.tokens ∧
      ('\n' ∉ origin.toList → LexesTo source artifact.tokens ∧
        plainComment source.toList = some ("// @generated by tallies_gen from " ++ origin ++
          ". Do not edit by hand.").length) ∧
      ∀ front rest stray, origin.toList = front ++ '\n' :: rest → '\n' ∉ front →
        Prints (rest ++ ". Do not edit by hand.".toList ++ ['\n']) stray →
        lexed source.toList = some (stray ++ artifact.tokens) := by
  unfold sourceOf at h
  split at h
  swap
  · cases h
  rename_i configuration described
  unfold Configuration.source at h
  split at h
  · cases h
  rename_i artifact generated
  split_ifs at h
  cases h
  obtain ⟨path, paths⟩ := Configuration.readsBack_paths described
  have readable := Artifact.readsBack_generate path paths generated
  have code := readable.prints.lexed_eq
  have lead : '\n' ∉ "@generated by tallies_gen from ".toList := by decide +kernel
  have tail : '\n' ∉ ". Do not edit by hand.".toList := by decide +kernel
  refine ⟨configuration, artifact, artifact.source, described, generated, ?_,
    lexesTo_of_lexed code readable.balanced, ?_, ?_⟩
  · simp [heading, line, String.append_assoc]
  · -- the heading holds no line break of its own, so its comment ends where its line does
    intro unbroken
    have whole : '\n' ∉ "@generated by tallies_gen from ".toList ++ origin.toList ++
        ". Do not edit by hand.".toList := by
      simp only [List.mem_append, not_or]
      exact ⟨⟨lead, unbroken⟩, tail⟩
    refine ⟨lexesTo_of_lexed ?_ readable.balanced, ?_⟩
    · rw [toList_source, lexed_comment whole, lexed_space (by decide) (by decide), code]
    · rw [toList_source, plainComment_line whole]
      have lead : "// @generated by tallies_gen from ".length =
          "@generated by tallies_gen from ".length + 3 := by decide +kernel
      simp only [String.length_append, lead, List.length_append, String.length_toList,
        Option.some.injEq]
      omega
  · -- the comment ends at the first line break of the origin, and the end of the heading is code
    intro front rest stray broken unbroken prints
    have whole : '\n' ∉ "@generated by tallies_gen from ".toList ++ front := by
      rw [List.mem_append, not_or]
      exact ⟨lead, unbroken⟩
    have chars : (heading origin ++ artifact.source).toList = '/' :: '/' :: ' ' ::
        ("@generated by tallies_gen from ".toList ++ front ++ '\n' ::
          (rest ++ ". Do not edit by hand.".toList ++ ['\n'] ++ '\n' :: artifact.source.toList)) := by
      rw [toList_source, broken]
      simp only [List.append_assoc, List.cons_append, List.nil_append]
    rw [chars, lexed_comment whole, prints, lexed_space (by decide) (by decide), code]
    rfl

/-- A document without metrics, whose artifact stands in a module. -/
def enclosed : String := "naming.module=\"m\""

/-- An origin that goes on in another line, where a comment hides the rest of the heading, puts a word
before the artifact. -/
theorem origin_leaks_into_code :
    ∃ source configuration artifact, sourceOf enclosed "x\ny // " = .ok source ∧
      Configuration.read enclosed = .ok configuration ∧ configuration.artifact = .ok artifact ∧
      lexed source.toList = some (.identifier "y" :: artifact.tokens) ∧
      ¬ LexesTo source artifact.tokens := by
  have succeeds : (sourceOf enclosed "x\ny // ").isOk = true := by decide +kernel
  obtain ⟨source, made⟩ := exists_of_isOk succeeds
  obtain ⟨configuration, artifact, code, described, generated, -, read, -, leaks⟩ :=
    source_lexes_to_artifact made
  -- the second comment hides the end of the heading, up to its own line break
  have prints : Prints (['y', ' ', '/', '/', ' '] ++ ". Do not edit by hand.".toList ++ ['\n'])
      [.identifier "y"] := by
    intro behind
    have word : Lexable (.identifier "y") := Word.plain (by decide)
    have tail : '\n' ∉ ". Do not edit by hand.".toList := by decide +kernel
    have chars : ['y', ' ', '/', '/', ' '] ++ ". Do not edit by hand.".toList ++ ['\n'] ++ behind =
        (Token.identifier "y").text.toList ++
          (' ' :: '/' :: '/' :: ' ' :: (". Do not edit by hand.".toList ++ '\n' :: behind)) := by
      simp [Token.text]
    rw [chars, lexed_token word (separated_cons _ (by decide)), lexed_space (by decide) (by decide),
      lexed_comment tail]
    rfl
  have stray := leaks ['x'] ['y', ' ', '/', '/', ' '] _ (by decide +kernel) (by decide) prints
  refine ⟨source, configuration, artifact, made, described, generated, stray, fun whole => ?_⟩
  have lengths := congrArg List.length (whole.eq_of_lexed stray)
  simp at lengths

end StatSchema
