/-
Code that is read back from what it is printed as, whatever is printed around it. Fixed code is checked
as it stands; identifiers that were read from texts, string literals and lines of documentation are read
back; and so is whatever is put together from such code, in groups or one after the other. Main
statement: `Token.ReadsBack.fixed`.
-/
import StatSchema.Item
import StatSchema.Proofs.Printing.Constructs
import StatSchema.Proofs.Schema.Entries

namespace StatSchema

open Token

namespace Token

/-! ## Fixed code -/

/-- Tokens that are read back from what they are printed as, whatever is printed around them. -/
def ReadsBack (tokens : List Token) : Prop := Phrase.Settled none tokens

/-- Whether a token is read back from its own text, raw identifiers and failed literals aside. -/
def isLexable : Token → Bool
  | .identifier name => isPlain name.toList
  | .punctuation symbol spacing => isPunctuation symbol && (symbol ≠ '\'' || spacing = .joint)
  | .literal text => literalLength text.toList = some text.toList.length && text.toList ≠ []
  | .opening _ => true
  | .closing _ => true

/-- Whether tokens are read back, raw identifiers and failed literals aside. -/
def readsBack (tokens : List Token) : Bool :=
  balanced [] tokens && chained none tokens && tokens.all isLexable

theorem lexable_of_isLexable {token : Token} (lexable : isLexable token = true) : Lexable token := by
  cases token with
  | identifier name => exact .plain lexable
  | punctuation symbol spacing =>
    simp only [isLexable, Bool.and_eq_true, Bool.or_eq_true, decide_eq_true_eq] at lexable
    exact ⟨lexable.1, fun same => lexable.2.resolve_left (not_not_intro same)⟩
  | literal text =>
    simp only [isLexable, Bool.and_eq_true, decide_eq_true_eq] at lexable
    exact ⟨.inr lexable.1, lexable.2⟩
  | opening _ => trivial
  | closing _ => trivial

/-- Tokens that close what is open inside leave open what is open around it. -/
theorem balanced_append {inside : List Delimiter} {tokens : List Token}
    (closed : balanced inside tokens = true) (opened : List Delimiter) (more : List Token) :
    balanced (inside ++ opened) (tokens ++ more) = balanced opened more := by
  induction tokens generalizing inside with
  | nil =>
    obtain rfl := List.isEmpty_iff.1 closed
    rfl
  | cons token rest ih =>
    cases token with
    | opening d => exact @ih (d :: inside) closed
    | closing d =>
      cases inside with
      | nil => cases closed
      | cons e outer =>
        obtain ⟨same, closed⟩ := Bool.and_eq_true_iff.1 closed
        show (decide (d = e) && balanced (outer ++ opened) (rest ++ more)) = _
        rw [same, ih closed, Bool.true_and]
    | _ => exact ih closed

namespace ReadsBack

variable {front back : List Token} {token : Token}

theorem fixed (checked : readsBack front = true) : ReadsBack front := by
  simp only [readsBack, Bool.and_eq_true] at checked
  obtain ⟨⟨closed, chain⟩, lexable⟩ := checked
  exact ⟨fun opened more => balanced_append closed opened more,
    fun token here => lexable_of_isLexable (List.all_eq_true.1 lexable token here), chain⟩

/-! ## Composed code -/

theorem nil : ReadsBack [] := Phrase.Settled.nil none

theorem append (first : ReadsBack front) (second : ReadsBack back) : ReadsBack (front ++ back) :=
  Phrase.Settled.append (first.of_none _) second

theorem cons (first : ReadsBack [token]) (second : ReadsBack back) : ReadsBack (token :: back) :=
  append first second

theorem group (delimiter : Delimiter) (inside : ReadsBack front) :
    ReadsBack (.opening delimiter :: (front ++ [.closing delimiter])) :=
  Phrase.Settled.group delimiter (inside.of_none _)

theorem parens (inside : ReadsBack front) : ReadsBack (Token.parens front) := group _ inside

theorem brackets (inside : ReadsBack front) : ReadsBack (Token.brackets front) := group _ inside

theorem braces (inside : ReadsBack front) : ReadsBack (Token.braces front) := group _ inside

theorem name {identifier : String} (word : Word identifier.toList) :
    ReadsBack [.identifier identifier] :=
  ⟨.identifier identifier, List.forall_mem_singleton.2 word, rfl⟩

theorem string (text : String) : ReadsBack [.string text] :=
  ⟨.literal _, List.forall_mem_singleton.2 (lexable_string text), rfl⟩

theorem flatMap {α : Type} {l : List α} {f : α → List Token} (each : ∀ a ∈ l, ReadsBack (f a)) :
    ReadsBack (l.flatMap f) := by
  induction l with
  | nil => exact nil
  | cons a rest ih =>
    rw [List.forall_mem_cons] at each
    exact each.1.append (ih each.2)

end ReadsBack

end Token

/-- What a text spells is a word. -/
theorem Identifier.word_of_read {text identifier : String}
    (spelled : Identifier.read text = .plain identifier) : Word identifier.toList := by
  unfold Identifier.read at spelled
  split at spelled
  · rename_i name span read
    split_ifs at spelled
    cases spelled
    exact (Phrase.legible_of_read read).lexable _ List.mem_cons_self
  · cases spelled

theorem word_of_identifierOf {text identifier : String}
    (spelled : identifierOf text = .ok identifier) : Word identifier.toList :=
  Identifier.word_of_read (identifierOf_eq_ok.1 spelled)

/-! ## Lines of documentation -/

namespace Token

theorem rawText_comment {line : List Char} (plain : ∀ c ∈ line, c ≠ '"' ∧ c ≠ '\r') :
    rawText .text 0 (line ++ ['"']) = some (line.length + 1) := by
  induction line with
  | nil => rfl
  | cons c rest ih =>
    obtain ⟨⟨noQuote, unbroken⟩, others⟩ := List.forall_mem_cons.1 plain
    rw [List.cons_append, rawText_eq unbroken]
    simp [noQuote, unbroken, Quotation.admits, ih others]

/-- A raw text without quotes and carriage returns ends where it is closed. -/
theorem literalLength_comment {line : List Char} (plain : ∀ c ∈ line, c ≠ '"' ∧ c ≠ '\r') :
    literalLength ('r' :: '"' :: (line ++ ['"'])) = some (line.length + 3) := by
  have raw : stringLength ('r' :: '"' :: (line ++ ['"'])) = some (line.length + 3) := by
    have marked := rawLength_pounds .text 0 (line ++ ['"'])
    rw [List.replicate_zero, List.nil_append, if_pos (Nat.zero_le _), rawText_comment plain] at marked
    show (rawLength .text ('"' :: (line ++ ['"']))).map (· + 1) = _
    rw [marked]
    rfl
  rw [literalLength_other (by simp) (by simp), suffixed, raw]
  simp [identifierLength]

end Token

/-! ## Attributes -/

namespace Attribute

theorem readsBack {mark : Attribute} (content : ReadsBack mark.content) : ReadsBack mark.tokens :=
  .cons (.fixed rfl) content.brackets

/-- A line of documentation is read back if it holds no quote and no carriage return. -/
theorem readsBack_comment {line : String}
    (plain : (line.toList.all fun c => c ≠ '"' && c ≠ '\r') = true) :
    ReadsBack (comment line).content := by
  have raw : ("r\"" ++ line ++ "\"").toList = 'r' :: '"' :: (line.toList ++ ['"']) := by
    simp [String.toList_append]
  have measured : literalLength ('r' :: '"' :: (line.toList ++ ['"'])) = _ :=
    literalLength_comment (by simpa using plain)
  have literal : ReadsBack [.literal ("r\"" ++ line ++ "\"")] := by
    refine ⟨.literal _, List.forall_mem_singleton.2 ⟨.inr ?_, ?_⟩, rfl⟩
    · rw [raw, measured]
      simp
    · rw [raw]
      simp
  exact .append (.fixed rfl) literal

theorem readsBack_doc (text : String) : ReadsBack (doc text).content :=
  .append (.fixed rfl) (.string text)

theorem readsBack_feature (name : String) (on : Bool) : ReadsBack (feature name on).content := by
  have condition : ReadsBack (Token.code "feature =" ++ [.string name]) := .append (.fixed rfl) (.string name)
  cases on with
  | true => exact .cons (.fixed rfl) condition.parens
  | false => exact .cons (.fixed rfl) (ReadsBack.cons (.fixed rfl) condition.parens).parens

end Attribute

theorem readsBack_attributes {mark : Attribute} {attributes : List Attribute}
    (content : ReadsBack mark.content) (others : ReadsBack (attributeTokens attributes)) :
    ReadsBack (attributeTokens (mark :: attributes)) :=
  (Attribute.readsBack content).append others

/-- Attributes after a line of documentation that is fixed. -/
theorem readsBack_commented {line : String} {others : List Attribute}
    (plain : (line.toList.all fun c => c ≠ '"' && c ≠ '\r') = true)
    (rest : ReadsBack (attributeTokens others)) :
    ReadsBack (attributeTokens (.comment line :: others)) :=
  readsBack_attributes (Attribute.readsBack_comment plain) rest

/-- Attributes after documentation that names something. -/
theorem readsBack_documented (text : String) {others : List Attribute}
    (rest : ReadsBack (attributeTokens others)) :
    ReadsBack (attributeTokens (.doc text :: others)) :=
  readsBack_attributes (Attribute.readsBack_doc text) rest

/-! ## Items -/

/-- A function is read back if its parts are. -/
theorem Routine.readsBack {attributes : List Attribute}
    {qualifiers generics parameters result body : List Token} {name : String}
    (marks : ReadsBack (attributeTokens attributes)) (opening : ReadsBack qualifiers)
    (word : Word name.toList) (types : ReadsBack generics) (arguments : ReadsBack parameters)
    (returned : ReadsBack result) (inside : ReadsBack body) :
    ReadsBack (Routine.tokens ⟨attributes, qualifiers, name, generics, parameters, result, body⟩) :=
  have head := (marks.append opening).append (.cons (.name word) types)
  ((head.append arguments.parens).append returned).append inside.braces

namespace Item

variable {attributes : List Attribute}

theorem readsBack_structure {name : String} {fields : List Field}
    (marks : ReadsBack (attributeTokens attributes)) (word : Word name.toList)
    (inside : ∀ field ∈ fields, Word field.name.toList ∧ ReadsBack field.type) :
    ReadsBack (Item.structure attributes name fields).tokens := by
  refine (marks.append (.fixed rfl)).append (.cons (.name word) (ReadsBack.flatMap ?_).braces)
  intro field here
  obtain ⟨word, type⟩ := inside field here
  exact .append (.cons (.name word) (.cons (.fixed rfl) type)) (.fixed rfl)

theorem readsBack_implementation {interface : List Token} {target : String} {methods : List Routine}
    (marks : ReadsBack (attributeTokens attributes)) (trait : ReadsBack interface)
    (word : Word target.toList) (inside : ∀ method ∈ methods, ReadsBack method.tokens) :
    ReadsBack (implementation attributes interface target methods).tokens :=
  (marks.append (.cons (.fixed rfl) trait)).append (.cons (.name word) (ReadsBack.flatMap inside).braces)

end Item

end StatSchema
