/-
Readers of attributes and of generic arguments are faithful if those of the constructs inside are.
Arguments are written in another order than they are read in: each of them is read back before a comma,
and a lifetime before anything, which is enough for any order of them.
-/
import StatSchema.Phrase.Path
import StatSchema.Proofs.Printing.Readers

namespace StatSchema.Phrase

open Token Lookahead

variable {source : List Placed}

/-! ## Words that come next -/

theorem anyIdentifierNext_of_word {word : String} {tokens : List Placed}
    (next : wordComesNext word tokens = true) : anyIdentifierNext tokens = true := by
  unfold wordComesNext at next
  split at next
  · rfl
  · cases next

theorem anyIdentifierNext_of_words {words : List String} {tokens : List Placed}
    (next : anyWordNext words tokens = true) : anyIdentifierNext tokens = true := by
  unfold anyWordNext at next
  split at next
  · rfl
  · cases next

theorem anyIdentifierNext_of_segment {tokens : List Placed} (next : segmentNext tokens = true) :
    anyIdentifierNext tokens = true := by
  rcases Bool.or_eq_true_iff.1 next with name | word
  · unfold identifierNext at name
    split at name
    · rfl
    · cases name
  · exact anyIdentifierNext_of_words word

theorem word_eq_ok {text : String} {before after : Progress source} {answer : Unit}
    (run : word text before = .ok (answer, after)) : wordComesNext text before.rest = true := by
  unfold word at run
  rw [rest_bind] at run
  split_ifs at run with next
  · exact next
  · cases run

/-! ## Tokens that nothing need follow -/

theorem past_zero (tokens : List Placed) : Lookahead.past 0 tokens = tokens := by
  cases tokens with
  | nil => rfl
  | cons next rest =>
    obtain ⟨token, span⟩ := next
    cases token <;> rfl

theorem copy_eq_ok {before after : Progress source} {answer : Unit} {placed : Placed} {more : List Placed}
    (run : copy before = .ok (answer, after)) (same : before.rest = placed :: more)
    (left : Lookahead.past 1 (placed :: more) = more) :
    after.rest = more ∧ after.written = placed.token :: before.written ∧
      after.leftover = before.leftover := by
  cases run
  have read : between before.rest (Lookahead.past 1 before.rest) = [placed] := by
    rw [same, left]
    simp [between]
  refine ⟨by rw [← left, ← same], ?_, rfl⟩
  show ((between before.rest (Lookahead.past 1 before.rest)).map (·.token)).reverse ++ _ = _
  rw [read]
  rfl

/-- From a place on, a reader writes something that nothing need follow. -/
def FirmAt {α : Type} (before : Progress source) (reader : Reader source α) : Prop :=
  ∀ (answer : α) (after : Progress source), reader before = .ok (answer, after) →
    after.leftover = none → ∃ new, Advances before after new ∧ new ≠ [] ∧ chained none new = true

namespace FirmAt

variable {α β : Type} {before : Progress source}

theorem of_error {reader : Reader source α} {error : SyntaxError} (fails : reader before = .error error) :
    FirmAt before reader := fun _ _ run => by
  rw [fails] at run
  cases run

theorem rest_bind {next : List Placed → Reader source β} (later : FirmAt before (next before.rest)) :
    FirmAt before (rest >>= next) :=
  later

theorem copy (legible : Legible source) (next : anyIdentifierNext before.rest = true) :
    FirmAt before copy := by
  intro answer after run settled
  obtain ⟨name, span, more, same⟩ := exists_of_anyIdentifierNext next
  obtain ⟨new, advances⟩ := Faithful.faithful legible before _ _ run settled
  obtain ⟨-, written, -⟩ := copy_eq_ok run same (past_zero more)
  have single : new = [.identifier name] := by
    have written' : new.reverse ++ before.written = [.identifier name] ++ before.written := by
      rw [← advances.written, written]
      rfl
    rw [← List.reverse_reverse new, List.append_cancel_right written']
    rfl
  subst single
  exact ⟨_, advances, by simp, rfl⟩

theorem identifier (legible : Legible source) : FirmAt before identifier := by
  refine rest_bind ?_
  split
  · rename_i same
    split_ifs
    · exact of_error rfl
    · exact copy legible (by rw [same]; rfl)
  · exact of_error rfl

theorem lifetime (legible : Legible source) : FirmAt before lifetime := by
  refine rest_bind ?_
  split_ifs with next
  · intro answer after run settled
    unfold lifetimeNext at next
    split at next
    · rename_i mark name place more same
      obtain ⟨new, advances⟩ := Faithful.faithful legible before _ _ run settled
      obtain ⟨_, middle, first, second⟩ := run_bind_eq_ok.1 run
      obtain ⟨same', written, -⟩ := copy_eq_ok first same (past_zero _)
      obtain ⟨-, written', -⟩ := copy_eq_ok second same' (past_zero _)
      have pair : new = [.punctuation '\'' .joint, .identifier name] := by
        have written : new.reverse ++ before.written =
            [.identifier name, .punctuation '\'' .joint] ++ before.written := by
          rw [← advances.written, written', written]
          rfl
        rw [← List.reverse_reverse new, List.append_cancel_right written]
        rfl
      subst pair
      refine ⟨_, advances, by simp, ?_⟩
      have word : Word name.toList := advances.renders.settled.lexable (.identifier name) (by simp)
      simp [chained, coupled, glues, Token.text, isLifetime_word word]
    · cases next
  · exact of_error rfl

end FirmAt

namespace Grammar

/-- A grammar all of whose readers are faithful. -/
class Sound (grammar : Grammar) : Prop where
  type : ∀ sums source, Faithful source (grammar.type sums)
  bound : ∀ captures constants source, Faithful source (grammar.bound captures constants)
  operand : ∀ structures source, Faithful source (grammar.operand structures)
  operations : ∀ structures least form source, Faithful source (grammar.operations structures least form)
  early : ∀ source, Faithful source grammar.early
  pattern : ∀ source, Faithful source grammar.pattern
  statements : ∀ source, Faithful source grammar.statements

attribute [instance] Sound.type Sound.bound Sound.operand Sound.operations Sound.early Sound.pattern
  Sound.statements

variable (grammar : Grammar) [sound : grammar.Sound]

/-! ## Lists and attributes -/

instance (structures : Bool) : Faithful source (grammar.expressionIn structures) := by
  dsimp only [expressionIn]
  infer_instance

instance : Faithful source grammar.expression := by
  dsimp only [expression]
  infer_instance

instance : Faithful source grammar.anyType := by
  dsimp only [anyType]
  infer_instance

omit sound in
instance (entry : Phrase Unit) [Faithful source entry] : Faithful source (grammar.list entry) := by
  dsimp only [list]
  infer_instance

omit sound in
instance (step : Phrase Bool) [Faithful source step] : Faithful source (grammar.repeated step) := by
  dsimp only [repeated]
  infer_instance

instance (ends : List Placed → Bool) : Faithful source (grammar.bounds ends) := by
  dsimp only [bounds]
  infer_instance

set_option synthInstance.maxSize 400 in
instance : Faithful source grammar.plainSegments := by
  dsimp only [plainSegments]
  infer_instance

instance : Faithful source grammar.plainPath := by
  dsimp only [plainPath]
  infer_instance

set_option synthInstance.maxSize 400 in
instance : Faithful source grammar.attributeContent := by
  dsimp only [attributeContent]
  infer_instance

set_option synthInstance.maxSize 400 in
instance : Faithful source grammar.attributes := by
  dsimp only [attributes]
  infer_instance

set_option synthInstance.maxSize 400 in
instance : Faithful source grammar.innerAttributes := by
  dsimp only [innerAttributes]
  infer_instance

instance : Faithful source grammar.attributedBlock := by
  dsimp only [attributedBlock]
  infer_instance

instance : Faithful source grammar.block := by
  dsimp only [block]
  infer_instance

end Grammar

/-! ## Generic arguments -/

/-- An argument that is read back before a comma, and before anything if it is a lifetime. -/
structure Argument.Settled (argument : Argument) : Prop where
  settled : Phrase.Settled (some comma) argument.tokens
  lifetime : argument.isLifetime = true → chained none argument.tokens = true

theorem settled_comma (next : Option Token) : Settled next [comma] where
  closed := .punctuation _ _
  lexable := List.forall_mem_singleton.2 (lexable_mark (by decide) (by decide))
  chain := rfl

/-- A closing angle bracket is glued to what a comma is glued to. -/
theorem coupled_comma {symbol : Char} (spacing : Spacing) (same : symbol ∈ [',', '>']) (token : Token) :
    coupled (some (.punctuation symbol spacing)) token = coupled (some comma) token := by
  unfold coupled
  split
  · rename_i mark
    have apart : ∀ symbol ∈ [',', '>'], isLifetime [symbol] = false ∧ isPunctuation symbol = true ∧
      symbol ≠ '/' ∧ symbol ≠ '*' := forall_mem_of_all (by decide)
    have glued : ∀ symbol ∈ [',', '>'], glues mark [symbol] = decide (mark ≠ '\'') := by
      intro symbol here
      obtain ⟨noLifetime, punctuates, noSlash, noStar⟩ := apart symbol here
      by_cases quote : mark = '\''
      · simp [glues, quote, noLifetime]
      · simp [glues, quote, punctuates, noSlash, noStar]
    simp only [Option.any_some, Token.text, String.toList_singleton, comma]
    rw [glued symbol same, glued ',' (by decide)]
  · rfl

theorem upcoming_sign {symbol : Char} {text : String} {tokens : List Placed}
    (here : signNext text tokens = true) (first : text.toList = [symbol]) :
    ∃ spacing, upcoming tokens = some (.punctuation symbol spacing) := by
  rw [signNext, first] at here
  match tokens, here with
  | ⟨.punctuation mark spacing, _⟩ :: _, here =>
    obtain rfl : mark = symbol := of_decide_eq_true (Bool.and_eq_true_iff.1 here).1
    exact ⟨spacing, rfl⟩

namespace Argument

variable {argument : Argument} {arguments : List Argument}

theorem Settled.code (settled : argument.Settled) : Phrase.Settled (some comma) argument.code := by
  unfold Argument.code
  split_ifs
  · exact .append settled.settled (settled_comma _)
  · rw [List.append_nil]
    exact settled.settled

theorem Settled.code_none (settled : argument.Settled)
    (ends : argument.isLifetime = true ∨ argument.followed = true) :
    Phrase.Settled none argument.code := by
  unfold Argument.code
  split_ifs with followed
  · exact .append settled.settled (settled_comma _)
  · rw [List.append_nil]
    exact ⟨settled.settled.closed, settled.settled.lexable, settled.lifetime (ends.resolve_right followed)⟩

end Argument

theorem head?_inOrder (arguments : List Argument) :
    (inOrder false arguments).head?.or (some comma) = some comma := by
  cases arguments <;> rfl

theorem settled_inOrder {arguments : List Argument} (settled : ∀ a ∈ arguments, a.Settled) (first : Bool) :
    Settled (some comma) (inOrder first arguments) := by
  induction arguments generalizing first with
  | nil => exact .nil _
  | cons argument rest ih =>
    have here := settled argument List.mem_cons_self
    have later := ih (fun a here => settled a (List.mem_cons_of_mem _ here)) argument.followed
    have code : Settled ((inOrder argument.followed rest).head?.or (some comma)) argument.code := by
      cases followed : argument.followed with
      | true => exact .of_none _ (here.code_none (.inr followed))
      | false =>
        rw [head?_inOrder]
        exact here.code
    have both := code.append later
    rw [inOrder, List.append_assoc]
    cases first with
    | true => exact both
    | false => exact (settled_comma _).append both

theorem settled_lifetimes {arguments : List Argument} (settled : ∀ a ∈ arguments, a.Settled)
    (lifetimes : ∀ a ∈ arguments, a.isLifetime = true) :
    Settled none (arguments.flatMap Argument.code) := by
  induction arguments with
  | nil => exact .nil _
  | cons argument rest ih =>
    have here := (settled argument List.mem_cons_self).code_none
      (.inl (lifetimes argument List.mem_cons_self))
    rw [List.flatMap_cons]
    exact (here.of_none _).append (ih (fun a here => settled a (List.mem_cons_of_mem _ here))
      fun a here => lifetimes a (List.mem_cons_of_mem _ here))

theorem settled_arranged {arguments : List Argument} (settled : ∀ a ∈ arguments, a.Settled) :
    Settled (some comma) (arranged arguments) := by
  refine .append (.of_none _ (settled_lifetimes (fun a here => ?_) fun a here => ?_))
    (settled_inOrder (fun a here => ?_) _)
  · exact settled a (List.mem_of_mem_filter here)
  · exact List.of_mem_filter here
  · exact settled a (List.mem_of_mem_filter here)

/-- Between two places nothing was left over, and nothing was written. -/
structure Passes (before after : Progress source) : Prop where
  settled : before.leftover = none
  written : after.written = before.written
  takes : Takes before.rest after.rest

theorem Passes.refl {before : Progress source} (settled : before.leftover = none) : Passes before before :=
  ⟨settled, rfl, .refl _⟩

theorem Passes.trans {before middle after : Progress source} (first : Passes before middle)
    (second : Passes middle after) : Passes before after :=
  ⟨first.settled, second.written.trans first.written, first.takes.trans second.takes⟩

theorem Passes.of_captured {α : Type} {phrase : Phrase α} [Faithful source phrase] (legible : Legible source)
    {before after : Progress source} {answer : α} {tokens : List Token}
    (run : captured phrase before = .ok ((answer, tokens), after)) (settled : after.leftover = none) :
    Passes before after := by
  obtain ⟨settled, written, renders⟩ := captured_renders legible run settled
  exact ⟨settled, written, renders.takes⟩

/-- An entry that tells of lifetimes is one that nothing need follow if it does. -/
def TellsLifetimes (source : List Placed) (entry : Reader source Bool) : Prop :=
  ∀ before after : Progress source, entry before = .ok (true, after) → after.leftover = none →
    ∃ new, Advances before after new ∧ chained none new = true

theorem Argument.Settled.of_captured {entry : Phrase Bool} [reads : Faithful source entry] (legible : Legible source)
    (tells : TellsLifetimes source entry) {before after : Progress source} {isLifetime followed : Bool}
    {tokens : List Token} (run : captured entry before = .ok ((isLifetime, tokens), after))
    (settled : after.leftover = none) {symbol : Char} {spacing : Spacing}
    (next : upcoming after.rest = some (.punctuation symbol spacing)) (ends : symbol ∈ [',', '>']) :
    (⟨tokens, isLifetime, followed⟩ : Argument).Settled := by
  obtain ⟨-, -, renders⟩ := captured_renders legible run settled
  refine ⟨renders.settled.imp fun t couple => ?_, fun lifetime => ?_⟩
  · rwa [next, coupled_comma spacing ends] at couple
  · obtain ⟨inner, read, rfl, rfl⟩ := captured_eq_ok run
    obtain rfl : isLifetime = true := lifetime
    obtain ⟨new, advances, chain⟩ := tells _ _ read settled
    rwa [advances.written, List.append_nil, List.reverse_reverse]

theorem angledArguments_settled {entry : Phrase Bool} [Faithful source entry] (legible : Legible source)
    (tells : TellsLifetimes source entry) (bound : Nat) {before after : Progress source}
    {arguments : List Argument} (run : angledArguments entry bound before = .ok (arguments, after))
    (settled : after.leftover = none) : Passes before after ∧ ∀ a ∈ arguments, a.Settled := by
  induction bound generalizing before after arguments with
  | zero =>
    cases run
    exact ⟨.refl settled, List.forall_mem_nil _⟩
  | succ bound ih =>
    unfold angledArguments at run
    rw [rest_bind] at run
    split_ifs at run with none
    · cases run
      exact ⟨.refl settled, List.forall_mem_nil _⟩
    · obtain ⟨⟨isLifetime, tokens⟩, middle, kept, run⟩ := run_bind_eq_ok.1 run
      dsimp only at run
      rw [rest_bind] at run
      split_ifs at run with last
      · cases run
        obtain ⟨spacing, next⟩ := upcoming_sign last rfl
        exact ⟨.of_captured legible kept settled, List.forall_mem_singleton.2
          (.of_captured legible tells kept settled next (by decide))⟩
      · obtain ⟨⟨_, _⟩, behind, dropped, run⟩ := run_bind_eq_ok.1 run
        obtain ⟨more, _, later, run⟩ := run_bind_eq_ok.1 run
        cases run
        obtain ⟨passes, all⟩ := ih later settled
        have comma := Passes.of_captured legible dropped passes.settled
        obtain ⟨inner, read, -, rfl⟩ := captured_eq_ok dropped
        obtain ⟨spacing, next⟩ := upcoming_sign (sign_eq_ok read passes.settled).1 rfl
        have here : (⟨tokens, isLifetime, true⟩ : Argument).Settled :=
          .of_captured legible tells kept comma.settled next (by decide)
        exact ⟨(Passes.of_captured legible kept comma.settled).trans (comma.trans passes),
          List.forall_mem_cons.2 ⟨here, all⟩⟩

/-- A reader that never answers yes. -/
class Refuses (reader : Reader source Bool) : Prop where
  refuses : ∀ before after, reader before ≠ .ok (true, after)

instance : Refuses (pure false : Reader source Bool) := ⟨fun _ _ run => by cases run⟩

instance (choices : List Expectation) : Refuses (unmet choices : Reader source Bool) :=
  ⟨fun _ _ run => by cases run⟩

instance {α : Type} {first : Reader source α} {next : α → Reader source Bool} [later : ∀ a, Refuses (next a)] :
    Refuses (first >>= next) :=
  ⟨fun _ _ run => by
    obtain ⟨a, middle, -, run⟩ := run_bind_eq_ok.1 run
    exact (later a).refuses _ _ run⟩

instance (condition : Prop) [Decidable condition] {first second : Reader source Bool} [Refuses first]
    [Refuses second] : Refuses (if condition then first else second) := by
  split <;> infer_instance

/-- What begins with a lifetime, or else is none, tells of lifetimes. -/
theorem TellsLifetimes.of_rest (next : List Placed → Bool) {other : List Placed → Reader source Bool}
    (legible : Legible source) (refuses : ∀ tokens, Refuses (other tokens)) :
    TellsLifetimes source (do
      let tokens ← rest
      if next tokens then do
        lifetime
        return true
      else other tokens) := by
  intro before after run settled
  rw [rest_bind] at run
  split_ifs at run
  · obtain ⟨_, _, first, run⟩ := run_bind_eq_ok.1 run
    cases run
    obtain ⟨new, advances, -, chain⟩ := FirmAt.lifetime legible _ _ first settled
    exact ⟨new, advances, chain⟩
  · exact absurd run ((refuses _).refuses _ _)

theorem TellsLifetimes.checked {entry : Reader source Bool} (ends : List Placed → Bool)
    (choices : List Expectation) (tells : TellsLifetimes source entry) :
    TellsLifetimes source (do
      let isLifetime ← entry
      let tokens ← rest
      if ends tokens then return isLifetime else unmet choices) := by
  intro before after run settled
  obtain ⟨isLifetime, middle, first, run⟩ := run_bind_eq_ok.1 run
  rw [rest_bind] at run
  split_ifs at run
  · cases run
    exact tells _ _ first settled
  · cases run

namespace Grammar

variable (grammar : Grammar) [grammar.Sound]

instance : Faithful source grammar.constant := by
  dsimp only [constant]
  infer_instance

set_option synthInstance.maxSize 400 in
instance : Faithful source grammar.argument := by
  dsimp only [argument]
  infer_instance

omit [grammar.Sound] in
theorem tellsLifetimes_argument (legible : Legible source) : TellsLifetimes source grammar.argument := by
  refine .of_rest (fun tokens => lifetimeNext tokens && !signNext "+" (second tokens)) legible
    fun tokens => ?_
  dsimp only
  infer_instance

end Grammar

/-! ## Arguments between angle brackets -/

/-- Arguments between angle brackets are written in their own order. -/
theorem advances_angled {entry : Phrase Bool} [Faithful source entry] (legible : Legible source)
    (tells : TellsLifetimes source entry) {bound : Nat} {before opened behind arranged' after : Progress source}
    {arguments : List Argument} {first written last : Unit} (opening : sign "<" before = .ok (first, opened))
    (read : angledArguments entry bound opened = .ok (arguments, behind))
    (write_ : write (arranged arguments) behind = .ok (written, arranged'))
    (closing : sign ">" arranged' = .ok (last, after)) (settled : after.leftover = none) :
    Advances before after (operator ['<'] ++ (arranged arguments ++ operator ['>'])) := by
  obtain ⟨-, close⟩ := sign_eq_ok closing settled
  cases write_
  obtain ⟨passes, all⟩ := angledArguments_settled legible tells bound read close.settled
  obtain ⟨-, open_⟩ := sign_eq_ok opening passes.settled
  refine ⟨open_.settled, ?_, ?_⟩
  · rw [close.written]
    show _ ++ ((arranged arguments).reverse ++ behind.written) = _
    rw [passes.written, open_.written]
    simp
  · refine open_.renders.enclose (List.cons_ne_nil _ _) ?_ passes.takes ?_ close.renders
    · exact ⟨.operator _, lexable_operator (by decide), rfl⟩
    · exact (settled_arranged all).imp fun t couple => (coupled_comma _ (by decide) t).trans couple

end StatSchema.Phrase
