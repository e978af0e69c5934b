/-
Readers of phrases that are faithful: what such a reader writes, unless it leaves anything over, is what
a part of the source is written as. A reader that is put together from faithful ones is faithful, so
that most readers are so by the shape of their definitions alone.
-/
import StatSchema.Phrase.Precedence
import StatSchema.Proofs.Printing.Renderings
import StatSchema.Proofs.Sequencing

namespace StatSchema.Phrase

open Token Lookahead

/-! ## Faithful readers -/

/-- A reader of one source. -/
abbrev Reader (source : List Placed) := StateT (Progress source) (Except SyntaxError)

variable {source : List Placed} {α β : Type}

/-- Between two places nothing was left over, and `new` was written. -/
structure Advances (before after : Progress source) (new : List Token) : Prop where
  settled : before.leftover = none
  written : after.written = new.reverse ++ before.written
  renders : Renders before.rest new after.rest

namespace Advances

variable {before middle after : Progress source} {new more : List Token}

theorem refl (settled : before.leftover = none) : Advances before before [] :=
  ⟨settled, rfl, .refl _⟩

theorem trans (first : Advances before middle new) (second : Advances middle after more) :
    Advances before after (new ++ more) :=
  ⟨first.settled, by rw [second.written, first.written, List.reverse_append, List.append_assoc],
    first.renders.trans second.renders⟩

end Advances

/-- From a place on, a reader writes what it reads, unless it leaves anything over. -/
def FaithfulAt (before : Progress source) (reader : Reader source α) : Prop :=
  ∀ (answer : α) (after : Progress source), reader before = .ok (answer, after) →
    after.leftover = none → ∃ new, Advances before after new

/-- A reader that writes what it reads of a legible source. -/
class Faithful (source : List Placed) {α : Type} (reader : Reader source α) : Prop where
  faithful : Legible source → ∀ before, FaithfulAt before reader

theorem Progress.legible (before : Progress source) (legible : Legible source) :
    Legible before.rest :=
  legible.remains before.remains

/-! ## Sequences and choices -/

theorem get_bind (next : Progress source → Reader source β) (before : Progress source) :
    (get >>= next) before = next before before :=
  rfl

theorem rest_bind (next : List Placed → Reader source β) (before : Progress source) :
    (rest >>= next) before = next before.rest before :=
  rfl

theorem discard_eq_ok {reader : Reader source α} {before after : Progress source} {answer : Unit}
    (run : (discard reader) before = .ok (answer, after)) : ∃ a, reader before = .ok (a, after) := by
  obtain ⟨a, middle, run, last⟩ := run_bind_eq_ok.1 (show (reader >>= fun _ => pure ()) before = _ from run)
  cases last
  exact ⟨a, run⟩

namespace FaithfulAt

variable {before : Progress source}

theorem of_error {reader : Reader source α} {error : SyntaxError} (fails : reader before = .error error) :
    FaithfulAt before reader := fun _ _ run => by
  rw [fails] at run
  cases run

theorem bind {first : Reader source α} {next : α → Reader source β} (faithful : FaithfulAt before first)
    (later : ∀ a middle, first before = .ok (a, middle) → FaithfulAt middle (next a)) :
    FaithfulAt before (first >>= next) := fun _ _ run settled => by
  obtain ⟨a, middle, head, tail⟩ := run_bind_eq_ok.1 run
  obtain ⟨more, second⟩ := later a middle head _ _ tail settled
  obtain ⟨new, first⟩ := faithful _ _ head second.settled
  exact ⟨new ++ more, first.trans second⟩

theorem map {reader : Reader source α} {change : α → β} (faithful : FaithfulAt before reader) :
    FaithfulAt before (change <$> reader) := fun _ _ run settled => by
  obtain ⟨a, middle, run, last⟩ :=
    run_bind_eq_ok.1 (show (reader >>= fun a => pure (change a)) before = _ from run)
  cases last
  exact faithful _ _ run settled

/-- A reader that looks at what is left goes on as the rest of it. -/
theorem rest_bind {next : List Placed → Reader source β} (later : FaithfulAt before (next before.rest)) :
    FaithfulAt before (rest >>= next) :=
  later

/-- Tokens may be written for others that are skipped. -/
theorem replace {count : Nat} {new : List Token}
    (renders : Renders before.rest new (past count before.rest)) :
    FaithfulAt before (skip count >>= fun _ => write new) := fun _ _ run settled => by
  cases run
  exact ⟨new, settled, rfl, renders⟩

end FaithfulAt

instance (answer : α) : Faithful source (pure answer) :=
  ⟨fun _ _ _ _ run settled => by cases run; exact ⟨[], .refl settled⟩⟩

instance : Faithful source rest :=
  ⟨fun _ _ _ _ run settled => by cases run; exact ⟨[], .refl settled⟩⟩

instance : Faithful source get :=
  ⟨fun _ _ _ _ run settled => by cases run; exact ⟨[], .refl settled⟩⟩

instance (span : Span) (problem : SyntaxProblem) : Faithful source (failAt (α := α) span problem) :=
  ⟨fun _ _ => .of_error rfl⟩

instance {first : Reader source α} {next : α → Reader source β} [head : Faithful source first]
    [tail : ∀ a, Faithful source (next a)] : Faithful source (first >>= next) :=
  ⟨fun legible before => (head.faithful legible before).bind fun a middle _ =>
    (tail a).faithful legible middle⟩

theorem Faithful.bind {first : Reader source α} {next : α → Reader source β} [Faithful source first]
    (faithful : ∀ a, Faithful source (next a)) : Faithful source (first >>= next) :=
  inferInstance

/-- A reader that chooses by what is left. -/
theorem Faithful.of_rest {next : List Placed → Reader source β}
    (faithful : ∀ tokens, Faithful source (next tokens)) : Faithful source (rest >>= next) :=
  .bind faithful

instance {reader : Reader source α} (change : α → β) [faithful : Faithful source reader] :
    Faithful source (change <$> reader) :=
  inferInstanceAs (Faithful source (reader >>= fun answer => pure (change answer)))

instance {reader : Reader source α} [faithful : Faithful source reader] :
    Faithful source (discard reader) :=
  inferInstanceAs (Faithful source (_ <$> reader))

instance (condition : Prop) [Decidable condition] {first second : Reader source α}
    [Faithful source first] [Faithful source second] :
    Faithful source (if condition then first else second) := by
  split <;> infer_instance

instance (problem : SyntaxProblem) : Faithful source (fail (α := α) problem) := by
  unfold fail
  infer_instance

instance (choices : List Expectation) : Faithful source (unmet (α := α) choices) := by
  unfold unmet
  infer_instance

/-! ## Single tokens -/

instance : Faithful source copy :=
  ⟨fun legible before _ _ run settled => by
    cases run
    exact ⟨_, settled, rfl, .verbatim (before.legible legible) (.past 1 _)⟩⟩

instance (text : String) : Faithful source (word text) := by
  unfold word
  infer_instance

instance (text : String) : Faithful source (optionalWord text) := by
  unfold optionalWord
  infer_instance

instance : Faithful source identifier :=
  .of_rest fun tokens => by split <;> infer_instance

instance : Faithful source lifetime := by
  unfold lifetime
  infer_instance

instance : Faithful source optionalLifetime := by
  unfold optionalLifetime
  infer_instance

/-! ## Signs -/

/-- The signs that stand in phrases by themselves. -/
abbrev signs : List String :=
  ["::", "<", ">", ",", ";", ":", "=", "+", "*", "&", "!", "?", "|", "#", "@", "-", ".", "->", "=>",
    "..", "...", "..="]

/-- A text among others. -/
class Listed (text : String) (texts : List String) : Prop where
  listed : text ∈ texts

instance (text : String) (texts : List String) : Listed text (text :: texts) :=
  ⟨List.mem_cons_self⟩

instance (text other : String) (texts : List String) [later : Listed text texts] :
    Listed text (other :: texts) :=
  ⟨List.mem_cons_of_mem _ later.listed⟩

/-- A text that is a sign. -/
class Sign (text : String) : Prop where
  plain : isSign text.toList = true

theorem signs_plain : ∀ text ∈ signs, isSign text.toList = true := by decide

instance (text : String) [sign : Listed text signs] : Sign text :=
  ⟨signs_plain text sign.listed⟩

theorem isSign_binaryOperators : ∀ entry ∈ binaryOperators, isSign entry.1.toList = true := by decide

/-- The operator that comes next is a sign. -/
theorem Sign.of_binaryNext {tokens : List Placed} {text : String} {precedence : Precedence}
    (next : binaryNext? tokens = some (text, precedence)) : Sign text :=
  ⟨isSign_binaryOperators _ (List.mem_of_find?_eq_some next)⟩

theorem sign_eq_ok {text : String} [plain : Sign text] {before after : Progress source} {answer : Unit}
    (run : sign text before = .ok (answer, after)) (settled : after.leftover = none) :
    signNext text before.rest = true ∧ Advances before after (operator text.toList) := by
  unfold sign at run
  rw [rest_bind] at run
  split_ifs at run with next
  · cases run
    exact ⟨next, settled, rfl, Renders.sign next rfl plain.plain⟩
  · cases run

instance (text : String) [Sign text] : Faithful source (sign text) :=
  ⟨fun _ _ _ _ run settled => ⟨_, (sign_eq_ok run settled).2⟩⟩

theorem optionalSign_eq_ok {text : String} [Sign text] {before after : Progress source} {taken : Bool}
    (run : optionalSign text before = .ok (taken, after)) (settled : after.leftover = none) :
    Advances before after (if taken then operator text.toList else []) := by
  unfold optionalSign at run
  rw [rest_bind] at run
  split_ifs at run
  · obtain ⟨_, _, run, last⟩ := run_bind_eq_ok.1 run
    cases last
    exact (sign_eq_ok run settled).2
  · cases run
    exact .refl settled

instance (text : String) [Sign text] : Faithful source (optionalSign text) :=
  ⟨fun _ _ _ _ run settled => ⟨_, optionalSign_eq_ok run settled⟩⟩

instance : Faithful source literal :=
  .of_rest fun tokens => by split <;> infer_instance

/-! ## Repetition -/

instance (step : Phrase Bool) [faithful : Faithful source step] (bound : Nat) :
    Faithful source (steps step bound) := by
  induction bound with
  | zero => exact inferInstanceAs (Faithful source (pure ()))
  | succ bound ih =>
    unfold steps
    infer_instance

instance (ends : List Placed → Bool) (entry : Phrase Unit) [Faithful source entry] (bound : Nat) :
    Faithful source (separated ends entry bound) := by
  unfold separated
  infer_instance

/-! ## Groups -/

theorem exists_of_opens {delimiter : Delimiter} {tokens : List Placed}
    (opened : opens delimiter tokens = true) :
    ∃ span inner, tokens = ⟨.opening delimiter, span⟩ :: inner := by
  unfold opens at opened
  split at opened
  · obtain rfl := of_decide_eq_true opened
    exact ⟨_, _, rfl⟩
  · cases opened

/-- Nothing is left over only if nothing was and the group is at its end. -/
theorem keepLeftover_eq_ok {delimiter : Delimiter} {left : List Placed} {before after : Progress source}
    {answer : Unit} (run : keepLeftover delimiter left before = .ok (answer, after))
    (settled : after.leftover = none) : after = before ∧ atEnd left = true := by
  cases run
  cases ended : atEnd left with
  | true => exact ⟨rfl, rfl⟩
  | false =>
    simp [ended] at settled

theorem lift_eq_ok {result : Except SyntaxError α} {before after : Progress source} {answer : α}
    (run : (StateT.lift result : Reader source α) before = .ok (answer, after)) :
    result = .ok answer ∧ before = after := by
  cases result with
  | error e => cases run
  | ok a =>
    cases run
    exact ⟨rfl, rfl⟩

/-- The group that comes next, with what is written for its content. -/
theorem advances_left {before : Progress source} {within : Progress before.rest.tail} {new : List Token}
    {delimiter : Delimiter} (legible : Legible source) (opened : opens delimiter before.rest = true)
    (inside : Advances before.entered within new) (ended : atEnd within.rest = true) :
    Advances before (before.left within (opensGroup_of_opens opened))
      (.opening delimiter :: (new ++ [.closing delimiter])) := by
  have legible' := before.legible legible
  obtain ⟨span, inner, same⟩ := exists_of_opens opened
  have renders := inside.renders
  have written := inside.written
  simp only [Progress.entered, same, List.tail_cons] at renders
  simp only [Progress.entered, same, List.take_succ_cons, List.take_zero, List.map_cons, List.map_nil,
    List.singleton_append] at written
  rw [same] at legible'
  obtain ⟨place, behind, last, renders⟩ := renders.group legible' ended
  refine ⟨inside.settled, ?_, ?_⟩
  · simp [Progress.left, last, fromClosing, written]
  · rw [← same] at renders
    simpa [Progress.left, last, fromClosing] using renders

theorem Faithful.groupThen (delimiter : Delimiter) (content : Phrase α) {later : α → Phrase β}
    [inside : ∀ source, Faithful source content] (behind : ∀ a, Faithful source (later a)) :
    Faithful source (groupThen delimiter content later) :=
  ⟨fun legible before answer after run settled => by
    unfold Phrase.groupThen at run
    rw [get_bind] at run
    split_ifs at run with opened
    · obtain ⟨⟨a, within⟩, _, lifted, run⟩ := run_bind_eq_ok.1 run
      obtain ⟨read, rfl⟩ := lift_eq_ok lifted
      obtain ⟨_, _, left, run⟩ := run_bind_eq_ok.1 run
      cases left
      obtain ⟨_, last, follow, run⟩ := run_bind_eq_ok.1 run
      obtain ⟨_, _, keep, run⟩ := run_bind_eq_ok.1 run
      cases run
      obtain ⟨rfl, ended⟩ := keepLeftover_eq_ok keep settled
      obtain ⟨more, second⟩ := (behind a).faithful legible _ _ _ follow settled
      have inner := (before.legible legible).tail (opensGroup_of_opens opened)
      obtain ⟨new, first⟩ := (inside _).faithful inner before.entered _ _ read second.settled
      exact ⟨_, (advances_left legible opened first ended).trans second⟩
    · exact Faithful.faithful legible before _ _ run settled⟩

instance (delimiter : Delimiter) (content : Phrase α) (later : α → Phrase β)
    [∀ source, Faithful source content] [behind : ∀ a, Faithful source (later a)] :
    Faithful source (groupThen delimiter content later) :=
  .groupThen delimiter content behind

instance (delimiter : Delimiter) (content : Phrase α) [∀ source, Faithful source content] :
    Faithful source (group delimiter content) := by
  unfold group
  infer_instance

instance : Faithful source anyGroup :=
  ⟨fun legible before => by
    refine .rest_bind ?_
    split_ifs with opened
    · intro _ _ run settled
      cases run
      have legible := before.legible legible
      exact ⟨_, settled, rfl, .verbatim legible (.second legible opened)⟩
    · exact Faithful.faithful legible before⟩

/-! ## Phrases that are kept back -/

/-- What is kept back is written from nothing. -/
theorem captured_eq_ok {phrase : Phrase α} {before after : Progress source} {answer : α}
    {tokens : List Token} (run : captured phrase before = .ok ((answer, tokens), after)) :
    ∃ inner : Progress source, phrase { before with written := [] } = .ok (answer, inner) ∧
      inner.written.reverse = tokens ∧ after = { inner with written := before.written } := by
  unfold captured at run
  rw [get_bind] at run
  obtain ⟨_, _, emptied, run⟩ := run_bind_eq_ok.1 run
  cases emptied
  obtain ⟨_, inner, read, run⟩ := run_bind_eq_ok.1 run
  cases run
  exact ⟨inner, read, rfl, rfl⟩

/-- What a reader writes while it is kept back, and where it leaves off. -/
theorem captured_renders {phrase : Phrase α} [reads : Faithful source phrase] (legible : Legible source)
    {before after : Progress source} {answer : α} {tokens : List Token}
    (run : captured phrase before = .ok ((answer, tokens), after)) (settled : after.leftover = none) :
    before.leftover = none ∧ after.written = before.written ∧
      Renders before.rest tokens after.rest := by
  obtain ⟨inner, read, rfl, rfl⟩ := captured_eq_ok run
  obtain ⟨new, advances⟩ := reads.faithful legible _ _ _ read settled
  refine ⟨advances.settled, rfl, ?_⟩
  rw [advances.written, List.append_nil, List.reverse_reverse]
  exact advances.renders

instance (phrase : Phrase α) [Faithful source phrase] : Faithful source (verbatim phrase) :=
  ⟨fun legible before _ _ run settled => by
    obtain ⟨_, _, start, run⟩ := run_bind_eq_ok.1 run
    cases start
    obtain ⟨⟨_, _⟩, _, kept, run⟩ := run_bind_eq_ok.1 run
    cases run
    obtain ⟨settled, same, renders⟩ := captured_renders legible kept settled
    refine ⟨_, settled, ?_, .verbatim (before.legible legible) renders.takes⟩
    rw [← same]⟩

/-- A reader that writes `pending`, which was kept back, before what it reads. -/
class Resumes (source : List Placed) {α : Type} (pending : List Token) (reader : Reader source α) :
    Prop where
  resumes : Legible source → ∀ (before : Progress source) (answer : α) (after : Progress source),
    reader before = .ok (answer, after) → after.leftover = none →
      before.leftover = none ∧ ∀ start, Renders start pending before.rest →
        ∃ new, after.written = new.reverse ++ before.written ∧ Renders start new after.rest

variable {pending : List Token}

instance : Resumes source pending (write pending) :=
  ⟨fun _ _ _ _ run settled => by
    cases run
    exact ⟨settled, fun _ renders => ⟨pending, rfl, renders⟩⟩⟩

instance {first : Reader source α} {next : α → Reader source β} [head : Resumes source pending first]
    [tail : ∀ a, Faithful source (next a)] : Resumes source pending (first >>= next) :=
  ⟨fun legible before _ _ run settled => by
    obtain ⟨a, middle, head', run⟩ := run_bind_eq_ok.1 run
    obtain ⟨more, advances⟩ := (tail a).faithful legible _ _ _ run settled
    obtain ⟨settled, written⟩ := head.resumes legible _ _ _ head' advances.settled
    refine ⟨settled, fun start renders => ?_⟩
    obtain ⟨new, same, renders⟩ := written start renders
    refine ⟨new ++ more, ?_, renders.trans advances.renders⟩
    rw [advances.written, same, List.reverse_append, List.append_assoc]⟩

end StatSchema.Phrase
