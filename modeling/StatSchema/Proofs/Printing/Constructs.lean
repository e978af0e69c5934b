/-
Readers of patterns, expressions and statements are faithful if those of the constructs inside are, and so
the readers of every depth are.
-/
import StatSchema.Path
import StatSchema.Proofs.Printing.Types

namespace StatSchema.Phrase

open Token Lookahead

variable {source : List Placed}

/-! ## Members -/

theorem isNumber_of_isFraction {text : String} (fraction : isFraction text = true) : isNumber text = true :=
  (Bool.and_eq_true_iff.1 fraction).1

/-- Nothing joint stands before a number. -/
theorem coupled_number {text : String} (number : isNumber text = true) {token : Token}
    (couple : coupled (some (.literal text)) token = true) : coupled none token = true := by
  obtain ⟨c, rest, same, digit⟩ : ∃ c rest, text.toList = c :: rest ∧ c.isDigit = true := by
    unfold isNumber at number
    cases same : text.toList with
    | nil =>
      rw [same] at number
      cases number
    | cons c rest =>
      rw [same] at number
      exact ⟨c, rest, rfl, number⟩
  have noWord := not_opensIdentifier_digit digit
  have noMark : isPunctuation c = false := by
    by_contra mark
    have marks : ∀ c ∈ marks, c.isDigit = false := forall_mem_of_all (by decide)
    rw [marks c (mem_marks (by simpa using mark))] at digit
    cases digit
  unfold coupled at couple ⊢
  split
  · rename_i symbol
    have glued : glues symbol text.toList = true := couple
    rw [same] at glued
    unfold glues at glued
    split_ifs at glued
    · obtain ⟨_, _, same, opens⟩ := exists_of_isLifetime glued
      cases same
      rw [noWord] at opens
      cases opens
    · rw [List.head?_cons, Option.any_some, noMark] at glued
      cases glued
  · rfl

/-- Others may be written for a number. -/
theorem Renders.number {text : String} {span : Span} {more : List Placed} {new : List Token}
    (number : isNumber text = true) (settled : Settled none new) :
    Renders (⟨.literal text, span⟩ :: more) new more where
  takes := .cons (.literal text)
  settled := settled.of_none _
  leads _ couple := coupled_of_none _ (coupled_number number couple)

/-- Tokens that are read back one by one. -/
theorem settled_of_forall {tokens : List Token}
    (alone : ∀ t ∈ tokens, Closed [t] ∧ Lexable t ∧ coupled none t = true) : Settled none tokens := by
  induction tokens with
  | nil => exact .nil _
  | cons token rest ih =>
    obtain ⟨⟨closed, lexable, couple⟩, later⟩ := List.forall_mem_cons.1 alone
    have here : Settled none [token] :=
      ⟨closed, List.forall_mem_singleton.2 lexable, by simp [chained, couple]⟩
    show Settled none ([token] ++ rest)
    exact .append (here.of_none _) (ih later)

theorem mem_of_mem_intersperse {α : Type} {tokens : List α} {separator t : α}
    (here : t ∈ tokens.intersperse separator) : t = separator ∨ t ∈ tokens := by
  fun_induction List.intersperse separator tokens <;> grind

theorem fieldToken_alone (number : Nat) :
    Closed [fieldToken number] ∧ Lexable (fieldToken number) ∧ coupled none (fieldToken number) = true :=
  ⟨.literal _, lexable_digits Nat.toDigits_ne_nil fun _ here =>
    Nat.isDigit_of_mem_toDigits (by decide) (by decide) here, rfl⟩

instance : Faithful source member :=
  ⟨fun legible before => by
    refine .rest_bind ?_
    split
    · rename_i text span more same
      split_ifs with refused
      · exact .of_error rfl
      · have number : isNumber text = true := by
          simp only [Bool.or_eq_true, Bool.not_eq_true', not_or] at refused
          exact Bool.not_eq_false _ ▸ refused.1
        split
        · rw [← bind_assoc]
          refine .bind (.replace ?_) fun _ _ _ => Faithful.faithful legible _
          rw [same]
          exact .number number (settled_of_forall (List.forall_mem_singleton.2 (fieldToken_alone _)))
        · exact .of_error rfl
    · exact Faithful.faithful legible before⟩

theorem faithfulAt_numberedMembers {before : Progress source} {text : String}
    {span : Span} {more : List Placed} (same : before.rest = ⟨.literal text, span⟩ :: more)
    (number : isNumber text = true) : FaithfulAt before numberedMembers := by
  refine .rest_bind ?_
  rw [same]
  dsimp only
  split
  · rename_i numbers _
    have point : Closed [.punctuation '.' .alone] ∧ Lexable (.punctuation '.' .alone) ∧
        coupled none (.punctuation '.' .alone) = true :=
      ⟨.punctuation _ _, lexable_mark (by decide) (by decide), rfl⟩
    have numbered : ∀ t ∈ (numbers.map fieldToken).intersperse (.punctuation '.' .alone),
        Closed [t] ∧ Lexable t ∧ coupled none t = true := by
      intro t here
      rcases mem_of_mem_intersperse here with rfl | here
      · exact point
      · obtain ⟨number, -, rfl⟩ := List.mem_map.1 here
        exact fieldToken_alone number
    have renders {new : List Token} (settled : Settled none new) :
        Renders before.rest new (Lookahead.past 1 before.rest) := by
      rw [same]
      exact .number number settled
    intro _ after run settled
    split_ifs at run
    · cases run
      refine ⟨_ ++ [.punctuation '.' .alone], settled, by rw [List.reverse_append]; rfl, ?_⟩
      exact renders (settled_of_forall (List.forall_mem_append.2
        ⟨numbered, List.forall_mem_singleton.2 point⟩))
    · cases run
      exact ⟨_, settled, rfl, renders (settled_of_forall numbered)⟩
  · exact .of_error rfl

namespace Grammar

variable (grammar : Grammar) [sound : grammar.Sound]

/-! ## Patterns -/

set_option synthInstance.maxSize 400 in
instance : Faithful source grammar.alternatives := by
  dsimp only [alternatives]
  infer_instance

instance : Faithful source grammar.anyPattern := by
  dsimp only [anyPattern]
  infer_instance

instance : Faithful source grammar.rangeBound := by
  dsimp only [rangeBound]
  infer_instance

instance (start : Bool) : Faithful source (grammar.rangeEnd start) := by
  refine ⟨fun legible before => ?_⟩
  dsimp only [rangeEnd]
  refine .rest_bind ?_
  have closed (here : (signNext "..." before.rest || signNext "..=" before.rest) = true) :
      Renders before.rest (operator ['.', '.', '=']) (Lookahead.past 3 before.rest) := by
    rcases Bool.or_eq_true_iff.1 here with dots | sign
    · exact .sign dots rfl (by decide)
    · exact .sign sign rfl (by decide)
  split_ifs with refused here here
  · exact .of_error rfl
  · exact .of_error rfl
  · rw [← bind_assoc]
    exact .bind (.replace (closed here)) fun _ _ _ => Faithful.faithful legible _
  · exact Faithful.faithful legible before

set_option synthInstance.maxSize 1000 in
instance : Faithful source grammar.fieldPattern := by
  dsimp only [fieldPattern]
  infer_instance

set_option synthInstance.maxSize 1000 in
instance (bound : Nat) : Faithful source (grammar.fieldPatterns bound) := by
  induction bound with
  | zero =>
    dsimp only [fieldPatterns]
    infer_instance
  | succ bound ih =>
    dsimp only [fieldPatterns]
    infer_instance

instance : Faithful source grammar.pathPattern := by
  dsimp only [pathPattern]
  infer_instance

set_option synthInstance.maxSize 1000 in
instance : Faithful source grammar.namePattern := by
  dsimp only [namePattern]
  infer_instance

instance : Faithful source grammar.elementPattern :=
  .bind fun dots => by cases dots <;> (dsimp only; infer_instance)

set_option synthInstance.maxSize 400 in
instance : Faithful source grammar.patternBody := by
  dsimp only [patternBody]
  infer_instance

/-! ## What follows an operand -/

instance : Faithful source grammar.callArguments := by
  dsimp only [callArguments]
  infer_instance

set_option synthInstance.maxSize 400 in
instance : Faithful source grammar.memberAccess := by
  refine ⟨fun legible before => ?_⟩
  dsimp only [memberAccess]
  refine .rest_bind ?_
  split_ifs with fraction
  · split at fraction
    · rename_i same
      have numbered := faithfulAt_numberedMembers same (isNumber_of_isFraction fraction)
      exact .bind (.map numbered) fun _ _ _ => Faithful.faithful legible _
    · cases fraction
  · exact Faithful.faithful legible before

instance (bound : Nat) (form : ExpressionForm) : Faithful source (grammar.suffixes bound form) := by
  induction bound generalizing form with
  | zero =>
    dsimp only [suffixes]
    infer_instance
  | succ bound ih =>
    dsimp only [suffixes]
    infer_instance

/-! ## Operators -/

instance (structures : Bool) (precedence : Precedence) (bound : Nat) (form : ExpressionForm) :
    Faithful source (grammar.tighter structures precedence bound form) := by
  induction bound generalizing form with
  | zero =>
    dsimp only [tighter]
    infer_instance
  | succ bound ih =>
    dsimp only [tighter]
    infer_instance

instance (structures : Bool) (precedence : Precedence) :
    Faithful source (grammar.rightOperand structures precedence) := by
  dsimp only [rightOperand]
  infer_instance

instance : Faithful source rangeDots := by
  dsimp only [rangeDots]
  infer_instance

instance (structures : Bool) : Faithful source (grammar.rangeRest structures) := by
  dsimp only [rangeRest]
  infer_instance

instance (structures : Bool) (least : Precedence) (bound : Nat) (form : ExpressionForm) :
    Faithful source (grammar.operationsBody structures least bound form) := by
  induction bound generalizing form with
  | zero =>
    dsimp only [operationsBody]
    infer_instance
  | succ bound ih =>
    dsimp only [operationsBody]
    refine .of_rest fun tokens => ?_
    split
    · infer_instance
    · split
      · have := Sign.of_binaryNext ‹_›
        infer_instance
      · split_ifs
        · infer_instance
        · infer_instance
        · refine .bind fun _ => .bind fun _ => .of_rest fun tokens => ?_
          split <;> infer_instance
        · infer_instance

/-! ## Blocks -/

set_option synthInstance.maxSize 400 in
instance (bound : Nat) : Faithful source (grammar.conditional bound) := by
  induction bound with
  | zero =>
    dsimp only [conditional]
    infer_instance
  | succ bound ih =>
    dsimp only [conditional]
    infer_instance

set_option synthInstance.maxSize 10000 in
instance : Faithful source grammar.arms := by
  dsimp only [arms]
  infer_instance

set_option synthInstance.maxSize 400 in
instance : Faithful source grammar.loop := by
  dsimp only [loop]
  infer_instance

instance : Faithful source grammar.labelled := by
  dsimp only [labelled]
  infer_instance

set_option synthInstance.maxSize 400 in
instance : Faithful source grammar.blockConstruct := by
  dsimp only [blockConstruct]
  infer_instance

set_option synthInstance.maxSize 400 in
instance : Faithful source grammar.earlyBody := by
  dsimp only [earlyBody]
  infer_instance

/-! ## Operands -/

instance : Faithful source grammar.closureParameter := by
  dsimp only [closureParameter]
  infer_instance

set_option synthInstance.maxSize 40000 in
instance (structures : Bool) : Faithful source (grammar.closure structures) := by
  dsimp only [closure]
  infer_instance

set_option synthInstance.maxSize 2000 in
instance (bound : Nat) : Faithful source (grammar.fields bound) := by
  induction bound with
  | zero =>
    dsimp only [fields]
    infer_instance
  | succ bound ih =>
    dsimp only [fields]
    infer_instance

instance (structures : Bool) : Faithful source (grammar.pathOperand structures) := by
  dsimp only [pathOperand]
  infer_instance

set_option synthInstance.maxSize 400 in
instance : Faithful source grammar.arrayContent := by
  dsimp only [arrayContent]
  infer_instance

set_option synthInstance.maxSize 400 in
instance (structures : Bool) : Faithful source (grammar.breakOperand structures) := by
  dsimp only [breakOperand]
  infer_instance

instance : Faithful source grammar.wordOperand := by
  dsimp only [wordOperand]
  infer_instance

instance (structures : Bool) : Faithful source (grammar.letOperand structures) := by
  dsimp only [letOperand]
  infer_instance

set_option synthInstance.maxSize 400 in
instance (structures : Bool) : Faithful source (grammar.atom structures) := by
  dsimp only [atom]
  infer_instance

instance (structures : Bool) : Faithful source (grammar.referenceOperand structures) := by
  dsimp only [referenceOperand]
  infer_instance

omit sound in
instance (tokens : List Placed) : Faithful source (operandBody.copySign tokens) := by
  unfold operandBody.copySign
  split
  · rename_i text found
    have marks : ∀ text ∈ ["*", "!"], isSign text.toList = true := by decide
    have : Sign text := ⟨marks text (List.mem_of_find?_eq_some found)⟩
    infer_instance
  · infer_instance

instance (structures : Bool) : Faithful source (grammar.operandBody structures) := by
  dsimp only [operandBody]
  infer_instance

/-! ## Statements -/

set_option synthInstance.maxSize 10000 in
instance : Faithful source grammar.binding := by
  dsimp only [binding]
  infer_instance

set_option synthInstance.maxSize 1000 in
instance : Faithful source grammar.statement := by
  dsimp only [statement]
  infer_instance

instance : Faithful source grammar.statementsBody := by
  dsimp only [statementsBody]
  infer_instance

/-! ## Every depth -/

instance sound_grammar (size depth : Nat) : (Phrase.grammar size depth).Sound := by
  induction depth with
  | zero =>
    exact ⟨fun _ _ => inferInstanceAs (Faithful _ (unmet [])), fun _ _ _ => inferInstanceAs (Faithful _ (unmet [])),
      fun _ _ => inferInstanceAs (Faithful _ (unmet [])),
      fun _ _ _ _ => inferInstanceAs (Faithful _ (unmet [])), fun _ => inferInstanceAs (Faithful _ (unmet [])),
      fun _ => inferInstanceAs (Faithful _ (unmet [])), fun _ => inferInstanceAs (Faithful _ (unmet []))⟩
  | succ depth ih =>
    let below := Phrase.grammar size depth
    exact
      { type := fun sums source => inferInstanceAs (Faithful source (below.typeBody sums))
        bound := fun captures constants source =>
          inferInstanceAs (Faithful source (below.boundBody captures constants))
        operand := fun structures source => inferInstanceAs (Faithful source (below.operandBody structures))
        operations := fun structures least form source =>
          inferInstanceAs (Faithful source (below.operationsBody structures least size form))
        early := fun source => inferInstanceAs (Faithful source below.earlyBody)
        pattern := fun source => inferInstanceAs (Faithful source below.patternBody)
        statements := fun source => inferInstanceAs (Faithful source below.statementsBody) }

end Grammar

/-! ## Paths -/

/-- Every bracket of what is read from a text is closed. -/
theorem balanced_of_read {text : String} {source : List Placed} (read : Token.read text = some source) :
    balancedFrom [] source = true := by
  unfold Token.read at read
  dsimp only at read
  split at read
  · split_ifs at read with closed
    cases read
    exact closed
  · cases read

/-- What is read from a text is legible. -/
theorem legible_of_read {text : String} {source : List Placed} (read : Token.read text = some source) :
    Legible source := by
  obtain ⟨all, whole, tokens⟩ := Identifier.lexemes_of_read read
  have lexed : lexed (Identifier.unmarked text) = some (source.map (·.token)) := by
    rw [Token.lexed, whole, tokens]
    rfl
  obtain ⟨lexable, chain⟩ := legible_of_lexed lexed
  exact ⟨fun placed here => lexable _ (List.mem_map_of_mem here), chain, [], balanced_of_read read⟩

theorem run_renders {α : Type} {phrase : Grammar → Phrase α} {source : List Placed}
    [faithful : Faithful source (phrase (grammarFor source.length))] (legible : Legible source)
    {progress : Progress source} (ran : run phrase source = .ok progress)
    (settled : progress.leftover = none) : Renders source progress.written.reverse progress.rest := by
  unfold run at ran
  split at ran
  · rename_i answer last read
    cases ran
    obtain ⟨new, advances⟩ := faithful.faithful legible _ _ _ read settled
    rw [advances.written]
    show Renders source (new.reverse ++ []).reverse _
    rw [List.append_nil, List.reverse_reverse]
    exact advances.renders
  · cases ran

end StatSchema.Phrase

namespace StatSchema.Path

open Token Phrase

/-- A path is read back from what it is printed as. -/
theorem settled_of_read {text : String} {path : Path} (read : Path.read? text = some path) :
    Settled none path.tokens := by
  unfold Path.read? at read
  split at read
  · rename_i source placed
    split at read
    · rename_i reading
      cases read
      rw [parser_eq] at reading
      have legible := legible_of_read placed
      split at reading
      · rename_i progress ran
        simp only [Except.ok.injEq, Prod.mk.injEq, Reading.mk.injEq] at reading
        obtain ⟨⟨rfl, settled⟩, last⟩ := reading
        have : Faithful source ((grammarFor source.length).path false) := by
          unfold grammarFor
          infer_instance
        have renders := run_renders legible ran settled
        rw [last] at renders
        exact renders.settled
      · cases reading
    · cases read
  · cases read

end StatSchema.Path
