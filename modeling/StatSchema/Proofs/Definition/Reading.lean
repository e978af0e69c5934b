/-
Entries are read by their grammar. The parser of an entry answers with a phrase of its production, and
takes every phrase that a comma or the end of the group follows; so does the parser of a group, if
brackets match. Repetitions are bounded by the number of tokens, which every entry diminishes.
-/
import StatSchema.Proofs.Definition.Grammar
import StatSchema.Proofs.Sequencing

namespace StatSchema

open Token Lookahead

namespace Definition

/-! ## Words and signs -/

theorem writtenString_eq_ok {source rest : List Placed} {text : Written} :
    writtenString source = .ok (text, rest) ↔ StringPhrase source text rest := by
  constructor
  · intro h
    match source with
    | ⟨.literal written, span⟩ :: behind =>
      obtain ⟨_, _, read, h⟩ := run_bind_eq_ok.1 h
      obtain ⟨_, _, taken, read⟩ := run_bind_eq_ok.1 read
      cases taken
      dsimp only at read
      cases denotes : stringValue? written with
      | none =>
        rw [denotes] at read
        cases read
      | some value =>
        rw [denotes] at read
        cases read
        cases h
        exact .mk denotes _ _
    | [] => cases h
    | ⟨.identifier _, _⟩ :: _ => cases h
    | ⟨.punctuation _ _, _⟩ :: _ => cases h
    | ⟨.opening _, _⟩ :: _ => cases h
    | ⟨.closing _, _⟩ :: _ => cases h
  · rintro ⟨denotes, span, rest⟩
    refine run_bind_eq_ok.2 ⟨(_, span), rest, run_bind_eq_ok.2 ⟨_, _, rfl, ?_⟩, rfl⟩
    dsimp only
    rw [denotes]
    rfl

theorem identifier_eq_ok {source rest : List Placed} {text : String} {span : Span} :
    Parser.identifier source = .ok ((text, span), rest) ↔
      IdentifierPhrase source ⟨text, span⟩ rest := by
  have identifier : ∀ name span behind, Parser.identifier (⟨.identifier name, span⟩ :: behind) =
      if Identifier.keywords.contains name then .error ⟨.keyword name, span⟩
      else .ok ((name, span), behind) := by
    intro name span behind
    show (if Identifier.keywords.contains name then _ else _ : Parser (String × Span)) _ = _
    split <;> rfl
  constructor
  · intro h
    match source with
    | ⟨.identifier name, span⟩ :: behind =>
      rw [identifier] at h
      split at h
      · cases h
      · rename_i free
        cases h
        exact .mk (Bool.eq_false_iff.2 free) _ _
    | [] => cases h
    | ⟨.literal _, _⟩ :: _ => cases h
    | ⟨.punctuation _ _, _⟩ :: _ => cases h
    | ⟨.opening _, _⟩ :: _ => cases h
    | ⟨.closing _, _⟩ :: _ => cases h
  · intro phrase
    cases phrase with
    | mk free span rest => rw [identifier, free, if_neg Bool.false_ne_true]

theorem comesNext_of_sign {symbol : Char} {source rest : List Placed}
    (sign : Sign symbol source rest) : comesNext [symbol] source = true := by
  cases sign with
  | mk spacing span rest => simp [comesNext]

theorem sign_of_comesNext {symbol : Char} {source : List Placed}
    (next : comesNext [symbol] source = true) : Sign symbol source source.tail := by
  match source with
  | ⟨.punctuation other spacing, span⟩ :: rest =>
    have same : other = symbol := by simpa [comesNext] using next
    exact same ▸ .mk spacing span rest
  | [] => cases next
  | ⟨.identifier _, _⟩ :: _ => cases next
  | ⟨.literal _, _⟩ :: _ => cases next
  | ⟨.opening _, _⟩ :: _ => cases next
  | ⟨.closing _, _⟩ :: _ => cases next

theorem Sign.tail_eq {symbol : Char} {source rest : List Placed} (sign : Sign symbol source rest) :
    source.tail = rest := by
  cases sign with
  | mk spacing span rest => rfl

theorem punctuation_eq_ok {symbol : Char} {source rest : List Placed} {answer : Unit} :
    Parser.punctuation symbol source = .ok (answer, rest) ↔ Sign symbol source rest := by
  have reads : Parser.punctuation symbol source =
      if comesNext [symbol] source then .ok ((), source.tail)
      else .error ⟨.missing (.singleton symbol), nextSpan source⟩ := by
    show (if comesNext [symbol] source then _ else _ : Parser Unit) _ = _
    split <;> rfl
  rw [reads]
  constructor
  · intro h
    split at h
    · rename_i next
      cases h
      exact sign_of_comesNext next
    · cases h
  · intro sign
    rw [if_pos (comesNext_of_sign sign), sign.tail_eq]

/-! ## Entries -/

/-- Whether an entry may end before tokens. -/
def EntryEnds (rest : List Placed) : Prop := atEnd rest = true ∨ comesNext [','] rest = true

/-- A parser that answers exactly with the phrases of a production that are followed by what may
follow them. -/
structure Reads {α : Type} (parser : Parser α) (production : Production α)
    (follows : List Placed → Prop) : Prop where
  sound : ∀ {source value rest}, parser source = .ok (value, rest) → production source value rest
  complete : ∀ {source value rest}, production source value rest → follows rest →
    parser source = .ok (value, rest)

theorem reads_writtenString : Reads writtenString StringPhrase EntryEnds :=
  ⟨writtenString_eq_ok.1, fun phrase _ => writtenString_eq_ok.2 phrase⟩

theorem reads_baseLine : Reads baseLine BaseEntry EntryEnds where
  sound := by
    intro source line rest h
    obtain ⟨name, next, named, h⟩ := run_bind_eq_ok.1 h
    obtain ⟨_, behind, colon, h⟩ := run_bind_eq_ok.1 h
    obtain ⟨⟨word, span⟩, _, spelled, h⟩ := run_bind_eq_ok.1 h
    dsimp only at h
    cases known : MetricKind.ofWord? word with
    | none =>
      rw [known] at h
      cases h
    | some kind =>
      rw [known] at h
      cases h
      exact .mk (writtenString_eq_ok.1 named) (punctuation_eq_ok.1 colon)
        (identifier_eq_ok.1 spelled) known
  complete := by
    rintro source _ rest ⟨named, colon, spelled, known⟩ -
    refine run_bind_eq_ok.2 ⟨_, _, writtenString_eq_ok.2 named, ?_⟩
    refine run_bind_eq_ok.2 ⟨(), _, punctuation_eq_ok.2 colon, ?_⟩
    refine run_bind_eq_ok.2 ⟨_, _, identifier_eq_ok.2 spelled, ?_⟩
    dsimp only
    rw [known]
    rfl

/-! ## Operands -/

/-- An operator is read by its sign. -/
theorem operatorSign_eq (source : List Placed) :
    operatorSign source =
      if comesNext ['+'] source then .ok ((.add, nextSpan source), source.tail)
      else if comesNext ['-'] source then .ok ((.subtract, nextSpan source), source.tail)
      else if comesNext ['/'] source then .ok ((.divide, nextSpan source), source.tail)
      else Parser.unmet [.code "+", .code "-", .code "/"] source := by
  show (if comesNext ['+'] source then _ else if comesNext ['-'] source then _
    else if comesNext ['/'] source then _ else _ : Parser (Operator × Span)) _ = _
  split
  · rfl
  · split
    · rfl
    · split <;> rfl

theorem operatorSign_sound {source rest : List Placed} {operator : Operator} {span : Span}
    (h : operatorSign source = .ok ((operator, span), rest)) :
    ∃ symbol, operator.symbol = .singleton symbol ∧ Sign symbol source rest := by
  rw [operatorSign_eq] at h
  split at h
  · rename_i next
    cases h
    exact ⟨'+', rfl, sign_of_comesNext next⟩
  · split at h
    · rename_i next
      cases h
      exact ⟨'-', rfl, sign_of_comesNext next⟩
    · split at h
      · rename_i next
        cases h
        exact ⟨'/', rfl, sign_of_comesNext next⟩
      · cases h

theorem operatorSign_complete {source rest : List Placed} {operator : Operator} {symbol : Char}
    (spelled : operator.symbol = .singleton symbol) (sign : Sign symbol source rest) :
    operatorSign source = .ok ((operator, nextSpan source), rest) := by
  obtain ⟨spacing, span, rest⟩ := sign
  have letters : operator.symbol.toList = [symbol] := by rw [spelled, String.toList_singleton]
  rw [operatorSign_eq]
  cases operator <;> cases letters <;> rfl

theorem not_ends_of_sign {source rest : List Placed} {operator : Operator} {symbol : Char}
    (spelled : operator.symbol = .singleton symbol) (sign : Sign symbol source rest) :
    (atEnd source || comesNext [','] source) = false := by
  obtain ⟨spacing, span, rest⟩ := sign
  have letters : operator.symbol.toList = [symbol] := by rw [spelled, String.toList_singleton]
  cases operator <;> cases letters <;> rfl

/-- Operands after the first one are read up to the end of the entry, all with one operator. -/
theorem furtherOperands_sound {known answer : Option Operator} {bound : Nat}
    {source rest : List Placed} {operands : List Written} (bounded : source.length ≤ bound)
    (h : furtherOperands known bound source = .ok ((answer, operands), rest)) :
    FurtherOperands (answer.getD .add) source operands rest ∧ EntryEnds rest ∧
      (∀ previous, known = some previous → answer = some previous) ∧
      (operands = [] → answer = known) := by
  induction bound generalizing known answer source operands with
  | zero =>
    obtain rfl := List.eq_nil_of_length_eq_zero (Nat.le_zero.1 bounded)
    cases h
    exact ⟨.nil _, .inl rfl, fun _ same => same, fun _ => rfl⟩
  | succ bound ih =>
    obtain ⟨tokens, _, same, h⟩ := run_bind_eq_ok.1 h
    cases same
    dsimp only at h
    by_cases ends : (atEnd source || comesNext [','] source) = true
    · rw [if_pos ends] at h
      cases h
      exact ⟨.nil _, by simpa [EntryEnds] using ends, fun _ same => same, fun _ => rfl⟩
    · rw [if_neg ends] at h
      obtain ⟨⟨operator, span⟩, behind, read, h⟩ := run_bind_eq_ok.1 h
      obtain ⟨symbol, spelled, sign⟩ := operatorSign_sound read
      -- an operator that differs from the one before is refused
      have step : known.or (some operator) = some operator ∧ (do
          let operand ← writtenString
          let more ← furtherOperands (some operator) bound
          return (more.1, operand :: more.2) : Parser (Option Operator × List Written)) behind =
            .ok ((answer, operands), rest) := by
        cases known with
        | none => exact ⟨rfl, h⟩
        | some previous =>
          dsimp only at h
          by_cases same : previous = operator
          · rw [if_neg (not_not.2 same)] at h
            subst same
            exact ⟨rfl, h⟩
          · rw [if_pos same] at h
            cases h
      obtain ⟨agrees, h⟩ := step
      obtain ⟨operand, next, first, h⟩ := run_bind_eq_ok.1 h
      obtain ⟨⟨result, more⟩, _, later, h⟩ := run_bind_eq_ok.1 h
      cases h
      have shorter : next.length ≤ bound := by
        have first := named_stringPhrase.shorter (writtenString_eq_ok.1 first)
        have sign := sign.remains.suffix.length_le
        omega
      obtain ⟨phrase, ends', kept, -⟩ := ih shorter later
      cases kept operator rfl
      refine ⟨.cons spelled sign (writtenString_eq_ok.1 first) phrase, ends', ?_, fun none => ?_⟩
      · rintro previous rfl
        exact agrees.symm
      · cases none

theorem furtherOperands_complete {operator : Operator} {source rest : List Placed}
    {operands : List Written} (phrase : FurtherOperands operator source operands rest)
    (ends : EntryEnds rest) {known : Option Operator} (agrees : known.or (some operator) = some operator)
    {bound : Nat} (bounded : source.length ≤ bound) :
    furtherOperands known bound source =
      .ok ((if operands = [] then known else some operator, operands), rest) := by
  induction phrase generalizing known bound with
  | nil rest =>
    cases bound with
    | zero => rfl
    | succ bound =>
      refine run_bind_eq_ok.2 ⟨rest, rest, rfl, ?_⟩
      have ends : (atEnd rest || comesNext [','] rest) = true := by simpa [EntryEnds] using ends
      rw [if_pos ends]
      rfl
  | @cons source next behind rest symbol operand operands spelled sign first more ih =>
    have signed := sign.remains.suffix.length_le
    have shorter := named_stringPhrase.shorter first
    have read := operatorSign_complete spelled sign
    cases bound with
    | zero => omega
    | succ bound =>
      have later : furtherOperands (some operator) bound behind =
          .ok ((some operator, operands), rest) := by
        rw [@ih ends (some operator) rfl bound (by omega)]
        split <;> rfl
      refine run_bind_eq_ok.2 ⟨source, source, rfl, ?_⟩
      rw [if_neg (Bool.eq_false_iff.1 (not_ends_of_sign spelled sign))]
      refine run_bind_eq_ok.2 ⟨_, _, read, ?_⟩
      have rested : (do
          let operand ← writtenString
          let more ← furtherOperands (known.or (some operator)) bound
          return (more.1, operand :: more.2) : Parser (Option Operator × List Written)) next =
            .ok ((some operator, operand :: operands), rest) := by
        rw [agrees]
        exact run_bind_eq_ok.2 ⟨_, _, writtenString_eq_ok.2 first,
          run_bind_eq_ok.2 ⟨_, _, later, rfl⟩⟩
      rw [if_neg (List.cons_ne_nil _ _)]
      cases known with
      | none => exact rested
      | some previous =>
        have same : previous = operator := Option.some.inj agrees
        dsimp only
        rw [if_neg (not_not.2 same)]
        exact rested

theorem reads_compoundLine : Reads compoundLine CompoundEntry EntryEnds where
  sound := by
    intro source line rest h
    obtain ⟨name, next, named, h⟩ := run_bind_eq_ok.1 h
    obtain ⟨_, behind, equals, h⟩ := run_bind_eq_ok.1 h
    obtain ⟨first, middle, begun, h⟩ := run_bind_eq_ok.1 h
    obtain ⟨_, _, same, h⟩ := run_bind_eq_ok.1 h
    cases same
    obtain ⟨⟨answer, more⟩, _, further, h⟩ := run_bind_eq_ok.1 h
    cases h
    obtain ⟨phrase, -, -, single⟩ := furtherOperands_sound (Nat.le_refl _) further
    refine .mk (writtenString_eq_ok.1 named) (punctuation_eq_ok.1 equals)
      (writtenString_eq_ok.1 begun) phrase fun none => ?_
    rw [single none]
    rfl
  complete := by
    rintro source _ rest ⟨named, equals, begun, more, single⟩ ends
    refine run_bind_eq_ok.2 ⟨_, _, writtenString_eq_ok.2 named, ?_⟩
    refine run_bind_eq_ok.2 ⟨(), _, punctuation_eq_ok.2 equals, ?_⟩
    refine run_bind_eq_ok.2 ⟨_, _, writtenString_eq_ok.2 begun, ?_⟩
    refine run_bind_eq_ok.2 ⟨_, _, rfl, ?_⟩
    refine run_bind_eq_ok.2 ⟨_, _, furtherOperands_complete more ends rfl (Nat.le_refl _), ?_⟩
    dsimp only
    split
    · rename_i none
      rw [single none]
      rfl
    · rfl

/-! ## Overrides -/

theorem writtenIdentifier_eq_ok {source rest : List Placed} {name : Written} :
    writtenIdentifier source = .ok (name, rest) ↔ IdentifierPhrase source name rest := by
  constructor
  · intro h
    obtain ⟨⟨text, span⟩, _, read, h⟩ := run_bind_eq_ok.1 h
    cases h
    exact identifier_eq_ok.1 read
  · intro phrase
    exact run_bind_eq_ok.2 ⟨_, _, identifier_eq_ok.2 phrase, rfl⟩

theorem hookName_eq_ok {source rest : List Placed} {name : Written} :
    hookName source = .ok (name, rest) ↔
      StringPhrase source name rest ∨ IdentifierPhrase source name rest := by
  have literal : ∀ written span behind, hookName (⟨.literal written, span⟩ :: behind) =
      if (stringValue? written).isSome then writtenString (⟨.literal written, span⟩ :: behind)
      else writtenIdentifier (⟨.literal written, span⟩ :: behind) := by
    intro written span behind
    show (if (stringValue? written).isSome then writtenString else writtenIdentifier) _ = _
    split <;> rfl
  constructor
  · intro h
    match source with
    | ⟨.literal written, span⟩ :: behind =>
      rw [literal] at h
      split at h
      · exact .inl (writtenString_eq_ok.1 h)
      · exact .inr (writtenIdentifier_eq_ok.1 h)
    | [] => exact .inr (writtenIdentifier_eq_ok.1 h)
    | ⟨.identifier _, _⟩ :: _ => exact .inr (writtenIdentifier_eq_ok.1 h)
    | ⟨.punctuation _ _, _⟩ :: _ => exact .inr (writtenIdentifier_eq_ok.1 h)
    | ⟨.opening _, _⟩ :: _ => exact .inr (writtenIdentifier_eq_ok.1 h)
    | ⟨.closing _, _⟩ :: _ => exact .inr (writtenIdentifier_eq_ok.1 h)
  · rintro (phrase | phrase)
    · have read := writtenString_eq_ok.2 phrase
      obtain ⟨denotes, span, rest⟩ := phrase
      rw [literal, if_pos (by rw [denotes]; rfl)]
      exact read
    · have read := writtenIdentifier_eq_ok.2 phrase
      obtain ⟨free, span, rest⟩ := phrase
      exact read

theorem reads_overrideLine : Reads overrideLine OverrideEntry EntryEnds where
  sound := by
    intro source line rest h
    obtain ⟨hook, next, named, h⟩ := run_bind_eq_ok.1 h
    obtain ⟨_, behind, equals, h⟩ := run_bind_eq_ok.1 h
    obtain ⟨target, _, given, h⟩ := run_bind_eq_ok.1 h
    cases h
    exact .mk (hookName_eq_ok.1 named) (punctuation_eq_ok.1 equals) given
  complete := by
    rintro source _ rest ⟨named, equals, given⟩ -
    refine run_bind_eq_ok.2 ⟨_, _, hookName_eq_ok.2 named, ?_⟩
    refine run_bind_eq_ok.2 ⟨(), _, punctuation_eq_ok.2 equals, ?_⟩
    exact run_bind_eq_ok.2 ⟨_, _, given, rfl⟩

/-! ## Lists -/

theorem opening_eq_ok {delimiter : Delimiter} {source rest : List Placed} {answer : Unit} :
    Parser.opening delimiter source = .ok (answer, rest) ↔
      ∃ span, source = ⟨.opening delimiter, span⟩ :: rest := by
  have reads : Parser.opening delimiter source =
      if opens delimiter source then .ok ((), source.tail)
      else Parser.unmet [.group delimiter] source := by
    show (if opens delimiter source then _ else _ : Parser Unit) _ = _
    split <;> rfl
  rw [reads]
  constructor
  · intro h
    split at h
    · rename_i opened
      cases h
      unfold opens at opened
      split at opened
      · rename_i span behind
        rw [of_decide_eq_true opened]
        exact ⟨span, rfl⟩
      · cases opened
    · cases h
  · rintro ⟨span, rfl⟩
    exact if_pos (decide_eq_true rfl)

section Lists

variable {α : Type} {entry : Parser α} {production : Production α}
  (reads : Reads entry production EntryEnds) (named : production.Named)

include reads named

theorem separated_sound {bound : Nat} {source rest : List Placed} {values : List α}
    (bounded : source.length ≤ bound)
    (h : Parser.separated entry bound source = .ok (values, rest)) :
    Entries production source values rest ∧ atEnd rest = true := by
  induction bound generalizing source values with
  | zero =>
    obtain rfl := List.eq_nil_of_length_eq_zero (Nat.le_zero.1 bounded)
    cases h
    exact ⟨.nil _, rfl⟩
  | succ bound ih =>
    obtain ⟨_, _, same, h⟩ := run_bind_eq_ok.1 h
    cases same
    by_cases ends : atEnd source = true
    · rw [if_pos ends] at h
      cases h
      exact ⟨.nil _, ends⟩
    · rw [if_neg ends] at h
      obtain ⟨value, behind, first, h⟩ := run_bind_eq_ok.1 h
      replace first := reads.sound first
      obtain ⟨_, _, same, h⟩ := run_bind_eq_ok.1 h
      cases same
      by_cases ends : atEnd behind = true
      · rw [if_pos ends] at h
        cases h
        exact ⟨.last first, ends⟩
      · rw [if_neg ends] at h
        obtain ⟨_, next, comma, h⟩ := run_bind_eq_ok.1 h
        replace comma := punctuation_eq_ok.1 comma
        obtain ⟨more, _, later, h⟩ := run_bind_eq_ok.1 h
        cases h
        have shorter : next.length ≤ bound := by
          have first := named.shorter first
          have comma := comma.remains.suffix.length_le
          omega
        obtain ⟨entries, ends⟩ := ih shorter later
        exact ⟨.cons first comma entries, ends⟩

theorem separated_complete {bound : Nat} {source rest : List Placed} {values : List α}
    (entries : Entries production source values rest) (ends : atEnd rest = true)
    (bounded : source.length ≤ bound) :
    Parser.separated entry bound source = .ok (values, rest) := by
  induction entries generalizing bound with
  | nil rest =>
    cases bound with
    | zero => rfl
    | succ bound =>
      refine run_bind_eq_ok.2 ⟨rest, rest, rfl, ?_⟩
      rw [if_pos ends]
      rfl
  | @last source rest value first =>
    have shorter := named.shorter first
    have begins := named.not_atEnd first
    cases bound with
    | zero => omega
    | succ bound =>
      refine run_bind_eq_ok.2 ⟨source, source, rfl, ?_⟩
      rw [if_neg (Bool.eq_false_iff.1 begins)]
      refine run_bind_eq_ok.2 ⟨_, _, reads.complete first (.inl ends), ?_⟩
      refine run_bind_eq_ok.2 ⟨rest, rest, rfl, ?_⟩
      rw [if_pos ends]
      rfl
  | @cons source behind next rest value values first comma more ih =>
    have shorter := named.shorter first
    have begins := named.not_atEnd first
    have left := comma.remains.suffix.length_le
    have goes : atEnd behind = false := by
      obtain ⟨spacing, span, rest⟩ := comma
      rfl
    cases bound with
    | zero => omega
    | succ bound =>
      refine run_bind_eq_ok.2 ⟨source, source, rfl, ?_⟩
      rw [if_neg (Bool.eq_false_iff.1 begins)]
      refine run_bind_eq_ok.2 ⟨_, _, reads.complete first (.inr (comesNext_of_sign comma)), ?_⟩
      refine run_bind_eq_ok.2 ⟨behind, behind, rfl, ?_⟩
      rw [if_neg (Bool.eq_false_iff.1 goes)]
      refine run_bind_eq_ok.2 ⟨(), _, punctuation_eq_ok.2 comma, ?_⟩
      exact run_bind_eq_ok.2 ⟨_, _, ih ends (by omega), rfl⟩

theorem group_sound {delimiter : Delimiter} {source rest : List Placed} {values : List α}
    {opened : List Delimiter} (balanced : balancedFrom opened source = true)
    (h : Parser.group delimiter entry source = .ok (values, rest)) :
    Group production delimiter source values rest := by
  obtain ⟨_, inside, opening, read⟩ := run_bind_eq_ok.1 h
  obtain ⟨start, rfl⟩ := opening_eq_ok.1 opening
  obtain ⟨_, _, same, read⟩ := run_bind_eq_ok.1 read
  cases same
  obtain ⟨_, closing, separated, read⟩ := run_bind_eq_ok.1 read
  obtain ⟨entries, ends⟩ := separated_sound reads named (Nat.le_refl _) separated
  cases read
  -- the group is closed by its own delimiter, since all others have been closed
  have closed := (entries.remains named).balanced (delimiter :: opened) balanced
  match closing with
  | ⟨.closing other, stop⟩ :: rest =>
    simp only [balancedFrom, List.map_cons, Token.balanced, Bool.and_eq_true,
      decide_eq_true_eq] at closed
    obtain ⟨rfl, -⟩ := closed
    exact .mk start stop entries
  | [] => cases closed
  | ⟨.identifier _, _⟩ :: _ => cases ends
  | ⟨.literal _, _⟩ :: _ => cases ends
  | ⟨.punctuation _ _, _⟩ :: _ => cases ends
  | ⟨.opening _, _⟩ :: _ => cases ends

theorem group_complete {delimiter : Delimiter} {source rest : List Placed} {values : List α}
    (group : Group production delimiter source values rest) :
    Parser.group delimiter entry source = .ok (values, rest) := by
  obtain ⟨start, stop, entries⟩ := group
  refine run_bind_eq_ok.2 ⟨(), _, opening_eq_ok.2 ⟨start, rfl⟩, ?_⟩
  refine run_bind_eq_ok.2 ⟨_, _, rfl, ?_⟩
  exact run_bind_eq_ok.2 ⟨_, _, separated_complete reads named entries rfl (Nat.le_refl _), rfl⟩

end Lists

end Definition

end StatSchema
