/-
What may be left of placed tokens when whole groups and single tokens are taken from the head of them:
an end of the tokens, at which the same groups are open as at their beginning.
-/
import StatSchema.Token.Lookahead

namespace StatSchema

open Token Lookahead

/-- Whether every bracket among placed tokens is closed by its own kind, some being open already. -/
def balancedFrom (opened : List Delimiter) (tokens : List Placed) : Bool :=
  balanced opened (tokens.map (·.token))

/-- What may be left of a source: an end of it, outside of the groups that are opened before. -/
structure Remains (source rest : List Placed) : Prop where
  suffix : rest <:+ source
  balanced : ∀ opened, balancedFrom opened source = true → balancedFrom opened rest = true

namespace Lookahead

theorem opensGroup_of_opens {delimiter : Delimiter} {tokens : List Placed}
    (opened : opens delimiter tokens = true) : opensGroup tokens = true := by
  unfold opens at opened
  split at opened
  · rfl
  · cases opened

/-- What follows so many tokens, as far as they are no delimiters. -/
def past : Nat → List Placed → List Placed
  | count + 1, ⟨.identifier _, _⟩ :: rest => past count rest
  | count + 1, ⟨.punctuation _ _, _⟩ :: rest => past count rest
  | count + 1, ⟨.literal _, _⟩ :: rest => past count rest
  | _, tokens => tokens

theorem fromClosing_suffix (depth : Nat) (tokens : List Placed) :
    fromClosing depth tokens <:+ tokens := by
  induction tokens generalizing depth with
  | nil => exact List.suffix_refl _
  | cons next rest ih =>
    have later : ∀ depth, fromClosing depth rest <:+ next :: rest := fun depth =>
      (ih depth).trans (List.suffix_cons _ _)
    unfold fromClosing
    split
    · exact later _
    · split
      · exact List.suffix_refl _
      · exact later _
    · exact later _

/-- The end of a group closes it, whatever is open inside. -/
theorem balanced_fromClosing {inside : List Delimiter} {delimiter : Delimiter}
    {outer : List Delimiter} {tokens : List Placed}
    (balanced : balancedFrom (inside ++ delimiter :: outer) tokens = true) :
    ∃ span rest, fromClosing inside.length tokens = ⟨.closing delimiter, span⟩ :: rest ∧
      balancedFrom outer rest = true := by
  induction tokens generalizing inside with
  | nil =>
    unfold balancedFrom at balanced
    simp [Token.balanced] at balanced
  | cons next rest ih =>
    obtain ⟨token, span⟩ := next
    cases token with
    | opening d => exact @ih (d :: inside) balanced
    | closing d =>
      cases inside with
      | nil =>
        simp only [balancedFrom, List.map_cons, Token.balanced, List.nil_append,
          Bool.and_eq_true, decide_eq_true_eq] at balanced
        obtain ⟨rfl, balanced⟩ := balanced
        exact ⟨span, rest, rfl, balanced⟩
      | cons e inside =>
        simp only [balancedFrom, List.map_cons, Token.balanced, List.cons_append,
          Bool.and_eq_true, decide_eq_true_eq] at balanced
        exact ih balanced.2
    | identifier _ => exact ih balanced
    | punctuation _ _ => exact ih balanced
    | literal _ => exact ih balanced

end Lookahead

namespace Remains

variable {source middle rest : List Placed}

theorem refl (source : List Placed) : Remains source source :=
  ⟨List.suffix_refl _, fun _ balanced => balanced⟩

theorem trans (first : Remains source middle) (second : Remains middle rest) :
    Remains source rest :=
  ⟨second.suffix.trans first.suffix, fun opened balanced =>
    second.balanced opened (first.balanced opened balanced)⟩

theorem of_identifier (text : String) (span : Span) (rest : List Placed) :
    Remains (⟨.identifier text, span⟩ :: rest) rest :=
  ⟨List.suffix_cons _ _, fun _ balanced => balanced⟩

theorem of_punctuation (symbol : Char) (spacing : Spacing) (span : Span) (rest : List Placed) :
    Remains (⟨.punctuation symbol spacing, span⟩ :: rest) rest :=
  ⟨List.suffix_cons _ _, fun _ balanced => balanced⟩

theorem of_literal (text : String) (span : Span) (rest : List Placed) :
    Remains (⟨.literal text, span⟩ :: rest) rest :=
  ⟨List.suffix_cons _ _, fun _ balanced => balanced⟩

theorem past (count : Nat) (tokens : List Placed) : Remains tokens (past count tokens) := by
  induction tokens generalizing count with
  | nil => cases count <;> exact refl _
  | cons next rest ih =>
    obtain ⟨token, span⟩ := next
    cases count with
    | zero => cases token <;> exact refl _
    | succ count =>
      cases token with
      | opening d => exact refl _
      | closing d => exact refl _
      | identifier text => exact (of_identifier text span rest).trans (ih count)
      | punctuation symbol spacing => exact (of_punctuation symbol spacing span rest).trans (ih count)
      | literal text => exact (of_literal text span rest).trans (ih count)

/-- What is behind a group, some of which has been read. -/
theorem group {tokens : List Placed} (opened : opensGroup tokens = true)
    (within : Remains tokens.tail rest) : Remains tokens (fromClosing 0 rest).tail := by
  unfold opensGroup at opened
  split at opened
  · rename_i delimiter span inner
    refine ⟨?_, fun opened balanced => ?_⟩
    · exact ((List.tail_suffix _).trans (fromClosing_suffix 0 rest)).trans
        (within.suffix.trans (List.suffix_cons _ _))
    · obtain ⟨_, behind, ends, closed⟩ :=
        @balanced_fromClosing [] _ _ _ (within.balanced (delimiter :: opened) balanced)
      rw [List.length_nil] at ends
      rw [ends]
      exact closed
  · cases opened

/-- What follows the next token, or the group or the lifetime that comes next. -/
theorem second (tokens : List Placed) : Remains tokens (second tokens) := by
  match tokens with
  | [] => exact refl _
  | ⟨.opening delimiter, span⟩ :: inner =>
    have behind : Remains (⟨.opening delimiter, span⟩ :: inner) (fromClosing 0 inner).tail :=
      group rfl (refl _)
    rw [← List.drop_one] at behind
    exact behind
  | ⟨.closing delimiter, span⟩ :: rest => exact refl _
  | ⟨.identifier text, span⟩ :: rest => exact of_identifier text span rest
  | ⟨.literal text, span⟩ :: rest => exact of_literal text span rest
  | ⟨.punctuation symbol spacing, span⟩ :: rest =>
    have next := of_punctuation symbol spacing span rest
    by_cases lifetime : symbol = '\'' ∧ spacing = .joint ∧ anyIdentifierNext rest = true
    · obtain ⟨rfl, rfl, named⟩ := lifetime
      have both : Lookahead.second (⟨.punctuation '\'' .joint, span⟩ :: rest) = rest.drop 1 :=
        if_pos named
      rw [both]
      unfold anyIdentifierNext at named
      split at named
      · exact next.trans (of_identifier _ _ _)
      · cases named
    · have one : Lookahead.second (⟨.punctuation symbol spacing, span⟩ :: rest) = rest := by
        rw [Lookahead.second]
        split <;> simp_all
      rw [one]
      exact next

end Remains

end StatSchema
