/-
What a part of a source is written as. The tokens that are written for it may be others than those
that are read, but they keep their groups closed, they are read back wherever the tokens of the source
were, and what stood before these may stand before them.
-/
import StatSchema.Proofs.Printing.Sources
import StatSchema.Phrase.Basic

namespace StatSchema.Phrase

open Token Lookahead

/-! ## Closed tokens -/

/-- Tokens among which every bracket is closed by its own kind. -/
def Closed (tokens : List Token) : Prop :=
  ∀ opened more, balanced opened (tokens ++ more) = balanced opened more

namespace Closed

variable {front back : List Token}

theorem nil : Closed [] := fun _ _ => rfl

theorem identifier (text : String) : Closed [.identifier text] := fun _ _ => rfl

theorem punctuation (symbol : Char) (spacing : Spacing) : Closed [.punctuation symbol spacing] :=
  fun _ _ => rfl

theorem literal (text : String) : Closed [.literal text] := fun _ _ => rfl

theorem append (first : Closed front) (second : Closed back) : Closed (front ++ back) :=
  fun opened more => by rw [List.append_assoc, first, second]

theorem cons {token : Token} (first : Closed [token]) (second : Closed back) :
    Closed (token :: back) :=
  first.append second

theorem group (delimiter : Delimiter) (inside : Closed front) :
    Closed (.opening delimiter :: (front ++ [.closing delimiter])) := fun opened more => by
  show balanced (delimiter :: opened) (front ++ [.closing delimiter] ++ more) = _
  rw [List.append_assoc, inside]
  simp [balanced]

theorem operator (chars : List Char) : Closed (operator chars) := by
  induction chars with
  | nil => exact nil
  | cons c rest ih =>
    cases rest with
    | nil => exact punctuation c .alone
    | cons d rest => exact (punctuation c .joint).cons ih

end Closed

/-! ## Parts of a source -/

/-- An end of the source is left, and what is taken before it is closed. -/
def Takes (start stop : List Placed) : Prop :=
  ∃ front, start = front ++ stop ∧ Closed (front.map (·.token))

namespace Takes

variable {start middle stop : List Placed}

theorem refl (start : List Placed) : Takes start start := ⟨[], rfl, Closed.nil⟩

theorem trans (first : Takes start middle) (second : Takes middle stop) : Takes start stop := by
  obtain ⟨front, rfl, closed⟩ := first
  obtain ⟨back, rfl, closed'⟩ := second
  exact ⟨front ++ back, by rw [List.append_assoc], by rw [List.map_append]; exact closed.append closed'⟩

theorem cons {placed : Placed} (alone : Closed [placed.token]) : Takes (placed :: stop) stop :=
  ⟨[placed], rfl, alone⟩

theorem past (count : Nat) (tokens : List Placed) : Takes tokens (past count tokens) := by
  induction tokens generalizing count with
  | nil => cases count <;> exact refl _
  | cons next rest ih =>
    obtain ⟨token, span⟩ := next
    cases count with
    | zero => cases token <;> exact refl _
    | succ count =>
      cases token with
      | opening d => exact refl _
      | closing d => exact refl _
      | identifier text => exact (cons (.identifier text)).trans (ih count)
      | punctuation symbol spacing => exact (cons (.punctuation symbol spacing)).trans (ih count)
      | literal text => exact (cons (.literal text)).trans (ih count)

end Takes

/-- The groups that are open inside a group are closed before it is. -/
theorem exists_fromClosing {inside : List Delimiter} {delimiter : Delimiter}
    {outer : List Delimiter} {tokens : List Placed}
    (closes : balancedFrom (inside ++ delimiter :: outer) tokens = true) :
    ∃ front span rest, tokens = front ++ ⟨.closing delimiter, span⟩ :: rest ∧
      fromClosing inside.length tokens = ⟨.closing delimiter, span⟩ :: rest ∧
      ∀ opened more, balanced (inside ++ opened) (front.map (·.token) ++ more) = balanced opened more := by
  induction tokens generalizing inside with
  | nil =>
    rw [balancedFrom, List.map_nil, balanced, List.isEmpty_iff] at closes
    exact absurd closes (by simp)
  | cons next rest ih =>
    obtain ⟨token, span⟩ := next
    cases token with
    | opening d =>
      obtain ⟨front, place, behind, rfl, ends, closed⟩ := @ih (d :: inside) closes
      exact ⟨⟨.opening d, span⟩ :: front, place, behind, rfl, ends, closed⟩
    | closing d =>
      cases inside with
      | nil =>
        obtain ⟨same, -⟩ := Bool.and_eq_true_iff.1 closes
        obtain rfl := of_decide_eq_true same
        exact ⟨[], span, rest, rfl, rfl, fun _ _ => rfl⟩
      | cons e inside =>
        obtain ⟨same, later⟩ := Bool.and_eq_true_iff.1 closes
        obtain rfl := of_decide_eq_true same
        obtain ⟨front, place, behind, rfl, ends, closed⟩ := ih later
        refine ⟨⟨.closing d, span⟩ :: front, place, behind, rfl, ends, fun opened more => ?_⟩
        show (decide (d = d) && balanced (inside ++ opened) (front.map (·.token) ++ more)) = _
        rw [closed, decide_eq_true rfl, Bool.true_and]
    | _ =>
      obtain ⟨front, place, behind, rfl, ends, closed⟩ := ih closes
      exact ⟨⟨_, span⟩ :: front, place, behind, rfl, ends, closed⟩

/-! ## Sources that are read back -/

/-- The first token that is left. -/
def upcoming (tokens : List Placed) : Option Token := tokens.head?.map (·.token)

/-- An end of a source that was read from a text. -/
structure Legible (source : List Placed) : Prop where
  lexable : ∀ placed ∈ source, Lexable placed.token
  chain : chained none (source.map (·.token)) = true
  balanced : ∃ opened, balancedFrom opened source = true

theorem chained_append (next : Option Token) (front back : List Token) :
    chained next (front ++ back) = (chained (back.head?.or next) front && chained next back) := by
  induction front with
  | nil => rfl
  | cons token front ih =>
    show (coupled ((front ++ back).head?.or next) token && chained next (front ++ back)) =
      (coupled (front.head?.or (back.head?.or next)) token && chained (back.head?.or next) front &&
        chained next back)
    rw [ih, Bool.and_assoc]
    cases front <;> rfl

/-- What is glued to what follows is so, whatever follows in its place that glues as much. -/
theorem chained_imp {next other : Option Token} {tokens : List Token}
    (leads : ∀ t, coupled next t = true → coupled other t = true)
    (chain : chained next tokens = true) : chained other tokens = true := by
  induction tokens with
  | nil => rfl
  | cons token rest ih =>
    obtain ⟨couple, chain⟩ := Bool.and_eq_true_iff.1 chain
    refine Bool.and_eq_true_iff.2 ⟨?_, ih chain⟩
    cases rest with
    | nil => exact leads token couple
    | cons _ _ => exact couple

/-- What nothing need follow may be followed by anything. -/
theorem coupled_of_none {token : Token} (next : Option Token) (couple : coupled none token = true) :
    coupled next token = true := by
  unfold coupled at couple ⊢
  split at couple
  · cases couple
  · rfl

namespace Legible

variable {start stop : List Placed}

theorem suffix (legible : Legible start) {front : List Placed} (same : start = front ++ stop)
    (balanced : ∃ opened, balancedFrom opened stop = true) : Legible stop := by
  subst same
  have chain := legible.chain
  rw [List.map_append, chained_append, Bool.and_eq_true_iff] at chain
  exact ⟨fun placed here => legible.lexable placed (List.mem_append_right _ here), chain.2, balanced⟩

theorem remains (legible : Legible start) (remains : Remains start stop) : Legible stop := by
  obtain ⟨front, same⟩ := remains.suffix
  obtain ⟨opened, balanced⟩ := legible.balanced
  exact legible.suffix same.symm ⟨opened, remains.balanced opened balanced⟩

theorem takes (legible : Legible start) (takes : Takes start stop) : Legible stop := by
  obtain ⟨front, same, closed⟩ := takes
  obtain ⟨opened, balanced⟩ := legible.balanced
  refine legible.suffix same ⟨opened, ?_⟩
  rwa [same, balancedFrom, List.map_append, closed] at balanced

/-- What is behind the opening of a group. -/
theorem tail (legible : Legible start) (opens : opensGroup start = true) : Legible start.tail := by
  unfold opensGroup at opens
  split at opens
  · rename_i delimiter span rest
    obtain ⟨opened, balanced⟩ := legible.balanced
    exact @suffix _ rest legible [_] rfl ⟨delimiter :: opened, balanced⟩
  · cases opens

end Legible

/-! ## Tokens that are read back -/

/-- Tokens that are read back from what they are printed as, `next` being printed behind them. -/
structure Settled (next : Option Token) (tokens : List Token) : Prop where
  closed : Closed tokens
  lexable : ∀ token ∈ tokens, Lexable token
  chain : chained next tokens = true

namespace Settled

variable {next other : Option Token} {front back : List Token}

theorem nil (next : Option Token) : Settled next [] := ⟨.nil, List.forall_mem_nil _, rfl⟩

theorem append (first : Settled (back.head?.or next) front) (second : Settled next back) :
    Settled next (front ++ back) where
  closed := first.closed.append second.closed
  lexable := List.forall_mem_append.2 ⟨first.lexable, second.lexable⟩
  chain := by
    rw [chained_append, Bool.and_eq_true_iff]
    exact ⟨first.chain, second.chain⟩

/-- Other tokens may follow that are glued to as much. -/
theorem imp (leads : ∀ t, coupled next t = true → coupled other t = true) (first : Settled next front) :
    Settled other front :=
  ⟨first.closed, first.lexable, chained_imp leads first.chain⟩

theorem of_none (next : Option Token) (first : Settled none front) : Settled next front :=
  first.imp fun _ => coupled_of_none next

theorem group (delimiter : Delimiter) (inside : Settled (some (.closing delimiter)) front) :
    Settled next (.opening delimiter :: (front ++ [.closing delimiter])) where
  closed := .group delimiter inside.closed
  lexable := List.forall_mem_cons.2 ⟨trivial, List.forall_mem_append.2
    ⟨inside.lexable, List.forall_mem_singleton.2 trivial⟩⟩
  chain := by
    show chained next (front ++ [.closing delimiter]) = true
    rw [chained_append, Bool.and_eq_true_iff]
    exact ⟨inside.chain, rfl⟩

end Settled

theorem exists_of_anyIdentifierNext {tokens : List Placed} (next : anyIdentifierNext tokens = true) :
    ∃ name span rest, tokens = ⟨.identifier name, span⟩ :: rest := by
  unfold anyIdentifierNext at next
  split at next
  · exact ⟨_, _, _, rfl⟩
  · cases next

/-- All words are glued to the same characters. -/
theorem coupled_word {word other : String} (plain : Word word.toList) (plain' : Word other.toList)
    (token : Token) : coupled (some (.identifier word)) token = coupled (some (.identifier other)) token := by
  have unglued {word : String} (plain : Word word.toList) (symbol : Char) :
      glues symbol word.toList = decide (symbol = '\'') := by
    obtain ⟨c, rest, same, opens⟩ := plain.exists_cons
    obtain ⟨-, -, noMark, -⟩ := opening_facts opens
    unfold glues
    split_ifs with quote
    · rw [isLifetime_word plain, decide_eq_true quote]
    · rw [same, List.head?_cons, Option.any_some, noMark, decide_eq_false quote]
      rfl
  unfold coupled
  split
  · simp only [Option.any_some, Token.text]
    rw [unglued plain, unglued plain']
  · rfl

/-! ## What a part is written as -/

/-- From `start` to `stop`, the tokens `new` are written. -/
structure Renders (start : List Placed) (new : List Token) (stop : List Placed) : Prop where
  takes : Takes start stop
  settled : Settled (upcoming stop) new
  /-- What was glued to what is read is so to what is written. -/
  leads : ∀ token, coupled (upcoming start) token = true →
    coupled (new.head?.or (upcoming stop)) token = true

namespace Renders

variable {start middle stop : List Placed} {new more : List Token}

theorem refl (start : List Placed) : Renders start [] start where
  takes := .refl start
  settled := .nil _
  leads _ couple := couple

theorem trans (first : Renders start new middle) (second : Renders middle more stop) :
    Renders start (new ++ more) stop where
  takes := first.takes.trans second.takes
  settled := (first.settled.imp second.leads).append second.settled
  leads token couple := by
    have couple := first.leads token couple
    cases new with
    | nil => exact second.leads token couple
    | cons _ _ => exact couple

/-- The end of what is written may be taken back, and more may be read that nothing is written for, if
nothing need follow what remains of it. -/
theorem retract {front dropped : List Token} (first : Renders start (front ++ dropped) middle)
    (some_front : front ≠ []) (settled : Settled none front) (takes : Takes middle stop) :
    Renders start front stop where
  takes := first.takes.trans takes
  settled := settled.of_none _
  leads token couple := by
    obtain ⟨t, rest, rfl⟩ := List.exists_cons_of_ne_nil some_front
    exact first.leads token couple

/-- More may be read that nothing is written for, if nothing need follow what is written. -/
theorem retract_nil (first : Renders start new middle) (some_new : new ≠ []) (chain : chained none new = true)
    (takes : Takes middle stop) : Renders start new stop :=
  retract ((List.append_nil new).symm ▸ first) some_new
    ⟨first.settled.closed, first.settled.lexable, chain⟩ takes

/-- Between tokens that are written for what is read, others may be written for what is read there. -/
theorem enclose {front inside back : List Token} {last : List Placed} (first : Renders start front middle)
    (some_front : front ≠ []) (settled : Settled none front) (takes : Takes middle last)
    (within : Settled (back.head?.or (upcoming stop)) inside) (second : Renders last back stop) :
    Renders start (front ++ (inside ++ back)) stop where
  takes := (first.takes.trans takes).trans second.takes
  settled := (settled.of_none _).append (within.append second.settled)
  leads token couple := by
    obtain ⟨t, rest, rfl⟩ := List.exists_cons_of_ne_nil some_front
    exact first.leads token couple

/-- What is read between two identifiers may be left out. -/
theorem leaveOut (legible : Legible start) (renders : Renders start new stop)
    (begun : anyIdentifierNext start = true) (ended : anyIdentifierNext stop = true) :
    Renders start [] stop where
  takes := renders.takes
  settled := .nil _
  leads token couple := by
    have last := legible.takes renders.takes
    obtain ⟨first, span, rest, rfl⟩ := exists_of_anyIdentifierNext begun
    obtain ⟨second, span', rest', rfl⟩ := exists_of_anyIdentifierNext ended
    have word : Word first.toList := legible.lexable _ List.mem_cons_self
    have word' : Word second.toList := last.lexable _ List.mem_cons_self
    exact (coupled_word word word' token).symm.trans couple

/-- What is read may be written as it stands. -/
theorem verbatim (legible : Legible start) (takes : Takes start stop) :
    Renders start ((between start stop).map (·.token)) stop := by
  obtain ⟨front, rfl, closed⟩ := takes
  have front_eq : between (front ++ stop) stop = front := by
    rw [between, List.length_append, Nat.add_sub_cancel, List.take_left]
  rw [front_eq]
  have head : (stop.map (·.token)).head?.or none = upcoming stop := by
    rw [List.head?_map, Option.or_none, upcoming]
  refine ⟨⟨front, rfl, closed⟩, ⟨closed, ?_, ?_⟩, fun token couple => ?_⟩
  · rw [List.forall_mem_map]
    exact fun placed here => legible.lexable placed (List.mem_append_left _ here)
  · have chain := legible.chain
    rw [List.map_append, chained_append, head, Bool.and_eq_true_iff] at chain
    exact chain.1
  · cases front with
    | nil => exact couple
    | cons _ _ => exact couple

end Renders

/-! ## Signs -/

/-- Whether characters are the characters of a sign, which are all glued together. -/
def isSign (chars : List Char) : Bool :=
  chars.all (fun c => isPunctuation c && c ≠ '\'') && chained none (operator chars)

theorem coupled_congr {next other : Option Token} (token : Token)
    (same : next.map Token.text = other.map Token.text) : coupled next token = coupled other token := by
  unfold coupled
  split
  · cases next <;> cases other <;> simp_all
  · rfl

theorem lexable_operator {chars : List Char} (sign : isSign chars = true) :
    ∀ token ∈ operator chars, Lexable token := by
  have plain : chars.all (fun c => isPunctuation c && c ≠ '\'') = true := (Bool.and_eq_true_iff.1 sign).1
  clear sign
  induction chars with
  | nil => exact List.forall_mem_nil _
  | cons c rest ih =>
    rw [List.all_cons, Bool.and_eq_true_iff, Bool.and_eq_true_iff, decide_eq_true_eq] at plain
    obtain ⟨⟨mark, noLifetime⟩, later⟩ := plain
    cases rest with
    | nil => exact List.forall_mem_singleton.2 (lexable_mark mark noLifetime)
    | cons d rest => exact List.forall_mem_cons.2 ⟨lexable_mark mark noLifetime, ih later⟩

/-- A sign is written for one that begins alike. -/
theorem Renders.sign {tokens : List Placed} {chars new : List Char}
    (here : comesNext chars tokens = true) (head : new.head? = chars.head?) (plain : isSign new = true) :
    Renders tokens (operator new) (Lookahead.past chars.length tokens) where
  takes := .past _ _
  settled := .of_none _ ⟨.operator new, lexable_operator plain, (Bool.and_eq_true_iff.1 plain).2⟩
  leads token couple := by
    match chars, tokens, here with
    | [], _, _ =>
      obtain rfl := List.head?_eq_none_iff.1 head
      exact couple
    | c :: rest, ⟨.punctuation symbol spacing, span⟩ :: _, here =>
      obtain rfl : symbol = c := of_decide_eq_true (Bool.and_eq_true_iff.1 here).1
      obtain ⟨more, rfl⟩ := List.head?_eq_some_iff.1 head
      have first : ∃ spacing, (operator (symbol :: more)).head? = some (.punctuation symbol spacing) := by
        cases more with
        | nil => exact ⟨_, rfl⟩
        | cons _ _ => exact ⟨_, rfl⟩
      obtain ⟨spacing', first⟩ := first
      rw [first]
      exact (coupled_congr token rfl).trans couple

/-! ## Groups -/

/-- What is read to the end of a group is written between the brackets of the group. -/
theorem Renders.group {delimiter : Delimiter} {span : Span} {inner last : List Placed}
    {new : List Token} (legible : Legible (⟨.opening delimiter, span⟩ :: inner))
    (inside : Renders inner new last) (ended : atEnd last = true) :
    ∃ place behind, last = ⟨.closing delimiter, place⟩ :: behind ∧
      Renders (⟨.opening delimiter, span⟩ :: inner)
        (.opening delimiter :: (new ++ [.closing delimiter])) behind := by
  obtain ⟨front, rfl, closed⟩ := inside.takes
  obtain ⟨opened, closes⟩ := legible.balanced
  have left : balancedFrom (delimiter :: opened) last = true := by
    have closes : balanced (delimiter :: opened) ((front ++ last).map (·.token)) = true := closes
    rwa [List.map_append, closed] at closes
  match last, ended with
  | [], _ => cases left
  | ⟨.closing other, place⟩ :: behind, _ =>
    obtain rfl := of_decide_eq_true (Bool.and_eq_true_iff.1 left).1
    refine ⟨place, behind, rfl, ⟨?_, .group other inside.settled, fun _ couple => couple⟩⟩
    refine ⟨⟨.opening other, span⟩ :: (front ++ [⟨.closing other, place⟩]), by simp, ?_⟩
    rw [List.map_cons, List.map_append]
    exact .group other closed

/-- The group that comes next is closed. -/
theorem Takes.second {tokens : List Placed} (legible : Legible tokens)
    (opens : opensGroup tokens = true) : Takes tokens (Lookahead.second tokens) := by
  unfold opensGroup at opens
  split at opens
  · rename_i delimiter span inner
    obtain ⟨opened, closes⟩ := legible.balanced
    obtain ⟨front, place, behind, rfl, ends, closed⟩ :=
      @exists_fromClosing [] delimiter opened inner closes
    have left : Lookahead.second (⟨.opening delimiter, span⟩ :: (front ++ ⟨.closing delimiter, place⟩ ::
        behind)) = behind := congrArg (List.drop 1) ends
    rw [left]
    refine ⟨⟨.opening delimiter, span⟩ :: (front ++ [⟨.closing delimiter, place⟩]), by simp, ?_⟩
    rw [List.map_cons, List.map_append]
    exact .group delimiter closed
  · cases opens

end StatSchema.Phrase
