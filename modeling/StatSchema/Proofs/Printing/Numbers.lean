/-
Where a number ends. The character behind a number decides whether it goes on, but a separator never
makes it longer or shorter than it is before other text. Main statement: `numberLength_separated`.
-/
import Mathlib.Data.List.TakeWhile
import Mathlib.Tactic.SplitIfs
import Mathlib.Tactic.Tauto
import StatSchema.Token.Literal

namespace StatSchema

/-- What all characters of a list share is decided on the list: characters are finitely many, so that a
statement on all of them could be decided, but not within reason. -/
theorem forall_mem_of_all {p : Char → Prop} [DecidablePred p] {chars : List Char}
    (all : chars.all (fun c => decide (p c)) = true) : ∀ c ∈ chars, p c := fun c here =>
  of_decide_eq_true (List.all_eq_true.1 all c here)

/-- What all ASCII characters share is shared by the characters up to one of them. -/
theorem holds_of_le {p : Char → Prop} (all : ∀ code < 0x80, p (Char.ofNat code)) {c last : Char}
    (below : c ≤ last) (ascii : last.toNat < 0x80) : p c := by
  have here := all c.toNat (Nat.lt_of_le_of_lt (UInt32.le_iff_toNat_le.1 below) ascii)
  rwa [Char.ofNat_toNat] at here

namespace Text

/-! ## Tables of characters -/

/-- Whether the ranges of one table lie in those of another, both in ascending order. -/
def Ranges.within (ranges : Ranges) : Ranges → Bool
  | [] => ranges.isEmpty
  | (first, last) :: others =>
    within (ranges.dropWhile fun (first', last') => first ≤ first' && last' ≤ last) others

theorem Ranges.covers_of_within {ranges others : Ranges} {c : Char}
    (inside : ranges.within others = true) (covered : ranges.covers c = true) :
    others.covers c = true := by
  induction others generalizing ranges with
  | nil =>
    obtain rfl := List.isEmpty_iff.1 inside
    cases covered
  | cons range others ih =>
    obtain ⟨first, last⟩ := range
    obtain ⟨⟨first', last'⟩, here, between⟩ := List.any_eq_true.1 covered
    rw [← List.takeWhile_append_dropWhile (p := fun (first', last') => first ≤ first' && last' ≤ last)
      (l := ranges), List.mem_append] at here
    rcases here with early | late
    · have holds := List.mem_takeWhile_imp early
      simp only [Bool.and_eq_true, decide_eq_true_eq] at between holds
      refine List.any_eq_true.2 ⟨_, List.mem_cons_self, ?_⟩
      simp only [Bool.and_eq_true, decide_eq_true_eq]
      omega
    · have later := ih inside (List.any_eq_true.2 ⟨_, late, between⟩)
      exact List.any_eq_true.2 (by
        obtain ⟨range, here, between⟩ := List.any_eq_true.1 later
        exact ⟨range, List.mem_cons_of_mem _ here, between⟩)

end Text

namespace Token

open Text

theorem identifierStart_within : identifierStartRanges.within identifierContinueRanges = true := by
  decide +kernel

theorem continuesIdentifier_of_opens {c : Char} (opens : opensIdentifier c = true) :
    continuesIdentifier c = true := by
  unfold opensIdentifier at opens
  unfold continuesIdentifier
  split_ifs at opens ⊢ with ascii
  · simp only [Char.isAlphanum, Bool.or_eq_true] at opens ⊢
    tauto
  · exact Ranges.covers_of_within identifierStart_within opens

theorem hexValue_continues {c : Char} {digit : Nat} (value : hexValue c = some digit) :
    continuesIdentifier c = true := by
  have all : ∀ code < 0x80, (hexValue (Char.ofNat code)).isSome = true →
      continuesIdentifier (Char.ofNat code) = true := by decide
  have ascii : ∀ last : Char, c ≤ last → last.toNat < 0x80 → continuesIdentifier c = true :=
    fun _ below low => holds_of_le
      (p := fun c => (hexValue c).isSome = true → continuesIdentifier c = true) all below low
      (by rw [value]; rfl)
  unfold hexValue at value
  split_ifs at value with digit lower upper
  · simp only [Char.isDigit, Bool.and_eq_true, decide_eq_true_eq] at digit
    exact ascii '9' digit.2 (by decide)
  · simp only [Bool.and_eq_true, decide_eq_true_eq] at lower
    exact ascii 'f' lower.2 (by decide)
  · simp only [Bool.and_eq_true, decide_eq_true_eq] at upper
    exact ascii 'F' upper.2 (by decide)

theorem continuesIdentifier_digit {c : Char} (digit : c.isDigit = true) :
    continuesIdentifier c = true :=
  hexValue_continues (show hexValue c = some (c.toNat - '0'.toNat) from if_pos digit)

/-! ## Separators -/

/-- The characters that are written behind a token that is not glued to the next one. -/
def separators : List Char := [' ', ')', ']', '\n']

/-- A text that is empty or begins with a separator. -/
def Separated (rest : List Char) : Prop := ∀ c ∈ rest.head?, c ∈ separators

/-- A text that no identifier goes on with. -/
def Uncontinued (rest : List Char) : Prop := ∀ c ∈ rest.head?, continuesIdentifier c = false

theorem separated_nil : Separated [] := fun _ none => by cases none

theorem separated_cons {c : Char} (rest : List Char) (separates : c ∈ separators) :
    Separated (c :: rest) := fun _ head => by cases head; exact separates

theorem Separated.uncontinued {rest : List Char} (separated : Separated rest) :
    Uncontinued rest := by
  have none : ∀ c ∈ separators, continuesIdentifier c = false := forall_mem_of_all (by decide)
  exact fun c head => none c (separated c head)

theorem Uncontinued.identifierLength {rest : List Char} (uncontinued : Uncontinued rest) :
    identifierLength rest = 0 := by
  cases rest with
  | nil => rfl
  | cons c rest =>
    refine if_neg fun opens => ?_
    have ends := uncontinued c rfl
    rw [continuesIdentifier_of_opens opens] at ends
    cases ends

/-! ## Suffixes -/

theorem takeWhile_append_of_head {p : Char → Bool} {text rest : List Char}
    (stops : ∀ c ∈ rest.head?, p c = false) :
    (text ++ rest).takeWhile p = text.takeWhile p := by
  have none : rest.takeWhile p = [] := by
    cases rest with
    | nil => rfl
    | cons c rest => exact List.takeWhile_cons_of_neg (by simp [stops c rfl])
  rw [List.takeWhile_append, none]
  split_ifs with whole
  · rw [List.append_nil, List.takeWhile_prefix _ |>.eq_of_length whole]
  · rfl

theorem identifierLength_append {text rest : List Char} (uncontinued : Uncontinued rest)
    (some_text : text ≠ []) : identifierLength (text ++ rest) = identifierLength text := by
  obtain ⟨c, text, rfl⟩ := List.exists_cons_of_ne_nil some_text
  rw [List.cons_append, identifierLength, identifierLength, takeWhile_append_of_head uncontinued]

/-! ## Numbers -/

/-- A text that goes on with no digit and no underscore. -/
def Undigited (rest : List Char) : Prop := ∀ c ∈ rest.head?, c.isDigit = false ∧ c ≠ '_'

theorem Uncontinued.undigited {rest : List Char} (uncontinued : Uncontinued rest) :
    Undigited rest := by
  intro c head
  have ends := uncontinued c head
  refine ⟨Bool.eq_false_iff.2 fun digit => ?_, ?_⟩
  · rw [continuesIdentifier_digit digit] at ends
    cases ends
  · rintro rfl
    revert ends
    decide

theorem exponentLength_valued {signed : Bool} {rest : List Char} (undigited : Undigited rest) :
    exponentLength signed true rest = some 0 := by
  cases rest with
  | nil => rfl
  | cons c rest =>
    obtain ⟨noDigit, noUnderscore⟩ := undigited c rfl
    simp [exponentLength, noDigit, noUnderscore]

theorem exponentLength_unvalued {signed : Bool} {rest : List Char} (undigited : Undigited rest) :
    exponentLength signed false rest ≠ some 0 := by
  cases rest with
  | nil => simp [exponentLength]
  | cons c rest =>
    obtain ⟨noDigit, noUnderscore⟩ := undigited c rfl
    rw [exponentLength, if_neg (Bool.eq_false_iff.1 noDigit), if_neg noUnderscore]
    split_ifs <;> simp_all

theorem exponentLength_append {signed valued : Bool} {text rest other : List Char} {n : Nat}
    (undigited : Undigited rest) (undigited' : Undigited other)
    (read : exponentLength signed valued (text ++ rest) = some n) (within : n ≤ text.length) :
    exponentLength signed valued (text ++ other) = some n := by
  induction text generalizing signed valued n with
  | nil =>
    obtain rfl : n = 0 := Nat.le_zero.1 within
    cases valued with
    | true => exact exponentLength_valued undigited'
    | false => exact absurd read (exponentLength_unvalued undigited)
  | cons c text ih =>
    rw [List.cons_append, exponentLength] at read ⊢
    split_ifs at read ⊢
    all_goals try exact read
    all_goals
      obtain ⟨n', later, rfl⟩ := Option.map_eq_some_iff.1 read
      rw [ih later (Nat.le_of_succ_le_succ within)]
      rfl

theorem exponentLength_separated {signed valued : Bool} {text stop : List Char} {n : Nat}
    (separated : Separated stop) (read : exponentLength signed valued (text ++ stop) = some n) :
    n ≤ text.length := by
  induction text generalizing signed valued n with
  | nil =>
    have unsigned : ∀ c ∈ separators, (c = '+' || c = '-') = false :=
      forall_mem_of_all (by decide)
    cases valued with
    | true =>
      rw [List.nil_append, exponentLength_valued separated.uncontinued.undigited] at read
      exact Nat.le_of_eq (Option.some.inj read).symm
    | false =>
      cases stop with
      | nil => cases read
      | cons c stop =>
        obtain ⟨noDigit, noUnderscore⟩ := separated.uncontinued.undigited c rfl
        rw [List.nil_append, exponentLength, unsigned c (separated c rfl)] at read
        simp [noDigit, noUnderscore] at read
  | cons c text ih =>
    rw [List.cons_append, exponentLength] at read
    rw [List.length_cons]
    split_ifs at read
    all_goals first
      | (cases read; exact Nat.zero_le _)
      | (obtain ⟨n', later, rfl⟩ := Option.map_eq_some_iff.1 read
         exact Nat.succ_le_succ (ih later))

theorem markedExponent_pos {source : List Char} {n : Nat} (read : markedExponent source = some n) :
    0 < n := by
  unfold markedExponent at read
  split at read
  · split_ifs at read
    obtain ⟨n', -, rfl⟩ := Option.map_eq_some_iff.1 read
    exact Nat.succ_pos n'
  · cases read

theorem markedExponent_append {text rest other : List Char} {n : Nat} (undigited : Undigited rest)
    (undigited' : Undigited other) (read : markedExponent (text ++ rest) = some n)
    (within : n ≤ text.length) : markedExponent (text ++ other) = some n := by
  cases text with
  | nil => exact absurd within (Nat.not_le_of_lt (markedExponent_pos read))
  | cons c text =>
    rw [List.cons_append, markedExponent] at read ⊢
    split_ifs at read ⊢ with mark
    obtain ⟨n', later, rfl⟩ := Option.map_eq_some_iff.1 read
    rw [exponentLength_append undigited undigited' later (Nat.le_of_succ_le_succ within)]
    rfl

theorem markedExponent_separated {text stop : List Char} {n : Nat} (separated : Separated stop)
    (read : markedExponent (text ++ stop) = some n) : n ≤ text.length := by
  cases text with
  | nil =>
    have unmarked : ∀ c ∈ separators, (c = 'e' || c = 'E') = false :=
      forall_mem_of_all (by decide)
    cases stop with
    | nil => cases read
    | cons c stop =>
      rw [List.nil_append, markedExponent, unmarked c (separated c rfl)] at read
      cases read
  | cons c text =>
    rw [List.cons_append, markedExponent] at read
    split_ifs at read with mark
    obtain ⟨n', later, rfl⟩ := Option.map_eq_some_iff.1 read
    exact Nat.succ_le_succ (exponentLength_separated separated later)

/-- An optional exponent within a text does not depend on the separator behind it. -/
theorem markedExponent_getD (text : List Char) {rest stop : List Char} (undigited : Undigited rest)
    (separated : Separated stop) (within : (markedExponent (text ++ rest)).getD 0 ≤ text.length) :
    (markedExponent (text ++ stop)).getD 0 = (markedExponent (text ++ rest)).getD 0 := by
  cases marked : markedExponent (text ++ rest) with
  | some n =>
    rw [marked] at within
    rw [markedExponent_append undigited separated.uncontinued.undigited marked within]
  | none =>
    cases marked' : markedExponent (text ++ stop) with
    | none => rfl
    | some n =>
      have back := markedExponent_append separated.uncontinued.undigited undigited marked'
        (markedExponent_separated separated marked')
      rw [marked] at back
      cases back

theorem digitRun_append {text rest : List Char} (undigited : Undigited rest) :
    digitRun (text ++ rest) = digitRun text := by
  unfold digitRun
  rw [takeWhile_append_of_head]
  intro c head
  obtain ⟨noDigit, noUnderscore⟩ := undigited c head
  simp [noDigit, noUnderscore]

theorem digitRun_le (text : List Char) : digitRun text ≤ text.length :=
  (List.takeWhile_prefix _).length_le

/-- What is behind the digits at the head of a text. -/
theorem drop_digitRun {text rest : List Char} (undigited : Undigited rest) :
    (text ++ rest).drop (digitRun (text ++ rest)) = text.drop (digitRun text) ++ rest := by
  rw [digitRun_append undigited, List.drop_append_of_le_length (digitRun_le text)]

/-- The length of a number with a point or an exponent, given the number of its first digits and
what is behind them. -/
def fractionBehind (whole : Nat) : List Char → Option Nat
  | '.' :: rest =>
    if rest.head?.any fun c => c = '.' || opensIdentifier c then none
    else some (whole + 1 + digitRun rest + (markedExponent (rest.drop (digitRun rest))).getD 0)
  | rest => (markedExponent rest).map (· + whole)

theorem fractionLength_eq (source : List Char) :
    fractionLength source = if !(source.head?.any Char.isDigit) then none
      else fractionBehind (digitRun source) (source.drop (digitRun source)) := rfl

theorem fractionLength_append {c : Char} {text rest : List Char} (undigited : Undigited rest) :
    fractionLength (c :: text ++ rest) = if !c.isDigit then none
      else fractionBehind (digitRun (c :: text)) ((c :: text).drop (digitRun (c :: text)) ++ rest) := by
  rw [fractionLength_eq, drop_digitRun undigited, digitRun_append undigited]
  rfl

theorem fractionBehind_other {whole : Nat} {c : Char} {rest : List Char} (other : c ≠ '.') :
    fractionBehind whole (c :: rest) = (markedExponent (c :: rest)).map (· + whole) := by
  unfold fractionBehind
  split
  · rename_i same
    cases same
    exact absurd rfl other
  · rfl

theorem fractionBehind_pos {whole n : Nat} {rest : List Char}
    (read : fractionBehind whole rest = some n) : whole < n := by
  unfold fractionBehind at read
  split at read
  · split_ifs at read
    cases read
    omega
  · obtain ⟨m, marked, rfl⟩ := Option.map_eq_some_iff.1 read
    have := markedExponent_pos marked
    omega

/-- A number with a point or an exponent ends where it does before a separator. -/
theorem fractionBehind_append {whole n : Nat} {text rest stop : List Char}
    (undigited : Undigited rest) (separated : Separated stop)
    (read : fractionBehind whole (text ++ rest) = some n) (within : n ≤ whole + text.length) :
    fractionBehind whole (text ++ stop) = some n := by
  cases text with
  | nil => exact absurd within (Nat.not_le_of_lt (fractionBehind_pos read))
  | cons c text =>
    by_cases point : c = '.'
    · subst point
      simp only [List.cons_append, fractionBehind, List.length_cons] at read within ⊢
      rw [drop_digitRun undigited, digitRun_append undigited] at read
      rw [drop_digitRun separated.uncontinued.undigited,
        digitRun_append separated.uncontinued.undigited]
      split_ifs at read with goes_on
      have run := digitRun_le text
      have exponent := markedExponent_getD (text.drop (digitRun text)) undigited separated (by
        cases read
        rw [List.length_drop]
        omega)
      rw [exponent, if_neg]
      · exact read
      · cases text with
        | nil =>
          have ends : ∀ c ∈ separators, (c = '.' || opensIdentifier c) = false :=
            forall_mem_of_all (by decide)
          cases stop with
          | nil => simp
          | cons c stop => simpa using ends c (separated c rfl)
        | cons c text => exact goes_on
    · rw [List.cons_append, fractionBehind_other point, ← List.cons_append] at read ⊢
      obtain ⟨m, marked, rfl⟩ := Option.map_eq_some_iff.1 read
      rw [markedExponent_append undigited separated.uncontinued.undigited marked (by omega)]
      rfl

/-- Before a separator, a word is no number with an exponent unless it is one before anything else. -/
theorem fractionBehind_word {whole n : Nat} {text rest stop : List Char}
    (undigited : Undigited rest) (separated : Separated stop)
    (word : ∀ c ∈ text, continuesIdentifier c = true)
    (read : fractionBehind whole (text ++ stop) = some n) :
    fractionBehind whole (text ++ rest) = some n ∧ n ≤ whole + text.length := by
  cases text with
  | nil =>
    have ends : ∀ c ∈ separators, c ≠ '.' ∧ (c = 'e' || c = 'E') = false :=
      forall_mem_of_all (by decide)
    cases stop with
    | nil => cases read
    | cons c stop =>
      obtain ⟨noPoint, noMark⟩ := ends c (separated c rfl)
      rw [List.nil_append, fractionBehind_other noPoint, markedExponent, noMark] at read
      cases read
  | cons c text =>
    have point : c ≠ '.' := by
      rintro rfl
      have continues := word '.' List.mem_cons_self
      revert continues
      decide
    rw [List.cons_append, fractionBehind_other point, ← List.cons_append] at read ⊢
    obtain ⟨m, marked, rfl⟩ := Option.map_eq_some_iff.1 read
    have within := markedExponent_separated separated marked
    rw [markedExponent_append separated.uncontinued.undigited undigited marked within]
    exact ⟨rfl, by omega⟩

theorem identifierLength_le (text : List Char) : identifierLength text ≤ text.length := by
  cases text with
  | nil => exact Nat.le_refl 0
  | cons c text =>
    have run := (List.takeWhile_prefix (p := continuesIdentifier) (l := text)).length_le
    rw [Token.identifierLength]
    split_ifs
    · exact Nat.succ_le_succ run
    · exact Nat.zero_le _

/-- A suffix that ends a text is one before any text that goes on with no identifier. -/
theorem identifierLength_suffix {text rest : List Char}
    (whole : identifierLength (text ++ rest) = text.length) :
    (∀ c ∈ text, continuesIdentifier c = true) ∧
      ∀ other, Uncontinued other → identifierLength (text ++ other) = text.length := by
  cases text with
  | nil => exact ⟨by simp, fun other uncontinued => uncontinued.identifierLength⟩
  | cons c text =>
    rw [List.cons_append, Token.identifierLength] at whole
    split_ifs at whole with opens
    · have same : (text ++ rest).takeWhile continuesIdentifier = text :=
        (List.prefix_of_prefix_length_le (List.takeWhile_prefix _) (List.prefix_append _ _)
          (Nat.le_of_eq (Nat.succ.inj whole))).eq_of_length (Nat.succ.inj whole)
      have continues : ∀ c ∈ text, continuesIdentifier c = true := fun c here => by
        rw [← same] at here
        exact List.mem_takeWhile_imp here
      refine ⟨List.forall_mem_cons.2 ⟨continuesIdentifier_of_opens opens, continues⟩,
        fun other uncontinued => ?_⟩
      rw [List.cons_append, Token.identifierLength, if_pos opens,
        takeWhile_append_of_head uncontinued, List.takeWhile_eq_self_iff.2 continues]
      rfl

theorem withNumberSuffix_append {text rest : List Char} {n : Nat} (uncontinued : Uncontinued rest)
    (within : n ≤ text.length) :
    withNumberSuffix (text ++ rest) n = withNumberSuffix text n := by
  have suffix : identifierLength ((text ++ rest).drop n) = identifierLength (text.drop n) := by
    rw [List.drop_append_of_le_length within]
    by_cases ended : text.drop n = []
    · rw [ended, List.nil_append, uncontinued.identifierLength]
      rfl
    · exact identifierLength_append uncontinued ended
  have reach : n + identifierLength (text.drop n) ≤ text.length := by
    have run := identifierLength_le (text.drop n)
    rw [List.length_drop] at run
    omega
  unfold withNumberSuffix
  dsimp only
  rw [suffix, List.drop_append_of_le_length reach]
  cases text.drop (n + identifierLength (text.drop n)) with
  | cons c more => rfl
  | nil =>
    have ends : (rest.head?.any continuesIdentifier) = false := by
      rw [Option.any_eq_false]
      exact fun c head => by simp [uncontinued c head]
    rw [List.nil_append, ends]
    rfl

theorem withNumberSuffix_eq_some {source : List Char} {n m : Nat}
    (read : withNumberSuffix source n = some m) :
    m = n + identifierLength (source.drop n) ∧ Uncontinued (source.drop m) := by
  unfold withNumberSuffix at read
  dsimp only at read
  split_ifs at read with goes_on
  cases read
  refine ⟨rfl, fun c head => ?_⟩
  rw [head] at goes_on
  simpa using goes_on

theorem baseDigits_uncontinued {base : Nat} {any : Bool} {rest : List Char}
    (uncontinued : Uncontinued rest) :
    baseDigits base any rest = if any then some 0 else none := by
  cases rest with
  | nil => rfl
  | cons c rest =>
    have ends := uncontinued c rfl
    have noUnderscore : c ≠ '_' := (uncontinued.undigited c rfl).2
    have noValue : hexValue c = none := by
      cases value : hexValue c with
      | none => rfl
      | some digit =>
        rw [hexValue_continues value] at ends
        cases ends
    rw [baseDigits, if_neg noUnderscore, noValue]

theorem baseDigits_append {base : Nat} {any : Bool} {text rest : List Char}
    (uncontinued : Uncontinued rest) :
    baseDigits base any (text ++ rest) = baseDigits base any text := by
  induction text generalizing any with
  | nil => rw [List.nil_append, baseDigits_uncontinued uncontinued]; rfl
  | cons c text ih => rw [List.cons_append, baseDigits, baseDigits, ih, ih]

theorem baseDigits_continues {base : Nat} {any : Bool} {source : List Char} {n : Nat}
    (read : baseDigits base any source = some n) :
    n ≤ source.length ∧ ∀ c ∈ source.take n, continuesIdentifier c = true := by
  induction source generalizing any n with
  | nil =>
    cases any with
    | true =>
      cases read
      simp
    | false => cases read
  | cons first rest ih =>
    cases n with
    | zero => simp
    | succ n =>
      have step : continuesIdentifier first = true ∧
          ∃ any', baseDigits base any' rest = some n := by
        rw [baseDigits] at read
        by_cases underscore : first = '_'
        · rw [if_pos underscore] at read
          split at read
          · cases read
          · exact ⟨by rw [underscore]; decide, any, by simpa using read⟩
        · rw [if_neg underscore] at read
          cases value : hexValue first with
          | none =>
            rw [value] at read
            cases any <;> simp at read
          | some digit =>
            rw [value] at read
            dsimp only at read
            split_ifs at read
            · exact ⟨hexValue_continues value, true, by simpa using read⟩
            · cases read
      obtain ⟨continues, any', later⟩ := step
      obtain ⟨within, all⟩ := ih later
      exact ⟨Nat.succ_le_succ within, List.forall_mem_cons.2 ⟨continues, all⟩⟩

theorem wholeLength_decimal {source : List Char}
    (decimal : ∀ mark ∈ ['x', 'o', 'b'], ∀ more, source ≠ '0' :: mark :: more) :
    wholeLength source = baseDigits 10 false source := by
  unfold wholeLength
  split
  · exact absurd rfl (decimal 'x' (by decide) _)
  · exact absurd rfl (decimal 'o' (by decide) _)
  · exact absurd rfl (decimal 'b' (by decide) _)
  · rfl

theorem wholeLength_append {text rest : List Char} (uncontinued : Uncontinued rest)
    (some_text : text ≠ []) : wholeLength (text ++ rest) = wholeLength text := by
  have marks : ∀ mark ∈ ['x', 'o', 'b'], continuesIdentifier mark = true :=
    forall_mem_of_all (by decide)
  by_cases marked : ∃ mark ∈ ['x', 'o', 'b'], ∃ more, text = '0' :: mark :: more
  · obtain ⟨mark, here, more, rfl⟩ := marked
    simp only [List.mem_cons, List.not_mem_nil, or_false] at here
    rcases here with rfl | rfl | rfl <;>
      simp only [List.cons_append, wholeLength, baseDigits_append uncontinued]
  · rw [wholeLength_decimal, wholeLength_decimal, baseDigits_append uncontinued]
    · exact fun mark here more same => marked ⟨mark, here, more, same⟩
    · intro mark here more same
      match text, some_text with
      | [c], _ =>
        -- the mark of a base would be behind the text
        obtain ⟨-, rfl⟩ := List.cons.inj same
        have ends := uncontinued mark rfl
        rw [marks mark here] at ends
        cases ends
      | first :: second :: text, _ =>
        cases same
        exact marked ⟨mark, here, text, rfl⟩

theorem wholeLength_continues {source : List Char} {n : Nat} (read : wholeLength source = some n) :
    n ≤ source.length ∧ ∀ c ∈ source.take n, continuesIdentifier c = true := by
  have marked {mark : Char} (continues : continuesIdentifier mark = true) {base n : Nat}
      {rest : List Char} (read : (baseDigits base false rest).map (· + 2) = some n) :
      n ≤ ('0' :: mark :: rest).length ∧
        ∀ c ∈ ('0' :: mark :: rest).take n, continuesIdentifier c = true := by
    obtain ⟨n', later, rfl⟩ := Option.map_eq_some_iff.1 read
    obtain ⟨within, all⟩ := baseDigits_continues later
    exact ⟨Nat.add_le_add_right within 2,
      List.forall_mem_cons.2 ⟨by decide, List.forall_mem_cons.2 ⟨continues, all⟩⟩⟩
  unfold wholeLength at read
  split at read
  · exact marked (by decide) read
  · exact marked (by decide) read
  · exact marked (by decide) read
  · exact baseDigits_continues read

theorem orElse_eq_some {first second : Option Nat} {n : Nat} :
    (first <|> second) = some n ↔ first = some n ∨ first = none ∧ second = some n := by
  simp

/-- The length of the number at the head of a text, with its suffix. -/
def numberLength (source : List Char) : Option Nat :=
  (fractionLength source).bind (withNumberSuffix source) <|>
    (wholeLength source).bind (withNumberSuffix source)

theorem numberLength_eq_none {c : Char} (noDigit : c.isDigit = false) (text : List Char) :
    numberLength (c :: text) = none := by
  have noFraction : fractionLength (c :: text) = none := by
    rw [fractionLength_eq, List.head?_cons, Option.any_some, noDigit]
    rfl
  have noWhole : wholeLength (c :: text) = none := by
    have zero : c ≠ '0' := by
      rintro rfl
      cases noDigit
    rw [wholeLength_decimal fun _ _ _ same => zero (List.cons.inj same).1, baseDigits]
    by_cases underscore : c = '_'
    · rw [if_pos underscore]
      rfl
    · rw [if_neg underscore, noDigit]
      cases value : hexValue c with
      | none => rfl
      | some digit =>
        have large : ¬ digit < 10 := by
          unfold hexValue at value
          rw [noDigit, if_neg Bool.false_ne_true] at value
          split_ifs at value <;> cases value <;> omega
        exact if_neg large
  rw [numberLength, noFraction, noWhole]
  rfl

/-- A number that has no point and no exponent before other text has none before a separator. -/
theorem fraction_eq_none {c : Char} {text rest stop : List Char} (uncontinued : Uncontinued rest)
    (separated : Separated stop) (word : ∀ d ∈ c :: text, continuesIdentifier d = true)
    (noFraction : (fractionLength (c :: text ++ rest)).bind (withNumberSuffix (c :: text ++ rest)) = none) :
    (fractionLength (c :: text ++ stop)).bind (withNumberSuffix (c :: text ++ stop)) = none := by
  rw [Option.bind_eq_none_iff] at noFraction ⊢
  intro n measured
  rw [fractionLength_append separated.uncontinued.undigited] at measured
  split_ifs at measured with digit
  obtain ⟨measured', within⟩ := fractionBehind_word uncontinued.undigited separated
    (fun d here => word d (List.mem_of_mem_drop here)) measured
  have unsuffixed := noFraction n (by
    rw [fractionLength_append uncontinued.undigited, if_neg digit, measured'])
  have within : n ≤ (c :: text).length := by
    have run := digitRun_le (c :: text)
    rw [List.length_drop] at within
    omega
  rw [withNumberSuffix_append uncontinued within] at unsuffixed
  rw [withNumberSuffix_append separated.uncontinued within, unsuffixed]

/-- A number ends where it does before a separator. -/
theorem numberLength_separated {c : Char} {text rest stop : List Char} (separated : Separated stop)
    (read : numberLength (c :: text ++ rest) = some (c :: text).length) :
    numberLength (c :: text ++ stop) = some (c :: text).length := by
  have step {n : Nat}
      (read : withNumberSuffix (c :: text ++ rest) n = some (c :: text).length) :
      n ≤ (c :: text).length ∧ Uncontinued rest ∧
        withNumberSuffix (c :: text ++ stop) n = some (c :: text).length := by
    obtain ⟨total, uncontinued⟩ := withNumberSuffix_eq_some read
    rw [List.drop_left] at uncontinued
    have within : n ≤ (c :: text).length := by omega
    rw [withNumberSuffix_append uncontinued within] at read
    exact ⟨within, uncontinued, (withNumberSuffix_append separated.uncontinued within).trans read⟩
  rcases orElse_eq_some.1 read with fraction | ⟨noFraction, whole⟩
  · obtain ⟨n, measured, suffixed⟩ := Option.bind_eq_some_iff.1 fraction
    obtain ⟨within, uncontinued, suffixed'⟩ := step suffixed
    refine orElse_eq_some.2 (.inl (Option.bind_eq_some_iff.2 ⟨n, ?_, suffixed'⟩))
    rw [fractionLength_append uncontinued.undigited] at measured
    rw [fractionLength_append separated.uncontinued.undigited]
    split_ifs at measured ⊢ with digit
    refine fractionBehind_append uncontinued.undigited separated measured ?_
    rw [List.length_drop]
    omega
  · obtain ⟨n, measured, suffixed⟩ := Option.bind_eq_some_iff.1 whole
    obtain ⟨within, uncontinued, suffixed'⟩ := step suffixed
    have word : ∀ d ∈ c :: text, continuesIdentifier d = true := by
      -- the digits of the number, and then its suffix
      obtain ⟨total, -⟩ := withNumberSuffix_eq_some suffixed
      rw [List.drop_append_of_le_length within] at total
      have behind : identifierLength ((c :: text).drop n ++ rest) = ((c :: text).drop n).length := by
        rw [List.length_drop]
        omega
      have suffix := (identifierLength_suffix behind).1
      have digits := (wholeLength_continues measured).2
      rw [List.take_append_of_le_length within] at digits
      rw [← List.take_append_drop n (c :: text)]
      exact List.forall_mem_append.2 ⟨digits, suffix⟩
    refine orElse_eq_some.2 (.inr ⟨fraction_eq_none uncontinued separated word noFraction,
      Option.bind_eq_some_iff.2 ⟨n, ?_, suffixed'⟩⟩)
    rw [wholeLength_append uncontinued (by simp)] at measured
    rw [wholeLength_append separated.uncontinued (by simp), measured]

end Token

end StatSchema
