/-
Reading expressions back from their tokens. Calls bind tightest, then conversions, then division,
then addition and subtraction, all from left to right. Main statement: the tokens of a compound's
expression read as the expression that they were written for and as no other.
-/
import StatSchema.Proofs.Expression.Evaluation

namespace StatSchema

open Token

namespace Expression

variable {ρ σ : Type}

/-! ## References -/

/-- The expression over other references. -/
def map (f : ρ → σ) : Expression ρ → Expression σ
  | accessor metric => accessor (f metric)
  | converted inner => converted (inner.map f)
  | grouped inner => grouped (inner.map f)
  | combined operator left right => combined operator (left.map f) (right.map f)

/-- The metrics whose accessors an expression calls. -/
def calls : Expression ρ → List ρ
  | accessor metric => [metric]
  | converted inner => inner.calls
  | grouped inner => inner.calls
  | combined _ left right => left.calls ++ right.calls

theorem calls_map (f : ρ → σ) (tree : Expression ρ) : (tree.map f).calls = tree.calls.map f := by
  induction tree with
  | accessor metric => rfl
  | converted inner ih => exact ih
  | grouped inner ih => exact ih
  | combined operator left right ihLeft ihRight =>
    rw [calls, List.map_append, ← ihLeft, ← ihRight]
    rfl

theorem calls_toType (single : Bool) (source target : ValueType) (expression : Expression ρ) :
    (toType single source target expression).calls = expression.calls := by
  unfold toType
  split
  · cases single <;> rfl
  · rfl

theorem calls_fold (valueType : ρ → ValueType) (operator : Operator) (single : Bool)
    (accumulated : Expression ρ) (accumulatedType : ValueType) (rest : List ρ) :
    (fold valueType operator single accumulated accumulatedType rest).1.calls =
      accumulated.calls ++ rest := by
  induction rest generalizing single accumulated accumulatedType with
  | nil => exact (List.append_nil _).symm
  | cons operand rest ih =>
    rw [fold, ih, calls, calls_toType, calls_toType, List.append_assoc]
    rfl

/-- The expression of an operator applied to operands calls the operands. -/
theorem calls_ofOperands? {valueType : ρ → ValueType} {operator : Operator} {operands : List ρ}
    {tree : Expression ρ} {type : ValueType}
    (made : ofOperands? valueType operator operands = some (tree, type)) :
    tree.calls = operands := by
  cases operands with
  | nil => cases made
  | cons first rest =>
    have whole : fold valueType operator true (accessor first) (valueType first) rest =
        (tree, type) := Option.some.inj made
    have called := calls_fold valueType operator true (accessor first) (valueType first) rest
    rw [whole] at called
    exact called

/-- Types over other references, if they agree where there is a call. -/
theorem type?_map (f : ρ → σ) {valueType : ρ → ValueType} {valueType' : σ → ValueType}
    {tree : Expression ρ} (same : ∀ metric ∈ tree.calls, valueType' (f metric) = valueType metric) :
    (tree.map f).type? valueType' = tree.type? valueType := by
  induction tree with
  | accessor metric => exact congrArg some (same metric (List.mem_singleton_self _))
  | converted inner ih =>
    rw [map, type?, ih same]
    rfl
  | grouped inner ih => exact ih same
  | combined operator left right ihLeft ihRight =>
    rw [map, type?, ihLeft fun metric here => same metric (List.mem_append_left _ here),
      ihRight fun metric here => same metric (List.mem_append_right _ here)]
    rfl

/-- Values over other references, if they agree where there is a call. -/
theorem evaluate_map {φ : Type} (arithmetic : FractionArithmetic φ) (overflow : Overflow)
    (f : ρ → σ) {value : ρ → Except Panic (Value φ)} {value' : σ → Except Panic (Value φ)}
    {tree : Expression ρ} (same : ∀ metric ∈ tree.calls, value' (f metric) = value metric) :
    (tree.map f).evaluate arithmetic overflow value' = tree.evaluate arithmetic overflow value := by
  induction tree with
  | accessor metric => exact same metric (List.mem_singleton_self _)
  | converted inner ih =>
    rw [map, evaluate, ih same]
    rfl
  | grouped inner ih => exact ih same
  | combined operator left right ihLeft ihRight =>
    rw [map, evaluate, ihLeft fun metric here => same metric (List.mem_append_left _ here),
      ihRight fun metric here => same metric (List.mem_append_right _ here)]
    rfl

theorem map_id (tree : Expression ρ) : tree.map id = tree := by
  induction tree with
  | accessor metric => rfl
  | converted inner ih => rw [map, ih]
  | grouped inner ih => rw [map, ih]
  | combined operator left right ihLeft ihRight => rw [map, ihLeft, ihRight]

theorem evaluate_congr {φ : Type} (arithmetic : FractionArithmetic φ) (overflow : Overflow)
    {value value' : ρ → Except Panic (Value φ)} {tree : Expression ρ}
    (same : ∀ metric ∈ tree.calls, value' metric = value metric) :
    tree.evaluate arithmetic overflow value' = tree.evaluate arithmetic overflow value := by
  have mapped := evaluate_map arithmetic overflow id same
  rwa [map_id] at mapped

end Expression

/-! ## Precedence -/

/-- How tight an operator binds. -/
def Operator.level : Operator → Nat
  | add => 0
  | subtract => 0
  | divide => 1

namespace Expression

variable {ρ : Type}

/-- How tight the outermost part of an expression binds. -/
def level : Expression ρ → Nat
  | combined operator _ _ => operator.level
  | _ => 2

/-- An expression whose parentheses stand wherever precedence asks for them. -/
def Legible : Expression ρ → Prop
  | accessor _ => True
  | converted inner => inner.Legible ∧ inner.level = 2
  | grouped inner => inner.Legible
  | combined operator left right =>
    left.Legible ∧ right.Legible ∧ operator.level ≤ left.level ∧ operator.level < right.level

theorem level_le_two (expression : Expression ρ) : expression.level ≤ 2 := by
  cases expression with
  | combined operator left right =>
    show operator.level ≤ 2
    cases operator <;> decide
  | _ => exact Nat.le_refl 2

theorem legible_toType (single : Bool) {expression : Expression ρ} (legible : expression.Legible)
    (tight : single = true → expression.level = 2) (source target : ValueType) :
    (toType single source target expression).Legible ∧
      expression.level ≤ (toType single source target expression).level := by
  unfold toType
  split
  · refine ⟨?_, expression.level_le_two⟩
    cases single with
    | true => exact ⟨legible, tight rfl⟩
    | false => exact ⟨legible, rfl⟩
  · exact ⟨legible, Nat.le_refl _⟩

theorem legible_fold {valueType : ρ → ValueType} {operator : Operator} (rest : List ρ)
    {single : Bool} {accumulated : Expression ρ} {accumulatedType : ValueType}
    (legible : accumulated.Legible) (tight : single = true → accumulated.level = 2)
    (loose : operator.level ≤ accumulated.level) :
    (fold valueType operator single accumulated accumulatedType rest).1.Legible := by
  induction rest generalizing single accumulated accumulatedType with
  | nil => exact legible
  | cons operand rest ih =>
    have bound : operator.level < 2 := by cases operator <;> decide
    have taken : (accessor operand).Legible := trivial
    -- a side that is converted is one operand or in parentheses, so it only binds tighter
    obtain ⟨left, raised⟩ := legible_toType single legible tight accumulatedType
      (accumulatedType.combine (valueType operand) (operator = .divide && rest.isEmpty))
    obtain ⟨right, raised'⟩ := legible_toType true taken (fun _ => rfl)
      (valueType operand)
      (accumulatedType.combine (valueType operand) (operator = .divide && rest.isEmpty))
    exact ih ⟨left, right, Nat.le_trans loose raised, Nat.lt_of_lt_of_le bound raised'⟩ (by simp)
      (Nat.le_refl _)

/-- The expression of an operator applied to operands has the parentheses that it needs. -/
theorem legible_ofOperands? {valueType : ρ → ValueType} {operator : Operator} {operands : List ρ}
    {tree : Expression ρ} {type : ValueType}
    (made : ofOperands? valueType operator operands = some (tree, type)) : tree.Legible := by
  cases operands with
  | nil => cases made
  | cons first rest =>
    have whole : fold valueType operator true (accessor first) (valueType first) rest =
        (tree, type) := Option.some.inj made
    have loose : operator.level ≤ (accessor first).level :=
      level_le_two (combined operator (accessor first) (accessor first))
    have legible :
        (fold valueType operator true (accessor first) (valueType first) rest).1.Legible :=
      legible_fold rest trivial (fun _ => rfl) loose
    rw [whole] at legible
    exact legible

end Expression

/-! ## The reader -/

/-- What has been read before an operand, within one pair of parentheses: the left side of a sum or
difference with its operator, and the left side of a quotient. -/
structure Frame where
  sum : Option (Expression String × Operator) := none
  quotient : Option (Expression String) := none

namespace Frame

open Expression

/-- The quotient that an operand ends, or the operand. -/
def product (frame : Frame) (operand : Expression String) : Expression String :=
  match frame.quotient with
  | some left => combined .divide left operand
  | none => operand

/-- The expression that an operand ends. -/
def whole (frame : Frame) (operand : Expression String) : Expression String :=
  match frame.sum with
  | some (left, operator) => combined operator left (frame.product operand)
  | none => frame.product operand

/-- What has been read once an operator follows an operand. -/
def after (frame : Frame) (operand : Expression String) : Operator → Frame
  | .add => { sum := some (frame.whole operand, .add) }
  | .subtract => { sum := some (frame.whole operand, .subtract) }
  | .divide => { frame with quotient := some (frame.product operand) }

/-- How tight an expression must bind to be read whole after what has been read. -/
def level (frame : Frame) : Nat :=
  match frame.quotient, frame.sum with
  | some _, _ => 2
  | none, some _ => 1
  | none, none => 0

end Frame

/-- Reads an expression. Frames are kept of what stands before each open parenthesis; `operand?` is
the operand that has just been read, if one has. -/
def Expression.read? (outer : List Frame) (frame : Frame) (operand? : Option (Expression String)) :
    List Token → Option (Expression String)
  | .identifier "self" :: .punctuation '.' .alone :: .identifier metric ::
      .opening .parenthesis :: .closing .parenthesis :: rest =>
    match operand? with
    | none => read? outer frame (some (accessor metric)) rest
    | some _ => none
  | .opening .parenthesis :: rest =>
    match operand? with
    | none => read? (frame :: outer) {} none rest
    | some _ => none
  | .identifier "as" :: .identifier "f64" :: rest => do
    read? outer frame (some (converted (← operand?))) rest
  | .punctuation symbol .alone :: rest => do
    read? outer (frame.after (← operand?) (← Operator.ofSymbol? (.singleton symbol))) none rest
  | .closing .parenthesis :: rest =>
    match outer with
    | [] => none
    | enclosing :: outer => do
      read? outer enclosing (some (grouped (frame.whole (← operand?)))) rest
  | [] => if outer.isEmpty then operand?.map frame.whole else none
  | _ => none

/-! ## Reading back -/

theorem Frame.level_after (frame : Frame) (operand : Expression String) (operator : Operator) :
    (frame.after operand operator).level = operator.level + 1 := by
  cases operator <;> rfl

theorem Frame.eq_of_level_le_one {frame : Frame} (low : frame.level ≤ 1) :
    frame = { sum := frame.sum } := by
  obtain ⟨sum, quotient⟩ := frame
  cases quotient with
  | none => rfl
  | some left =>
    have high : 2 ≤ 1 := low
    omega

theorem Frame.eq_of_level_eq_zero {frame : Frame} (lowest : frame.level = 0) : frame = {} := by
  obtain ⟨sum, quotient⟩ := frame
  cases quotient with
  | some left => cases lowest
  | none =>
    cases sum with
    | some left => cases lowest
    | none => rfl

namespace Expression

variable {ρ : Type} (identifier : ρ → String)

theorem level_map (tree : Expression ρ) : (tree.map identifier).level = tree.level := by
  cases tree <;> rfl

theorem read?_accessor (outer : List Frame) (frame : Frame) (metric : String) (rest : List Token) :
    read? outer frame none (accessorCall metric ++ rest) =
      read? outer frame (some (accessor metric)) rest := rfl

theorem read?_as (outer : List Frame) (frame : Frame) (operand : Expression String)
    (rest : List Token) :
    read? outer frame (some operand) (code "as f64" ++ rest) =
      read? outer frame (some (converted operand)) rest := rfl

theorem read?_operator (outer : List Frame) (frame : Frame) (operand : Expression String)
    (operator : Operator) (rest : List Token) :
    read? outer frame (some operand) (operator.token :: rest) =
      read? outer (frame.after operand operator) none rest := by
  cases operator <;> rfl

theorem read?_opening (outer : List Frame) (frame : Frame) (rest : List Token) :
    read? outer frame none (.opening .parenthesis :: rest) = read? (frame :: outer) {} none rest :=
  rfl

theorem read?_closing (outer : List Frame) (enclosing frame : Frame)
    (operand : Expression String) (rest : List Token) :
    read? (enclosing :: outer) frame (some operand) (.closing .parenthesis :: rest) =
      read? outer enclosing (some (grouped (frame.whole operand))) rest := rfl

/-- What reading an expression within a frame comes to: the last operand of it has been read, and
with the frame it then makes up the expression, or the operand is the expression. -/
structure Completes (frame : Frame) (expression : Expression String) (after : Frame)
    (operand : Expression String) : Prop where
  whole : after.whole operand = frame.whole expression
  product : 1 ≤ expression.level →
    after.sum = frame.sum ∧ after.product operand = frame.product expression
  single : expression.level = 2 → after = frame ∧ operand = expression

theorem Completes.refl (frame : Frame) (expression : Expression String) :
    Completes frame expression frame expression :=
  ⟨rfl, fun _ => ⟨rfl, rfl⟩, fun _ => ⟨rfl, rfl⟩⟩

/-- A quotient, neither within one nor within a conversion. -/
theorem Completes.quotient {frame before after : Frame}
    {left right first last : Expression String} (free : frame.level ≤ 1) (loose : 1 ≤ left.level)
    (tight : right.level = 2) (begun : Completes frame left before first)
    (ended : Completes (before.after first .divide) right after last) :
    Completes frame (combined .divide left right) after last := by
  rw [Frame.eq_of_level_le_one free] at begun ⊢
  obtain ⟨kept, product⟩ := begun.product loose
  have whole : (before.after first .divide).product right = combined .divide left right :=
    congrArg (combined .divide · right) product
  obtain ⟨rfl, rfl⟩ := ended.single tight
  refine ⟨?_, fun _ => ⟨kept, whole⟩, fun single => nomatch single⟩
  have same : (before.after first .divide).sum = frame.sum := kept
  unfold Frame.whole
  rw [same, whole]
  rfl

/-- A sum or difference, within nothing but parentheses. -/
theorem Completes.sum {operator : Operator} (additive : operator.level = 0)
    {frame before after : Frame} {left right first last : Expression String}
    (free : frame.level = 0) (begun : Completes frame left before first)
    (ended : Completes (before.after first operator) right after last) :
    Completes frame (combined operator left right) after last := by
  rw [Frame.eq_of_level_eq_zero free] at begun ⊢
  have whole : (before.after first operator).whole right = combined operator left right := by
    rw [show left = before.whole first from begun.whole.symm]
    cases operator with
    | divide => cases additive
    | add => rfl
    | subtract => rfl
  refine ⟨ended.whole.trans whole, fun high => ?_, fun single => ?_⟩
  · have outermost : 1 ≤ operator.level := high
    omega
  · have outermost : operator.level = 2 := single
    omega

/-- Reading goes on after the tokens of an expression, where the frame leaves the expression whole. -/
theorem read?_tokens {tree : Expression ρ} (legible : tree.Legible) (outer : List Frame)
    (frame : Frame) (free : frame.level ≤ tree.level) (rest : List Token) :
    ∃ after operand, read? outer frame none (tree.tokens identifier ++ rest) =
        read? outer after (some operand) rest ∧
      Completes frame (tree.map identifier) after operand := by
  induction tree generalizing outer frame rest with
  | accessor metric => exact ⟨frame, _, read?_accessor _ _ _ _, .refl _ _⟩
  | converted inner ih =>
    obtain ⟨legible, tight⟩ := legible
    have free' : frame.level ≤ inner.level := by
      rw [tight]
      exact free
    obtain ⟨after, operand, ran, completes⟩ := ih legible outer frame free' (code "as f64" ++ rest)
    obtain ⟨rfl, rfl⟩ := completes.single (by rw [level_map, tight])
    refine ⟨after, _, ?_, .refl _ _⟩
    rw [tokens, List.append_assoc, ran, read?_as]
    rfl
  | grouped inner ih =>
    obtain ⟨after, operand, ran, completes⟩ := ih legible (frame :: outer)
      {} (Nat.zero_le _) (.closing .parenthesis :: rest)
    refine ⟨frame, _, ?_, .refl _ _⟩
    rw [tokens, parens, List.append_assoc, List.cons_append, read?_opening, List.singleton_append,
      ran, read?_closing, completes.whole]
    rfl
  | combined operator left right ihLeft ihRight =>
    obtain ⟨legible, legible', loose, tight⟩ := legible
    obtain ⟨before, first, ran, begun⟩ := ihLeft legible outer frame (Nat.le_trans free loose)
      (operator.token :: (right.tokens identifier ++ rest))
    -- the right side is read in the frame that the operator leaves
    have free' : (before.after first operator).level ≤ right.level := by
      rw [Frame.level_after]
      exact tight
    obtain ⟨after, last, ran', ended⟩ := ihRight legible' outer _ free' rest
    refine ⟨after, last, ?_, ?_⟩
    · rw [tokens, List.append_assoc, List.cons_append, ran, read?_operator, ran']
    · rw [← level_map identifier] at loose tight
      have lower := level_le_two (right.map identifier)
      cases operator with
      | divide => exact begun.quotient free loose (Nat.le_antisymm lower tight) ended
      | add => exact begun.sum rfl (Nat.le_zero.1 free) ended
      | subtract => exact begun.sum rfl (Nat.le_zero.1 free) ended

/-- The tokens of an expression read as the expression. -/
theorem read?_legible {tree : Expression ρ} (legible : tree.Legible) :
    read? [] {} none (tree.tokens identifier) = some (tree.map identifier) := by
  obtain ⟨after, operand, ran, completes⟩ :=
    read?_tokens identifier legible [] {} (Nat.zero_le _) []
  rw [List.append_nil] at ran
  have finished : read? [] after (some operand) [] = some (after.whole operand) := rfl
  rw [ran, finished, completes.whole]
  rfl

end Expression

end StatSchema
