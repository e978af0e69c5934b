/-
Expressions of additions and subtractions alone. Such an expression has a value in every group, and
homomorphisms carry its values along. With arithmetic that wraps around it comes to its value among
words; with checked arithmetic, if it comes to anything, to the same word, which is its value among
the integers. Compounds that are typed as words are such expressions of base metrics.
-/
import Mathlib.Algebra.Group.Hom.Defs
import Mathlib.Data.UInt
import StatSchema.Proofs.Expression.Reading

namespace StatSchema

/-! ## Values in groups -/

/-- An operator on the elements of a group, in which nothing is divided. -/
def Operator.inGroup {G : Type*} [AddGroup G] : Operator → G → G → G
  | .add, left, right => left + right
  | .subtract, left, right => left - right
  | .divide, _, _ => 0

namespace Expression

variable {ρ : Type}

/-- The value of an expression in a group. Conversions and divisions have none and count as zero. -/
def sum {G : Type*} [AddGroup G] (value : ρ → G) : Expression ρ → G
  | accessor metric => value metric
  | converted _ => 0
  | grouped inner => inner.sum value
  | combined operator left right => operator.inGroup (left.sum value) (right.sum value)

/-- Expressions of additions and subtractions alone. -/
def Additive : Expression ρ → Prop
  | accessor _ => True
  | converted _ => False
  | grouped inner => inner.Additive
  | combined operator left right => operator ≠ .divide ∧ left.Additive ∧ right.Additive

section Groups

variable {G H : Type*} [AddGroup G] [AddGroup H]

theorem map_sum (hom : G →+ H) (value : ρ → G) (tree : Expression ρ) :
    hom (tree.sum value) = tree.sum fun metric => hom (value metric) := by
  induction tree with
  | accessor metric => rfl
  | converted inner ih => exact map_zero hom
  | grouped inner ih => exact ih
  | combined operator left right ihLeft ihRight =>
    rw [sum, sum, ← ihLeft, ← ihRight]
    cases operator with
    | add => exact map_add hom _ _
    | subtract => exact map_sub hom _ _
    | divide => exact map_zero hom

end Groups

end Expression

/-! ## Words -/

namespace Operator

variable {operator : Operator} {left right word : UInt64}

theorem onWords_wraps (additive : operator ≠ .divide) (left right : UInt64) :
    operator.onWords .wraps left right = .ok (operator.inGroup left right) := by
  cases operator with
  | add => rfl
  | subtract => rfl
  | divide => exact absurd rfl additive

/-- A checked sum or difference is the one that wraps around, and that of the integers. -/
theorem onWords_panics (additive : operator ≠ .divide)
    (computed : operator.onWords .panics left right = .ok word) :
    word = operator.inGroup left right ∧
      (word.toNat : ℤ) = operator.inGroup (left.toNat : ℤ) (right.toNat : ℤ) := by
  cases operator with
  | divide => exact absurd rfl additive
  | add =>
    simp only [onWords] at computed
    split at computed
    · cases computed
    · rename_i fits
      cases computed
      have small : left.toNat + right.toNat < 2 ^ 64 := by simpa [UInt64.size] using fits
      refine ⟨rfl, ?_⟩
      show ((left + right).toNat : ℤ) = left.toNat + right.toNat
      rw [UInt64.toNat_add, Nat.mod_eq_of_lt small]
      exact Nat.cast_add _ _
  | subtract =>
    simp only [onWords] at computed
    split at computed
    · cases computed
    · rename_i fits
      cases computed
      have most : right ≤ left := by simpa using fits
      refine ⟨rfl, ?_⟩
      show ((left - right).toNat : ℤ) = left.toNat - right.toNat
      rw [UInt64.toNat_sub_of_le _ _ most]
      exact Nat.cast_sub (UInt64.le_iff_toNat_le.1 most)

end Operator

namespace Expression

variable {ρ φ : Type} {arithmetic : FractionArithmetic φ}

/-- With arithmetic that wraps around, an additive expression of words comes to its value among
words. -/
theorem evaluate_wraps (words : ρ → UInt64) {tree : Expression ρ} (additive : tree.Additive) :
    tree.evaluate arithmetic .wraps (fun metric => .ok (.integer (words metric))) =
      .ok (.integer (tree.sum words)) := by
  induction tree with
  | accessor metric => rfl
  | converted inner ih => exact additive.elim
  | grouped inner ih => exact ih additive
  | combined operator left right ihLeft ihRight =>
    obtain ⟨known, first, second⟩ := additive
    rw [evaluate, ihLeft first, ihRight second, ok_bind, ok_bind]
    show (operator.onWords .wraps _ _).map Value.integer = _
    rw [Operator.onWords_wraps known]
    rfl

/-- With checked arithmetic, what an additive expression of words comes to is its value among words and
its value among the integers. -/
theorem evaluate_panics {words : ρ → UInt64} {tree : Expression ρ} (additive : tree.Additive)
    {value : Value φ}
    (computed : tree.evaluate arithmetic .panics (fun metric => .ok (.integer (words metric))) =
      .ok value) :
    value = .integer (tree.sum words) ∧
      ((tree.sum words).toNat : ℤ) = tree.sum fun metric => ((words metric).toNat : ℤ) := by
  induction tree generalizing value with
  | accessor metric =>
    cases computed
    exact ⟨rfl, rfl⟩
  | converted inner ih => exact additive.elim
  | grouped inner ih => exact ih additive computed
  | combined operator left right ihLeft ihRight =>
    obtain ⟨known, first, second⟩ := additive
    obtain ⟨before, ran, computed⟩ := bind_eq_ok.1 computed
    obtain ⟨given, ran', computed⟩ := bind_eq_ok.1 computed
    obtain ⟨rfl, exactLeft⟩ := ihLeft first ran
    obtain ⟨rfl, exactRight⟩ := ihRight second ran'
    replace computed : (operator.onWords .panics (left.sum words) (right.sum words)).map
        Value.integer = .ok value := computed
    cases step : operator.onWords .panics (left.sum words) (right.sum words) with
    | error panic =>
      rw [step] at computed
      cases computed
    | ok word =>
      rw [step] at computed
      cases computed
      -- no step has wrapped around, on either side or here
      obtain ⟨same, exactly⟩ := Operator.onWords_panics known step
      refine ⟨congrArg Value.integer same, ?_⟩
      rw [sum, ← same, exactly, exactLeft, exactRight]
      rfl

/-! ## Compounds of words -/

section Compounds

variable {valueType : ρ → ValueType} {operator : Operator} (known : operator ≠ .divide)

include known

theorem additive_fold (single : Bool) {accumulated : Expression ρ} (additive : accumulated.Additive)
    {rest : List ρ} (words : ∀ operand ∈ rest, valueType operand = .integer) :
    (fold valueType operator single accumulated .integer rest).1.Additive := by
  induction rest generalizing single accumulated with
  | nil => exact additive
  | cons operand rest ih =>
    have whole : valueType operand = .integer := words operand List.mem_cons_self
    have plain : (decide (operator = .divide) && rest.isEmpty) = false := by simp [known]
    rw [fold, whole, plain]
    -- nothing is converted, as both sides are words and the step is not widened
    have stays : ValueType.integer.combine .integer false = .integer := rfl
    rw [stays]
    exact ih false ⟨known, additive, trivial⟩ fun other later =>
      words other (List.mem_cons_of_mem _ later)

/-- Sums and differences of words are additive. -/
theorem additive_ofOperands? {operands : List ρ} {tree : Expression ρ} {type : ValueType}
    (made : ofOperands? valueType operator operands = some (tree, type))
    (words : ∀ operand ∈ operands, valueType operand = .integer) : tree.Additive := by
  cases operands with
  | nil => cases made
  | cons first rest =>
    have begun : (accessor first).Additive := trivial
    have additive := additive_fold known true begun fun operand later =>
      words operand (List.mem_cons_of_mem _ later)
    have whole : fold valueType operator true (accessor first) (valueType first) rest =
        (tree, type) := Option.some.inj made
    rw [words first List.mem_cons_self] at whole
    rwa [whole] at additive

end Compounds

end Expression

end StatSchema
