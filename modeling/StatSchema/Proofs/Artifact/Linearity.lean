/-
Compounds of counters and sums are linear in the ledger. A total adds up over records, and so does
every expression of additions and subtractions, since both are homomorphisms of words. Main statement,
for every ledger: with arithmetic that wraps around the accessor of an aggregator answers the total of
what the accessors of the records answer; with checked arithmetic, if it answers a value, the same one,
which is the exact value of the unfolded expression on the totals of the base metrics.
-/
import Mathlib.Algebra.BigOperators.Group.List.Basic
import Mathlib.Algebra.Group.Pi.Lemmas
import StatSchema.Proofs.Artifact.Aggregation
import StatSchema.Proofs.Expression.Unfolding

namespace StatSchema

/-! ## Totals -/

namespace Ledger

variable {ρ σ : Type}

theorem total_eq_sum (ledger : Ledger ρ) (field : ρ → UInt64) :
    ledger.total field = (ledger.entries.map field).sum := by
  rw [List.sum_eq_foldl, List.foldl_map]
  rfl

/-- Totals of fields, which add up as the fields do. -/
def totals (ledger : Ledger ρ) : (ρ → UInt64) →+ UInt64 where
  toFun := ledger.total
  map_zero' := by
    rw [total_eq_sum]
    exact List.sum_eq_zero (by simp)
  map_add' first second := by
    rw [total_eq_sum, total_eq_sum, total_eq_sum]
    exact List.sum_map_add

/-- An expression of totals is the total of the expression over all records. -/
theorem total_sum (ledger : Ledger ρ) (field : σ → ρ → UInt64) (tree : Expression σ) :
    ledger.total (fun record => tree.sum fun metric => field metric record) =
      tree.sum fun metric => ledger.total (field metric) := by
  have pointwise : (fun record => tree.sum fun metric => field metric record) = tree.sum field :=
    funext fun record => (Expression.map_sum (Pi.evalAddMonoidHom _ record) field tree).symm
  rw [pointwise]
  exact Expression.map_sum ledger.totals field tree

end Ledger

/-! ## Metrics that are totalled -/

/-- All base metrics that a metric is computed from are counters or sums. -/
def Schema.Totalled (schema : Schema) (metric : String) : Prop :=
  ∀ base ∈ schema.bases, Relation.ReflTransGen (Uses schema.compounds) metric base.name →
    base.kind = .counter ∨ base.kind = .sum

namespace CompiledSchema

variable {schema : Schema} {compiled : CompiledSchema}

/-- What the accessors of an aggregator are called on. -/
def published (compiled : CompiledSchema) (ledger : Ledger Record) : Receiver :=
  .aggregator ⟨ledger.entries.map compiled.words⟩

/-- The base metrics of a metric that is computed from counters and sums are totalled. -/
theorem Represents.reduce_eq_total (represents : compiled.Represents schema) {metric : String}
    (totalled : schema.Totalled metric) {base : BaseEntry} (stored : base ∈ compiled.storage)
    (reach : Relation.ReflTransGen (Uses schema.compounds) metric base.name)
    (ledger : Ledger Record) (field : Record → UInt64) :
    ledger.reduce base.kind.reduction field = ledger.total field := by
  have declared := represents.mem_bases stored
  have kind : base.kind = .counter ∨ base.kind = .sum := totalled _ declared reach
  rcases kind with counter | sum
  · rw [counter]
    rfl
  · rw [sum]
    rfl

end CompiledSchema

/-! ## Accessors -/

/-- Of a metric that is typed as a word and computed from counters and sums, the accessor of an
aggregator answers the total of what the accessors of the records answer, words wrapping around. Where
checked arithmetic comes to a value, it is the same, and the exact value of the only unfolded expression
on the totals of the base metrics. -/
theorem compounds_linear_in_ledger {schema : Schema} {naming : Naming}
    {instrumentation : Instrumentation} {overrides : List Override} {artifact : Artifact}
    {compiled : CompiledSchema} (plain : schema.PlainlySpelled)
    (generated : generate schema naming instrumentation overrides = .ok artifact)
    (compiles : compile schema = .ok compiled) :
    ∃ names, naming.typeNames = .ok names ∧
      ∀ compound ∈ schema.compounds, compiled.valueType? compound.name = some .integer →
        schema.Totalled compound.name →
        ∃ entry unfolded, compiled.find? compound.name = some entry ∧
          Expression.Unfolds compiled (.accessor entry) unfolded ∧
          (∀ other, Expression.Unfolds compiled (.accessor entry) other → other = unfolded) ∧
          unfolded.Additive ∧
          ∃ own : Record → UInt64,
            (∀ record, artifact.Gives .wraps names.record (.record (compiled.words record))
              (Name.snake compound.name) (.ok (.integer (own record)))) ∧
            ∀ ledger : Ledger Record,
              (∀ base ∈ unfolded.calls, ∀ overflow,
                artifact.Gives overflow names.aggregator (compiled.published ledger)
                  (Name.snake base.name)
                  (.ok (.integer (ledger.total fun record => record.get base.name)))) ∧
              artifact.Gives .wraps names.aggregator (compiled.published ledger)
                (Name.snake compound.name) (.ok (.integer (ledger.total own))) ∧
              ∃ outcome, artifact.Gives .panics names.aggregator (compiled.published ledger)
                  (Name.snake compound.name) outcome ∧
                ∀ value, outcome = .ok value → value = .integer (ledger.total own) ∧
                  ((ledger.total own).toNat : ℤ) = unfolded.sum fun base =>
                    ((ledger.total fun record => record.get base.name).toNat : ℤ) := by
  obtain ⟨names, named, represents, distinct, -⟩ :=
    Artifact.generate_of_plain plain generated compiles
  obtain ⟨wellFormed, holds⟩ := of_compile compiles
  refine ⟨names, named, fun compound here whole totalled => ?_⟩
  have declared : compound.name ∈ schema.names :=
    schema.sublist_names_compounds.subset (List.mem_map_of_mem here)
  obtain ⟨entry, found, integer⟩ := Option.map_eq_some_iff.1 whole
  obtain ⟨unfolded, unfolds, sums, reached, computes⟩ :=
    Expression.Unfolds.exists_of_metric compiles found
  have additive := sums integer
  -- words that agree where the unfolded expression looks lead to one outcome
  have outcome (overflow : Overflow) {base base' : BaseEntry → UInt64}
      (same : ∀ stored ∈ unfolded.calls, base stored = base' stored) :
      (compiled.outcomes overflow base).of compound.name =
        unfolded.evaluate .doubles overflow fun stored => .ok (.integer (base' stored)) := by
    rw [← computes]
    refine Expression.evaluate_congr _ _ fun stored called => ?_
    rw [same stored called]
  refine ⟨entry, unfolded, found, unfolds, fun _ => unfolds.unique, additive,
    fun record => unfolded.sum fun base => record.get base.name, fun record => ?_, fun ledger => ?_⟩
  · have gives := (Artifact.wired_record represents distinct record).gives holds wellFormed plain
      .wraps declared
    rwa [outcome .wraps fun _ _ => rfl, Expression.evaluate_wraps _ additive] at gives
  have total := ledger.total_sum (fun (base : BaseEntry) (record : Record) => record.get base.name)
    unfolded
  have reduced : ∀ base ∈ unfolded.calls,
      (ledger.reduce base.kind.reduction fun record => record.get base.name) =
        ledger.total fun record => record.get base.name := fun base called =>
    holds.reduce_eq_total totalled (reached base called).1 (reached base called).2 ledger _
  have wired := Artifact.wired_aggregator represents distinct ledger
  refine ⟨fun base called overflow => ?_, ?_, ?_⟩
  · obtain ⟨stored, -⟩ := reached base called
    have settled := holds.settled wellFormed overflow fun base =>
      ledger.reduce base.kind.reduction fun record => record.get base.name
    have gives := wired.gives holds wellFormed plain overflow (holds.name_mem_of_stored stored)
    rwa [settled.base base stored, reduced base called] at gives
  · have gives := wired.gives holds wellFormed plain .wraps declared
    rwa [outcome .wraps reduced, Expression.evaluate_wraps _ additive, ← total] at gives
  · refine ⟨_, wired.gives holds wellFormed plain .panics declared, fun value computed => ?_⟩
    rw [outcome .panics reduced] at computed
    rw [total]
    exact Expression.evaluate_panics additive computed

/-- A schema with a difference that is an operand of a sum, and with a maximum that is not. -/
def traffic : Schema :=
  { declarations := [.base ⟨"sent", .sum⟩, .base ⟨"calls", .counter⟩, .base ⟨"peak", .max⟩,
      .compound ⟨"load", .add, ["sent", "rest", "sent"]⟩,
      .compound ⟨"rest", .subtract, ["sent", "calls"]⟩] }

theorem traffic_totalled : traffic.Totalled "load" := by
  have closed : ∀ compound ∈ traffic.compounds, compound.name ∈ ["load", "rest", "sent", "calls"] →
      ∀ operand ∈ compound.operands, operand ∈ ["load", "rest", "sent", "calls"] := by
    decide
  have kinds : ∀ base ∈ traffic.bases, base.name ∈ ["load", "rest", "sent", "calls"] →
      base.kind = .counter ∨ base.kind = .sum := by
    decide
  intro base here reach
  refine kinds base here ?_
  clear here
  -- what the load is computed from never leaves the list
  generalize base.name = metric at reach
  induction reach with
  | refl => decide
  | tail _ used ih =>
    obtain ⟨compound, here, rfl, taken⟩ := used
    exact closed compound here ih _ taken

/-- On two records, of which the first has a negative rest. -/
theorem traffic_load_linear :
    ∃ (artifact : Artifact) (compiled : CompiledSchema) (names : TypeNames) (first second : UInt64),
      generate traffic {} .enabled [] = .ok artifact ∧ compile traffic = .ok compiled ∧
      compiled.valueType? "load" = some .integer ∧
      artifact.Gives .wraps names.record
        (.record (compiled.words ⟨[("sent", 1), ("calls", 5), ("peak", 3)]⟩)) (Name.snake "load")
        (.ok (.integer first)) ∧
      artifact.Gives .wraps names.record
        (.record (compiled.words ⟨[("sent", 9), ("calls", 2), ("peak", 8)]⟩)) (Name.snake "load")
        (.ok (.integer second)) ∧
      artifact.Gives .wraps names.aggregator
        (compiled.published ⟨[⟨[("sent", 1), ("calls", 5), ("peak", 3)]⟩,
          ⟨[("sent", 9), ("calls", 2), ("peak", 8)]⟩]⟩) (Name.snake "load")
        (.ok (.integer (0 + first + second))) := by
  have plain : traffic.PlainlySpelled := by
    unfold Schema.PlainlySpelled
    decide +kernel
  obtain ⟨artifact, generated⟩ := exists_of_isOk
    (show (generate traffic {} .enabled []).isOk = true by decide +kernel)
  have typed : (compile traffic >>= fun compiled => .ok (compiled.valueType? "load")) =
      .ok (some .integer) := by
    decide +kernel
  obtain ⟨compiled, compiles, typed⟩ := bind_eq_ok.1 typed
  have whole : compiled.valueType? "load" = some .integer := Except.ok.inj typed
  obtain ⟨names, -, linear⟩ := compounds_linear_in_ledger plain generated compiles
  obtain ⟨_, _, -, -, -, -, own, records, ledgers⟩ :=
    linear ⟨"load", .add, ["sent", "rest", "sent"]⟩ (by decide) whole traffic_totalled
  exact ⟨artifact, compiled, names, own _, own _, generated, compiles, whole, records _, records _,
    (ledgers _).2.1⟩

end StatSchema
