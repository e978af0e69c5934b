/-
The types of compounds as they are inferred: each compound is typed once, when it is first met, after
the compounds among its operands. That this comes to an end is an assertion, as types are inferred
without looking out for cycles. Main statement: among compounds without a cycle it comes to an end, and
every compound is given the type that it has in the order of evaluation.
-/
import StatSchema.Proofs.Assertion.Search
import StatSchema.Proofs.Expression.Compounds

namespace StatSchema

open Asserting

/-- The types that have been given to compounds, the latest first. -/
abbrev Types := List (String × ValueType)

namespace Types

/-- Types one more metric, given how a metric is typed. -/
def next (infer : Types → String → Asserting (ValueType × Types))
    (given : List ValueType × Types) (name : String) : Asserting (List ValueType × Types) := do
  let (type, types) ← infer given.2 name
  settled (.ok (given.1 ++ [type], types))

/-- The type of a metric, with the types that are then given. The compounds that no inference is under
way for are `pending`, so that an inference without end would run out of them. -/
def infer (compounds pending : List CompoundMetric) (types : Types) (name : String) :
    Asserting (ValueType × Types) :=
  match compounds.find? (·.name == name) with
  | none => settled (.ok (.integer, types))
  | some compound =>
    match types.lookup name with
    | some type => settled (.ok (type, types))
    | none =>
      match _found : pending.find? (·.name == name) with
      | none => expect none (.finite name)
      | some _ => do
        let (operands, types) ← compound.operands.foldlM
          (next fun types operand => infer compounds (without name pending) types operand) ([], types)
        let type := compound.operator.resultType operands
        settled (.ok (type, (name, type) :: types))
termination_by pending.length
decreasing_by exact length_without_lt _found

/-- The types of all compounds. -/
def inferAll (compounds : List CompoundMetric) : Asserting Types := do
  let (_, types) ← (compounds.map (·.name)).foldlM (next (infer compounds compounds)) ([], [])
  settled (.ok types)

end Types

/-! ## Typings -/

/-- The types that metrics have: a compound has that of its operator on the types of its operands, and
every other metric is whole. -/
structure Typing (compounds : List CompoundMetric) (typing : String → ValueType) : Prop where
  compound : ∀ compound ∈ compounds,
    typing compound.name = compound.operator.resultType (compound.operands.map typing)
  other : ∀ name ∉ compounds.map (·.name), typing name = .integer

/-- Compounds in order have the types that they are given there. -/
theorem Ordered.typing {compounds done : List CompoundMetric} (ordered : Ordered compounds done)
    (distinct : (compounds.map (·.name)).Nodup)
    (all : ∀ compound ∈ compounds, compound.name ∈ done.map (·.name)) :
    Typing compounds (typeIn (compoundTypes done)) := by
  refine ⟨fun compound here => ?_, fun name absent => typeIn_of_not_mem ?_⟩
  · obtain ⟨other, there, same⟩ := List.mem_map.1 (all compound here)
    obtain rfl := List.inj_on_of_nodup_map distinct (ordered.subset there) here same
    exact ordered.typeIn_compoundTypes other there
  · rw [names_compoundTypes]
    exact fun there => absent (mem_names_of_subset ordered.subset there)

/-- Types that have been given as a typing says. -/
def Types.Sound (typing : String → ValueType) (types : Types) : Prop :=
  ∀ name type, types.lookup name = some type → type = typing name

/-- What comes of typing some metrics: all types are given as the typing says, none is lost, and the
compounds among the metrics have one. -/
structure Types.Given (compounds : List CompoundMetric) (typing : String → ValueType)
    (before : Types) (names : List String) (after : Types) : Prop where
  sound : after.Sound typing
  kept : before.map (·.1) ⊆ after.map (·.1)
  given : ∀ name ∈ names, name ∈ compounds.map (·.name) → name ∈ after.map (·.1)

/-- The compounds that a metric takes its value from, itself included, are among the pending ones. -/
def Within (compounds pending : List CompoundMetric) (name : String) : Prop :=
  ∀ used ∈ compounds.map (·.name), Relation.ReflTransGen (Uses compounds) name used →
    used ∈ pending.map (·.name)

section Inference

variable {compounds pending : List CompoundMetric} {typing : String → ValueType}

/-- Where there is no cycle, no operand of a compound takes its value from the compound. -/
theorem Within.operand {name operand : String}
    (acyclic : ∀ name, ¬ Relation.TransGen (Uses compounds) name name)
    (within : Within compounds pending name) (uses : Uses compounds name operand) :
    Within compounds (without name pending) operand := by
  intro used declared reached
  obtain ⟨compound, waiting, rfl⟩ := List.mem_map.1 (within used declared (.head uses reached))
  refine List.mem_map_of_mem (List.mem_filter.2 ⟨waiting, ?_⟩)
  rw [bne_iff_ne]
  rintro rfl
  exact acyclic _ (.head' uses reached)

namespace Types

theorem Given.refl {types : Types} (sound : types.Sound typing) :
    Given compounds typing types [] types :=
  ⟨sound, List.Subset.refl _, by simp⟩

theorem Given.trans {before between after : Types} {names more : List String}
    (first : Given compounds typing before names between)
    (second : Given compounds typing between more after) :
    Given compounds typing before (names ++ more) after := by
  refine ⟨second.sound, fun _ there => second.kept (first.kept there), ?_⟩
  intro name here declared
  rcases List.mem_append.1 here with here | here
  · exact second.kept (first.given name here declared)
  · exact second.given name here declared

/-- Giving a compound its type. -/
theorem Given.cons {before after : Types} {operands : List String} {name : String}
    (operandsGiven : Given compounds typing before operands after) {type : ValueType}
    (typed : type = typing name) : Given compounds typing before [name] ((name, type) :: after) := by
  refine ⟨?_, fun _ there => List.mem_cons_of_mem _ (operandsGiven.kept there), ?_⟩
  · intro other type found
    rw [List.lookup_cons] at found
    split at found
    · rename_i same
      cases found
      exact beq_iff_eq.1 same ▸ typed
    · exact operandsGiven.sound other type found
  · intro other here _
    rw [List.mem_singleton.1 here]
    exact List.mem_cons_self

/-- Metrics are typed one after the other, if each of them is. -/
theorem foldlM_next {infer : Types → String → Asserting (ValueType × Types)} (names : List String)
    (each : ∀ name ∈ names, ∀ types : Types, types.Sound typing →
      ∃ after, infer types name = settled (.ok (typing name, after)) ∧
        Given compounds typing types [name] after)
    (earlier : List ValueType) (types : Types)
    (sound : types.Sound typing) :
    ∃ after, names.foldlM (next infer) (earlier, types) =
        settled (.ok (earlier ++ names.map typing, after)) ∧
      Given compounds typing types names after := by
  induction names generalizing earlier types with
  | nil => exact ⟨types, by rw [List.map_nil, List.append_nil]; rfl, .refl sound⟩
  | cons name rest ih =>
    obtain ⟨between, first, given⟩ := each name List.mem_cons_self types sound
    obtain ⟨after, others, more⟩ := ih (fun other later => each other (List.mem_cons_of_mem _ later))
      (earlier ++ [typing name]) between given.sound
    refine ⟨after, ?_, given.trans more⟩
    rw [List.foldlM_cons, next, first, settled_ok_bind, settled_ok_bind, others,
      List.append_assoc]
    rfl

/-- A metric is given its type, without coming to a failing assertion. -/
theorem infer_spec (typed : Typing compounds typing)
    (acyclic : ∀ name, ¬ Relation.TransGen (Uses compounds) name name)
    (pending : List CompoundMetric) {name : String} (within : Within compounds pending name)
    {types : Types} (sound : types.Sound typing) :
    ∃ after, infer compounds pending types name = settled (.ok (typing name, after)) ∧
      Given compounds typing types [name] after := by
  -- the recursion takes the compound that is typed from `pending`
  induction hn : pending.length using Nat.strong_induction_on generalizing pending name types with
  | _ n ih =>
    subst hn
    cases declared : compounds.find? (·.name == name) with
    | none =>
      have absent : name ∉ compounds.map (·.name) := by
        intro there
        obtain ⟨compound, found⟩ := exists_find?_of_mem there
        rw [declared] at found
        cases found
      refine ⟨types, ?_, sound, List.Subset.refl _, ?_⟩
      · rw [infer, declared, typed.other name absent]
      · intro other here there
        exact absurd (List.mem_singleton.1 here ▸ there) absent
    | some compound =>
      obtain ⟨named, here⟩ := mem_names_of_find? declared
      cases known : types.lookup name with
      | some type =>
        refine ⟨types, ?_, sound, List.Subset.refl _, ?_⟩
        · rw [infer, declared]
          dsimp only
          rw [known, sound name type known]
        · intro other there _
          rw [List.mem_singleton.1 there]
          by_contra absent
          rw [lookup_eq_none_of_not_mem absent] at known
          cases known
      | none =>
        obtain ⟨other, found⟩ := exists_find?_of_mem (within name here .refl)
        have member := List.mem_of_find?_eq_some declared
        obtain ⟨after, ran, given⟩ := foldlM_next compound.operands
          (fun operand taken types sound => ih _ (length_without_lt found) (without name pending)
            (within.operand acyclic ⟨compound, member, named, taken⟩) sound rfl) [] types sound
        have result := typed.compound compound member
        refine ⟨(name, typing name) :: after, ?_, given.cons rfl⟩
        rw [infer, declared]
        dsimp only
        rw [known]
        dsimp only
        split
        · rename_i missing
          rw [found] at missing
          cases missing
        · rw [ran, settled_ok_bind]
          dsimp only
          rw [List.nil_append, ← result, named]

/-- All compounds are given their types. -/
theorem inferAll_spec (typed : Typing compounds typing)
    (acyclic : ∀ name, ¬ Relation.TransGen (Uses compounds) name name) :
    ∃ types, inferAll compounds = settled (.ok types) ∧
      ∀ name ∈ compounds.map (·.name), types.lookup name = some (typing name) := by
  obtain ⟨types, ran, given⟩ := foldlM_next (compounds.map (·.name))
    (fun name _ types sound => infer_spec typed acyclic compounds (fun _ there _ => there) sound)
    [] [] (by simp [Sound])
  refine ⟨types, ?_, ?_⟩
  · rw [inferAll, ran, settled_ok_bind]
  · intro name here
    obtain ⟨type, found⟩ := lookup_isSome_of_mem (given.given name here here)
    rw [found, given.sound name type found]

end Types

end Inference

end StatSchema
