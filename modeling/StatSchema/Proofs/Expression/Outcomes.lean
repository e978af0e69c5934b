/-
The outcomes of all metrics solve the equations of the compounds: a base metric has the word that is
given for it, and a compound the outcome of its operator on the outcomes of its operands. Compounds
are computed one after the other, each from outcomes that later ones leave alone; the invariant says
of the compounds so far what the main statement says of all.
-/
import StatSchema.Evaluation
import StatSchema.Proofs.Schema.WellFormed

namespace StatSchema

/-! ## Looking up -/

namespace Outcomes

theorem of_append {outcomes more : Outcomes} {metric : String}
    (known : metric ∈ outcomes.map (·.1)) : of (outcomes ++ more) metric = outcomes.of metric := by
  obtain ⟨outcome, found⟩ := lookup_isSome_of_mem known
  unfold of
  rw [List.lookup_append, found]
  rfl

theorem of_concat {outcomes : Outcomes} {metric : String} (fresh : metric ∉ outcomes.map (·.1))
    (outcome : Outcome) : of (outcomes ++ [(metric, outcome)]) metric = outcome := by
  unfold of
  rw [List.lookup_append, lookup_eq_none_of_not_mem fresh]
  simp

end Outcomes

theorem CompoundEntry.outcome_congr {overflow : Overflow} {compound : CompoundEntry}
    {outcomes outcomes' : Outcomes}
    (same : ∀ operand ∈ compound.operands, outcomes'.of operand = outcomes.of operand) :
    compound.outcome overflow outcomes' = compound.outcome overflow outcomes := by
  unfold CompoundEntry.outcome
  rw [List.map_congr_left same]

/-! ## Orders -/

theorem Ordered.concat {compounds done : List CompoundMetric} {last : CompoundMetric}
    (ordered : Ordered compounds (done ++ [last])) :
    Ordered compounds done ∧ last ∈ compounds ∧ last.name ∉ done.map (·.name) ∧
      ∀ operand ∈ last.operands, operand ∈ compounds.map (·.name) →
        operand ∈ done.map (·.name) := by
  generalize whole : done ++ [last] = all at ordered
  cases ordered with
  | nil => simp at whole
  | snoc before member fresh operands =>
    obtain ⟨rfl, same⟩ := List.append_inj' whole rfl
    cases same
    exact ⟨before, member, fresh, operands⟩

/-! ## Settling -/

namespace CompiledSchema

variable {compiled : CompiledSchema} {overflow : Overflow} {base : BaseEntry → UInt64}

/-- The outcomes once some compounds have been computed. -/
def outcomesAfter (compiled : CompiledSchema) (overflow : Overflow) (base : BaseEntry → UInt64)
    (compounds : List CompoundEntry) : Outcomes :=
  compounds.foldl
    (fun outcomes compound => outcomes ++ [(compound.name, compound.outcome overflow outcomes)])
    (compiled.storage.map fun entry => (entry.name, .ok (.integer (base entry))))

/-- Outcomes of the base metrics and of some compounds that solve the equations of the compounds. -/
structure Settled (compiled : CompiledSchema) (overflow : Overflow) (base : BaseEntry → UInt64)
    (compounds : List CompoundEntry) (outcomes : Outcomes) : Prop where
  names : outcomes.map (·.1) = compiled.storage.map (·.name) ++ compounds.map (·.name)
  base : ∀ entry ∈ compiled.storage, outcomes.of entry.name = .ok (.integer (base entry))
  operands : ∀ compound ∈ compounds, ∀ operand ∈ compound.operands,
    operand ∈ outcomes.map (·.1)
  compounds : ∀ compound ∈ compounds,
    outcomes.of compound.name = compound.outcome overflow outcomes

/-- One more compound, all of whose operands have outcomes. -/
theorem Settled.concat {compounds : List CompoundEntry} {outcomes : Outcomes}
    (settled : compiled.Settled overflow base compounds outcomes) {compound : CompoundEntry}
    (fresh : compound.name ∉ outcomes.map (·.1))
    (known : ∀ operand ∈ compound.operands, operand ∈ outcomes.map (·.1)) :
    compiled.Settled overflow base (compounds ++ [compound])
      (outcomes ++ [(compound.name, compound.outcome overflow outcomes)]) := by
  have kept : ∀ metric ∈ outcomes.map (·.1), metric ∈
      (outcomes ++ [(compound.name, compound.outcome overflow outcomes)]).map (·.1) := by
    intro metric here
    rw [List.map_append]
    exact List.mem_append_left _ here
  refine ⟨?_, ?_, ?_, ?_⟩
  · rw [List.map_append, List.map_append, settled.names, List.append_assoc]
    rfl
  · intro entry here
    rw [Outcomes.of_append, settled.base entry here]
    rw [settled.names]
    exact List.mem_append_left _ (List.mem_map_of_mem here)
  · intro other here operand taken
    rcases List.mem_append.1 here with earlier | last
    · exact kept operand (settled.operands other earlier operand taken)
    · rw [List.mem_singleton.1 last] at taken
      exact kept operand (known operand taken)
  · intro other here
    rcases List.mem_append.1 here with earlier | last
    · rw [Outcomes.of_append, settled.compounds other earlier]
      · refine (CompoundEntry.outcome_congr fun operand taken => ?_).symm
        exact Outcomes.of_append (settled.operands other earlier operand taken)
      · rw [settled.names]
        exact List.mem_append_right _ (List.mem_map_of_mem earlier)
    · rw [List.mem_singleton.1 last, Outcomes.of_concat fresh]
      exact (CompoundEntry.outcome_congr fun operand taken =>
        Outcomes.of_append (known operand taken)).symm

/-- The outcomes of a compiled schema solve the equations of its compounds. -/
theorem Represents.settled {schema : Schema} (represents : compiled.Represents schema)
    (wellFormed : schema.WellFormed) (overflow : Overflow) (base : BaseEntry → UInt64) :
    compiled.Settled overflow base compiled.evaluation (compiled.outcomes overflow base) := by
  have names : NamesSound schema.names := wellFormed .names
  have sound : OperandsSound schema.names schema.compounds := wellFormed .operands
  have apart := schema.perm_names.nodup_iff.2 names.nodup
  have stored := represents.perm_bases
  -- the compounds computed so far are an order of their own
  suffices general : ∀ compounds : List CompoundEntry,
      Ordered schema.compounds (compounds.map CompoundEntry.metric) →
      compiled.Settled overflow base compounds (compiled.outcomesAfter overflow base compounds) from
    general _ represents.ordered
  intro compounds
  induction compounds using List.reverseRecOn with
  | nil =>
    intro _
    refine ⟨?_, ?_, by simp, by simp⟩
    · simp [outcomesAfter, Function.comp_def]
    · intro entry here
      rw [Outcomes.of, outcomesAfter, List.foldl_nil,
        lookup_map_key (represents.nodup_storage names) here]
      rfl
  | append_singleton compounds compound ih =>
    intro ordered
    rw [List.map_append, List.map_singleton] at ordered
    obtain ⟨before, member, fresh, operands⟩ := ordered.concat
    have settled := ih before
    rw [names_metric] at fresh operands
    rw [outcomesAfter, List.foldl_append]
    refine settled.concat ?_ ?_
    · rw [settled.names]
      intro here
      rcases List.mem_append.1 here with base | earlier
      · exact (List.nodup_append.1 apart).2.2 _ (stored.mem_iff.1 base) _
          (List.mem_map_of_mem member) rfl
      · exact fresh earlier
    · intro operand taken
      rw [settled.names]
      have declared := (sound _ member).2 operand taken
      rcases List.mem_append.1 (schema.perm_names.mem_iff.2 declared) with base | derived
      · exact List.mem_append_left _ (stored.mem_iff.2 base)
      · exact List.mem_append_right _ (operands operand taken derived)

end CompiledSchema

end StatSchema
