/-
The cycle that a search reports meets no name twice, but for the first one that it ends with: a search
only goes on to names that are not on its path. Compiling reports it exactly when the names and operands
are sound and some compound takes its own value.
-/
import StatSchema.Proofs.Schema.WellFormed

namespace StatSchema

/-- A walk along operands that ends where it begins and meets no name twice on the way. -/
structure SimpleCycle (compounds : List CompoundMetric) (names : List String) : Prop where
  closed : ClosedWalk compounds names
  distinct : names.dropLast.Nodup

/-! ## Searches that fail -/

theorem exists_of_foldlM_eq_error {ε α β : Type} {step : β → α → Except ε β} {values : List α}
    {start : β} {error : ε} (h : values.foldlM step start = .error error) :
    ∃ value ∈ values, ∃ before, step before value = .error error := by
  induction values generalizing start with
  | nil => cases h
  | cons value rest ih =>
    rw [List.foldlM_cons] at h
    cases ran : step start value with
    | error other =>
      rw [ran] at h
      cases h
      exact ⟨value, List.mem_cons_self, start, ran⟩
    | ok next =>
      rw [ran] at h
      obtain ⟨later, there, before, stopped⟩ := ih h
      exact ⟨later, List.mem_cons_of_mem _ there, before, stopped⟩

/-- A visit puts a name on the path only if it is not there, so the part of the path that it reports
names nothing twice. -/
theorem nodup_of_visit_eq_error {pending : List CompoundMetric} {path : List String}
    {done : List CompoundMetric} {name : String} {cycle : List String}
    (h : visit pending path done name = .error cycle) (distinct : path.Nodup) :
    cycle.dropLast.Nodup := by
  fun_induction visit pending path done name with
  | case1 => cases h
  | case2 pending path done name _ again =>
    cases h
    rw [List.dropLast_concat]
    exact distinct.sublist (List.dropWhile_sublist _)
  | case3 => cases h
  | case4 => cases h
  | case5 pending path done name _ new compound _ _ failed ih =>
    cases h
    obtain ⟨operand, -, before, stopped⟩ := exists_of_foldlM_eq_error failed
    refine ih before operand stopped ?_
    rw [List.nodup_append]
    refine ⟨distinct, List.nodup_singleton name, ?_⟩
    rintro other under last here rfl
    rw [List.mem_singleton.1 here] at under
    exact new (by simpa using under)

/-- What a search reports is a simple cycle. -/
theorem simpleCycle_of_dependencyOrder {compounds : List CompoundMetric} {cycle : List String}
    (h : dependencyOrder compounds = .error cycle) : SimpleCycle compounds cycle := by
  rcases dependencyOrder_spec compounds with ⟨done, ran, -⟩ | ⟨other, ran, closed⟩
  · rw [ran] at h
    cases h
  · rw [ran] at h
    cases h
    obtain ⟨compound, -, before, stopped⟩ := exists_of_foldlM_eq_error ran
    exact ⟨closed, nodup_of_visit_eq_error stopped List.nodup_nil⟩

/-- The search reports a cycle exactly if some compound takes its own value. -/
theorem dependencyOrder_eq_error_iff {schema : Schema} (names : schema.Meets .names) :
    (∃ cycle, dependencyOrder schema.compounds = .error cycle) ↔
      ∃ name, Relation.TransGen (Uses schema.compounds) name name := by
  have sound : NamesSound schema.names := names
  have distinct := sound.nodup.sublist schema.sublist_names_compounds
  rcases dependencyOrder_spec schema.compounds with ⟨done, ran, ordered, all⟩ | ⟨cycle, ran, closed⟩
  · constructor
    · rintro ⟨cycle, stopped⟩
      rw [ran] at stopped
      cases stopped
    · rintro ⟨name, again⟩
      exact absurd again (ordered.acyclic distinct all name)
  · exact ⟨fun _ => closed.not_acyclic, fun _ => ⟨cycle, ran⟩⟩

/-! ## Compiling -/

/-- Cycles are reported in the phase that looks for them. -/
theorem Schema.Reports.eq_cycles {schema : Schema} {cycle : List String} {phase : Phase}
    (fault : schema.Reports (.refused (.cycle cycle)) phase) : phase = .cycles := by
  cases phase with
  | cycles => rfl
  | names => cases fault
  | mutators => cases fault
  | operands => cases fault
  | spellings => cases fault
  | storage | derivation | display =>
    obtain ⟨error, same, fault⟩ := fault
    cases same
    cases fault

/-- Once names, mutators and operands are sound, compiling reports the cycle that the search finds, or
none if the search finds none. -/
theorem compile_eq_cycle_iff {schema : Schema} (names : schema.Meets .names)
    (mutators : schema.Meets .mutators) (operands : schema.Meets .operands) (cycle : List String) :
    compile schema = .error (.refused (.cycle cycle)) ↔
      dependencyOrder schema.compounds = .error cycle := by
  obtain ⟨named, -⟩ | ⟨failure, -, fault⟩ := checkNames_all_spec schema.names
  swap
  · exact absurd names fault.not_sound
  obtain ⟨apart, -⟩ | ⟨failure, -, fault⟩ := checkMutators_spec schema.names schema.bases
  swap
  · exact absurd mutators fault.not_apart
  obtain ⟨declared, -⟩ | ⟨failure, -, fault⟩ := checkOperands_spec schema.names schema.compounds
  swap
  · exact absurd operands fault.not_sound
  have verdict := compile_spec schema
  rcases ran : dependencyOrder schema.compounds with other | done
  · unfold compile
    rw [named, ok_bind, apart, ok_bind, declared, ok_bind, ran, refusing, refuse, error_bind]
    simp
  · -- a search that finds no cycle leaves none to be reported later
    refine ⟨fun refused => ?_, fun other => by cases other⟩
    rw [refused] at verdict
    cases verdict with
    | refused phase fault sofar =>
      obtain rfl := fault.eq_cycles
      obtain ⟨names', -, closed⟩ := fault
      obtain ⟨cycle, stopped⟩ := (dependencyOrder_eq_error_iff names).2 closed.not_acyclic
      rw [ran] at stopped
      cases stopped

end StatSchema
