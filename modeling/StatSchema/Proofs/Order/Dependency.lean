/-
The order of evaluation exists exactly when no compound takes its own value, directly or through
others. A search that succeeds lists every compound once and after the compounds among its
operands; a search that fails names a closed walk along operands.

The search is followed along its own recursion. Its invariant: what is done is in order, the path is
a walk, and no name of the path is done.
-/
import StatSchema.Dependency
import Mathlib.Data.List.Chain
import Mathlib.Data.List.Nodup
import Mathlib.Data.List.TakeWhile
import Mathlib.Logic.Relation

namespace StatSchema

/-- One compound of a list takes the value of a metric. -/
def Uses (compounds : List CompoundMetric) (user used : String) : Prop :=
  ∃ compound ∈ compounds, compound.name = user ∧ used ∈ compound.operands

/-- A walk along operands that ends where it begins. -/
def ClosedWalk (compounds : List CompoundMetric) (names : List String) : Prop :=
  ∃ first inner, names = first :: (inner ++ [first]) ∧ List.IsChain (Uses compounds) names

/-- Lists of compounds, none of them twice, in which each comes after the compounds among its
operands. -/
inductive Ordered (compounds : List CompoundMetric) : List CompoundMetric → Prop
  | nil : Ordered compounds []
  | snoc {done : List CompoundMetric} {compound : CompoundMetric} : Ordered compounds done →
      compound ∈ compounds → compound.name ∉ done.map (·.name) →
      (∀ operand ∈ compound.operands, operand ∈ compounds.map (·.name) →
        operand ∈ done.map (·.name)) →
      Ordered compounds (done ++ [compound])

/-- What has come of visiting some names while `path` is under way. -/
structure Visited (compounds : List CompoundMetric) (path : List String)
    (before : List CompoundMetric) (names : List String) (after : List CompoundMetric) :
    Prop where
  ordered : Ordered compounds after
  apart : ∀ name ∈ path, name ∉ after.map (·.name)
  kept : before ⊆ after
  reached : ∀ name ∈ names, name ∈ compounds.map (·.name) → name ∈ after.map (·.name)

section Search

variable {compounds : List CompoundMetric}

theorem mem_names_of_subset {before after : List CompoundMetric} (kept : before ⊆ after)
    {name : String} (h : name ∈ before.map (·.name)) : name ∈ after.map (·.name) :=
  List.map_subset _ kept h

theorem Visited.trans {path names more : List String} {before middle after : List CompoundMetric}
    (h : Visited compounds path before names middle)
    (h' : Visited compounds path middle more after) :
    Visited compounds path before (names ++ more) after := by
  refine ⟨h'.ordered, h'.apart, fun _ there => h'.kept (h.kept there), ?_⟩
  intro name here declared
  rcases List.mem_append.1 here with here | here
  · exact mem_names_of_subset h'.kept (h.reached name here declared)
  · exact h'.reached name here declared

/-- Visiting operands one after the other, each visit being as its own search says. -/
theorem visits_spec {pending : List CompoundMetric} {path operands : List String}
    {done : List CompoundMetric} (ordered : Ordered compounds done)
    (apart : ∀ name ∈ path, name ∉ done.map (·.name))
    (step : ∀ operand ∈ operands, ∀ done, Ordered compounds done →
      (∀ name ∈ path, name ∉ done.map (·.name)) →
      (∃ after, visit pending path done operand = .ok after ∧
        Visited compounds path done [operand] after) ∨
      ∃ cycle, visit pending path done operand = .error cycle ∧ ClosedWalk compounds cycle) :
    (∃ after, operands.foldlM (visit pending path) done = .ok after ∧
      Visited compounds path done operands after) ∨
    ∃ cycle, operands.foldlM (visit pending path) done = .error cycle ∧
      ClosedWalk compounds cycle := by
  induction operands generalizing done with
  | nil => exact .inl ⟨done, rfl, ordered, apart, fun _ here => here, by simp⟩
  | cons operand rest ih =>
    rw [List.foldlM_cons]
    rcases step operand List.mem_cons_self done ordered apart with
      ⟨middle, ran, first⟩ | ⟨cycle, ran, closed⟩
    · rw [ran]
      rcases ih first.ordered first.apart
          (fun other later => step other (List.mem_cons_of_mem _ later)) with
        ⟨after, ran', others⟩ | ⟨cycle, ran', closed⟩
      · exact .inl ⟨after, ran', first.trans others⟩
      · exact .inr ⟨cycle, ran', closed⟩
    · rw [ran]
      exact .inr ⟨cycle, rfl, closed⟩

/-- A name met again on the path closes a walk. -/
theorem closedWalk_of_mem_path {path : List String} {name : String} (again : name ∈ path)
    (walk : List.IsChain (Uses compounds) (path ++ [name])) :
    ClosedWalk compounds (path.dropWhile (· != name) ++ [name]) := by
  have suffix : path.dropWhile (· != name) ++ [name] <:+ path ++ [name] := by
    obtain ⟨skipped, whole⟩ := List.dropWhile_suffix (l := path) (· != name)
    exact ⟨skipped, by rw [← List.append_assoc, whole]⟩
  cases opened : path.dropWhile (· != name) with
  | nil =>
    have none := List.dropWhile_eq_nil_iff.1 opened name again
    simp at none
  | cons first inner =>
    have hit := List.head?_dropWhile_not (· != name) path
    rw [opened] at hit suffix
    have first_eq : first = name := by simpa using hit
    subst first_eq
    exact ⟨first, inner, rfl, walk.suffix suffix⟩

/-- A compound that is neither done nor on the path comes after its operands. -/
theorem visit_of_found {pending : List CompoundMetric} {path : List String}
    {done : List CompoundMetric} {name : String} {compound : CompoundMetric}
    (fresh : ¬ done.any (·.name == name) = true) (new : ¬ path.contains name = true)
    (found : pending.find? (·.name == name) = some compound) :
    visit pending path done name =
      (compound.operands.foldlM (visit (without name pending) (path ++ [name])) done).map
        (· ++ [compound]) := by
  rw [visit, if_neg fresh, if_neg new]
  split
  · rename_i absent
    rw [found] at absent
    cases absent
  · rename_i other found'
    rw [found] at found'
    cases found'
    cases compound.operands.foldlM (visit (without name pending) (path ++ [name])) done <;> rfl

/-- What comes of a compound once its operands have been visited. -/
theorem visit_spec_of_found {pending : List CompoundMetric} {path : List String}
    {done : List CompoundMetric} {name : String} {compound : CompoundMetric}
    (fresh : ¬ done.any (·.name == name) = true) (new : ¬ path.contains name = true)
    (found : pending.find? (·.name == name) = some compound) (member : compound ∈ compounds)
    (operands : (∃ after,
        compound.operands.foldlM (visit (without name pending) (path ++ [name])) done = .ok after ∧
        Visited compounds (path ++ [name]) done compound.operands after) ∨
      ∃ cycle,
        compound.operands.foldlM (visit (without name pending) (path ++ [name])) done =
          .error cycle ∧ ClosedWalk compounds cycle) :
    (∃ after, visit pending path done name = .ok after ∧
      Visited compounds path done [name] after) ∨
    ∃ cycle, visit pending path done name = .error cycle ∧ ClosedWalk compounds cycle := by
  have named : compound.name = name := by simpa using List.find?_some found
  rw [visit_of_found fresh new found]
  rcases operands with ⟨after, ran, h⟩ | ⟨cycle, ran, closed⟩
  · rw [ran]
    have last : compound.name ∉ after.map (·.name) := h.apart _ (by simp [named])
    refine .inl ⟨after ++ [compound], rfl, .snoc h.ordered member last h.reached, ?_, ?_, ?_⟩
    · intro other under there
      rw [List.map_append, List.mem_append] at there
      rcases there with there | there
      · exact h.apart other (List.mem_append_left _ under) there
      · have same : other = name := by simpa [named] using there
        exact new (by simpa [same] using under)
    · exact fun _ there => List.mem_append_left _ (h.kept there)
    · intro other here _
      rw [List.mem_singleton.1 here]
      simp [named]
  · rw [ran]
    exact .inr ⟨cycle, rfl, closed⟩

/-- A visit leaves the compounds in order with the visited one among them, or names a closed
walk. -/
theorem visit_spec (pending : List CompoundMetric) (path : List String)
    (done : List CompoundMetric) (name : String) (within : pending ⊆ compounds)
    (covered : ∀ compound ∈ compounds, compound ∈ pending ∨ compound.name ∈ path)
    (walk : List.IsChain (Uses compounds) (path ++ [name])) (ordered : Ordered compounds done)
    (apart : ∀ name ∈ path, name ∉ done.map (·.name)) :
    (∃ after, visit pending path done name = .ok after ∧
      Visited compounds path done [name] after) ∨
    ∃ cycle, visit pending path done name = .error cycle ∧ ClosedWalk compounds cycle := by
  -- the recursion takes the visited compound from `pending` and puts its name on the path
  induction hn : pending.length using Nat.strong_induction_on
    generalizing pending path done name with
  | _ n ih =>
    subst hn
    by_cases finished : done.any (·.name == name) = true
    · rw [visit, if_pos finished]
      refine .inl ⟨done, rfl, ordered, apart, fun _ here => here, ?_⟩
      intro other here _
      rw [List.mem_singleton.1 here]
      simpa [List.any_eq_true] using finished
    by_cases again : path.contains name = true
    · rw [visit, if_neg finished, if_pos again]
      exact .inr ⟨_, rfl, closedWalk_of_mem_path (by simpa using again) walk⟩
    cases found : pending.find? (·.name == name) with
    | none =>
      have leaf : visit pending path done name = .ok done := by
        rw [visit, if_neg finished, if_neg again]
        split
        · rfl
        · rename_i found'
          rw [found] at found'
          cases found'
      rw [leaf]
      refine .inl ⟨done, rfl, ordered, apart, fun _ here => here, ?_⟩
      intro other here declared
      rw [List.mem_singleton.1 here] at declared
      obtain ⟨compound, there, rfl⟩ := List.mem_map.1 declared
      rcases covered compound there with waiting | under
      · have missed := List.find?_eq_none.1 found compound waiting
        simp at missed
      · exact absurd under (by simpa using again)
    | some compound =>
      have named : compound.name = name := by simpa using List.find?_some found
      have member : compound ∈ compounds := within (List.mem_of_find?_eq_some found)
      have apart' : ∀ other ∈ path ++ [name], other ∉ done.map (·.name) := by
        intro other under
        rcases List.mem_append.1 under with under | here
        · exact apart other under
        · rw [List.mem_singleton.1 here]
          simpa [List.any_eq_true] using finished
      refine visit_spec_of_found finished again found member (visits_spec ordered apart' ?_)
      intro operand taken done ordered apart
      refine ih _ (length_without_lt found) _ _ _ _ ?_ ?_ ?_ ordered apart rfl
      · exact fun _ there => within (List.mem_filter.1 there).1
      · intro other there
        by_cases same : other.name = name
        · exact .inr (by simp [same])
        · rcases covered other there with waiting | under
          · exact .inl (List.mem_filter.2 ⟨waiting, by simpa using same⟩)
          · exact .inr (List.mem_append_left _ under)
      · refine List.IsChain.append_overlap walk ?_ (by simp)
        exact List.isChain_cons_cons.2 ⟨⟨compound, member, named, taken⟩, .singleton _⟩

/-! ## Walks and ranks -/

theorem transGen_of_walk {first last : String} {inner : List String}
    (walk : List.IsChain (Uses compounds) (first :: (inner ++ [last]))) :
    Relation.TransGen (Uses compounds) first last := by
  induction inner generalizing first with
  | nil =>
    rw [List.nil_append, List.isChain_cons_cons] at walk
    exact .single walk.1
  | cons next rest ih =>
    rw [List.cons_append, List.isChain_cons_cons] at walk
    exact .head walk.1 (ih walk.2)

theorem ClosedWalk.not_acyclic {names : List String} (closed : ClosedWalk compounds names) :
    ∃ name, Relation.TransGen (Uses compounds) name name := by
  obtain ⟨first, inner, rfl, walk⟩ := closed
  exact ⟨first, transGen_of_walk walk⟩

/-- A metric that is no compound takes no other. -/
theorem acc_of_not_compound {name : String} (h : name ∉ compounds.map (·.name)) :
    Acc (fun used user => Uses compounds user used) name := by
  refine Acc.intro _ fun used uses => ?_
  obtain ⟨compound, there, rfl, -⟩ := uses
  exact absurd (List.mem_map_of_mem there) h

theorem Ordered.acc {done : List CompoundMetric} (ordered : Ordered compounds done)
    (distinct : (compounds.map (·.name)).Nodup) :
    ∀ name ∈ done.map (·.name), Acc (fun used user => Uses compounds user used) name := by
  induction ordered with
  | nil => simp
  | snoc before member last operands ih =>
    rename_i done compound
    intro name here
    rw [List.map_append, List.mem_append] at here
    rcases here with earlier | here
    · exact ih name earlier
    · have same : name = compound.name := by simpa using here
      subst same
      refine Acc.intro _ fun used uses => ?_
      obtain ⟨other, there, named, taken⟩ := uses
      cases List.inj_on_of_nodup_map distinct there member named
      by_cases declared : used ∈ compounds.map (·.name)
      · exact ih used (operands used taken declared)
      · exact acc_of_not_compound declared

/-- Following operands comes to an end, if all compounds are in order. -/
theorem Ordered.wellFounded {done : List CompoundMetric} (ordered : Ordered compounds done)
    (distinct : (compounds.map (·.name)).Nodup)
    (all : ∀ compound ∈ compounds, compound.name ∈ done.map (·.name)) :
    WellFounded fun used user => Uses compounds user used := by
  refine ⟨fun name => ?_⟩
  by_cases declared : name ∈ compounds.map (·.name)
  · obtain ⟨compound, there, rfl⟩ := List.mem_map.1 declared
    exact ordered.acc distinct _ (all compound there)
  · exact acc_of_not_compound declared

/-- Compounds that are in order form no cycle. -/
theorem Ordered.acyclic {done : List CompoundMetric} (ordered : Ordered compounds done)
    (distinct : (compounds.map (·.name)).Nodup)
    (all : ∀ compound ∈ compounds, compound.name ∈ done.map (·.name)) (name : String) :
    ¬ Relation.TransGen (Uses compounds) name name := by
  intro cycle
  have back : Relation.TransGen (fun used user => Uses compounds user used) name name :=
    Relation.transGen_swap.2 cycle
  exact (ordered.wellFounded distinct all).transGen.asymmetric name name back back

end Search

/-! ## The whole order -/

/-- The search lists every compound in order, or names a closed walk. -/
theorem dependencyOrder_spec (compounds : List CompoundMetric) :
    (∃ done, dependencyOrder compounds = .ok done ∧ Ordered compounds done ∧
      ∀ compound ∈ compounds, compound.name ∈ done.map (·.name)) ∨
    ∃ cycle, dependencyOrder compounds = .error cycle ∧ ClosedWalk compounds cycle := by
  have whole : dependencyOrder compounds =
      (compounds.map (·.name)).foldlM (visit compounds []) [] := by
    rw [dependencyOrder, List.foldlM_map]
  rw [whole]
  have step : ∀ operand ∈ compounds.map (·.name), ∀ done, Ordered compounds done →
      (∀ name ∈ ([] : List String), name ∉ done.map (·.name)) →
      (∃ after, visit compounds [] done operand = .ok after ∧
        Visited compounds [] done [operand] after) ∨
      ∃ cycle, visit compounds [] done operand = .error cycle ∧ ClosedWalk compounds cycle := by
    intro operand _ done ordered apart
    exact visit_spec compounds [] done operand (fun _ here => here) (fun _ here => .inl here)
      (by simp) ordered apart
  rcases visits_spec .nil (by simp) step with ⟨done, ran, h⟩ | failed
  · refine .inl ⟨done, ran, h.ordered, ?_⟩
    intro compound here
    have declared := List.mem_map_of_mem (f := (·.name)) here
    exact h.reached _ declared declared
  · exact .inr failed

end StatSchema
