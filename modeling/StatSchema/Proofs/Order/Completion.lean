/-
Which lists can be completed to an order of the keys, and what the completion is. A list can be
completed exactly when it repeats no entry, names keys only and, where it has to be whole, leaves
none out; it then comes first and the completion is a permutation of the keys. Otherwise the error
says which of the three is broken, the first of them in this order.
-/
import StatSchema.Completion
import Mathlib.Data.List.Nodup
import Mathlib.Data.List.Duplicate
import Mathlib.Data.List.Perm.Basic

namespace StatSchema

/-- A list that begins an order of the keys. -/
structure Completable (listed keys : List String) (strict : Bool) : Prop where
  nodup : listed.Nodup
  known : ∀ name ∈ listed, name ∈ keys
  whole : strict = true → listed ≠ [] → ∀ key ∈ keys, key ∈ listed

/-- What is reported of a list that begins no order of the keys. -/
inductive OrderFault (order : MetricOrder) (listed keys : List String) (strict : Bool) :
    SchemaError → Prop
  | repeated {name : String} : List.Duplicate name listed →
      OrderFault order listed keys strict (.duplicateName name (.order order))
  | unknown {name : String} : listed.Nodup → name ∈ listed → name ∉ keys →
      OrderFault order listed keys strict (.incompleteOrder order (.unknown name))
  | missing : listed.Nodup → (∀ name ∈ listed, name ∈ keys) → strict = true → listed ≠ [] →
      omitted listed keys ≠ [] →
      OrderFault order listed keys strict (.incompleteOrder order (.missing (omitted listed keys)))

/-! ## Repeated entries -/

theorem firstRepeated_eq_none {seen listed : List String} (h : firstRepeated seen listed = none) :
    listed.Nodup ∧ ∀ name ∈ listed, name ∉ seen := by
  induction listed generalizing seen with
  | nil => exact ⟨List.nodup_nil, by simp⟩
  | cons name rest ih =>
    unfold firstRepeated at h
    split at h
    · cases h
    · rename_i fresh
      obtain ⟨nodup, unseen⟩ := ih h
      refine ⟨List.nodup_cons.2 ⟨fun again => ?_, nodup⟩, fun other there => ?_⟩
      · exact unseen name again List.mem_cons_self
      · rcases List.mem_cons.1 there with rfl | later
        · simpa using fresh
        · exact fun before => unseen other later (List.mem_cons_of_mem _ before)

theorem firstRepeated_eq_some {seen listed : List String} {name : String}
    (h : firstRepeated seen listed = some name) :
    List.Duplicate name listed ∨ (name ∈ seen ∧ name ∈ listed) := by
  induction listed generalizing seen with
  | nil => cases h
  | cons first rest ih =>
    unfold firstRepeated at h
    split at h
    · rename_i known
      cases h
      exact .inr ⟨by simpa using known, List.mem_cons_self⟩
    · rcases ih h with twice | ⟨before, later⟩
      · exact .inl (twice.duplicate_cons first)
      · rcases List.mem_cons.1 before with rfl | before
        · exact .inl (List.Mem.duplicate_cons_self later)
        · exact .inr ⟨before, List.mem_cons_of_mem _ later⟩

/-! ## Completion -/

theorem mem_omitted {listed keys : List String} {key : String} :
    key ∈ omitted listed keys ↔ key ∈ keys ∧ key ∉ listed := by
  simp [omitted]

theorem nodup_append_omitted {listed keys : List String} (hl : listed.Nodup) (hk : keys.Nodup) :
    (listed ++ omitted listed keys).Nodup := by
  rw [List.nodup_append]
  refine ⟨hl, hk.filter _, ?_⟩
  intro name here key there same
  exact (mem_omitted.1 there).2 (same ▸ here)

/-- A completion holds the keys and nothing else. -/
theorem perm_append_omitted {listed keys : List String} {strict : Bool}
    (h : Completable listed keys strict) (hk : keys.Nodup) :
    (listed ++ omitted listed keys).Perm keys := by
  rw [List.perm_ext_iff_of_nodup (nodup_append_omitted h.nodup hk) hk]
  intro name
  rw [List.mem_append, mem_omitted]
  constructor
  · rintro (here | ⟨key, -⟩)
    · exact h.known name here
    · exact key
  · intro key
    by_cases here : name ∈ listed
    · exact .inl here
    · exact .inr ⟨key, here⟩

/-- Completing answers the listed names and then the omitted keys, or reports a fault of the
list. -/
theorem complete_spec (order : MetricOrder) (listed keys : List String) (strict : Bool) :
    (complete order listed keys strict = .ok (listed ++ omitted listed keys) ∧
      Completable listed keys strict) ∨
    ∃ error, complete order listed keys strict = .error error ∧
      OrderFault order listed keys strict error := by
  unfold complete
  cases repeated : firstRepeated [] listed with
  | some name =>
    refine .inr ⟨_, rfl, ?_⟩
    rcases firstRepeated_eq_some repeated with twice | ⟨before, -⟩
    · exact .repeated twice
    · cases before
  | none =>
    have nodup := (firstRepeated_eq_none repeated).1
    -- no entry is repeated; the next fault is an entry that is no key
    cases stranger : listed.find? fun name => !keys.contains name with
    | some name =>
      have unknown := List.find?_some stranger
      exact .inr ⟨_, rfl, .unknown nodup (List.mem_of_find?_eq_some stranger)
        (by simpa using unknown)⟩
    | none =>
      have known : ∀ name ∈ listed, name ∈ keys := by
        intro name here
        simpa using List.find?_eq_none.1 stranger name here
      simp only
      split
      · rename_i unfinished
        simp only [Bool.and_eq_true, Bool.not_eq_true', List.isEmpty_eq_false_iff] at unfinished
        obtain ⟨⟨strictly, begun⟩, missing⟩ := unfinished
        exact .inr ⟨_, rfl, .missing nodup known strictly begun missing⟩
      · rename_i finished
        refine .inl ⟨rfl, nodup, known, ?_⟩
        intro strictly begun key there
        by_contra absent
        have missing : omitted listed keys ≠ [] :=
          List.ne_nil_of_mem (mem_omitted.2 ⟨there, absent⟩)
        simp [strictly, begun, missing] at finished

/-- A list of which a fault is reported begins no order. -/
theorem OrderFault.not_completable {order : MetricOrder} {listed keys : List String} {strict : Bool}
    {error : SchemaError} (fault : OrderFault order listed keys strict error) :
    ¬ Completable listed keys strict := by
  intro h
  cases fault with
  | repeated twice => exact twice.not_nodup h.nodup
  | unknown nodup here absent => exact absent (h.known _ here)
  | missing nodup known strictly begun missing =>
    obtain ⟨key, there⟩ := List.exists_mem_of_ne_nil _ missing
    obtain ⟨there, absent⟩ := mem_omitted.1 there
    exact absent (h.whole strictly begun key there)

/-! ## The display order -/

/-- A permutation of distinct names has no problem as a display order. -/
theorem displayProblem_eq_none {display names : List String} (nodup : names.Nodup)
    (perm : display.Perm names) : displayProblem display names = none := by
  have unrepeated : firstRepeated [] display = none := by
    cases h : firstRepeated [] display with
    | none => rfl
    | some name =>
      rcases firstRepeated_eq_some h with twice | ⟨before, -⟩
      · exact absurd (perm.nodup_iff.2 nodup) twice.not_nodup
      · cases before
  have shown : names.find? (fun name => !display.contains name) = none := by
    rw [List.find?_eq_none]
    intro name here
    simpa using perm.mem_iff.2 here
  unfold displayProblem
  rw [unrepeated, shown]
  simp [perm.length_eq]

end StatSchema
