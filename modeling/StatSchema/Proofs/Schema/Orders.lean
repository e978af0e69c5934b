/-
Completing an order, exactly. A list that begins an order of the keys is completed by the keys that it
leaves out, in their own order, and what has been completed stays as it is. Otherwise one thing is
reported: the entry whose second occurrence comes first; if nothing is repeated, the first entry that is
no key; if every entry is a key, all keys that are left out. Main statement: `orders_completed_exactly`.
-/
import StatSchema.Proofs.Schema.WellFormed

namespace StatSchema

/-- The entry of a list whose second occurrence comes first. -/
def RepeatsFirst (listed : List String) (name : String) : Prop :=
  ∃ front rest, listed = front ++ name :: rest ∧ front.Nodup ∧ name ∈ front

/-- The first entry of a list that is no key. -/
def StrangerFirst (listed keys : List String) (name : String) : Prop :=
  ∃ front rest, listed = front ++ name :: rest ∧ (∀ other ∈ front, other ∈ keys) ∧ name ∉ keys

/-- What is reported of a list that cannot be completed. No two constructors are about the same list. -/
inductive OrderObjection (order : MetricOrder) (listed keys : List String) (strict : Bool) :
    SchemaError → Prop
  | repeated {name : String} : RepeatsFirst listed name →
      OrderObjection order listed keys strict (.duplicateName name (.order order))
  | unknown {name : String} : listed.Nodup → StrangerFirst listed keys name →
      OrderObjection order listed keys strict (.incompleteOrder order (.unknown name))
  | missing : listed.Nodup → (∀ name ∈ listed, name ∈ keys) → strict = true → listed ≠ [] →
      (∃ key ∈ keys, key ∉ listed) →
      OrderObjection order listed keys strict
        (.incompleteOrder order (.missing (keys.filter (· ∉ listed))))

/-! ## What is found first -/

theorem firstRepeated_eq_some_iff {seen listed : List String} {name : String} :
    firstRepeated seen listed = some name ↔
      ∃ front rest, listed = front ++ name :: rest ∧ front.Nodup ∧
        (∀ other ∈ front, other ∉ seen) ∧ (name ∈ front ∨ name ∈ seen) := by
  induction listed generalizing seen with
  | nil => simp [firstRepeated]
  | cons first rest ih =>
    rw [firstRepeated]
    split
    · rename_i known
      have known : first ∈ seen := by simpa using known
      constructor
      · intro same
        cases same
        exact ⟨[], rest, rfl, List.nodup_nil, by simp, .inr known⟩
      · rintro ⟨front, after, whole, -, unseen, -⟩
        cases front with
        | nil =>
          cases whole
          rfl
        | cons other front =>
          cases whole
          exact absurd known (unseen first List.mem_cons_self)
    · rename_i unknown
      have unknown : first ∉ seen := by simpa using unknown
      rw [ih]
      constructor
      · rintro ⟨front, after, rfl, nodup, unseen, earlier⟩
        refine ⟨first :: front, after, rfl, List.nodup_cons.2 ⟨?_, nodup⟩, ?_, ?_⟩
        · exact fun again => unseen first again List.mem_cons_self
        · intro other here
          rcases List.mem_cons.1 here with rfl | here
          · exact unknown
          · exact fun before => unseen other here (List.mem_cons_of_mem _ before)
        · rcases earlier with here | before
          · exact .inl (List.mem_cons_of_mem _ here)
          · rcases List.mem_cons.1 before with rfl | before
            · exact .inl List.mem_cons_self
            · exact .inr before
      · rintro ⟨front, after, whole, nodup, unseen, earlier⟩
        cases front with
        | nil =>
          -- the first entry itself has been seen by nothing
          cases whole
          rcases earlier with here | before
          · cases here
          · exact absurd before unknown
        | cons other front =>
          cases whole
          obtain ⟨fresh, nodup⟩ := List.nodup_cons.1 nodup
          refine ⟨front, after, rfl, nodup, ?_, ?_⟩
          · intro other here before
            rcases List.mem_cons.1 before with rfl | before
            · exact fresh here
            · exact unseen other (List.mem_cons_of_mem _ here) before
          · rcases earlier with here | before
            · rcases List.mem_cons.1 here with rfl | here
              · exact .inr List.mem_cons_self
              · exact .inl here
            · exact .inr (List.mem_cons_of_mem _ before)

theorem firstRepeated_nil_eq_some_iff {listed : List String} {name : String} :
    firstRepeated [] listed = some name ↔ RepeatsFirst listed name := by
  rw [firstRepeated_eq_some_iff]
  constructor
  · rintro ⟨front, rest, whole, nodup, -, here | before⟩
    · exact ⟨front, rest, whole, nodup, here⟩
    · cases before
  · rintro ⟨front, rest, whole, nodup, here⟩
    exact ⟨front, rest, whole, nodup, by simp, .inl here⟩

theorem firstRepeated_of_nodup {listed : List String} (nodup : listed.Nodup) :
    firstRepeated [] listed = none := by
  cases repeated : firstRepeated [] listed with
  | none => rfl
  | some name =>
    obtain ⟨front, rest, rfl, -, here⟩ := firstRepeated_nil_eq_some_iff.1 repeated
    exact absurd rfl ((List.nodup_append.1 nodup).2.2 name here name List.mem_cons_self)

theorem find?_stranger_eq_some_iff {listed keys : List String} {name : String} :
    (listed.find? fun name => !keys.contains name) = some name ↔ StrangerFirst listed keys name := by
  rw [List.find?_eq_some_iff_append]
  constructor
  · rintro ⟨stranger, front, rest, whole, known⟩
    exact ⟨front, rest, whole, by simpa using known, by simpa using stranger⟩
  · rintro ⟨front, rest, whole, known, stranger⟩
    exact ⟨by simpa using stranger, front, rest, whole, by simpa using known⟩

theorem find?_stranger_of_known {listed keys : List String} (known : ∀ name ∈ listed, name ∈ keys) :
    (listed.find? fun name => !keys.contains name) = none := by
  rw [List.find?_eq_none]
  intro name here
  simpa using known name here

/-! ## Completing -/

theorem omitted_eq_filter (listed keys : List String) :
    omitted listed keys = keys.filter (· ∉ listed) := by
  unfold omitted
  refine List.filter_congr fun key _ => ?_
  simp

theorem complete_of_completable {listed keys : List String} {strict : Bool}
    (h : Completable listed keys strict) (order : MetricOrder) :
    complete order listed keys strict = .ok (listed ++ keys.filter (· ∉ listed)) := by
  rcases complete_spec order listed keys strict with ⟨completed, -⟩ | ⟨error, -, fault⟩
  · rw [completed, omitted_eq_filter]
  · exact absurd h fault.not_completable

/-- A list that is not completed is reported for its first fault, and for nothing else. -/
theorem complete_eq_error_iff {order : MetricOrder} {listed keys : List String} {strict : Bool}
    {error : SchemaError} :
    complete order listed keys strict = .error error ↔
      OrderObjection order listed keys strict error := by
  constructor
  · unfold complete
    intro h
    split at h
    · rename_i name repeated
      cases h
      exact .repeated (firstRepeated_nil_eq_some_iff.1 repeated)
    · rename_i unrepeated
      have nodup := (firstRepeated_eq_none unrepeated).1
      split at h
      · rename_i name stranger
        cases h
        exact .unknown nodup (find?_stranger_eq_some_iff.1 stranger)
      · rename_i known
        have known : ∀ name ∈ listed, name ∈ keys := by
          intro name here
          simpa using List.find?_eq_none.1 known name here
        dsimp only at h
        split at h
        · rename_i unfinished
          simp only [Bool.and_eq_true, Bool.not_eq_true', List.isEmpty_eq_false_iff] at unfinished
          obtain ⟨⟨strictly, begun⟩, missing⟩ := unfinished
          obtain ⟨key, there⟩ := List.exists_mem_of_ne_nil _ missing
          cases h
          rw [omitted_eq_filter]
          exact .missing nodup known strictly begun ⟨key, mem_omitted.1 there⟩
        · cases h
  · intro objection
    unfold complete
    cases objection with
    | repeated first => rw [firstRepeated_nil_eq_some_iff.2 first]
    | unknown nodup first =>
      rw [firstRepeated_of_nodup nodup, find?_stranger_eq_some_iff.2 first]
    | missing nodup known strictly begun missing =>
      obtain ⟨key, there, absent⟩ := missing
      rw [firstRepeated_of_nodup nodup, find?_stranger_of_known known]
      have left : omitted listed keys ≠ [] := List.ne_nil_of_mem (mem_omitted.2 ⟨there, absent⟩)
      rw [← omitted_eq_filter]
      simp [strictly, begun, left]

theorem Completable.relaxed {listed keys : List String} {strict : Bool}
    (h : Completable listed keys strict) : Completable listed keys false :=
  ⟨h.nodup, h.known, nofun⟩

/-- An order of the keys is complete. -/
theorem complete_of_perm {keys whole : List String} (distinct : keys.Nodup) (perm : whole.Perm keys)
    (order : MetricOrder) (strict : Bool) : complete order whole keys strict = .ok whole := by
  have completable : Completable whole keys strict :=
    ⟨perm.nodup_iff.2 distinct, fun _ here => perm.mem_iff.1 here,
      fun _ _ key there => perm.mem_iff.2 there⟩
  have none : keys.filter (· ∉ whole) = [] := by
    rw [List.filter_eq_nil_iff]
    intro key there
    simpa using perm.mem_iff.2 there
  rw [complete_of_completable completable, none, List.append_nil]

/-! ## The display order of a schema -/

/-- The problems of a display order that is no arrangement of the declared names. -/
inductive OrderProblem.Uncovered : OrderProblem → Prop
  | repeated : Uncovered .repeated
  | neverShown (name : String) : Uncovered (.neverShown name)
  | undeclared : Uncovered .undeclared

theorem displayProblem_uncovered {display names : List String} {problem : OrderProblem}
    (found : displayProblem display names = some problem) : problem.Uncovered := by
  unfold displayProblem at found
  split at found
  · cases found
    exact .repeated
  · split at found
    · cases found
      exact .neverShown _
    · split at found
      · cases found
        exact .undeclared
      · cases found

/-- No phase of compiling reports that the display order is no arrangement of the names. -/
theorem Schema.Reports.covered {schema : Schema} {phase : Phase} {order : MetricOrder}
    {problem : OrderProblem}
    (fault : schema.Reports (.refused (.incompleteOrder order problem)) phase) :
    ¬ problem.Uncovered := by
  cases phase with
  | names => cases fault
  | mutators => cases fault
  | operands => cases fault
  | cycles =>
    obtain ⟨names, same, -⟩ := fault
    cases same
  | spellings => cases fault
  | storage | derivation | display =>
    obtain ⟨error, same, fault⟩ := fault
    cases same
    cases fault <;> exact nofun

theorem compile_ne_uncovered (schema : Schema) {problem : OrderProblem}
    (uncovered : problem.Uncovered) :
    compile schema ≠ .error (.refused (.incompleteOrder .display problem)) := by
  intro refused
  have verdict := compile_spec schema
  rw [refused] at verdict
  cases verdict with
  | refused phase fault sofar => exact fault.covered uncovered

/-- A list is completed exactly if it repeats no entry, names keys only and, where it has to be whole,
leaves none out. It is then followed by the keys that it leaves out, in their own order; the order is a
permutation of the keys, does not depend on whether it had to be whole, and is its own completion. What
is reported of any other list is the first of its faults. So compiling never gets to a display order
that is no arrangement of the declared names. -/
theorem orders_completed_exactly (order : MetricOrder) (listed : List String) {keys : List String}
    (strict : Bool) (distinct : keys.Nodup) :
    ((∃ whole, complete order listed keys strict = .ok whole) ↔ Completable listed keys strict) ∧
    (∀ whole, complete order listed keys strict = .ok whole →
      whole = listed ++ keys.filter (· ∉ listed) ∧ whole.Perm keys ∧ listed <+: whole ∧
      complete order listed keys false = .ok whole ∧
      (∀ strict', complete order whole keys strict' = .ok whole) ∧
      displayProblem whole keys = none) ∧
    (∀ error, complete order listed keys strict = .error error ↔
      OrderObjection order listed keys strict error) ∧
    ∀ schema problem, (∃ display names, displayProblem display names = some problem) →
      compile schema ≠ .error (.refused (.incompleteOrder .display problem)) := by
  have completed : ∀ whole, complete order listed keys strict = .ok whole →
      whole = listed ++ keys.filter (· ∉ listed) ∧ Completable listed keys strict := by
    intro whole ran
    rcases complete_spec order listed keys strict with ⟨ran', completable⟩ | ⟨error, ran', -⟩
    · rw [complete_of_completable completable] at ran
      cases ran
      exact ⟨rfl, completable⟩
    · rw [ran'] at ran
      cases ran
  refine ⟨⟨?_, ?_⟩, ?_, fun error => complete_eq_error_iff, ?_⟩
  · rintro ⟨whole, ran⟩
    exact (completed whole ran).2
  · intro completable
    exact ⟨_, complete_of_completable completable order⟩
  · intro whole ran
    obtain ⟨rfl, completable⟩ := completed whole ran
    have perm := perm_append_omitted completable distinct
    rw [omitted_eq_filter] at perm
    exact ⟨rfl, perm, List.prefix_append _ _, complete_of_completable completable.relaxed order,
      complete_of_perm distinct perm order, displayProblem_eq_none distinct perm⟩
  · rintro schema problem ⟨display, names, found⟩
    exact compile_ne_uncovered schema (displayProblem_uncovered found)

theorem orders_completed_exactly_of_four :
    ["a", "b", "c", "d"].Nodup ∧
    complete .display ["c", "a"] ["a", "b", "c", "d"] false = .ok ["c", "a", "b", "d"] ∧
    complete .display ["c", "a", "b", "d"] ["a", "b", "c", "d"] true =
      .ok ["c", "a", "b", "d"] ∧
    complete .display ["c", "a"] ["a", "b", "c", "d"] true =
      .error (.incompleteOrder .display (.missing ["b", "d"])) ∧
    complete .display ["a", "x", "b", "b", "a"] ["a", "b", "c", "d"] true =
      .error (.duplicateName "b" (.order .display)) := by
  have distinct : ["a", "b", "c", "d"].Nodup := by decide
  obtain ⟨accepts, completes, -, -⟩ :=
    orders_completed_exactly .display ["c", "a"] false distinct
  obtain ⟨-, -, reports, -⟩ := orders_completed_exactly .display ["c", "a"] true distinct
  obtain ⟨-, -, reports', -⟩ :=
    orders_completed_exactly .display ["a", "x", "b", "b", "a"] true distinct
  obtain ⟨whole, ran⟩ := accepts.2 ⟨by decide, by decide, nofun⟩
  obtain ⟨rfl, -, -, -, kept, -⟩ := completes whole ran
  refine ⟨distinct, ran, kept true, (reports _).2 ?_, (reports' _).2 ?_⟩
  · exact .missing (by decide) (by decide) rfl (by decide) (by decide)
  · exact .repeated ⟨["a", "x", "b"], ["a"], rfl, by decide, by decide⟩

end StatSchema
