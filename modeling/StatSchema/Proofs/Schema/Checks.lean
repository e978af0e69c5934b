/-
What each check of a schema accepts and what it reports: names and their identifiers, mutators
against names, operands, and the identifiers of mutators. Every check either passes, and then what
it looks at is sound, or reports a fault that is there.
-/
import StatSchema.Proofs.Order.Dependency
import StatSchema.Proofs.Sequencing
import StatSchema.Proofs.Spelling
import Mathlib.Data.List.Duplicate
import Mathlib.Data.List.Nodup

namespace StatSchema

open Text

/-! ## Names -/

/-- Names that can be declared together: each spells an identifier that is not reserved, and no two
have one spelling. -/
structure NamesSound (names : List String) : Prop where
  spelled : ∀ name ∈ names, ∃ identifier, Identifier.read (Name.snake name) = .plain identifier
  unreserved : ∀ name ∈ names, Name.snake name ∉ reservedNames
  apart : (names.map Name.snake).Nodup

/-- What is reported of names that cannot be declared together. -/
inductive NameFault (names : List String) : Failure → Prop
  | blank {name : String} : name ∈ names → isAllBlank name = true →
      NameFault names (.refused (.invalidName name .empty))
  | repeated {name : String} : List.Duplicate name names →
      NameFault names (.refused (.duplicateName name .declarations))
  | formsNone {name : String} : name ∈ names → Identifier.read (Name.snake name) = .none →
      NameFault names (.refused (.invalidName name .formsNoIdentifier))
  | raw {name identifier : String} : name ∈ names →
      Identifier.read (Name.snake name) = .raw identifier →
      NameFault names (.rawIdentifier identifier)
  | reserved {name : String} : name ∈ names → Name.snake name ∈ reservedNames →
      NameFault names (.refused (.invalidName name (.reserved (Name.snake name))))
  | sameSpelling {first second : String} : [first, second].Sublist names →
      Name.snake first = Name.snake second →
      NameFault names
        (.refused (.duplicateName (Name.snake second) (.identifiers first second)))

/-- The spelling of a blank name is empty. -/
theorem snake_eq_empty {name : String} (h : isAllBlank name = true) : Name.snake name = "" := by
  have none : words name.toList = [] := by
    have skipped : name.toList.dropWhile isBlank = [] :=
      List.dropWhile_eq_nil_iff.2 fun c here => List.all_eq_true.1 h c here
    rw [words]
    split
    · rfl
    · rename_i skipped'
      rw [skipped] at skipped'
      cases skipped'
  rw [Name.snake, none]
  rfl

/-- The names that are paired with their spellings. -/
def spellings (names : List String) : List (String × String) :=
  names.map fun name => (Name.snake name, name)

theorem NameFault.not_sound {names : List String} {failure : Failure}
    (fault : NameFault names failure) : ¬ NamesSound names := by
  intro sound
  cases fault with
  | blank here blank =>
    obtain ⟨identifier, plain⟩ := sound.spelled _ here
    rw [snake_eq_empty blank, show Identifier.read "" = .none by decide +kernel] at plain
    cases plain
  | repeated twice => exact twice.not_nodup (List.Nodup.of_map _ sound.apart)
  | formsNone here none =>
    obtain ⟨identifier, plain⟩ := sound.spelled _ here
    rw [none] at plain
    cases plain
  | raw here raw =>
    obtain ⟨identifier, plain⟩ := sound.spelled _ here
    rw [raw] at plain
    cases plain
  | reserved here reserved => exact sound.unreserved _ here reserved
  | sameSpelling both same =>
    have pair := sound.apart.sublist (both.map Name.snake)
    simp [same] at pair

theorem lookup_spellings_eq_some {names : List String} {spelling name : String}
    (h : (spellings names).lookup spelling = some name) :
    name ∈ names ∧ Name.snake name = spelling := by
  induction names with
  | nil => cases h
  | cons first rest ih =>
    rw [spellings, List.map_cons, List.lookup_cons] at h
    split at h
    · rename_i same
      cases h
      exact ⟨List.mem_cons_self, (beq_iff_eq.1 same).symm⟩
    · obtain ⟨later, same⟩ := ih h
      exact ⟨List.mem_cons_of_mem _ later, same⟩

theorem lookup_spellings_eq_none {names : List String} {spelling : String}
    (h : (spellings names).lookup spelling = none) :
    ∀ name ∈ names, Name.snake name ≠ spelling := by
  intro name here same
  have absent := List.lookup_eq_none_iff.1 h (Name.snake name, name)
    (List.mem_map.2 ⟨name, here, rfl⟩)
  simp [same] at absent

theorem any_spellings {names : List String} {name : String} :
    (spellings names).any (·.2 == name) = true ↔ name ∈ names := by
  simp [spellings, List.any_eq_true]

theorem NamesSound.snoc {earlier : List String} {name identifier : String}
    (sound : NamesSound earlier) (plain : Identifier.read (Name.snake name) = .plain identifier)
    (free : Name.snake name ∉ reservedNames)
    (apart : ∀ other ∈ earlier, Name.snake other ≠ Name.snake name) :
    NamesSound (earlier ++ [name]) := by
  refine ⟨?_, ?_, ?_⟩
  · intro other here
    rcases List.mem_append.1 here with before | last
    · exact sound.spelled other before
    · rw [List.mem_singleton.1 last]
      exact ⟨identifier, plain⟩
  · intro other here
    rcases List.mem_append.1 here with before | last
    · exact sound.unreserved other before
    · rw [List.mem_singleton.1 last]
      exact free
  · rw [List.map_append, List.map_singleton, List.nodup_append]
    refine ⟨sound.apart, List.nodup_singleton _, ?_⟩
    intro spelling before other last
    obtain ⟨first, there, rfl⟩ := List.mem_map.1 before
    rw [List.mem_singleton.1 last]
    exact apart first there

/-- Names are checked one after the other, so those checked so far are sound. -/
theorem checkNames_spec (earlier names : List String) (sound : NamesSound earlier) :
    (checkNames (spellings earlier) names = .ok (spellings (earlier ++ names)) ∧
      NamesSound (earlier ++ names)) ∨
    ∃ failure, checkNames (spellings earlier) names = .error failure ∧
      NameFault (earlier ++ names) failure := by
  induction names generalizing earlier with
  | nil => exact .inl ⟨by simp [checkNames], by simpa using sound⟩
  | cons name rest ih =>
    have here : name ∈ earlier ++ name :: rest := by simp
    rw [checkNames]
    split
    · rename_i blank
      exact .inr ⟨_, rfl, .blank here blank⟩
    · split
      · rename_i again
        refine .inr ⟨_, rfl, .repeated ?_⟩
        rw [List.duplicate_iff_sublist]
        exact (List.singleton_sublist.2 (any_spellings.1 again)).append
          (List.singleton_sublist.2 List.mem_cons_self)
      · rename_i fresh
        simp only [identify]
        cases reading : Identifier.read (Name.snake name) with
        | none => exact .inr ⟨_, rfl, .formsNone here reading⟩
        | raw identifier => exact .inr ⟨_, rfl, .raw here reading⟩
        | plain identifier =>
          simp only [bind, Except.bind]
          split
          · rename_i reserved
            exact .inr ⟨_, rfl, .reserved here (by simpa using reserved)⟩
          · rename_i free
            split
            · rename_i previous known
              obtain ⟨before, same⟩ := lookup_spellings_eq_some known
              refine .inr ⟨_, rfl, .sameSpelling ?_ same⟩
              exact (List.singleton_sublist.2 before).append
                (List.singleton_sublist.2 List.mem_cons_self)
            · rename_i unknown
              have longer := sound.snoc reading (by simpa using free)
                (lookup_spellings_eq_none unknown)
              have next := ih (earlier ++ [name]) longer
              rw [List.append_assoc, List.singleton_append] at next
              rwa [spellings, List.map_append] at next

/-- All names of a schema, from the first on. -/
theorem checkNames_all_spec (names : List String) :
    (checkNames [] names = .ok (spellings names) ∧ NamesSound names) ∨
    ∃ failure, checkNames [] names = .error failure ∧ NameFault names failure :=
  checkNames_spec [] names ⟨by simp, by simp, by simp⟩

/-! ## Mutators -/

/-- Mutators that are not spelled as metrics. -/
def MutatorsApart (names : List String) (bases : List BaseMetric) : Prop :=
  ∀ metric ∈ bases, ∀ name ∈ names, metric.mutator ≠ Name.snake name

/-- What is reported of a mutator that is spelled as a metric. -/
inductive MutatorFault (names : List String) (bases : List BaseMetric) : Failure → Prop
  | sameSpelling {name : String} {metric : BaseMetric} : name ∈ names → metric ∈ bases →
      metric.mutator = Name.snake name →
      MutatorFault names bases
        (.refused (.duplicateName metric.mutator (.identifiers name metric.name)))

theorem MutatorFault.not_apart {names : List String} {bases : List BaseMetric} {failure : Failure}
    (fault : MutatorFault names bases failure) : ¬ MutatorsApart names bases := by
  intro apart
  obtain ⟨here, there, same⟩ := fault
  exact apart _ there _ here same

theorem checkMutators_spec (names : List String) (bases : List BaseMetric) :
    (checkMutators (spellings names) bases = .ok () ∧ MutatorsApart names bases) ∨
    ∃ failure, checkMutators (spellings names) bases = .error failure ∧
      MutatorFault names bases failure := by
  induction bases with
  | nil => exact .inl ⟨rfl, by simp [MutatorsApart]⟩
  | cons metric rest ih =>
    rw [checkMutators]
    split
    · rename_i previous known
      obtain ⟨here, same⟩ := lookup_spellings_eq_some known
      exact .inr ⟨_, rfl, .sameSpelling here List.mem_cons_self same.symm⟩
    · rename_i unknown
      rcases ih with ⟨passed, apart⟩ | ⟨failure, failed, ⟨here, there, same⟩⟩
      · refine .inl ⟨passed, ?_⟩
        intro other there name here same
        rcases List.mem_cons.1 there with rfl | there
        · exact lookup_spellings_eq_none unknown name here same.symm
        · exact apart other there name here same
      · exact .inr ⟨_, failed, .sameSpelling here (List.mem_cons_of_mem _ there) same⟩

/-! ## Operands -/

/-- Compounds with operands enough, all of them declared. -/
def OperandsSound (names : List String) (compounds : List CompoundMetric) : Prop :=
  ∀ compound ∈ compounds, 2 ≤ compound.operands.length ∧
    ∀ operand ∈ compound.operands, operand ∈ names

/-- What is reported of a compound without operands enough, or with one that is not declared. -/
inductive OperandFault (names : List String) (compounds : List CompoundMetric) : Failure → Prop
  | tooFew {compound : CompoundMetric} : compound ∈ compounds → compound.operands.length < 2 →
      OperandFault names compounds
        (.refused (.tooFewOperands compound.name compound.operands.length))
  | unknown {compound : CompoundMetric} {operand : String} : compound ∈ compounds →
      2 ≤ compound.operands.length → operand ∈ compound.operands → operand ∉ names →
      OperandFault names compounds (.refused (.unknownOperand compound.name operand))

theorem OperandFault.not_sound {names : List String} {compounds : List CompoundMetric}
    {failure : Failure} (fault : OperandFault names compounds failure) :
    ¬ OperandsSound names compounds := by
  intro sound
  cases fault with
  | tooFew here few =>
    have enough := (sound _ here).1
    omega
  | unknown here enough taken absent => exact absent ((sound _ here).2 _ taken)

theorem OperandFault.cons {names : List String} {compounds : List CompoundMetric}
    {first : CompoundMetric} {failure : Failure} (fault : OperandFault names compounds failure) :
    OperandFault names (first :: compounds) failure := by
  cases fault with
  | tooFew here few => exact .tooFew (List.mem_cons_of_mem _ here) few
  | unknown here enough taken absent =>
    exact .unknown (List.mem_cons_of_mem _ here) enough taken absent

theorem checkOperands_spec (names : List String) (compounds : List CompoundMetric) :
    (checkOperands names compounds = .ok () ∧ OperandsSound names compounds) ∨
    ∃ failure, checkOperands names compounds = .error failure ∧
      OperandFault names compounds failure := by
  induction compounds with
  | nil => exact .inl ⟨rfl, by simp [OperandsSound]⟩
  | cons compound rest ih =>
    rw [checkOperands]
    split
    · rename_i few
      exact .inr ⟨_, rfl, .tooFew List.mem_cons_self few⟩
    · rename_i enough
      have enough : 2 ≤ compound.operands.length := by omega
      split
      · rename_i operand stranger
        have absent := List.find?_some stranger
        exact .inr ⟨_, rfl, .unknown List.mem_cons_self enough (List.mem_of_find?_eq_some stranger)
          (by simpa using absent)⟩
      · rename_i known
        rcases ih with ⟨passed, sound⟩ | ⟨failure, failed, fault⟩
        · refine .inl ⟨passed, ?_⟩
          intro other here
          rcases List.mem_cons.1 here with rfl | later
          · refine ⟨enough, fun operand taken => ?_⟩
            simpa using List.find?_eq_none.1 known operand taken
          · exact sound other later
        · exact .inr ⟨failure, failed, fault.cons⟩

end StatSchema
