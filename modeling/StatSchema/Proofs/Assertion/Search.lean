/-
The search for cycles as it keeps its books: how far each compound is, and the path of those that are
under way. It relies on a compound under way being on the path, and on coming to an end; each of these
is an assertion, which stops it if it fails. Main statement: no assertion of the search fails, and it
reports what the order of evaluation reports.

The search is followed along the recursion of the order of evaluation. Its invariant: the compounds
under way are those of the path, and the finished ones are those that are done.
-/
import StatSchema.Compiled
import StatSchema.Proofs.Order.Dependency

namespace StatSchema

/-! ## Assertions -/

/-- What compilation relies on without a check of its own. -/
inductive Assertion where
  /-- A compound under way is on the path of the search. -/
  | onPath (compound : String)
  /-- The path goes on as far as a place that was found on it. -/
  | withinPath (place : Nat)
  /-- Following operands comes to an end. -/
  | finite (compound : String)
  /-- A completed order is as long as its keys are many. -/
  | whole (order : MetricOrder)
  /-- A name in storage order is that of a base metric. -/
  | stored (metric : String)
  /-- A name in derivation order is that of a compound. -/
  | derived (metric : String)
  /-- A compound has been given a type. -/
  | typed (compound : String)
  /-- A name that is looked up is that of a metric. -/
  | declared (metric : String)
  /-- An index leads to an entry. -/
  | indexed (place : Nat)
  /-- A compound has operands. -/
  | operands (compound : String)
  /-- The expression of a compound has the type that was given to the compound. -/
  | agreement (compound : String)
  deriving DecidableEq, Repr

/-- Steps that may be refused, and may stop at an assertion that fails. -/
abbrev Asserting : Type → Type := ExceptT Failure (Except Assertion)

namespace Asserting

variable {α β : Type}

/-- A step without assertions. -/
def settled (answer : Except Failure α) : Asserting α := ExceptT.mk (.ok answer)

/-- A step that stops at an assertion, unless it holds. -/
def require (claim : Prop) [Decidable claim] (assertion : Assertion) : Asserting Unit :=
  ExceptT.mk (if claim then .ok (.ok ()) else .error assertion)

/-- The value that is there by an assertion. -/
def expect (value? : Option α) (assertion : Assertion) : Asserting α :=
  ExceptT.mk (match value? with
    | some value => .ok (.ok value)
    | none => .error assertion)

@[simp]
theorem require_of_holds {claim : Prop} [Decidable claim] (holds : claim) (assertion : Assertion) :
    require claim assertion = settled (.ok ()) := by
  rw [require, if_pos holds]
  rfl

@[simp]
theorem expect_some (value : α) (assertion : Assertion) :
    expect (some value) assertion = settled (.ok value) := rfl

@[simp]
theorem settled_ok_bind (value : α) (next : α → Asserting β) :
    settled (.ok value) >>= next = next value := rfl

/-- Steps one after the other are without assertions if each is on what the first one answers. -/
theorem settled_bind {answer : Except Failure α} {next : α → Asserting β}
    {rest : α → Except Failure β} (later : ∀ value, answer = .ok value →
      next value = settled (rest value)) :
    settled answer >>= next = settled (answer >>= rest) := by
  cases answer with
  | error failure => rfl
  | ok value => exact later value rfl

theorem mapM_settled {values : List α} {step : α → Asserting β} {answer : α → Except Failure β}
    (each : ∀ value ∈ values, step value = settled (answer value)) :
    values.mapM step = settled (values.mapM answer) := by
  induction values with
  | nil => rfl
  | cons value rest ih =>
    rw [List.mapM_cons, List.mapM_cons, each value List.mem_cons_self,
      ih fun other later => each other (List.mem_cons_of_mem _ later)]
    exact settled_bind fun _ _ => settled_bind fun _ _ => rfl

theorem mapM_of_forall₂ {values : List α} {answers : List β} {step : α → Asserting β}
    (each : List.Forall₂ (fun value answer => step value = settled (.ok answer)) values answers) :
    values.mapM step = settled (.ok answers) := by
  induction each with
  | nil => rfl
  | cons first _ ih =>
    rw [List.mapM_cons, first, settled_ok_bind, ih]
    rfl

end Asserting

open Asserting

/-! ## The search -/

/-- How far the search is with a compound. -/
inductive Progress where
  | underway
  | done
  deriving DecidableEq, Repr

/-- The books of a search: how far compounds are, the latest entry first, and the compounds under way
in the order in which they were met. -/
structure Search where
  progress : List (String × Progress) := []
  path : List String := []
  deriving DecidableEq, Repr

namespace Search

/-- A search that goes on to a compound. -/
def enter (search : Search) (compound : String) : Search :=
  ⟨(compound, .underway) :: search.progress, search.path ++ [compound]⟩

/-- A search that has finished with the last compound of its path. -/
def leave (search : Search) (compound : String) : Search :=
  ⟨(compound, .done) :: search.progress, search.path.dropLast⟩

/-- The part of the path from a place on. -/
def from? (search : Search) (place : Nat) : Option (List String) :=
  if place ≤ search.path.length then some (search.path.drop place) else none

/-- The refusal of a compound that is met again while it is under way. -/
def closeCycle (search : Search) (compound : String) : Asserting Search := do
  let place ← expect (search.path.findIdx? (· == compound)) (.onPath compound)
  let cycle ← expect (search.from? place) (.withinPath place)
  settled (refuse (.cycle (cycle ++ [compound])))

/-- Visits a metric. The compounds that no visit is under way for are `pending`, so that a search
without end would run out of them. -/
def visit (compounds pending : List CompoundMetric) (search : Search) (name : String) :
    Asserting Search :=
  match compounds.find? (·.name == name) with
  | none => settled (.ok search)
  | some compound =>
    match search.progress.lookup name with
    | some .done => settled (.ok search)
    | some .underway => search.closeCycle name
    | none =>
      match _found : pending.find? (·.name == name) with
      | none => expect none (.finite name)
      | some _ => do
        let search ← compound.operands.foldlM
          (fun search operand => visit compounds (without name pending) search operand)
          (search.enter name)
        settled (.ok (search.leave name))
termination_by pending.length
decreasing_by exact length_without_lt _found

/-- Looks for a cycle among compounds. -/
def run (compounds : List CompoundMetric) : Asserting Search :=
  compounds.foldlM (fun search compound => visit compounds compounds search compound.name) {}

end Search

/-! ## The books -/

/-- The books of a search at the point where the order of evaluation has come to. -/
structure Search.Fits (compounds pending : List CompoundMetric) (path : List String)
    (done : List CompoundMetric) (search : Search) : Prop where
  path_eq : search.path = path
  underway_iff : ∀ name, search.progress.lookup name = some .underway ↔ name ∈ path
  done_iff : ∀ name, search.progress.lookup name = some .done ↔ name ∈ done.map (·.name)
  declared : ∀ name ∈ path, name ∈ compounds.map (·.name)
  pending_eq : ∀ name ∉ path,
    pending.find? (·.name == name) = compounds.find? (·.name == name)

/-- What a search answers at the point where the order of evaluation answers: its books still fit, or
both report the same cycle. -/
def Search.Follows (compounds pending : List CompoundMetric) (path : List String)
    (answer : Asserting Search) : Except (List String) (List CompoundMetric) → Prop
  | .ok done => ∃ search, answer = settled (.ok search) ∧ search.Fits compounds pending path done
  | .error cycle => answer = settled (refuse (.cycle cycle))

theorem find?_without {name other : String} (apart : other ≠ name)
    (pending : List CompoundMetric) :
    (without name pending).find? (·.name == other) = pending.find? (·.name == other) := by
  rw [without, List.find?_filter]
  congr 1
  funext compound
  by_cases hit : compound.name = other
  · simp [hit, apart]
  · simp [hit]

theorem drop_findIdx_eq_dropWhile {name : String} (path : List String) :
    path.drop (path.findIdx (· == name)) = path.dropWhile (· != name) := by
  induction path with
  | nil => rfl
  | cons first rest ih =>
    by_cases hit : first = name
    · simp [hit, List.findIdx_cons]
    · simp [beq_eq_false_iff_ne.2 hit, hit, List.findIdx_cons, ih]

theorem exists_find?_of_mem {compounds : List CompoundMetric} {name : String}
    (here : name ∈ compounds.map (·.name)) :
    ∃ compound, compounds.find? (·.name == name) = some compound := by
  obtain ⟨compound, there, rfl⟩ := List.mem_map.1 here
  exact Option.isSome_iff_exists.1 (List.find?_isSome.2 ⟨compound, there, by simp⟩)

theorem mem_names_of_find? {compounds : List CompoundMetric} {name : String}
    {compound : CompoundMetric} (found : compounds.find? (·.name == name) = some compound) :
    compound.name = name ∧ name ∈ compounds.map (·.name) := by
  have named : compound.name = name := by simpa using List.find?_some found
  exact ⟨named, named ▸ List.mem_map_of_mem (List.mem_of_find?_eq_some found)⟩

namespace Search.Fits

variable {compounds pending : List CompoundMetric} {path : List String}
  {done : List CompoundMetric} {search : Search}

/-- The books at the start. -/
theorem start (compounds : List CompoundMetric) : Fits compounds compounds [] [] {} :=
  ⟨rfl, by simp, by simp, by simp, by simp⟩

/-- A compound that is met again is on the path, and what is reported is the path from there. -/
theorem closeCycle (fits : search.Fits compounds pending path done) {name : String}
    (again : name ∈ path) :
    search.closeCycle name =
      settled (refuse (.cycle (path.dropWhile (· != name) ++ [name]))) := by
  have there : path.findIdx? (· == name) = some (path.findIdx (· == name)) :=
    List.findIdx?_eq_some_of_exists ⟨name, again, by simp⟩
  have within : path.findIdx (· == name) ≤ path.length := List.findIdx_le_length
  unfold Search.closeCycle Search.from?
  rw [fits.path_eq, there, expect_some, settled_ok_bind, if_pos within, expect_some,
    settled_ok_bind, drop_findIdx_eq_dropWhile]

/-- Going on to a compound puts it under way. -/
theorem enter (fits : search.Fits compounds pending path done) {name : String}
    (fresh : name ∉ done.map (·.name)) (declared : name ∈ compounds.map (·.name)) :
    (search.enter name).Fits compounds (without name pending) (path ++ [name]) done := by
  refine ⟨by rw [Search.enter, fits.path_eq], ?_, ?_, ?_, ?_⟩
  · intro other
    by_cases hit : other = name
    · simp [Search.enter, hit]
    · simpa [Search.enter, List.lookup_cons, beq_eq_false_iff_ne.2 hit, hit]
        using fits.underway_iff other
  · intro other
    by_cases hit : other = name
    · simpa [Search.enter, hit] using fresh
    · simpa [Search.enter, List.lookup_cons, beq_eq_false_iff_ne.2 hit]
        using fits.done_iff other
  · intro other under
    rcases List.mem_append.1 under with under | here
    · exact fits.declared other under
    · exact List.mem_singleton.1 here ▸ declared
  · intro other absent
    rw [List.mem_append, List.mem_singleton, not_or] at absent
    rw [find?_without absent.2, fits.pending_eq other absent.1]

/-- Finishing with a compound puts it behind what is done. -/
theorem leave {compound : CompoundMetric} {name : String} (named : compound.name = name)
    (fits : search.Fits compounds (without name pending) (path ++ [name]) done)
    (new : name ∉ path)
    (before : ∀ other ∉ path, pending.find? (·.name == other) = compounds.find? (·.name == other)) :
    (search.leave name).Fits compounds pending path (done ++ [compound]) := by
  refine ⟨by rw [Search.leave, fits.path_eq, List.dropLast_concat], ?_, ?_, ?_, before⟩
  · intro other
    by_cases hit : other = name
    · simpa [Search.leave, hit] using new
    · simpa [Search.leave, List.lookup_cons, beq_eq_false_iff_ne.2 hit, hit]
        using fits.underway_iff other
  · intro other
    by_cases hit : other = name
    · simp [Search.leave, hit, named]
    · simpa [Search.leave, List.lookup_cons, beq_eq_false_iff_ne.2 hit, hit, named]
        using fits.done_iff other
  · exact fun other under => fits.declared other (List.mem_append_left _ under)

end Search.Fits

/-! ## The search and the order of evaluation -/

namespace Search

variable {compounds pending : List CompoundMetric} {path : List String}

/-- Visits one after the other follow, if each does. -/
theorem follows_foldlM {α : Type} {step : Search → α → Asserting Search}
    {visits : List CompoundMetric → α → Except (List String) (List CompoundMetric)}
    (each : ∀ value (search : Search) done, search.Fits compounds pending path done →
      Follows compounds pending path (step search value) (visits done value))
    (values : List α) {search : Search} {done : List CompoundMetric}
    (fits : search.Fits compounds pending path done) :
    Follows compounds pending path (values.foldlM step search) (values.foldlM visits done) := by
  induction values generalizing search done with
  | nil => exact ⟨search, rfl, fits⟩
  | cons value rest ih =>
    have first := each value search done fits
    rw [List.foldlM_cons, List.foldlM_cons]
    cases ran : visits done value with
    | error cycle =>
      rw [ran] at first
      rw [show step search value = _ from first]
      rfl
    | ok next =>
      rw [ran] at first
      obtain ⟨between, answered, fits⟩ := first
      rw [answered, settled_ok_bind]
      exact ih fits

theorem visit_of_unknown {search : Search} {name : String} {compound other : CompoundMetric}
    (declared : compounds.find? (·.name == name) = some compound)
    (unknown : search.progress.lookup name = none)
    (found : pending.find? (·.name == name) = some other) :
    visit compounds pending search name = (do
      let search ← compound.operands.foldlM (visit compounds (without name pending))
        (search.enter name)
      settled (.ok (search.leave name))) := by
  rw [visit, declared]
  dsimp only
  rw [unknown]
  dsimp only
  split
  · rename_i missing
    rw [found] at missing
    cases missing
  · rfl

/-- A visit of a compound that is neither done nor under way follows, if the visits of its operands
do. -/
theorem visit_of_pending {done : List CompoundMetric} {search : Search} {name : String}
    {compound : CompoundMetric} (fits : search.Fits compounds pending path done)
    (fresh : ¬ done.any (·.name == name) = true) (new : name ∉ path)
    (found : pending.find? (·.name == name) = some compound)
    (operands : ∀ (done : List CompoundMetric) (operand : String) (search : Search),
      search.Fits compounds (without name pending) (path ++ [name]) done →
      Follows compounds (without name pending) (path ++ [name])
        (visit compounds (without name pending) search operand)
        (StatSchema.visit (without name pending) (path ++ [name]) done operand)) :
    Follows compounds pending path (visit compounds pending search name)
      ((compound.operands.foldlM
        (StatSchema.visit (without name pending) (path ++ [name])) done).map (· ++ [compound])) := by
  have found' := found
  rw [fits.pending_eq name new] at found'
  obtain ⟨named, declared⟩ := mem_names_of_find? found'
  have unknown : search.progress.lookup name = none := by
    cases known : search.progress.lookup name with
    | none => rfl
    | some progress =>
      cases progress with
      | underway => exact absurd ((fits.underway_iff name).1 known) new
      | done => exact absurd (by simpa using (fits.done_iff name).1 known) fresh
  have entered := fits.enter (by simpa using fresh) declared
  have followed := follows_foldlM
    (fun operand search done fits => operands done operand search fits) compound.operands entered
  rw [visit_of_unknown found' unknown found]
  cases ran : compound.operands.foldlM
      (StatSchema.visit (without name pending) (path ++ [name])) done with
  | error cycle =>
    rw [ran] at followed
    rw [show compound.operands.foldlM _ _ = _ from followed]
    rfl
  | ok after =>
    rw [ran] at followed
    obtain ⟨finished, answered, fits'⟩ := followed
    rw [answered, settled_ok_bind]
    exact ⟨_, rfl, fits'.leave named new fits.pending_eq⟩

/-- A visit of the search follows that of the order of evaluation. -/
theorem visit_follows {done : List CompoundMetric} {search : Search} (name : String)
    (fits : search.Fits compounds pending path done) :
    Follows compounds pending path (visit compounds pending search name)
      (StatSchema.visit pending path done name) := by
  -- the recursion is that of the order of evaluation: it takes `name` from `pending` as the search does
  fun_induction StatSchema.visit pending path done name generalizing search with
  | case1 pending path done name finished =>
    have known : search.progress.lookup name = some .done :=
      (fits.done_iff name).2 (by simpa using finished)
    refine ⟨search, ?_, fits⟩
    rw [visit]
    split
    · rfl
    · rw [known]
  | case2 pending path done name _ again =>
    have again : name ∈ path := by simpa using again
    obtain ⟨compound, found⟩ := exists_find?_of_mem (fits.declared name again)
    rw [Follows, visit, found, (fits.underway_iff name).2 again]
    exact fits.closeCycle again
  | case3 pending path done name _ new missing =>
    have new : name ∉ path := by simpa using new
    refine ⟨search, ?_, fits⟩
    rw [visit, ← fits.pending_eq name new, missing]
  | case4 pending path done name fresh new compound found after ran ih =>
    have new : name ∉ path := by simpa using new
    have followed := visit_of_pending fits fresh new found ih
    rw [ran] at followed
    exact followed
  | case5 pending path done name fresh new compound found cycle ran ih =>
    have new : name ∉ path := by simpa using new
    have followed := visit_of_pending fits fresh new found ih
    rw [ran] at followed
    exact followed

/-- No assertion of the search fails, and it reports a cycle exactly if the order of evaluation does. -/
theorem run_follows (compounds : List CompoundMetric) :
    Follows compounds compounds [] (run compounds) (dependencyOrder compounds) :=
  follows_foldlM (fun compound _ _ fits => visit_follows compound.name fits) compounds
    (.start compounds)

end Search

end StatSchema
