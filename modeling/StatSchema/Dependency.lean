/-
The order in which compound metrics can be computed: each after the compounds among its operands.
The search follows operands depth first, in declaration order; a compound met again on the way to
itself closes a cycle, which is then the answer.
-/
import StatSchema.Schema

namespace StatSchema

/-- The compounds of a list other than the named one. -/
def without (name : String) (compounds : List CompoundMetric) : List CompoundMetric :=
  compounds.filter (·.name != name)

/-- Taking a compound away that is there leaves fewer. -/
theorem length_without_lt {name : String} {compounds : List CompoundMetric}
    {compound : CompoundMetric} (h : compounds.find? (·.name == name) = some compound) :
    (without name compounds).length < compounds.length := by
  have here := List.find?_some (p := fun c : CompoundMetric => c.name == name) h
  exact List.length_filter_lt_length_iff_exists.2
    ⟨compound, List.mem_of_find?_eq_some h, by simpa using here⟩

/-- Visits a metric on the way along `path`. The compounds that are neither done nor on the path
are `pending`; those that are done are `done`, operands before what uses them. The answer is the
longer list, or the names of a cycle. -/
def visit (pending : List CompoundMetric) (path : List String) (done : List CompoundMetric)
    (name : String) : Except (List String) (List CompoundMetric) :=
  if done.any (·.name == name) then .ok done
  else if path.contains name then .error (path.dropWhile (· != name) ++ [name])
  else
    match _found : pending.find? (·.name == name) with
    | none => .ok done
    | some compound =>
      match compound.operands.foldlM
          (fun done operand => visit (without name pending) (path ++ [name]) done operand) done with
      | .ok done => .ok (done ++ [compound])
      | .error cycle => .error cycle
termination_by pending.length
decreasing_by exact length_without_lt _found

/-- The compounds with operands before what uses them, or the names of a cycle. -/
def dependencyOrder (compounds : List CompoundMetric) :
    Except (List String) (List CompoundMetric) :=
  compounds.foldlM (fun done compound => visit compounds [] done compound.name) []

end StatSchema
