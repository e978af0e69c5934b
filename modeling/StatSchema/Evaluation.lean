/-
The values of all metrics, given those of the base metrics. Compounds are computed in an order in
which operands come before what uses them, so each takes its operands from the outcomes so far.
-/
import StatSchema.Compiled
import StatSchema.Value

namespace StatSchema

/-- The value of a metric, or why there is none. -/
abbrev Outcome := Except Panic (Value Float)

/-- The outcomes of metrics by name. -/
abbrev Outcomes := List (String × Outcome)

/-- The outcome of a metric; one that is not there counts as zero. -/
def Outcomes.of (outcomes : Outcomes) (metric : String) : Outcome :=
  (outcomes.lookup metric).getD (.ok (.integer 0))

/-- The outcome of a compound metric, given those of its operands. -/
def CompoundEntry.outcome (overflow : Overflow) (outcomes : Outcomes) (compound : CompoundEntry) :
    Outcome :=
  compound.operator.evaluate .doubles overflow (compound.operands.map outcomes.of)

namespace CompiledSchema

/-- The outcomes of all metrics, given the values of the base metrics. -/
def outcomes (compiled : CompiledSchema) (overflow : Overflow) (base : BaseEntry → UInt64) :
    Outcomes :=
  compiled.evaluation.foldl
    (fun outcomes compound => outcomes ++ [(compound.name, compound.outcome overflow outcomes)])
    (compiled.storage.map fun entry => (entry.name, .ok (.integer (base entry))))

end CompiledSchema

end StatSchema
