/-
Aggregation does not depend on how the work was split. The values of a metric are combined by an
operation that is commutative and associative and has zero for its unit, both where a record takes in
calls and where an aggregator reduces its records; so calls that are distributed over threads and
publications are reduced to what one record makes of all of them.
-/
import StatSchema.Proofs.Schema.Entries
import StatSchema.Proofs.Session.Attribution

namespace StatSchema

/-! ## Combining values -/

namespace MetricKind

/-- How two values of a metric make one. -/
def combine : MetricKind → UInt64 → UInt64 → UInt64
  | counter, left, right => left + right
  | max, left, right => if left < right then right else left
  | sum, left, right => left + right

/-- What a call with an amount brings to the value of a metric. -/
def weight : MetricKind → UInt64 → UInt64
  | counter, _ => 1
  | max, amount => amount
  | sum, amount => amount

theorem accumulate_eq_combine (kind : MetricKind) (value amount : UInt64) :
    kind.accumulate value amount = kind.combine value (kind.weight amount) := by
  cases kind <;> rfl

theorem combine_comm (kind : MetricKind) (a b : UInt64) : kind.combine a b = kind.combine b a := by
  cases kind with
  | counter => exact UInt64.add_comm a b
  | sum => exact UInt64.add_comm a b
  | max =>
    show (if a < b then b else a) = if b < a then a else b
    by_cases less : a < b
    · rw [if_pos less, if_neg (UInt64.lt_asymm less)]
    · rw [if_neg less]
      split
      · rfl
      · rename_i more
        exact UInt64.le_antisymm (UInt64.not_lt.1 more) (UInt64.not_lt.1 less)

theorem combine_assoc (kind : MetricKind) (a b c : UInt64) :
    kind.combine (kind.combine a b) c = kind.combine a (kind.combine b c) := by
  cases kind with
  | counter => exact UInt64.add_assoc a b c
  | sum => exact UInt64.add_assoc a b c
  | max =>
    simp only [combine, UInt64.lt_iff_toNat_lt]
    split_ifs <;> first | rfl | omega

theorem zero_combine (kind : MetricKind) (a : UInt64) : kind.combine 0 a = a := by
  cases kind with
  | counter => exact UInt64.zero_add a
  | sum => exact UInt64.zero_add a
  | max =>
    show (if 0 < a then a else 0) = a
    split
    · rfl
    · rename_i none
      exact (UInt64.le_antisymm (UInt64.not_lt.1 none) (UInt64.zero_le)).symm

/-- All values of a metric combined. -/
def gather (kind : MetricKind) (values : List UInt64) : UInt64 := values.foldl kind.combine 0

theorem foldl_combine (kind : MetricKind) (values : List UInt64) (start : UInt64) :
    values.foldl kind.combine start = kind.combine start (kind.gather values) := by
  induction values generalizing start with
  | nil =>
    rw [combine_comm]
    exact (zero_combine kind start).symm
  | cons value rest ih =>
    have whole : kind.gather (value :: rest) = kind.combine value (kind.gather rest) := by
      show rest.foldl kind.combine (kind.combine 0 value) = _
      rw [zero_combine, ih]
    rw [List.foldl_cons, ih, whole, combine_assoc]

theorem gather_cons (kind : MetricKind) (value : UInt64) (rest : List UInt64) :
    kind.gather (value :: rest) = kind.combine value (kind.gather rest) := by
  rw [gather, List.foldl_cons, zero_combine, foldl_combine]

theorem gather_append (kind : MetricKind) (first second : List UInt64) :
    kind.gather (first ++ second) = kind.combine (kind.gather first) (kind.gather second) := by
  rw [gather, List.foldl_append, foldl_combine]
  rfl

theorem gather_flatten (kind : MetricKind) (parts : List (List UInt64)) :
    kind.gather parts.flatten = kind.gather (parts.map kind.gather) := by
  induction parts with
  | nil => rfl
  | cons part rest ih =>
    rw [List.flatten_cons, gather_append, ih, List.map_cons, gather_cons]

theorem gather_perm (kind : MetricKind) {values values' : List UInt64}
    (perm : values.Perm values') : kind.gather values = kind.gather values' := by
  refine perm.foldl_eq' (fun a _ b _ start => ?_) 0
  rw [combine_assoc, combine_comm kind a b, ← combine_assoc]

end MetricKind

/-! ## Records and ledgers -/

/-- What some updates bring to a metric. -/
def BaseEntry.weights (entry : BaseEntry) (updates : List Update) : List UInt64 :=
  (updates.filter (·.metric = entry.name)).map fun update => entry.kind.weight update.amount

theorem BaseEntry.weights_flatten (entry : BaseEntry) (parts : List (List Update)) :
    entry.weights parts.flatten = (parts.map entry.weights).flatten := by
  unfold weights
  rw [List.filter_flatten, List.map_flatten, List.map_map]
  rfl

theorem BaseEntry.weights_perm (entry : BaseEntry) {updates updates' : List Update}
    (perm : updates.Perm updates') : (entry.weights updates).Perm (entry.weights updates') :=
  (perm.filter _).map _

namespace Program

variable {program : Program} {entry : BaseEntry}

theorem get_updatedBy (keys : (program.compiled.storage.map (·.name)).Nodup)
    (here : entry ∈ program.compiled.storage) {record : Record}
    (fits : record.Fits program.compiled) (update : Update) :
    (program.updatedBy record update).get entry.name =
      if update.metric = entry.name then
        entry.kind.accumulate (record.get entry.name) update.amount
      else record.get entry.name := by
  rw [updatedBy, mutated]
  by_cases same : update.metric = entry.name
  · rw [if_pos same, same, find?_key keys here]
    refine record.get_modify_self _ ?_
    rw [fits]
    exact List.mem_map_of_mem here
  · rw [if_neg same]
    split
    · rename_i other found
      have named : other.name = update.metric := by simpa using List.find?_some found
      refine record.get_modify_of_ne _ fun h => same ?_
      rw [← named, h]
    · rfl

/-- A record that has taken in updates has combined what they bring. -/
theorem get_foldl_updatedBy (keys : (program.compiled.storage.map (·.name)).Nodup)
    (here : entry ∈ program.compiled.storage) (updates : List Update) {record : Record}
    (fits : record.Fits program.compiled) :
    (updates.foldl program.updatedBy record).get entry.name =
      (entry.weights updates).foldl entry.kind.combine (record.get entry.name) := by
  induction updates generalizing record with
  | nil => rfl
  | cons update rest ih =>
    have next : (program.updatedBy record update).Fits program.compiled := fits.foldl [update]
    rw [List.foldl_cons, ih next, get_updatedBy keys here fits]
    unfold BaseEntry.weights
    by_cases same : update.metric = entry.name
    · rw [if_pos same, List.filter_cons_of_pos (by simpa using same), List.map_cons,
        List.foldl_cons, MetricKind.accumulate_eq_combine]
    · rw [if_neg same, List.filter_cons_of_neg (by simpa using same)]

theorem get_recordOf (keys : (program.compiled.storage.map (·.name)).Nodup)
    (here : entry ∈ program.compiled.storage) (updates : List Update) :
    (program.recordOf updates).get entry.name = entry.kind.gather (entry.weights updates) := by
  rw [recordOf, get_foldl_updatedBy keys here updates (.empty _), Record.get_empty]
  rfl

end Program

namespace Ledger

/-- A reduction combines the values of all records. -/
theorem reduce_eq_gather {ρ : Type} (ledger : Ledger ρ) (kind : MetricKind) (field : ρ → UInt64) :
    ledger.reduce kind.reduction field = kind.gather (ledger.entries.map field) := by
  unfold MetricKind.gather
  rw [List.foldl_map]
  cases kind <;> rfl

/-- Records that have taken in parts of some updates are reduced to what one record makes of all of
them. -/
theorem reduce_of_parts {program : Program}
    (keys : (program.compiled.storage.map (·.name)).Nodup) {entry : BaseEntry}
    (here : entry ∈ program.compiled.storage) {ledger : Ledger Record}
    {parts : List (List Update)}
    (entries : ledger.entries = parts.map program.recordOf) {updates : List Update}
    (perm : parts.flatten.Perm updates) :
    ledger.reduce entry.kind.reduction (fun record => record.get entry.name) =
      (program.recordOf updates).get entry.name := by
  -- each record has gathered its own part, and gathering parts is gathering all
  have each : ledger.entries.map (fun record => record.get entry.name) =
      (parts.map entry.weights).map entry.kind.gather := by
    rw [entries, List.map_map, List.map_map]
    exact List.map_congr_left fun part _ => Program.get_recordOf keys here part
  rw [reduce_eq_gather, each, ← MetricKind.gather_flatten, ← BaseEntry.weights_flatten,
    MetricKind.gather_perm entry.kind (entry.weights_perm perm), Program.get_recordOf keys here]

end Ledger

end StatSchema
