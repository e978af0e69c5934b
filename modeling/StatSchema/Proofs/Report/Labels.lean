/-
Labels of reports. All labels are padded with spaces to the width that leaves one after the longest, so
what follows them begins in one column; more labels, or the same ones in another order, change nothing
but the number of spaces.
-/
import StatSchema.Report
import Mathlib.Data.List.Perm.Basic

namespace StatSchema

theorem toList_pushn (text : String) (c : Char) (count : Nat) :
    (text.pushn c count).toList = text.toList ++ List.replicate count c := by
  unfold String.pushn
  induction count with
  | zero => simp [Nat.repeat]
  | succ count ih => rw [Nat.repeat, String.toList_push, ih, List.replicate_succ', List.append_assoc]

theorem length_pushn (text : String) (c : Char) (count : Nat) :
    (text.pushn c count).length = text.length + count := by
  rw [← String.length_toList, toList_pushn, List.length_append, List.length_replicate,
    String.length_toList]

theorem pushn_pushn (text : String) (c : Char) (count more : Nat) :
    (text.pushn c count).pushn c more = text.pushn c (count + more) := by
  rw [← String.toList_inj, toList_pushn, toList_pushn, toList_pushn, List.append_assoc,
    List.replicate_append_replicate]

namespace Report

/-! ## Widths -/

theorem foldl_max_le_iff {lengths : List Nat} {start bound : Nat} :
    lengths.foldl max start ≤ bound ↔ start ≤ bound ∧ ∀ length ∈ lengths, length ≤ bound := by
  induction lengths generalizing start with
  | nil => simp
  | cons length rest ih => rw [List.foldl_cons, ih, Nat.max_le, List.forall_mem_cons, and_assoc]

/-- A width is enough exactly if it leaves a character after every label. -/
theorem width_le_iff {labels : List String} {bound : Nat} :
    width labels ≤ bound + 1 ↔ ∀ label ∈ labels, label.length ≤ bound := by
  rw [width, Nat.succ_le_succ_iff, foldl_max_le_iff, List.forall_mem_map]
  simp

theorem length_lt_width {labels : List String} {label : String} (here : label ∈ labels) :
    label.length < width labels :=
  Nat.lt_succ_of_le (width_le_iff.1 (Nat.le_refl (width labels)) label here)

/-- The width of some labels is that of the longest and one more. -/
theorem exists_width_eq {labels : List String} (some_label : labels ≠ []) :
    ∃ label ∈ labels, width labels = label.length + 1 := by
  by_contra none
  have shorter : ∀ label ∈ labels, label.length ≤ width labels - 2 := by
    intro label here
    have below := length_lt_width here
    have apart : width labels ≠ label.length + 1 := fun same => none ⟨label, here, same⟩
    omega
  obtain ⟨label, here⟩ := List.exists_mem_of_ne_nil labels some_label
  have above := length_lt_width here
  have below := width_le_iff.2 shorter
  have apart : width labels ≠ label.length + 1 := fun same => none ⟨label, here, same⟩
  omega

theorem width_mono {labels labels' : List String} (within : labels ⊆ labels') :
    width labels ≤ width labels' :=
  width_le_iff.2 fun _ here => Nat.le_of_lt_succ (length_lt_width (within here))

/-- The width of labels does not depend on their order. -/
theorem width_of_perm {labels labels' : List String} (perm : labels'.Perm labels) :
    width labels' = width labels :=
  Nat.le_antisymm (width_mono perm.subset) (width_mono perm.symm.subset)

/-! ## Padding -/

theorem length_padded {width : Nat} {text : String} (fits : text.length ≤ width) :
    (padded width text).length = width := by
  rw [padded, length_pushn]
  omega

/-- A wider label has more spaces after it. -/
theorem padded_of_le {width width' : Nat} {text : String} (fits : text.length ≤ width)
    (wider : width ≤ width') : padded width' text = (padded width text).pushn ' ' (width' - width) := by
  rw [padded, padded, pushn_pushn]
  congr 1
  omega

end Report

end StatSchema
