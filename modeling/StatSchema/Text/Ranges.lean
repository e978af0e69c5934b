/-
Sets of code points as inclusive ranges, and one-to-one case mappings as shifted runs. The tables
of Unicode properties beside this module are written in these two forms.
-/
namespace StatSchema.Text

/-- A set of code points, as inclusive ranges. -/
abbrev Ranges := List (Nat × Nat)

/-- Whether a character lies in one of the ranges. -/
def Ranges.covers (ranges : Ranges) (c : Char) : Bool :=
  ranges.any fun (first, last) => first ≤ c.toNat && c.toNat ≤ last

/-- Every `step`-th code point from `first` to `last` is mapped to the one `shift` away. -/
structure CaseShift where
  first : Nat
  last : Nat
  step : Nat
  shift : Int

/-- Whether a character is one that the run maps. -/
def CaseShift.covers (run : CaseShift) (c : Char) : Bool :=
  run.first ≤ c.toNat && c.toNat ≤ run.last && (c.toNat - run.first) % run.step == 0

/-- The image of a character under the first run that covers it; any other stays as it is. -/
def shifted (runs : List CaseShift) (c : Char) : Char :=
  match runs.find? (·.covers c) with
  | some run => Char.ofNat (c.toNat + run.shift).toNat
  | none => c

end StatSchema.Text
