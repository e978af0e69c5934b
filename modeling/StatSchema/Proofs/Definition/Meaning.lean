/-
What definitions mean. A definition declares what its blocks declare, in source order, and takes each
choice from the one setting that makes it, wherever that setting stands. Main statement: tokens whose
brackets match are read as a definition exactly if they are a list of settings, no two of them alike,
that means it.
-/
import Mathlib.Data.List.Induction
import StatSchema.Proofs.Definition.Settings

namespace StatSchema

open Token

/-! ## What a setting says -/

namespace Setting

/-- The declarations that a setting makes. -/
@[simp]
def declarations : Setting → List Declaration
  | base lines => lines.map (·.declaration)
  | compound lines => lines.map (·.declaration)
  | _ => []

/-- The overrides that a setting gives. -/
@[simp]
def overridden : Setting → List Override
  | overrides lines => lines.map (·.override)
  | _ => []

/-- The names that a setting declares and the hooks that it overrides. -/
@[simp]
def named : Setting → List Written
  | base lines => lines.map (·.name)
  | compound lines => lines.map (·.name)
  | overrides lines => lines.map (·.hook)
  | _ => []

/-- The operands of the compounds that a setting declares. -/
@[simp]
def referenced : Setting → List Written
  | compound lines => lines.flatMap (·.operands)
  | _ => []

/-- The name that a setting gives to the record. -/
@[simp]
def record? : Setting → Option String
  | record name => some name
  | _ => none

/-- The name that a setting gives to the aggregator. -/
@[simp]
def aggregator? : Setting → Option String
  | aggregator name => some name
  | _ => none

/-- The name that a setting gives to the module. -/
@[simp]
def module? : Setting → Option String
  | .module name => some name
  | _ => none

/-- The prefix that a setting gives to hooks. -/
@[simp]
def hookPrefix? : Setting → Option String
  | hookPrefix text => some text
  | _ => none

/-- The place where a setting puts what generated code runs on. -/
@[simp]
def runtime? : Setting → Option Path
  | runtime reading => some reading.path
  | _ => none

/-- The order that a setting lists. -/
@[simp]
def order? (which : MetricOrder) : Setting → Option (List String)
  | order other names => if other = which then some names else none
  | _ => none

end Setting

namespace Definition

/-- What settings mean. -/
def meaning (settings : List Setting) : Definition where
  schema := {
    declarations := settings.flatMap Setting.declarations
    arrangement := {
      storage := (settings.findSome? (Setting.order? .storage)).getD []
      derivation := (settings.findSome? (Setting.order? .derivation)).getD []
      display := (settings.findSome? (Setting.order? .display)).getD []
      strict := decide (.strictOrderings ∈ settings) } }
  naming := {
    hookPrefix := (settings.findSome? Setting.hookPrefix?).getD ""
    record := (settings.findSome? Setting.record?).getD "PerfStatsRecord"
    aggregator := (settings.findSome? Setting.aggregator?).getD "PerfStats"
    module := settings.findSome? Setting.module?
    runtime := (settings.findSome? Setting.runtime?).getD { tokens := Token.code ":: tallies" } }
  overrides := settings.flatMap Setting.overridden
  named := settings.flatMap Setting.named
  referenced := settings.flatMap Setting.referenced

/-! ## Settings one after the other -/

/-- What only a setting with a certain word says is said by no other one. -/
theorem findSome?_eq_none {α : Type} {said : Setting → Option α} {word : String}
    (only : ∀ setting, setting.word ≠ word → said setting = none) {settings : List Setting}
    (absent : word ∉ settings.map Setting.word) : settings.findSome? said = none := by
  refine List.findSome?_eq_none_iff.2 fun setting listed => only setting fun same => absent ?_
  exact same ▸ List.mem_map_of_mem listed

/-- One more setting says what it says besides the others, if none of them is like it. -/
theorem meaning_concat {settings : List Setting} {setting : Setting}
    (new : setting.word ∉ settings.map Setting.word) :
    meaning (settings ++ [setting]) = (meaning settings).apply setting := by
  cases setting with
  | record name =>
    have unsaid : settings.findSome? Setting.record? = none :=
      findSome?_eq_none (fun other differs => by cases other <;> trivial) new
    simp [meaning, apply, List.findSome?_append, unsaid]
  | aggregator name =>
    have unsaid : settings.findSome? Setting.aggregator? = none :=
      findSome?_eq_none (fun other differs => by cases other <;> trivial) new
    simp [meaning, apply, List.findSome?_append, unsaid]
  | module name =>
    have unsaid : settings.findSome? Setting.module? = none :=
      findSome?_eq_none (fun other differs => by cases other <;> trivial) new
    simp [meaning, apply, List.findSome?_append, unsaid]
  | hookPrefix text =>
    have unsaid : settings.findSome? Setting.hookPrefix? = none :=
      findSome?_eq_none (fun other differs => by cases other <;> trivial) new
    simp [meaning, apply, List.findSome?_append, unsaid]
  | runtime reading =>
    have unsaid : settings.findSome? Setting.runtime? = none :=
      findSome?_eq_none (fun other differs => by cases other <;> trivial) new
    simp [meaning, apply, List.findSome?_append, unsaid]
  | order which names =>
    have unsaid : settings.findSome? (Setting.order? which) = none := by
      refine findSome?_eq_none (fun other differs => ?_) new
      cases other with
      | order another more => exact if_neg fun (same : another = which) => differs (same ▸ rfl)
      | _ => rfl
    cases which <;>
      simp [meaning, apply, Schema.arrange, Arrangement.list, List.findSome?_append, unsaid]
  | strictOrderings => simp [meaning, apply, Schema.arrange, List.findSome?_append]
  | base lines => simp [meaning, apply, Schema.declareAll, List.findSome?_append]
  | compound lines => simp [meaning, apply, Schema.declareAll, List.findSome?_append]
  | overrides lines => simp [meaning, apply, List.findSome?_append]

theorem ofSettings_eq_meaning {settings : List Setting}
    (distinct : (settings.map Setting.word).Nodup) : ofSettings settings = meaning settings := by
  induction settings using List.reverseRecOn with
  | nil => rfl
  | append_singleton settings setting ih =>
    rw [List.map_append, List.nodup_append] at distinct
    obtain ⟨distinct, -, apart⟩ := distinct
    have new : setting.word ∉ settings.map Setting.word := fun again =>
      apart _ again setting.word (List.mem_singleton_self _) rfl
    rw [meaning_concat new, ← ih distinct]
    exact List.foldl_append

/-! ## Reading -/

/-- Tokens whose brackets match are read as a definition exactly if they are a list of settings, no two
with the same word and no group of a path with tokens left over, that means this definition. -/
theorem definitions_are_their_grammar {tokens : List Placed}
    (balanced : balancedFrom [] tokens = true) (definition : Definition) :
    ofTokens tokens = .ok definition ↔
      ∃ settings, Settings tokens settings ∧ (settings.map Setting.word).Nodup ∧
        (∀ setting ∈ settings, leftover? setting = none) ∧ definition = meaning settings := by
  constructor
  · intro h
    unfold ofTokens at h
    cases read : settings [] tokens.length tokens with
    | error error =>
      rw [read] at h
      cases h
    | ok answer =>
      obtain ⟨given, rest⟩ := answer
      obtain ⟨-, phrase, distinct⟩ := (settings_eq_ok balanced).1 read
      rw [read] at h
      dsimp only at h
      split at h
      · cases h
      · rename_i complete
        cases h
        exact ⟨given, phrase, distinct, List.findSome?_eq_none_iff.1 complete,
          ofSettings_eq_meaning distinct⟩
  · rintro ⟨given, phrase, distinct, complete, rfl⟩
    have read := (settings_eq_ok balanced).2 ⟨rfl, phrase, distinct⟩
    unfold ofTokens
    rw [read]
    dsimp only
    rw [List.findSome?_eq_none_iff.2 complete, ofSettings_eq_meaning distinct]

/-- A definition with a compound before its operands. -/
def siteTokens : List Placed :=
  (Token.read
    "compound \x7b \"pages\" = \"visits\" + \"jumps\" \x7d; record = Site;
     base \x7b \"visits\": counter, \"jumps\": max, \x7d overrides \x7b publish = site::publish \x7d").getD []

/-- What it means. -/
def siteDefinition : Definition where
  schema := {
    declarations := [.compound ⟨"pages", .add, ["visits", "jumps"]⟩, .base ⟨"visits", .counter⟩,
      .base ⟨"jumps", .max⟩] }
  naming := { record := "Site" }
  overrides := [⟨"publish", ⟨Token.code "site :: publish"⟩⟩]
  named := [⟨"pages", ⟨⟨1, 11⟩, ⟨1, 18⟩⟩⟩, ⟨"visits", ⟨⟨2, 12⟩, ⟨2, 20⟩⟩⟩,
    ⟨"jumps", ⟨⟨2, 31⟩, ⟨2, 38⟩⟩⟩, ⟨"publish", ⟨⟨2, 59⟩, ⟨2, 66⟩⟩⟩]
  referenced := [⟨"visits", ⟨⟨1, 21⟩, ⟨1, 29⟩⟩⟩, ⟨"jumps", ⟨⟨1, 32⟩, ⟨1, 39⟩⟩⟩]

theorem site_is_read_by_its_grammar :
    balancedFrom [] siteTokens = true ∧
      ∃ settings, Settings siteTokens settings ∧ (settings.map Setting.word).Nodup ∧
        (∀ setting ∈ settings, leftover? setting = none) ∧ siteDefinition = meaning settings :=
  have balanced : balancedFrom [] siteTokens = true := by decide +kernel
  ⟨balanced, (definitions_are_their_grammar balanced siteDefinition).1 (by decide +kernel)⟩

end Definition

end StatSchema
