/-
The document of an outline is read as a configuration of it, whose overrides are sorted by hook. Main
statement: `Outline.ofTable_document`.
-/
import StatSchema.Proofs.Notation.Outline

namespace StatSchema

namespace Configuration

theorem path_text (key : String) (written : WrittenPath) :
    path key written.text = .ok written.path := by
  unfold path
  rw [written.read?_text]

theorem strings_textArray (key : String) (texts : List String) :
    strings key (textArray texts) = .ok texts := by
  show (texts.map Toml.Value.string).mapM _ = _
  rw [List.mapM_map]
  exact (mapM_eq_ok_map fun text _ => rfl).trans (by rw [List.map_id'])

theorem declaration_table (made : Declaration) :
    (do declaration (← table "metric" made.table)) = .ok made := by
  cases made with
  | base metric =>
    obtain ⟨name, kind⟩ := metric
    cases kind <;> rfl
  | compound metric =>
    obtain ⟨name, operator, operands⟩ := metric
    have read : (do declaration (← table "metric"
        (Declaration.compound ⟨name, operator, operands⟩).table)) = (do
          return Declaration.compound (← (do
            let taken ← strings "metric.operands" (textArray operands)
            return ⟨name, operator, taken⟩ : Decoded CompoundMetric))) := by
      cases operator <;> rfl
    rw [read, strings_textArray]
    rfl

end Configuration

namespace Outline

open StatSchema.Configuration

variable (outline : Outline)

theorem declarations_document :
    declarations (.array (outline.schema.declarations.map Declaration.table)) =
      .ok outline.schema.declarations := by
  show (outline.schema.declarations.map Declaration.table).mapM _ = _
  rw [List.mapM_map]
  exact (mapM_eq_ok_map fun made _ => declaration_table made).trans (by rw [List.map_id'])

theorem names_document : Configuration.names outline.names = .ok (outline.naming, .enabled) := by
  have located : (some outline.runtime.text).mapM (path "naming.runtime") =
      .ok (some outline.runtime.path) := by
    show (do return some (← path "naming.runtime" outline.runtime.text)) = _
    rw [path_text]
    rfl
  unfold Configuration.names Outline.names Outline.naming
  -- the table has an entry for the module only if there is one
  cases outline.module
  all_goals
    refine bind_eq_ok.2 ⟨(), rfl, bind_eq_ok.2 ⟨some outline.hookPrefix, rfl, ?_⟩⟩
    refine bind_eq_ok.2 ⟨some outline.record, rfl, bind_eq_ok.2 ⟨some outline.aggregator, rfl, ?_⟩⟩
    refine bind_eq_ok.2 ⟨_, rfl, bind_eq_ok.2 ⟨some outline.runtime.text, rfl, ?_⟩⟩
    exact bind_eq_ok.2 ⟨some outline.runtime.path, located, bind_eq_ok.2 ⟨none, rfl, rfl⟩⟩

theorem arrangement_document :
    Configuration.arrangement outline.orders = .ok outline.arrangement := by
  have listed : ∀ key texts, (some (textArray texts)).mapM (strings ("order." ++ key)) =
      .ok (some texts) := by
    intro key texts
    show (do return some (← strings ("order." ++ key) (textArray texts))) = _
    rw [strings_textArray]
    rfl
  refine bind_eq_ok.2 ⟨(), rfl, bind_eq_ok.2 ⟨some outline.arrangement.strict, rfl, ?_⟩⟩
  refine bind_eq_ok.2 ⟨some outline.arrangement.storage, listed "storage" _, ?_⟩
  refine bind_eq_ok.2 ⟨some outline.arrangement.derivation, listed "derivation" _, ?_⟩
  exact bind_eq_ok.2 ⟨some outline.arrangement.display, listed "display" _, rfl⟩

theorem overrideList_document (entries : List (String × WrittenPath)) :
    overrideList (entries.map fun (hook, target) => (hook, .string target.text)) =
      .ok (entries.map overrideBy) := by
  unfold overrideList
  rw [List.mapM_map]
  refine mapM_eq_ok_map fun (hook, target) _ => ?_
  show (do return Override.mk hook (← path ("overrides." ++ hook) target.text)) = _
  rw [path_text]
  rfl

/-- The document of an outline is read as its schema, its names, and its overrides sorted by hook. -/
theorem ofTable_document :
    ofTable outline.document = .ok {
      schema := outline.schema
      naming := outline.naming
      overrides := (Toml.sorted outline.overrides).map overrideBy } := by
  refine bind_eq_ok.2 ⟨(), rfl, bind_eq_ok.2 ⟨some outline.names, rfl, ?_⟩⟩
  refine bind_eq_ok.2 ⟨(outline.naming, .enabled), outline.names_document, ?_⟩
  refine bind_eq_ok.2 ⟨outline.schema.declarations, outline.declarations_document, ?_⟩
  refine bind_eq_ok.2 ⟨some outline.orders, rfl, ?_⟩
  refine bind_eq_ok.2 ⟨outline.arrangement, outline.arrangement_document, ?_⟩
  refine bind_eq_ok.2 ⟨some _, rfl, ?_⟩
  exact bind_eq_ok.2 ⟨_, overrideList_document _, rfl⟩

end Outline

end StatSchema
