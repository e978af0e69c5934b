/-
The code of an artifact is read back from what it is printed as. Its identifiers were read from texts, so
each is a word; the paths in it are read back by assumption. Main statement: `Artifact.readsBack_generate`.
-/
import StatSchema.Proofs.Artifact.Accessors
import StatSchema.Proofs.Artifact.Reactions
import StatSchema.Proofs.Printing.Fragments

namespace StatSchema

open Token

/-! ## Names -/

/-- A compiled schema whose identifiers are words. -/
structure CompiledSchema.Worded (compiled : CompiledSchema) : Prop where
  stored : ∀ entry ∈ compiled.storage, Word entry.identifier.toList
  mutators : ∀ entry ∈ compiled.storage, Word entry.mutator.toList
  derived : ∀ entry ∈ compiled.derivation, Word entry.identifier.toList

/-- Names of types, of the cell and of the module that are words. -/
structure TypeNames.Worded (names : TypeNames) : Prop where
  record : Word names.record.toList
  aggregator : Word names.aggregator.toList
  threadLocal : Word names.threadLocal.toList
  module : ∀ name ∈ names.module, Word name.toList

theorem CompiledSchema.Represents.worded {compiled : CompiledSchema} {schema : Schema}
    (represents : compiled.Represents schema) : compiled.Worded where
  stored entry here := Identifier.word_of_read (represents.stored entry here).field
  mutators entry here := Identifier.word_of_read (represents.stored entry here).mutator
  derived entry here := Identifier.word_of_read (represents.derived entry here)

theorem word_of_typeIdentifier {name identifier : String}
    (spelled : Naming.typeIdentifier name = .ok identifier) : Word identifier.toList := by
  unfold Naming.typeIdentifier at spelled
  split_ifs at spelled
  · cases spelled
  · exact word_of_identifierOf spelled

theorem TypeNames.worded {naming : Naming} {names : TypeNames} (h : naming.typeNames = .ok names) :
    names.Worded := by
  obtain ⟨record, recorded, h⟩ := bind_eq_ok.1 h
  obtain ⟨aggregator, aggregated, h⟩ := bind_eq_ok.1 h
  obtain ⟨threadLocal, kept, h⟩ := bind_eq_ok.1 h
  obtain ⟨module, enclosed, h⟩ := bind_eq_ok.1 h
  split_ifs at h
  · cases h
  cases h
  refine ⟨word_of_typeIdentifier recorded, word_of_typeIdentifier aggregated, word_of_identifierOf kept,
    ?_⟩
  intro name here
  cases given : naming.module with
  | none =>
    rw [given] at enclosed
    cases enclosed
    cases here
  | some text =>
    rw [given] at enclosed
    obtain ⟨identifier, spelled, same⟩ := bind_eq_ok.1 enclosed
    cases same
    cases here
    exact word_of_identifierOf spelled

namespace Artifact

variable {compiled : CompiledSchema} {names : TypeNames} {runtime : Path} {entry : BaseEntry}

/-! ## Accessors -/

theorem readsBack_mustUse : ReadsBack (attributeTokens [mustUse]) := .fixed rfl

theorem readsBack_resultOf (valueType : ValueType) : ReadsBack (resultOf valueType) := by
  cases valueType <;> exact .fixed rfl

theorem readsBack_accessorCall {identifier : String} (word : Word identifier.toList) :
    ReadsBack (accessorCall identifier) :=
  .append (.append (.fixed rfl) (.name word)) (.fixed rfl)

/-- An expression is read back if the accessors that it calls are words. -/
theorem readsBack_expression {ρ : Type} {identifier : ρ → String} {expression : Expression ρ}
    (words : ∀ metric ∈ expression.calls, Word (identifier metric).toList) :
    ReadsBack (expression.tokens identifier) := by
  induction expression with
  | accessor metric => exact readsBack_accessorCall (words metric List.mem_cons_self)
  | converted inner ih => exact (ih words).append (.fixed rfl)
  | grouped inner ih => exact (ih words).parens
  | combined operator left right ihLeft ihRight =>
    obtain ⟨wordsLeft, wordsRight⟩ := List.forall_mem_append.1 words
    have sign : ReadsBack [operator.token] := by
      cases operator <;> exact .fixed rfl
    exact (ihLeft wordsLeft).append (.cons sign (ihRight wordsRight))

theorem word_of_find? (worded : compiled.Worded) {name : String} {metric : Entry}
    (found : compiled.find? name = some metric) : Word metric.identifier.toList := by
  obtain ⟨-, ⟨stored, here, rfl⟩ | ⟨compound, here, rfl⟩⟩ := CompiledSchema.find?_eq_some found
  · exact worded.stored stored here
  · exact worded.derived compound here

theorem readsBack_compoundAccessors (worded : compiled.Worded) {documentation : String → String}
    {accessors : List Routine}
    (derived : compiled.derivation.mapM (compoundAccessor compiled documentation) = .ok accessors) :
    ∀ accessor ∈ accessors, ReadsBack accessor.tokens := by
  intro accessor here
  obtain ⟨compound, there, made⟩ := exists_mem_of_forall₂ (forall₂_of_mapM derived) accessor here
  obtain ⟨expression, expressed, same⟩ := bind_eq_ok.1 made
  cases same
  obtain ⟨operands, resolved, applied⟩ := CompiledSchema.expression_eq_ok expressed
  have words : ∀ metric ∈ expression.calls, Word metric.identifier.toList := by
    rw [Expression.calls_ofOperands? applied]
    intro metric operand
    obtain ⟨name, -, found⟩ :=
      exists_mem_of_forall₂ (CompiledSchema.entries_eq_ok resolved) metric operand
    exact word_of_find? worded found
  exact Routine.readsBack (readsBack_documented _ readsBack_mustUse) (.fixed rfl)
    (worded.derived compound there) .nil (.fixed rfl) (readsBack_resultOf _) (readsBack_expression words)

/-! ## Records -/

theorem readsBack_fieldAccessor (word : Word entry.identifier.toList) :
    ReadsBack (fieldAccessor entry).tokens :=
  Routine.readsBack (readsBack_documented _ readsBack_mustUse) (.fixed rfl) word .nil (.fixed rfl)
    (readsBack_resultOf _) (.append (.fixed rfl) (.name word))

theorem readsBack_amountType (path : ReadsBack runtime.tokens) : ReadsBack (amountType runtime) :=
  .append (.cons (.fixed rfl) path) (.fixed rfl)

theorem readsBack_asWord (path : ReadsBack runtime.tokens) {amount : String}
    (word : Word amount.toList) : ReadsBack (asWord runtime amount) :=
  (path.append (.fixed rfl)).append (ReadsBack.name word).parens

theorem readsBack_store (word : Word entry.identifier.toList) {value : List Token}
    (stored : ReadsBack value) : ReadsBack (store entry value) :=
  .append (.append (.append (.append (.fixed rfl) (.name word)) (.fixed rfl)) stored) (.fixed rfl)

theorem readsBack_wrappingAdd (word : Word entry.identifier.toList) {amount : String}
    (added : ReadsBack (Token.code amount)) : ReadsBack (wrappingAdd entry amount) :=
  readsBack_store word (.append (.append (.append (.fixed rfl) (.name word)) (.fixed rfl)) added.parens)

theorem readsBack_mutator (path : ReadsBack runtime.tokens) (word : Word entry.identifier.toList)
    (word' : Word entry.mutator.toList) : ReadsBack (mutator runtime entry).tokens := by
  have documented (text : String) : ReadsBack (attributeTokens [.doc text]) :=
    readsBack_documented text .nil
  -- sums and maxima take an amount, which is turned into a word first
  have taking {amount text : String} {update : List Token} (plain : Word amount.toList)
      (updates : ReadsBack update) :
      ReadsBack (Routine.tokens
        { attributes := [.doc text]
          name := entry.mutator
          parameters := Token.code "& mut self ," ++ name amount ++ Token.code ":" ++ amountType runtime
          body := Token.code "let" ++ name amount ++ Token.code "=" ++ asWord runtime amount ++
            Token.code ";" ++ update }) := by
    refine Routine.readsBack (documented _) (.fixed rfl) word' .nil ?_ .nil ?_
    · exact .append (.append (.append (.fixed rfl) (.name plain)) (.fixed rfl)) (readsBack_amountType path)
    · have bound : ReadsBack (Token.code "let" ++ name amount ++ Token.code "=") :=
        .append (.append (.fixed rfl) (.name plain)) (.fixed rfl)
      exact .append (.append (.append bound (readsBack_asWord path plain)) (.fixed rfl)) updates
  unfold mutator
  cases entry.kind with
  | counter =>
    exact Routine.readsBack (documented _) (.fixed rfl) word' .nil (.fixed rfl) .nil
      (readsBack_wrappingAdd word (.fixed rfl))
  | sum => exact taking (.plain (by decide)) (readsBack_wrappingAdd word (.fixed rfl))
  | max =>
    refine taking (.plain (by decide)) (readsBack_store word (.append (.fixed rfl) (ReadsBack.parens ?_)))
    exact .append (.append (.fixed rfl) (.name word)) (.fixed rfl)

theorem readsBack_recordType (worded : compiled.Worded) (named : names.Worded) :
    ReadsBack (recordType compiled names).tokens := by
  have type : ReadsBack (Token.code "u64") := .fixed rfl
  have marks : ReadsBack (attributeTokens
      [.other (name "derive" ++
        Token.parens (Token.code "Clone , Copy , Debug , Default , Eq , PartialEq"))]) := .fixed rfl
  refine Item.readsBack_structure (readsBack_commented rfl (readsBack_commented rfl marks))
    named.record ?_
  rw [List.forall_mem_map]
  exact fun entry here => ⟨worded.stored entry here, type⟩

theorem readsBack_newRecord (worded : compiled.Worded) : ReadsBack (newRecord compiled).tokens := by
  refine Routine.readsBack (readsBack_commented rfl readsBack_mustUse) (.fixed rfl)
    (.plain (by decide)) .nil .nil (.fixed rfl) (.append (.fixed rfl) (ReadsBack.flatMap ?_).braces)
  exact fun entry here => (ReadsBack.name (worded.stored entry here)).append (.fixed rfl)

theorem readsBack_withCurrent (named : names.Worded) : ReadsBack (withCurrent names).tokens :=
  Routine.readsBack (readsBack_commented rfl .nil) (.fixed rfl) (.plain (by decide)) (.fixed rfl)
    (.fixed rfl) (.fixed rfl) (((ReadsBack.name named.threadLocal).append (.fixed rfl)).append (.fixed rfl))

theorem readsBack_takeCurrent (named : names.Worded) : ReadsBack (takeCurrent names).tokens :=
  Routine.readsBack (readsBack_commented rfl readsBack_mustUse) (.fixed rfl) (.plain (by decide)) .nil
    .nil (.fixed rfl) (((ReadsBack.name named.threadLocal).append (.fixed rfl)).append (.fixed rfl))

theorem readsBack_threadLocal (named : names.Worded) : ReadsBack (threadLocal names).tokens := by
  have made : ReadsBack (Token.code ":: core :: cell :: RefCell :: new" ++
      Token.parens (name names.record ++ Token.code ":: new" ++ Token.parens [])) :=
    .append (.fixed rfl) (((ReadsBack.name named.record).append (.fixed rfl)).append (.fixed rfl)).parens
  have declared : ReadsBack (Token.code "static" ++ name names.threadLocal ++
      Token.code ": :: core :: cell :: RefCell <" ++ name names.record ++ Token.code "> = const") :=
    .append (.append (.append (.append (.fixed rfl) (.name named.threadLocal)) (.fixed rfl)) (.name named.record))
      (.fixed rfl)
  exact .append (.fixed rfl) (.cons (.fixed rfl) ((declared.append made.braces).append (.fixed rfl)).braces)

theorem readsBack_arithmeticAllowed : ReadsBack (attributeTokens [arithmeticAllowed]) :=
  readsBack_attributes (.cons (.fixed rfl) (ReadsBack.append (.append (.fixed rfl) (.fixed rfl)) (.string _)).parens) .nil

theorem readsBack_record (worded : compiled.Worded) (named : names.Worded)
    (path : ReadsBack runtime.tokens) {items : List Item}
    (h : record compiled names runtime = .ok items) : ∀ item ∈ items, ReadsBack item.tokens := by
  obtain ⟨accessors, derived, rfl⟩ := record_eq_ok h
  simp only [List.forall_mem_cons]
  refine ⟨readsBack_recordType worded named, ?_, readsBack_threadLocal named, List.forall_mem_nil _⟩
  refine Item.readsBack_implementation readsBack_arithmeticAllowed .nil named.record ?_
  simp only [List.forall_mem_append, List.forall_mem_cons, List.forall_mem_map]
  refine ⟨⟨⟨⟨readsBack_newRecord worded, ?_⟩, ?_⟩, readsBack_compoundAccessors worded derived⟩,
    readsBack_withCurrent named, readsBack_takeCurrent named, List.forall_mem_nil _⟩
  · exact fun entry here => readsBack_fieldAccessor (worded.stored entry here)
  · exact fun entry here =>
      readsBack_mutator path (worded.stored entry here) (worded.mutators entry here)

/-! ## Aggregators -/

theorem readsBack_ledgerPath (path : ReadsBack runtime.tokens) : ReadsBack (ledgerPath runtime) :=
  .append path (.fixed rfl)

theorem readsBack_aggregatorType (named : names.Worded) (path : ReadsBack runtime.tokens) :
    ReadsBack (aggregatorType names runtime).tokens := by
  have type : ReadsBack (ledgerPath runtime ++ Token.code "<" ++ name names.record ++ Token.code ">") :=
    .append (.append (.append (readsBack_ledgerPath path) (.fixed rfl)) (.name named.record)) (.fixed rfl)
  have marks : ReadsBack (attributeTokens
      [.other (name "derive" ++ Token.parens (Token.code "Clone , Debug , Default"))]) := .fixed rfl
  have ledger : Word "ledger".toList := .plain (by decide)
  refine Item.readsBack_structure (readsBack_documented _ marks) named.aggregator ?_
  rw [List.forall_mem_singleton]
  exact ⟨ledger, type⟩

theorem readsBack_newAggregator (path : ReadsBack runtime.tokens) :
    ReadsBack (newAggregator runtime).tokens := by
  have field : ReadsBack (Token.code "ledger :" ++ ledgerPath runtime ++ Token.code ":: new" ++
      Token.parens [] ++ Token.code ",") :=
    .append (.append (.append (.append (.fixed rfl) (readsBack_ledgerPath path)) (.fixed rfl)) (.fixed rfl)) (.fixed rfl)
  exact Routine.readsBack (readsBack_commented rfl readsBack_mustUse) (.fixed rfl)
    (.plain (by decide)) .nil .nil (.fixed rfl) (.append (.fixed rfl) field.braces)

theorem readsBack_ledgerMethods (named : names.Worded) :
    ∀ method ∈ ledgerMethods names, ReadsBack method.tokens := by
  have record := ReadsBack.name named.record
  simp only [ledgerMethods, List.forall_mem_cons]
  refine ⟨?_, ?_, ?_, ?_, List.forall_mem_nil _⟩
  · exact Routine.readsBack (readsBack_commented rfl .nil) (.fixed rfl) (.plain (by decide)) .nil
      (.append (.fixed rfl) record) .nil (.fixed rfl)
  · exact Routine.readsBack (readsBack_commented rfl .nil) (.fixed rfl) (.plain (by decide)) .nil
      (.fixed rfl) .nil (.fixed rfl)
  · exact Routine.readsBack (readsBack_commented rfl readsBack_mustUse) (.fixed rfl)
      (.plain (by decide)) .nil (.fixed rfl) (.fixed rfl) (.fixed rfl)
  · exact Routine.readsBack (readsBack_commented rfl readsBack_mustUse) (.fixed rfl)
      (.plain (by decide)) .nil (.fixed rfl) (.append (.fixed rfl) record.brackets) (.fixed rfl)

theorem readsBack_reducedAccessor (named : names.Worded) (word : Word entry.identifier.toList) :
    ReadsBack (reducedAccessor names entry).tokens := by
  have method : ReadsBack (name (reductionMethod entry.kind.reduction)) := by
    cases entry.kind <;> exact .fixed rfl
  have accessor : ReadsBack (name names.record ++ Token.code "::" ++ name entry.identifier) :=
    .append (.append (.name named.record) (.fixed rfl)) (.name word)
  exact Routine.readsBack (readsBack_documented _ readsBack_mustUse) (.fixed rfl) word .nil
    (.fixed rfl) (readsBack_resultOf _) (.append (.append (.fixed rfl) method) accessor.parens)

theorem readsBack_aggregator (worded : compiled.Worded) (named : names.Worded)
    (path : ReadsBack runtime.tokens) {items : List Item}
    (h : aggregator compiled names runtime = .ok items) : ∀ item ∈ items, ReadsBack item.tokens := by
  obtain ⟨accessors, derived, rfl⟩ := aggregator_eq_ok h
  simp only [List.forall_mem_cons]
  refine ⟨readsBack_aggregatorType named path, ?_, List.forall_mem_nil _⟩
  refine Item.readsBack_implementation readsBack_arithmeticAllowed .nil named.aggregator ?_
  simp only [List.forall_mem_append, List.forall_mem_cons, List.forall_mem_map]
  exact ⟨⟨⟨readsBack_newAggregator path, readsBack_ledgerMethods named⟩,
    fun entry here => readsBack_reducedAccessor named (worded.stored entry here)⟩,
    readsBack_compoundAccessors worded derived⟩

/-! ## Reports -/

theorem readsBack_lineStatements (worded : compiled.Worded) {indent : String}
    {lines : List (List Token)} (h : lineStatements compiled indent = .ok lines) :
    ReadsBack (lines.flatten ++ written) := by
  have each : ∀ line ∈ lines, ReadsBack line := by
    intro line here
    obtain ⟨⟨metric, label⟩, -, made⟩ := exists_mem_of_forall₂ (forall₂_of_mapM h) line here
    dsimp only at made
    split at made
    · rename_i entry found
      cases made
      have arguments : ReadsBack (Token.code "f ," ++ [.string (indent ++ label ++ "\x7b\x7d")] ++
          Token.code "," ++ accessorCall entry.identifier) :=
        .append (.append (.append (.fixed rfl) (.string _)) (.fixed rfl))
          (readsBack_accessorCall (word_of_find? worded found))
      exact .append (.append (.fixed rfl) arguments.parens) (.fixed rfl)
    · cases made
  rw [List.flatten_eq_flatMap]
  exact .append (.flatMap each) (.fixed rfl)

theorem readsBack_displayMethod {body : List Token} (inside : ReadsBack body) :
    ReadsBack (displayMethod body).tokens :=
  Routine.readsBack .nil (.fixed rfl) (.plain (by decide)) .nil (.fixed rfl) (.fixed rfl) inside

theorem readsBack_display {target : String} {body : List Token} (word : Word target.toList)
    (inside : ReadsBack body) :
    ReadsBack (Item.implementation [] displayInterface target [displayMethod body]).tokens := by
  refine Item.readsBack_implementation .nil (.fixed rfl) word ?_
  rw [List.forall_mem_singleton]
  exact readsBack_displayMethod inside

theorem readsBack_recordReport (worded : compiled.Worded) (named : names.Worded) {items : List Item}
    (h : recordReport compiled names = .ok items) : ∀ item ∈ items, ReadsBack item.tokens := by
  obtain ⟨lines, ran, same⟩ := bind_eq_ok.1 h
  cases same
  rw [List.forall_mem_singleton]
  exact readsBack_display named.record (readsBack_lineStatements worded ran)

theorem readsBack_infallibly : ReadsBack infallibly :=
  .append (.append (.fixed rfl) (ReadsBack.string _).parens) (.fixed rfl)

theorem readsBack_writeEntries (path : ReadsBack runtime.tokens) {output : List Token}
    (written : ReadsBack output) : ReadsBack (writeEntries runtime output) :=
  .append (.append (readsBack_ledgerPath path) (.fixed rfl)) (ReadsBack.append (.fixed rfl) written).parens

theorem readsBack_writeSummary {lines : List (List Token)} (body : ReadsBack (lines.flatten ++ written)) :
    ReadsBack (writeSummary lines).tokens :=
  Routine.readsBack (readsBack_commented rfl .nil) (.fixed rfl) (.plain (by decide)) .nil (.fixed rfl)
    (.fixed rfl) body

theorem readsBack_results (path : ReadsBack runtime.tokens) : ReadsBack (results runtime).tokens := by
  have entries : ReadsBack (writeEntries runtime (Token.code "& mut output") ++ infallibly) :=
    .append (readsBack_writeEntries path (.fixed rfl)) readsBack_infallibly
  have summary : ReadsBack (Token.code "let mut output = :: std :: string :: String :: new" ++
      Token.parens [] ++ Token.code ";" ++ Token.code "self . write_summary" ++
      Token.parens (Token.code "& mut output") ++ infallibly) :=
    .append (.fixed rfl) readsBack_infallibly
  exact Routine.readsBack (readsBack_commented rfl readsBack_mustUse) (.fixed rfl) (.plain (by decide))
    .nil (.fixed rfl) (.fixed rfl) (.append (.append (.append summary (.fixed rfl)) entries.braces) (.fixed rfl))

theorem readsBack_aggregatorReport (worded : compiled.Worded) (named : names.Worded)
    (path : ReadsBack runtime.tokens) {items : List Item}
    (h : aggregatorReport compiled names runtime = .ok items) :
    ∀ item ∈ items, ReadsBack item.tokens := by
  obtain ⟨lines, ran, same⟩ := bind_eq_ok.1 h
  cases same
  simp only [List.forall_mem_cons]
  refine ⟨?_, ?_, List.forall_mem_nil _⟩
  · refine Item.readsBack_implementation .nil .nil named.aggregator ?_
    simp only [List.forall_mem_cons]
    exact ⟨readsBack_writeSummary (readsBack_lineStatements worded ran), readsBack_results path,
      List.forall_mem_nil _⟩
  · exact readsBack_display named.aggregator (.append (.fixed rfl) (readsBack_writeEntries path (.fixed rfl)))

/-! ## Hooks -/

theorem readsBack_hookAttributes (documentation : String) (effect : HookEffect) :
    ReadsBack (attributeTokens (hookAttributes documentation effect)) := by
  have allowed : ReadsBack (Token.code "dead_code , reason =" ++
      [.string "not every host calls every hook"]) := .append (.fixed rfl) (.string _)
  have inlined : ReadsBack (name "inline" ++ if effect = .nothing then Token.parens (name "always") else []) := by
    split <;> exact .fixed rfl
  exact readsBack_documented _ (readsBack_attributes
    (.append (.fixed rfl) allowed.parens) (readsBack_attributes inlined .nil))

/-- A hook that takes an argument is read back, under either name of the argument. -/
theorem readsBack_argumentHook {documentation identifier argument : String} {type body : List Token}
    {effect : HookEffect} (word : Word identifier.toList) (used : Word argument.toList)
    (unused : Word ("_" ++ argument).toList) (typed : ReadsBack type) (inside : ReadsBack body) :
    ReadsBack (argumentHook documentation identifier argument type effect body).tokens := by
  have parameter : ReadsBack (name (if effect = .nothing then "_" ++ argument else argument)) := by
    split
    · exact .name unused
    · exact .name used
  exact Routine.readsBack (readsBack_hookAttributes _ _) (.fixed rfl) word .nil
    ((parameter.append (.fixed rfl)).append typed) .nil inside

theorem readsBack_metricHook (named : names.Worded) (path : ReadsBack runtime.tokens)
    {identifier : String} (word : Word identifier.toList) (mutates : Word entry.mutator.toList)
    {effect : HookEffect} (paths : ∀ target, effect = .call target → ReadsBack target.tokens) :
    ReadsBack (metricHook names runtime entry identifier effect).tokens := by
  have updating {argument : List Token} (update : ReadsBack argument) :
      ReadsBack (name names.record ++ Token.code ":: with_current" ++ Token.parens argument ++
        Token.code ";") :=
    .append (.append (.append (.name named.record) (.fixed rfl)) update.parens) (.fixed rfl)
  have worked : ReadsBack (name names.record ++ Token.code ":: with_current" ++
      Token.parens (Token.code "| record | record ." ++ name entry.mutator ++
        Token.parens (name "amount")) ++ Token.code ";") :=
    updating (.append (.append (.fixed rfl) (.name mutates)) (.fixed rfl))
  have forwarded (target : Path) (calls : effect = .call target) :
      ReadsBack (target.tokens ++ Token.parens (asWord runtime "amount") ++ Token.code ";") :=
    .append ((paths target calls).append (readsBack_asWord path (.plain (by decide))).parens)
      (.fixed rfl)
  unfold metricHook
  cases entry.kind with
  | counter =>
    refine Routine.readsBack (readsBack_hookAttributes _ _) (.fixed rfl) word .nil .nil .nil ?_
    cases effect with
    | nothing => exact .nil
    | work => exact updating (.append (.append (.name named.record) (.fixed rfl)) (.name mutates))
    | call target => exact ((paths target rfl).append (.fixed rfl)).append (.fixed rfl)
  | sum | max =>
    refine readsBack_argumentHook word (.plain (by decide)) (.plain (by decide))
      (readsBack_amountType path) ?_
    cases effect with
    | nothing => exact .nil
    | work => exact worked
    | call target => exact forwarded target rfl

theorem readsBack_lifecycleHook (named : names.Worded) (step : Lifecycle) {identifier : String}
    (word : Word identifier.toList) {effect : HookEffect}
    (paths : ∀ target, effect = .call target → ReadsBack target.tokens) :
    ReadsBack (lifecycleHook names step identifier effect).tokens := by
  have received : ReadsBack (receiver names step) := by
    cases step <;> exact .append (.fixed rfl) (.name named.aggregator)
  have work : ReadsBack (lifecycleWork names step) := by
    cases step with
    | publish =>
      have taken : ReadsBack (name names.record ++ Token.code ":: take_current" ++ Token.parens []) :=
        .append (.append (.name named.record) (.fixed rfl)) (.fixed rfl)
      exact .append (.append (.fixed rfl) taken.parens) (.fixed rfl)
    | clear => exact .fixed rfl
    | dump => exact .append (.append (.fixed rfl) (ReadsBack.string _).parens) (.fixed rfl)
  refine readsBack_argumentHook word (.plain (by decide)) (.plain (by decide)) received ?_
  cases effect with
  | nothing => exact .nil
  | work => exact work
  | call target => exact ((paths target rfl).append (.fixed rfl)).append (.fixed rfl)

theorem readsBack_gated {feature : String} {on : Bool} {routine : Routine}
    (hook : ReadsBack routine.tokens) : ReadsBack (gated feature on routine).tokens := by
  have condition : ReadsBack (Attribute.feature feature on).tokens :=
    Attribute.readsBack (Attribute.readsBack_feature feature on)
  have tokens : (gated feature on routine).tokens =
      (Attribute.feature feature on).tokens ++ routine.tokens := by
    simp [gated, Routine.tokens, attributeTokens]
  rw [tokens]
  exact condition.append hook

theorem readsBack_hooks (worded : compiled.Worded) (named : names.Worded) {naming : Naming}
    (path : ReadsBack naming.runtime.tokens) {instrumentation : Instrumentation}
    {overrides : List Override} (paths : ∀ override ∈ overrides, ReadsBack override.target.tokens)
    {items : List Item} (h : hooks compiled naming names instrumentation overrides = .ok items) :
    ∀ item ∈ items, ReadsBack item.tokens := by
  obtain ⟨routines, each, rfl⟩ := hooks_eq_ok h
  rw [List.forall_mem_map]
  intro routine here
  obtain ⟨selection, among, here⟩ := List.mem_flatten.1 here
  obtain ⟨hook, there, identifier, spelled, rfl⟩ := exists_mem_of_forall₂ each selection among
  -- under a feature a hook is emitted twice, so that both effects are looked at
  have single : ∀ enabled, ReadsBack (hookRoutine names naming.runtime identifier
      (hook.effect enabled (overrideOf? overrides hook.name)) hook).tokens := by
    intro enabled
    have word := word_of_identifierOf spelled
    have called : ∀ target, hook.effect enabled (overrideOf? overrides hook.name) = .call target →
        ReadsBack target.tokens := by
      intro target calls
      obtain ⟨override, given, rfl⟩ := mem_of_overrideOf? (Hook.effect_eq_call calls)
      exact paths override given
    cases hook with
    | metric entry =>
      have stored := mem_all_metric.1 there
      exact readsBack_metricHook named path word (worded.mutators entry stored) called
    | lifecycle step => exact readsBack_lifecycleHook named step word called
  cases instrumentation with
  | enabled =>
    rw [List.mem_singleton.1 here]
    exact single true
  | disabled =>
    rw [List.mem_singleton.1 here]
    exact single false
  | feature feature =>
    rcases List.mem_cons.1 here with rfl | here
    · exact readsBack_gated (single true)
    · rw [List.mem_singleton.1 here]
      exact readsBack_gated (single false)

/-! ## Whole artifacts -/

/-- An artifact whose items, and the module around them, are read back. -/
structure Readable (artifact : Artifact) : Prop where
  items : ∀ item ∈ artifact.items, ReadsBack item.tokens
  attributes : ∀ enclosure ∈ artifact.enclosure, ∀ mark ∈ enclosure.attributes, ReadsBack mark.tokens
  name : ∀ enclosure ∈ artifact.enclosure, Word enclosure.name.toList

/-- A generated artifact is read back if the paths that it is generated with are. -/
theorem readsBack_generate {schema : Schema} {naming : Naming} {instrumentation : Instrumentation}
    {overrides : List Override} {artifact : Artifact}
    (path : ReadsBack naming.runtime.tokens)
    (paths : ∀ override ∈ overrides, ReadsBack override.target.tokens)
    (h : generate schema naming instrumentation overrides = .ok artifact) : artifact.Readable := by
  obtain ⟨compiled, compiles, h⟩ := bind_eq_ok.1 h
  obtain ⟨-, -, h⟩ := bind_eq_ok.1 h
  obtain ⟨names, spelled, h⟩ := bind_eq_ok.1 h
  obtain ⟨hooks, hooked, h⟩ := bind_eq_ok.1 h
  obtain ⟨record, recorded, h⟩ := bind_eq_ok.1 h
  obtain ⟨recordReport, recordReported, h⟩ := bind_eq_ok.1 h
  obtain ⟨aggregator, aggregated, h⟩ := bind_eq_ok.1 h
  obtain ⟨aggregatorReport, aggregatorReported, h⟩ := bind_eq_ok.1 h
  cases h
  have worded := (of_compile compiles).2.worded
  have named := TypeNames.worded spelled
  refine ⟨?_, ?_, ?_⟩
  · simp only [List.forall_mem_append]
    exact ⟨⟨⟨⟨readsBack_record worded named path recorded,
      readsBack_recordReport worded named recordReported⟩,
      readsBack_aggregator worded named path aggregated⟩,
      readsBack_aggregatorReport worded named path aggregatorReported⟩,
      readsBack_hooks worded named path paths hooked⟩
  · intro enclosure here
    obtain ⟨name, -, rfl⟩ := Option.map_eq_some_iff.1 here
    rw [List.forall_mem_singleton]
    exact Attribute.readsBack (Attribute.readsBack_doc _)
  · intro enclosure here
    obtain ⟨name, given, rfl⟩ := Option.map_eq_some_iff.1 here
    exact named.module name given

end Artifact

end StatSchema
