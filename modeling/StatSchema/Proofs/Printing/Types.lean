/-
Readers of types and of bounds are faithful if those of the constructs inside are.
-/
import StatSchema.Phrase.Type
import StatSchema.Proofs.Printing.Paths

namespace StatSchema.Phrase

open Token Lookahead

variable {source : List Placed}

set_option synthInstance.maxSize 400 in
instance : Faithful source variadicArgument := by
  dsimp only [variadicArgument]
  infer_instance

/-- Bounds after a name, which are not written if there are none. -/
def constrained (bounds : Phrase Bool) : Phrase Unit := do
  if signNext ":" (← rest) then
    let (any, tokens) ← captured bounds
    if any then write tokens

theorem faithful_constrained {first : Reader source Unit} (bounds : Phrase Bool) [Faithful source bounds]
    (firm : Legible source → ∀ before, FirmAt before first) :
    Faithful source (first >>= fun _ => constrained bounds) :=
  ⟨fun legible before answer after run settled => by
    obtain ⟨_, middle, head, run⟩ := run_bind_eq_ok.1 run
    unfold constrained at run
    rw [rest_bind] at run
    split_ifs at run
    · obtain ⟨⟨any, tokens⟩, last, kept, run⟩ := run_bind_eq_ok.1 run
      have left : last.leftover = none := by
        cases any <;> cases run <;> exact settled
      obtain ⟨settled', written, renders⟩ := captured_renders legible kept left
      obtain ⟨new, advances, some_new, chain⟩ := firm legible before _ _ head settled'
      cases any with
      | true =>
        cases run
        refine ⟨new ++ tokens, advances.settled, ?_, advances.renders.trans renders⟩
        show tokens.reverse ++ last.written = _
        rw [written, advances.written, List.reverse_append, List.append_assoc]
      | false =>
        cases run
        refine ⟨new, advances.settled, written.trans advances.written, ?_⟩
        exact advances.renders.retract_nil some_new chain renders.takes
    · cases run
      obtain ⟨new, advances, -⟩ := firm legible before _ _ head settled
      exact ⟨new, advances⟩⟩

/-- What was kept back is written, or what it was read from as it stands. -/
theorem faithfulAt_kept {α : Type} {phrase : Phrase Bool} [Faithful source phrase] (legible : Legible source)
    (before : Progress source) (answer : α) :
    FaithfulAt before (captured phrase >>= fun kept =>
      if kept.1 = true then
        rest >>= fun stop =>
          write ((between before.rest stop).map (·.token)) >>= fun _ => pure answer
      else write kept.2 >>= fun _ => pure answer) := by
  intro _ after run settled
  obtain ⟨⟨asRead, tokens⟩, middle, kept, run⟩ := run_bind_eq_ok.1 run
  have left : middle.leftover = none := by
    cases asRead <;> cases run <;> exact settled
  obtain ⟨begun, same, renders⟩ := captured_renders legible kept left
  cases asRead with
  | true =>
    cases run
    refine ⟨_, begun, ?_, .verbatim (before.legible legible) renders.takes⟩
    rw [← same]
  | false =>
    cases run
    refine ⟨tokens, begun, ?_, renders⟩
    rw [← same]

namespace Grammar

variable (grammar : Grammar) [sound : grammar.Sound]

/-- A path that may be given arguments in parentheses. -/
instance {α : Type} (later : Reader source α) [Faithful source later] :
    Faithful source (grammar.path false >>= fun form => rest >>= fun tokens =>
      if (form.isOpen && parenthesesNext tokens) = true then
        discard (grammar.parenthesizedArguments form) >>= fun _ => later
      else later) :=
  ⟨fun legible before answer after run settled => by
    obtain ⟨form, middle, first, run⟩ := run_bind_eq_ok.1 run
    rw [rest_bind] at run
    split_ifs at run with next
    · obtain ⟨_, last, second, run⟩ := run_bind_eq_ok.1 run
      obtain ⟨more, advances⟩ := Faithful.faithful legible _ _ _ run settled
      obtain ⟨extensible, second⟩ := discard_eq_ok second
      have extends_ := grammar.parenthesizedArguments_extends legible (Bool.and_eq_true_iff.1 next).1 second
        advances.settled
      obtain ⟨settled, built⟩ := Builds.builds legible before _ _ first extends_.settled
      obtain ⟨new, path⟩ := (extends_.built before built).advances settled
      exact ⟨new ++ more, path.trans advances⟩
    · obtain ⟨more, advances⟩ := Faithful.faithful legible _ _ _ run settled
      obtain ⟨new, path⟩ := Faithful.faithful legible before _ _ first advances.settled
      exact ⟨new ++ more, path.trans advances⟩⟩

/-! ## Lifetimes that are bound -/

set_option synthInstance.maxSize 400 in
instance : Faithful source grammar.parameter := by
  have lifetime (bounds : Phrase Bool) [Faithful source bounds] :
      Faithful source (Phrase.lifetime >>= fun _ => constrained bounds) :=
    faithful_constrained bounds fun legible _ => .lifetime legible
  have name (bounds : Phrase Bool) [Faithful source bounds] (later : Reader source Unit)
      [Faithful source later] :
      Faithful source (identifier >>= fun _ => constrained bounds >>= fun _ => later) := by
    have both : Faithful source (identifier >>= fun _ => constrained bounds) :=
      faithful_constrained bounds fun legible _ => .identifier legible
    rw [← bind_assoc]
    infer_instance
  dsimp only [constrained] at lifetime name
  dsimp only [parameter]
  refine .bind fun _ => .of_rest fun tokens => ?_
  split_ifs
  · exact name _ _
  · exact lifetime _
  all_goals infer_instance

instance : Faithful source grammar.binder := by
  dsimp only [binder]
  infer_instance

/-! ## Bounds -/

instance : Faithful source grammar.captures := by
  refine ⟨fun legible before answer after run settled => ?_⟩
  unfold captures at run
  obtain ⟨_, _, use, run⟩ := run_bind_eq_ok.1 run
  obtain ⟨_, _, first, run⟩ := run_bind_eq_ok.1 run
  obtain ⟨parameters, _, read, run⟩ := run_bind_eq_ok.1 run
  obtain ⟨_, _, written, run⟩ := run_bind_eq_ok.1 run
  rw [rest_bind] at run
  obtain ⟨_, _, close, run⟩ := run_bind_eq_ok.1 run
  cases run
  have angled := advances_angled legible (.checked _ _ (.of_rest _ legible fun tokens => inferInstance))
    first read written close settled
  obtain ⟨new, advances⟩ := Faithful.faithful legible _ _ _ use angled.settled
  exact ⟨_, advances.trans angled⟩

set_option synthInstance.maxSize 10000 in
instance (constants : Bool) : Faithful source (grammar.trait constants) := by
  dsimp only [trait]
  infer_instance

instance (captures constants : Bool) : Faithful source (grammar.boundBody captures constants) := by
  refine ⟨fun legible before answer after run settled => ?_⟩
  dsimp only [boundBody] at run
  rw [rest_bind] at run
  split_ifs at run
  · exact Faithful.faithful legible before _ _ run settled
  · exact Faithful.faithful legible before _ _ run settled
  · exact Faithful.faithful legible before _ _ run settled
  · exact faithfulAt_kept legible before _ _ _ run settled
  · exact faithfulAt_kept legible before _ _ _ run settled

instance (captures constants : Bool) (bound : Nat) (form : BoundsForm) :
    Faithful source (grammar.furtherBounds captures constants bound form) := by
  induction bound generalizing form with
  | zero => 
    dsimp only [furtherBounds]
    infer_instance
  | succ bound ih => 
    dsimp only [furtherBounds]
    infer_instance

instance (sums captures constants : Bool) : Faithful source (grammar.boundList sums captures constants) := by
  dsimp only [boundList]
  infer_instance

instance (sums : Bool) (start : Position) : Faithful source (grammar.objectBounds sums start) := by
  dsimp only [objectBounds]
  infer_instance

/-! ## Functions -/

set_option synthInstance.maxSize 400 in
instance (first : Bool) : Faithful source (grammar.functionArgument first) := by
  dsimp only [functionArgument]
  infer_instance

set_option synthInstance.maxSize 1000 in
instance (first : Bool) (bound : Nat) : Faithful source (grammar.functionArguments first bound) := by
  induction bound generalizing first with
  | zero => 
    dsimp only [functionArguments]
    infer_instance
  | succ bound ih => 
    dsimp only [functionArguments]
    infer_instance

set_option synthInstance.maxSize 1000 in
instance : Faithful source grammar.functionType := by
  dsimp only [functionType]
  infer_instance

/-! ## Types -/

instance : Faithful source grammar.plusBounds := by
  dsimp only [plusBounds]
  infer_instance

instance : Faithful source grammar.parenthesizedContent := by
  dsimp only [parenthesizedContent]
  infer_instance

instance (sums : Bool) : Faithful source (grammar.parenthesizedType sums) := by
  refine .of_rest fun tokens => .groupThen _ _ fun (whole, first) => ?_
  cases whole <;> (dsimp only; infer_instance)

set_option synthInstance.maxSize 400 in
instance (sums : Bool) : Faithful source (grammar.objectType sums) := by
  dsimp only [objectType]
  infer_instance

instance (sums : Bool) : Faithful source (grammar.implementationType sums) := by
  dsimp only [implementationType]
  infer_instance

instance : Faithful source grammar.arrayType := by
  dsimp only [arrayType]
  infer_instance

instance : Faithful source grammar.pointerType := by
  dsimp only [pointerType]
  infer_instance

instance : Faithful source grammar.referenceType := by
  dsimp only [referenceType]
  infer_instance

/-- A type that begins with a path goes on from what was kept back, of which a `binder` may be left out. -/
theorem namedType_renders (legible : Legible source) {binder : Option (List Token)} {sums : Bool}
    {before after : Progress source} {form : TypeForm}
    (run : grammar.namedType binder sums before = .ok (form, after)) (settled : after.leftover = none) :
    before.leftover = none ∧ ∀ start, Renders start [] before.rest →
      Renders start (binder.getD []) before.rest →
        ∃ new, after.written = new.reverse ++ before.written ∧ Renders start new after.rest := by
  unfold namedType at run
  obtain ⟨⟨path, tokens⟩, middle, kept, run⟩ := run_bind_eq_ok.1 run
  dsimp only at run
  rw [rest_bind] at run
  -- whatever is written first, the path is written behind it
  have resume (pending : List Token) {both : List Token} (same : both = pending ++ tokens)
      {reader : Reader source TypeForm} [resumes : Resumes source both reader]
      (run : reader middle = .ok (form, after)) :
      before.leftover = none ∧ ∀ start, Renders start pending before.rest →
        ∃ new, after.written = new.reverse ++ before.written ∧ Renders start new after.rest := by
    subst same
    obtain ⟨left, written⟩ := resumes.resumes legible _ _ _ run settled
    obtain ⟨settled, same, renders⟩ := captured_renders legible kept left
    refine ⟨settled, fun start front => ?_⟩
    rw [← same]
    exact written start (front.trans renders)
  have alone := (List.nil_append tokens).symm
  split_ifs at run
  · obtain ⟨settled, written⟩ := resume [] alone run
    exact ⟨settled, fun start none _ => written start none⟩
  · obtain ⟨settled, written⟩ := resume (binder.getD []) rfl run
    exact ⟨settled, fun start _ all => written start all⟩
  · obtain ⟨settled, written⟩ := resume (binder.getD []) rfl run
    exact ⟨settled, fun start _ all => written start all⟩
  · obtain ⟨settled, written⟩ := resume [] alone run
    exact ⟨settled, fun start none _ => written start none⟩

instance (sums : Bool) : Faithful source (grammar.namedType none sums) :=
  ⟨fun legible before _ _ run settled => by
    obtain ⟨settled, renders⟩ := grammar.namedType_renders legible run settled
    obtain ⟨new, written, renders⟩ := renders before.rest (.refl _) (.refl _)
    exact ⟨new, settled, written, renders⟩⟩

instance (sums : Bool) : Faithful source (grammar.boundType sums) := by
  refine ⟨fun legible before answer after run settled => ?_⟩
  unfold boundType at run
  obtain ⟨⟨_, binder⟩, middle, kept, run⟩ := run_bind_eq_ok.1 run
  dsimp only at run
  rw [rest_bind] at run
  split_ifs at run with function named
  · have resumes : Resumes source binder (write binder >>= fun _ => grammar.functionType >>= fun _ =>
      pure TypeForm.other) := inferInstance
    obtain ⟨left, written⟩ := resumes.resumes legible _ _ _ run settled
    obtain ⟨settled, same, renders⟩ := captured_renders legible kept left
    obtain ⟨new, written, renders⟩ := written _ renders
    exact ⟨new, settled, written.trans (by rw [same]), renders⟩
  · obtain ⟨left, written⟩ := grammar.namedType_renders legible run settled
    obtain ⟨settled, same, renders⟩ := captured_renders legible kept left
    have begun : anyIdentifierNext before.rest = true := by
      obtain ⟨_, read, -⟩ := captured_eq_ok kept
      obtain ⟨_, _, first, -⟩ := run_bind_eq_ok.1 read
      have next := word_eq_ok first
      exact anyIdentifierNext_of_word next
    have omitted := renders.leaveOut (before.legible legible) begun (anyIdentifierNext_of_segment named)
    obtain ⟨new, written, renders⟩ := written _ omitted renders
    exact ⟨new, settled, written.trans (by rw [same]), renders⟩
  · cases run

instance (sums : Bool) : Faithful source (grammar.typeBody sums) := by
  dsimp only [typeBody]
  infer_instance

end Grammar

end StatSchema.Phrase
