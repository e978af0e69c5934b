/-
Readers of paths are faithful if those of the constructs inside are. Empty arguments may be taken back
for others in parentheses, so that a path is followed by what has been written since it began.
-/
import StatSchema.Proofs.Printing.Arguments

namespace StatSchema.Phrase

open Token Lookahead

variable {source : List Placed}

/-! ## Segments -/

/-- How many of the tokens that were written last may be taken back for other arguments. -/
def ArgumentsForm.spare : ArgumentsForm → Option Nat
  | .none => some 0
  | .empty length => some length
  | .angled => .none
  | .parenthesized => .none

theorem PathForm.exists_spare {form : PathForm} (opened : form.isOpen = true) :
    ∃ n, form.last.spare = some n := by
  unfold PathForm.isOpen at opened
  split at opened
  · rename_i same
    exact ⟨0, by rw [same]; rfl⟩
  · rename_i length same
    exact ⟨length, by rw [same]; rfl⟩
  · cases opened

/-- What is written for a path: nothing need follow it once its spare tokens are taken back. -/
def Ready (form : ArgumentsForm) (new : List Token) : Prop :=
  ∀ n, form.spare = some n →
    ∃ front dropped, new = front ++ dropped ∧ dropped.length = n ∧ front ≠ [] ∧ Settled none front

theorem FirmAt.ready {before after : Progress source} {reader : Reader source Unit}
    (firm : FirmAt before reader) (run : reader before = .ok ((), after)) (settled : after.leftover = none) :
    ∃ new, Advances before after new ∧ Ready .none new ∧ Settled none new ∧ new ≠ [] := by
  obtain ⟨new, advances, some_new, chain⟩ := firm _ _ run settled
  have alone : Settled none new :=
    ⟨advances.renders.settled.closed, advances.renders.settled.lexable, chain⟩
  refine ⟨new, advances, fun n spare => ?_, alone, some_new⟩
  cases spare
  exact ⟨new, [], by simp, rfl, some_new, alone⟩

theorem Ready.prepend {form : ArgumentsForm} {start middle stop : List Placed} {new more : List Token}
    (first : Renders start new middle) (second : Renders middle more stop) (ready : Ready form more) :
    Ready form (new ++ more) := by
  intro n spare
  obtain ⟨front, dropped, rfl, counted, some_front, settled⟩ := ready n spare
  obtain ⟨t, rest, rfl⟩ := List.exists_cons_of_ne_nil some_front
  refine ⟨new ++ t :: rest, dropped, by simp, counted, by simp, ?_⟩
  exact .append (first.settled.imp second.leads) settled

namespace Grammar

variable (grammar : Grammar) [grammar.Sound]

theorem arguments_advances (legible : Legible source) {before after : Progress source}
    {form : ArgumentsForm} (run : grammar.arguments before = .ok (form, after))
    (settled : after.leftover = none) :
    ∃ new, Advances before after new ∧ ∀ n, form.spare = some n → new.length = n := by
  unfold arguments at run
  obtain ⟨marked, opened, mark, run⟩ := run_bind_eq_ok.1 run
  obtain ⟨_, behind, first, run⟩ := run_bind_eq_ok.1 run
  obtain ⟨entries, last, read, run⟩ := run_bind_eq_ok.1 run
  obtain ⟨_, arranged', written, run⟩ := run_bind_eq_ok.1 run
  obtain ⟨_, _, close, run⟩ := run_bind_eq_ok.1 run
  cases run
  have angled := advances_angled legible (grammar.tellsLifetimes_argument legible) first read written close
    settled
  refine ⟨_, (optionalSign_eq_ok mark angled.settled).trans angled, fun n spare => ?_⟩
  cases entries with
  | nil => cases marked <;> cases spare <;> rfl
  | cons _ _ => cases spare

end Grammar

namespace Grammar

variable (grammar : Grammar) [grammar.Sound]

instance : Faithful source grammar.arguments :=
  ⟨fun legible _ _ _ run settled =>
    have ⟨new, advances, _⟩ := grammar.arguments_advances legible run settled
    ⟨new, advances⟩⟩

theorem segment_ready (legible : Legible source) {inExpression : Bool} {before after : Progress source}
    {form : ArgumentsForm} (run : grammar.segment inExpression before = .ok (form, after))
    (settled : after.leftover = none) : ∃ new, Advances before after new ∧ Ready form new := by
  have named {reader : Reader source Unit} (firm : FirmAt before reader)
      (run : (reader >>= fun _ => rest >>= fun tokens =>
        if argumentsNext inExpression tokens = true then grammar.arguments else pure .none) before =
          .ok (form, after)) : ∃ new, Advances before after new ∧ Ready form new := by
    obtain ⟨_, middle, first, run⟩ := run_bind_eq_ok.1 run
    rw [rest_bind] at run
    split_ifs at run
    · obtain ⟨more, arguments, counted⟩ := grammar.arguments_advances legible run settled
      obtain ⟨new, advances, -, alone, some_new⟩ := firm.ready first arguments.settled
      exact ⟨_, advances.trans arguments, fun n spare => ⟨new, more, rfl, counted n spare, some_new, alone⟩⟩
    · cases run
      obtain ⟨new, advances, ready, -⟩ := firm.ready first settled
      exact ⟨new, advances, ready⟩
  unfold segment at run
  rw [rest_bind] at run
  dsimp only at run
  split_ifs at run with word own
  · obtain ⟨_, _, first, run⟩ := run_bind_eq_ok.1 run
    cases run
    obtain ⟨new, advances, ready, -⟩ := (FirmAt.copy legible (anyIdentifierNext_of_words word)).ready first settled
    exact ⟨new, advances, ready⟩
  · exact named (.copy legible (anyIdentifierNext_of_word own)) run
  · exact named (.identifier legible) run

end Grammar

/-! ## Paths -/

/-- What is written since a path began, which is ready for other arguments than its last ones. -/
def Built (base now : Progress source) (form : ArgumentsForm) : Prop :=
  ∃ new, now.written = new.reverse ++ base.written ∧ Renders base.rest new now.rest ∧ Ready form new

/-- Between two places nothing was left over, and a path was gone on with. -/
structure Extends (before after : Progress source) (form form' : ArgumentsForm) : Prop where
  settled : before.leftover = none
  built : ∀ base, Built base before form → Built base after form'

theorem Built.of_ready {before after : Progress source} {form : ArgumentsForm} {new : List Token}
    (advances : Advances before after new) (ready : Ready form new) : Built before after form :=
  ⟨new, advances.written, advances.renders, ready⟩

theorem Built.advances {before after : Progress source} {form : ArgumentsForm} (settled : before.leftover = none)
    (built : Built before after form) : ∃ new, Advances before after new := by
  obtain ⟨new, written, renders, -⟩ := built
  exact ⟨new, settled, written, renders⟩

/-- A reader that writes a path. -/
class Builds (source : List Placed) (reader : Reader source PathForm) : Prop where
  builds : Legible source → ∀ before after form, reader before = .ok (form, after) →
    after.leftover = none → before.leftover = none ∧ Built before after form.last

instance (reader : Reader source PathForm) [path : Builds source reader] : Faithful source reader :=
  ⟨fun legible before _ _ run settled =>
    have ⟨settled, built⟩ := path.builds legible before _ _ run settled
    built.advances settled⟩

instance {α : Type} {first : Reader source α} {next : α → Reader source PathForm} [head : Faithful source first]
    [tail : ∀ a, Builds source (next a)] : Builds source (first >>= next) :=
  ⟨fun legible before after form run settled => by
    obtain ⟨a, middle, head', run⟩ := run_bind_eq_ok.1 run
    obtain ⟨settled, more, written, renders, ready⟩ := (tail a).builds legible _ _ _ run settled
    obtain ⟨new, advances⟩ := head.faithful legible before _ _ head' settled
    refine ⟨advances.settled, .of_ready (advances.trans ⟨settled, written, renders⟩) ?_⟩
    exact ready.prepend advances.renders renders⟩

instance (condition : Prop) [Decidable condition] {first second : Reader source PathForm}
    [Builds source first] [Builds source second] :
    Builds source (if condition then first else second) := by
  split <;> infer_instance

namespace Extends

variable {before middle after : Progress source} {form form' form'' : ArgumentsForm}

theorem refl (settled : before.leftover = none) (form : ArgumentsForm) : Extends before before form form :=
  ⟨settled, fun _ built => built⟩

theorem trans (first : Extends before middle form form') (second : Extends middle after form' form'') :
    Extends before after form form'' :=
  ⟨first.settled, fun base built => second.built base (first.built base built)⟩

/-- More of a path is written behind what there is. -/
theorem of_ready {new : List Token} (advances : Advances before after new) (ready : Ready form' new) :
    Extends before after form form' := by
  refine ⟨advances.settled, fun base built => ?_⟩
  obtain ⟨front, written, renders, -⟩ := built
  refine ⟨front ++ new, ?_, renders.trans advances.renders, ready.prepend renders advances.renders⟩
  rw [advances.written, written, List.reverse_append, List.append_assoc]

end Extends

namespace Grammar

variable (grammar : Grammar) [grammar.Sound]

theorem furtherSegments_extends (legible : Legible source) {inExpression : Bool}
    {joins : List Placed → Bool} (bound : Nat) {form form' : PathForm} {before after : Progress source}
    (run : grammar.furtherSegments inExpression joins bound form before = .ok (form', after))
    (settled : after.leftover = none) : Extends before after form.last form'.last := by
  induction bound generalizing form before with
  | zero =>
    cases run
    exact .refl settled _
  | succ bound ih =>
    unfold furtherSegments at run
    rw [rest_bind] at run
    split_ifs at run
    · obtain ⟨_, middle, first, run⟩ := run_bind_eq_ok.1 run
      obtain ⟨arguments, last, second, run⟩ := run_bind_eq_ok.1 run
      have later := ih run
      obtain ⟨more, segment, ready⟩ := grammar.segment_ready legible second later.settled
      have join := (sign_eq_ok first segment.settled).2
      exact .trans (.of_ready (join.trans segment) (ready.prepend join.renders segment.renders)) later
    · cases run
      exact .refl settled _

theorem builds_segments (inExpression : Bool) (joins : List Placed → Bool) (bound : Nat)
    (begun : ArgumentsForm → PathForm) (last : ∀ arguments, (begun arguments).last = arguments) :
    Builds source (grammar.segment inExpression >>= fun arguments =>
      grammar.furtherSegments inExpression joins bound (begun arguments)) :=
  ⟨fun legible before after form run settled => by
    obtain ⟨arguments, middle, first, run⟩ := run_bind_eq_ok.1 run
    have further := grammar.furtherSegments_extends legible _ run settled
    obtain ⟨new, segment, ready⟩ := grammar.segment_ready legible first further.settled
    refine ⟨segment.settled, further.built _ (.of_ready segment ?_)⟩
    rwa [last]⟩

instance (inExpression : Bool) : Builds source (grammar.path inExpression) := by
  have segments (rooted : Bool) : Builds source _ := grammar.builds_segments inExpression joinNext grammar.size
    (fun arguments => { PathForm.ofSegment arguments with rooted }) fun _ => rfl
  dsimp only [path]
  infer_instance

set_option synthInstance.maxSize 1000 in
instance (inExpression : Bool) : Builds source (grammar.anyPath inExpression) := by
  have segments : Builds source _ := grammar.builds_segments inExpression (signNext "::") grammar.size
    (fun arguments => { PathForm.ofSegment arguments with qualified := true }) fun _ => rfl
  dsimp only [anyPath]
  infer_instance

instance : Faithful source grammar.result := by
  dsimp only [result]
  infer_instance

end Grammar

/-! ## Arguments in parentheses -/

namespace Grammar

variable (grammar : Grammar) [grammar.Sound]

theorem parenthesizedArguments_extends (legible : Legible source) {form : PathForm}
    (opened : form.isOpen = true) {extensible : Bool} {before after : Progress source}
    (run : grammar.parenthesizedArguments form before = .ok (extensible, after))
    (settled : after.leftover = none) : Extends before after form.last .parenthesized := by
  obtain ⟨n, spare⟩ := PathForm.exists_spare opened
  -- the spare tokens are taken back before anything is read
  obtain ⟨start, same, leftover, written, run⟩ : ∃ start : Progress source, start.rest = before.rest ∧
      start.leftover = before.leftover ∧ start.written = before.written.drop n ∧
      (captured (optionalSign "::") >>= fun _ =>
        groupThen .parenthesis (grammar.list grammar.anyType) fun _ => grammar.result) start =
          .ok (extensible, after) := by
    cases same : form.last with
    | none =>
      rw [same] at spare
      cases spare
      simp only [parenthesizedArguments, same] at run
      exact ⟨before, rfl, rfl, rfl, run⟩
    | empty length =>
      rw [same] at spare
      cases spare
      simp only [parenthesizedArguments, same] at run
      obtain ⟨_, start, back, run⟩ := run_bind_eq_ok.1 run
      cases back
      exact ⟨{ before with written := before.written.drop n }, rfl, rfl, rfl, run⟩
    | angled =>
      rw [same] at spare
      cases spare
    | parenthesized =>
      rw [same] at spare
      cases spare
  obtain ⟨⟨_, _⟩, middle, dropped, run⟩ := run_bind_eq_ok.1 run
  obtain ⟨more, advances⟩ := Faithful.faithful legible _ _ _ run settled
  have passes := Passes.of_captured legible dropped advances.settled
  refine ⟨leftover ▸ passes.settled, fun base built => ?_⟩
  obtain ⟨new, written', renders, ready⟩ := built
  obtain ⟨front, spare', rfl, rfl, some_front, alone⟩ := ready n spare
  refine ⟨front ++ more, ?_, ?_, fun n spare => by cases spare⟩
  · rw [advances.written, passes.written, written, written']
    simp
  · have kept := renders.retract some_front alone (same ▸ passes.takes)
    exact kept.trans advances.renders

theorem furtherArguments_extends (legible : Legible source) (bound : Nat) {form form' : PathForm}
    {before after : Progress source}
    (run : grammar.furtherArguments bound form before = .ok (form', after))
    (settled : after.leftover = none) : Extends before after form.last form'.last := by
  induction bound generalizing form before with
  | zero =>
    cases run
    exact .refl settled _
  | succ bound ih =>
    unfold furtherArguments at run
    rw [rest_bind] at run
    split_ifs at run with next
    · obtain ⟨opened, -⟩ := Bool.and_eq_true_iff.1 next
      obtain ⟨extensible, middle, first, run⟩ := run_bind_eq_ok.1 run
      split_ifs at run
      · obtain ⟨form'', last, second, run⟩ := run_bind_eq_ok.1 run
        have later := ih run
        have further := grammar.furtherSegments_extends legible _ second later.settled
        exact (grammar.parenthesizedArguments_extends legible opened first further.settled).trans
          (further.trans later)
      · cases run
        exact grammar.parenthesizedArguments_extends legible opened first settled
    · cases run
      exact .refl settled _

instance : Builds source grammar.typePath :=
  ⟨fun legible before after form run settled => by
    obtain ⟨begun, middle, first, run⟩ := run_bind_eq_ok.1 run
    have further := grammar.furtherArguments_extends legible _ run settled
    obtain ⟨settled, built⟩ := Builds.builds legible _ _ _ first further.settled
    exact ⟨settled, further.built _ built⟩⟩

end Grammar

end StatSchema.Phrase
