/-
Steps that may stop with an error, one after the other: a sequence answers only if every step does,
and stops with the error of the first that does not.
-/
import Mathlib.Data.List.Perm.Basic

namespace StatSchema

variable {ε α β : Type}

theorem ok_bind {a : α} {f : α → Except ε β} : Except.ok a >>= f = f a := rfl

theorem error_bind {error : ε} {f : α → Except ε β} :
    (Except.error error >>= f : Except ε β) = .error error := rfl

theorem bind_eq_ok {x : Except ε α} {f : α → Except ε β} {b : β} :
    x >>= f = .ok b ↔ ∃ a, x = .ok a ∧ f a = .ok b := by
  constructor
  · intro h
    cases x with
    | error error => cases h
    | ok a => exact ⟨a, rfl, h⟩
  · rintro ⟨a, rfl, h⟩
    exact h

/-- A sequence of steps with a state answers as its second step does on what the first one leaves. -/
theorem run_bind_eq_ok {σ : Type} {first : StateT σ (Except ε) α} {next : α → StateT σ (Except ε) β}
    {before after : σ} {answer : β} :
    (first >>= next) before = .ok (answer, after) ↔
      ∃ value between, first before = .ok (value, between) ∧
        next value between = .ok (answer, after) := by
  constructor
  · intro h
    obtain ⟨⟨value, between⟩, ran, h⟩ := bind_eq_ok.1 h
    exact ⟨value, between, ran, h⟩
  · rintro ⟨value, between, ran, h⟩
    exact bind_eq_ok.2 ⟨(value, between), ran, h⟩

theorem eq_ok_of_toOption {x : Except ε α} {a : α} (h : x.toOption = some a) : x = .ok a := by
  cases x with
  | error failure => cases h
  | ok b =>
    cases h
    rfl

theorem exists_of_isOk {x : Except ε α} (h : x.isOk = true) : ∃ a, x = .ok a := by
  cases x with
  | error error => cases h
  | ok a => exact ⟨a, rfl⟩

/-- If each element of a list is answered soundly or refused for a fault, so is the list. -/
theorem mapM_spec {f : α → Except ε β} {l : List α} {Sound : α → β → Prop} {Fault : ε → Prop}
    (single : ∀ a ∈ l, (∃ b, f a = .ok b ∧ Sound a b) ∨ ∃ error, f a = .error error ∧ Fault error) :
    (∃ answers, l.mapM f = .ok answers ∧ List.Forall₂ Sound l answers) ∨
    ∃ error, l.mapM f = .error error ∧ Fault error := by
  induction l with
  | nil => exact .inl ⟨[], rfl, .nil⟩
  | cons a rest ih =>
    rw [List.mapM_cons]
    rcases single a List.mem_cons_self with ⟨b, answered, sound⟩ | ⟨error, stopped, fault⟩
    · rw [answered]
      rcases ih fun a' later => single a' (List.mem_cons_of_mem _ later) with
        ⟨answers, ran, all⟩ | ⟨error, ran, fault⟩
      · exact .inl ⟨b :: answers, by rw [ran]; rfl, .cons sound all⟩
      · exact .inr ⟨error, by rw [ran]; rfl, fault⟩
    · rw [stopped]
      exact .inr ⟨error, rfl, fault⟩

theorem mapM_eq_ok_map {f : α → Except ε β} {g : α → β} {l : List α}
    (each : ∀ a ∈ l, f a = .ok (g a)) : l.mapM f = .ok (l.map g) := by
  induction l with
  | nil => rfl
  | cons a rest ih =>
    rw [List.mapM_cons, each a List.mem_cons_self,
      ih fun other later => each other (List.mem_cons_of_mem _ later)]
    rfl

theorem forall₂_of_mapM {f : α → Except ε β} {l : List α} {answers : List β}
    (h : l.mapM f = .ok answers) : List.Forall₂ (fun a b => f a = .ok b) l answers := by
  have single : ∀ a ∈ l, (∃ b, f a = .ok b ∧ f a = .ok b) ∨
      ∃ error, f a = .error error ∧ True := by
    intro a _
    cases answer : f a with
    | ok b => exact .inl ⟨b, rfl, rfl⟩
    | error error => exact .inr ⟨error, rfl, trivial⟩
  rcases mapM_spec single with ⟨answers', ran, all⟩ | ⟨error, ran, -⟩
  · rw [h] at ran
    cases ran
    exact all
  · rw [h] at ran
    cases ran

theorem mapM_eq_ok_iff {f : α → Except ε β} {l : List α} {answers : List β} :
    l.mapM f = .ok answers ↔ List.Forall₂ (fun a b => f a = .ok b) l answers := by
  constructor
  · exact forall₂_of_mapM
  · intro each
    induction each with
    | nil => rfl
    | cons first _ ih =>
      rw [List.mapM_cons, first, ih]
      rfl

/-- A sequence of steps that all answer. -/
theorem exists_mapM {f : α → Except ε β} {l : List α} (each : ∀ a ∈ l, ∃ b, f a = .ok b) :
    ∃ answers, l.mapM f = .ok answers := by
  have single : ∀ a ∈ l, (∃ b, f a = .ok b ∧ True) ∨ ∃ error, f a = .error error ∧ False :=
    fun a here => .inl ((each a here).imp fun _ given => ⟨given, trivial⟩)
  rcases mapM_spec single with ⟨answers, ran, -⟩ | ⟨_, _, impossible⟩
  · exact ⟨answers, ran⟩
  · exact impossible.elim

theorem map_eq_of_forall₂ {f : β → α} {l : List α} {answers : List β}
    (h : List.Forall₂ (fun a b => f b = a) l answers) : answers.map f = l := by
  induction h with
  | nil => rfl
  | cons same _ ih => rw [List.map_cons, same, ih]

theorem exists_mem_of_forall₂ {R : α → β → Prop} {l : List α} {answers : List β}
    (h : List.Forall₂ R l answers) : ∀ b ∈ answers, ∃ a ∈ l, R a b := by
  induction h with
  | nil => simp
  | cons first _ ih =>
    intro b here
    rcases List.mem_cons.1 here with rfl | later
    · exact ⟨_, List.mem_cons_self, first⟩
    · obtain ⟨a, there, related⟩ := ih b later
      exact ⟨a, List.mem_cons_of_mem _ there, related⟩

theorem forall_mem_of_forall₂ {P : β → Prop} {l : List α} {answers : List β}
    (h : List.Forall₂ (fun _ b => P b) l answers) : ∀ b ∈ answers, P b := by
  intro b here
  obtain ⟨-, -, holds⟩ := exists_mem_of_forall₂ h b here
  exact holds

/-- In another order the steps give the same answers, in that order. -/
theorem mapM_eq_ok_of_perm {f : α → Except ε β} {l l' : List α} (perm : l.Perm l')
    {answers : List β} (h : l.mapM f = .ok answers) :
    ∃ answers', l'.mapM f = .ok answers' ∧ answers.Perm answers' := by
  have given : Relation.Comp List.Perm (List.Forall₂ fun a b => f a = .ok b) l' answers :=
    ⟨l, perm.symm, mapM_eq_ok_iff.1 h⟩
  rw [← List.forall₂_comp_perm_eq_perm_comp_forall₂] at given
  obtain ⟨answers', all, perm'⟩ := given
  exact ⟨answers', mapM_eq_ok_iff.2 all, perm'.symm⟩

/-- Some of the steps give some of the answers. -/
theorem mapM_subset {f f' : α → Except ε β} {l l' : List α} {answers answers' : List β}
    (h : l.mapM f = .ok answers) (h' : l'.mapM f' = .ok answers') (within : l ⊆ l')
    (same : ∀ a ∈ l, f' a = f a) : answers ⊆ answers' := by
  intro b here
  obtain ⟨a, step, given⟩ := exists_mem_of_forall₂ (mapM_eq_ok_iff.1 h) b here
  obtain ⟨b', there, given'⟩ := exists_mem_of_forall₂ (mapM_eq_ok_iff.1 h').flip a (within step)
  rw [same a step, given] at given'
  cases given'
  exact there

end StatSchema
