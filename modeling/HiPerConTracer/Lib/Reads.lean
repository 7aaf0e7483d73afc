import Mathlib.Control.Monad.Basic

/-!
# Readers and the forms they accept

A reader takes elements from the front of a list, or fails.  It accepts a form, which relates values to
lists, if it reads a value exactly from the lists of that form, whatever follows

    Accepts m form ↔ ∀ s a s', m s = some (a, s') ↔ ∃ l, form a l ∧ s = l ++ s'

so that the form of a sequence of readers is the sequence of their forms (`Accepts.bind`).
-/

namespace Reads
variable {β α γ : Type}

/-- The reader reads a value from the lists of its form, and leaves what follows. -/
def Accepts (m : StateT (List β) Option α) (form : α → List β → Prop) : Prop :=
  ∀ s a s', m s = some (a, s') ↔ ∃ l, form a l ∧ s = l ++ s'

/-- One form after the other, which depends on the value of the first one. -/
def Followed (form : α → List β → Prop) (next : α → γ → List β → Prop) (c : γ) (l : List β) : Prop :=
  ∃ a l₁ l₂, form a l₁ ∧ next a c l₂ ∧ l = l₁ ++ l₂

namespace Accepts
variable {m m' : StateT (List β) Option α} {form form' : α → List β → Prop}

theorem congr (h : Accepts m form) (hform : ∀ a l, form a l ↔ form' a l) : Accepts m form' := by
  intro s a s'
  rw [h s a s']
  exact exists_congr fun l => and_congr_left fun _ => hform a l

theorem pure (a : α) : Accepts (Pure.pure a : StateT (List β) Option α) fun x l => x = a ∧ l = [] := by
  intro s x s'
  constructor
  · intro h
    cases h
    exact ⟨[], ⟨rfl, rfl⟩, rfl⟩
  · rintro ⟨l, ⟨rfl, rfl⟩, rfl⟩
    rfl

theorem failure : Accepts (failure : StateT (List β) Option α) fun _ _ => False := by
  intro s a s'
  constructor
  · intro h
    cases h
  · rintro ⟨l, h, -⟩
    exact h.elim

theorem bind (h : Accepts m form) {f : α → StateT (List β) Option γ} {next : α → γ → List β → Prop}
    (hf : ∀ a, Accepts (f a) (next a)) : Accepts (m >>= f) (Followed form next) := by
  intro s c s'
  constructor
  · intro hread
    obtain ⟨⟨a, s₁⟩, hm, hnext⟩ := Option.bind_eq_some_iff.mp hread
    obtain ⟨l₁, h₁, rfl⟩ := (h s a s₁).mp hm
    obtain ⟨l₂, h₂, rfl⟩ := (hf a s₁ c s').mp hnext
    exact ⟨l₁ ++ l₂, ⟨a, l₁, l₂, h₁, h₂, rfl⟩, (List.append_assoc ..).symm⟩
  · rintro ⟨l, ⟨a, l₁, l₂, h₁, h₂, rfl⟩, rfl⟩
    have hm := (h (l₁ ++ (l₂ ++ s')) a (l₂ ++ s')).mpr ⟨l₁, h₁, rfl⟩
    have hnext := (hf a (l₂ ++ s') c s').mpr ⟨l₂, h₂, rfl⟩
    exact Option.bind_eq_some_iff.mpr ⟨(a, l₂ ++ s'), by rw [List.append_assoc]; exact hm, hnext⟩

theorem ite {c : Prop} [Decidable c] (h : Accepts m form) (h' : Accepts m' form') :
    Accepts (if c then m else m') fun a l => c ∧ form a l ∨ ¬c ∧ form' a l := by
  by_cases hc : c
  · rw [if_pos hc]
    exact h.congr fun a l => by simp [hc]
  · rw [if_neg hc]
    exact h'.congr fun a l => by simp [hc]

/-- Anything else fails. -/
theorem guarded {c : Prop} [Decidable c] (h : Accepts m form) :
    Accepts (if c then m else Alternative.failure) fun a l => c ∧ form a l :=
  (h.ite failure).congr fun a l => by simp

/-- A value that is checked behind its reading. -/
theorem checked {P : α → Prop} [DecidablePred P] (h : Accepts m form) :
    Accepts (m >>= fun a => if P a then Pure.pure a else Alternative.failure) fun a l => P a ∧ form a l := by
  refine (h.bind fun a => (Accepts.pure a).guarded (c := P a)).congr fun a l => ?_
  constructor
  · rintro ⟨x, l₁, l₂, hx, ⟨hP, rfl, rfl⟩, rfl⟩
    rw [List.append_nil]
    exact ⟨hP, hx⟩
  · rintro ⟨hP, hl⟩
    exact ⟨a, l, [], hl, ⟨hP, rfl, rfl⟩, (List.append_nil l).symm⟩

/-- A value that is read, whatever follows. -/
theorem run_iff (h : Accepts m form) (s : List β) (a : α) :
    m.run' s = some a ↔ ∃ l rest, form a l ∧ s = l ++ rest := by
  have hrun : m.run' s = (m s).map Prod.fst := rfl
  rw [hrun, Option.map_eq_some_iff]
  constructor
  · rintro ⟨⟨x, s'⟩, hread, rfl⟩
    obtain ⟨l, hl, hs⟩ := (h s x s').mp hread
    exact ⟨l, s', hl, hs⟩
  · rintro ⟨l, rest, hl, hs⟩
    exact ⟨(a, rest), (h s a rest).mpr ⟨l, hl, hs⟩, rfl⟩

end Accepts

end Reads
