import Mathlib.Init

/-!
# Programs with a state and exceptions

A program is a function from a state to a result or an exception, with the state it ends in; what has
been changed before an exception stays changed.  `Ends c Q E s` says how `c` ends from `s`: with a
result in `Q`, or with an exception in `E`.  The rules are equivalences, one for each construct:

    Ends (c >>= f) Q E s      ↔ Ends c (fun a => Ends (f a) Q E) E s    (ends_bind)
    Ends (tryCatch c h) Q E s ↔ Ends c Q (fun e => Ends (h e) Q E) s    (ends_tryCatch)
-/

namespace Throwing

abbrev Program (ε σ α : Type) := ExceptT ε (StateM σ) α

variable {ε σ τ α β : Type}

/-- The outcome of the program, and the state it ends in. -/
def outcome (c : Program ε σ α) (s : σ) : Except ε α × σ := c.run.run s

/-- The program ends with a result that meets `Q`, or an exception that meets `E`. -/
def Ends (c : Program ε σ α) (Q : α → σ → Prop) (E : ε → σ → Prop) (s : σ) : Prop :=
  match outcome c s with
  | (.ok a, t) => Q a t
  | (.error e, t) => E e t

/-- A program that cannot fail, from its function. -/
def act (f : σ → α × σ) : Program ε σ α := ExceptT.mk fun s => ((.ok (f s).1, (f s).2) : Except ε α × σ)

/-- A program on a part of the state. -/
def within (get : τ → σ) (set : σ → τ → τ) (c : Program ε σ α) : Program ε τ α :=
  ExceptT.mk fun t => ((outcome c (get t)).1, set (outcome c (get t)).2 t)

/-! ## Rules -/

section
variable {Q Q' : α → σ → Prop} {E E' : ε → σ → Prop} {s : σ}

theorem ends_pure {a : α} : Ends (pure a) Q E s ↔ Q a s := Iff.rfl

theorem ends_throw {e : ε} : Ends (throw e : Program ε σ α) Q E s ↔ E e s := Iff.rfl

theorem ends_act {f : σ → α × σ} : Ends (act f) Q E s ↔ Q (f s).1 (f s).2 := Iff.rfl

theorem ends_bind {c : Program ε σ β} {f : β → Program ε σ α} :
    Ends (c >>= f) Q E s ↔ Ends c (fun b => Ends (f b) Q E) E s := by
  have hbind : outcome (c >>= f) s =
      ExceptT.bindCont f (outcome c s).1 (outcome c s).2 := rfl
  unfold Ends
  rw [hbind]
  obtain ⟨x, t⟩ := outcome c s
  cases x with
  | error e => exact Iff.rfl
  | ok b => exact Iff.rfl

theorem outcome_tryCatch_ok {c : Program ε σ α} {h : ε → Program ε σ α} {a : α} {t : σ}
    (hc : outcome c s = (.ok a, t)) : outcome (tryCatch c h) s = (.ok a, t) := by
  have hrun : c s = (.ok a, t) := hc
  have hcatch : outcome (tryCatch c h) s = outcome (ExceptT.tryCatch c h) s := rfl
  rw [hcatch]
  simp only [outcome, ExceptT.tryCatch, ExceptT.run, ExceptT.mk, StateT.run, bind, StateT.bind]
  rw [hrun]
  rfl

theorem outcome_tryCatch_error {c : Program ε σ α} {h : ε → Program ε σ α} {e : ε} {t : σ}
    (hc : outcome c s = (.error e, t)) : outcome (tryCatch c h) s = outcome (h e) t := by
  have hrun : c s = (.error e, t) := hc
  have hcatch : outcome (tryCatch c h) s = outcome (ExceptT.tryCatch c h) s := rfl
  rw [hcatch]
  simp only [outcome, ExceptT.tryCatch, ExceptT.run, ExceptT.mk, StateT.run, bind, StateT.bind]
  rw [hrun]

theorem ends_tryCatch {c : Program ε σ α} {h : ε → Program ε σ α} :
    Ends (tryCatch c h) Q E s ↔ Ends c Q (fun e => Ends (h e) Q E) s := by
  rcases hc : outcome c s with ⟨x, t⟩
  cases x with
  | error e =>
    unfold Ends
    rw [outcome_tryCatch_error hc, hc]
  | ok a =>
    unfold Ends
    rw [outcome_tryCatch_ok hc, hc]

theorem ends_within {get : τ → σ} {set : σ → τ → τ} {c : Program ε σ α} {Q : α → τ → Prop}
    {E : ε → τ → Prop} {t : τ} :
    Ends (within get set c) Q E t ↔
      Ends c (fun a s => Q a (set s t)) (fun e s => E e (set s t)) (get t) := by
  have hwithin : outcome (within get set c) t =
      ((outcome c (get t)).1, set (outcome c (get t)).2 t) := rfl
  unfold Ends
  rw [hwithin]
  obtain ⟨x, s⟩ := outcome c (get t)
  cases x with
  | error e => exact Iff.rfl
  | ok a => exact Iff.rfl

theorem Ends.mono {c : Program ε σ α} (h : Ends c Q E s) (hq : ∀ a t, Q a t → Q' a t)
    (he : ∀ e t, E e t → E' e t) : Ends c Q' E' s := by
  unfold Ends at h ⊢
  generalize outcome c s = r at h ⊢
  obtain ⟨x, t⟩ := r
  cases x with
  | error e => exact he e t h
  | ok a => exact hq a t h

/-- A program has one outcome. -/
theorem Ends.contradiction {c : Program ε σ α} (h : Ends c Q E s) (h' : Ends c Q' E' s)
    (hq : ∀ a t, Q a t → ¬ Q' a t) (he : ∀ e t, E e t → ¬ E' e t) : False := by
  unfold Ends at h h'
  generalize outcome c s = r at h h'
  obtain ⟨x, t⟩ := r
  cases x with
  | error e => exact he e t h h'
  | ok a => exact hq a t h h'

end

/-! ## Loops -/

/-- A loop over a list. -/
def forEach (body : β → Program ε σ Unit) : List β → Program ε σ Unit
  | [] => pure ()
  | b :: bs => do
    body b
    forEach body bs

/-- **Loop rule.**  An invariant of the body is one of the loop. -/
theorem ends_forEach {body : β → Program ε σ Unit} {I : σ → Prop} {E : ε → σ → Prop} {bs : List β}
    (hbody : ∀ b ∈ bs, ∀ s, I s → Ends (body b) (fun _ => I) E s) {s : σ} (hs : I s) :
    Ends (forEach body bs) (fun _ => I) E s := by
  induction bs generalizing s with
  | nil => exact hs
  | cons b bs ih =>
    unfold forEach
    rw [ends_bind]
    rw [List.forall_mem_cons] at hbody
    exact (hbody.1 s hs).mono (fun _ t ht => ih hbody.2 ht) (fun e t he => he)

end Throwing
