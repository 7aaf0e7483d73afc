import Mathlib.Logic.Function.Iterate
import Mathlib.Data.List.Basic

/-!
# Runs of a step function that can fail

`exec step s as` carries out the actions `as` one after the other from `s` and stops at the first
error.  A state property is carried over a whole run from what one step does with it:

    (∀ step keeps P) → P s → exec step s as = .ok t → P t                     (exec_invariant)
    (∀ step succeeds and keeps P) → P s → ∃ t, exec step s as = .ok t ∧ P t   (exec_total)

`Meets step C s as` restricts a run to the steps that meet a condition `C` on the state before the
step and the action taken there.
-/

namespace Run

variable {σ α ε : Type}

/-- The state after the actions, or the error of the first action that fails. -/
def exec (step : σ → α → Except ε σ) : σ → List α → Except ε σ
  | s, [] => .ok s
  | s, a :: as =>
    match step s a with
    | .error e => .error e
    | .ok t => exec step t as

/-- Every step that the run takes meets `C` in the state before it. -/
def Meets (step : σ → α → Except ε σ) (C : σ → α → Prop) : σ → List α → Prop
  | _, [] => True
  | s, a :: as => C s a ∧ ∀ t, step s a = .ok t → Meets step C t as

theorem exists_of_isOk {r : Except ε σ} (h : r.isOk = true) : ∃ s, r = .ok s := by
  cases r with
  | error e => cases h
  | ok s => exact ⟨s, rfl⟩

/-- The run has reached its end, in a state that passes a test. -/
def passes (test : σ → Bool) : Except ε σ → Bool
  | .ok s => test s
  | .error _ => false

theorem exists_of_passes {r : Except ε σ} {test : σ → Bool} (h : passes test r = true) :
    ∃ s, r = .ok s ∧ test s = true := by
  cases r with
  | error e => cases h
  | ok s => exact ⟨s, rfl, h⟩

theorem meets_true (step : σ → α → Except ε σ) (s : σ) (as : List α) :
    Meets step (fun _ _ => True) s as := by
  induction as generalizing s with
  | nil => trivial
  | cons a as ih => exact ⟨trivial, fun t _ => ih t⟩

/-- A condition on the actions alone. -/
theorem meets_of_forall (step : σ → α → Except ε σ) {C : σ → α → Prop} {as : List α}
    (h : ∀ a ∈ as, ∀ s, C s a) (s : σ) : Meets step C s as := by
  induction as generalizing s with
  | nil => trivial
  | cons a as ih =>
    exact ⟨h a List.mem_cons_self s, fun t _ => ih (fun b hb => h b (List.mem_cons_of_mem _ hb)) t⟩

/-- A test of every step, up to the first one that fails. -/
def checks (step : σ → α → Except ε σ) (test : σ → α → Bool) : σ → List α → Bool
  | _, [] => true
  | s, a :: as =>
    test s a &&
      match step s a with
      | .error _ => true
      | .ok t => checks step test t as

theorem meets_of_checks {step : σ → α → Except ε σ} {test : σ → α → Bool} {C : σ → α → Prop}
    (htest : ∀ s a, test s a = true → C s a) {s : σ} {as : List α}
    (h : checks step test s as = true) : Meets step C s as := by
  induction as generalizing s with
  | nil => trivial
  | cons a as ih =>
    unfold checks at h
    obtain ⟨hfirst, hrest⟩ := (Bool.and_eq_true _ _).mp h
    refine ⟨htest s a hfirst, fun t ht => ih ?_⟩
    rw [ht] at hrest
    exact hrest

theorem Meets.mono {step : σ → α → Except ε σ} {C D : σ → α → Prop} (h : ∀ s a, C s a → D s a)
    {s : σ} {as : List α} (hc : Meets step C s as) : Meets step D s as := by
  induction as generalizing s with
  | nil => trivial
  | cons a as ih => exact ⟨h s a hc.1, fun t ht => ih (hc.2 t ht)⟩

/-- A run that reaches its end has taken its first step. -/
theorem exec_cons_ok {step : σ → α → Except ε σ} {s t : σ} {a : α} {as : List α}
    (h : exec step s (a :: as) = .ok t) : ∃ u, step s a = .ok u ∧ exec step u as = .ok t := by
  unfold exec at h
  cases hstep : step s a with
  | error e =>
    rw [hstep] at h
    cases h
  | ok u =>
    rw [hstep] at h
    exact ⟨u, rfl, h⟩

theorem exec_append (step : σ → α → Except ε σ) (s t : σ) (as bs : List α)
    (h : exec step s as = .ok t) : exec step s (as ++ bs) = exec step t bs := by
  induction as generalizing s with
  | nil => cases h; rfl
  | cons a as ih =>
    simp only [exec, List.cons_append] at h ⊢
    cases hs : step s a with
    | error e => rw [hs] at h; cases h
    | ok u => rw [hs] at h; exact ih u h

/-- **Invariant rule.**  What every step of the run keeps holds at its end. -/
theorem exec_invariant {step : σ → α → Except ε σ} {C : σ → α → Prop} {P : σ → Prop}
    (hstep : ∀ s a t, P s → C s a → step s a = .ok t → P t) {s t : σ} {as : List α}
    (hs : P s) (hc : Meets step C s as) (h : exec step s as = .ok t) : P t := by
  induction as generalizing s with
  | nil => cases h; exact hs
  | cons a as ih =>
    simp only [exec] at h
    cases he : step s a with
    | error e => rw [he] at h; cases h
    | ok u =>
      rw [he] at h
      exact ih (hstep s a u hs hc.1 he) (hc.2 u he) h

/-- A run that fails does so at a step from a state with the invariant. -/
theorem exec_error {step : σ → α → Except ε σ} {C : σ → α → Prop} {P : σ → Prop}
    (hstep : ∀ s a t, P s → C s a → step s a = .ok t → P t) {s : σ} {as : List α} {e : ε}
    (hs : P s) (hc : Meets step C s as) (h : exec step s as = .error e) :
    ∃ t a, P t ∧ C t a ∧ step t a = .error e := by
  induction as generalizing s with
  | nil => cases h
  | cons a as ih =>
    simp only [exec] at h
    cases he : step s a with
    | error e' =>
      rw [he] at h
      cases h
      exact ⟨s, a, hs, hc.1, he⟩
    | ok u =>
      rw [he] at h
      exact ih (hstep s a u hs hc.1 he) (hc.2 u he) h

/-- **Progress rule.**  If every step succeeds and keeps `P`, the run reaches its end. -/
theorem exec_total {step : σ → α → Except ε σ} {C : σ → α → Prop} {P : σ → Prop}
    (hstep : ∀ s a, P s → C s a → ∃ t, step s a = .ok t ∧ P t) {s : σ} {as : List α}
    (hs : P s) (hc : Meets step C s as) : ∃ t, exec step s as = .ok t ∧ P t := by
  induction as generalizing s with
  | nil => exact ⟨s, rfl, hs⟩
  | cons a as ih =>
    obtain ⟨u, hu, hPu⟩ := hstep s a hs hc.1
    obtain ⟨t, ht, hPt⟩ := ih hPu (hc.2 u hu)
    exact ⟨t, by simp only [exec, hu, ht], hPt⟩

/-- If every step outside of `C` leads to `Q`, and no step out of `Q`, a run that does not end in `Q`
meets `C`. -/
theorem meets_of_exec {step : σ → α → Except ε σ} {C : σ → α → Prop} {Q : σ → Prop}
    (hkeep : ∀ s a t, Q s → step s a = .ok t → Q t)
    (hbreach : ∀ s a t, ¬ C s a → step s a = .ok t → Q t) {s t : σ} {as : List α}
    (h : exec step s as = .ok t) (hno : ¬ Q t) : Meets step C s as := by
  induction as generalizing s with
  | nil => trivial
  | cons a as ih =>
    simp only [exec] at h
    cases he : step s a with
    | error e => rw [he] at h; cases h
    | ok u =>
      rw [he] at h
      refine ⟨?_, fun v hv => ?_⟩
      · by_contra hc
        apply hno
        exact exec_invariant (fun s a t hq _ ht => hkeep s a t hq ht) (hbreach s a u hc he)
          (meets_true step u as) h
      · obtain rfl := Except.ok.inj (he.symm.trans hv)
        exact ih h

/-- **State rule.**  If a step from a state with `P` leads to one with `P` exactly if it meets `C`,
then all states that the run passes have `P` exactly if the run meets `C`. -/
theorem meets_iff_states {step : σ → α → Except ε σ} {C : σ → α → Prop} {I P : σ → Prop}
    (hkeep : ∀ s a t, I s → step s a = .ok t → I t)
    (hiff : ∀ s a t, I s → P s → step s a = .ok t → (P t ↔ C s a)) {s t : σ} {as : List α}
    (hi : I s) (hp : P s) (h : exec step s as = .ok t) :
    (∀ before u, before <+: as → exec step s before = .ok u → P u) ↔ Meets step C s as := by
  induction as generalizing s with
  | nil =>
    refine ⟨fun _ => trivial, fun _ before u hbefore hu => ?_⟩
    obtain rfl := List.prefix_nil.mp hbefore
    cases hu
    exact hp
  | cons a as ih =>
    obtain ⟨v, hv, hrest⟩ := exec_cons_ok h
    have hcons : ∀ before, exec step s (a :: before) = exec step v before := fun before => by
      simp only [exec, hv]
    have hstep := hiff s a v hi hp hv
    constructor
    · intro hall
      have hpv : P v := hall [a] v (List.prefix_iff_eq_append.mpr rfl) (hcons [])
      refine ⟨hstep.mp hpv, fun w hw => ?_⟩
      obtain rfl := Except.ok.inj (hv.symm.trans hw)
      refine (ih (hkeep s a v hi hv) hpv hrest).mp fun before u hbefore hu => ?_
      exact hall (a :: before) u (List.cons_prefix_cons.mpr ⟨rfl, hbefore⟩) ((hcons before).trans hu)
    · rintro ⟨hc, hmeets⟩ before u hbefore hu
      cases before with
      | nil =>
        cases hu
        exact hp
      | cons b before =>
        obtain ⟨rfl, hprefix⟩ := List.cons_prefix_cons.mp hbefore
        exact (ih (hkeep s b v hi hv) (hstep.mpr hc) hrest).mpr (hmeets v hv) before u hprefix
          ((hcons before).symm.trans hu)

/-- Two conditions that are the same in every state that a run meeting one of them passes. -/
theorem meets_congr {step : σ → α → Except ε σ} {C D : σ → α → Prop} {P : σ → Prop}
    (hstep : ∀ s a t, P s → step s a = .ok t → (C s a ↔ D s a) ∧ (C s a → P t)) {s t : σ}
    {as : List α} (hs : P s) (h : exec step s as = .ok t) :
    Meets step C s as ↔ Meets step D s as := by
  induction as generalizing s with
  | nil => exact Iff.rfl
  | cons a as ih =>
    simp only [exec] at h
    cases he : step s a with
    | error e =>
      rw [he] at h
      cases h
    | ok u =>
      rw [he] at h
      obtain ⟨hiff, hkeep⟩ := hstep s a u hs he
      have htail : ∀ v, C s a → step s a = .ok v →
          (Meets step C v as ↔ Meets step D v as) := by
        intro v hc hv
        obtain rfl := Except.ok.inj (he.symm.trans hv)
        exact ih (hkeep hc) h
      constructor
      · rintro ⟨hc, hrest⟩
        exact ⟨hiff.mp hc, fun v hv => (htail v hc hv).mp (hrest v hv)⟩
      · rintro ⟨hd, hrest⟩
        exact ⟨hiff.mpr hd, fun v hv => (htail v (hiff.mpr hd) hv).mpr (hrest v hv)⟩

/-- A run with more in its state than another one. -/
theorem exec_map {τ : Type} {step : σ → α → Except ε σ} {step' : τ → α → Except ε τ} {f : σ → τ}
    (hstep : ∀ s a, (step s a).map f = step' (f s) a) (s : σ) (as : List α) :
    (exec step s as).map f = exec step' (f s) as := by
  induction as generalizing s with
  | nil => rfl
  | cons a as ih =>
    unfold exec
    rw [← hstep]
    cases step s a with
    | error e => rfl
    | ok t => exact ih t

/-! ## Outcomes -/

theorem bind_ok {α β : Type} {x : Except ε α} {f : α → Except ε β} {b : β}
    (h : (x >>= f) = .ok b) : ∃ a, x = .ok a ∧ f a = .ok b := by
  cases x with
  | error e => cases h
  | ok a => exact ⟨a, rfl, h⟩

theorem map_ok {α β : Type} {x : Except ε α} {f : α → β} {b : β} (h : x.map f = .ok b) :
    ∃ a, x = .ok a ∧ f a = b := by
  cases x with
  | error e => cases h
  | ok a => exact ⟨a, rfl, Except.ok.inj h⟩

/-- A result that meets `P`, or an error that meets `E`. -/
def Ends {α : Type} (E : ε → Prop) (P : α → Prop) : Except ε α → Prop
  | .ok a => P a
  | .error e => E e

namespace Ends
variable {α β : Type} {E : ε → Prop} {P : α → Prop}

theorem bind {Q : β → Prop} {x : Except ε α} {f : α → Except ε β} (h : Ends E P x)
    (hf : ∀ a, P a → Ends E Q (f a)) : Ends E Q (x >>= f) := by
  cases x with
  | error e => exact h
  | ok a => exact hf a h

theorem map {Q : β → Prop} {x : Except ε α} {f : α → β} (h : Ends E P x)
    (hf : ∀ a, P a → Q (f a)) : Ends E Q (x.map f) := by
  cases x with
  | error e => exact h
  | ok a => exact hf a h

theorem mono {Q : α → Prop} {x : Except ε α} (h : Ends E P x) (hpq : ∀ a, P a → Q a) :
    Ends E Q x := by
  cases x with
  | error e => exact h
  | ok a => exact hpq a h

end Ends

/-- **Outcome rule.**  What every step of the run keeps, or ends with an error in `E`. -/
theorem exec_ends {step : σ → α → Except ε σ} {C : σ → α → Prop} {P : σ → Prop} {E : ε → Prop}
    (hstep : ∀ s a, P s → C s a → Ends E P (step s a)) {s : σ} {as : List α} (hs : P s)
    (hc : Meets step C s as) : Ends E P (exec step s as) := by
  induction as generalizing s with
  | nil => exact hs
  | cons a as ih =>
    have h := hstep s a hs hc.1
    unfold exec
    cases he : step s a with
    | error e =>
      rw [he] at h
      exact h
    | ok t =>
      rw [he] at h
      exact ih h (hc.2 t he)

/-! ## Iterating a total step -/

/-- The invariant rule for a step that never fails, under a condition on the states passed. -/
theorem iterate_invariant {step : σ → σ} {C P : σ → Prop}
    (hstep : ∀ s, P s → C s → P (step s)) {s : σ} (hs : P s) (n : Nat)
    (hc : ∀ k, k < n → C (step^[k] s)) : P (step^[n] s) := by
  induction n with
  | zero => exact hs
  | succ n ih =>
    rw [Function.iterate_succ_apply']
    exact hstep _ (ih fun k hk => hc k (by omega)) (hc n (by omega))

end Run
