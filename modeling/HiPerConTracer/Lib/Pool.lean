import Mathlib.Algebra.GroupWithZero.Nat
import Mathlib.Data.List.Basic
import Mathlib.Data.List.Perm.Basic

/-!
# Tasks with a shared state

A pool of tasks: each step of a task acts on the task and the state they share, and a schedule says
which task takes the next step.  What each step keeps holds behind any schedule (`run_invariant`); what
the tasks still have to hand over to the shared state, with what has been handed over, stays the same
but for its order (`flatMap_set_perm`); and there is a schedule that brings all tasks to their end
(`exists_schedule`).
-/

structure Pool (σ τ : Type) where
  shared : σ
  tasks : List τ

namespace Pool

variable {σ τ α : Type} {act : σ → τ → σ × τ}

/-- The step of a task. -/
def step (act : σ → τ → σ × τ) (p : Pool σ τ) (i : Nat) : Pool σ τ :=
  match p.tasks[i]? with
  | none => p
  | some t => ⟨(act p.shared t).1, p.tasks.set i (act p.shared t).2⟩

/-- The steps of a schedule. -/
def run (act : σ → τ → σ × τ) (p : Pool σ τ) (schedule : List Nat) : Pool σ τ :=
  schedule.foldl (step act) p

theorem run_append (p : Pool σ τ) (schedule schedule' : List Nat) :
    run act p (schedule ++ schedule') = run act (run act p schedule) schedule' :=
  List.foldl_append

/-- **Invariant rule.** -/
theorem run_invariant {P : Pool σ τ → Prop}
    (hstep : ∀ s ts i t, P ⟨s, ts⟩ → ts[i]? = some t → P ⟨(act s t).1, ts.set i (act s t).2⟩)
    {p : Pool σ τ} (hp : P p) (schedule : List Nat) : P (run act p schedule) := by
  induction schedule generalizing p with
  | nil => exact hp
  | cons i schedule ih =>
    show P (run act (step act p i) schedule)
    apply ih
    unfold step
    split
    · exact hp
    · next t ht => exact hstep p.shared p.tasks i t hp ht

/-- What a task hands over is missing from what the tasks still have. -/
theorem flatMap_set_perm {todo : τ → List α} {ts : List τ} {i : Nat} {t t' : τ} {given : List α}
    (ht : ts[i]? = some t) (h : todo t = given ++ todo t') :
    (ts.flatMap todo).Perm (given ++ (ts.set i t').flatMap todo) := by
  induction ts generalizing i with
  | nil => cases ht
  | cons u ts ih =>
    cases i with
    | zero =>
      obtain rfl := Option.some.inj ht
      rw [List.set_cons_zero, List.flatMap_cons, List.flatMap_cons, h, List.append_assoc]
    | succ i =>
      rw [List.set_cons_succ, List.flatMap_cons, List.flatMap_cons]
      have hrest := (ih ht).append_left (todo u)
      exact hrest.trans (List.perm_append_comm_assoc _ _ _)

theorem sum_set (left : τ → Nat) {ts : List τ} {i : Nat} {t : τ} (ht : ts[i]? = some t) (t' : τ) :
    ((ts.set i t').map left).sum + left t = (ts.map left).sum + left t' := by
  induction ts generalizing i with
  | nil => cases ht
  | cons u ts ih =>
    cases i with
    | zero =>
      obtain rfl := Option.some.inj ht
      simp only [List.set_cons_zero, List.map_cons, List.sum_cons]
      omega
    | succ i =>
      have hrest := ih ht
      simp only [List.set_cons_succ, List.map_cons, List.sum_cons]
      omega

/-- **Progress.**  Tasks that come closer to their end with each step all reach it. -/
theorem exists_schedule {left : τ → Nat} (hleft : ∀ s t, 0 < left t → left (act s t).2 < left t)
    (p : Pool σ τ) : ∃ schedule, ∀ t ∈ (run act p schedule).tasks, left t = 0 := by
  induction hn : (p.tasks.map left).sum using Nat.strongRecOn generalizing p with
  | ind n ih =>
    by_cases hdone : ∀ t ∈ p.tasks, left t = 0
    · exact ⟨[], hdone⟩
    · push Not at hdone
      obtain ⟨t, ht, hpos⟩ := hdone
      obtain ⟨i, hi, hget⟩ := List.getElem_of_mem ht
      have hget? : p.tasks[i]? = some t := by rw [List.getElem?_eq_getElem hi, hget]
      have hsmaller : ((step act p i).tasks.map left).sum < n := by
        unfold step
        rw [hget?]
        show ((p.tasks.set i (act p.shared t).2).map left).sum < n
        have hlt := hleft p.shared t (by omega)
        have hsum := sum_set left hget? (act p.shared t).2
        omega
      obtain ⟨schedule, h⟩ := ih _ hsmaller (step act p i) rfl
      exact ⟨i :: schedule, h⟩

end Pool
