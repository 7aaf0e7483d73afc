import Mathlib.Algebra.Order.Field.Basic
import Mathlib.Tactic.Linarith
import Mathlib.Tactic.Ring

/-!
# Smoothed averages

`smooth g j ds` moves the estimate `j` towards each value by the gain `g`, and `accumulate g j ds` adds this
part of each value.  From zero on, both are the same if no value but the last one counts:

    accumulate g 0 ds = smooth g 0 ds ↔ ∀ d ∈ ds.dropLast, d = 0          (accumulate_eq_smooth_iff)
-/

namespace Smoothing

variable {K : Type} [Field K]

def smooth (g j : K) (ds : List K) : K := ds.foldl (fun j d => j + (d - j) * g) j

def accumulate (g j : K) (ds : List K) : K := ds.foldl (fun j d => j + d * g) j

/-- The absolute differences of consecutive values. -/
def differences [LinearOrder K] : List K → List K
  | x :: y :: xs => |y - x| :: differences (y :: xs)
  | _ => []

theorem smooth_cons (g j d : K) (ds : List K) :
    smooth g j (d :: ds) = smooth g (j + (d - j) * g) ds := rfl

theorem accumulate_cons (g j d : K) (ds : List K) :
    accumulate g j (d :: ds) = accumulate g (j + d * g) ds := rfl

theorem differences_cons [LinearOrder K] (x y : K) (xs : List K) :
    differences (x :: y :: xs) = |y - x| :: differences (y :: xs) := rfl

variable [LinearOrder K] [IsStrictOrderedRing K] {g : K}

theorem differences_nonneg (xs : List K) : ∀ d ∈ differences xs, 0 ≤ d := by
  induction xs using differences.induct with
  | case1 x y xs ih => exact List.forall_mem_cons.mpr ⟨abs_nonneg _, ih⟩
  | case2 xs h =>
    intro d hd
    unfold differences at hd
    split at hd
    · exact absurd rfl (h _ _ _)
    · cases hd

theorem smooth_le (h0 : 0 ≤ g) (h1 : g ≤ 1) {j bound : K} (hj : j ≤ bound) {ds : List K}
    (h : ∀ d ∈ ds, d ≤ bound) : smooth g j ds ≤ bound := by
  induction ds generalizing j with
  | nil => exact hj
  | cons d ds ih =>
    rw [List.forall_mem_cons] at h
    rw [smooth_cons]
    refine ih ?_ h.2
    have hd := mul_le_mul_of_nonneg_right h.1 h0
    have hj' := mul_le_mul_of_nonneg_right hj (sub_nonneg.mpr h1)
    linarith

/-- The sum is above the estimate as soon as an estimate that is not zero moves. -/
theorem accumulate_eq_smooth_iff_of_le (h0 : 0 < g) (h1 : g ≤ 1) {a b : K} (hb : 0 ≤ b) (hab : b ≤ a)
    {ds : List K} (h : ∀ d ∈ ds, 0 ≤ d) :
    accumulate g a ds = smooth g b ds ↔ a = b ∧ (ds ≠ [] → b = 0 ∧ ∀ d ∈ ds.dropLast, d = 0) := by
  induction ds generalizing a b with
  | nil => simp [accumulate, smooth]
  | cons d ds ih =>
    rw [List.forall_mem_cons] at h
    have hd := mul_nonneg h.1 h0.le
    have hg := mul_nonneg hb h0.le
    have hb' : 0 ≤ b + (d - b) * g := by
      have := mul_nonneg hb (sub_nonneg.mpr h1)
      linarith
    have hstart : a + d * g = b + (d - b) * g ↔ a = b ∧ b = 0 := by
      constructor
      · intro heq
        have hzero : b * g = 0 := by linarith
        exact ⟨by linarith, (mul_eq_zero.mp hzero).resolve_right h0.ne'⟩
      · rintro ⟨rfl, rfl⟩
        ring
    rw [accumulate_cons, smooth_cons, ih hb' (by linarith) h.2, hstart]
    cases ds with
    | nil => simp
    | cons d' ds =>
      simp only [ne_eq, reduceCtorEq, not_false_eq_true, true_implies, List.dropLast_cons_cons,
        List.forall_mem_cons]
      constructor
      · rintro ⟨⟨hab, rfl⟩, hnext, hds⟩
        have hzero : d * g = 0 := by linarith
        exact ⟨hab, rfl, (mul_eq_zero.mp hzero).resolve_right h0.ne', hds⟩
      · rintro ⟨hab, rfl, rfl, hds⟩
        exact ⟨⟨hab, rfl⟩, by ring, hds⟩

theorem accumulate_eq_smooth_iff (h0 : 0 < g) (h1 : g ≤ 1) {ds : List K} (h : ∀ d ∈ ds, 0 ≤ d) :
    accumulate g 0 ds = smooth g 0 ds ↔ ∀ d ∈ ds.dropLast, d = 0 := by
  rw [accumulate_eq_smooth_iff_of_le h0 h1 le_rfl le_rfl h]
  constructor
  · rintro ⟨-, hds⟩
    cases ds with
    | nil => exact List.forall_mem_nil _
    | cons d ds => exact (hds (List.cons_ne_nil d ds)).2
  · intro hds
    exact ⟨rfl, fun _ => ⟨rfl, hds⟩⟩

end Smoothing
