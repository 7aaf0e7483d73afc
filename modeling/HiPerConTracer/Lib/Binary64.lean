import Mathlib.Algebra.Group.Int.Defs
import Mathlib.Algebra.Group.Nat.Defs
import Mathlib.Data.Nat.Log

/-!
# Doubles as quotients

A positive double below 2^53 is a number of 53 bits over a power of two.  `ofQuotient` is the double next
to a quotient, where a half goes to the even neighbour, as are the results of operations.

    0 < n < 2^53 d → 2^52 d ≤ n 2^s < 2^53 d, for s = scale n d                       (scale_spec)
-/

/-- The value is `mantissa / 2 ^ exponent`. -/
structure Binary64 where
  mantissa : Nat
  exponent : Nat

namespace Binary64

/-- The integer next to `n / d`. -/
def nearest (n d : Nat) : Nat :=
  if 2 * (n % d) < d ∨ (2 * (n % d) = d ∧ n / d % 2 = 0) then n / d else n / d + 1

theorem nearest_mul_right (n d : Nat) {c : Nat} (hc : 0 < c) :
    nearest (n * c) (d * c) = nearest n d := by
  unfold nearest
  simp only [Nat.mul_div_mul_right n d hc, Nat.mul_mod_mul_right, ← Nat.mul_assoc,
    Nat.mul_lt_mul_right hc, Nat.mul_left_inj hc.ne']

theorem nearest_mul_le (n d : Nat) : 2 * (nearest n d * d) ≤ 2 * n + d := by
  have hdiv : n / d * d + n % d = n := Nat.div_add_mod' n d
  unfold nearest
  split
  · omega
  · rw [Nat.add_mul]
    omega

theorem le_nearest_mul {n d : Nat} (hd : 0 < d) : 2 * n ≤ 2 * (nearest n d * d) + d := by
  have hdiv : n / d * d + n % d = n := Nat.div_add_mod' n d
  have hmod : n % d < d := Nat.mod_lt n hd
  unfold nearest
  split
  · omega
  · rw [Nat.add_mul]
    omega

theorem nearest_le (n d : Nat) : nearest n d ≤ n / d + 1 := by
  unfold nearest
  split
  · exact Nat.le_succ _
  · exact Nat.le_refl _

/-- An even integer is not above the nearest one unless it is above by more than a half. -/
theorem le_nearest_iff {n d t : Nat} (hd : 0 < d) (ht : t % 2 = 0) :
    t ≤ nearest n d ↔ 2 * (t * d) ≤ 2 * n + d := by
  have hdiv : n / d * d + n % d = n := Nat.div_add_mod' n d
  have hmod : n % d < d := Nat.mod_lt n hd
  constructor
  · intro h
    exact Nat.le_trans (Nat.mul_le_mul_left 2 (Nat.mul_le_mul_right d h)) (nearest_mul_le n d)
  · intro h
    by_contra hlt
    have hlt := Nat.lt_of_not_le hlt
    have habove : ∀ i, n / d + i ≤ t → n / d * d + i * d ≤ t * d := by
      intro i hi
      rw [← Nat.add_mul]
      exact Nat.mul_le_mul_right d hi
    unfold nearest at hlt
    split at hlt
    · next hdown =>
      have h1 := habove 1 hlt
      rcases hdown with hless | ⟨hhalf, heven⟩
      · omega
      · -- of the two neighbours, the even one is below
        have h2 := habove 2 (by omega)
        omega
    · next hup =>
      have h2 := habove 2 hlt
      omega

/-- The power of two that takes `n / d` to 53 bits. -/
def scale (n d : Nat) : Nat :=
  let s := Nat.log2 d + 53 - Nat.log2 n
  if 2 ^ 53 * d ≤ n * 2 ^ s then s - 1 else s

theorem scale_spec {n d : Nat} (hn : 0 < n) (hd : 0 < d) (h : n < 2 ^ 53 * d) :
    2 ^ 52 * d ≤ n * 2 ^ scale n d ∧ n * 2 ^ scale n d < 2 ^ 53 * d := by
  have hn1 : 2 ^ Nat.log2 n ≤ n := Nat.log2_self_le hn.ne'
  have hn2 : n < 2 ^ (Nat.log2 n + 1) := Nat.lt_log2_self
  have hd1 : 2 ^ Nat.log2 d ≤ d := Nat.log2_self_le hd.ne'
  have hd2 : d < 2 ^ (Nat.log2 d + 1) := Nat.lt_log2_self
  have hle : Nat.log2 n ≤ Nat.log2 d + 53 := by
    have hpow : 2 ^ Nat.log2 n < 2 ^ (Nat.log2 d + 54) := by
      calc 2 ^ Nat.log2 n ≤ n := hn1
        _ < 2 ^ 53 * d := h
        _ ≤ 2 ^ 53 * 2 ^ (Nat.log2 d + 1) := Nat.mul_le_mul_left _ hd2.le
        _ = 2 ^ (Nat.log2 d + 54) := by rw [← Nat.pow_add]; congr 1; omega
    have := (Nat.pow_lt_pow_iff_right (by decide)).mp hpow
    omega
  have hs : Nat.log2 n + (Nat.log2 d + 53 - Nat.log2 n) = Nat.log2 d + 53 := by omega
  unfold scale
  simp only
  generalize Nat.log2 d + 53 - Nat.log2 n = s at hs ⊢
  have hlow : 2 ^ 52 * d ≤ n * 2 ^ s := by
    calc 2 ^ 52 * d ≤ 2 ^ 52 * 2 ^ (Nat.log2 d + 1) := Nat.mul_le_mul_left _ hd2.le
      _ = 2 ^ Nat.log2 n * 2 ^ s := by rw [← Nat.pow_add, ← Nat.pow_add]; congr 1; omega
      _ ≤ n * 2 ^ s := Nat.mul_le_mul_right _ hn1
  have hhigh : n * 2 ^ s < 2 ^ 54 * d := by
    calc
      n * 2 ^ s < 2 ^ (Nat.log2 n + 1) * 2 ^ s := Nat.mul_lt_mul_of_pos_right hn2 (Nat.two_pow_pos s)
      _ = 2 ^ 54 * 2 ^ Nat.log2 d := by rw [← Nat.pow_add, ← Nat.pow_add]; congr 1; omega
      _ ≤ 2 ^ 54 * d := Nat.mul_le_mul_left _ hd1
  split
  · next hge =>
    cases s with
    | zero =>
      rw [Nat.pow_zero, Nat.mul_one] at hge
      omega
    | succ s =>
      have hsucc : n * 2 ^ (s + 1) = n * 2 ^ s * 2 := by rw [Nat.pow_succ, Nat.mul_assoc]
      rw [hsucc] at hge hhigh
      rw [Nat.add_sub_cancel]
      omega
  · next hlt => exact ⟨hlow, Nat.lt_of_not_le hlt⟩

def ofQuotient (n d : Nat) : Binary64 := ⟨nearest (n * 2 ^ scale n d) d, scale n d⟩

def mulNat (x : Binary64) (n : Nat) : Binary64 := ofQuotient (x.mantissa * n) (2 ^ x.exponent)

/-- The conversion to an integer. -/
def trunc (x : Binary64) : Nat := x.mantissa / 2 ^ x.exponent

/-- The next integer from above. -/
def ceil (x : Binary64) : Nat := (x.mantissa + (2 ^ x.exponent - 1)) / 2 ^ x.exponent

/-- The part behind the point. -/
def fraction (x : Binary64) : Binary64 := ⟨x.mantissa % 2 ^ x.exponent, x.exponent⟩

/-- The double next to an integer, which may have more than 53 bits. -/
def roundNat (n : Nat) : Nat := nearest n (2 ^ (Nat.log2 n - 52)) * 2 ^ (Nat.log2 n - 52)

theorem roundNat_le (n : Nat) : roundNat n ≤ 2 * n := by
  have hround := nearest_mul_le n (2 ^ (Nat.log2 n - 52))
  change 2 * roundNat n ≤ 2 * n + 2 ^ (Nat.log2 n - 52) at hround
  by_cases hn : n = 0
  · subst hn
    exact Nat.le_of_eq rfl
  · have hpow : 2 ^ (Nat.log2 n - 52) ≤ n :=
      Nat.le_trans (Nat.pow_le_pow_right (by decide) (Nat.sub_le _ _)) (Nat.log2_self_le hn)
    omega

theorem mantissa_ofQuotient_le (n d : Nat) :
    (ofQuotient n d).mantissa ≤ n * 2 ^ scale n d / d + 1 := nearest_le _ _

theorem trunc_ofQuotient_le (n d : Nat) : (ofQuotient n d).trunc ≤ n / d + 1 := by
  have hpos := Nat.two_pow_pos (scale n d)
  calc (ofQuotient n d).trunc ≤ (n * 2 ^ scale n d / d + 1) / 2 ^ scale n d :=
        Nat.div_le_div_right (mantissa_ofQuotient_le n d)
    _ ≤ (n * 2 ^ scale n d / d + 2 ^ scale n d) / 2 ^ scale n d :=
        Nat.div_le_div_right (Nat.add_le_add_left hpos _)
    _ = n * 2 ^ scale n d / d / 2 ^ scale n d + 1 := Nat.add_div_right _ hpos
    _ = n / d + 1 := by rw [Nat.div_div_eq_div_mul, Nat.mul_div_mul_right _ _ hpos]

/-- Where the quotient is a double, its integer part is the one of the quotient. -/
theorem trunc_ofQuotient {n d : Nat} (hd : 0 < d) (h : d ∣ n * 2 ^ scale n d) :
    (ofQuotient n d).trunc = n / d := by
  obtain ⟨q, hq⟩ := h
  have hnearest : nearest (n * 2 ^ scale n d) d = n * 2 ^ scale n d / d := by
    rw [hq]
    unfold nearest
    rw [Nat.mul_mod_right]
    exact if_pos (Or.inl hd)
  show nearest (n * 2 ^ scale n d) d / 2 ^ scale n d = n / d
  rw [hnearest, Nat.div_div_eq_div_mul, Nat.mul_div_mul_right _ _ (Nat.two_pow_pos _)]

end Binary64
