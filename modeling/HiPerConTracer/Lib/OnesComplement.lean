import Mathlib.Data.ZMod.Basic
import Mathlib.Tactic.LinearCombination
import Mathlib.Tactic.Linarith
import Mathlib.Tactic.Ring

/-!
# One's complement sums

Words are numbers below `b * b`, of two digits to the base `b`.  A sum of words is folded into one
word by adding the carries back, and `complement` is the swapped complement of the folded sum.
Modulo `b * b - 1` folding does nothing and swapping is multiplication by `b`, so

    complement b s = - b * s                                          (complement_eq_neg)
    complement b (s + swap b d) = complement b s - d                  (complement_steer)

in `ZMod (b * b - 1)`.  A sum that is not zero never has the complement `b * b - 1`, the other zero
(`complement_lt`), so such an equation determines the complement.

A receiver adds words with an end-around carry, `total`, and looks whether all digits are maximal:

    total b words = b * b - 1 ↔ 0 < words.sum ∧ words.sum = 0     (total_eq_ones_iff)
-/

namespace OnesComplement

variable (b : Nat)

/-- The two digits of a word in the other order. -/
def swap (n : Nat) : Nat := n % b * b + n / b

/-- Carries are added back, and the carry of that once more. -/
def fold (s : Nat) : Nat :=
  (s / (b * b) + s % (b * b) + (s / (b * b) + s % (b * b)) / (b * b)) % (b * b)

def complement (s : Nat) : Nat := swap b (b * b - 1 - fold b s)

section
variable {b}

theorem swap_lt {n : Nat} (hn : n < b * b) : swap b n < b * b := by
  unfold swap
  have hb : 0 < b := by
    rcases Nat.eq_zero_or_pos b with rfl | hb
    · omega
    · exact hb
  have hd : n / b < b := Nat.div_lt_of_lt_mul hn
  have hm : n % b + 1 ≤ b := Nat.mod_lt n hb
  calc n % b * b + n / b < n % b * b + b := by omega
    _ = (n % b + 1) * b := by ring
    _ ≤ b * b := Nat.mul_le_mul_right b hm

theorem swap_swap {n : Nat} (hn : n < b * b) : swap b (swap b n) = n := by
  have hb : 0 < b := by
    rcases Nat.eq_zero_or_pos b with rfl | hb
    · omega
    · exact hb
  have hd : n / b < b := Nat.div_lt_of_lt_mul hn
  have hmod : (n % b * b + n / b) % b = n / b := by
    rw [Nat.mul_add_mod_self_right, Nat.mod_eq_of_lt hd]
  have hdiv : (n % b * b + n / b) / b = n % b := by
    rw [Nat.add_comm, Nat.add_mul_div_right _ _ hb, Nat.div_eq_of_lt hd, Nat.zero_add]
  unfold swap
  rw [hmod, hdiv, Nat.mul_comm]
  exact Nat.div_add_mod n b

theorem base_eq_one (hb : 1 < b) : ((b : ZMod (b * b - 1)) * b) = 1 := by
  have h : ((b * b - 1 : Nat) : ZMod (b * b - 1)) = 0 := ZMod.natCast_self _
  have hpos : 1 ≤ b * b := by nlinarith
  rw [Nat.cast_sub hpos, Nat.cast_mul, Nat.cast_one] at h
  exact sub_eq_zero.mp h

theorem swap_eq_mul (hb : 1 < b) (n : Nat) :
    ((swap b n : Nat) : ZMod (b * b - 1)) = b * n := by
  have hn : (n : ZMod (b * b - 1)) = b * (n / b : Nat) + (n % b : Nat) := by
    conv => lhs; rw [← Nat.div_add_mod n b]
    push_cast
    ring
  have h1 := base_eq_one hb
  unfold swap
  push_cast
  rw [hn]
  linear_combination -(((n / b : Nat)) : ZMod (b * b - 1)) * h1

/-- The first addition of carries fits in two words, so one more makes it a word. -/
theorem fold_cases {s : Nat} (hs : s < (b * b) * (b * b)) :
    (s / (b * b) + s % (b * b) < b * b ∧ fold b s = s / (b * b) + s % (b * b)) ∨
      (b * b ≤ s / (b * b) + s % (b * b) ∧
        fold b s + (b * b - 1) = s / (b * b) + s % (b * b)) := by
  unfold fold
  have hB : 0 < b * b := Nat.pos_of_ne_zero fun h => by simp [h] at hs
  have hd : s / (b * b) < b * b := Nat.div_lt_of_lt_mul hs
  have hm : s % (b * b) < b * b := Nat.mod_lt s hB
  generalize b * b = B at *
  generalize s / B = h at *
  generalize s % B = l at *
  by_cases hlt : h + l < B
  · exact Or.inl ⟨hlt, by rw [Nat.div_eq_of_lt hlt, Nat.add_zero, Nat.mod_eq_of_lt hlt]⟩
  · have hone : (h + l) / B = 1 := by
      rw [Nat.div_eq_sub_div hB (by omega), Nat.div_eq_of_lt (by omega)]
    refine Or.inr ⟨by omega, ?_⟩
    rw [hone, Nat.mod_eq_sub_mod (by omega), Nat.mod_eq_of_lt (by omega)]
    omega

theorem fold_lt (hb : 1 < b) (s : Nat) : fold b s < b * b := Nat.mod_lt _ (by nlinarith)

theorem fold_pos {s : Nat} (hs : s < (b * b) * (b * b)) (h0 : 0 < s) : 0 < fold b s := by
  have hB : 0 < b * b := Nat.pos_of_ne_zero fun h => by simp [h] at hs
  rcases fold_cases hs with ⟨-, hf⟩ | ⟨hge, hf⟩
  · rw [hf]
    rcases Nat.eq_zero_or_pos (s / (b * b)) with hz | hp
    · have := Nat.div_add_mod s (b * b)
      rw [hz] at this
      omega
    · omega
  · omega

theorem fold_eq (hb : 1 < b) {s : Nat} (hs : s < (b * b) * (b * b)) :
    ((fold b s : Nat) : ZMod (b * b - 1)) = s := by
  have hB : ((b : ZMod (b * b - 1)) * b) = 1 := base_eq_one hb
  have hs' : (s : ZMod (b * b - 1)) = (s / (b * b) : Nat) + (s % (b * b) : Nat) := by
    conv => lhs; rw [← Nat.div_add_mod s (b * b)]
    push_cast
    rw [hB, one_mul]
  rcases fold_cases hs with ⟨-, hf⟩ | ⟨-, hf⟩
  · rw [hf, hs']
    push_cast
    rfl
  · have hcast := congrArg (Nat.cast : Nat → ZMod (b * b - 1)) hf
    rw [Nat.cast_add, ZMod.natCast_self, add_zero, Nat.cast_add] at hcast
    rw [hcast, hs']

/-! ## The complement -/

theorem complement_eq_neg (hb : 1 < b) {s : Nat} (hs : s < (b * b) * (b * b)) :
    ((complement b s : Nat) : ZMod (b * b - 1)) = -(b * s) := by
  have hle : fold b s ≤ b * b - 1 := by
    have := fold_lt hb s
    omega
  unfold complement
  rw [swap_eq_mul hb, Nat.cast_sub hle, ZMod.natCast_self, fold_eq hb hs]
  ring

/-- Both digits are maximal. -/
theorem swap_ones (hb : 1 < b) : swap b (b * b - 1) = b * b - 1 := by
  have hdm : b * b - 1 = b * (b - 1) + (b - 1) := by
    have : b * (b - 1) + b = b * b := by
      rw [← Nat.mul_succ]
      congr 1
      omega
    omega
  have hdiv : (b * b - 1) / b = b - 1 := by
    rw [hdm, Nat.mul_add_div (by omega), Nat.div_eq_of_lt (by omega), Nat.add_zero]
  have hmod : (b * b - 1) % b = b - 1 := by
    rw [hdm, Nat.mul_add_mod, Nat.mod_eq_of_lt (by omega)]
  unfold swap
  rw [hdiv, hmod, Nat.mul_comm]
  exact hdm.symm

theorem complement_zero (hb : 1 < b) : complement b 0 = b * b - 1 := by
  unfold complement fold
  simp only [Nat.zero_div, Nat.zero_mod, Nat.add_zero, Nat.sub_zero]
  exact swap_ones hb

/-- The complement of a sum that is not zero is not the zero of all digits. -/
theorem complement_lt (hb : 1 < b) {s : Nat} (hs : s < (b * b) * (b * b)) (h0 : 0 < s) :
    complement b s < b * b - 1 := by
  have hpos := fold_pos hs h0
  have hB : 1 < b * b := by nlinarith
  have hx : b * b - 1 - fold b s < b * b := by omega
  have hlt : swap b (b * b - 1 - fold b s) < b * b := swap_lt hx
  refine Nat.lt_of_le_of_ne (by unfold complement; omega) fun heq => ?_
  -- the digits of the folded sum would be zero
  have h2 := swap_swap hx
  unfold complement at heq
  rw [heq, swap_ones hb] at h2
  omega

/-- Adding the swapped word `d` to the sum takes `d` away from the complement. -/
theorem complement_steer (hb : 1 < b) {s d : Nat} (hs : s < (b * b) * (b * b))
    (hs' : s + swap b d < (b * b) * (b * b)) :
    ((complement b (s + swap b d) : Nat) : ZMod (b * b - 1)) = complement b s - d := by
  rw [complement_eq_neg hb hs', complement_eq_neg hb hs, Nat.cast_add, swap_eq_mul hb]
  have h1 := base_eq_one hb
  linear_combination (-(d : ZMod (b * b - 1))) * h1

/-- The complement can be steered to any word but the zero of all digits. -/
theorem complement_eq_target (hb : 1 < b) {s d t : Nat} (hs : s < (b * b) * (b * b))
    (hs' : s + swap b d < (b * b) * (b * b)) (h0 : 0 < s) (ht : t < b * b - 1)
    (hd : (d : ZMod (b * b - 1)) = complement b s - t) :
    complement b (s + swap b d) = t := by
  have hlt := complement_lt hb hs' (by omega)
  have heq : ((complement b (s + swap b d) : Nat) : ZMod (b * b - 1)) = t := by
    rw [complement_steer hb hs hs', hd]
    ring
  rw [ZMod.natCast_eq_natCast_iff', Nat.mod_eq_of_lt hlt, Nat.mod_eq_of_lt ht] at heq
  exact heq

theorem natCast_base_mul_eq_zero_iff (hb : 1 < b) (s : Nat) :
    (b * s : ZMod (b * b - 1)) = 0 ↔ (s : ZMod (b * b - 1)) = 0 := by
  have h1 := base_eq_one hb
  constructor
  · intro h
    have hmul : (b : ZMod (b * b - 1)) * (b * s) = 0 := by rw [h, mul_zero]
    rw [← mul_assoc, h1, one_mul] at hmul
    exact hmul
  · intro h
    rw [h, mul_zero]

/-- The complement is zero if the sum is. -/
theorem complement_eq_zero_iff (hb : 1 < b) {s : Nat} (hs : s < (b * b) * (b * b)) (h0 : 0 < s) :
    complement b s = 0 ↔ (s : ZMod (b * b - 1)) = 0 := by
  have hneg := complement_eq_neg hb hs
  have hlt := complement_lt hb hs h0
  constructor
  · intro h
    rw [h, Nat.cast_zero, eq_comm, neg_eq_zero] at hneg
    exact (natCast_base_mul_eq_zero_iff hb s).mp hneg
  · intro h
    rw [(natCast_base_mul_eq_zero_iff hb s).mpr h, neg_zero, ZMod.natCast_eq_zero_iff] at hneg
    exact Nat.eq_zero_of_dvd_of_lt hneg hlt

/-! ## Verification -/

end

/-- Two words, with an end-around carry. -/
def add (x y : Nat) : Nat := if x + y < b * b then x + y else x + y - (b * b - 1)

/-- The one's complement sum of words. -/
def total (words : List Nat) : Nat := words.foldl (add b) 0

section
variable {b}

theorem add_lt (hb : 1 < b) {x y : Nat} (hx : x < b * b) (hy : y < b * b) : add b x y < b * b := by
  have hB : 1 < b * b := by nlinarith
  unfold add
  split <;> omega

theorem add_pos (hb : 1 < b) {x y : Nat} (h : 0 < x + y) : 0 < add b x y := by
  have hB : 1 < b * b := by nlinarith
  unfold add
  split <;> omega

theorem add_eq (hb : 1 < b) (x y : Nat) : ((add b x y : Nat) : ZMod (b * b - 1)) = x + y := by
  have hB : 1 < b * b := by nlinarith
  unfold add
  by_cases h : x + y < b * b
  · rw [if_pos h, Nat.cast_add]
  · rw [if_neg h, Nat.cast_sub (by omega), ZMod.natCast_self, sub_zero, Nat.cast_add]

theorem foldl_add (hb : 1 < b) {words : List Nat} (hw : ∀ w ∈ words, w < b * b) {x : Nat}
    (hx : x < b * b) : words.foldl (add b) x < b * b ∧
      ((words.foldl (add b) x : Nat) : ZMod (b * b - 1)) = x + words.sum ∧
      (0 < words.foldl (add b) x ↔ 0 < x + words.sum) := by
  induction words generalizing x with
  | nil => simpa using hx
  | cons w words ih =>
    have hword := hw w List.mem_cons_self
    obtain ⟨hlt, heq, hpos⟩ :=
      ih (fun w' hw' => hw w' (List.mem_cons_of_mem w hw')) (add_lt hb hx hword)
    rw [List.foldl_cons, List.sum_cons]
    refine ⟨hlt, ?_, ?_⟩
    · rw [heq, add_eq hb, Nat.cast_add, add_assoc]
    · rw [hpos]
      constructor
      · intro h
        by_contra hno
        obtain rfl : x = 0 := by omega
        obtain rfl : w = 0 := by omega
        have hzero : add b 0 0 = 0 := if_pos hx
        omega
      · intro h
        by_cases hxw : 0 < x + w
        · have := add_pos hb hxw
          omega
        · omega

/-- **The words verify** if their sum is zero, but not all of them are. -/
theorem total_eq_ones_iff (hb : 1 < b) {words : List Nat} (hw : ∀ w ∈ words, w < b * b) :
    total b words = b * b - 1 ↔ 0 < words.sum ∧ (words.sum : ZMod (b * b - 1)) = 0 := by
  have hB : 1 < b * b := by nlinarith
  obtain ⟨hlt, heq, hpos⟩ := foldl_add hb hw (by omega : 0 < b * b)
  rw [Nat.cast_zero, zero_add] at heq
  rw [Nat.zero_add] at hpos
  unfold total
  rw [← heq, ← hpos, ZMod.natCast_eq_zero_iff]
  constructor
  · intro h
    rw [h]
    exact ⟨by omega, dvd_refl _⟩
  · rintro ⟨h0, hdvd⟩
    have hle := Nat.le_of_dvd h0 hdvd
    omega

/-- The sum of the words in the other byte order; with the complement it is zero. -/
theorem sum_add_complement (hb : 1 < b) {s n : Nat} (hs : s < (b * b) * (b * b))
    (hn : (s : ZMod (b * b - 1)) = b * n) :
    ((n + complement b s : Nat) : ZMod (b * b - 1)) = 0 := by
  have h1 := base_eq_one hb
  rw [Nat.cast_add, complement_eq_neg hb hs, hn]
  linear_combination -(n : ZMod (b * b - 1)) * h1

/-- **The complement of a sum** of words in the other byte order is the one of their sum. -/
theorem complement_eq_total (hb : 1 < b) {words : List Nat} (hw : ∀ w ∈ words, w < b * b) {s : Nat}
    (hs : s < (b * b) * (b * b)) (h : (s : ZMod (b * b - 1)) = b * words.sum)
    (hpos : 0 < s ↔ 0 < words.sum) : complement b s = b * b - 1 - total b words := by
  have h1 := base_eq_one hb
  obtain ⟨hlt, heq, htotal⟩ := foldl_add hb hw (show 0 < b * b by nlinarith)
  rw [Nat.cast_zero, zero_add] at heq
  rw [Nat.zero_add] at htotal
  rcases Nat.eq_zero_or_pos s with rfl | h0
  · rw [complement_zero hb]
    unfold total
    omega
  · have hcomplement := complement_lt hb hs h0
    have hcast : ((complement b s : Nat) : ZMod (b * b - 1)) = (b * b - 1 - total b words : Nat) := by
      rw [complement_eq_neg hb hs, h, Nat.cast_sub (by unfold total; omega), ZMod.natCast_self]
      unfold total
      rw [heq]
      linear_combination -(words.sum : ZMod (b * b - 1)) * h1
    rw [ZMod.natCast_eq_natCast_iff', Nat.mod_eq_of_lt hcomplement, Nat.mod_eq_of_lt] at hcast
    · exact hcast
    · have hsum := htotal.mpr (hpos.mp h0)
      unfold total
      omega

end

end OnesComplement
