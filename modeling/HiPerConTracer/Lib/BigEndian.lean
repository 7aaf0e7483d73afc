import Mathlib.Data.List.Induction
import Mathlib.Tactic.Ring

/-!
# Numbers in big-endian bytes

    value (bytes n v) = v % 256 ^ n                                        (value_bytes)
    l.length = n → bytes n (value l) = l                                   (bytes_value)
-/

namespace BigEndian

/-- The number of the bytes, the most significant one first. -/
def value (l : List UInt8) : Nat := l.foldl (fun a b => 256 * a + b.toNat) 0

/-- The lowest `n` bytes of a number, the most significant one first. -/
def bytes : Nat → Nat → List UInt8
  | 0, _ => []
  | n + 1, v => bytes n (v / 256) ++ [UInt8.ofNat v]

@[simp] theorem length_bytes (n v : Nat) : (bytes n v).length = n := by
  induction n generalizing v with
  | zero => rfl
  | succ n ih => rw [bytes, List.length_append, ih, List.length_singleton]

theorem value_concat (l : List UInt8) (b : UInt8) : value (l ++ [b]) = 256 * value l + b.toNat := by
  unfold value
  rw [List.foldl_append, List.foldl_cons, List.foldl_nil]

theorem value_bytes (n v : Nat) : value (bytes n v) = v % 256 ^ n := by
  induction n generalizing v with
  | zero => rw [Nat.pow_zero, Nat.mod_one, bytes, value, List.foldl_nil]
  | succ n ih =>
    have hbyte : (UInt8.ofNat v).toNat = v % 256 := rfl
    rw [bytes, value_concat, ih, hbyte, Nat.pow_succ', Nat.mod_mul, Nat.add_comm]

theorem value_lt (l : List UInt8) : value l < 256 ^ l.length := by
  induction l using List.reverseRecOn with
  | nil => exact Nat.one_pos
  | append_singleton l b ih =>
    have hb := b.toNat_lt
    rw [value_concat, List.length_append, List.length_singleton, Nat.pow_succ']
    omega

theorem bytes_value (l : List UInt8) : bytes l.length (value l) = l := by
  induction l using List.reverseRecOn with
  | nil => rfl
  | append_singleton l b ih =>
    have hb := b.toNat_lt
    have hdiv : (256 * value l + b.toNat) / 256 = value l := by omega
    have hbyte : UInt8.ofNat (256 * value l + b.toNat) = b := by
      rw [← UInt8.toNat_inj]
      show (256 * value l + b.toNat) % 256 = b.toNat
      omega
    rw [List.length_append, List.length_singleton, value_concat, bytes, hdiv, ih, hbyte]

/-- The bytes one by one. -/
theorem bytes_eq_map (n v : Nat) :
    bytes n v = (List.range n).map fun i => UInt8.ofNat (v / 256 ^ (n - 1 - i)) := by
  induction n generalizing v with
  | zero => rfl
  | succ n ih =>
    have hinit : ∀ i ∈ List.range n,
        UInt8.ofNat (v / 256 / 256 ^ (n - 1 - i)) = UInt8.ofNat (v / 256 ^ (n + 1 - 1 - i)) := by
      intro i hi
      have hexponent : n + 1 - 1 - i = n - 1 - i + 1 := by
        have := List.mem_range.mp hi
        omega
      rw [hexponent, Nat.pow_succ', Nat.div_div_eq_div_mul]
    have hlast : n + 1 - 1 - n = 0 := by omega
    rw [bytes, ih, List.range_succ, List.map_append, List.map_singleton, hlast, Nat.pow_zero, Nat.div_one,
      List.map_congr_left hinit]

end BigEndian
