import HiPerConTracer.Lib.OnesComplement

/-!
# Internet checksums (`internet16.cc`, `internet16.h`)

`computeInternet16` adds the 16-bit words of the data, in the byte order of the (little-endian)
host, in steps of 20, 8 and 2 bytes, and a final byte.  All steps do the same (`wordSum`):

    (computeInternet16 sum data).toNat = (sum.toNat + wordSum data) % 2 ^ 32
                                                                     (computeInternet16_toNat)

and `finishInternet16` is the complement of `Lib.OnesComplement` to the base 256
(`finishInternet16_toNat`).
-/

namespace HiPerConTracer.Wire

/-- `*(const uint16_t*)ptr` on a little-endian host. -/
def word (b0 b1 : UInt8) : UInt32 := b0.toUInt32 + b1.toUInt32 * 256

/-- `n` words from the start of the data are added to the sum. -/
def addWords : Nat → UInt32 → List UInt8 → UInt32
  | n + 1, sum, b0 :: b1 :: data => addWords n (sum + word b0 b1) data
  | _, sum, _ => sum

/-- `while(ptr + (2 * n - 1) < end)`: the sum and the bytes left.  The number of turns is bounded by
`fuel`. -/
def sumLoop (n : Nat) : Nat → UInt32 → List UInt8 → UInt32 × List UInt8
  | 0, sum, data => (sum, data)
  | fuel + 1, sum, data =>
    if 2 * n - 1 < data.length then sumLoop n fuel (addWords n sum data) (data.drop (2 * n))
    else (sum, data)

/-- `computeInternet16`. -/
def computeInternet16 (sum : UInt32) (data : List UInt8) : UInt32 :=
  let (sum, ptr) := sumLoop 10 data.length sum data
  let (sum, ptr) := sumLoop 4 data.length sum ptr
  let (sum, ptr) := sumLoop 1 data.length sum ptr
  match ptr with
  | [] => sum
  | b :: _ => sum + b.toUInt32

/-- `htons` on a little-endian host. -/
def htons (n : UInt16) : UInt16 := n % 256 * 256 + n / 256

/-- `finishInternet16`. -/
def finishInternet16 (sum : UInt32) : UInt16 :=
  let sum := (sum >>> 16) + (sum &&& 0xFFFF)
  let sum := sum + (sum >>> 16)
  htons (~~~sum).toUInt16

/-! ## The sum of the words -/

/-- The sum of the words of the data, without a bound; a final byte is a word of its own. -/
def wordSum : List UInt8 → Nat
  | b0 :: b1 :: data => b0.toNat + 256 * b1.toNat + wordSum data
  | [b] => b.toNat
  | [] => 0

theorem word_toNat (b0 b1 : UInt8) : (word b0 b1).toNat = b0.toNat + 256 * b1.toNat := by
  have h0 := b0.toNat_lt
  have h1 := b1.toNat_lt
  unfold word
  rw [UInt32.toNat_add, UInt32.toNat_mul]
  simp only [UInt8.toNat_toUInt32, UInt32.reduceToNat]
  omega

theorem wordSum_append {data rest : List UInt8} (h : data.length % 2 = 0) :
    wordSum (data ++ rest) = wordSum data + wordSum rest := by
  induction data using wordSum.induct with
  | case1 b0 b1 data ih =>
    simp only [List.length_cons] at h
    simp only [List.cons_append, wordSum]
    rw [ih (by omega)]
    omega
  | case2 b => simp at h
  | case3 => simp [wordSum]

theorem wordSum_le (data : List UInt8) : wordSum data ≤ 65535 * ((data.length + 1) / 2) := by
  induction data using wordSum.induct with
  | case1 b0 b1 data ih =>
    have h0 := b0.toNat_lt
    have h1 := b1.toNat_lt
    simp only [wordSum, List.length_cons]
    have hlen : (data.length + 1 + 1 + 1) / 2 = (data.length + 1) / 2 + 1 := by omega
    rw [hlen]
    omega
  | case2 b =>
    have hb := b.toNat_lt
    simp only [wordSum, List.length_cons, List.length_nil]
    omega
  | case3 => simp [wordSum]

theorem addWords_toNat (n : Nat) (sum : UInt32) (data : List UInt8) (h : 2 * n ≤ data.length) :
    (addWords n sum data).toNat = (sum.toNat + wordSum (data.take (2 * n))) % 2 ^ 32 := by
  induction n generalizing sum data with
  | zero =>
    have := sum.toNat_lt
    simp only [addWords, Nat.mul_zero, List.take_zero, wordSum, Nat.add_zero]
    omega
  | succ n ih =>
    match data, h with
    | b0 :: b1 :: data, h =>
      simp only [List.length_cons] at h
      rw [addWords, ih _ _ (by omega), UInt32.toNat_add, word_toNat,
        show 2 * (n + 1) = 2 * n + 1 + 1 by omega]
      simp only [List.take_succ_cons, wordSum]
      omega
    | [b], h => simp at h; omega
    | [], h => simp at h

/-- What a loop leaves still has its words to be added. -/
theorem sumLoop_spec (n : Nat) (hn : 0 < n) (fuel : Nat) (sum : UInt32) (data : List UInt8)
    (hf : data.length ≤ fuel) :
    ((sumLoop n fuel sum data).1.toNat + wordSum (sumLoop n fuel sum data).2) % 2 ^ 32 =
        (sum.toNat + wordSum data) % 2 ^ 32 ∧
      (sumLoop n fuel sum data).2.length < 2 * n ∧
      (sumLoop n fuel sum data).2.length ≤ data.length := by
  induction fuel generalizing sum data with
  | zero =>
    obtain rfl : data = [] := List.length_eq_zero_iff.mp (by omega)
    exact ⟨rfl, by simp [sumLoop]; omega, Nat.le_refl _⟩
  | succ fuel ih =>
    unfold sumLoop
    by_cases hlen : 2 * n - 1 < data.length
    · rw [if_pos hlen]
      have hdrop : (data.drop (2 * n)).length ≤ fuel := by
        rw [List.length_drop]
        omega
      obtain ⟨hsum, hlt, hle⟩ := ih (addWords n sum data) (data.drop (2 * n)) hdrop
      refine ⟨?_, hlt, hle.trans (by rw [List.length_drop]; omega)⟩
      rw [hsum, addWords_toNat n sum data (by omega)]
      have hsplit : wordSum data = wordSum (data.take (2 * n)) + wordSum (data.drop (2 * n)) := by
        rw [← wordSum_append (by rw [List.length_take]; omega), List.take_append_drop]
      rw [hsplit]
      omega
    · rw [if_neg hlen]
      exact ⟨rfl, by show data.length < 2 * n; omega, Nat.le_refl _⟩

/-- The three loops and the final byte add up the words of the data. -/
theorem computeInternet16_toNat (sum : UInt32) (data : List UInt8) :
    (computeInternet16 sum data).toNat = (sum.toNat + wordSum data) % 2 ^ 32 := by
  unfold computeInternet16
  obtain ⟨h1, -, l1⟩ := sumLoop_spec 10 (by omega) data.length sum data (Nat.le_refl _)
  generalize sumLoop 10 data.length sum data = r1 at *
  obtain ⟨s1, d1⟩ := r1
  obtain ⟨h2, -, l2⟩ := sumLoop_spec 4 (by omega) data.length s1 d1 l1
  simp only at *
  generalize sumLoop 4 data.length s1 d1 = r2 at *
  obtain ⟨s2, d2⟩ := r2
  obtain ⟨h3, l3, -⟩ := sumLoop_spec 1 (by omega) data.length s2 d2 (by simp only at *; omega)
  simp only at *
  generalize sumLoop 1 data.length s2 d2 = r3 at *
  obtain ⟨s3, d3⟩ := r3
  rw [← h1, ← h2, ← h3]
  match d3, l3 with
  | [], _ =>
    have := s3.toNat_lt
    simp only [wordSum]
    omega
  | [b], _ =>
    simp only [wordSum, UInt32.toNat_add, UInt8.toNat_toUInt32]
  | _ :: _ :: _, l3 => simp at l3

/-! ## The checksum -/

theorem htons_toNat (n : UInt16) : (htons n).toNat = OnesComplement.swap 256 n.toNat := by
  have h := n.toNat_lt
  unfold htons OnesComplement.swap
  rw [UInt16.toNat_add, UInt16.toNat_mul, UInt16.toNat_mod, UInt16.toNat_div]
  simp only [UInt16.reduceToNat]
  omega

/-- `finishInternet16` is the complement of the sum. -/
theorem finishInternet16_toNat (sum : UInt32) :
    (finishInternet16 sum).toNat = OnesComplement.complement 256 sum.toNat := by
  have hs := sum.toNat_lt
  have hshift : ∀ x : UInt32, (x >>> 16).toNat = x.toNat / 65536 := by
    intro x
    rw [UInt32.toNat_shiftRight, Nat.shiftRight_eq_div_pow]
    rfl
  have hand : (sum &&& 0xFFFF).toNat = sum.toNat % 65536 := by
    rw [UInt32.toNat_and]
    exact Nat.and_two_pow_sub_one_eq_mod _ 16
  unfold finishInternet16 OnesComplement.complement
  rw [htons_toNat]
  congr 1
  simp only [UInt32.toNat_toUInt16, UInt32.toNat_not, UInt32.toNat_add, hshift, hand]
  unfold OnesComplement.fold
  simp only [UInt32.size]
  omega

end HiPerConTracer.Wire
