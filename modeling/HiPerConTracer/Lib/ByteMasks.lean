import Mathlib.Data.List.GetD
import Mathlib.Data.List.OfFn
import Mathlib.Logic.Function.Basic
import Mathlib.Tactic.IntervalCases

/-!
# Fields in arrays of bytes

A field is given by the bits of the array that belong to it, as a mask.  What reads only bits of one
mask does not see what writes only bits of a disjoint one:

    Reads mask get → Writes mask' run → Apart mask mask' → get (run d) = get d      (Reads.frame)

A number in network byte order is read back from its bytes (`number_toBytes`).
-/

namespace ByteMasks

abbrev Bytes (n : Nat) : Type := Fin n → UInt8

variable {n : Nat} {α β γ : Type}

def setByte (d : Bytes n) (i : Fin n) (x : UInt8) : Bytes n := Function.update d i x

theorem setByte_self (d : Bytes n) (i : Fin n) (x : UInt8) : setByte d i x i = x :=
  Function.update_self ..

theorem setByte_of_ne {i j : Fin n} (h : j ≠ i) (d : Bytes n) (x : UInt8) : setByte d i x j = d j :=
  Function.update_of_ne h ..

/-- One assignment after the other. -/
def setBytes (d : Bytes n) (assignments : List (Fin n × UInt8)) : Bytes n :=
  assignments.foldl (fun d a => setByte d a.1 a.2) d

/-! ## Masks -/

/-- The byte of a mask, which is zero behind its end. -/
def maskAt (mask : List UInt8) (i : Nat) : UInt8 := mask.getD i 0

/-- `count` whole bytes from `start` on. -/
def wholeBytes (start count : Nat) : List UInt8 :=
  List.replicate start 0 ++ List.replicate count 0xff

/-- No bit is in both masks. -/
def Apart (mask mask' : List UInt8) : Prop :=
  (List.zipWith (· &&& ·) mask mask').all (· = 0) = true

instance (mask mask' : List UInt8) : Decidable (Apart mask mask') :=
  inferInstanceAs (Decidable (_ = true))

/-- The bits of the mask are the same. -/
def Agree (mask : List UInt8) (d d' : Bytes n) : Prop :=
  ∀ i : Fin n, d i &&& maskAt mask i = d' i &&& maskAt mask i

/-- A value that depends on the bits of the mask only. -/
def Reads (mask : List UInt8) (get : Bytes n → α) : Prop :=
  ∀ d d', Agree mask d d' → get d = get d'

/-- A change of the bits of the mask only. -/
def Writes (mask : List UInt8) (run : Bytes n → Bytes n) : Prop :=
  ∀ d (i : Fin n), run d i &&& ~~~maskAt mask i = d i &&& ~~~maskAt mask i

theorem forall_byte {P : UInt8 → Prop} (h : ∀ i : Fin 256, P (UInt8.ofNat i)) (x : UInt8) : P x := by
  have hx := h ⟨x.toNat, x.toNat_lt⟩
  rw [UInt8.ofNat_toNat] at hx
  exact hx

theorem byte_ext {x y : UInt8} (h : ∀ i < 8, x.toBitVec.getLsbD i = y.toBitVec.getLsbD i) : x = y :=
  UInt8.toBitVec_inj.mp (BitVec.eq_of_getLsbD_eq h)

theorem and_and_not {x m m' : UInt8} (h : m &&& m' = 0) : x &&& ~~~m' &&& m = x &&& m := by
  refine byte_ext fun i hi => ?_
  have hbit := congrArg (fun b : UInt8 => b.toBitVec.getLsbD i) h
  simp only [UInt8.toBitVec_and, UInt8.toBitVec_not, BitVec.getLsbD_and, BitVec.getLsbD_not, hi,
    decide_true, Bool.true_and, UInt8.toBitVec_zero, BitVec.getLsbD_zero] at hbit ⊢
  cases hm : m.toBitVec.getLsbD i with
  | false => simp
  | true =>
    rw [hm, Bool.true_and] at hbit
    simp [hbit]

theorem Apart.maskAt {mask mask' : List UInt8} (h : Apart mask mask') (i : Nat) :
    maskAt mask i &&& ByteMasks.maskAt mask' i = 0 := by
  unfold ByteMasks.maskAt
  by_cases hi : i < (List.zipWith (· &&& ·) mask mask').length
  · have hlt := hi
    rw [List.length_zipWith, lt_min_iff] at hlt
    have hzero := List.all_eq_true.mp h _ (List.getElem_mem hi)
    rw [List.getElem_zipWith] at hzero
    rw [List.getD_eq_getElem _ _ hlt.1, List.getD_eq_getElem _ _ hlt.2]
    exact of_decide_eq_true hzero
  · rw [List.length_zipWith, lt_min_iff, not_and_or] at hi
    rcases hi with hi | hi
    · rw [List.getD_eq_default _ _ (Nat.le_of_not_lt hi), UInt8.zero_and]
    · rw [List.getD_eq_default mask' _ (Nat.le_of_not_lt hi), UInt8.and_zero]

/-- **Frame.**  Bits of a disjoint mask are not seen. -/
theorem Reads.frame {mask mask' : List UInt8} {get : Bytes n → α} {run : Bytes n → Bytes n}
    (hget : Reads mask get) (hrun : Writes mask' run) (h : Apart mask mask') (d : Bytes n) :
    get (run d) = get d := by
  refine hget _ _ fun i => ?_
  rw [← and_and_not (h.maskAt i), hrun d i, and_and_not (h.maskAt i)]

/-! ## Reading -/

section
variable {mask : List UInt8}

theorem Agree.byte {d d' : Bytes n} (h : Agree mask d d') (i : Fin n) (hi : maskAt mask i = 0xff) :
    d i = d' i := by
  have hall : ∀ x : UInt8, x &&& 0xff = x := by
    intro x
    refine byte_ext fun j hj => ?_
    interval_cases j <;> simp
  have hsame := h i
  rw [hi, hall, hall] at hsame
  exact hsame

theorem Reads.byte (i : Fin n) (hi : maskAt mask i = 0xff) : Reads mask fun d : Bytes n => d i :=
  fun _ _ h => h.byte i hi

/-- A value of a byte that only depends on the bits of the mask. -/
theorem Reads.bits {f : UInt8 → α} (i : Fin n) (hf : ∀ x, f x = f (x &&& maskAt mask i)) :
    Reads mask fun d : Bytes n => f (d i) := by
  intro d d' h
  show f (d i) = f (d' i)
  rw [hf, h i, ← hf]

theorem Reads.map {get : Bytes n → α} (f : α → β) (h : Reads mask get) :
    Reads mask fun d => f (get d) :=
  fun d d' hd => congrArg f (h d d' hd)

theorem Reads.map₂ {get : Bytes n → α} {get' : Bytes n → β} (f : α → β → γ) (h : Reads mask get)
    (h' : Reads mask get') : Reads mask fun d => f (get d) (get' d) :=
  fun d d' hd => congrArg₂ f (h d d' hd) (h' d d' hd)

/-! ## Writing -/

/-- One byte, which keeps the bits that are not of the mask. -/
theorem Writes.setByte (i : Fin n) {x : Bytes n → UInt8}
    (hx : ∀ d, x d &&& ~~~maskAt mask i = d i &&& ~~~maskAt mask i) :
    Writes mask fun d => ByteMasks.setByte d i (x d) := by
  intro d j
  show ByteMasks.setByte d i (x d) j &&& _ = _
  by_cases hj : j = i
  · rw [hj, setByte_self, hx]
  · rw [setByte_of_ne hj]

/-- One whole byte. -/
theorem Writes.byte (i : Fin n) (x : Bytes n → UInt8) (hi : maskAt mask i = 0xff) :
    Writes mask fun d => ByteMasks.setByte d i (x d) := by
  refine Writes.setByte i fun d => ?_
  rw [hi, show ~~~(0xff : UInt8) = 0 from rfl, UInt8.and_zero, UInt8.and_zero]

theorem Writes.comp {run run' : Bytes n → Bytes n} (h : Writes mask run) (h' : Writes mask run') :
    Writes mask fun d => run' (run d) := by
  intro d i
  rw [h' (run d) i, h d i]

/-- Assignments to whole bytes. -/
theorem writes_setBytes {assignments : List (Fin n × UInt8)}
    (h : (assignments.map Prod.fst).all (fun i => maskAt mask i = 0xff) = true) :
    Writes mask fun d => setBytes d assignments := by
  induction assignments with
  | nil => exact fun d i => rfl
  | cons a assignments ih =>
    rw [List.map_cons, List.all_cons, Bool.and_eq_true] at h
    exact (Writes.byte a.1 (fun _ => a.2) (of_decide_eq_true h.1)).comp (ih h.2)

end

/-! ## Parts of an array -/

/-- `count` bytes from `start` on. -/
def slice (d : Bytes n) (start count : Nat) (h : start + count ≤ n) : Bytes count :=
  fun i => d ⟨start + i, by omega⟩

/-- `memcpy` to `start` -/
def memcpy (d : Bytes n) (start count : Nat) (bytes : Bytes count) : Bytes n :=
  fun i => if h : start ≤ i ∧ i < start + count then bytes ⟨i - start, by omega⟩ else d i

theorem slice_memcpy (d : Bytes n) {start count : Nat} (h : start + count ≤ n) (bytes : Bytes count) :
    slice (memcpy d start count bytes) start count h = bytes := by
  funext i
  unfold slice memcpy
  rw [dif_pos ⟨by simp, by simp⟩]
  congr 1
  ext
  simp

theorem maskAt_wholeBytes {start count i : Nat} (h : start ≤ i ∧ i < start + count) :
    maskAt (wholeBytes start count) i = 0xff := by
  unfold maskAt wholeBytes
  rw [List.getD_append_right _ _ _ _ (by simpa using h.1), List.length_replicate,
    List.getD_replicate _ (by omega)]

theorem reads_slice {start count : Nat} (h : start + count ≤ n) :
    Reads (wholeBytes start count) fun d : Bytes n => slice d start count h := by
  intro d d' hd
  funext i
  exact hd.byte _ (maskAt_wholeBytes ⟨by simp, by simp⟩)

theorem writes_memcpy {start count : Nat} (bytes : Bytes count) :
    Writes (wholeBytes start count) fun d : Bytes n => memcpy d start count bytes := by
  intro d i
  by_cases hi : start ≤ i ∧ i < start + count
  · rw [maskAt_wholeBytes hi, show ~~~(0xff : UInt8) = 0 from rfl, UInt8.and_zero, UInt8.and_zero]
  · show (if h : start ≤ i ∧ i < start + count then _ else d i) &&& _ = _
    rw [dif_neg hi]

/-! ## Numbers -/

/-- The bits from bit `k` on are the byte from there on and the bits behind it. -/
theorem shift_or_byte {w : Nat} (v : BitVec w) (k : Nat) :
    (v >>> (k + 8)) <<< (k + 8) ||| ((v >>> k).setWidth 8).setWidth w <<< k = (v >>> k) <<< k := by
  refine BitVec.eq_of_getLsbD_eq fun i hi => ?_
  simp only [BitVec.getLsbD_or, BitVec.getLsbD_shiftLeft, BitVec.getLsbD_ushiftRight,
    BitVec.getLsbD_setWidth, hi, decide_true, Bool.true_and]
  by_cases hk : i < k
  · simp [hk, show i < k + 8 by omega]
  · have hback : k + (i - k) = i := by omega
    by_cases hk' : i < k + 8
    · simp [hk, hk', hback, show i - k < w by omega, show i - k < 8 by omega]
    · simp [hk, hk', hback, show k + 8 + (i - (k + 8)) = i by omega, show ¬i - k < 8 by omega]

theorem shift_or_byte_top {w : Nat} (v : BitVec w) {k : Nat} (h : w ≤ k + 8) :
    ((v >>> k).setWidth 8).setWidth w <<< k = (v >>> k) <<< k := by
  rw [← shift_or_byte, BitVec.ushiftRight_eq_zero h, BitVec.zero_shiftLeft, BitVec.zero_or]

theorem shift_or_byte_zero {w : Nat} (v : BitVec w) :
    (v >>> 8) <<< 8 ||| (v.setWidth 8).setWidth w = v := by
  have h := shift_or_byte v 0
  simp only [BitVec.shiftLeft_zero, BitVec.ushiftRight_zero, Nat.zero_add] at h
  exact h

/-- The number in network byte order. -/
def number (bytes : Bytes n) : Nat := (List.ofFn bytes).foldl (fun v x => 256 * v + x.toNat) 0

/-- The bytes of a number in network byte order. -/
def toBytes (n v : Nat) : Bytes n := fun i => UInt8.ofNat (v / 256 ^ (n - 1 - i))

/-- **Reading back.** -/
theorem number_toBytes (n v : Nat) : number (toBytes n v) = v % 256 ^ n := by
  induction n generalizing v with
  | zero => simp [number, Nat.mod_one]
  | succ n ih =>
    have hinit : (fun i : Fin n => toBytes (n + 1) v i.castSucc) = toBytes n (v / 256) := by
      funext i
      unfold toBytes
      have hexponent : n + 1 - 1 - (i.castSucc : Nat) = n - 1 - i + 1 := by
        have := i.isLt
        simp only [Fin.val_castSucc]
        omega
      rw [hexponent, Nat.pow_succ', Nat.div_div_eq_div_mul]
    have hlast : (toBytes (n + 1) v (Fin.last n)).toNat = v % 256 := by
      unfold toBytes
      simp
    unfold number at ih ⊢
    rw [List.ofFn_succ', List.concat_eq_append, List.foldl_append, hinit, ih, List.foldl_cons,
      List.foldl_nil, hlast, Nat.pow_succ', Nat.mod_mul, Nat.add_comm]

end ByteMasks
