import Mathlib.Algebra.Group.Int.Defs
import Mathlib.Algebra.Group.Nat.Defs
import Mathlib.Data.List.TakeWhile

/-!
# Numbers as texts

`text base n` is a number in digits, with small letters, and `scan base s` is what `strtoull` makes of
the begin of a text: the number, modulo 2^64 if it has a minus sign, and how many characters it has
read.  A number is read back from its digits, also behind zeros:

    n < 2^64 → scan base (padded base width n ++ rest) = .ok (n, length)   (scan_padded)

A number that is a whole text is also read in front of other text (`scan_append`).
-/

namespace HiPerConTracer.Numeral

/-! ## Digits -/

def text (base n : Nat) : List Char := Nat.toDigits base n

/-- With zeros in front, up to the width. -/
def padded (base width n : Nat) : List Char :=
  List.replicate (width - (text base n).length) '0' ++ text base n

def digitValue (c : Char) : Option Nat :=
  if '0' ≤ c ∧ c ≤ '9' then some (c.toNat - '0'.toNat)
  else if 'a' ≤ c ∧ c ≤ 'z' then some (c.toNat - 'a'.toNat + 10)
  else if 'A' ≤ c ∧ c ≤ 'Z' then some (c.toNat - 'A'.toNat + 10)
  else none

def isDigitOf (base : Nat) (c : Char) : Bool :=
  match digitValue c with
  | some d => d < base
  | none => false

def value (base : Nat) (digits : List Char) : Nat :=
  digits.foldl (fun v c => base * v + (digitValue c).getD 0) 0

/-! ## Reading -/

inductive ScanError where
  | noDigits
  | outOfRange
deriving DecidableEq, Repr

def isSpace (c : Char) : Bool := [' ', '\t', '\n', '\x0b', '\x0c', '\r'].contains c

/-- Whether there is a minus sign, and the length of the sign. -/
def sign : List Char → Bool × Nat
  | '-' :: _ => (true, 1)
  | '+' :: _ => (false, 1)
  | _ => (false, 0)

/-- The length of a hexadecimal mark, which only counts in front of a digit. -/
def mark (base : Nat) : List Char → Nat
  | '0' :: x :: d :: _ => if base = 16 ∧ (x = 'x' ∨ x = 'X') ∧ isDigitOf 16 d then 2 else 0
  | _ => 0

def scan (base : Nat) (s : List Char) : Except ScanError (Nat × Nat) :=
  let spaces := (s.takeWhile isSpace).length
  let (negative, signLength) := sign (s.drop spaces)
  let start := spaces + signLength
  let start := start + mark base (s.drop start)
  let digits := (s.drop start).takeWhile (isDigitOf base)
  if digits = [] then .error .noDigits
  else if 2 ^ 64 ≤ value base digits then .error .outOfRange
  else
    .ok (if negative then (2 ^ 64 - value base digits) % 2 ^ 64 else value base digits,
      start + digits.length)

/-! ## The value of a text -/

variable {base : Nat}

theorem digitValue_digitChar : ∀ d < 16, digitValue (Nat.digitChar d) = some d := by decide

theorem isDigitOf_digitChar (hb : base ≤ 16) {d : Nat} (hd : d < base) :
    isDigitOf base (Nat.digitChar d) = true := by
  unfold isDigitOf
  rw [digitValue_digitChar d (by omega)]
  exact decide_eq_true hd

theorem value_append (digits : List Char) (c : Char) :
    value base (digits ++ [c]) = base * value base digits + (digitValue c).getD 0 := by
  unfold value
  rw [List.foldl_append]
  rfl

theorem text_of_base_le (h1 : 1 < base) {n : Nat} (h : base ≤ n) :
    text base n = text base (n / base) ++ [Nat.digitChar (n % base)] :=
  Nat.toDigits_of_base_le h1 h

theorem text_of_lt_base {n : Nat} (h : n < base) : text base n = [Nat.digitChar n] :=
  Nat.toDigits_of_lt_base h

theorem text_ne_nil (n : Nat) : text base n ≠ [] := Nat.toDigits_ne_nil

theorem value_text (h1 : 1 < base) (hb : base ≤ 16) (n : Nat) : value base (text base n) = n := by
  induction n using Nat.strongRecOn with
  | ind n ih =>
    by_cases hn : n < base
    · rw [text_of_lt_base hn]
      show base * 0 + (digitValue (Nat.digitChar n)).getD 0 = n
      rw [digitValue_digitChar n (by omega), Option.getD_some]
      omega
    · have hmod := Nat.mod_lt n (show 0 < base by omega)
      rw [text_of_base_le h1 (by omega), value_append,
        ih (n / base) (Nat.div_lt_self (by omega) h1), digitValue_digitChar _ (by omega),
        Option.getD_some]
      exact Nat.div_add_mod n base

theorem mem_text (h1 : 1 < base) {n : Nat} {c : Char} (hc : c ∈ text base n) :
    ∃ d < base, c = Nat.digitChar d := by
  induction n using Nat.strongRecOn with
  | ind n ih =>
    by_cases hn : n < base
    · rw [text_of_lt_base hn] at hc
      exact ⟨n, hn, List.mem_singleton.mp hc⟩
    · rw [text_of_base_le h1 (by omega)] at hc
      rcases List.mem_append.mp hc with hc | hc
      · exact ih (n / base) (Nat.div_lt_self (by omega) h1) hc
      · exact ⟨n % base, Nat.mod_lt n (by omega), List.mem_singleton.mp hc⟩

theorem isDigitOf_text (h1 : 1 < base) (hb : base ≤ 16) (n : Nat) :
    ∀ c ∈ text base n, isDigitOf base c = true := by
  intro c hc
  obtain ⟨d, hd, rfl⟩ := mem_text h1 hc
  exact isDigitOf_digitChar hb hd

theorem space_not_mem_text (h1 : 1 < base) (hb : base ≤ 16) (n : Nat) : ' ' ∉ text base n := by
  intro h
  have hdigit := isDigitOf_text h1 hb n ' ' h
  cases hdigit

theorem value_zeros (k : Nat) (digits : List Char) :
    value base (List.replicate k '0' ++ digits) = value base digits := by
  unfold value
  rw [List.foldl_append]
  congr 1
  induction k with
  | zero => rfl
  | succ k ih =>
    rw [List.replicate_succ, List.foldl_cons]
    exact ih

theorem value_padded (h1 : 1 < base) (hb : base ≤ 16) (width n : Nat) :
    value base (padded base width n) = n := by
  unfold padded
  rw [value_zeros, value_text h1 hb]

theorem padded_length (h1 : 1 < base) {width n : Nat} (hw : 0 < width) (hn : n < base ^ width) :
    (padded base width n).length = width := by
  have hlength : (text base n).length ≤ width := (Nat.length_toDigits_le_iff h1 hw).mpr hn
  unfold padded
  rw [List.length_append, List.length_replicate]
  omega

theorem mem_padded (h1 : 1 < base) {width n : Nat} {c : Char} (hc : c ∈ padded base width n) :
    ∃ d < base, c = Nat.digitChar d := by
  unfold padded at hc
  rcases List.mem_append.mp hc with hc | hc
  · exact ⟨0, by omega, List.eq_of_mem_replicate hc⟩
  · exact mem_text h1 hc

theorem isDigitOf_padded (h1 : 1 < base) (hb : base ≤ 16) (width n : Nat) :
    ∀ c ∈ padded base width n, isDigitOf base c = true := by
  intro c hc
  obtain ⟨d, hd, rfl⟩ := mem_padded h1 hc
  exact isDigitOf_digitChar hb hd

/-! ## Reading a text back -/

theorem isDigitOf_mono {base' : Nat} (hb : base ≤ base') {c : Char}
    (h : isDigitOf base c = true) : isDigitOf base' c = true := by
  unfold isDigitOf at h ⊢
  split at h
  · next d hd =>
    have hlt := of_decide_eq_true h
    exact decide_eq_true (by omega)
  · cases h

theorem not_isSpace {c : Char} (h : isDigitOf base c = true) : isSpace c = false := by
  cases hs : isSpace c with
  | false => rfl
  | true =>
    have hmem := List.contains_iff_mem.mp hs
    simp only [List.mem_cons, List.not_mem_nil, or_false] at hmem
    rcases hmem with rfl | rfl | rfl | rfl | rfl | rfl <;> cases h

theorem sign_digit {c : Char} (h : isDigitOf base c = true) (s : List Char) :
    sign (c :: s) = (false, 0) := by
  unfold sign
  split
  · next heq =>
    cases heq
    cases h
  · next heq =>
    cases heq
    cases h
  · rfl

/-- Digits are no mark: x is not a digit in a base up to 16. -/
theorem mark_digits (hb : base ≤ 16) {c : Char} {digits rest : List Char}
    (h : ∀ d ∈ c :: digits, isDigitOf base d = true)
    (hrest : ∀ d ∈ rest.head?, isDigitOf 36 d = false) :
    mark base (c :: (digits ++ rest)) = 0 := by
  unfold mark
  split
  · next x d s heq =>
    rw [List.cons.injEq] at heq
    rw [if_neg]
    rintro ⟨-, hx, -⟩
    have h36 : isDigitOf 36 x = true := by rcases hx with rfl | rfl <;> decide
    have h16 : isDigitOf 16 x = false := by rcases hx with rfl | rfl <;> decide
    cases digits with
    | nil =>
      rw [List.nil_append] at heq
      rw [hrest x (by rw [heq.2]; rfl)] at h36
      cases h36
    | cons y ys =>
      rw [List.cons_append, List.cons.injEq] at heq
      have hy := h y (List.mem_cons_of_mem _ List.mem_cons_self)
      rw [heq.2.1] at hy
      rw [isDigitOf_mono hb hy] at h16
      cases h16
  · rfl

/-- Digits are read up to the first character that is no digit in any base. -/
theorem scan_digits (hb : base ≤ 16) {digits rest : List Char}
    (h : ∀ d ∈ digits, isDigitOf base d = true) (hne : digits ≠ [])
    (hrest : ∀ d ∈ rest.head?, isDigitOf 36 d = false) (hlt : value base digits < 2 ^ 64) :
    scan base (digits ++ rest) = .ok (value base digits, digits.length) := by
  have htake : (digits ++ rest).takeWhile (isDigitOf base) = digits := by
    rw [List.takeWhile_append_of_pos h]
    cases rest with
    | nil => rw [List.takeWhile_nil, List.append_nil]
    | cons d s =>
      have hd : isDigitOf base d = false := by
        cases hyes : isDigitOf base d with
        | false => rfl
        | true =>
          have hno := hrest d rfl
          rw [isDigitOf_mono (by omega) hyes] at hno
          cases hno
      rw [List.takeWhile_cons_of_neg (by rw [hd]; decide), List.append_nil]
  cases digits with
  | nil => exact absurd rfl hne
  | cons c digits =>
    have hc := h c List.mem_cons_self
    have hspaces : ((c :: digits) ++ rest).takeWhile isSpace = [] := by
      rw [List.cons_append, List.takeWhile_cons_of_neg (by rw [not_isSpace hc]; decide)]
    have hmark := mark_digits hb h hrest
    unfold scan
    rw [hspaces]
    simp only [List.length_nil, List.drop_zero, Nat.zero_add]
    rw [List.cons_append, sign_digit hc]
    simp only [List.drop_zero]
    rw [hmark, List.drop_zero, ← List.cons_append, htake, if_neg hne, if_neg (by omega)]
    simp only [Bool.false_eq_true, if_false, Nat.zero_add]

/-- Digits behind a hexadecimal mark, as a whole text. -/
theorem scan_marked {x : Char} {digits : List Char} (hx : x = 'x' ∨ x = 'X')
    (h : ∀ d ∈ digits, isDigitOf 16 d = true) (hne : digits ≠ [])
    (hlt : value 16 digits < 2 ^ 64) :
    scan 16 ('0' :: x :: digits) = .ok (value 16 digits, 2 + digits.length) := by
  have htake : digits.takeWhile (isDigitOf 16) = digits := List.takeWhile_eq_self_iff.mpr h
  have hmark : mark 16 ('0' :: x :: digits) = 2 := by
    cases digits with
    | nil => exact absurd rfl hne
    | cons d digits =>
      unfold mark
      exact if_pos ⟨rfl, hx, h d List.mem_cons_self⟩
  have hspaces : ('0' :: x :: digits).takeWhile isSpace = [] :=
    List.takeWhile_cons_of_neg (by decide)
  unfold scan
  rw [hspaces]
  simp only [List.length_nil, List.drop_zero, Nat.zero_add]
  rw [sign_digit (show isDigitOf 16 '0' = true by decide)]
  simp only [List.drop_zero]
  rw [hmark, List.drop_succ_cons, List.drop_succ_cons, List.drop_zero, htake, if_neg hne,
    if_neg (by omega)]
  simp only [Bool.false_eq_true, if_false, Nat.zero_add]

/-- **Reading back.**  A number behind zeros is read up to the end of its text. -/
theorem scan_padded (h1 : 1 < base) (hb : base ≤ 16) (width : Nat) {n : Nat} {rest : List Char}
    (hrest : ∀ d ∈ rest.head?, isDigitOf 36 d = false) (hlt : n < 2 ^ 64) :
    scan base (padded base width n ++ rest) = .ok (n, (padded base width n).length) := by
  have hvalue := value_padded h1 hb width n
  have hscan : scan base (padded base width n ++ rest) =
      .ok (value base (padded base width n), (padded base width n).length) := by
    refine scan_digits hb ?_ ?_ hrest (by omega)
    · unfold padded
      rw [List.forall_mem_append]
      refine ⟨fun d hd => ?_, isDigitOf_text h1 hb n⟩
      rw [List.eq_of_mem_replicate hd]
      exact isDigitOf_digitChar hb (show 0 < base by omega)
    · unfold padded
      exact List.append_ne_nil_of_right_ne_nil _ (text_ne_nil n)
  rw [hvalue] at hscan
  exact hscan

theorem scan_text (h1 : 1 < base) (hb : base ≤ 16) {n : Nat} {rest : List Char}
    (hrest : ∀ d ∈ rest.head?, isDigitOf 36 d = false) (hlt : n < 2 ^ 64) :
    scan base (text base n ++ rest) = .ok (n, (text base n).length) := by
  have h := scan_padded h1 hb 0 hrest hlt
  unfold padded at h
  rw [Nat.zero_sub, List.replicate_zero, List.nil_append] at h
  exact h

/-- A minus sign takes the number from 2^64. -/
theorem scan_minus (h1 : 1 < base) (hb : base ≤ 16) {n : Nat} (hlt : n < 2 ^ 64) :
    scan base ('-' :: text base n) = .ok ((2 ^ 64 - n) % 2 ^ 64, 1 + (text base n).length) := by
  have hdigits := isDigitOf_text h1 hb n
  have hvalue := value_text h1 hb n
  have hne : text base n ≠ [] := text_ne_nil n
  generalize text base n = digits at *
  have htake : digits.takeWhile (isDigitOf base) = digits :=
    List.takeWhile_eq_self_iff.mpr hdigits
  have hmark : mark base digits = 0 := by
    cases digits with
    | nil => exact absurd rfl hne
    | cons c digits =>
      have h := @mark_digits base hb c digits [] hdigits (fun _ hd => by cases hd)
      rwa [List.append_nil] at h
  have hspaces : ('-' :: digits).takeWhile isSpace = [] := List.takeWhile_cons_of_neg (by decide)
  unfold scan
  rw [hspaces]
  simp only [List.length_nil, List.drop_zero, Nat.zero_add]
  rw [show sign ('-' :: digits) = (true, 1) from rfl]
  simp only [List.drop_succ_cons, List.drop_zero, hmark, Nat.add_zero, htake]
  rw [if_neg hne, hvalue, if_neg (by omega), if_pos trivial]

/-- A space in front is skipped. -/
theorem scan_space {c : Char} (hc : isSpace c = true) {s : List Char} {n index : Nat}
    (h : scan base s = .ok (n, index)) : scan base (c :: s) = .ok (n, index + 1) := by
  unfold scan at h ⊢
  rw [List.takeWhile_cons_of_pos hc]
  simp only [List.length_cons, List.drop_succ_cons, Nat.add_right_comm _ 1] at h ⊢
  split at h
  · cases h
  · next hdigits =>
    split at h
    · cases h
    · next hrange =>
      obtain ⟨hn, hindex⟩ := Prod.mk.inj (Except.ok.inj h)
      rw [if_neg hdigits, if_neg hrange, hn, hindex]

/-! ## Text behind a number -/

theorem takeWhile_append_of_lt {p : Char → Bool} {s : List Char}
    (h : (s.takeWhile p).length < s.length) (rest : List Char) :
    (s ++ rest).takeWhile p = s.takeWhile p := by
  induction s with
  | nil => cases h
  | cons c s ih =>
    rw [List.cons_append]
    by_cases hc : p c = true
    · rw [List.takeWhile_cons_of_pos hc] at h
      rw [List.takeWhile_cons_of_pos hc, List.takeWhile_cons_of_pos hc, ih (by simpa using h)]
    · rw [List.takeWhile_cons_of_neg hc, List.takeWhile_cons_of_neg hc]

theorem sign_append {s : List Char} (hne : s ≠ []) (rest : List Char) :
    sign (s ++ rest) = sign s := by
  have hno : ∀ (c : Char) (t : List Char), c ≠ '-' → c ≠ '+' → sign (c :: t) = (false, 0) := by
    intro c t hminus hplus
    unfold sign
    split
    · next heq => exact absurd (List.cons.inj heq).1 hminus
    · next heq => exact absurd (List.cons.inj heq).1 hplus
    · rfl
  cases s with
  | nil => exact absurd rfl hne
  | cons c s =>
    rw [List.cons_append]
    by_cases hminus : c = '-'
    · subst hminus
      rfl
    · by_cases hplus : c = '+'
      · subst hplus
        rfl
      · rw [hno c _ hminus hplus, hno c _ hminus hplus]

theorem mark_append {s rest : List Char} (hne : s ≠ [])
    (hrest : ∀ d ∈ rest.head?, isDigitOf 36 d = false) : mark base (s ++ rest) = mark base s := by
  have hzero : ∀ (c : Char) (t : List Char), c ≠ '0' → mark base (c :: t) = 0 := by
    intro c t hc
    unfold mark
    split
    · next heq => exact absurd (List.cons.inj heq).1 hc
    · rfl
  have hx : ∀ x ∈ rest.head?, ¬ (x = 'x' ∨ x = 'X') := by
    rintro x hhead (rfl | rfl)
    · exact absurd (hrest 'x' hhead) (by decide)
    · exact absurd (hrest 'X' hhead) (by decide)
  have hdigit : ∀ d ∈ rest.head?, ¬ isDigitOf 16 d = true := by
    intro d hhead h16
    have h36 : isDigitOf 36 d = true := isDigitOf_mono (by decide) h16
    rw [hrest d hhead] at h36
    cases h36
  cases s with
  | nil => exact absurd rfl hne
  | cons c s =>
    by_cases hc : c = '0'
    · subst hc
      match s, rest, hx, hdigit with
      | [], [], _, _ => rfl
      | [], [x], _, _ => rfl
      | [], x :: d :: rest, hx, _ => exact if_neg fun h => hx x rfl h.2.1
      | [b], [], _, _ => rfl
      | [b], d :: rest, _, hdigit => exact if_neg fun h => hdigit d rfl h.2.2
      | b :: d :: s, rest, _, _ => rfl
    · rw [List.cons_append, hzero c _ hc, hzero c _ hc]

/-- A number that is the whole text is the same in front of something that is not a digit. -/
theorem scan_append {s rest : List Char} {n : Nat} (hb : base ≤ 36)
    (hrest : ∀ d ∈ rest.head?, isDigitOf 36 d = false) (h : scan base s = .ok (n, s.length)) :
    scan base (s ++ rest) = .ok (n, s.length) := by
  unfold scan at h ⊢
  simp only at h ⊢
  split at h
  · cases h
  · next hdigits =>
    split at h
    · cases h
    · next hrange =>
      obtain ⟨hn, hlength⟩ := Prod.mk.inj (Except.ok.inj h)
      -- the parts of the text in front of the digits, and the digits up to its end
      generalize hspaces : (s.takeWhile isSpace).length = spaces at *
      generalize hsign : sign (s.drop spaces) = signed at *
      obtain ⟨negative, signLength⟩ := signed
      dsimp only at *
      generalize hstart : spaces + signLength = start at *
      generalize hbegin : start + mark base (s.drop start) = begin' at *
      have hle : ∀ k, k ≤ begin' → k < s.length := by
        intro k hk
        have hpos := List.length_pos_iff.mpr hdigits
        omega
      have hdrop : ∀ k, k ≤ begin' → s.drop k ≠ [] ∧ (s ++ rest).drop k = s.drop k ++ rest := by
        intro k hk
        have hlt := hle k hk
        refine ⟨fun hnil => ?_, List.drop_append_of_le_length (by omega)⟩
        rw [List.drop_eq_nil_iff] at hnil
        omega
      have hspaces' : ((s ++ rest).takeWhile isSpace).length = spaces := by
        rw [takeWhile_append_of_lt (by rw [hspaces]; exact hle _ (by omega)), hspaces]
      have hwhole : (s.drop begin').takeWhile (isDigitOf base) = s.drop begin' := by
        apply (List.takeWhile_prefix _).eq_of_length
        rw [List.length_drop]
        omega
      have hdigits' : ((s ++ rest).drop begin').takeWhile (isDigitOf base) =
          (s.drop begin').takeWhile (isDigitOf base) := by
        rw [(hdrop begin' (Nat.le_refl _)).2, List.takeWhile_append_of_pos, hwhole]
        · cases rest with
          | nil => rw [List.takeWhile_nil, List.append_nil]
          | cons d rest =>
            have hd : ¬ isDigitOf base d = true := by
              intro hyes
              have h36 := isDigitOf_mono hb hyes
              rw [hrest d rfl] at h36
              cases h36
            rw [List.takeWhile_cons_of_neg hd, List.append_nil]
        · exact List.takeWhile_eq_self_iff.mp hwhole
      rw [hspaces', (hdrop spaces (by omega)).2, sign_append (hdrop spaces (by omega)).1, hsign]
      dsimp only
      rw [hstart, (hdrop start (by omega)).2, mark_append (hdrop start (by omega)).1 hrest, hbegin,
        hdigits', if_neg hdigits, if_neg hrange, hn, hlength]
/-! ## What is read -/

/-- The characters of a number with a sign, behind spaces. -/
def isScanned (c : Char) : Bool := isSpace c || ['+', '-'].contains c || isDigitOf 36 c

theorem sign_scanned (s : List Char) : ∀ c ∈ s.take (sign s).2, isScanned c = true := by
  intro c hc
  unfold sign at hc
  split at hc
  · rw [List.mem_singleton.mp hc]
    decide
  · rw [List.mem_singleton.mp hc]
    decide
  · cases hc

theorem mark_scanned (s : List Char) : ∀ c ∈ s.take (mark base s), isScanned c = true := by
  intro c hc
  unfold mark at hc
  split at hc
  · next x d rest =>
    split at hc
    · next h =>
      simp only [List.take_succ_cons, List.take_zero, List.mem_cons, List.not_mem_nil,
        or_false] at hc
      rcases hc with rfl | rfl
      · decide
      · rcases h.2.1 with rfl | rfl <;> decide
    · cases hc
  · cases hc

theorem of_mem_takeWhile {p : Char → Bool} {s : List Char} {c : Char}
    (h : c ∈ s.take (s.takeWhile p).length) : p c = true := by
  rw [← List.prefix_iff_eq_take.mp (List.takeWhile_prefix p)] at h
  exact List.mem_takeWhile_imp h

/-- What `scan` has read consists of such characters. -/
theorem scan_scanned (hb : base ≤ 36) {s : List Char} {n index : Nat}
    (h : scan base s = .ok (n, index)) : ∀ c ∈ s.take index, isScanned c = true := by
  unfold scan at h
  simp only at h
  split at h
  · cases h
  · split at h
    · cases h
    · obtain ⟨-, rfl⟩ := Prod.mk.inj (Except.ok.inj h)
      intro c hc
      simp only [List.take_add, List.mem_append] at hc
      rcases hc with ((hc | hc) | hc) | hc
      · unfold isScanned
        rw [of_mem_takeWhile hc]
        rfl
      · exact sign_scanned _ c hc
      · exact mark_scanned _ c hc
      · unfold isScanned
        rw [isDigitOf_mono hb (of_mem_takeWhile hc), Bool.or_true]

/-! ## Decimal texts as strings -/

theorem not_mem_toString {c : Char} (hc : c.isDigit = false) (n : Nat) :
    c ∉ (toString n).toList := by
  intro h
  rw [Nat.toString_eq_ofList_toDigits, String.toList_ofList] at h
  have hdigit := Nat.isDigit_of_mem_toDigits (by decide) (by decide) h
  rw [hc] at hdigit
  cases hdigit

theorem toString_injective : Function.Injective (fun n : Nat => toString n) := by
  intro m n h
  have hvalue := congrArg (fun s : String => Nat.ofDigitChars 10 s.toList 0) h
  simp only [Nat.toString_eq_ofList_toDigits, String.toList_ofList,
    Nat.ofDigitChars_ten_toDigits] at hvalue
  exact hvalue

end HiPerConTracer.Numeral
