import HiPerConTracer.Lib.Numeral
import HiPerConTracer.Net.Address

/-!
# Addresses as texts

`to_string` of an address: four numbers for IPv4, and for IPv6 groups in hexadecimal numbers, with the
first of the longest runs of zeros left out.  A scope identifier follows behind a percent sign.  Without
one, there are small hexadecimal digits, colons and points only (`isAddressChar_plainText`).
-/

namespace HiPerConTracer.Net

/-- The byte of an IPv4 address, from the left. -/
def ipv4Byte (value : UInt32) (i : Nat) : Nat := value.toNat / 256 ^ (3 - i) % 256

def ipv4Text (value : UInt32) : List Char :=
  Numeral.text 10 (ipv4Byte value 0) ++ '.' :: Numeral.text 10 (ipv4Byte value 1) ++
    '.' :: Numeral.text 10 (ipv4Byte value 2) ++ '.' :: Numeral.text 10 (ipv4Byte value 3)

/-- The 16-bit group of an IPv6 address, from the left. -/
def ipv6Group (value : BitVec 128) (i : Nat) : Nat := value.toNat / 65536 ^ (7 - i) % 65536

/-- How many groups are zero from the `i`-th one on. -/
def zerosFrom (value : BitVec 128) (i : Nat) : Nat :=
  ((List.range' i (8 - i)).takeWhile fun j => ipv6Group value j = 0).length

/-- The begin and the length of the first of the longest runs of zeros. -/
def longestZeros (value : BitVec 128) : Nat × Nat :=
  (List.range 8).foldl
    (fun best i => if best.2 < zerosFrom value i then (i, zerosFrom value i) else best) (0, 0)

/-- `inet_ntop`: one zero alone is written, and an IPv4 address behind zeros is written as such. -/
def ipv6Text (value : BitVec 128) : List Char :=
  let (base, length) := longestZeros value
  let shortened := 2 ≤ length
  let embedded := shortened ∧ base = 0 ∧
    (length = 6 ∨ (length = 5 ∧ ipv6Group value 5 = 0xffff))
  let groups := (List.range 8).flatMap fun i =>
    if shortened ∧ base ≤ i ∧ i < base + length then if i = base then [':'] else []
    else if embedded then
      if i = 6 then ':' :: ipv4Text (UInt32.ofNat (value.toNat % 2 ^ 32))
      else if i = 7 then []
      else ':' :: Numeral.text 16 (ipv6Group value i)
    else (if i = 0 then [] else [':']) ++ Numeral.text 16 (ipv6Group value i)
  groups ++ if shortened ∧ base + length = 8 then [':'] else []

/-- The name of the interface of a link-local address, or the scope identifier. -/
def zone (interfaceName : UInt32 → Option (List Char)) (value : BitVec 128) (scopeID : UInt32) :
    List Char :=
  let high := ipv6Group value 0
  let linkLocal := high / 64 = 0x3fa ∨ (high / 256 = 0xff ∧ high % 16 = 2)
  match interfaceName scopeID with
  | some name => if linkLocal then name else Numeral.text 10 scopeID.toNat
  | none => Numeral.text 10 scopeID.toNat

/-- `to_string`, with the names of the interfaces of the host. -/
def addressText (interfaceName : UInt32 → Option (List Char)) : Address → List Char
  | .v4 value => ipv4Text value
  | .v6 value scopeID =>
    ipv6Text value ++ if scopeID = 0 then [] else '%' :: zone interfaceName value scopeID

/-- The address without its scope identifier has this text. -/
def plainText : Address → List Char
  | .v4 value => ipv4Text value
  | .v6 value _ => ipv6Text value

def Address.hasScope : Address → Bool
  | .v4 _ => false
  | .v6 _ scopeID => scopeID ≠ 0

/-! ## Characters -/

/-- `[0-9a-f:.]` -/
def isAddressChar (c : Char) : Bool :=
  ('0' ≤ c && c ≤ '9') || ('a' ≤ c && c ≤ 'f') || c == ':' || c == '.'

theorem isAddressChar_text {base : Nat} (h1 : 1 < base) (hb : base ≤ 16) (n : Nat) :
    ∀ c ∈ Numeral.text base n, isAddressChar c = true := by
  intro c hc
  obtain ⟨d, hd, rfl⟩ := Numeral.mem_text h1 hc
  have hdigit : ∀ d < 16, isAddressChar (Nat.digitChar d) = true := by decide
  exact hdigit d (by omega)

theorem isAddressChar_ipv4Text (value : UInt32) : ∀ c ∈ ipv4Text value, isAddressChar c = true := by
  intro c hc
  have hbyte : ∀ i, ∀ c ∈ Numeral.text 10 (ipv4Byte value i), isAddressChar c = true :=
    fun i => isAddressChar_text (by decide) (by decide) _
  unfold ipv4Text at hc
  simp only [List.mem_append, List.mem_cons] at hc
  rcases hc with ((hc | rfl | hc) | rfl | hc) | rfl | hc
  · exact hbyte 0 c hc
  · rfl
  · exact hbyte 1 c hc
  · rfl
  · exact hbyte 2 c hc
  · rfl
  · exact hbyte 3 c hc

theorem isAddressChar_ipv6Text (value : BitVec 128) :
    ∀ c ∈ ipv6Text value, isAddressChar c = true := by
  have hgroup : ∀ i, ∀ c ∈ Numeral.text 16 (ipv6Group value i), isAddressChar c = true :=
    fun i => isAddressChar_text (by decide) (by decide) _
  have hcolon : ∀ c ∈ [':'], isAddressChar c = true := List.all_eq_true.mp (by decide)
  have hcons : ∀ l : List Char, (∀ c ∈ l, isAddressChar c = true) →
      ∀ c ∈ ':' :: l, isAddressChar c = true := by
    intro l hl c hc
    rcases List.mem_cons.mp hc with rfl | hc
    · rfl
    · exact hl c hc
  intro c hc
  unfold ipv6Text at hc
  rcases List.mem_append.mp hc with hc | hc
  · obtain ⟨i, -, hc⟩ := List.mem_flatMap.mp hc
    split at hc
    · split at hc
      · exact hcolon c hc
      · cases hc
    · split at hc
      · split at hc
        · exact hcons _ (isAddressChar_ipv4Text _) c hc
        · split at hc
          · cases hc
          · exact hcons _ (hgroup i) c hc
      · split at hc
        · exact hgroup i c hc
        · exact hcons _ (hgroup i) c hc
  · split at hc
    · exact hcolon c hc
    · cases hc

/-- **Without a scope identifier**, the text consists of such characters. -/
theorem isAddressChar_plainText (a : Address) : ∀ c ∈ plainText a, isAddressChar c = true := by
  cases a with
  | v4 value => exact isAddressChar_ipv4Text value
  | v6 value scopeID => exact isAddressChar_ipv6Text value

/-- The group of an IPv6 address at the begin is written, or a colon in place of it. -/
theorem ipv6Text_ne_nil (value : BitVec 128) : ipv6Text value ≠ [] := by
  unfold ipv6Text
  obtain ⟨base, length⟩ := longestZeros value
  simp only
  apply List.append_ne_nil_of_left_ne_nil
  rw [show List.range 8 = 0 :: List.range' 1 7 from rfl, List.flatMap_cons]
  apply List.append_ne_nil_of_left_ne_nil
  split
  · next h =>
    rw [if_pos (Nat.le_zero.mp h.2.1).symm]
    exact List.cons_ne_nil _ _
  · next h =>
    rw [if_neg fun hembedded => h ⟨hembedded.1, by omega, by omega⟩]
    exact List.append_ne_nil_of_right_ne_nil _ (Numeral.text_ne_nil _)

theorem plainText_ne_nil (a : Address) : plainText a ≠ [] := by
  cases a with
  | v4 value => exact List.append_ne_nil_of_right_ne_nil _ (List.cons_ne_nil _ _)
  | v6 value scopeID => exact ipv6Text_ne_nil value

/-! ## Scope identifiers -/

theorem addressText_of_not_hasScope (interfaceName : UInt32 → Option (List Char)) {a : Address}
    (h : a.hasScope = false) : addressText interfaceName a = plainText a := by
  cases a with
  | v4 value => rfl
  | v6 value scopeID =>
    have hzero : scopeID = 0 := not_not.mp (of_decide_eq_false h)
    subst hzero
    exact List.append_nil _

theorem addressText_of_hasScope (interfaceName : UInt32 → Option (List Char)) {a : Address}
    (h : a.hasScope = true) :
    ∃ value scopeID, addressText interfaceName a =
      plainText a ++ '%' :: zone interfaceName value scopeID := by
  cases a with
  | v4 value => cases h
  | v6 value scopeID =>
    have hne : scopeID ≠ 0 := of_decide_eq_true h
    exact ⟨value, scopeID, congrArg (ipv6Text value ++ ·) (if_neg hne)⟩

end HiPerConTracer.Net
