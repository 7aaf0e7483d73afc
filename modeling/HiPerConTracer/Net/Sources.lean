import HiPerConTracer.Net.Address
import HiPerConTracer.Results.Conversions
import Mathlib.Data.Finset.Insert
import Mathlib.Data.Finset.Lattice.Lemmas

/-!
# Source specifications (`tools.cc`)

`addSourceAddress` inserts the address and each traffic class as soon as it has been read, and reads
numbers with `strtoul`.  It adds exactly the classes of a specification, or nothing

    AddsExactly … ↔ (all tokens are traffic classes) ∨
      (a token is refused, and the address has the classes of the tokens before it already)
                                                                        (addSourceAddress_exact_iff)
-/

namespace HiPerConTracer.Net
open Results (Text cString)

/-! ## Traffic classes -/

structure DSCPValue where
  name : Text
  value : UInt8

/-- `DSCP_TO_TRAFFICCLASS` -/
def dscpToTrafficClass (x : UInt8) : UInt8 := x <<< 2

/-- `DSCPValuesTable` -/
def dscpValuesTable : List DSCPValue := [
  ⟨['B', 'E'], dscpToTrafficClass 0x00⟩,
  ⟨['E', 'F'], dscpToTrafficClass 0x2e⟩,
  ⟨['A', 'F', '1', '1'], dscpToTrafficClass 0x0a⟩,
  ⟨['A', 'F', '1', '2'], dscpToTrafficClass 0x0c⟩,
  ⟨['A', 'F', '1', '3'], dscpToTrafficClass 0x0e⟩,
  ⟨['A', 'F', '2', '1'], dscpToTrafficClass 0x12⟩,
  ⟨['A', 'F', '2', '2'], dscpToTrafficClass 0x14⟩,
  ⟨['A', 'F', '2', '3'], dscpToTrafficClass 0x16⟩,
  ⟨['A', 'F', '3', '1'], dscpToTrafficClass 0x1a⟩,
  ⟨['A', 'F', '3', '2'], dscpToTrafficClass 0x1c⟩,
  ⟨['A', 'F', '3', '3'], dscpToTrafficClass 0x1e⟩,
  ⟨['A', 'F', '4', '1'], dscpToTrafficClass 0x22⟩,
  ⟨['A', 'F', '4', '2'], dscpToTrafficClass 0x24⟩,
  ⟨['A', 'F', '4', '3'], dscpToTrafficClass 0x26⟩,
  ⟨['C', 'S', '1'], dscpToTrafficClass 0x08⟩,
  ⟨['C', 'S', '2'], dscpToTrafficClass 0x10⟩,
  ⟨['C', 'S', '3'], dscpToTrafficClass 0x18⟩,
  ⟨['C', 'S', '4'], dscpToTrafficClass 0x20⟩,
  ⟨['C', 'S', '5'], dscpToTrafficClass 0x28⟩,
  ⟨['C', 'S', '6'], dscpToTrafficClass 0x30⟩,
  ⟨['C', 'S', '7'], dscpToTrafficClass 0x38⟩]

def dscpValue (name : Text) : Option UInt8 :=
  (dscpValuesTable.find? fun entry => entry.name = name).map DSCPValue.value

/-- `std::strtoul` with base 16 -/
def strtoul (s : Text) : Nat :=
  match Numeral.scan 16 s with
  | .ok (n, _) => n
  | .error .noDigits => 0
  | .error .outOfRange => 2 ^ 64 - 1

/-- What `addSourceAddress` takes a token for, if it does not refuse it. -/
def trafficClass (token : Text) : Option UInt8 :=
  match dscpValue (cString token) with
  | some value => some value
  | none =>
    let trafficClass := UInt32.ofNat (strtoul (cString token))
    if trafficClass > 0xff then none else some trafficClass.toUInt8

def withoutMark : Text → Text
  | '0' :: x :: digits => if x = 'x' ∨ x = 'X' then digits else '0' :: x :: digits
  | token => token

/-- Hexadecimal digits, with or without a mark. -/
def hexadecimal (token : Text) : Option Nat :=
  let digits := withoutMark token
  if digits ≠ [] ∧ digits.all (Numeral.isDigitOf 16) = true then some (Numeral.value 16 digits)
  else none

/-- The traffic class of a token: the name of a DSCP, or a hexadecimal number with 8 bits. -/
def tokenClass (token : Text) : Option UInt8 :=
  match dscpValue token with
  | some value => some value
  | none => (hexadecimal token).bind fun n => if n ≤ 0xff then some (UInt8.ofNat n) else none

theorem cString_of_not_mem {s : Text} (h : '\x00' ∉ s) : cString s = s := by
  unfold cString
  rw [List.takeWhile_eq_self_iff]
  intro c hc
  exact decide_eq_true fun heq => h (heq ▸ hc)

theorem null_not_mem_name : ∀ entry ∈ dscpValuesTable, '\x00' ∉ entry.name := by decide

theorem null_not_mem_of_dscpValue {token : Text} {value : UInt8} (h : dscpValue token = some value) :
    '\x00' ∉ token := by
  obtain ⟨entry, hfind, -⟩ := Option.map_eq_some_iff.mp h
  have hname := List.find?_some hfind
  rw [← of_decide_eq_true hname]
  exact null_not_mem_name entry (List.mem_of_find?_eq_some hfind)

theorem withoutMark_cases (token : Text) :
    token = withoutMark token ∨
      ∃ x, (x = 'x' ∨ x = 'X') ∧ token = '0' :: x :: withoutMark token := by
  unfold withoutMark
  split
  · next x digits =>
    by_cases hx : x = 'x' ∨ x = 'X'
    · rw [if_pos hx]
      exact Or.inr ⟨x, hx, rfl⟩
    · rw [if_neg hx]
      exact Or.inl rfl
  · exact Or.inl rfl

/-- A number is read as such. -/
theorem strtoul_of_hexadecimal {token : Text} {n : Nat} (h : hexadecimal token = some n)
    (hn : n < 2 ^ 64) : '\x00' ∉ token ∧ strtoul token = n := by
  unfold hexadecimal at h
  obtain ⟨⟨hne, hall⟩, rfl⟩ : (withoutMark token ≠ [] ∧
      (withoutMark token).all (Numeral.isDigitOf 16) = true) ∧
        Numeral.value 16 (withoutMark token) = n := by
    simpa only [Option.ite_none_right_eq_some, Option.some.injEq] using h
  have hdigits := List.all_eq_true.mp hall
  have hnull : '\x00' ∉ withoutMark token := fun hmem => absurd (hdigits _ hmem) (by decide)
  unfold strtoul
  rcases withoutMark_cases token with htoken | ⟨x, hx, htoken⟩
  · have hscan : Numeral.scan 16 (withoutMark token ++ []) =
        .ok (Numeral.value 16 (withoutMark token), (withoutMark token).length) :=
      Numeral.scan_digits (by decide) hdigits hne (by intro d hd; cases hd) hn
    rw [List.append_nil, ← htoken] at hscan
    rw [hscan]
    exact ⟨htoken ▸ hnull, by rw [← htoken]⟩
  · have hscan := Numeral.scan_marked hx hdigits hne hn
    rw [← htoken] at hscan
    rw [hscan]
    refine ⟨?_, rfl⟩
    rw [htoken]
    simp only [List.mem_cons, not_or]
    refine ⟨by decide, ?_, hnull⟩
    rcases hx with rfl | rfl <;> decide

/-- A traffic class is read as such. -/
theorem trafficClass_of_tokenClass {token : Text} {c : UInt8} (h : tokenClass token = some c) :
    trafficClass token = some c := by
  unfold tokenClass at h
  cases hname : dscpValue token with
  | some value =>
    rw [hname] at h
    unfold trafficClass
    rw [cString_of_not_mem (null_not_mem_of_dscpValue hname), hname]
    exact h
  | none =>
    rw [hname] at h
    obtain ⟨n, hnumber, h⟩ := Option.bind_eq_some_iff.mp h
    by_cases hn : n ≤ 0xff
    · rw [if_pos hn] at h
      obtain ⟨hnull, hvalue⟩ := strtoul_of_hexadecimal hnumber (by omega)
      unfold trafficClass
      rw [cString_of_not_mem hnull, hname, hvalue]
      have hle : ¬UInt32.ofNat n > 0xff := by
        rw [gt_iff_lt, UInt32.lt_iff_toNat_lt, UInt32.toNat_ofNat_of_lt' (by show n < 2 ^ 32; omega)]
        show ¬255 < n
        omega
      show (if UInt32.ofNat n > 0xff then none else some (UInt32.ofNat n).toUInt8) = some c
      rw [if_neg hle, ← h, UInt32.toUInt8_ofNat']
    · rw [if_neg hn] at h
      cases h

/-! ## Source map -/

/-- The map from sources to traffic classes. -/
abbrev SourceMap := Address → Option (Finset UInt8)

namespace SourceMap

/-- `array.insert`, with no traffic class, if there is no entry. -/
def insertAddress (array : SourceMap) (address : Address) : SourceMap :=
  match array address with
  | none => Function.update array address (some ∅)
  | some _ => array

/-- `array[address].insert` -/
def insertClass (array : SourceMap) (address : Address) (trafficClass : UInt8) : SourceMap :=
  Function.update array address (some (insert trafficClass ((array address).getD ∅)))

def withClasses (array : SourceMap) (address : Address) (classes : Finset UInt8) : SourceMap :=
  Function.update array address (some ((array address).getD ∅ ∪ classes))

end SourceMap

section
variable (makeAddress : Text → Option Address) (resolve : Text → Option (List Text))

/-- The loop over the traffic classes. -/
def insertClasses (array : SourceMap) (address : Address) : List Text → Bool × SourceMap
  | [] => (true, array)
  | token :: tokens =>
    match trafficClass token with
    | none => (false, array)
    | some trafficClass => insertClasses (array.insertClass address trafficClass) address tokens

/-- What `addSourceAddress` does with the tokens behind a numeric address. -/
def insertSource (array : SourceMap) (address : Address) (tokens : List Text) : Bool × SourceMap :=
  let array := array.insertAddress address
  if tokens.length > 0 then insertClasses array address tokens
  else (true, array.insertClass address 0x00)

/-- `addSourceAddress` without `tryToResolve` -/
def addNumericSource (array : SourceMap) (addressString : Text) : Bool × SourceMap :=
  match addressString.splitOn ',' with
  | [] => (false, array)
  | first :: tokens =>
    match makeAddress first with
    | none => (false, array)
    | some address => insertSource array address tokens

/-- `addSourceAddress`, where `resolve` has the addresses of the endpoints as texts. -/
def addSourceAddress (array : SourceMap) (addressString : Text) (tryToResolve : Bool) :
    Bool × SourceMap :=
  match addressString.splitOn ',' with
  | [] => (false, array)
  | first :: _ =>
    match makeAddress first, tryToResolve, resolve first with
    | none, true, none => (false, array)
    | none, true, some endpoints =>
      (true, endpoints.foldl (fun array e => (addNumericSource makeAddress array e).2) array)
    | _, _, _ => addNumericSource makeAddress array addressString

end

/-! ## What is added -/

/-- The classes of the tokens before the first one that is refused. -/
def readClasses (tokens : List Text) : List UInt8 :=
  (tokens.takeWhile fun token => (trafficClass token).isSome).filterMap trafficClass

/-- The classes of a specification. -/
def specifiedClasses (tokens : List Text) : Finset UInt8 :=
  if tokens = [] then {0x00} else (tokens.filterMap tokenClass).toFinset

/-- All of a specification has been added, or nothing. -/
structure AddsExactly (array : SourceMap) (address : Address) (tokens : List Text)
    (result : Bool × SourceMap) : Prop where
  accepted : result.1 = true ↔ ∀ token ∈ tokens, (tokenClass token).isSome = true
  added : result.1 = true → result.2 = array.withClasses address (specifiedClasses tokens)
  unchanged : result.1 = false → result.2 = array

namespace SourceMap
variable {array : SourceMap} {address : Address} {classes : Finset UInt8}

theorem withClasses_eq_self_iff : array.withClasses address classes = array ↔
    ∃ present, array address = some present ∧ classes ⊆ present := by
  unfold withClasses
  rw [Function.update_eq_self_iff]
  cases h : array address with
  | none => simp
  | some present =>
    rw [Option.getD_some, Option.some.injEq, Finset.union_eq_left]
    exact ⟨fun hsub => ⟨present, rfl, hsub⟩, by rintro ⟨_, ⟨⟩, hsub⟩; exact hsub⟩

theorem insertAddress_apply :
    array.insertAddress address address = some ((array address).getD ∅) := by
  unfold insertAddress
  cases h : array address with
  | none => exact Function.update_self ..
  | some present => exact h

theorem insertAddress_withClasses :
    (array.insertAddress address).withClasses address classes = array.withClasses address classes := by
  unfold withClasses
  rw [insertAddress_apply]
  unfold insertAddress
  cases h : array address with
  | none => rw [Function.update_idem, Option.getD_some]
  | some present => rfl

theorem insertClass_eq (c : UInt8) :
    array.insertClass address c = array.withClasses address {c} := by
  unfold insertClass withClasses
  rw [Finset.insert_eq, Finset.union_comm]

theorem withClasses_withClasses (classes' : Finset UInt8) :
    (array.withClasses address classes).withClasses address classes' =
      array.withClasses address (classes ∪ classes') := by
  unfold withClasses
  rw [Function.update_self, Function.update_idem, Option.getD_some, Finset.union_assoc]

end SourceMap

/-- The tokens up to the first one that is refused are added. -/
theorem insertClasses_eq (tokens : List Text) {array : SourceMap} {address : Address}
    {present : Finset UInt8} (h : array address = some present) :
    insertClasses array address tokens =
      (tokens.all fun token => (trafficClass token).isSome,
        array.withClasses address (readClasses tokens).toFinset) := by
  have hempty {array : SourceMap} {present : Finset UInt8} (h : array address = some present) :
      array = array.withClasses address ∅ :=
    (SourceMap.withClasses_eq_self_iff.mpr ⟨present, h, Finset.empty_subset _⟩).symm
  induction tokens generalizing array present with
  | nil =>
    show (true, array) = (true, array.withClasses address ∅)
    rw [← hempty h]
  | cons token tokens ih =>
    unfold insertClasses readClasses
    rw [List.all_cons]
    cases htoken : trafficClass token with
    | none =>
      rw [List.takeWhile_cons_of_neg (by rw [htoken]; decide)]
      show (false, array) = (false, array.withClasses address ∅)
      rw [← hempty h]
    | some c =>
      rw [List.takeWhile_cons_of_pos (by rw [htoken]; rfl), List.filterMap_cons_some htoken,
        List.toFinset_cons, Finset.insert_eq, ← SourceMap.withClasses_withClasses,
        ← SourceMap.insertClass_eq]
      exact ih (Function.update_self ..)

theorem insertSource_eq {array : SourceMap} {address : Address} {tokens : List Text} :
    insertSource array address tokens =
      (tokens.all fun token => (trafficClass token).isSome,
        array.withClasses address
          (if tokens = [] then {0x00} else (readClasses tokens).toFinset)) := by
  unfold insertSource
  cases tokens with
  | nil =>
    show (true, _) = (true, _)
    rw [SourceMap.insertClass_eq, SourceMap.insertAddress_withClasses, if_pos rfl]
  | cons token tokens =>
    rw [if_neg (List.cons_ne_nil _ _)]
    show insertClasses _ _ _ = _
    rw [insertClasses_eq _ SourceMap.insertAddress_apply, SourceMap.insertAddress_withClasses]

/-- With traffic classes only, all of them are read. -/
theorem readClasses_of_valid {tokens : List Text}
    (h : ∀ token ∈ tokens, (tokenClass token).isSome = true) :
    readClasses tokens = tokens.filterMap tokenClass ∧
      (tokens.all fun token => (trafficClass token).isSome) = true := by
  have hsame : ∀ token ∈ tokens, trafficClass token = tokenClass token := by
    intro token htoken
    obtain ⟨c, hc⟩ := Option.isSome_iff_exists.mp (h token htoken)
    rw [trafficClass_of_tokenClass hc, hc]
  have hall : ∀ token ∈ tokens, (trafficClass token).isSome = true := by
    intro token htoken
    rw [hsame token htoken]
    exact h token htoken
  refine ⟨?_, List.all_eq_true.mpr hall⟩
  unfold readClasses
  rw [List.takeWhile_eq_self_iff.mpr hall]
  exact List.filterMap_congr hsame

/-- **Atomic specifications.**  All or nothing is added if and only if each token is a traffic class, or one
is refused, and what has been added before was there already. -/
theorem addSourceAddress_exact_iff (makeAddress : Text → Option Address)
    (resolve : Text → Option (List Text)) (array : SourceMap) (addressString first : Text)
    (tokens : List Text) (address : Address) (tryToResolve : Bool)
    (hsplit : addressString.splitOn ',' = first :: tokens) (haddress : makeAddress first = some address) :
    AddsExactly array address tokens
      (addSourceAddress makeAddress resolve array addressString tryToResolve) ↔
    (∀ token ∈ tokens, (tokenClass token).isSome = true) ∨
      (∃ token ∈ tokens, trafficClass token = none) ∧
        ∃ present, array address = some present ∧ ∀ c ∈ readClasses tokens, c ∈ present := by
  have hresult : addSourceAddress makeAddress resolve array addressString tryToResolve =
      insertSource array address tokens := by
    unfold addSourceAddress addNumericSource
    rw [hsplit]
    simp only [haddress]
  rw [hresult, insertSource_eq]
  by_cases hvalid : ∀ token ∈ tokens, (tokenClass token).isSome = true
  · obtain ⟨hread, hall⟩ := readClasses_of_valid hvalid
    rw [hall, hread]
    refine iff_of_true ⟨iff_of_true rfl hvalid, fun _ => ?_, fun hfalse => ?_⟩ (Or.inl hvalid)
    · rfl
    · cases hfalse
  · have hne : tokens ≠ [] := by
      rintro rfl
      exact hvalid fun token htoken => absurd htoken List.not_mem_nil
    rw [if_neg hne]
    by_cases hall : (tokens.all fun token => (trafficClass token).isSome) = true
    · -- a token that is no traffic class is read as one
      rw [hall]
      refine iff_of_false (fun h => hvalid (h.accepted.mp rfl)) ?_
      rintro (h | ⟨⟨token, htoken, hnone⟩, -⟩)
      · exact hvalid h
      · have hsome := List.all_eq_true.mp hall token htoken
        rw [hnone] at hsome
        cases hsome
    · have hrefused : ∃ token ∈ tokens, trafficClass token = none := by
        obtain ⟨token, htoken, hnot⟩ := List.all_eq_false.mp (Bool.eq_false_iff.mpr hall)
        exact ⟨token, htoken, Option.not_isSome_iff_eq_none.mp hnot⟩
      rw [Bool.eq_false_iff.mpr hall]
      have hunchanged : array.withClasses address (readClasses tokens).toFinset = array ↔
          ∃ present, array address = some present ∧ ∀ c ∈ readClasses tokens, c ∈ present := by
        rw [SourceMap.withClasses_eq_self_iff]
        simp only [Finset.subset_iff, List.mem_toFinset]
      constructor
      · intro h
        exact Or.inr ⟨hrefused, hunchanged.mp (h.unchanged rfl)⟩
      · rintro (h | ⟨-, h⟩)
        · exact absurd h hvalid
        · refine ⟨iff_of_false Bool.false_ne_true hvalid, fun htrue => ?_, fun _ => ?_⟩
          · cases htrue
          · exact hunchanged.mpr h

/-- A repeated specification that is refused. -/
theorem addSourceAddress_exact_repeated :
    AddsExactly (fun _ => some {0x2c}) (.v4 0x0a010101) [['0', 'x', '2', 'c'], ['1', '0', '0']]
      (addSourceAddress (fun _ => some (.v4 0x0a010101)) (fun _ => none) (fun _ => some {0x2c})
        ['1', '0', '.', '1', '.', '1', '.', '1', ',', '0', 'x', '2', 'c', ',', '1', '0', '0'] false) := by
  refine (addSourceAddress_exact_iff _ _ _ _ ['1', '0', '.', '1', '.', '1', '.', '1'] _ _ _ (by decide)
    rfl).mpr (Or.inr ⟨?_, ?_⟩)
  · exact ⟨_, List.mem_cons_of_mem _ List.mem_cons_self, by decide⟩
  · refine ⟨_, rfl, fun c hc => ?_⟩
    rw [show readClasses [['0', 'x', '2', 'c'], ['1', '0', '0']] = [0x2c] by decide] at hc
    exact Finset.mem_singleton.mpr (List.mem_singleton.mp hc)

/-- A token without digits is taken for the traffic class 0. -/
theorem addSourceAddress_noDigits :
    ¬AddsExactly (fun _ => none) (.v4 0x0a010101) [['q']]
      (addSourceAddress (fun _ => some (.v4 0x0a010101)) (fun _ => none) (fun _ => none)
        ['1', '0', '.', '1', '.', '1', '.', '1', ',', 'q'] false) := by
  intro h
  exact absurd (h.accepted.mp (by decide) _ List.mem_cons_self) (by decide)

end HiPerConTracer.Net
