import HiPerConTracer.Results.Statement
import Mathlib.Data.List.Basic

/-!
# Sub-directories (`tools.cc`, `universal-importer.cc`)

`subDirectoryOf` leaves its loop with `return false` where its description has -1, and the -1 that it has
after an exception is a large number for a caller that is unsigned.  Both the result and the depth of the
directory traversal are right

    MeetsContract canonical path1 path2 ↔
      ∃ ca1 ca2, canonical path1 = some ca1 ∧ canonical path2 = some ca2 ∧
        ca2 <+: ca1 ∧ ca1.length - ca2.length < 2 ^ 31                            (meetsContract_iff)
-/

namespace HiPerConTracer.Importer
open Results (Text)

/-! ## Comparison of the parts -/

/-- The last loop of `subDirectoryOf`: the parts up to `ca1.end()`. -/
def countParts (depth : UInt32) : List Text → UInt32
  | [] => depth
  | _ :: it1 => countParts (depth + 1) it1

/-- The loops of `subDirectoryOf`, over the parts of `ca1` and `ca2`. -/
def compareParts : List Text → List Text → Int32
  | it1, [] => (countParts 0 it1).toInt32
  -- `return false`
  | [], _ :: _ => 0
  | part1 :: it1, part2 :: it2 => if part1 ≠ part2 then 0 else compareParts it1 it2

/-- The levels of a path below another one: none if it is not there, 0 if both are the same. -/
def levelsBelow (ca1 ca2 : List Text) : Option Nat :=
  if ca2 <+: ca1 then some (ca1.length - ca2.length) else none

/-- The comment in front of `subDirectoryOf`. -/
def contract (ca1 ca2 : List Text) : Int :=
  match levelsBelow ca1 ca2 with
  | none => -1
  | some n => n

theorem countParts_eq (parts : List Text) (depth : UInt32) :
    countParts depth parts = depth + UInt32.ofNat parts.length := by
  induction parts generalizing depth with
  | nil => simp [countParts]
  | cons part parts ih =>
    rw [countParts, ih, List.length_cons, UInt32.ofNat_add, UInt32.add_assoc]
    congr 1
    exact UInt32.add_comm _ _

theorem compareParts_below {ca1 ca2 : List Text} (h : ca2 <+: ca1) :
    compareParts ca1 ca2 = Int32.ofNat (ca1.length - ca2.length) := by
  induction ca2 generalizing ca1 with
  | nil =>
    rw [compareParts, countParts_eq, UInt32.zero_add]
    rfl
  | cons part2 it2 ih =>
    obtain ⟨rest, rfl⟩ := h
    rw [List.cons_append, compareParts, if_neg (not_not_intro rfl), ih (List.prefix_append ..)]
    simp

theorem compareParts_beside {ca1 ca2 : List Text} (h : ¬ca2 <+: ca1) :
    compareParts ca1 ca2 = 0 := by
  induction ca2 generalizing ca1 with
  | nil => exact absurd (List.nil_prefix) h
  | cons part2 it2 ih =>
    cases ca1 with
    | nil => rfl
    | cons part1 it1 =>
      rw [compareParts]
      by_cases hpart : part1 = part2
      · rw [if_neg (not_not_intro hpart)]
        refine ih fun hbelow => h ?_
        rw [hpart]
        exact (List.prefix_cons_inj part2).mpr hbelow
      · rw [if_pos hpart]

theorem contract_below {ca1 ca2 : List Text} (h : ca2 <+: ca1) :
    contract ca1 ca2 = (ca1.length - ca2.length : Nat) := by
  unfold contract levelsBelow
  rw [if_pos h]

theorem contract_beside {ca1 ca2 : List Text} (h : ¬ca2 <+: ca1) : contract ca1 ca2 = -1 := by
  unfold contract levelsBelow
  rw [if_neg h]

/-! ## The callers -/

section
variable {Path : Type*} (canonical : Path → Option (List Text))

/-- `subDirectoryOf`, where `canonical` gives no parts if there is an exception. -/
def subDirectoryOf (path1 path2 : Path) : Int32 :=
  match canonical path1, canonical path2 with
  | some ca1, some ca2 => compareParts ca1 ca2
  | _, _ => -1

/-- The depth with which `handleINotifyEvent` starts `lookForFiles` in a new directory, if it does. -/
def traversalDepth (dataDirectory importFilePath : Path) : Option UInt32 :=
  let currentDepth := (subDirectoryOf canonical dataDirectory importFilePath).toUInt32
  if currentDepth > 0 then some (1 + currentDepth) else none

/-- What `moveImportedFile` requires of a file. -/
def isBelow (dataFile importFilePath : Path) : Bool :=
  0 < subDirectoryOf canonical dataFile importFilePath

/-- The depth for a directory that is below the import path. -/
def expectedDepth (dataDirectory importFilePath : Path) : Option Nat := do
  let ca1 ← canonical dataDirectory
  let ca2 ← canonical importFilePath
  let n ← levelsBelow ca1 ca2
  if 0 < n then some (1 + n) else none

/-- The result of `subDirectoryOf` is the one of its description, and the traversal has its depth. -/
structure MeetsContract (path1 path2 : Path) : Prop where
  result : ∀ ca1 ca2, canonical path1 = some ca1 → canonical path2 = some ca2 →
    (subDirectoryOf canonical path1 path2).toInt = contract ca1 ca2
  traversal : (traversalDepth canonical path1 path2).map UInt32.toNat =
    expectedDepth canonical path1 path2

variable {canonical} {path1 path2 : Path} {ca1 ca2 : List Text}

theorem subDirectoryOf_of_some (h1 : canonical path1 = some ca1) (h2 : canonical path2 = some ca2) :
    subDirectoryOf canonical path1 path2 = compareParts ca1 ca2 := by
  unfold subDirectoryOf
  rw [h1, h2]

theorem expectedDepth_of_some (h1 : canonical path1 = some ca1) (h2 : canonical path2 = some ca2) :
    expectedDepth canonical path1 path2 =
      (levelsBelow ca1 ca2).bind fun n => if 0 < n then some (1 + n) else none := by
  unfold expectedDepth
  rw [h1, h2]
  rfl

theorem expectedDepth_of_none (h : canonical path1 = none ∨ canonical path2 = none) :
    expectedDepth canonical path1 path2 = none := by
  unfold expectedDepth
  rcases h with h | h
  · rw [h]
    rfl
  · cases h1 : canonical path1 with
    | none => rfl
    | some ca1 =>
      rw [h]
      rfl

/-- After an exception, there is a traversal of depth 0. -/
theorem traversalDepth_of_none (h : canonical path1 = none ∨ canonical path2 = none) :
    traversalDepth canonical path1 path2 = some 0 := by
  have hresult : subDirectoryOf canonical path1 path2 = -1 := by
    unfold subDirectoryOf
    split
    · rename_i h1 h2
      rw [h1, h2] at h
      simp at h
    · rfl
  unfold traversalDepth
  rw [hresult]
  decide

theorem traversalDepth_of_some (h1 : canonical path1 = some ca1) (h2 : canonical path2 = some ca2)
    (hbelow : ca2 <+: ca1) (hlevels : ca1.length - ca2.length < 2 ^ 31) :
    (traversalDepth canonical path1 path2).map UInt32.toNat =
      if 0 < ca1.length - ca2.length then some (1 + (ca1.length - ca2.length)) else none := by
  unfold traversalDepth
  rw [subDirectoryOf_of_some h1 h2, compareParts_below hbelow]
  generalize ca1.length - ca2.length = n at hlevels
  have hn : (Int32.ofNat n).toUInt32 = UInt32.ofNat n := rfl
  have hnat : (UInt32.ofNat n).toNat = n := UInt32.toNat_ofNat_of_lt' (by show n < 2 ^ 32; omega)
  rw [hn]
  by_cases hpos : 0 < n
  · rw [if_pos hpos, if_pos (by rw [gt_iff_lt, UInt32.lt_iff_toNat_lt, hnat]; exact hpos)]
    rw [Option.map_some, UInt32.toNat_add, hnat]
    congr 1
    show (1 + n) % 2 ^ 32 = 1 + n
    omega
  · rw [if_neg hpos, if_neg (by rw [gt_iff_lt, UInt32.lt_iff_toNat_lt, hnat]; exact hpos)]
    rfl

/-- **Contract of `subDirectoryOf`**: it is met if and only if there are canonical paths, the first one is not
outside of the second one, and the number of levels has 31 bits. -/
theorem meetsContract_iff {Path : Type*} (canonical : Path → Option (List Text)) (path1 path2 : Path) :
    MeetsContract canonical path1 path2 ↔
      ∃ ca1 ca2, canonical path1 = some ca1 ∧ canonical path2 = some ca2 ∧
        ca2 <+: ca1 ∧ ca1.length - ca2.length < 2 ^ 31 := by
  constructor
  · rintro ⟨hresult, htraversal⟩
    by_cases hnone : canonical path1 = none ∨ canonical path2 = none
    · rw [traversalDepth_of_none hnone, expectedDepth_of_none hnone] at htraversal
      simp at htraversal
    obtain ⟨h1, h2⟩ := not_or.mp hnone
    obtain ⟨ca1, h1⟩ := Option.ne_none_iff_exists'.mp h1
    obtain ⟨ca2, h2⟩ := Option.ne_none_iff_exists'.mp h2
    have hcontract := hresult ca1 ca2 h1 h2
    rw [subDirectoryOf_of_some h1 h2] at hcontract
    refine ⟨ca1, ca2, h1, h2, ?_⟩
    by_cases hbelow : ca2 <+: ca1
    · refine ⟨hbelow, ?_⟩
      have hlt := Int32.toInt_lt (compareParts ca1 ca2)
      rw [hcontract, contract_below hbelow] at hlt
      exact_mod_cast hlt
    · rw [compareParts_beside hbelow, contract_beside hbelow] at hcontract
      exact absurd hcontract (by decide)
  · rintro ⟨ca1, ca2, h1, h2, hbelow, hlevels⟩
    constructor
    · intro ca1' ca2' h1' h2'
      obtain rfl : ca1 = ca1' := Option.some.inj (h1.symm.trans h1')
      obtain rfl : ca2 = ca2' := Option.some.inj (h2.symm.trans h2')
      rw [subDirectoryOf_of_some h1 h2, compareParts_below hbelow, contract_below hbelow]
      exact Int32.toInt_ofNat_of_lt hlevels
    · rw [traversalDepth_of_some h1 h2 hbelow hlevels, expectedDepth_of_some h1 h2]
      unfold levelsBelow
      rw [if_pos hbelow]
      rfl

/-- A directory beside the import path has the result of the import path itself. -/
theorem subDirectoryOf_beside : ¬MeetsContract some [['/'], ['a']] [['/'], ['b']] := by
  rw [meetsContract_iff]
  rintro ⟨ca1, ca2, ⟨⟩, ⟨⟩, hbelow, -⟩
  exact absurd hbelow (by decide)

end

end HiPerConTracer.Importer
