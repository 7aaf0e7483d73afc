import HiPerConTracer.Lib.SortedSet
import Mathlib.Data.Prod.Lex

/-!
# Groups in sorted lists

The members of groups come in the order of the keys of their groups, and within a group in the order of
keys of their own.  When no two groups have the same key, the members of a group are together, and the
groups are in order:

    rows ~ members items groups → rows.Pairwise (memberKey … · ≤ memberKey … ·) →
      ∃ sorted, sorted ~ groups ∧ Sorted key sorted ∧ rows = members items sorted
                                                                        (exists_members_eq)
-/

namespace HiPerConTracer.Grouping
open SortedSet

variable {α β γ κ ι : Type} [LinearOrder κ] [LinearOrder ι]

/-- The members of the groups, each with its group. -/
def members (items : β → List γ) (groups : List β) : List (β × γ) :=
  groups.flatMap fun b => (items b).map fun x => (b, x)

/-- The key of the group, and then that of the member. -/
def memberKey (key : β → κ) (number : γ → ι) (x : β × γ) : κ ×ₗ ι := toLex (key x.1, number x.2)

variable {key : β → κ} {number : γ → ι} {items : β → List γ}

theorem mem_members {groups : List β} {x : β × γ} :
    x ∈ members items groups ↔ x.1 ∈ groups ∧ x.2 ∈ items x.1 := by
  unfold members
  rw [List.mem_flatMap]
  constructor
  · rintro ⟨b, hb, hx⟩
    obtain ⟨y, hy, rfl⟩ := List.mem_map.mp hx
    exact ⟨hb, hy⟩
  · rintro ⟨hb, hx⟩
    exact ⟨x.1, hb, List.mem_map.mpr ⟨x.2, hx, rfl⟩⟩

/-- Elements in the order of keys that are all different. -/
theorem sorted_of_le {key : α → κ} {s : List α} (hkeys : (s.map key).Nodup)
    (hle : s.Pairwise (key · ≤ key ·)) : Sorted key s := by
  have hne : s.Pairwise (key · ≠ key ·) := List.pairwise_map.mp hkeys
  exact (hle.and hne).imp fun h => lt_of_le_of_ne h.1 h.2

theorem exists_sorted {key : α → κ} {s : List α} (hkeys : (s.map key).Nodup) :
    ∃ t, t.Perm s ∧ Sorted key t := by
  let le (a b : α) : Bool := decide (key a ≤ key b)
  have htrans : ∀ a b c, le a b → le b c → le a c := by
    intro a b c hab hbc
    exact decide_eq_true ((of_decide_eq_true hab).trans (of_decide_eq_true hbc))
  have htotal : ∀ a b, (le a b || le b a) := by
    intro a b
    rw [Bool.or_eq_true]
    exact (le_total (key a) (key b)).imp decide_eq_true decide_eq_true
  have hperm : (s.mergeSort le).Perm s := List.mergeSort_perm s le
  refine ⟨s.mergeSort le, hperm, sorted_of_le ((hperm.map key).nodup_iff.mpr hkeys) ?_⟩
  exact (List.pairwise_mergeSort htrans htotal s).imp of_decide_eq_true

theorem members_sorted {groups : List β} (hgroups : Sorted key groups)
    (hitems : ∀ b ∈ groups, Sorted number (items b)) :
    Sorted (memberKey key number) (members items groups) := by
  unfold members Sorted
  rw [List.pairwise_flatMap]
  constructor
  · intro b hb
    rw [List.pairwise_map]
    refine List.Pairwise.imp ?_ (hitems b hb)
    intro x y hlt
    exact Prod.Lex.toLex_lt_toLex.mpr (Or.inr ⟨rfl, hlt⟩)
  · refine hgroups.imp fun hlt => ?_
    intro x hx y hy
    obtain ⟨_, -, rfl⟩ := List.mem_map.mp hx
    obtain ⟨_, -, rfl⟩ := List.mem_map.mp hy
    exact Prod.Lex.toLex_lt_toLex.mpr (Or.inl hlt)

/-- **Sorted members** are those of the groups, one group behind the other. -/
theorem exists_members_eq {groups : List β} (hkeys : (groups.map key).Nodup)
    (hitems : ∀ b ∈ groups, Sorted number (items b)) {rows : List (β × γ)}
    (hperm : rows.Perm (members items groups))
    (hle : rows.Pairwise (memberKey key number · ≤ memberKey key number ·)) :
    ∃ sorted, sorted.Perm groups ∧ Sorted key sorted ∧ rows = members items sorted := by
  obtain ⟨sorted, hsorted, hkey⟩ := exists_sorted hkeys
  have hmembers : Sorted (memberKey key number) (members items sorted) :=
    members_sorted hkey fun b hb => hitems b (hsorted.mem_iff.mp hb)
  have hperm' : rows.Perm (members items sorted) :=
    hperm.trans (hsorted.symm.flatMap_right _)
  have hnodup : (rows.map (memberKey key number)).Nodup :=
    (hperm'.map _).nodup_iff.mpr hmembers.nodup
  exact ⟨sorted, hsorted, hkey, (sorted_of_le hnodup hle).eq_of_perm hmembers hperm'⟩

end HiPerConTracer.Grouping
