import Mathlib.Data.List.Sort
import Mathlib.Order.Basic

/-!
# Sorted sets

A set of elements in the order of their keys, as a list.  `insert` fails when there is an element with
the same key already, in the way of `std::set`.  The elements determine the set, in whatever order
they have been inserted:

    Sorted key s → Sorted key t → s ~ t → s = t                               (Sorted.eq_of_perm)
-/

namespace SortedSet

variable {α κ : Type} [LinearOrder κ] {key : α → κ} {less : α → α → Bool}

/-- With the comparison, none if there is an equivalent element. -/
def insert (less : α → α → Bool) (a : α) : List α → Option (List α)
  | [] => some [a]
  | b :: s =>
    if less a b then some (a :: b :: s)
    else if less b a then (insert less a s).map (b :: ·)
    else none

/-- The comparison is that of the keys. -/
def Compares (less : α → α → Bool) (key : α → κ) : Prop :=
  ∀ a b, less a b = true ↔ key a < key b

/-- Increasing keys. -/
def Sorted (key : α → κ) (s : List α) : Prop := s.Pairwise (key · < key ·)

theorem sorted_nil : Sorted key ([] : List α) := List.Pairwise.nil

theorem Sorted.nodup {s : List α} (h : Sorted key s) : (s.map key).Nodup := by
  show (s.map key).Pairwise (· ≠ ·)
  rw [List.pairwise_map]
  exact h.imp fun hlt => ne_of_lt hlt

/-- **Order of insertion.**  The elements determine the set. -/
theorem Sorted.eq_of_perm {s t : List α} (hs : Sorted key s) (ht : Sorted key t)
    (h : s.Perm t) : s = t := by
  have hanti : ∀ a b, a ∈ s → b ∈ t → key a < key b → key b < key a → a = b := by
    intro a b _ _ hab hba
    exact absurd hba (lt_asymm hab)
  exact List.Perm.eq_of_pairwise hanti hs ht h

theorem insert_perm {a : α} {s t : List α} (h : insert less a s = some t) :
    t.Perm (a :: s) := by
  induction s generalizing t with
  | nil =>
    obtain rfl := Option.some.inj h
    exact List.Perm.refl _
  | cons b s ih =>
    unfold insert at h
    split at h
    · obtain rfl := Option.some.inj h
      exact List.Perm.refl _
    · split at h
      · obtain ⟨u, hu, rfl⟩ := Option.map_eq_some_iff.mp h
        exact ((ih hu).cons b).trans (List.Perm.swap a b s)
      · cases h

theorem insert_sorted (hless : Compares less key) {a : α} {s t : List α} (hs : Sorted key s)
    (h : insert less a s = some t) : Sorted key t := by
  induction s generalizing t with
  | nil =>
    obtain rfl := Option.some.inj h
    exact List.pairwise_singleton _ a
  | cons b s ih =>
    have hb : ∀ c ∈ s, key b < key c := fun c hc => List.rel_of_pairwise_cons hs hc
    unfold insert at h
    split at h
    · next hab =>
      obtain rfl := Option.some.inj h
      have hlt := (hless a b).mp hab
      refine List.Pairwise.cons ?_ hs
      intro c hc
      rcases List.mem_cons.mp hc with rfl | hc
      · exact hlt
      · exact lt_trans hlt (hb c hc)
    · split at h
      · next hba =>
        obtain ⟨u, hu, rfl⟩ := Option.map_eq_some_iff.mp h
        refine List.Pairwise.cons ?_ (ih (List.Pairwise.of_cons hs) hu)
        intro c hc
        rcases List.mem_cons.mp ((insert_perm hu).subset hc) with rfl | hc
        · exact (hless b c).mp hba
        · exact hb c hc
      · cases h

/-- An insertion fails if, and only if, there is an element with the key. -/
theorem insert_eq_none_iff (hless : Compares less key) {a : α} {s : List α} (hs : Sorted key s) :
    insert less a s = none ↔ key a ∈ s.map key := by
  induction s with
  | nil => simp [insert]
  | cons b s ih =>
    have hb : ∀ c ∈ s, key b < key c := fun c hc => List.rel_of_pairwise_cons hs hc
    unfold insert
    rw [List.map_cons, List.mem_cons]
    by_cases hab : less a b = true
    · rw [if_pos hab]
      have hlt := (hless a b).mp hab
      constructor
      · intro h
        cases h
      · rintro (heq | hmem)
        · exact absurd heq (ne_of_lt hlt)
        · obtain ⟨c, hc, heq⟩ := List.mem_map.mp hmem
          exact absurd heq (ne_of_gt (lt_trans hlt (hb c hc)))
    · rw [if_neg hab]
      by_cases hba : less b a = true
      · rw [if_pos hba, Option.map_eq_none_iff, ih (List.Pairwise.of_cons hs)]
        have hne : key a ≠ key b := ne_of_gt ((hless b a).mp hba)
        constructor
        · exact Or.inr
        · rintro (heq | hmem)
          · exact absurd heq hne
          · exact hmem
      · rw [if_neg hba]
        have heq : key a = key b := by
          apply le_antisymm
          · exact not_lt.mp fun h => hba ((hless b a).mpr h)
          · exact not_lt.mp fun h => hab ((hless a b).mpr h)
        constructor
        · intro _
          exact Or.inl heq
        · intro _
          rfl

end SortedSet
