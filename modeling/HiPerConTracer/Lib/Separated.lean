import Mathlib.Data.List.Basic

/-!
# Words and separators

A text in which each word stands behind a separator, and the words do not contain it, determines
the words (`marked_injective`).  `List.splitOn` reads them back (`splitOn_marked`), and so does
`words` with words between separators, none of which is empty (`words_intercalate`).
-/

namespace HiPerConTracer.Separated

variable {α : Type}

/-- Each word behind a separator. -/
def marked (sep : α) (words : List (List α)) : List α := words.flatMap fun w => sep :: w

theorem marked_eq_intercalate (sep : α) (words : List (List α)) :
    marked sep words = [sep].intercalate ([] :: words) := by
  induction words with
  | nil => rfl
  | cons w ws ih =>
    rw [List.intercalate_cons_cons, List.nil_append]
    show sep :: (w ++ marked sep ws) = sep :: [sep].intercalate (w :: ws)
    rw [ih]
    cases ws with
    | nil => simp
    | cons x xs => simp [List.intercalate_cons_cons]

theorem mem_intercalate {sep : List α} {words : List (List α)} {x : α}
    (h : x ∈ sep.intercalate words) : x ∈ sep ∨ ∃ w ∈ words, x ∈ w := by
  induction words with
  | nil => exact absurd h List.not_mem_nil
  | cons w ws ih =>
    by_cases hws : ws = []
    · rw [hws, List.intercalate_singleton] at h
      exact Or.inr ⟨w, List.mem_cons_self, h⟩
    · rw [List.intercalate_cons_of_ne_nil hws, List.mem_append, List.mem_append] at h
      rcases h with (hx | hx) | hx
      · exact Or.inr ⟨w, List.mem_cons_self, hx⟩
      · exact Or.inl hx
      · rcases ih hx with hsep | ⟨v, hv, hxv⟩
        · exact Or.inl hsep
        · exact Or.inr ⟨v, List.mem_cons_of_mem _ hv, hxv⟩

theorem intercalate_append_singleton (sep w : List α) (ws : List (List α)) :
    sep.intercalate (ws ++ [w]) = sep.intercalate ws ++ (if ws = [] then [] else sep) ++ w := by
  induction ws with
  | nil => simp
  | cons v ws ih =>
    cases ws with
    | nil => simp [List.intercalate_cons_cons]
    | cons x xs =>
      rw [if_neg (List.cons_ne_nil _ _)] at ih ⊢
      simp only [List.cons_append] at ih ⊢
      rw [List.intercalate_cons_cons, ih, List.intercalate_cons_cons]
      simp only [List.append_assoc]

theorem intercalate_append {sep : α} {ws : List (List α)} (hne : ws ≠ []) (ws' : List (List α)) :
    [sep].intercalate (ws ++ ws') = [sep].intercalate ws ++ marked sep ws' := by
  induction ws' generalizing ws with
  | nil => simp [marked]
  | cons w ws' ih =>
    have hsplit : ws ++ w :: ws' = (ws ++ [w]) ++ ws' := by simp
    rw [hsplit, ih (by simp), intercalate_append_singleton, if_neg hne]
    simp [marked]

variable [DecidableEq α]

/-- The words are read back, after an empty one. -/
theorem splitOn_marked {sep : α} {words : List (List α)} (h : ∀ w ∈ words, sep ∉ w) :
    (marked sep words).splitOn sep = [] :: words := by
  rw [marked_eq_intercalate]
  apply List.splitOn_intercalate
  · rw [List.forall_mem_cons]
    exact ⟨List.not_mem_nil, h⟩
  · exact List.cons_ne_nil _ _

theorem marked_injective {sep : α} {words words' : List (List α)} (h : ∀ w ∈ words, sep ∉ w)
    (h' : ∀ w ∈ words', sep ∉ w) (heq : marked sep words = marked sep words') :
    words = words' := by
  have hsplit := splitOn_marked h
  rw [heq, splitOn_marked h'] at hsplit
  exact (List.cons.inj hsplit).2.symm

/-- The last word. -/
theorem append_word_injective {sep : α} {s s' w w' : List α} (hw : sep ∉ w) (hw' : sep ∉ w')
    (heq : s ++ sep :: w = s' ++ sep :: w') : s = s' ∧ w = w' := by
  have hrev : w.reverse ++ sep :: s.reverse = w'.reverse ++ sep :: s'.reverse := by
    simpa using congrArg List.reverse heq
  have hsplit := congrArg (List.splitOn sep) hrev
  rw [List.splitOn_append_cons_self_of_not_mem (by simpa using hw),
    List.splitOn_append_cons_self_of_not_mem (by simpa using hw')] at hsplit
  have hword : w = w' := List.reverse_injective (List.cons.inj hsplit).1
  subst hword
  exact ⟨List.append_cancel_right heq, rfl⟩

/-- The last words, of which there are equally many. -/
theorem append_marked_injective {sep : α} {s s' : List α} {ws ws' : List (List α)}
    (h : ∀ w ∈ ws, sep ∉ w) (h' : ∀ w ∈ ws', sep ∉ w) (hlength : ws.length = ws'.length)
    (heq : s ++ marked sep ws = s' ++ marked sep ws') : s = s' ∧ ws = ws' := by
  induction ws generalizing s s' ws' with
  | nil =>
    cases ws' with
    | nil => simpa [marked] using heq
    | cons w' ws' => simp at hlength
  | cons w ws ih =>
    cases ws' with
    | nil => simp at hlength
    | cons w' ws' =>
      rw [List.forall_mem_cons] at h h'
      have hcons : ∀ (t v : List α) (vs : List (List α)),
          t ++ marked sep (v :: vs) = (t ++ sep :: v) ++ marked sep vs := by
        intro t v vs
        simp [marked]
      rw [hcons, hcons] at heq
      obtain ⟨hs, hws⟩ := ih h.2 h'.2 (by simpa using hlength) heq
      obtain ⟨hs, hw⟩ := append_word_injective h.1 h'.1 hs
      exact ⟨hs, by rw [hw, hws]⟩

/-- The words between separators, of which there may be several between two words. -/
def words (sep : α) (s : List α) : List (List α) := (s.splitOn sep).filter (· ≠ [])

theorem words_intercalate_filter {sep : α} {ws : List (List α)} (h : ∀ w ∈ ws, sep ∉ w) :
    words sep ([sep].intercalate ws) = ws.filter (· ≠ []) := by
  unfold words
  by_cases hws : ws = []
  · rw [hws]
    simp
  · rw [List.splitOn_intercalate sep h hws]

theorem words_intercalate {sep : α} {ws : List (List α)} (h : ∀ w ∈ ws, sep ∉ w)
    (hne : ∀ w ∈ ws, w ≠ []) : words sep ([sep].intercalate ws) = ws := by
  rw [words_intercalate_filter h, List.filter_eq_self]
  intro w hw
  exact decide_eq_true (hne w hw)

theorem words_cons {sep : α} {w rest : List α} (h : sep ∉ w) (hne : w ≠ []) :
    words sep (w ++ sep :: rest) = w :: words sep rest := by
  unfold words
  rw [List.splitOn_append_cons_self_of_not_mem h, List.filter_cons, if_pos (decide_eq_true hne)]

/-! ## Splitting -/

/-- The words that a text is split into. -/
theorem not_mem_of_mem_splitOn {sep : α} {s w : List α} (h : w ∈ s.splitOn sep) : sep ∉ w := by
  induction s generalizing w with
  | nil =>
    rw [List.splitOn_nil, List.mem_singleton] at h
    rw [h]
    exact List.not_mem_nil
  | cons c s ih =>
    rw [List.splitOn_cons_eq_if_modifyHead] at h
    split at h
    · rcases List.mem_cons.mp h with rfl | h
      · exact List.not_mem_nil
      · exact ih h
    · next hc =>
      cases hsplit : s.splitOn sep with
      | nil => exact absurd hsplit (List.splitOn_ne_nil _ _)
      | cons v vs =>
        rw [hsplit] at h ih
        rcases List.mem_cons.mp h with rfl | h
        · intro hmem
          rcases List.mem_cons.mp hmem with rfl | hmem
          · simp at hc
          · exact ih List.mem_cons_self hmem
        · exact ih (List.mem_cons_of_mem _ h)

/-- Another separator. -/
theorem map_intercalate {sep : α} (sep' : α) {words : List (List α)} (h : ∀ w ∈ words, sep ∉ w) :
    ([sep].intercalate words).map (fun c => if c = sep then sep' else c) =
      [sep'].intercalate words := by
  have hword : ∀ w : List α, sep ∉ w → w.map (fun c => if c = sep then sep' else c) = w := by
    intro w hw
    have hid : w.map (fun c => if c = sep then sep' else c) = w.map id := by
      apply List.map_congr_left
      intro c hc
      refine if_neg fun heq => hw ?_
      rw [← heq]
      exact hc
    rw [hid, List.map_id]
  induction words with
  | nil => rfl
  | cons w words ih =>
    rw [List.forall_mem_cons] at h
    cases words with
    | nil => rw [List.intercalate_singleton, List.intercalate_singleton, hword w h.1]
    | cons v words =>
      rw [List.intercalate_cons_cons, List.intercalate_cons_cons, List.map_append, List.map_append,
        hword w h.1, ih h.2, List.map_singleton, if_pos rfl]

/-- There is a separator less than there are words. -/
theorem count_intercalate {sep : α} {words : List (List α)} (hne : words ≠ [])
    (h : ∀ w ∈ words, sep ∉ w) : 1 + ([sep].intercalate words).count sep = words.length := by
  induction words with
  | nil => exact absurd rfl hne
  | cons w words ih =>
    rw [List.forall_mem_cons] at h
    cases words with
    | nil => rw [List.intercalate_singleton, List.count_eq_zero_of_not_mem h.1]; rfl
    | cons v words =>
      have hrest := ih (List.cons_ne_nil _ _) h.2
      rw [List.intercalate_cons_cons, List.count_append, List.count_append,
        List.count_eq_zero_of_not_mem h.1, List.count_singleton_self, List.length_cons]
      omega
end HiPerConTracer.Separated
