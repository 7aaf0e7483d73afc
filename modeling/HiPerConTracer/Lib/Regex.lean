import Mathlib.Data.List.Basic

/-!
# Regular expressions with groups

`r.ways t` lists the ways in which `r` matches the begin of a text, with what the groups have
caught and the rest of the text, in the order in which a backtracking search finds them: the first
alternative before the second one, and longer repetitions before shorter ones.  A whole text is
matched by the first of them without a rest (`find`).

A repetition is over before the first character that it cannot take, if what follows cannot go on
with one that it can take (`Rejects`).  Then there is one way for both:

    Rejects p s → (seq (group (run p)) s).ways (w ++ t) = (s.ways t).map (withGroups [w])
                                                                             (ways_run)
-/

inductive Regex where
  | empty
  | char (p : Char → Bool)
  | seq (r s : Regex)
  | alt (r s : Regex)
  /-- Any number of characters. -/
  | many (p : Char → Bool)
  | group (r : Regex)

namespace Regex

/-! ## Matching -/

def single (c : Char) : Regex := char fun x => x == c

/-- One character or more. -/
def run (p : Char → Bool) : Regex := seq (char p) (many p)

def times (p : Char → Bool) : Nat → Regex
  | 0 => empty
  | n + 1 => seq (char p) (times p n)

def text : List Char → Regex
  | [] => empty
  | c :: w => seq (single c) (text w)

/-- What a repetition leaves, from the longest to the shortest match. -/
def rests (p : Char → Bool) : List Char → List (List Char)
  | [] => [[]]
  | c :: t => if p c then rests p t ++ [c :: t] else [c :: t]

/-- The groups of a match, and the rest of the text. -/
abbrev Match := List (List Char) × List Char

def ways : Regex → List Char → List Match
  | empty, t => [([], t)]
  | char _, [] => []
  | char p, c :: t => if p c then [([], t)] else []
  | seq r s, t => (r.ways t).flatMap fun m => (s.ways m.2).map fun m' => (m.1 ++ m'.1, m'.2)
  | alt r s, t => r.ways t ++ s.ways t
  | many p, t => (rests p t).map fun u => ([], u)
  | group r, t => (r.ways t).map fun m => (t.take (t.length - m.2.length) :: m.1, m.2)

theorem empty_ways (t : List Char) : empty.ways t = [([], t)] := rfl

theorem char_ways (p : Char → Bool) (c : Char) (t : List Char) :
    (char p).ways (c :: t) = if p c then [([], t)] else [] := rfl

theorem seq_ways (r s : Regex) (t : List Char) : (seq r s).ways t =
    (r.ways t).flatMap fun m => (s.ways m.2).map fun m' => (m.1 ++ m'.1, m'.2) := rfl

theorem alt_ways (r s : Regex) (t : List Char) : (alt r s).ways t = r.ways t ++ s.ways t := rfl

theorem many_ways (p : Char → Bool) (t : List Char) :
    (many p).ways t = (rests p t).map fun u => ([], u) := rfl

theorem group_ways (r : Regex) (t : List Char) : (group r).ways t =
    (r.ways t).map fun m => (t.take (t.length - m.2.length) :: m.1, m.2) := rfl

/-- The groups of the first match of a whole text. -/
def find (r : Regex) (t : List Char) : Option (List (List Char)) :=
  ((r.ways t).find? fun m => m.2.isEmpty).map (·.1)

/-! ## One way -/

variable {r s : Regex} {p : Char → Bool} {t u w : List Char} {g : List (List Char)}

/-- What a match adds to the groups of one before. -/
def withGroups (g : List (List Char)) (m : Match) : Match := (g ++ m.1, m.2)

theorem map_withGroups (g g' : List (List Char)) (l : List Match) :
    (l.map (withGroups g')).map (withGroups g) = l.map (withGroups (g ++ g')) := by
  rw [List.map_map]
  refine List.map_congr_left fun m _ => ?_
  exact Prod.ext (List.append_assoc g g' m.1).symm rfl

/-- A match goes on with another expression. -/
theorem find_of_ways (h : r.ways t = (s.ways u).map (withGroups g)) :
    r.find t = (s.find u).map (g ++ ·) := by
  unfold find
  rw [h, List.find?_map, Option.map_map, Option.map_map]
  rfl

theorem find_of_ways_nil (h : r.ways t = []) : r.find t = none := by
  unfold find
  rw [h]
  rfl

theorem ways_seq_nil (h : r.ways t = []) : (seq r s).ways t = [] := by
  simp only [seq_ways, h, List.flatMap_nil]

theorem ways_seq (h : r.ways t = [(g, u)]) :
    (seq r s).ways t = (s.ways u).map (withGroups g) := by
  simp only [seq_ways, h, List.flatMap_cons, List.flatMap_nil, List.append_nil]
  rfl

/-- A match that catches nothing. -/
theorem ways_seq_plain (h : r.ways t = [([], u)]) : (seq r s).ways t = s.ways u := by
  rw [ways_seq h]
  exact List.map_id _

theorem ways_group (h : r.ways (w ++ u) = [(g, u)]) :
    (group r).ways (w ++ u) = [(w :: g, u)] := by
  simp only [group_ways, h, List.map_cons, List.map_nil, List.length_append, Nat.add_sub_cancel,
    List.take_left]

/-- An optional text, with which what follows does not begin. -/
theorem ways_optional (hr : r.ways (w ++ u) = [([], u)]) (hs : s.ways (w ++ u) = []) :
    (seq (group (alt r empty)) s).ways (w ++ u) = (s.ways u).map (withGroups [w]) := by
  simp only [seq_ways, group_ways, alt_ways, empty_ways, hr, hs, List.cons_append, List.nil_append,
    List.map_cons, List.map_nil, List.flatMap_cons, List.flatMap_nil, List.append_nil,
    List.length_append, Nat.add_sub_cancel, List.take_left]
  rfl

theorem ways_char {c : Char} (h : p c = true) : (char p).ways (c :: t) = [([], t)] := by
  simp only [char_ways, h, if_true]

theorem ways_group_char {c : Char} (h : p c = true) :
    (group (char p)).ways (c :: t) = [([[c]], t)] :=
  ways_group (w := [c]) (ways_char h)

theorem ways_single (c : Char) (t : List Char) : (single c).ways (c :: t) = [([], t)] :=
  ways_char (beq_self_eq_true c)

theorem ways_times (n : Nat) (hn : w.length = n) (hw : ∀ c ∈ w, p c = true) :
    (times p n).ways (w ++ t) = [([], t)] := by
  induction n generalizing w with
  | zero =>
    rw [List.length_eq_zero_iff.mp hn]
    rfl
  | succ n ih =>
    cases w with
    | nil => cases hn
    | cons c w =>
      unfold times
      rw [List.cons_append, ways_seq_plain (ways_char (hw c List.mem_cons_self)),
        ih (Nat.succ.inj hn) fun x hx => hw x (List.mem_cons_of_mem _ hx)]

theorem ways_text (w t : List Char) : (text w).ways (w ++ t) = [([], t)] := by
  induction w with
  | nil => rfl
  | cons c w ih =>
    unfold text
    rw [List.cons_append, ways_seq_plain (ways_single c _), ih]

/-! ## Repetitions -/

/-- No match begins with a character that the repetition takes. -/
def Rejects (p : Char → Bool) (s : Regex) : Prop := ∀ c t, p c = true → s.ways (c :: t) = []

theorem Rejects.seq (h : Rejects p r) : Rejects p (seq r s) := by
  intro c t hc
  simp only [seq_ways, h c t hc, List.flatMap_nil]

theorem Rejects.char {q : Char → Bool} (h : ∀ c, p c = true → q c = false) :
    Rejects p (char q) := by
  intro c t hc
  simp only [char_ways, h c hc, Bool.false_eq_true, if_false]

theorem Rejects.single {d : Char} (h : p d = false) : Rejects p (.single d) := by
  apply Rejects.char
  intro c hc
  rw [beq_eq_false_iff_ne]
  rintro rfl
  rw [h] at hc
  cases hc

/-- The text does not go on with a character that the repetition takes. -/
def Stops (p : Char → Bool) : List Char → Prop
  | [] => True
  | c :: _ => p c = false

/-- The longest match comes first; the other ones leave a character that the repetition takes. -/
theorem rests_append (hw : ∀ c ∈ w, p c = true) (ht : Stops p t) :
    ∃ l, rests p (w ++ t) = t :: l ∧ ∀ u ∈ l, ∃ c u', u = c :: u' ∧ p c = true := by
  induction w with
  | nil =>
    refine ⟨[], ?_, fun u hu => absurd hu List.not_mem_nil⟩
    cases t with
    | nil => rfl
    | cons c t => simp only [List.nil_append, rests, show p c = false from ht, Bool.false_eq_true,
        if_false]
  | cons c w ih =>
    obtain ⟨l, hl, hrest⟩ := ih fun x hx => hw x (List.mem_cons_of_mem _ hx)
    have hc := hw c List.mem_cons_self
    refine ⟨l ++ [c :: (w ++ t)], by simp only [List.cons_append, rests, hc, if_true, hl], ?_⟩
    intro u hu
    rcases List.mem_append.mp hu with hu | hu
    · exact hrest u hu
    · exact ⟨c, w ++ t, List.mem_singleton.mp hu, hc⟩

/-- Only the longest match leaves something that `s` matches. -/
theorem flatMap_rests {β : Type} {f : List Char → List β} (hw : ∀ c ∈ w, p c = true)
    (ht : Stops p t) (hf : ∀ c u, p c = true → f (c :: u) = []) :
    (rests p (w ++ t)).flatMap f = f t := by
  obtain ⟨l, hl, hrest⟩ := rests_append hw ht
  rw [hl, List.flatMap_cons]
  have hnil : l.flatMap f = [] := by
    rw [List.flatMap_eq_nil_iff]
    intro u hu
    obtain ⟨c, u', rfl, hc⟩ := hrest u hu
    exact hf c u' hc
  rw [hnil, List.append_nil]

/-- A repetition up to a character that it cannot take. -/
theorem ways_many (hw : ∀ c ∈ w, p c = true) (ht : Stops p t) (hs : Rejects p s) :
    (seq (group (many p)) s).ways (w ++ t) = (s.ways t).map (withGroups [w]) := by
  simp only [seq_ways, group_ways, many_ways, List.map_map, List.flatMap_map]
  rw [flatMap_rests hw ht]
  · simp only [Function.comp_apply, List.length_append, Nat.add_sub_cancel, List.take_left]
    rfl
  · intro c u hc
    simp only [Function.comp_apply, hs c u hc, List.map_nil]

theorem ways_run_cons {c : Char} (hc : p c = true) :
    (run p).ways (c :: t) = (rests p t).map fun u => ([], u) := by
  unfold run
  rw [ways_seq (ways_char hc)]
  simp only [many_ways, List.map_map]
  rfl

theorem ways_run (hne : w ≠ []) (hw : ∀ c ∈ w, p c = true) (ht : Stops p t) (hs : Rejects p s) :
    (seq (group (run p)) s).ways (w ++ t) = (s.ways t).map (withGroups [w]) := by
  cases w with
  | nil => exact absurd rfl hne
  | cons c w =>
    have hrun := ways_run_cons (t := w ++ t) (hw c List.mem_cons_self)
    rw [List.cons_append]
    simp only [seq_ways, group_ways, hrun, List.map_map, List.flatMap_map]
    rw [flatMap_rests (fun x hx => hw x (List.mem_cons_of_mem _ hx)) ht]
    · simp only [Function.comp_apply, ← List.cons_append, List.length_append, Nat.add_sub_cancel,
        List.take_left]
      rfl
    · intro x u hx
      simp only [Function.comp_apply, hs x u hx, List.map_nil]

/-- A repetition that no group catches. -/
theorem ways_run_seq (hne : w ≠ []) (hw : ∀ c ∈ w, p c = true) (ht : Stops p t)
    (hs : Rejects p s) : (seq (run p) s).ways (w ++ t) = s.ways t := by
  cases w with
  | nil => exact absurd rfl hne
  | cons c w =>
    have hrun := ways_run_cons (t := w ++ t) (hw c List.mem_cons_self)
    rw [List.cons_append, seq_ways, hrun, List.flatMap_map,
      flatMap_rests (fun x hx => hw x (List.mem_cons_of_mem _ hx)) ht]
    · exact List.map_id _
    · intro x u hx
      simp only [hs x u hx, List.map_nil]

end Regex
