import Mathlib.Data.List.Induction
import Mathlib.Data.List.TakeWhile

/-!
# Listings without repetition

A listing has, for each record, a head (for the first record of a section) and a body.  Repeated records
can be left out with all records before at hand (`distinct`), or with the last heads only: what is
behind a head that is like the one before it is skipped (`printed`).  For a regular listing both are the
same exactly if the skipped records are the repeated ones:

    printed [] rows = (distinct [] rows).flatMap texts ↔ SkipsRepeated [] rows    (printed_eq_iff)

and the heads have no part in it if each of them tells the item of its record

    SkipsRepeated [] rows ↔ CopiesFollow item same rows              (skipsRepeated_iff_copiesFollow)
-/

namespace HiPerConTracer.Repetition

/-! ## Copies of records -/

section Copies
variable {α : Type} (item : α → Bool) (same : α → α → Prop)

/-- `h` is the last record with an item, behind the records of `a`. -/
def LastItem (before a : List α) (h : α) : Prop :=
  ∃ b, before = a ++ h :: b ∧ item h = true ∧ ∀ x ∈ b, item x = false

/-- Where copies of records stand. -/
structure CopiesFollow (rows : List α) : Prop where
  /-- A record without an item is there once, and the last record with an item is no copy then. -/
  others : ∀ first r rest, rows = first ++ r :: rest → item r = false →
    r ∉ first ∧ ∀ a h, LastItem item first a h → h ∉ a
  /-- A record with an item is a copy exactly if the last one before it has the same item. -/
  items : ∀ first r rest, rows = first ++ r :: rest → item r = true →
    (r ∈ first ↔ ∃ a h, LastItem item first a h ∧ same h r)

end Copies

structure Listing (α σ : Type) where
  head : α → Option σ
  body : α → List σ

namespace Listing
variable {α σ : Type} (f : Listing α σ)

def texts (r : α) : List σ := (f.head r).toList ++ f.body r

/-- The heads of the last two sections are equal. -/
def Skips (rows : List α) : Prop :=
  match (rows.filterMap f.head).reverse with
  | h :: h' :: _ => h = h'
  | _ => False

instance [DecidableEq σ] (rows : List α) : Decidable (f.Skips rows) := by
  unfold Skips
  split <;> infer_instance

/-- The skipped records are the repeated ones. -/
def SkipsRepeated (before rows : List α) : Prop :=
  ∀ first r rest, rows = first ++ r :: rest →
    (f.Skips (before ++ first ++ [r]) ↔ r ∈ before ++ first)

/-! ## Steps -/

variable {f}

theorem skips_body {before : List α} {r : α} (h : f.head r = none) :
    f.Skips (before ++ [r]) ↔ f.Skips before := by
  unfold Skips
  rw [List.filterMap_append, List.filterMap_cons_none h, List.filterMap_nil, List.append_nil]

theorem skips_head {before : List α} {r : α} {h : σ} (hr : f.head r = some h) :
    f.Skips (before ++ [r]) ↔ (before.filterMap f.head).getLast? = some h := by
  unfold Skips
  rw [List.filterMap_append, List.filterMap_cons_some hr, List.filterMap_nil, List.reverse_append,
    ← List.head?_reverse]
  cases (before.filterMap f.head).reverse with
  | nil => simp
  | cons h' hs => simp [eq_comm]

theorem getLast_body {before : List α} {r : α} (h : f.head r = none) :
    ((before ++ [r]).filterMap f.head).getLast? = (before.filterMap f.head).getLast? := by
  rw [List.filterMap_append, List.filterMap_cons_none h, List.filterMap_nil, List.append_nil]

theorem getLast_head {before : List α} {r : α} {h : σ} (hr : f.head r = some h) :
    ((before ++ [r]).filterMap f.head).getLast? = some h := by
  rw [List.filterMap_append, List.filterMap_cons_some hr, List.filterMap_nil, List.getLast?_concat]

theorem exists_getLast_of_skips {before : List α} (h : f.Skips before) :
    ∃ h, (before.filterMap f.head).getLast? = some h := by
  unfold Skips at h
  rw [← List.head?_reverse]
  cases hrev : (before.filterMap f.head).reverse with
  | nil => simp [hrev] at h
  | cons h' hs => exact ⟨h', rfl⟩

theorem skipsRepeated_cons {before : List α} {r : α} {rs : List α} :
    f.SkipsRepeated before (r :: rs) ↔
      (f.Skips (before ++ [r]) ↔ r ∈ before) ∧ f.SkipsRepeated (before ++ [r]) rs := by
  constructor
  · intro h
    refine ⟨by simpa using h [] r rs rfl, ?_⟩
    intro first q rest hrows
    have hq := h (r :: first) q rest (by rw [hrows]; rfl)
    simpa [List.append_assoc] using hq
  · rintro ⟨hr, hrest⟩ first q rest hrows
    cases first with
    | nil =>
      simp only [List.nil_append, List.cons.injEq] at hrows
      rw [← hrows.1]
      simpa using hr
    | cons q' first =>
      simp only [List.cons_append, List.cons.injEq] at hrows
      have hq := hrest first q rest hrows.2
      rw [← hrows.1]
      simpa [List.append_assoc] using hq

/-! ## The records with the items -/

theorem skips_append {before b : List α} (hb : ∀ x ∈ b, f.head x = none) :
    f.Skips (before ++ b) ↔ f.Skips before := by
  unfold Skips
  rw [List.filterMap_append, List.filterMap_eq_nil_iff.mpr hb, List.append_nil]

theorem exists_lastItem {item : α → Bool} {before : List α} {h : σ}
    (hitem : ∀ r ∈ before, (f.head r).isSome = item r)
    (hl : (before.filterMap f.head).getLast? = some h) :
    ∃ a r, LastItem item before a r ∧ f.head r = some h := by
  induction before using List.reverseRecOn with
  | nil => simp at hl
  | append_singleton before r ih =>
    have hbefore : ∀ q ∈ before, (f.head q).isSome = item q :=
      fun q hq => hitem q (List.mem_append_left _ hq)
    have hr := hitem r (by simp)
    cases hhead : f.head r with
    | none =>
      rw [getLast_body hhead] at hl
      obtain ⟨a, q, ⟨b, hab, hq, hb⟩, hqh⟩ := ih hbefore hl
      refine ⟨a, q, ⟨b ++ [r], by rw [hab]; simp, hq, ?_⟩, hqh⟩
      rw [List.forall_mem_append, List.forall_mem_singleton, ← hr, hhead]
      exact ⟨hb, rfl⟩
    | some h' =>
      rw [getLast_head hhead] at hl
      refine ⟨before, r, ⟨[], rfl, ?_, List.forall_mem_nil _⟩, hhead.trans hl⟩
      rw [← hr, hhead]
      rfl

section
variable {item : α → Bool} {before a : List α} {h : α}

theorem heads_behind (hitem : ∀ r ∈ before, (f.head r).isSome = item r)
    (hlast : LastItem item before a h) :
    ∃ b, before = a ++ [h] ++ b ∧ ∀ x ∈ b, f.head x = none := by
  obtain ⟨b, rfl, -, hb⟩ := hlast
  refine ⟨b, by simp, fun x hx => ?_⟩
  rw [← Option.not_isSome_iff_eq_none, hitem x (by simp [hx]), hb x hx]
  exact Bool.false_ne_true

theorem skips_lastItem (hitem : ∀ r ∈ before, (f.head r).isSome = item r)
    (hlast : LastItem item before a h) : f.Skips before ↔ f.Skips (a ++ [h]) := by
  obtain ⟨b, rfl, hb⟩ := heads_behind hitem hlast
  exact skips_append hb

theorem getLast_lastItem (hitem : ∀ r ∈ before, (f.head r).isSome = item r)
    (hlast : LastItem item before a h) : (before.filterMap f.head).getLast? = f.head h := by
  have hh : (f.head h).isSome = true := by
    obtain ⟨b, rfl, hh, -⟩ := hlast
    rw [hitem h (by simp), hh]
  obtain ⟨t, ht⟩ := Option.isSome_iff_exists.mp hh
  obtain ⟨b, rfl, hb⟩ := heads_behind hitem hlast
  rw [List.filterMap_append, List.filterMap_eq_nil_iff.mpr hb, List.append_nil, getLast_head ht, ht]

end

/-- A record with an item is skipped if the last one before it has the same item. -/
theorem skips_iff_lastItem {item : α → Bool} {same : α → α → Prop} {before : List α} {r : α}
    (hitem : ∀ q ∈ before ++ [r], (f.head q).isSome = item q)
    (hsame : ∀ q ∈ before, item q = true → (f.head q = f.head r ↔ same q r)) (hr : item r = true) :
    f.Skips (before ++ [r]) ↔ ∃ a h, LastItem item before a h ∧ same h r := by
  have hbefore : ∀ q ∈ before, (f.head q).isSome = item q :=
    fun q hq => hitem q (List.mem_append_left _ hq)
  have hmem : ∀ {a h}, LastItem item before a h → h ∈ before ∧ item h = true := by
    rintro a h ⟨b, rfl, hh, -⟩
    exact ⟨by simp, hh⟩
  obtain ⟨t, ht⟩ := Option.isSome_iff_exists.mp ((hitem r (by simp)).trans hr)
  rw [skips_head ht]
  constructor
  · intro hl
    obtain ⟨a, h, hlast, hh⟩ := exists_lastItem hbefore hl
    obtain ⟨hin, hone⟩ := hmem hlast
    exact ⟨a, h, hlast, (hsame h hin hone).mp (hh.trans ht.symm)⟩
  · rintro ⟨a, h, hlast, hs⟩
    obtain ⟨hin, hone⟩ := hmem hlast
    rw [getLast_lastItem hbefore hlast, (hsame h hin hone).mpr hs, ht]

/-- What is skipped, in terms of the records. -/
theorem skipsRepeated_iff_copiesFollow {item : α → Bool} {same : α → α → Prop} {rows : List α}
    (hitem : ∀ r ∈ rows, (f.head r).isSome = item r)
    (hsame : ∀ h ∈ rows, ∀ r ∈ rows, item h = true → item r = true → (f.head h = f.head r ↔ same h r))
    (hbetween : ∀ first r middle rest, rows = first ++ r :: middle ++ r :: rest →
      ∀ q ∈ middle, item q = item r) :
    f.SkipsRepeated [] rows ↔ CopiesFollow item same rows := by
  have hnone : ∀ r ∈ rows, item r = false → f.head r = none := by
    intro r hr hf
    rw [← Option.not_isSome_iff_eq_none, hitem r hr, hf]
    exact Bool.false_ne_true
  have hskips : ∀ first r rest, rows = first ++ r :: rest → item r = true →
      (f.Skips (first ++ [r]) ↔ ∃ a h, LastItem item first a h ∧ same h r) := by
    rintro first r rest rfl hr
    refine skips_iff_lastItem (fun q hq => hitem q ?_) (fun q hq hone => hsame q ?_ r ?_ hone hr) hr
    · rcases List.mem_append.mp hq with hq | hq
      · exact List.mem_append_left _ hq
      · rw [List.mem_singleton.mp hq]
        simp
    · exact List.mem_append_left _ hq
    · simp
  constructor
  · intro h
    refine ⟨?_, fun first r rest hrows hr => ?_⟩
    · rintro first r rest rfl hr
      have hhead := hnone r (by simp) hr
      have hnew : r ∉ first := by
        intro hin
        -- the first copy has not been skipped, and there is no item behind it
        obtain ⟨x, m, rfl, hx⟩ := List.eq_append_cons_of_mem hin
        have hm : ∀ q ∈ r :: m, f.head q = none := by
          refine List.forall_mem_cons.mpr ⟨hhead, fun q hq => hnone q (by simp [hq]) ?_⟩
          rw [hbetween x r m rest rfl q hq, hr]
        have hfirst := h x r (m ++ r :: rest) (by simp)
        have hsecond := h (x ++ r :: m) r rest rfl
        rw [List.nil_append, skips_body hhead] at hfirst hsecond
        rw [skips_append hm] at hsecond
        exact hx (hfirst.mp (hsecond.mpr hin))
      refine ⟨hnew, fun a q hlast hq => hnew ?_⟩
      have hr' := h first r rest rfl
      rw [List.nil_append, skips_body hhead] at hr'
      have hfirst : ∀ q ∈ first, (f.head q).isSome = item q := fun q hq => hitem q (by simp [hq])
      refine hr'.mp ((skips_lastItem hfirst hlast).mpr ?_)
      obtain ⟨b, rfl, -, -⟩ := hlast
      exact (h a q (b ++ r :: rest) (by simp)).mpr hq
    · rw [← hskips first r rest hrows hr]
      exact (h first r rest hrows).symm
  · intro h first r rest hrows
    rw [List.nil_append]
    cases hr : item r with
    | true =>
      rw [hskips first r rest hrows hr]
      exact (h.items first r rest hrows hr).symm
    | false =>
      have hmem : ∀ q ∈ first, q ∈ rows := fun q hq => by simp [hrows, hq]
      have hhead := hnone r (by simp [hrows]) hr
      obtain ⟨hnew, hlast⟩ := h.others first r rest hrows hr
      rw [skips_body hhead]
      refine iff_of_false (fun hskip => ?_) hnew
      obtain ⟨t, ht⟩ := exists_getLast_of_skips hskip
      have hfirst : ∀ q ∈ first, (f.head q).isSome = item q := fun q hq => hitem q (hmem q hq)
      obtain ⟨a, q, hq, -⟩ := exists_lastItem hfirst ht
      have hagain := (skips_lastItem hfirst hq).mp hskip
      refine hlast a q hq ?_
      obtain ⟨b, rfl, hone, -⟩ := hq
      have hrows' : rows = a ++ q :: (b ++ r :: rest) := by rw [hrows]; simp
      exact (h.items a q _ hrows' hone).mpr ((hskips a q _ hrows' hone).mp hagain)

/-! ## Regular listings -/

variable (f) in
/-- Texts tell heads from bodies, and heads with bodies tell their records; a copy of a record is not
behind the head of another section. -/
structure Regular (rows : List α) : Prop where
  body_length : ∀ r ∈ rows, f.head r = none → (f.body r).length = 1
  head_length : ∀ r ∈ rows, ∀ q ∈ rows, (f.head r).isSome → (f.head q).isSome →
    (f.body r).length = (f.body q).length
  head_not_mem : ∀ r ∈ rows, ∀ q ∈ rows, ∀ h, f.head r = some h → h ∉ f.body q
  apart : ∀ r ∈ rows, ∀ q ∈ rows, ∀ h, f.head r = some h → f.head q = some h →
    f.body r = f.body q → r = q
  between : ∀ first r middle rest, rows = first ++ r :: middle ++ r :: rest →
    ∀ q ∈ middle, (f.head q).isSome = (f.head r).isSome

theorem exists_section (f : Listing α σ) (rows : List α) :
    ∃ bodies behind, rows = bodies ++ behind ∧ (∀ q ∈ bodies, f.head q = none) ∧
      (behind = [] ∨ ∃ q h rest, behind = q :: rest ∧ f.head q = some h) := by
  induction rows with
  | nil => exact ⟨[], [], rfl, by simp, Or.inl rfl⟩
  | cons r rs ih =>
    cases hr : f.head r with
    | some h => exact ⟨[], r :: rs, rfl, by simp, Or.inr ⟨r, h, rs, rfl, hr⟩⟩
    | none =>
      obtain ⟨bodies, behind, hrows, hbodies, hbehind⟩ := ih
      refine ⟨r :: bodies, behind, by rw [hrows]; rfl, ?_, hbehind⟩
      exact List.forall_mem_cons.mpr ⟨hr, hbodies⟩

theorem length_bodies {rows rs : List α} (hreg : f.Regular rows) (hrs : ∀ q ∈ rs, q ∈ rows)
    (hb : ∀ q ∈ rs, f.head q = none) : (rs.flatMap f.body).length = rs.length := by
  induction rs with
  | nil => rfl
  | cons r rs ih =>
    rw [List.forall_mem_cons] at hrs hb
    rw [List.flatMap_cons, List.length_append, ih hrs.2 hb.2, hreg.body_length r hrs.1 hb.1,
      List.length_cons]
    omega

theorem texts_of_bodies {rs : List α} (hb : ∀ q ∈ rs, f.head q = none) :
    rs.flatMap f.texts = rs.flatMap f.body := by
  induction rs with
  | nil => rfl
  | cons r rs ih =>
    rw [List.forall_mem_cons] at hb
    rw [List.flatMap_cons, List.flatMap_cons, ih hb.2, texts, hb.1]
    rfl

theorem mem_of_append_eq {xs ys zs ws : List σ} {x : σ} (h : xs ++ ys = zs ++ x :: ws)
    (hlength : zs.length < xs.length) : x ∈ xs := by
  have hget := congrArg (fun l => l[zs.length]?) h
  simp only [List.getElem?_append_left hlength, List.getElem?_append_right (Nat.le_refl _),
    Nat.sub_self, List.getElem?_cons_zero] at hget
  exact List.mem_of_getElem? hget

/-! ## Distinct records -/

section Distinct
variable [DecidableEq α]

/-- The records that are not there before. -/
def distinct (before : List α) : List α → List α
  | [] => []
  | r :: rs => (if r ∈ before then [] else [r]) ++ distinct (before ++ [r]) rs

theorem distinct_append (before rows rows' : List α) :
    distinct before (rows ++ rows') = distinct before rows ++ distinct (before ++ rows) rows' := by
  induction rows generalizing before with
  | nil => simp [distinct]
  | cons r rs ih =>
    simp only [List.cons_append, distinct, ih, List.append_assoc, List.nil_append]

theorem distinct_sublist (before rows : List α) : (distinct before rows).Sublist rows := by
  induction rows generalizing before with
  | nil => exact List.Sublist.refl _
  | cons r rs ih =>
    unfold distinct
    by_cases hr : r ∈ before
    · rw [if_pos hr]
      exact (ih _).cons r
    · rw [if_neg hr]
      exact (ih _).cons_cons r

theorem not_mem_of_mem_distinct {before rows : List α} {r : α} (h : r ∈ distinct before rows) :
    r ∉ before := by
  induction rows generalizing before with
  | nil => simp [distinct] at h
  | cons q rs ih =>
    unfold distinct at h
    rcases List.mem_append.mp h with hq | hrest
    · by_cases hm : q ∈ before
      · simp [hm] at hq
      · rw [if_neg hm, List.mem_singleton] at hq
        rwa [hq]
    · exact fun hr => ih hrest (List.mem_append_left _ hr)

/-- What is left out of the distinct records has been printed: the next head would be another one. -/
theorem not_distinct_of_head {before rs : List α} {r : α}
    (hreg : f.Regular (before ++ r :: rs)) {h : σ}
    (hr : f.head r = some h) :
    ∀ rest, (distinct (before ++ [r]) rs).flatMap f.texts ≠ f.texts r ++ rest := by
  intro rest heq
  cases hd : distinct (before ++ [r]) rs with
  | nil => simp [hd, texts, hr] at heq
  | cons q ds =>
    have hq : q ∈ distinct (before ++ [r]) rs := by simp [hd]
    have hmem : q ∈ before ++ r :: rs := by
      have hrs := (distinct_sublist _ _).subset hq
      simp [hrs]
    rw [hd, List.flatMap_cons, texts, texts, hr] at heq
    cases hqh : f.head q with
    | none =>
      obtain ⟨t, ht⟩ := List.length_eq_one_iff.mp (hreg.body_length q hmem hqh)
      rw [hqh, ht] at heq
      simp only [Option.toList_none, Option.toList_some, List.nil_append, List.cons_append,
        List.cons.injEq] at heq
      apply hreg.head_not_mem r (by simp) q hmem h hr
      rw [ht, heq.1]
      exact List.mem_singleton_self h
    | some h' =>
      rw [hqh] at heq
      simp only [Option.toList_some, List.nil_append, List.cons_append, List.cons.injEq] at heq
      have hlength := hreg.head_length q hmem r (by simp) (by simp [hqh]) (by simp [hr])
      have hbody := (List.append_inj heq.2 hlength).1
      have hsame : q = r := hreg.apart q hmem r (by simp) h (by rw [hqh, heq.1]) hr hbody
      apply not_mem_of_mem_distinct hq
      simp [hsame]

end Distinct

/-! ## Printed records -/

variable [DecidableEq σ]

variable (f) in
/-- What is listed of records, behind others. -/
def printed (before : List α) : List α → List σ
  | [] => []
  | r :: rs => (if f.Skips (before ++ [r]) then [] else f.texts r) ++ printed (before ++ [r]) rs

theorem printed_append (before rows rows' : List α) :
    f.printed before (rows ++ rows') = f.printed before rows ++ f.printed (before ++ rows) rows' := by
  induction rows generalizing before with
  | nil => simp [printed]
  | cons r rs ih =>
    simp only [List.cons_append, printed, ih, List.append_assoc, List.nil_append]

/-- Behind a head like the one before it, the next text is another head. -/
theorem printed_of_skips {before : List α} (rows : List α) {h : σ} (hs : f.Skips before)
    (hl : (before.filterMap f.head).getLast? = some h) :
    f.printed before rows = [] ∨
      ∃ r ∈ rows, ∃ h', f.head r = some h' ∧ h' ≠ h ∧ ∃ rest, f.printed before rows = h' :: rest := by
  induction rows generalizing before with
  | nil => exact Or.inl rfl
  | cons r rs ih =>
    unfold printed
    cases hr : f.head r with
    | none =>
      rw [if_pos ((skips_body hr).mpr hs), List.nil_append]
      rcases ih ((skips_body hr).mpr hs) (by rw [getLast_body hr, hl]) with hnil | ⟨q, hq, hrest⟩
      · exact Or.inl hnil
      · exact Or.inr ⟨q, List.mem_cons_of_mem _ hq, hrest⟩
    | some h' =>
      by_cases heq : h' = h
      · subst heq
        have hskip : f.Skips (before ++ [r]) := (skips_head hr).mpr hl
        rw [if_pos hskip, List.nil_append]
        rcases ih hskip (getLast_head hr) with hnil | ⟨q, hq, hrest⟩
        · exact Or.inl hnil
        · exact Or.inr ⟨q, List.mem_cons_of_mem _ hq, hrest⟩
      · have hskip : ¬ f.Skips (before ++ [r]) := by
          rw [skips_head hr, hl]
          simpa [eq_comm] using heq
        rw [if_neg hskip, texts, hr]
        exact Or.inr ⟨r, List.mem_cons_self, h', hr, heq, _, rfl⟩

/-- In a section that is not skipped, everything is printed. -/
theorem printed_bodies {before rows rows' : List α} (hs : ¬ f.Skips before)
    (hb : ∀ r ∈ rows, f.head r = none) :
    f.printed before (rows ++ rows') = rows.flatMap f.body ++ f.printed (before ++ rows) rows' ∧
      ¬ f.Skips (before ++ rows) := by
  induction rows generalizing before with
  | nil => simpa using hs
  | cons r rs ih =>
    obtain ⟨hr, hrest⟩ := List.forall_mem_cons.mp hb
    have hskip : ¬ f.Skips (before ++ [r]) := by rwa [skips_body hr]
    obtain ⟨hprinted, hlast⟩ := ih hskip hrest
    constructor
    · rw [List.cons_append, printed, if_neg hskip, hprinted, texts, hr]
      simp [List.append_assoc]
    · simpa [List.append_assoc] using hlast

variable {before rs : List α} {r : α}

/-- What is skipped has been there: the next text would be another one. -/
theorem not_printed_of_skips (hreg : f.Regular (before ++ r :: rs)) (hs : f.Skips (before ++ [r])) :
    ∀ rest, f.printed (before ++ [r]) rs ≠ f.texts r ++ rest := by
  intro rest heq
  obtain ⟨h, hl⟩ := exists_getLast_of_skips hs
  have hmem : ∀ q ∈ rs, q ∈ before ++ r :: rs := fun q hq => by simp [hq]
  rcases printed_of_skips rs hs hl with hnil | ⟨q, hq, h', hq', hne, rest', hrest⟩
  · -- Every record has a text.
    rw [hnil] at heq
    have htexts : f.texts r = [] := (List.append_eq_nil_iff.mp heq.symm).1
    cases hr : f.head r with
    | none =>
      have hlength := hreg.body_length r (by simp) hr
      rw [texts, hr] at htexts
      simp at htexts
      simp [htexts] at hlength
    | some h'' => simp [texts, hr] at htexts
  · rw [hrest] at heq
    cases hr : f.head r with
    | none =>
      have hlength := hreg.body_length r (by simp) hr
      obtain ⟨t, ht⟩ := List.length_eq_one_iff.mp hlength
      rw [texts, hr, ht] at heq
      simp only [Option.toList_none, List.nil_append, List.cons_append, List.cons.injEq] at heq
      apply hreg.head_not_mem q (hmem q hq) r (by simp) h' hq'
      rw [ht, heq.1]
      exact List.mem_singleton_self t
    | some h'' =>
      rw [getLast_head hr] at hl
      rw [texts, hr] at heq
      simp only [Option.toList_some, List.cons_append, List.cons.injEq] at heq
      exact hne (heq.1.trans (Option.some.inj hl))

variable [DecidableEq α]

/-! ## The skipped records are the repeated ones -/

/-- If the skipped records are the repeated ones, nothing is lost. -/
theorem printed_eq {rows : List α} (h : f.SkipsRepeated before rows) :
    f.printed before rows = (distinct before rows).flatMap f.texts := by
  induction rows generalizing before with
  | nil => rfl
  | cons r rs ih =>
    obtain ⟨hr, hrest⟩ := skipsRepeated_cons.mp h
    unfold printed distinct
    rw [ih hrest, List.flatMap_append]
    by_cases hm : r ∈ before
    · rw [if_pos (hr.mpr hm), if_pos hm, List.flatMap_nil]
    · rw [if_neg (fun hs => hm (hr.mp hs)), if_neg hm, List.flatMap_singleton]

/-- A body that is there again is printed, although the rest of its section has fewer distinct bodies. -/
theorem printed_ne_of_body (hreg : f.Regular (before ++ r :: rs)) (hm : r ∈ before)
    (hr : f.head r = none) (hs : ¬ f.Skips (before ++ [r])) :
    f.texts r ++ f.printed (before ++ [r]) rs ≠ (distinct (before ++ [r]) rs).flatMap f.texts := by
  intro heq
  obtain ⟨bodies, behind, rfl, hbodies, hbehind⟩ := exists_section f rs
  have hsub : (distinct (before ++ [r]) bodies).Sublist bodies := distinct_sublist _ _
  have hnone : ∀ q ∈ distinct (before ++ [r]) bodies, f.head q = none :=
    fun q hq => hbodies q (hsub.subset hq)
  have hin : ∀ q ∈ bodies, q ∈ before ++ r :: (bodies ++ behind) := fun q hq => by simp [hq]
  have hlength : ((distinct (before ++ [r]) bodies).flatMap f.body).length <
      (f.body r ++ bodies.flatMap f.body).length := by
    rw [length_bodies hreg (fun q hq => hin q (hsub.subset hq)) hnone, List.length_append,
      length_bodies hreg hin hbodies, hreg.body_length r (by simp) hr]
    have hle := hsub.length_le
    omega
  have htexts : f.texts r = f.body r := by simp [texts, hr]
  rw [(printed_bodies hs hbodies).1, distinct_append, List.flatMap_append, texts_of_bodies hnone,
    htexts, ← List.append_assoc] at heq
  rcases hbehind with rfl | ⟨q, h, rest, rfl, hq⟩
  · have hlen := congrArg List.length heq
    simp only [distinct, printed, List.flatMap_nil, List.append_nil] at hlen
    omega
  · -- The next section is a new one: its head is not before the body that is there again.
    have hnew : q ∉ before ++ [r] ++ bodies := by
      intro hmem
      have hsome : (f.head q).isSome := by simp [hq]
      rcases List.mem_append.mp hmem with hmem | hmem
      · rcases List.mem_append.mp hmem with hmem | hmem
        · obtain ⟨first, middle, rfl⟩ := List.append_of_mem hmem
          have hkind := hreg.between first q (middle ++ r :: bodies) rest (by simp) r (by simp)
          simp [hr, hq] at hkind
        · rw [List.mem_singleton] at hmem
          simp [hmem, hr] at hsome
      · simp [hbodies q hmem] at hsome
    rw [distinct, if_neg hnew, List.flatMap_append, List.flatMap_singleton, texts, hq] at heq
    simp only [Option.toList_some, List.cons_append] at heq
    have hmem := mem_of_append_eq heq hlength
    rcases List.mem_append.mp hmem with hmem | hmem
    · exact hreg.head_not_mem q (by simp) r (by simp) h hq hmem
    · obtain ⟨q', hq', hbody⟩ := List.mem_flatMap.mp hmem
      exact hreg.head_not_mem q (by simp) q' (hin q' hq') h hq hbody

/-- For a regular listing, nothing else does. -/
theorem skipsRepeated_of_eq {rows : List α} (hreg : f.Regular (before ++ rows))
    (heq : f.printed before rows = (distinct before rows).flatMap f.texts) :
    f.SkipsRepeated before rows := by
  induction rows generalizing before with
  | nil =>
    intro first r rest hrows
    simp at hrows
  | cons r rs ih =>
    have hreg' : f.Regular (before ++ [r] ++ rs) := by simpa using hreg
    rw [skipsRepeated_cons]
    unfold printed distinct at heq
    by_cases hs : f.Skips (before ++ [r])
    · rw [if_pos hs, List.nil_append] at heq
      by_cases hm : r ∈ before
      · rw [if_pos hm, List.nil_append] at heq
        exact ⟨iff_of_true hs hm, ih hreg' heq⟩
      · rw [if_neg hm, List.singleton_append, List.flatMap_cons] at heq
        exact absurd heq (not_printed_of_skips hreg hs _)
    · rw [if_neg hs] at heq
      by_cases hm : r ∈ before
      · rw [if_pos hm, List.nil_append] at heq
        cases hr : f.head r with
        | none => exact absurd heq (printed_ne_of_body hreg hm hr hs)
        | some h => exact absurd heq.symm (not_distinct_of_head hreg hr _)
      · rw [if_neg hm, List.singleton_append, List.flatMap_cons] at heq
        exact ⟨iff_of_false hs hm, ih hreg' (List.append_cancel_left heq)⟩

theorem printed_eq_iff {rows : List α} (hreg : f.Regular rows) :
    f.printed [] rows = (distinct [] rows).flatMap f.texts ↔ f.SkipsRepeated [] rows :=
  ⟨skipsRepeated_of_eq (show f.Regular ([] ++ rows) from hreg), printed_eq⟩

end Listing

end HiPerConTracer.Repetition
