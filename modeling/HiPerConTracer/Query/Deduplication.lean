import HiPerConTracer.Lib.Repetition
import HiPerConTracer.Net.AddressText
import HiPerConTracer.Query.Exports
import Mathlib.Data.List.Lex

/-!
# Deduplication

With deduplication, an item that is like the one before it is left out, with all hops behind it.  Rows
come in the order of ORDER BY, where the copies of a row of a Traceroute follow each other: the second copy
of the first hop makes the program skip all other hops of its block, and the copies of other hops are not
looked for.  What is printed is what is printed of the distinct rows

    ↔ no other hop is there twice, or behind a copy of a first hop, and a first hop is a copy
      exactly if it has the values of the header of the one before it                (deduplication_iff)
-/

namespace HiPerConTracer.Query
open Net Repetition
open Results (Text PingValues HeaderValues HopValues Timing)

instance : DecidableEq Cell
  | .int m, .int n => decidable_of_iff (m = n) (by simp)
  | .address a, .address b => decidable_of_iff (a = b) (by simp)
  | .int _, .address _ => isFalse (by simp)
  | .address _, .int _ => isFalse (by simp)

/-! ## Queries as listings -/

/-- The item and the hops that are printed for a row. -/
def listing (p : Options) : QueryType → Listing Row Text
  | .ping => { head := fun r => some (pingLine p (sqlPing p r)), body := fun _ => [] }
  | .traceroute =>
    { head := fun r =>
        if (sqlTracerouteHop r).hopNumber = 1 then some (headerLine p (sqlTracerouteHeader p r)) else none
      body := fun r => [hopLine p (sqlTracerouteHop r)] }

def rowActions (p : Options) : QueryType → Row → List Action
  | .ping => sqlPingActions p
  | .traceroute => sqlTracerouteActions p

/-- What is exported of the rows of a result. -/
def exportRows (p : Options) (q : QueryType) (rows : List Row) : Export :=
  Export.start.exec p (rows.flatMap (rowActions p q))

def itemType : QueryType → Text
  | .ping => "Ping 2".toList
  | .traceroute => "Traceroute 2".toList

theorem unsigned_unsigned (bits : Nat) (n : Int) : unsigned bits (unsigned bits n) = unsigned bits n := by
  unfold unsigned
  have hpos : (0 : Int) < 2 ^ bits := Int.pow_pos (by omega)
  rw [Int.toNat_of_nonneg (Int.emod_nonneg _ (by omega)), Int.emod_emod_of_dvd _ (Int.dvd_refl _)]

theorem rowActions_eq (p : Options) (q : QueryType) (r : Row) :
    rowActions p q r =
      ((listing p q).head r).toList.map (.item (itemType q) (unsigned 64 (r.getBigInt 1))) ++
        ((listing p q).body r).map .hop := by
  cases q with
  | ping =>
    show [Action.item _ (unsigned 64 (unsigned 64 (r.getBigInt 1))) _] = _
    rw [unsigned_unsigned]
    rfl
  | traceroute =>
    unfold rowActions listing sqlTracerouteActions
    dsimp only
    by_cases h : (sqlTracerouteHop r).hopNumber = 1
    · rw [if_pos h, if_pos h]
      show [Action.item _ (unsigned 64 (unsigned 64 (r.getBigInt 1))) _, _] = _
      rw [unsigned_unsigned]
      rfl
    · rw [if_neg h, if_neg h]
      rfl

/-! ## The order of the rows -/

def Cell.rank (collate : Address → Nat) : Cell → Int
  | .int value => value
  | .address a => collate a

/-- How many columns there are in ORDER BY: these are the first ones. -/
def orderColumns : QueryType → Nat
  | .ping => 6
  | .traceroute => 8

def orderKey (q : QueryType) (collate : Address → Nat) (r : Row) : List Int :=
  (r.take (orderColumns q)).map (Cell.rank collate)

/-- Rows in the order of ORDER BY, with integers for the time stamps and the hop numbers, and time stamps
without sign. -/
structure Ordered (q : QueryType) (collate : Address → Nat) (rows : List Row) : Prop where
  timeStamp : ∀ r ∈ rows, ∃ t : Nat, t < 2 ^ 64 ∧ r[0]? = some (.int t)
  hopNumber : ∀ r ∈ rows, ∃ n : Int, r[7]? = some (.int n)
  sorted : rows.Pairwise fun r r' => orderKey q collate r ≤ orderKey q collate r'

section Ordered
variable {q : QueryType} {collate : Address → Nat} {rows : List Row}

theorem itemTimeStamp {r : Row} {t : Nat} (ht : t < 2 ^ 64) (hr : r[0]? = some (.int t)) :
    unsigned 64 (r.getBigInt 1) = t := by
  have hint : r.int 1 = t := by simp [Row.int, hr]
  unfold Row.getBigInt
  rw [hint, unsigned_bmod_long]
  unfold unsigned
  omega

theorem Ordered.timeStamp_le (h : Ordered q collate rows) :
    rows.Pairwise fun r r' => unsigned 64 (r.getBigInt 1) ≤ unsigned 64 (r'.getBigInt 1) := by
  apply h.sorted.imp_of_mem
  intro r r' hr hr' hle
  obtain ⟨t, ht, hcell⟩ := h.timeStamp r hr
  obtain ⟨t', ht', hcell'⟩ := h.timeStamp r' hr'
  rw [itemTimeStamp ht hcell, itemTimeStamp ht' hcell']
  have hkey : ∀ {r : Row} {t : Nat}, r[0]? = some (.int t) →
      ∃ rest, orderKey q collate r = (t : Int) :: rest := by
    intro r t hr
    cases r with
    | nil => simp at hr
    | cons c r =>
      simp only [List.getElem?_cons_zero, Option.some.injEq] at hr
      cases q <;> exact ⟨_, by rw [hr]; rfl⟩
  obtain ⟨rest, hrest⟩ := hkey hcell
  obtain ⟨rest', hrest'⟩ := hkey hcell'
  rw [hrest, hrest'] at hle
  by_contra hlt
  exact not_lt_of_ge hle (List.Lex.rel (by omega))

/-- Between two copies of a row there are only rows of the same hop. -/
theorem Ordered.hopNumber_between (h : Ordered .traceroute collate rows) {first middle rest : List Row}
    {r r' : Row} (hrows : rows = first ++ r :: middle ++ r :: rest) (hr' : r' ∈ middle) :
    (sqlTracerouteHop r').hopNumber = (sqlTracerouteHop r).hopNumber := by
  have hsorted := h.sorted
  rw [hrows, List.append_assoc] at hsorted
  have hmiddle := (List.pairwise_append.mp hsorted).2.1
  rw [List.cons_append, List.pairwise_cons, List.pairwise_append] at hmiddle
  have hle : orderKey .traceroute collate r ≤ orderKey .traceroute collate r' :=
    hmiddle.1 r' (by simp [hr'])
  have hge : orderKey .traceroute collate r' ≤ orderKey .traceroute collate r :=
    hmiddle.2.2.2 r' hr' r (by simp)
  have hkey := le_antisymm hle hge
  obtain ⟨n, hn⟩ := h.hopNumber r (by simp [hrows])
  obtain ⟨n', hn'⟩ := h.hopNumber r' (by simp [hrows, hr'])
  have hcolumn := congrArg (fun l => l[7]?) hkey
  simp [orderKey, orderColumns, hn, hn', Cell.rank] at hcolumn
  have hint : r.int 8 = r'.int 8 := by simp [Row.int, hn, hn', hcolumn]
  show unsigned 32 ((r'.int 8).bmod _) = unsigned 32 ((r.int 8).bmod _)
  rw [hint]

end Ordered

/-! ## The program prints a listing -/

section Run
variable {p : Options} {q : QueryType}

def itemTime (r : Row) : Nat := unsigned 64 (r.getBigInt 1)

/-- The format identifier stands in front if the first row has an item. -/
def identified (p : Options) (q : QueryType) : List Row → List Text
  | [] => []
  | r :: _ => if ((listing p q).head r).isSome then [identification p (itemType q)] else []

/-- A row has the time stamp of the item that it is printed with. -/
theorem head_itemTime {r r' : Row} {h : Text} (hr : (listing p q).head r = some h)
    (hr' : (listing p q).head r' = some h) : itemTime r = itemTime r' := by
  have hline : ∀ {r : Row}, (listing p q).head r = some h →
      (∃ v : PingValues, h = pingLine p v ∧ v = sqlPing p r ∧ q = .ping) ∨
        ∃ v : HeaderValues, h = headerLine p v ∧ v = sqlTracerouteHeader p r ∧ q = .traceroute := by
    intro r hr
    cases q with
    | ping => exact Or.inl ⟨_, (Option.some.inj hr).symm, rfl, rfl⟩
    | traceroute =>
      by_cases hn : (sqlTracerouteHop r).hopNumber = 1
      · simp only [listing, if_pos hn, Option.some.injEq] at hr
        exact Or.inr ⟨_, hr.symm, rfl, rfl⟩
      · simp [listing, hn] at hr
  have htime : ∀ r : Row, unsigned 64 (unsigned 64 (r.getBigInt 1) : Nat) = itemTime r :=
    fun r => unsigned_unsigned 64 _
  rcases hline hr with ⟨v, hv, rfl, hq⟩ | ⟨v, hv, rfl, hq⟩
  · rcases hline hr' with ⟨v', hv', rfl, -⟩ | ⟨v', -, -, hq'⟩
    · have heq := pingLine_timeStamp (hv.symm.trans hv')
      rw [← htime r, ← htime r']
      exact heq
    · rw [hq] at hq'
      cases hq'
  · rcases hline hr' with ⟨v', -, -, hq'⟩ | ⟨v', hv', rfl, -⟩
    · rw [hq] at hq'
      cases hq'
    · have heq := headerLine_timeStamp (hv.symm.trans hv')
      rw [← htime r, ← htime r']
      exact heq

theorem head_ne_nil {r : Row} : (listing p q).head r ≠ some [] := by
  intro hr
  cases q with
  | ping =>
    have hnil : pingLine p (sqlPing p r) = [] := Option.some.inj hr
    simp [pingLine, line] at hnil
  | traceroute =>
    by_cases hn : (sqlTracerouteHop r).hopNumber = 1
    · simp only [listing, if_pos hn, Option.some.injEq] at hr
      simp [headerLine, line] at hr
    · simp [listing, hn] at hr

/-- The state of the export behind rows, of which something has been printed. -/
structure Follows (p : Options) (q : QueryType) (before : List Row) (shown : List Text) (e : Export) :
    Prop where
  ended : e.ended = none
  stream : e.stream = identified p q before ++ shown
  empty : before = [] → shown = []
  lines : e.lines = 0 ↔ before = []
  lastTimeStamp : e.lastTimeStamp = 0 ∨ ∃ r ∈ before, e.lastTimeStamp = itemTime r

theorem Follows.start (p : Options) (q : QueryType) : Follows p q [] [] Export.start :=
  ⟨rfl, rfl, fun _ => rfl, by simp [Export.start], Or.inl rfl⟩

theorem identified_append {before : List Row} (h : before ≠ []) (r : Row) :
    identified p q (before ++ [r]) = identified p q before := by
  cases before with
  | nil => exact absurd rfl h
  | cons r' before => rfl

section Step
variable {before : List Row} {shown : List Text} {e : Export} {r : Row}

/-- A row whose item is written. -/
theorem Follows.item (hf : Follows p q before shown e) {h : Text} (hr : (listing p q).head r = some h)
    (hmono : ∀ r' ∈ before, itemTime r' ≤ itemTime r)
    (hnew : ¬ (p.deduplication = true ∧ e.lastTimeStamp = itemTime r ∧ e.dedupLastItem = h)) :
    Follows p q (before ++ [r]) (shown ++ (listing p q).texts r) (e.exec p (rowActions p q r)) ∧
      (e.exec p (rowActions p q r)).dedupInProgress = false ∧
      (e.exec p (rowActions p q r)).dedupLastItem = (if p.deduplication then h else e.dedupLastItem) ∧
      (e.exec p (rowActions p q r)).lastTimeStamp = itemTime r := by
  have hle : e.lastTimeStamp ≤ itemTime r := by
    rcases hf.lastTimeStamp with h0 | ⟨r', hr', ht⟩
    · omega
    · have hm := hmono r' hr'
      omega
  have hactions : rowActions p q r =
      .item (itemType q) (itemTime r) h :: ((listing p q).body r).map .hop := by
    rw [rowActions_eq, hr]
    rfl
  rw [hactions, Export.exec_item hf.ended hle hnew]
  refine ⟨⟨hf.ended, ?_, by simp, by simp, Or.inr ⟨r, by simp, rfl⟩⟩, rfl, rfl, rfl⟩
  dsimp only
  rw [hf.stream]
  by_cases hb : before = []
  · rw [if_pos (hf.lines.mpr hb), hf.empty hb, hb]
    simp [identified, hr, Listing.texts]
  · rw [if_neg (fun h0 => hb (hf.lines.mp h0)), identified_append hb]
    simp [hr, Listing.texts]

/-- A row whose hop is written behind the last item. -/
theorem Follows.hop (hf : Follows p q before shown e) (hr : (listing p q).head r = none)
    (hd : e.dedupInProgress = false) :
    Follows p q (before ++ [r]) (shown ++ (listing p q).texts r) (e.exec p (rowActions p q r)) ∧
      (e.exec p (rowActions p q r)).dedupInProgress = false ∧
      (e.exec p (rowActions p q r)).dedupLastItem = e.dedupLastItem ∧
      (e.exec p (rowActions p q r)).lastTimeStamp = e.lastTimeStamp := by
  have hactions : rowActions p q r = ((listing p q).body r).map .hop := by
    rw [rowActions_eq, hr]
    rfl
  have hlength : ((listing p q).body r).length = 1 := by
    cases q with
    | ping => simp [listing] at hr
    | traceroute => rfl
  rw [hactions, Export.exec_hops hf.ended hd]
  refine ⟨⟨hf.ended, ?_, by simp, by simp [hlength], ?_⟩, hd, rfl, rfl⟩
  · dsimp only
    rw [hf.stream]
    by_cases hb : before = []
    · rw [hf.empty hb, hb]
      simp [identified, hr, Listing.texts]
    · rw [identified_append hb]
      simp [hr, Listing.texts]
  · rcases hf.lastTimeStamp with htime | ⟨r', hr', ht⟩
    · exact Or.inl htime
    · exact Or.inr ⟨r', by simp [hr'], ht⟩

/-- A row that is left out. -/
theorem Follows.skipped (hf : Follows p q before shown e) (hb : before ≠ [])
    (hskip : ((listing p q).head r = none ∧ e.dedupInProgress = true) ∨
      ∃ h, (listing p q).head r = some h ∧ p.deduplication = true ∧ e.lastTimeStamp = itemTime r ∧
        e.dedupLastItem = h) :
    Follows p q (before ++ [r]) shown (e.exec p (rowActions p q r)) ∧
      (e.exec p (rowActions p q r)).dedupInProgress = true ∧
      (e.exec p (rowActions p q r)).dedupLastItem = e.dedupLastItem ∧
      (e.exec p (rowActions p q r)).lastTimeStamp = e.lastTimeStamp := by
  have hsame : Follows p q (before ++ [r]) shown e := by
    refine ⟨hf.ended, by rw [hf.stream, identified_append hb], by simp, ?_, ?_⟩
    · simp [hf.lines, hb]
    · exact hf.lastTimeStamp.imp_right fun ⟨r', hr', ht⟩ => ⟨r', by simp [hr'], ht⟩
  rcases hskip with ⟨hr, hd⟩ | ⟨h, hr, hitem⟩
  · have hactions : rowActions p q r = ((listing p q).body r).map .hop := by
      rw [rowActions_eq, hr]
      rfl
    rw [hactions, Export.exec_hops_skipped hd]
    exact ⟨hsame, hd, rfl, rfl⟩
  · have hactions : rowActions p q r =
        .item (itemType q) (itemTime r) h :: ((listing p q).body r).map .hop := by
      rw [rowActions_eq, hr]
      rfl
    rw [hactions, Export.exec_item_skipped hf.ended hitem]
    exact ⟨⟨hsame.ended, hsame.stream, hsame.empty, hsame.lines, hsame.lastTimeStamp⟩, rfl, rfl, rfl⟩

end Step

/-- Without deduplication, all rows are printed. -/
theorem follows_plain (hp : p.deduplication = false) {before rows : List Row} {e : Export}
    (hmono : (before ++ rows).Pairwise fun r r' => itemTime r ≤ itemTime r')
    (hf : Follows p q before (before.flatMap (listing p q).texts) e) (hd : e.dedupInProgress = false) :
    Follows p q (before ++ rows) ((before ++ rows).flatMap (listing p q).texts)
      (e.exec p (rows.flatMap (rowActions p q))) := by
  induction rows generalizing before e with
  | nil => simpa [Export.exec] using hf
  | cons r rs ih =>
    have hnext : Follows p q (before ++ [r]) ((before ++ [r]).flatMap (listing p q).texts)
        (e.exec p (rowActions p q r)) ∧ (e.exec p (rowActions p q r)).dedupInProgress = false := by
      rw [List.flatMap_append, List.flatMap_singleton]
      cases hr : (listing p q).head r with
      | none => exact ⟨(hf.hop hr hd).1, (hf.hop hr hd).2.1⟩
      | some h =>
        have hitem := hf.item hr (fun r' hr' => (List.pairwise_append.mp hmono).2.2 r' hr' r (by simp))
          (by simp [hp])
        exact ⟨hitem.1, hitem.2.1⟩
    rw [List.flatMap_cons, Export.exec_append]
    have hrun := ih (by simpa using hmono) hnext.1 hnext.2
    simpa using hrun

/-- With deduplication, what the export remembers of the rows. -/
structure Remembers (p : Options) (q : QueryType) (before : List Row) (e : Export) : Prop where
  inProgress : e.dedupInProgress = true ↔ (listing p q).Skips before
  lastItem : e.dedupLastItem = ((before.filterMap (listing p q).head).getLast?).getD []
  lastTime : ∀ r ∈ before, (listing p q).head r = some e.dedupLastItem → e.lastTimeStamp = itemTime r

theorem Remembers.start (p : Options) (q : QueryType) : Remembers p q [] Export.start :=
  ⟨by simp [Export.start, Listing.Skips], rfl, by simp⟩

/-- The next row is left out exactly if the heads of the last two items are equal. -/
theorem follows_dedup_step (hp : p.deduplication = true) {before : List Row} {r : Row} {e : Export}
    (hmono : ∀ r' ∈ before, itemTime r' ≤ itemTime r)
    (hf : Follows p q before ((listing p q).printed [] before) e) (hm : Remembers p q before e) :
    Follows p q (before ++ [r]) ((listing p q).printed [] (before ++ [r]))
        (e.exec p (rowActions p q r)) ∧
      Remembers p q (before ++ [r]) (e.exec p (rowActions p q r)) := by
  have hprinted : (listing p q).printed [] (before ++ [r]) = (listing p q).printed [] before ++
      (if (listing p q).Skips (before ++ [r]) then [] else (listing p q).texts r) := by
    simp [Listing.printed_append, Listing.printed]
  rw [hprinted]
  cases hr : (listing p q).head r with
  | none =>
    have hlast : ∀ {e' : Export}, e'.dedupLastItem = e.dedupLastItem →
        e'.lastTimeStamp = e.lastTimeStamp →
        e'.dedupLastItem = (((before ++ [r]).filterMap (listing p q).head).getLast?).getD [] ∧
          ∀ r' ∈ before ++ [r], (listing p q).head r' = some e'.dedupLastItem →
            e'.lastTimeStamp = itemTime r' := by
      intro e' hitem htime
      rw [hitem, htime, Listing.getLast_body hr]
      refine ⟨hm.lastItem, ?_⟩
      intro r' hr' hhead
      rcases List.mem_append.mp hr' with hr' | hr'
      · exact hm.lastTime r' hr' hhead
      · rw [List.mem_singleton.mp hr', hr] at hhead
        cases hhead
    by_cases hs : (listing p q).Skips before
    · have hb : before ≠ [] := by
        rintro rfl
        exact hs
      rw [if_pos ((Listing.skips_body hr).mpr hs), List.append_nil]
      obtain ⟨hnext, hd, hitem, htime⟩ := hf.skipped hb (Or.inl ⟨hr, hm.inProgress.mpr hs⟩)
      obtain ⟨hl, ht⟩ := hlast hitem htime
      exact ⟨hnext, iff_of_true hd ((Listing.skips_body hr).mpr hs), hl, ht⟩
    · have hd : e.dedupInProgress = false := by
        rw [Bool.eq_false_iff]
        exact fun h => hs (hm.inProgress.mp h)
      have hs' : ¬ (listing p q).Skips (before ++ [r]) := by rwa [Listing.skips_body hr]
      rw [if_neg hs']
      obtain ⟨hnext, hd', hitem, htime⟩ := hf.hop hr hd
      obtain ⟨hl, ht⟩ := hlast hitem htime
      exact ⟨hnext, iff_of_false (by simp [hd']) hs', hl, ht⟩
  | some h =>
    have hgetLast : ((before ++ [r]).filterMap (listing p q).head).getLast? = some h :=
      Listing.getLast_head hr
    have htimes : ∀ r' ∈ before ++ [r], (listing p q).head r' = some h → itemTime r = itemTime r' :=
      fun r' _ hhead => head_itemTime hr hhead
    by_cases hl : (before.filterMap (listing p q).head).getLast? = some h
    · have hs : (listing p q).Skips (before ++ [r]) := (Listing.skips_head hr).mpr hl
      have hitem : e.dedupLastItem = h := by rw [hm.lastItem, hl, Option.getD_some]
      obtain ⟨r', hr', hhead⟩ := List.mem_filterMap.mp (List.mem_of_getLast? hl)
      have htime : e.lastTimeStamp = itemTime r := by
        rw [hm.lastTime r' hr' (by rw [hhead, hitem])]
        exact head_itemTime hhead hr
      rw [if_pos hs, List.append_nil]
      obtain ⟨hnext, hd, hitem', htime'⟩ :=
        hf.skipped (List.ne_nil_of_mem hr') (Or.inr ⟨h, hr, hp, htime, hitem⟩)
      refine ⟨hnext, iff_of_true hd hs, ?_, ?_⟩
      · rw [hitem', hitem, hgetLast, Option.getD_some]
      · intro q' hq' hhead'
        rw [hitem', hitem] at hhead'
        rw [htime', htime, htimes q' hq' hhead']
    · have hs : ¬ (listing p q).Skips (before ++ [r]) := by rwa [Listing.skips_head hr]
      have hitem : e.dedupLastItem ≠ h := by
        intro heq
        rw [hm.lastItem] at heq
        cases hlast : (before.filterMap (listing p q).head).getLast? with
        | none =>
          rw [hlast, Option.getD_none] at heq
          exact head_ne_nil (r := r) (by rw [hr, heq])
        | some h' =>
          rw [hlast, Option.getD_some] at heq
          exact hl (by rw [hlast, heq])
      rw [if_neg hs]
      obtain ⟨hnext, hd, hitem', htime'⟩ := hf.item hr hmono (fun hsame => hitem hsame.2.2)
      rw [if_pos hp] at hitem'
      refine ⟨hnext, iff_of_false (by simp [hd]) hs, ?_, ?_⟩
      · rw [hitem', hgetLast, Option.getD_some]
      · intro q' hq' hhead'
        rw [hitem'] at hhead'
        rw [htime', htimes q' hq' hhead']

theorem follows_dedup (hp : p.deduplication = true) {before rows : List Row} {e : Export}
    (hmono : (before ++ rows).Pairwise fun r r' => itemTime r ≤ itemTime r')
    (hf : Follows p q before ((listing p q).printed [] before) e) (hm : Remembers p q before e) :
    Follows p q (before ++ rows) ((listing p q).printed [] (before ++ rows))
      (e.exec p (rows.flatMap (rowActions p q))) := by
  induction rows generalizing before e with
  | nil => simpa [Export.exec] using hf
  | cons r rs ih =>
    have hnext := follows_dedup_step hp (r := r)
      (fun r' hr' => (List.pairwise_append.mp hmono).2.2 r' hr' r (by simp)) hf hm
    rw [List.flatMap_cons, Export.exec_append]
    have hrun := ih (by simpa using hmono) hnext.1 hnext.2
    simpa using hrun

/-- The two ways of printing, from the begin. -/
theorem stream_dedup (hp : p.deduplication = true) {rows : List Row}
    (hmono : rows.Pairwise fun r r' => itemTime r ≤ itemTime r') :
    (exportRows p q rows).stream = identified p q rows ++ (listing p q).printed [] rows :=
  (follows_dedup hp (List.nil_append rows ▸ hmono) (Follows.start p q) (Remembers.start p q)).stream

theorem stream_plain (hp : p.deduplication = false) {rows : List Row}
    (hmono : rows.Pairwise fun r r' => itemTime r ≤ itemTime r') :
    (exportRows p q rows).stream = identified p q rows ++ rows.flatMap (listing p q).texts :=
  (follows_plain hp (List.nil_append rows ▸ hmono) (Follows.start p q) rfl).stream

end Run

/-! ## What the deduplication leaves out -/

/-- Rows with an item are printed differently if they are different. -/
def PrintedApart (p : Options) (q : QueryType) (rows : List Row) : Prop :=
  ∀ r ∈ rows, ∀ r' ∈ rows, ((listing p q).head r).isSome →
    (listing p q).texts r = (listing p q).texts r' → r = r'

theorem regular {p : Options} {q : QueryType} {collate : Address → Nat} {rows : List Row}
    (h : Ordered q collate rows) (ha : PrintedApart p q rows) : (listing p q).Regular rows where
  body_length := by
    intro r _ hr
    cases q with
    | ping => simp [listing] at hr
    | traceroute => rfl
  head_length := by
    intro r _ r' _ _ _
    cases q <;> rfl
  head_not_mem := by
    intro r _ r' _ l hr hmem
    cases q with
    | ping => simp [listing] at hmem
    | traceroute =>
      by_cases hn : (sqlTracerouteHop r).hopNumber = 1
      · simp only [listing, if_pos hn, Option.some.injEq, List.mem_singleton] at hr hmem
        have hhead := headerLine_head p (sqlTracerouteHeader p r)
        rw [hr, hmem, hopLine_head] at hhead
        cases hhead
      · simp [listing, hn] at hr
  apart := by
    intro r hr r' hr' l hl hl' hbody
    apply ha r hr r' hr' (by simp [hl])
    rw [Listing.texts, Listing.texts, hl, hl', hbody]
  between := by
    intro first r middle rest hrows r' hr'
    cases q with
    | ping => rfl
    | traceroute =>
      have hnumber := h.hopNumber_between hrows hr'
      simp only [listing, hnumber]
      split <;> rfl

/-! ## Where copies of rows stand -/

/-- The header of a Traceroute is that of the row of its first hop. -/
def hasItem : QueryType → Row → Bool
  | .ping, _ => true
  | .traceroute, r => (sqlTracerouteHop r).hopNumber = 1

/-- Rows with the same values for a Ping, or for the header of a Traceroute. -/
def SameItem (p : Options) : QueryType → Row → Row → Prop
  | .ping, r, r' => sqlPing p r = sqlPing p r'
  | .traceroute, r, r' => sqlTracerouteHeader p r = sqlTracerouteHeader p r'

/-- The columns with addresses. -/
def addressColumns : List Nat := [3, 4, 18]

/-- The addresses of rows are printed as words that tell them. -/
structure AddressesTold (p : Options) (rows : List Row) : Prop where
  noSpace : ∀ r ∈ rows, ∀ k ∈ addressColumns, ' ' ∉ p.addressText (r.getAddress k)
  told : ∀ r ∈ rows, ∀ r' ∈ rows, ∀ k ∈ addressColumns,
    p.addressText (r.getAddress k) = p.addressText (r'.getAddress k) → r.getAddress k = r'.getAddress k

/-- Rows with an item that are read alike are one row. -/
def ReadApart (p : Options) (q : QueryType) (rows : List Row) : Prop :=
  ∀ r ∈ rows, ∀ r' ∈ rows, hasItem q r = true → hasItem q r' = true → SameItem p q r r' →
    (q = .traceroute → sqlTracerouteHop r = sqlTracerouteHop r') → r = r'

section
variable {p : Options} {q : QueryType} {rows : List Row}

theorem head_traceroute (p : Options) (r : Row) :
    (listing p .traceroute).head r =
      if hasItem .traceroute r = true then some (headerLine p (sqlTracerouteHeader p r)) else none :=
  if_congr decide_eq_true_iff.symm rfl rfl

theorem head_isSome (p : Options) (q : QueryType) (r : Row) :
    ((listing p q).head r).isSome = hasItem q r := by
  cases q with
  | ping => rfl
  | traceroute =>
    rw [head_traceroute]
    cases hasItem .traceroute r <;> rfl

theorem eq_of_unsigned {m n : Int}
    (h : unsigned 64 (unsigned 64 m) = unsigned 64 (unsigned 64 n)) :
    (unsigned 64 m : Int) = unsigned 64 n := by
  rw [unsigned_unsigned, unsigned_unsigned] at h
  rw [h]

theorem getBigInt_eq_of_unsigned {r r' : Row} {k : Nat}
    (h : unsigned 64 (r.getBigInt k) = unsigned 64 (r'.getBigInt k)) : r.getBigInt k = r'.getBigInt k := by
  unfold Row.getBigInt at h ⊢
  rw [unsigned_bmod_long, unsigned_bmod_long] at h
  unfold unsigned at h
  have hcast : ((2 ^ 64 : Nat) : Int) = 2 ^ 64 := rfl
  have hmod : r.int k % (2 ^ 64 : Nat) = r'.int k % (2 ^ 64 : Nat) := by
    rw [hcast]
    omega
  rw [← Int.emod_bmod, hmod, Int.emod_bmod]

theorem AddressesTold.spaces (ha : AddressesTold p rows) {r r' : Row} (hr : r ∈ rows) (hr' : r' ∈ rows) :
    ∀ a ∈ [r.getAddress 3, r'.getAddress 3, r.getAddress 4, r'.getAddress 4],
      ' ' ∉ p.addressText a := by
  simp only [List.forall_mem_cons, List.not_mem_nil, false_imp_iff, implies_true, and_true]
  exact ⟨ha.noSpace r hr 3 (by decide), ha.noSpace r' hr' 3 (by decide),
    ha.noSpace r hr 4 (by decide), ha.noSpace r' hr' 4 (by decide)⟩

/-- The items are printed alike exactly if they have the same values. -/
theorem head_eq_iff (ha : AddressesTold p rows) {r r' : Row} (hr : r ∈ rows) (hr' : r' ∈ rows)
    (hone : hasItem q r = true) (hone' : hasItem q r' = true) :
    (listing p q).head r = (listing p q).head r' ↔ SameItem p q r r' := by
  have hsource := ha.told r hr r' hr' 3 (by decide)
  have hdestination := ha.told r hr r' hr' 4 (by decide)
  cases q with
  | ping =>
    refine ⟨fun h => ?_, fun h => congrArg some (congrArg (pingLine p) h)⟩
    exact pingLine_injective (ha.spaces hr hr') hsource hdestination eq_of_unsigned (Option.some.inj h)
  | traceroute =>
    rw [head_traceroute, head_traceroute, if_pos hone, if_pos hone', Option.some_inj]
    refine ⟨fun h => ?_, fun h => congrArg (headerLine p) h⟩
    exact headerLine_injective (ha.spaces hr hr') hsource hdestination eq_of_unsigned
      getBigInt_eq_of_unsigned h

theorem hop_eq_of_line (ha : AddressesTold p rows) {r r' : Row} (hr : r ∈ rows) (hr' : r' ∈ rows)
    (hheader : sqlTracerouteHeader p r = sqlTracerouteHeader p r')
    (hline : hopLine p (sqlTracerouteHop r) = hopLine p (sqlTracerouteHop r')) :
    sqlTracerouteHop r = sqlTracerouteHop r' := by
  have hspaces : ∀ a ∈ [r.getAddress 18, r'.getAddress 18], ' ' ∉ p.addressText a := by
    simp only [List.forall_mem_cons, List.not_mem_nil, false_imp_iff, implies_true, and_true]
    exact ⟨ha.noSpace r hr 18 (by decide), ha.noSpace r' hr' 18 (by decide)⟩
  obtain ⟨hhop, hlow⟩ := hopLine_injective hspaces (ha.told r hr r' hr' 18 (by decide)) eq_of_unsigned
    hline
  -- the header has the other bits of the status
  have hhigh : (sqlTracerouteHop r).status - (sqlTracerouteHop r).status % 256 =
      (sqlTracerouteHop r').status - (sqlTracerouteHop r').status % 256 :=
    congrArg HeaderValues.statusFlags hheader
  have hstatus : (sqlTracerouteHop r).status = (sqlTracerouteHop r').status := by omega
  have hset : ∀ r : Row, sqlTracerouteHop r =
      { { sqlTracerouteHop r with status := 0 } with status := (sqlTracerouteHop r).status } := fun _ => rfl
  rw [hset r, hset r', hhop, hstatus]

theorem printedApart (ha : AddressesTold p rows) (hapart : ReadApart p q rows) :
    PrintedApart p q rows := by
  intro r hr r' hr' hsome htexts
  have hone : hasItem q r = true := by rw [← head_isSome p q r, hsome]
  cases q with
  | ping =>
    have hline := congrArg some (List.cons.inj htexts).1
    exact hapart r hr r' hr' rfl rfl ((head_eq_iff (q := .ping) ha hr hr' rfl rfl).mp hline) nofun
  | traceroute =>
    have hone' : hasItem .traceroute r' = true := by
      by_contra hne
      have hlength := congrArg List.length htexts
      unfold Listing.texts at hlength
      rw [head_traceroute, head_traceroute, if_pos hone, if_neg hne] at hlength
      cases hlength
    unfold Listing.texts at htexts
    rw [head_traceroute, head_traceroute, if_pos hone, if_pos hone'] at htexts
    obtain ⟨hheader, hhop⟩ := List.cons.inj htexts
    have hsame : SameItem p .traceroute r r' := by
      rw [← head_eq_iff ha hr hr' hone hone', head_traceroute, head_traceroute, if_pos hone,
        if_pos hone', hheader]
    exact hapart r hr r' hr' hone hone' hsame
      fun _ => hop_eq_of_line ha hr hr' hsame (List.cons.inj hhop).1

theorem skipsRepeated_iff {collate : Address → Nat} (h : Ordered q collate rows)
    (ha : AddressesTold p rows) :
    (listing p q).SkipsRepeated [] rows ↔ CopiesFollow (hasItem q) (SameItem p q) rows := by
  refine Listing.skipsRepeated_iff_copiesFollow (fun r _ => head_isSome p q r)
    (fun r hr r' hr' hone hone' => head_eq_iff ha hr hr' hone hone') ?_
  intro first r middle rest hrows r' hr'
  cases q with
  | ping => rfl
  | traceroute =>
    show decide ((sqlTracerouteHop r').hopNumber = 1) = decide ((sqlTracerouteHop r).hopNumber = 1)
    rw [h.hopNumber_between hrows hr']

end

/-- **Deduplication**: what is printed is what is printed of the distinct rows if the copies of rows stand
where the program looks for them; and, for rows that are read apart, only then. -/
theorem deduplication_iff (p : Options) (q : QueryType) (collate : Address → Nat) {rows : List Row}
    (h : Ordered q collate rows) (ha : AddressesTold p rows) :
    (CopiesFollow (hasItem q) (SameItem p q) rows →
      (exportRows { p with deduplication := true } q rows).stream =
        (exportRows { p with deduplication := false } q (Listing.distinct [] rows)).stream) ∧
    (ReadApart p q rows →
      (exportRows { p with deduplication := true } q rows).stream =
        (exportRows { p with deduplication := false } q (Listing.distinct [] rows)).stream →
      CopiesFollow (hasItem q) (SameItem p q) rows) := by
  have hdistinct : (Listing.distinct [] rows).Pairwise fun r r' => itemTime r ≤ itemTime r' :=
    h.timeStamp_le.sublist (Listing.distinct_sublist [] rows)
  rw [stream_dedup rfl h.timeStamp_le, stream_plain rfl hdistinct, ← skipsRepeated_iff h ha]
  have hident : identified { p with deduplication := false } q (Listing.distinct [] rows) =
      identified { p with deduplication := true } q rows := by
    cases rows with
    | nil => rfl
    | cons r rs => cases q <;> rfl
  have hlisting : ∀ b, listing { p with deduplication := b } q = listing p q := fun b => rfl
  rw [hident, List.append_right_inj, hlisting, hlisting]
  exact ⟨fun hs => Listing.printed_eq hs,
    fun hapart heq => (Listing.printed_eq_iff (regular h (printedApart ha hapart))).mp heq⟩

/-! ## A block in a table whose index is not unique -/

/-- IPv4 addresses before IPv6 addresses. -/
def byValue : Address → Nat
  | .v4 value => value.toNat
  | .v6 value _ => 2 ^ 32 + value.toNat

def plainOptions : Options := ⟨false, [], plainText, fun _ => none⟩

/-- The row of a hop of a Traceroute from 10.0.0.1 to 10.0.0.2, at a time. -/
def exampleRow (x : Nat × Nat) : Row :=
  hopRow ⟨'i', 7, .v4 0x0a000001, .v4 0x0a000002, x.1, 0, 2, 0, 44, 0xffff, 0, 0, 0x200, 5⟩
    ⟨x.1, x.2, 44, 1, ⟨0, -1, -1, -1, 2000, -1, -1⟩, .v4 0x0a000003⟩

theorem ordered_exampleRows {hops : List (Nat × Nat)} (htime : ∀ x ∈ hops, x.1 < 2 ^ 63)
    (h : hops.Pairwise fun x y => x.1 < y.1 ∨ x.1 = y.1 ∧ x.2 ≤ y.2) :
    Ordered .traceroute byValue (hops.map exampleRow) where
  timeStamp := by
    intro r hr
    obtain ⟨x, hx, rfl⟩ := List.mem_map.mp hr
    have hlt := htime x hx
    refine ⟨unsigned 64 x.1, ?_, rfl⟩
    unfold unsigned
    omega
  hopNumber := by
    intro r hr
    obtain ⟨x, -, rfl⟩ := List.mem_map.mp hr
    exact ⟨x.2, rfl⟩
  sorted := by
    rw [List.pairwise_map]
    apply h.imp_of_mem
    intro x y hx hy hxy
    have hkey : ∀ x ∈ hops, orderKey .traceroute byValue (exampleRow x) =
        [(x.1 : Int), 7, 0x0a000001, 0x0a000002, 105, 0, 0] ++ [(x.2 : Int)] := by
      intro x hx
      have htime := htime x hx
      have hfirst : (unsigned 64 x.1 : Int) = x.1 := by
        unfold unsigned
        omega
      rw [← hfirst]
      rfl
    rw [hkey x hx, hkey y hy]
    rcases hxy with hlt | ⟨heq, hle⟩
    · exact le_of_lt (List.Lex.rel (by omega))
    · rw [heq]
      rcases Nat.lt_or_eq_of_le hle with hlt | heq
      · apply le_of_lt
        apply List.append_left_lt
        exact List.Lex.rel (by omega)
      · rw [heq]

theorem addressesTold_exampleRows (hops : List (Nat × Nat)) :
    AddressesTold plainOptions (hops.map exampleRow) where
  noSpace := by
    intro r hr k _ hspace
    have hchar := isAddressChar_plainText (r.getAddress k) ' ' hspace
    cases hchar
  told := by
    intro r hr r' hr' k hk _
    obtain ⟨x, -, rfl⟩ := List.mem_map.mp hr
    obtain ⟨y, -, rfl⟩ := List.mem_map.mp hr'
    simp only [addressColumns, List.mem_cons, List.not_mem_nil, or_false] at hk
    rcases hk with rfl | rfl | rfl <;> rfl

/-- A block with one hop, whose row is there twice, in front of a block with two hops. -/
theorem single_hop_once :
    (exportRows { plainOptions with deduplication := true } .traceroute
        ([(1000, 1), (1000, 1), (2000, 1), (2000, 2)].map exampleRow)).stream =
      (exportRows { plainOptions with deduplication := false } .traceroute
        (Listing.distinct [] ([(1000, 1), (1000, 1), (2000, 1), (2000, 2)].map exampleRow))).stream := by
  have hordered : Ordered .traceroute byValue
      ([(1000, 1), (1000, 1), (2000, 1), (2000, 2)].map exampleRow) :=
    ordered_exampleRows (by decide) (by decide)
  have htold := addressesTold_exampleRows [(1000, 1), (1000, 1), (2000, 1), (2000, 2)]
  apply (deduplication_iff plainOptions .traceroute byValue hordered htold).1
  rw [← skipsRepeated_iff hordered htold]
  refine Listing.skipsRepeated_cons.mpr ⟨by decide +kernel, Listing.skipsRepeated_cons.mpr
    ⟨by decide +kernel, Listing.skipsRepeated_cons.mpr ⟨by decide +kernel,
      Listing.skipsRepeated_cons.mpr ⟨by decide +kernel, ?_⟩⟩⟩⟩
  intro first r rest hrows
  simp at hrows

/-- Of a block with two hops whose rows are there twice, the second hop is lost. -/
theorem second_hop_lost :
    Ordered .traceroute byValue ([(1000, 1), (1000, 1), (1000, 2), (1000, 2)].map exampleRow) ∧
      (exportRows { plainOptions with deduplication := true } .traceroute
          ([(1000, 1), (1000, 1), (1000, 2), (1000, 2)].map exampleRow)).stream ≠
        (exportRows { plainOptions with deduplication := false } .traceroute
          (Listing.distinct [] ([(1000, 1), (1000, 1), (1000, 2), (1000, 2)].map exampleRow))).stream :=
  ⟨ordered_exampleRows (by decide) (by decide), by decide +kernel⟩

end HiPerConTracer.Query
