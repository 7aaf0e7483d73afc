import HiPerConTracer.Service.TracerouteSteps

/-!
# What `processResults` does with a round

The two loops of `processResults` over the entries of a round see the same entries: those up to the
first that is `Success` or unreachable (`writtenEntries`).  The first loop adds each of them to the
counters and to the path (`PathScan.advance`) and lets the unanswered ones expire (`settled`):

    scanRound p scan es = .ok (es', scan') →
      es' = settle p es ∧ scan' = (writtenEntries es).foldl (advance p) scan   (scanRound_ok)

With consecutive hops no assertion about hops fails (`scanRound_consecutive`), and with one checksum
for the round none about checksums does (`processRound_checksumCheck`).
-/

namespace HiPerConTracer.Service
open Net

variable (p : Parameters)

/-! ## The first loop -/

/-- An unanswered entry expires. -/
def settled (e : ResultEntry) : ResultEntry :=
  if e.status = .unknown then e.expire p.expiration else e

/-- What an entry adds to the path. -/
def pathText (e : ResultEntry) : String :=
  if e.status = .unknown then "-*" else "-" ++ p.addressText e.destination.address

/-- The counters and the path after an entry. -/
def PathScan.advance (scan : PathScan) (e : ResultEntry) : PathScan where
  totalHops := e.hopNumber
  currentHop := scan.currentHop + 1
  completeTraceroute := scan.completeTraceroute && decide (e.status ≠ .unknown)
  destinationReached := scan.destinationReached || decide (e.status = .success)
  pathString := scan.pathString ++ pathText p e

/-- The entries after the first loop; it leaves those after its end as they are. -/
def settle : List ResultEntry → List ResultEntry
  | [] => []
  | e :: es => if e.status.isLast then e :: es else settled p e :: settle es

theorem HopStatus.isLast_ne_unknown {s : HopStatus} (h : s.isLast = true) : s ≠ .unknown := by
  rintro rfl
  exact absurd h (by decide)

theorem scanRound_cons (scan : PathScan) (e : ResultEntry) (es : List ResultEntry) :
    scanRound p scan (e :: es) =
      if e.hopNumber ≤ scan.totalHops then .error .hopNumber
      else if e.status.isLast then .ok (e :: es, scan.advance p e)
      else (scanRound p (scan.advance p e) es).map fun r => (settled p e :: r.1, r.2) := by
  have hunknown : HopStatus.unknown.isUnreachable = false := by decide
  conv_lhs => unfold scanRound
  unfold PathScan.advance pathText settled
  by_cases hhop : e.hopNumber ≤ scan.totalHops
  · rw [if_pos (by omega), if_pos hhop]
  · rw [if_neg (by omega), if_neg hhop]
    unfold HopStatus.isLast
    by_cases hs : e.status = .success
    · simp [hs, String.append_assoc]
    · by_cases hu : e.status.isUnreachable = true
      · have hne : e.status ≠ .unknown := by
          intro h
          rw [h] at hu
          exact absurd hu (by decide)
        simp [hs, hu, hne, String.append_assoc]
      · by_cases hn : e.status = .unknown
        · simp only [hn, reduceCtorEq, hunknown, if_true, if_false, Bool.false_eq_true,
            decide_false, Bool.or_self, ne_eq, not_true_eq_false, Bool.and_false, Bool.or_false]
          cases scanRound p _ es <;> rfl
        · simp only [hs, hu, hn, if_false, Bool.false_eq_true, String.append_assoc, decide_false,
            Bool.or_self, ne_eq, not_false_eq_true, decide_true, Bool.and_true, Bool.or_false]
          cases scanRound p _ es <;> rfl

theorem scanRound_ok {scan scan' : PathScan} {es es' : List ResultEntry}
    (h : scanRound p scan es = .ok (es', scan')) :
    es' = settle p es ∧ scan' = (writtenEntries es).foldl (PathScan.advance p) scan := by
  induction es generalizing scan es' with
  | nil =>
    cases h
    exact ⟨rfl, rfl⟩
  | cons e es ih =>
    rw [scanRound_cons] at h
    split at h
    · cases h
    · unfold settle writtenEntries
      split at h
      · next hlast =>
        cases h
        rw [if_pos hlast, if_pos hlast]
        exact ⟨rfl, rfl⟩
      · next hlast =>
        rw [if_neg hlast, if_neg hlast]
        cases hrec : scanRound p (scan.advance p e) es with
        | error a =>
          rw [hrec] at h
          cases h
        | ok r =>
          rw [hrec] at h
          cases h
          obtain ⟨heq, hscan⟩ := ih hrec
          exact ⟨by rw [heq], hscan⟩

theorem scanRound_error {scan : PathScan} {es : List ResultEntry} {a : Assure}
    (h : scanRound p scan es = .error a) : a = .hopNumber := by
  induction es generalizing scan with
  | nil => cases h
  | cons e es ih =>
    rw [scanRound_cons] at h
    split at h
    · cases h
      rfl
    · split at h
      · cases h
      · cases hrec : scanRound p (scan.advance p e) es with
        | error b =>
          rw [hrec] at h
          cases h
          exact ih hrec
        | ok r =>
          rw [hrec] at h
          cases h

variable {p}

@[simp] theorem settled_request (e : ResultEntry) : (settled p e).request = e.request := by
  unfold settled
  split <;> rfl

theorem settled_isLast (e : ResultEntry) : (settled p e).status.isLast = e.status.isLast := by
  unfold settled
  split
  · next h =>
    rw [h]
    rfl
  · rfl

/-- The hop numbers of the entries that the first loop sees increase. -/
theorem scanRound_increasing {scan : PathScan} {es : List ResultEntry}
    {r : List ResultEntry × PathScan} (h : scanRound p scan es = .ok r) :
    (writtenEntries es).Pairwise (fun a b => a.hopNumber < b.hopNumber) ∧
      ∀ e ∈ writtenEntries es, scan.totalHops < e.hopNumber := by
  induction es generalizing scan r with
  | nil => exact ⟨List.Pairwise.nil, fun e he => absurd he List.not_mem_nil⟩
  | cons e es ih =>
    rw [scanRound_cons] at h
    unfold writtenEntries
    split at h
    · cases h
    · next hhop =>
      split at h
      · next hlast =>
        rw [if_pos hlast]
        refine ⟨List.pairwise_singleton _ _, fun x hx => ?_⟩
        rw [List.mem_singleton.mp hx]
        omega
      · next hlast =>
        rw [if_neg hlast]
        cases hrec : scanRound p (scan.advance p e) es with
        | error a =>
          rw [hrec] at h
          cases h
        | ok rest =>
          obtain ⟨hpair, hall⟩ := ih hrec
          have hadv : (scan.advance p e).totalHops = e.hopNumber := rfl
          rw [hadv] at hall
          refine ⟨List.Pairwise.cons hall hpair, ?_⟩
          rw [List.forall_mem_cons]
          exact ⟨by omega, fun x hx => by have := hall x hx; omega⟩

/-! ## The entries that are written -/

/-- The second loop writes the entries that the first loop has seen. -/
theorem writtenEntries_settle (es : List ResultEntry) :
    writtenEntries (settle p es) = (writtenEntries es).map (settled p) := by
  induction es with
  | nil => rfl
  | cons e es ih =>
    unfold settle writtenEntries
    by_cases hlast : e.status.isLast = true
    · rw [if_pos hlast]
      simp only [if_pos hlast, List.map_cons, List.map_nil]
      rw [settled, if_neg (HopStatus.isLast_ne_unknown hlast)]
    · rw [if_neg hlast]
      simp only [settled_isLast, if_neg hlast, List.map_cons]
      rw [ih]

theorem writtenEntries_initial (es : List ResultEntry) : writtenEntries es <+: es := by
  induction es with
  | nil => exact List.prefix_refl _
  | cons e es ih =>
    unfold writtenEntries
    split
    · exact ⟨es, rfl⟩
    · exact List.cons_prefix_cons.mpr ⟨rfl, ih⟩

/-- Only the last entry that is written can be `Success` or unreachable. -/
theorem writtenEntries_dropLast (es : List ResultEntry) :
    ∀ e ∈ (writtenEntries es).dropLast, e.status.isLast = false := by
  induction es with
  | nil => exact fun e he => absurd he List.not_mem_nil
  | cons e es ih =>
    unfold writtenEntries
    split
    · exact fun e he => absurd he List.not_mem_nil
    · next hlast =>
      cases hw : writtenEntries es with
      | nil => exact fun e he => absurd he List.not_mem_nil
      | cons x xs =>
        rw [hw] at ih
        intro y hy
        rw [List.dropLast_cons_cons] at hy
        rcases List.mem_cons.mp hy with rfl | hy
        · exact Bool.eq_false_iff.mpr hlast
        · exact ih y hy

/-! ## Counters and path -/

theorem foldl_advance_currentHop (es : List ResultEntry) (scan : PathScan) :
    (es.foldl (PathScan.advance p) scan).currentHop = scan.currentHop + es.length := by
  induction es generalizing scan with
  | nil => rfl
  | cons e es ih =>
    rw [List.foldl_cons, ih, List.length_cons]
    show scan.currentHop + 1 + es.length = _
    omega

theorem foldl_advance_pathString (es : List ResultEntry) (scan : PathScan) :
    (es.foldl (PathScan.advance p) scan).pathString =
      es.foldl (fun text e => text ++ pathText p e) scan.pathString := by
  induction es generalizing scan with
  | nil => rfl
  | cons e es ih =>
    rw [List.foldl_cons, ih]
    rfl

/-- With consecutive hops, the last hop is as far as the number of entries. -/
theorem foldl_advance_totalHops {es : List ResultEntry} {scan : PathScan}
    (h : es.map (·.hopNumber) = List.range' (scan.totalHops + 1) es.length) :
    (es.foldl (PathScan.advance p) scan).totalHops = scan.totalHops + es.length := by
  induction es generalizing scan with
  | nil => rfl
  | cons e es ih =>
    rw [List.map_cons, List.length_cons, List.range'_succ, List.cons.injEq] at h
    have hadv : (scan.advance p e).totalHops = scan.totalHops + 1 := h.1
    rw [List.foldl_cons, ih (by rw [hadv]; exact h.2), hadv, List.length_cons]
    omega

/-- With consecutive hops, the first loop passes its assertions. -/
theorem scanRound_consecutive {es : List ResultEntry} (scan : PathScan)
    (h : es.map (·.hopNumber) = List.range' (scan.totalHops + 1) es.length) :
    ∃ r, scanRound p scan es = .ok r := by
  induction es generalizing scan with
  | nil => exact ⟨_, rfl⟩
  | cons e es ih =>
    rw [List.map_cons, List.length_cons, List.range'_succ, List.cons.injEq] at h
    have hadv : (scan.advance p e).totalHops = scan.totalHops + 1 := h.1
    rw [scanRound_cons, if_neg (by omega)]
    split
    · exact ⟨_, rfl⟩
    · obtain ⟨r, hr⟩ := ih (scan.advance p e) (by rw [hadv]; exact h.2)
      rw [hr]
      exact ⟨_, rfl⟩

/-- The entries that are written have consecutive hops if all entries do. -/
theorem writtenEntries_consecutive {es : List ResultEntry} {k n : Nat}
    (h : es.map (·.hopNumber) = List.range' k n) :
    (writtenEntries es).map (·.hopNumber) = List.range' k (writtenEntries es).length := by
  obtain ⟨rest, hrest⟩ := writtenEntries_initial es
  have hlen : (writtenEntries es).length ≤ n := by
    have := congrArg List.length h
    rw [List.length_map, List.length_range', ← hrest, List.length_append] at this
    omega
  have hmap := congrArg (List.take (writtenEntries es).length) h
  rw [List.take_range'_of_length_ge hlen] at hmap
  rw [← hmap, ← List.map_take]
  nth_rewrite 3 [← hrest]
  rw [List.take_left]

/-! ## A round, and all rounds -/

/-- The counters and the path of a round before its first entry. -/
def PathScan.init (p : Parameters) : PathScan :=
  ⟨0, 0, true, false, p.addressText p.io.sourceAddress⟩

/-- What is logged for a round, from the entries as they are before the expiry. -/
structure IsRound (p : Parameters) (now : Nat) (es : List ResultEntry) (r : Round) : Prop where
  entries : r.entries = (writtenEntries es).map (settled p)
  totalHops : r.totalHops = (writtenEntries es).length
  pathString : r.pathString = (writtenEntries es).foldl (fun text e => text ++ pathText p e)
    (p.addressText p.io.sourceAddress)
  pathHash : r.pathHash = p.sha1 r.pathString
  writtenAt : r.writtenAt = now

theorem processRound_ok {roundNumber timeStamp now : Nat} {entries entries' : List ResultEntry}
    {r : Round} (h : processRound p roundNumber timeStamp now entries = .ok (entries', r)) :
    entries' = settle p entries ∧ r.roundNumber = roundNumber ∧ IsRound p now entries r := by
  unfold processRound at h
  split at h
  · cases h
  · next es scan hscan =>
    obtain ⟨heq, hfold⟩ := scanRound_ok p hscan
    split at h
    · cases h
    · next hhop =>
      simp only at h
      split at h
      · cases h
      · cases h
        have hwritten : writtenEntries entries' = (writtenEntries entries).map (settled p) := by
          rw [heq, writtenEntries_settle]
        refine ⟨heq, rfl, hwritten, ?_, ?_, rfl, rfl⟩
        · show scan.totalHops = _
          rw [← not_not.mp hhop, hfold, foldl_advance_currentHop]
          exact Nat.zero_add _
        · show scan.pathString = _
          rw [hfold, foldl_advance_pathString]

theorem processRound_increasing {roundNumber timeStamp now : Nat} {entries : List ResultEntry}
    {r : List ResultEntry × Round}
    (h : processRound p roundNumber timeStamp now entries = .ok r) :
    (writtenEntries entries).Pairwise fun a b => a.hopNumber < b.hopNumber := by
  unfold processRound at h
  split at h
  · cases h
  · next es scan hscan => exact (scanRound_increasing hscan).1

theorem mem_writtenEntries {es : List ResultEntry} {e : ResultEntry} (h : e ∈ writtenEntries es) :
    e ∈ es := (writtenEntries_initial es).subset h

/-- With one checksum for all entries, the check of `writeTracerouteResultEntry` is passed. -/
theorem writtenEntries_checksum {es : List ResultEntry}
    (h : ∀ e ∈ es, ∀ e' ∈ es, e.checksum = e'.checksum) :
    ∀ e ∈ writtenEntries (settle p es),
      some e.checksum = (writtenEntries (settle p es)).head?.map (·.checksum) := by
  have hsettled : ∀ e : ResultEntry, (settled p e).checksum = e.checksum := fun e =>
    congrArg ResultEntry.Request.checksum (settled_request e)
  rw [writtenEntries_settle]
  intro e he
  obtain ⟨x, hx, rfl⟩ := List.mem_map.mp he
  cases hw : writtenEntries es with
  | nil =>
    rw [hw] at hx
    exact absurd hx List.not_mem_nil
  | cons y ys =>
    have hy : y ∈ writtenEntries es := by
      rw [hw]
      exact List.mem_cons_self
    rw [List.map_cons, List.head?_cons, Option.map_some, hsettled, hsettled]
    exact congrArg some (h x (mem_writtenEntries hx) y (mem_writtenEntries hy))

theorem processRound_checksumCheck {roundNumber timeStamp now : Nat} {entries : List ResultEntry}
    {a : Assure} (hsum : ∀ e ∈ entries, ∀ e' ∈ entries, e.checksum = e'.checksum)
    (h : processRound p roundNumber timeStamp now entries = .error a) :
    a = .hopNumber ∨ a = .currentHop := by
  unfold processRound at h
  split at h
  · next hscan =>
    cases h
    exact Or.inl (scanRound_error p hscan)
  · next es scan hscan =>
    split at h
    · cases h
      exact Or.inr rfl
    · simp only at h
      split at h
      · next hcheck =>
        rw [(scanRound_ok p hscan).1] at hcheck
        exact absurd (writtenEntries_checksum hsum) hcheck
      · cases h

/-- With consecutive hops and one checksum, no assertion fails. -/
theorem processRound_total {roundNumber timeStamp now : Nat} {entries : List ResultEntry}
    (hhops : entries.map (·.hopNumber) = List.range' 1 entries.length)
    (hsum : ∀ e ∈ entries, ∀ e' ∈ entries, e.checksum = e'.checksum) :
    ∃ x, processRound p roundNumber timeStamp now entries = .ok x := by
  obtain ⟨⟨es, scan⟩, hscan⟩ := scanRound_consecutive (p := p) (.init p) hhops
  obtain ⟨heq, hfold⟩ := scanRound_ok p hscan
  have hcurrent : scan.currentHop = scan.totalHops := by
    rw [hfold, foldl_advance_currentHop,
      foldl_advance_totalHops (writtenEntries_consecutive hhops)]
    rfl
  have hcheck := writtenEntries_checksum (p := p) hsum
  rw [← heq] at hcheck
  change scanRound p ⟨0, 0, true, false, p.addressText p.io.sourceAddress⟩ entries = _ at hscan
  unfold processRound
  rw [hscan]
  simp only
  rw [if_neg (not_not_intro hcurrent), if_neg (not_not_intro hcheck)]
  exact ⟨_, rfl⟩

/-- The entries of a round. -/
def ofRound (entries : List ResultEntry) (round : Nat) : List ResultEntry :=
  entries.filter fun e => e.roundNumber = round

theorem processRounds_ok {now timeStamp : Nat} {sorted entries : List ResultEntry}
    {roundNumbers : List Nat} {rounds : List Round}
    (h : processRounds p now sorted timeStamp roundNumbers = .ok (entries, rounds)) :
    List.Forall₂ (fun n r => r.roundNumber = n ∧ IsRound p now (ofRound sorted n) r)
      roundNumbers rounds := by
  induction roundNumbers generalizing timeStamp entries rounds with
  | nil =>
    cases h
    exact List.Forall₂.nil
  | cons n rest ih =>
    unfold processRounds at h
    split at h
    · cases h
    · next es r hr =>
      split at h
      · cases h
      · next es' rs hrest =>
        cases h
        exact List.Forall₂.cons (processRound_ok hr).2 (ih hrest)

/-- Each round has passed its turn of the loop. -/
theorem processRounds_each {now timeStamp : Nat} {sorted : List ResultEntry}
    {roundNumbers : List Nat} {r : List ResultEntry × List Round}
    (h : processRounds p now sorted timeStamp roundNumbers = .ok r) :
    ∀ n ∈ roundNumbers, ∃ time x, processRound p n time now (ofRound sorted n) = .ok x := by
  induction roundNumbers generalizing timeStamp r with
  | nil => exact fun n hn => absurd hn List.not_mem_nil
  | cons n rest ih =>
    unfold processRounds at h
    split at h
    · cases h
    · next es round hround =>
      split at h
      · cases h
      · next hrest =>
        rw [List.forall_mem_cons]
        exact ⟨⟨_, _, hround⟩, ih hrest⟩

theorem processRounds_error {now timeStamp : Nat} {sorted : List ResultEntry}
    {roundNumbers : List Nat} {a : Assure}
    (h : processRounds p now sorted timeStamp roundNumbers = .error a) :
    ∃ n t, processRound p n t now (ofRound sorted n) = .error a := by
  induction roundNumbers generalizing timeStamp with
  | nil => cases h
  | cons n rest ih =>
    unfold processRounds at h
    split at h
    · next hr =>
      cases h
      exact ⟨n, timeStamp, hr⟩
    · split at h
      · next hrest =>
        cases h
        exact ih hrest
      · cases h

theorem processRounds_total {now : Nat} {sorted : List ResultEntry} {roundNumbers : List Nat}
    (h : ∀ n ∈ roundNumbers, ∀ t, ∃ x, processRound p n t now (ofRound sorted n) = .ok x)
    (timeStamp : Nat) : ∃ x, processRounds p now sorted timeStamp roundNumbers = .ok x := by
  induction roundNumbers generalizing timeStamp with
  | nil => exact ⟨_, rfl⟩
  | cons n rest ih =>
    obtain ⟨⟨es, r⟩, hr⟩ := h n List.mem_cons_self timeStamp
    obtain ⟨⟨es', rs⟩, hrest⟩ := ih (fun m hm => h m (List.mem_cons_of_mem _ hm)) r.timeStamp
    unfold ofRound at hr
    unfold processRounds
    rw [hr]
    simp only
    rw [hrest]
    exact ⟨_, rfl⟩

end HiPerConTracer.Service
