import HiPerConTracer.Service.RoundChecksums

/-!
# The windows of a run

Each window of TTLs starts where the last one has ended, and there is exactly one request for each
round and each TTL up to `MaxTTL`, with consecutive sequence numbers (`Windowed`).  So no assertion
of a run of Traceroute fails, whichever requests are not sent and whatever the responses are, and
each round that is written has the hops 1, 2, … up to the first one that is the last:

    the traffic class can be set in every step →
      ∃ s, exec … events = .ok s ∧ one entry for each round and hop ∧ …    (traceroute_windows)
-/

namespace HiPerConTracer.Service
open Net Wire IOModule Traceroute

variable {p : Parameters}

/-! ## Rounds and TTLs -/

/-- The TTLs of a window come after those of the windows before it. -/
theorem roundsAndTTLs_append {minTTL maxTTL toRound : Nat} (hmin : 1 ≤ minTTL)
    (hle : minTTL ≤ maxTTL) :
    (roundsAndTTLs (minTTL - 1) 1 0 toRound ++ roundsAndTTLs maxTTL minTTL 0 toRound).Perm
      (roundsAndTTLs maxTTL 1 0 toRound) := by
  refine (List.perm_ext_iff_of_nodup ?_ (roundsAndTTLs_nodup ..)).mpr ?_
  · refine List.nodup_append.mpr ⟨roundsAndTTLs_nodup .., roundsAndTTLs_nodup .., ?_⟩
    rintro ⟨round, ttl⟩ h ⟨round', ttl'⟩ h' heq
    cases heq
    have hlow := mem_roundsAndTTLs.mp h
    have hhigh := mem_roundsAndTTLs.mp h'
    omega
  · rintro ⟨round, ttl⟩
    rw [List.mem_append, mem_roundsAndTTLs, mem_roundsAndTTLs, mem_roundsAndTTLs]
    omega

/-- The round and the hop of an entry. -/
def roundAndHop (e : ResultEntry) : Nat × Nat := (e.roundNumber, e.hopNumber)

/-- A list of entries with one for each round and each hop up to a maximum. -/
def OneEach (p : Parameters) (resultsMap : List ResultEntry) (maxTTL : Nat) : Prop :=
  (resultsMap.map roundAndHop).Perm (roundsAndTTLs maxTTL 1 0 (p.rounds - 1))

theorem OneEach.length {l : List ResultEntry} {maxTTL : Nat} (h : OneEach p l maxTTL) :
    l.length = p.rounds * maxTTL := by
  have hrounds := p.rounds_pos
  have hlen := h.length_eq
  rw [List.length_map] at hlen
  rw [hlen]
  unfold roundsAndTTLs
  simp only [List.length_flatMap, List.length_map, List.length_reverse, List.length_range',
    List.map_const', List.sum_replicate, smul_eq_mul]
  congr 1
  omega

theorem OneEach.count {l : List ResultEntry} {maxTTL : Nat} (h : OneEach p l maxTTL)
    (round hop : Nat) : l.countP (fun e => e.roundNumber = round ∧ e.hopNumber = hop) =
      if round < p.rounds ∧ 1 ≤ hop ∧ hop ≤ maxTTL then 1 else 0 := by
  have hrounds := p.rounds_pos
  have hcount : l.countP (fun e => e.roundNumber = round ∧ e.hopNumber = hop) =
      (roundsAndTTLs maxTTL 1 0 (p.rounds - 1)).count (round, hop) := by
    rw [← h.count_eq, List.count_eq_countP, List.countP_map]
    refine List.countP_congr fun e _ => ?_
    simp [roundAndHop]
  rw [hcount]
  split
  · next hin =>
    exact List.count_eq_one_of_mem (roundsAndTTLs_nodup ..) (mem_roundsAndTTLs.mpr (by omega))
  · next hout =>
    refine List.count_eq_zero_of_not_mem fun hin => hout ?_
    have := mem_roundsAndTTLs.mp hin
    omega

instance : IsTrans ResultEntry tracerouteOrder where
  trans a b c hab hbc := by
    unfold tracerouteOrder at *
    omega

instance : Std.Total tracerouteOrder where
  total a b := by
    unfold tracerouteOrder
    omega

/-- The entries of a round in their order have the hops 1, 2, …. -/
theorem OneEach.hops {l : List ResultEntry} {maxTTL : Nat} (h : OneEach p l maxTTL)
    {round : Nat} (hround : round < p.rounds) :
    (ofRound (l.insertionSort tracerouteOrder) round).map (·.hopNumber) =
      List.range' 1 maxTTL := by
  have hperm := List.perm_insertionSort tracerouteOrder l
  have hsorted : (l.insertionSort tracerouteOrder).Pairwise tracerouteOrder :=
    List.pairwise_insertionSort tracerouteOrder l
  generalize l.insertionSort tracerouteOrder = sorted at hperm hsorted
  have hpairs : (sorted.map roundAndHop).Perm (roundsAndTTLs maxTTL 1 0 (p.rounds - 1)) :=
    (hperm.map roundAndHop).trans h
  have hnodup : (sorted.map roundAndHop).Nodup :=
    hpairs.nodup_iff.mpr (roundsAndTTLs_nodup ..)
  refine List.Pairwise.eq_of_mem_iff (r := (· < ·)) ?_ List.pairwise_lt_range' fun hop => ?_
  · rw [List.pairwise_map]
    have hlt : sorted.Pairwise fun a b => tracerouteOrder a b ∧ roundAndHop a ≠ roundAndHop b :=
      hsorted.and (List.pairwise_map.mp hnodup)
    refine (hlt.filter _).imp_of_mem ?_
    rintro a b ha hb ⟨hab, hne⟩
    have hra : a.roundNumber = round := of_decide_eq_true (List.mem_filter.mp ha).2
    have hrb : b.roundNumber = round := of_decide_eq_true (List.mem_filter.mp hb).2
    have hhop : a.hopNumber ≠ b.hopNumber := fun heq =>
      hne (Prod.ext (hra.trans hrb.symm) heq)
    rcases hab with hlt | ⟨-, hle⟩
    · omega
    · omega
  · rw [List.mem_range'_1]
    constructor
    · intro hin
      obtain ⟨e, he, rfl⟩ := List.mem_map.mp hin
      have hpair := hpairs.subset (List.mem_map_of_mem (List.mem_filter.mp he).1)
      have := mem_roundsAndTTLs.mp hpair
      omega
    · intro hin
      have hpair : (round, hop) ∈ roundsAndTTLs maxTTL 1 0 (p.rounds - 1) :=
        mem_roundsAndTTLs.mpr (by omega)
      obtain ⟨e, he, heq⟩ := List.mem_map.mp (hpairs.symm.subset hpair)
      obtain ⟨hround, hhop⟩ := Prod.mk.inj heq
      rw [← hhop]
      exact List.mem_map_of_mem (List.mem_filter.mpr ⟨he, decide_eq_true hround⟩)

/-! ## Sequence numbers -/

/-- The requests have consecutive sequence numbers, up to the last one that was used. -/
def Numbered (s : IOState) : Prop :=
  ∃ base : UInt16, s.resultsMap.map (·.seqNumber) = seqNumbersAfter base s.resultsMap.length ∧
    s.seqNumber = base + UInt16.ofNat s.resultsMap.length

theorem Numbered.of_empty {s : IOState} (h : s.resultsMap = []) : Numbered s :=
  ⟨s.seqNumber, by rw [h]; rfl, by rw [h]; simp⟩

/-- As long as there are not more than 2^16 requests, the next sequence numbers are free. -/
theorem Numbered.free {s : IOState} (h : Numbered s) {n : Nat}
    (hn : s.resultsMap.length + n ≤ 65536) :
    (s.resultsMap.map (·.seqNumber) ++ seqNumbersAfter s.seqNumber n).Nodup := by
  obtain ⟨base, hmap, hlast⟩ := h
  rw [hmap, hlast, ← seqNumbersAfter_add]
  exact seqNumbersAfter_nodup _ hn

theorem Numbered.sent {io : IOModule} {destination : DestinationInfo} {pairs : List (Nat × Nat)}
    {s s' : IOState} {n : Nat} {new : List ResultEntry} (h : Numbered s)
    (hsent : Sent io destination pairs s s' n new) : Numbered s' := by
  obtain ⟨base, hmap, hlast⟩ := h
  have hlen : new.length = pairs.length := hsent.requests.length_eq.symm
  refine ⟨base, ?_, ?_⟩
  · rw [hsent.resultsMap, List.map_append, List.length_append, seqNumbersAfter_add, hmap,
      hsent.seqNumbers, hlast, hlen]
  · rw [hsent.seqNumber, hsent.resultsMap, List.length_append, hlast, hlen]
    apply UInt16.toNat_inj.mp
    simp only [UInt16.toNat_add, UInt16.toNat_ofNat']
    omega

/-! ## Windows -/

/-- Each window starts where the last one has ended, the first one at `first`. -/
def Contiguous : Nat → List (Nat × Nat) → Nat → Prop
  | first, [], last => last + 1 = first
  | first, (minTTL, maxTTL) :: rest, last =>
    minTTL = first ∧ minTTL ≤ maxTTL ∧ Contiguous (maxTTL + 1) rest last

theorem Contiguous.append {first last maxTTL : Nat} {windows : List (Nat × Nat)}
    (h : Contiguous first windows last) (hlt : last < maxTTL) :
    Contiguous first (windows ++ [(last + 1, maxTTL)]) maxTTL := by
  induction windows generalizing first with
  | nil => exact ⟨h, hlt, rfl⟩
  | cons w rest ih =>
    obtain ⟨hmin, hle, hrest⟩ := h
    exact ⟨hmin, hle, ih hrest⟩

/-- There are no more windows than TTLs. -/
theorem Contiguous.length_le {first last : Nat} {windows : List (Nat × Nat)}
    (h : Contiguous first windows last) : windows.length + first ≤ last + 1 := by
  induction windows generalizing first with
  | nil =>
    rw [List.length_nil, Nat.zero_add]
    exact h.symm.le
  | cons w rest ih =>
    obtain ⟨hmin, hle, hrest⟩ := h
    have := ih hrest
    rw [List.length_cons]
    omega

/-! ## The invariant -/

/-- The block of a round has consecutive hops, and none after the last one. -/
structure Round.Listed (r : Round) : Prop where
  hops : r.entries.map (·.hopNumber) = List.range' 1 r.totalHops
  last : ∀ e ∈ r.entries.dropLast, e.status.isLast = false

/-- All windows below `MinTTL` have been sent. -/
structure Ready (p : Parameters) (s : State) : Prop where
  entries : OneEach p s.resultsMap (s.minTTL - 1)
  windows : Contiguous 1 s.windows (s.minTTL - 1)

structure Windowed (p : Parameters) (s : State) : Prop where
  ttls : TTLs p s
  steered : Steered p s
  numbered : Numbered s.toIOState
  sent : s.pc = .idle → s.destinationIterator ≠ none →
    OneEach p s.resultsMap s.maxTTL ∧ Contiguous 1 s.windows s.maxTTL
  unsent : s.pc ≠ .idle ∨ s.destinationIterator = none →
    s.resultsMap = [] ∧ s.windows = [] ∧ s.minTTL = 1
  listed : ∀ r ∈ s.roundsWritten, r.Listed

theorem OneEach.nil (p : Parameters) : OneEach p [] 0 := by
  have hnil : roundsAndTTLs 0 1 0 (p.rounds - 1) = [] := by
    refine List.eq_nil_iff_forall_not_mem.mpr ?_
    rintro ⟨round, ttl⟩ hin
    have := mem_roundsAndTTLs.mp hin
    omega
  unfold OneEach
  rw [hnil]
  exact List.Perm.refl _

theorem Ready.of_empty {s : State} (hmap : s.resultsMap = []) (hwindows : s.windows = [])
    (hmin : s.minTTL = 1) : Ready p s := by
  refine ⟨?_, ?_⟩
  · rw [hmap, hmin]
    exact OneEach.nil p
  · rw [hwindows, hmin]
    rfl

/-- The requests have the rounds and TTLs for which they were made. -/
theorem map_roundAndHop {destination : DestinationInfo} {first last : Nat}
    {targets : Nat → UInt32} {pairs : List (Nat × Nat)} {new : List ResultEntry}
    (h : List.Forall₂ (p.io.IsRequest destination first last targets) pairs new)
    (hbound : ∀ q ∈ pairs, q.1 < 65536) : new.map roundAndHop = pairs := by
  induction h with
  | nil => rfl
  | @cons q e pairs new hqe _ ih =>
    have hround := hqe.roundNumber
    rw [Nat.mod_eq_of_lt (hbound q List.mem_cons_self)] at hround
    rw [List.map_cons, ih fun q hq => hbound q (List.mem_cons_of_mem _ hq)]
    exact congrArg (· :: pairs) (Prod.ext hround hqe.hopNumber)

/-- The requests of the next window. -/
theorem OneEach.sent (hrounds : p.rounds ≤ 65536) {destination : DestinationInfo}
    {s s' : IOState} {n minTTL maxTTL : Nat} {new : List ResultEntry}
    (h : OneEach p s.resultsMap (minTTL - 1)) (hmin : 1 ≤ minTTL) (hle : minTTL ≤ maxTTL)
    (hsent : Sent p.io destination (roundsAndTTLs maxTTL minTTL 0 (p.rounds - 1)) s s' n new) :
    OneEach p s'.resultsMap maxTTL := by
  have hpos := p.rounds_pos
  have hnew : new.map roundAndHop = roundsAndTTLs maxTTL minTTL 0 (p.rounds - 1) := by
    refine map_roundAndHop hsent.requests ?_
    rintro ⟨round, ttl⟩ hq
    have := mem_roundsAndTTLs.mp hq
    show round < 65536
    omega
  unfold OneEach at h ⊢
  rw [hsent.resultsMap, List.map_append, hnew]
  exact (h.append_right _).trans (roundsAndTTLs_append hmin hle)

namespace Windowed

theorem start (p : Parameters) (now : Nat) (seqNumber : UInt16)
    (destinations : List DestinationInfo) :
    Windowed p (State.start p now seqNumber destinations) where
  ttls := .start p now seqNumber destinations
  steered := .of_empty (.start p now seqNumber destinations) rfl
  numbered := .of_empty rfl
  sent := fun hpc => by cases hpc
  unsent := fun _ => ⟨rfl, rfl, rfl⟩
  listed := fun r hr => absurd hr List.not_mem_nil

/-- No assertion of `sendRequests` fails. -/
theorem sendRequests (hadm : p.Admitted) {inputs : Inputs}
    (htc : inputs.trafficClassSet 0 = true) {s : State} (hpc : s.pc = .idle) (httls : TTLs p s)
    (hsteered : Steered p s) (hnumbered : Numbered s.toIOState)
    (hready : s.destinationIterator ≠ none → Ready p s)
    (hunsent : s.destinationIterator = none →
      s.resultsMap = [] ∧ s.windows = [] ∧ s.minTTL = 1)
    (hlisted : ∀ r ∈ s.roundsWritten, r.Listed) :
    ∃ t, Traceroute.sendRequests p inputs s = .ok t ∧ Windowed p t := by
  have hrounds : p.rounds ≤ 65536 := by
    have := hadm.rounds_le
    omega
  have htotal : ∃ t, Traceroute.sendRequests p inputs s = .ok t := by
    unfold Traceroute.sendRequests
    split
    · next d hd =>
      have hr := hready (by rw [hd]; exact Option.some_ne_none d)
      have hfree : s.resultsMap.length +
          (roundsAndTTLs s.maxTTL s.minTTL 0 (p.rounds - 1)).length ≤ 65536 := by
        have hone := (((hr.entries.append_right _).trans
          (roundsAndTTLs_append httls.minTTL_pos httls.minTTL_le)).length_eq)
        have hall : (roundsAndTTLs s.maxTTL 1 0 (p.rounds - 1)).length = p.rounds * s.maxTTL := by
          have hpos := p.rounds_pos
          have hmin := httls.minTTL_pos
          have hle := httls.minTTL_le
          rw [roundsAndTTLs_length _ _ _ _ (Nat.zero_le _) (by omega)]
          congr 1 <;> omega
        rw [List.length_append, List.length_map, hall] at hone
        have h1 := hadm.rounds_le
        have h2 := hadm.finalMaxTTL_le
        have h3 := httls.maxTTL_le
        have hmul : p.rounds * s.maxTTL ≤ 64 * 255 := Nat.mul_le_mul h1 (h3.trans h2)
        omega
      rw [if_neg (not_not_intro (show s.minTTL > 0 from httls.minTTL_pos))]
      have hio : ∃ io n, p.io.sendRequest d s.maxTTL s.minTTL 0 (p.rounds - 1)
          (inputs.trafficClassSet 0) (inputs.outcomes 0) s.toIOState = .ok (io, n) :=
        sendRequest_total _ _ hsteered.accounted.good (Nat.zero_le _) httls.minTTL_le
          (hnumbered.free hfree)
      obtain ⟨io, n, hio⟩ := hio
      rw [hio]
      exact ⟨_, rfl⟩
    · exact ⟨_, rfl⟩
  obtain ⟨t, ht⟩ := htotal
  have hr := sendRequests_result hsteered.accounted.good ht
  have httls' := httls.sendRequests hpc hr
  have hsteered' := hsteered.sendRequests hrounds ht
  refine ⟨t, ht, ?_⟩
  cases hr with
  | waiting timeoutTimer intervalTimer stop hd _ =>
    exact ⟨httls', hsteered', hnumbered, fun _ hne => absurd hd hne, fun _ => hunsent hd, hlisted⟩
  | skipped d hd hno =>
    rw [htc] at hno
    cases hno
  | sent d hd hmin hle io n new hsent =>
    have hr := hready (by rw [hd]; exact Option.some_ne_none d)
    refine ⟨httls', hsteered', hnumbered.sent hsent, fun _ _ => ⟨?_, ?_⟩, ?_, hlisted⟩
    · exact hr.entries.sent hrounds hmin hle hsent
    · have hlast := hr.windows.append (show s.minTTL - 1 < s.maxTTL by omega)
      rw [Nat.sub_add_cancel hmin] at hlast
      exact hlast
    · rintro (hne | hne)
      · exact absurd hpc hne
      · rw [hd] at hne
        cases hne

end Windowed

/-! ## Results -/

/-- No assertion of `processResults` fails, and each block has consecutive hops. -/
theorem Windowed.processResults {s : State} (h : Windowed p s) (hpc : s.pc = .idle) :
    ∃ t, Traceroute.processResults p s = .ok t ∧ ∀ r ∈ t.roundsWritten, r.Listed := by
  have hhops : ∀ n ∈ List.range p.rounds,
      (ofRound (s.resultsMap.insertionSort tracerouteOrder) n).map (·.hopNumber) =
        List.range' 1 (ofRound (s.resultsMap.insertionSort tracerouteOrder) n).length := by
    intro n hn
    by_cases hd : s.destinationIterator = none
    · rw [(h.unsent (Or.inr hd)).1]
      rfl
    · have hlisted := (h.sent hpc hd).1.hops (List.mem_range.mp hn)
      have hlen := congrArg List.length hlisted
      rw [List.length_map, List.length_range'] at hlen
      rw [hlisted, hlen]
  have hsum : ∀ n, ∀ e ∈ ofRound (s.resultsMap.insertionSort tracerouteOrder) n,
      p.io.RoundChecksum s.targetChecksumArray n e.checksum := by
    intro n e he
    obtain ⟨hmem, hround⟩ := List.mem_filter.mp he
    rw [← of_decide_eq_true hround]
    exact h.steered.checksum e ((List.mem_insertionSort _).mp hmem)
  have htotal : ∃ x, processRounds p s.now (s.resultsMap.insertionSort tracerouteOrder) 0
      (List.range p.rounds) = .ok x :=
    processRounds_total (fun n hn _ => processRound_total (hhops n hn)
      fun e he e' he' => (hsum n e he).unique (hsum n e' he')) 0
  obtain ⟨⟨resultsMap, rounds⟩, hr⟩ := htotal
  refine ⟨{ s with resultsMap, roundsWritten := s.roundsWritten ++ rounds }, ?_, ?_⟩
  · unfold Traceroute.processResults
    rw [hr]
  · show ∀ r ∈ s.roundsWritten ++ rounds, r.Listed
    rw [List.forall_mem_append]
    refine ⟨h.listed, fun r hin => ?_⟩
    obtain ⟨n, hn, -, hround⟩ := forall₂_mem_right (processRounds_ok hr) hin
    refine ⟨?_, ?_⟩
    · have hmap : (writtenEntries (ofRound (s.resultsMap.insertionSort tracerouteOrder) n)).map
          (fun e => (settled p e).hopNumber) =
          (writtenEntries (ofRound (s.resultsMap.insertionSort tracerouteOrder) n)).map
            (·.hopNumber) :=
        List.map_congr_left fun e _ => congrArg ResultEntry.Request.hopNumber (settled_request e)
      rw [hround.entries, hround.totalHops, List.map_map]
      exact hmap.trans (writtenEntries_consecutive (hhops n hn))
    · rw [hround.entries, ← List.map_dropLast]
      intro e he
      obtain ⟨x, hx, rfl⟩ := List.mem_map.mp he
      rw [settled_isLast]
      exact writtenEntries_dropLast _ x hx

/-! ## Steps -/

/-- An entry is replaced by one with the same request. -/
theorem Windowed.replaced {s t : State} (h : Windowed p s) (httls : TTLs p t)
    (hsteered : Steered p t) {l₁ l₂ : List ResultEntry} {e e' : ResultEntry}
    (hmap : s.resultsMap = l₁ ++ e :: l₂) (hmap' : t.resultsMap = l₁ ++ e' :: l₂)
    (hreq : e'.request = e.request) (hseq : t.seqNumber = s.seqNumber) (hpc : t.pc = s.pc)
    (hd : t.destinationIterator = s.destinationIterator) (hmax : t.maxTTL = s.maxTTL)
    (hmin : t.minTTL = s.minTTL)
    (hwindows : t.windows = s.windows) (hwritten : t.roundsWritten = s.roundsWritten) :
    Windowed p t := by
  have hpairs : t.resultsMap.map roundAndHop = s.resultsMap.map roundAndHop := by
    have hpair : roundAndHop e' = roundAndHop e :=
      Prod.ext (congrArg ResultEntry.Request.roundNumber hreq)
        (congrArg ResultEntry.Request.hopNumber hreq)
    rw [hmap, hmap', List.map_append, List.map_append, List.map_cons, List.map_cons, hpair]
  have hseqs : t.resultsMap.map (·.seqNumber) = s.resultsMap.map (·.seqNumber) := by
    have hone : e'.seqNumber = e.seqNumber := congrArg ResultEntry.Request.seqNumber hreq
    rw [hmap, hmap', List.map_append, List.map_append, List.map_cons, List.map_cons, hone]
  have hlen : t.resultsMap.length = s.resultsMap.length := by
    rw [hmap, hmap', List.length_append, List.length_append, List.length_cons, List.length_cons]
  refine ⟨httls, hsteered, ?_, ?_, ?_, by rw [hwritten]; exact h.listed⟩
  · obtain ⟨base, hb, hlast⟩ := h.numbered
    exact ⟨base, by rw [hseqs, hlen]; exact hb, by rw [hseq, hlen]; exact hlast⟩
  · intro hpc' hd'
    rw [hpc] at hpc'
    rw [hd] at hd'
    obtain ⟨hone, hcont⟩ := h.sent hpc' hd'
    unfold OneEach at hone ⊢
    rw [hpairs, hmax, hwindows]
    exact ⟨hone, hcont⟩
  · rw [hpc, hd, hwindows, hmin]
    intro hun
    have hnil := (h.unsent hun).1
    rw [hmap] at hnil
    exact absurd hnil (by simp)

theorem Windowed.response {data : ReceivedData} {s t : State} (h : Windowed p s)
    (hpc : s.pc = .idle) (hr : ResponseResult p (methods p) data s t) : Windowed p t := by
  have httls := h.ttls.response hpc hr
  have hsteered := h.steered.response hr
  cases hr with
  | ignored => exact h
  | later l₁ e l₂ hmap hstatus =>
    exact h.replaced httls hsteered hmap rfl (request_withSource data e) rfl rfl rfl rfl rfl rfl rfl
  | first l₁ e e' l₂ hmap hunknown hrequest hhop hstatus =>
    rw [newResult_eq] at httls hsteered ⊢
    exact h.replaced httls hsteered hmap rfl hrequest rfl rfl rfl rfl rfl rfl rfl

/-- In every step the traffic class of the destination can be set. -/
def TrafficClassSet (_ : State) : Event → Prop
  | .sendRequests inputs | .timeoutEvent _ inputs => inputs.trafficClassSet 0 = true
  | _ => True

/-- A new run keeps the invariant, up to its first requests. -/
theorem Windowed.prepareRun {s : State} (hcache : ∀ d ttl, s.ttlCache d = some ttl → 1 ≤ ttl)
    (hgood : GoodTargets s.targetChecksumArray) (newRound : Bool) :
    TTLs p (prepareRun p newRound s).1 ∧ Steered p (Traceroute.prepareRun p newRound s).1 ∧
      Numbered (Traceroute.prepareRun p newRound s).1.toIOState ∧
      Ready p (Traceroute.prepareRun p newRound s).1 := by
  have hprep := prepareRun_prepared (p := p) newRound s
  exact ⟨(TTLs.prepareRun hcache newRound).1,
    .of_empty (Accounted.prepareRun hgood newRound).1 hprep.resultsMap,
    .of_empty hprep.resultsMap, .of_empty hprep.resultsMap hprep.windows hprep.minTTL⟩

theorem Windowed.cache {s : State} (h : Windowed p s) {ttlCache : DestinationInfo → Option Nat}
    (hcache : CacheUpdate s ttlCache) : Windowed p { s with ttlCache } :=
  ⟨{ h.ttls with cache_pos := h.ttls.cacheUpdate_pos hcache },
    h.steered.congr ⟨rfl, rfl, rfl⟩, h.numbered, h.sent, h.unsent, h.listed⟩

/-- Timers, stop requests and destinations have no part in the windows. -/
theorem Windowed.quiet {s : State} (h : Windowed p s) (now : Nat)
    (timeoutTimer intervalTimer : WaitTimer) (stopRequested : Bool)
    (destinations : List DestinationInfo) :
    Windowed p { s with now, timeoutTimer, intervalTimer, stopRequested, destinations } :=
  ⟨{ h.ttls with }, h.steered.congr ⟨rfl, rfl, rfl⟩, h.numbered, h.sent, h.unsent, h.listed⟩

theorem Windowed.timeout (hadm : p.Admitted) {inputs : Inputs}
    (htc : inputs.trafficClassSet 0 = true) {s : State} (h : Windowed p s) (hpc : s.pc = .idle) :
    ∃ t, handleTimeoutEvent p (methods p) inputs s = .ok t ∧ Windowed p t := by
  have hr := handleTimeoutEvent_result p (methods p) inputs s
  generalize handleTimeoutEvent p (methods p) inputs s = r at hr
  cases hr with
  | stopped _ => exact ⟨s, rfl, h⟩
  | again u hstop hu =>
    obtain ⟨⟨d, hd⟩, hlast, hlt, ttlCache, hcache, hu⟩ := nextWindow_true hu
    obtain ⟨httls, -, hmin⟩ := h.ttls.again hadm.increments hpc hcache hlt hu
    have hne : s.destinationIterator ≠ none := by
      rw [hd]
      exact Option.some_ne_none d
    obtain ⟨hone, hcont⟩ := h.sent hpc hne
    have hmap : u.resultsMap = s.resultsMap := by rw [hu]
    have hwindows : u.windows = s.windows := by rw [hu]
    refine Windowed.sendRequests hadm htc (by rw [hu]; exact hpc) httls ?_ ?_ (fun _ => ?_) ?_ ?_
    · rw [hu]
      exact h.steered.congr ⟨rfl, rfl, rfl⟩
    · rw [hu]
      exact h.numbered
    · refine ⟨?_, ?_⟩
      · rw [hmin, hmap]
        exact hone
      · rw [hmin, hwindows]
        exact hcont
    · intro hnone
      rw [hu] at hnone
      exact absurd hnone hne
    · rw [hu]
      exact h.listed
  | failed u a hstop hu hproc =>
    obtain ⟨ttlCache, hcache, rfl⟩ := nextWindow_false hu
    obtain ⟨t, ht, -⟩ := (h.cache hcache).processResults hpc
    have herr := ht.symm.trans hproc
    cases herr
  | next u v w hstop hu hproc hrun =>
    obtain ⟨ttlCache, hcache, rfl⟩ := nextWindow_false hu
    obtain ⟨t, ht, hlisted⟩ := (h.cache hcache).processResults hpc
    obtain rfl : t = v := Except.ok.inj (ht.symm.trans hproc)
    obtain ⟨resultsMap, rounds, -, hv⟩ := processResults_cases hproc
    have hw : (Traceroute.prepareRun p false t).1 = w := congrArg Prod.fst hrun
    obtain ⟨httls, hsteered, hnumbered, hready⟩ := Windowed.prepareRun (p := p) (s := t)
      (by rw [hv]; exact h.ttls.cacheUpdate_pos hcache) (by rw [hv]; exact h.steered.accounted.good)
      false
    obtain ⟨hmap, hwindows, hmin, hpc', -, -, hwritten, -⟩ := prepareRun_prepared (p := p) false t
    rw [hw] at httls hsteered hnumbered hready hmap hwindows hmin hpc' hwritten
    refine Windowed.sendRequests hadm htc ?_ httls hsteered hnumbered (fun _ => hready)
      (fun _ => ⟨hmap, hwindows, hmin⟩) ?_
    · rw [hpc', hv]
      exact hpc
    · rw [hwritten]
      exact hlisted
  | last u v w hstop hu hproc hrun =>
    obtain ⟨ttlCache, hcache, rfl⟩ := nextWindow_false hu
    obtain ⟨t, ht, hlisted⟩ := (h.cache hcache).processResults hpc
    obtain rfl : t = v := Except.ok.inj (ht.symm.trans hproc)
    obtain ⟨resultsMap, rounds, -, hv⟩ := processResults_cases hproc
    have hw : (Traceroute.prepareRun p false t).1 = w := congrArg Prod.fst hrun
    have hdone : (Traceroute.prepareRun p false t).2 = true := congrArg Prod.snd hrun
    obtain ⟨httls, hsteered, hnumbered, -⟩ := Windowed.prepareRun (p := p) (s := t)
      (by rw [hv]; exact h.ttls.cacheUpdate_pos hcache) (by rw [hv]; exact h.steered.accounted.good)
      false
    obtain ⟨hmap, hwindows, hmin, -, -, -, hwritten, hnone⟩ := prepareRun_prepared (p := p) false t
    rw [hdone] at hnone
    rw [hw] at httls hsteered hnumbered hmap hwindows hmin hwritten hnone
    obtain ⟨_, _, _, heq, -⟩ := scheduleIntervalEvent_cases (p := p) inputs.random w
    rw [heq]
    refine ⟨_, rfl, ⟨{ httls with }, ?_, hnumbered, fun _ hd => ?_,
      fun _ => ⟨hmap, hwindows, hmin⟩, ?_⟩⟩
    · exact hsteered.congr ⟨rfl, rfl, rfl⟩
    · exact absurd (Option.isNone_iff_eq_none.mp hnone.symm) hd
    · show ∀ r ∈ w.roundsWritten, r.Listed
      rw [hwritten]
      exact hlisted

theorem Windowed.step (hadm : p.Admitted) {s : State} {event : Event} (h : Windowed p s)
    (htc : TrafficClassSet s event) :
    ∃ t, step p (methods p) s event = .ok t ∧ Windowed p t := by
  have hr := step_result p (methods p) s event
  generalize Service.step p (methods p) s event = r at hr
  cases hr with
  | quiet _ _ _ _ _ _ _ _ _ _ _ =>
    exact ⟨_, rfl, h.quiet _ _ _ _ _⟩
  | restart _ intervalTimer _ _ =>
    obtain ⟨httls, hsteered, hnumbered, -⟩ := Windowed.prepareRun (p := p)
      (s := { s with intervalTimer }) h.ttls.cache_pos h.steered.accounted.good true
    obtain ⟨hmap, hwindows, hmin, -, -, -, hwritten, -⟩ :=
      prepareRun_prepared (p := p) true { s with intervalTimer }
    refine ⟨_, rfl, ⟨{ httls with empty := fun _ => hmap }, ?_, hnumbered,
      fun hpc => (by cases hpc), fun _ => ⟨hmap, hwindows, hmin⟩, ?_⟩⟩
    · exact hsteered.congr ⟨rfl, rfl, rfl⟩
    · show ∀ r ∈ (Traceroute.prepareRun p true { s with intervalTimer }).1.roundsWritten, r.Listed
      rw [hwritten]
      exact h.listed
  | burst inputs hpc =>
    have hne : s.pc ≠ .idle := by
      rw [hpc]
      decide
    obtain ⟨hmap, hwindows, hmin⟩ := h.unsent (Or.inl hne)
    exact Windowed.sendRequests (s := { s with pc := .idle }) hadm htc rfl
      { h.ttls with empty := fun _ => hmap }
      (h.steered.congr ⟨rfl, rfl, rfl⟩) h.numbered (fun _ => .of_empty hmap hwindows hmin)
      (fun _ => ⟨hmap, hwindows, hmin⟩) h.listed
  | timeout aborted inputs timer s' hpc htake hs' =>
    have hs'' : Windowed p s' := by
      rw [hs']
      exact h.quiet s.now timer s.intervalTimer s.stopRequested s.destinations
    exact hs''.timeout hadm htc (by rw [hs', hpc])
  | response message data hpc =>
    exact ⟨_, rfl, h.response hpc
      (handleResponse_result _ message data h.steered.accounted.nodup)⟩

/-! ## Runs -/

/-- **Runs of Traceroute.**  If the traffic class can be set, every run passes all assertions.  The
requests to a destination are exactly one for each round and each hop up to `MaxTTL`, in contiguous
windows, and the blocks that are written list the hops up to the last one. -/
theorem traceroute_windows (hadm : p.Admitted) (now : Nat) (seqNumber : UInt16)
    (destinations : List DestinationInfo) (events : List Event)
    (htc : Run.Meets (Service.step p (methods p)) TrafficClassSet
      (State.start p now seqNumber destinations) events) :
    ∃ s, Run.exec (Service.step p (methods p)) (State.start p now seqNumber destinations) events =
        .ok s ∧
      (1 ≤ s.minTTL ∧ s.minTTL ≤ s.maxTTL ∧ s.maxTTL ≤ p.finalMaxTTL) ∧
      s.windows.length ≤ p.finalMaxTTL ∧
      (s.pc = .idle → s.destinationIterator ≠ none → Contiguous 1 s.windows s.maxTTL ∧
        ∀ round hop, s.resultsMap.countP (fun e => e.roundNumber = round ∧ e.hopNumber = hop) =
          if round < p.rounds ∧ 1 ≤ hop ∧ hop ≤ s.maxTTL then 1 else 0) ∧
      (s.pc ≠ .idle ∨ s.destinationIterator = none → s.resultsMap = [] ∧ s.windows = []) ∧
      ∀ r ∈ s.roundsWritten, r.entries.map (·.hopNumber) = List.range' 1 r.totalHops ∧
        ∀ e ∈ r.entries.dropLast, e.status.isLast = false := by
  obtain ⟨s, hs, hw⟩ := Run.exec_total (fun _ _ hw htc => Windowed.step hadm hw htc)
    (.start p now seqNumber destinations) htc
  have hmax := hw.ttls.maxTTL_le
  refine ⟨s, hs, ⟨hw.ttls.minTTL_pos, hw.ttls.minTTL_le, hmax⟩, ?_, fun hpc hd => ?_,
    fun hun => ⟨(hw.unsent hun).1, (hw.unsent hun).2.1⟩,
    fun r hr => ⟨(hw.listed r hr).hops, (hw.listed r hr).last⟩⟩
  · by_cases hun : s.pc ≠ .idle ∨ s.destinationIterator = none
    · rw [(hw.unsent hun).2.1]
      exact Nat.zero_le _
    · obtain ⟨hpc, hd⟩ := not_or.mp hun
      have := (hw.sent (not_not.mp hpc) hd).2.length_le
      omega
  · obtain ⟨hone, hcont⟩ := hw.sent hpc hd
    exact ⟨hcont, hone.count⟩

/-- The run with two windows, the first of them unanswered. -/
def unansweredRun : List Event :=
  [.run, .sendRequests allSent, .elapse 3000000000, .timeoutTimerExpires,
    .timeoutEvent false allSent]

theorem traceroute_windows_two :
    udpTraceroute.Admitted ∧
    ∃ s, Run.exec (Service.step udpTraceroute (methods udpTraceroute))
        (State.start udpTraceroute 0 65530 [⟨.v4 0x0a000002, 0⟩]) unansweredRun = .ok s ∧
      (1 ≤ s.minTTL ∧ s.minTTL ≤ s.maxTTL ∧ s.maxTTL ≤ 5) ∧ s.windows.length ≤ 5 := by
  have hadm : udpTraceroute.Admitted := ⟨by decide, by decide, by decide, by decide⟩
  have htc : Run.Meets (Service.step udpTraceroute (methods udpTraceroute)) TrafficClassSet
      (State.start udpTraceroute 0 65530 [⟨.v4 0x0a000002, 0⟩]) unansweredRun := by
    refine Run.meets_of_forall _ (fun event hin s => ?_) _
    simp only [unansweredRun, List.mem_cons, List.not_mem_nil, or_false] at hin
    rcases hin with rfl | rfl | rfl | rfl | rfl
    · trivial
    · rfl
    · trivial
    · trivial
    · rfl
  obtain ⟨s, hs, hbounds, hwindows, -⟩ := traceroute_windows hadm 0 65530 _ _ htc
  exact ⟨hadm, s, hs, hbounds, hwindows⟩

end HiPerConTracer.Service
