import HiPerConTracer.Service.Ping

/-!
# Sequence numbers of the Ping service (`iomodule-icmp.cc`, `ping.cc`, `hipercontracer.cc`)

Requests that get no response stay in `ResultsMap` until they expire, while further bursts are sent.
A burst can be the `c`-th one after a burst whose requests still wait (`Overlaps`).  The 2^16
sequence numbers suffice for all of these bursts exactly if no insertion into `ResultsMap` fails,
whatever the network does:

    (∀ events, Meets … Admitted start events → ∃ t, exec … start events = .ok t ∧ Kept t) ↔
      Roomy p start.destinations.length                           (sequenceNumbers_free_iff)
-/

namespace HiPerConTracer.Service
open Net IOModule

namespace Ping
variable {p : Parameters}

/-! ## Overlapping bursts -/

/-- The least time between two bursts, in milliseconds. -/
def spacing (p : Parameters) : Nat := p.interval - p.deviation

/-- Requests of a burst can still wait when the `c`-th burst after it is sent. -/
def Overlaps (p : Parameters) (c : Nat) : Prop :=
  c = 0 ∨ p.removeDestinationAfterRun = false ∧ c * spacing p < p.expiration ∧
    (p.iterations = 0 ∨ c < p.iterations)

/-- The bursts to so many destinations that overlap have different sequence numbers. -/
def Roomy (p : Parameters) (destinations : Nat) : Prop :=
  ∀ c, Overlaps p c → destinations * p.rounds * (c + 1) ≤ 65536

/-- No destination is added in the run, and the number of the iterations does not wrap around. -/
def Admitted (p : Parameters) (s : State) : Event → Prop
  | .addDestination _ => False
  | .timeoutEvent _ _ => p.iterations = 0 ∨ s.iterationNumber + 1 < 2 ^ 32
  | _ => True

/-- Each request is in `ResultsMap`, or it has been written. -/
structure Kept (s : State) : Prop where
  nodup : (s.resultsMap.map (·.seqNumber)).Nodup
  requested : (s.requested.map (·.request)).Perm ((s.written ++ s.resultsMap).map (·.request))

/-! ## The numbers of a burst -/

/-- The call has used `n` sequence numbers, for the entries `new`. -/
structure Numbered (s s' : IOState) (n : Nat) (new : List ResultEntry) : Prop where
  resultsMap : s'.resultsMap = s.resultsMap ++ new
  seqNumbers : new.map (·.seqNumber) = seqNumbersAfter s.seqNumber n
  seqNumber : s'.seqNumber = s.seqNumber + UInt16.ofNat n

theorem Numbered.refl (s : IOState) : Numbered s s 0 [] :=
  ⟨(List.append_nil _).symm, rfl, (UInt16.add_zero _).symm⟩

theorem Numbered.trans {s t u : IOState} {m n : Nat} {l l' : List ResultEntry}
    (h : Numbered s t m l) (h' : Numbered t u n l') : Numbered s u (m + n) (l ++ l') := by
  refine ⟨?_, ?_, ?_⟩
  · rw [h'.resultsMap, h.resultsMap, List.append_assoc]
  · rw [List.map_append, h.seqNumbers, h'.seqNumbers, h.seqNumber, seqNumbersAfter_add]
  · rw [h'.seqNumber, h.seqNumber, UInt16.add_assoc, ← UInt16.ofNat_add]

/-- A request for each round, if the traffic class can be set. -/
theorem sendRequest_numbered {destination : DestinationInfo} {trafficClassSet : Bool}
    {outcomes : Nat → SendOutcome} {s s' : IOState} {m : Nat}
    (hgood : GoodTargets s.targetChecksumArray)
    (h : p.io.sendRequest destination p.finalMaxTTL p.finalMaxTTL 0 (p.rounds - 1)
      trafficClassSet outcomes s = .ok (s', m)) :
    GoodTargets s'.targetChecksumArray ∧
      ∃ n new, Numbered s s' n new ∧ (n = 0 ∨ n = p.rounds) ∧
        (trafficClassSet = true → n = p.rounds) := by
  rcases sendRequest_cases hgood h with ⟨hclass, rfl, -⟩ | ⟨-, -, new, hsent⟩
  · refine ⟨hgood, 0, [], Numbered.refl _, Or.inl rfl, fun hset => ?_⟩
    rw [hclass] at hset
    cases hset
  · have hseqs := hsent.seqNumbers
    have hseq := hsent.seqNumber
    rw [roundsAndTTLs_rounds] at hseqs hseq
    exact ⟨hsent.good, p.rounds, new, ⟨hsent.resultsMap, hseqs, hseq⟩, Or.inr rfl, fun _ => rfl⟩

theorem sendBurst_numbered {inputs : Inputs} {k : Nat} {destinations : List DestinationInfo}
    {s s' : IOState} {m m' : Nat} (hgood : GoodTargets s.targetChecksumArray)
    (h : sendBurst p inputs k destinations s m = .ok (s', m')) :
    ∃ n new, Numbered s s' n new ∧ n ≤ destinations.length * p.rounds ∧
      ((∀ k, inputs.trafficClassSet k = true) → n = destinations.length * p.rounds) := by
  induction destinations generalizing k s m with
  | nil =>
    cases h
    exact ⟨0, [], Numbered.refl _, Nat.zero_le _, fun _ => (Nat.zero_mul _).symm⟩
  | cons d rest ih =>
    unfold sendBurst at h
    cases hsend : p.io.sendRequest d p.finalMaxTTL p.finalMaxTTL 0 (p.rounds - 1)
        (inputs.trafficClassSet k) (inputs.outcomes k) s with
    | error a =>
      rw [hsend] at h
      cases h
    | ok r =>
      obtain ⟨u, m₁⟩ := r
      rw [hsend] at h
      simp only at h
      obtain ⟨hgood', n, new, hnum, hle, hall⟩ := sendRequest_numbered hgood hsend
      obtain ⟨n', new', hnum', hle', hall'⟩ := ih hgood' h
      rw [List.length_cons, Nat.succ_mul]
      refine ⟨n + n', new ++ new', hnum.trans hnum', by omega, fun hset => ?_⟩
      rw [hall (hset k), hall' hset, Nat.add_comm]

/-- The assertions hold if the sequence numbers for all requests are not in use. -/
theorem sendBurst_total (inputs : Inputs) (k : Nat) (destinations : List DestinationInfo)
    {s : IOState} (m : Nat) (hgood : GoodTargets s.targetChecksumArray)
    (hfree : (s.resultsMap.map (·.seqNumber) ++
      seqNumbersAfter s.seqNumber (destinations.length * p.rounds)).Nodup) :
    ∃ s' m', sendBurst p inputs k destinations s m = .ok (s', m') := by
  induction destinations generalizing k s m with
  | nil => exact ⟨s, m, rfl⟩
  | cons d rest ih =>
    rw [List.length_cons, Nat.succ_mul] at hfree
    have hfirst := hfree
    rw [Nat.add_comm, seqNumbersAfter_add, ← List.append_assoc] at hfirst
    have htotal : ∃ u m₁, p.io.sendRequest d p.finalMaxTTL p.finalMaxTTL 0 (p.rounds - 1)
        (inputs.trafficClassSet k) (inputs.outcomes k) s = .ok (u, m₁) :=
      sendRequest_total _ _ hgood (Nat.zero_le (p.rounds - 1)) (Nat.le_refl p.finalMaxTTL)
        ((roundsAndTTLs_rounds p).symm ▸ (List.nodup_append.mp hfirst).1)
    obtain ⟨u, m₁, hsend⟩ := htotal
    obtain ⟨hgood', n, new, hnum, hn, -⟩ := sendRequest_numbered hgood hsend
    unfold sendBurst
    rw [hsend]
    refine ih (k + 1) (m + m₁) hgood' ?_
    rw [hnum.resultsMap, List.map_append, hnum.seqNumbers, hnum.seqNumber]
    rcases hn with rfl | rfl
    · rw [seqNumbersAfter_add, ← List.append_assoc] at hfree
      show (_ ++ [] ++ seqNumbersAfter (s.seqNumber + 0) _).Nodup
      rw [List.append_nil, UInt16.add_zero]
      exact (List.nodup_append.mp hfree).1
    · exact hfirst

/-- What a burst does to the state: it uses `n` sequence numbers for `new`, and starts the timeout
timer, for the interval unless the iteration is the last one. -/
structure BurstSent (p : Parameters) (inputs : Inputs) (s t : State) (n : Nat)
    (new : List ResultEntry) : Prop where
  numbered : Numbered s.toIOState t.toIOState n new
  le : n ≤ s.destinations.length * p.rounds
  sendTime : ∀ e ∈ new, s.now ≤ e.sendTime .application ∧ e.sendTime .application ≤ t.now
  now_le : s.now ≤ t.now
  waits : p.iterations = 0 ∨ s.iterationNumber < p.iterations → t.timeoutTimer.expiry =
    t.now + makeDeviation p.interval p.deviation inputs.random * 1000000
  timer : ∃ time, t.timeoutTimer = (s.timeoutTimer.expiresAt time).asyncWait
  frame : t.pc = s.pc ∧ t.stopRequested = s.stopRequested ∧
    t.iterationNumber = s.iterationNumber ∧ t.destinations = s.destinations ∧
    t.intervalTimer = s.intervalTimer
  requested : t.requested = s.requested ++ new
  written : t.written = s.written

theorem spacing_le (random : Nat) : spacing p ≤ makeDeviation p.interval p.deviation random :=
  Nat.le_add_right _ _

/-- Nothing is sent in a further iteration or without destinations. -/
theorem sendRequests_sent {inputs : Inputs} {s t : State} (hd : s.destinations ≠ [])
    (hiteration : p.iterations = 0 ∨ s.iterationNumber ≤ p.iterations)
    (h : sendRequests p inputs s = .ok t) :
    ∃ n new, BurstSent p inputs s t n new ∧ ((∀ k, inputs.trafficClassSet k = true) →
      n = s.destinations.length * p.rounds) := by
  unfold sendRequests at h
  rw [if_pos hiteration] at h
  simp only at h
  have hrounds : ¬ ¬ p.rounds > 0 := not_not_intro p.rounds_pos
  rw [if_pos hd, if_neg hrounds] at h
  split at h
  · cases h
  · next io m hio =>
    have hgood : GoodTargets fun _ => targetChecksum p s.seqNumber :=
      fun _ => Or.inr (targetChecksum_lt s.seqNumber)
    obtain ⟨n, new, hnum, hle, hall⟩ := sendBurst_numbered hgood hio
    obtain ⟨new', m', -, hburst⟩ := sendBurst_burst hgood hio
    obtain rfl : new = new' :=
      List.append_cancel_left (hnum.resultsMap.symm.trans hburst.resultsMap)
    have hnew : io.resultsMap.drop s.resultsMap.length = new := by
      rw [hburst.resultsMap, List.drop_left]
    rw [hnew] at h
    refine ⟨n, new, ?_, hall⟩
    cases h
    unfold scheduleTimeoutEvent
    replace hnum : Numbered s.toIOState io n new := ⟨hnum.resultsMap, hnum.seqNumbers, hnum.seqNumber⟩
    split
    · exact ⟨hnum, hle, hburst.sendTime, hburst.now_le,
        fun _ => rfl, ⟨_, rfl⟩, ⟨rfl, rfl, rfl, rfl, rfl⟩, rfl, rfl⟩
    · next hlast =>
      exact ⟨hnum, hle, hburst.sendTime, hburst.now_le, fun hmore => absurd hmore hlast,
        ⟨_, rfl⟩, ⟨rfl, rfl, rfl, rfl, rfl⟩, rfl, rfl⟩

theorem sendRequests_done {inputs : Inputs} {s : State}
    (h : ¬ (p.iterations = 0 ∨ s.iterationNumber ≤ p.iterations)) :
    sendRequests p inputs s = .ok s := by
  unfold sendRequests
  rw [if_neg h]

theorem sendRequests_total (inputs : Inputs) {s : State}
    (hfree : (s.resultsMap.map (·.seqNumber) ++
      seqNumbersAfter s.seqNumber (s.destinations.length * p.rounds)).Nodup) :
    ∃ t, sendRequests p inputs s = .ok t := by
  unfold sendRequests
  split
  · simp only
    split
    · obtain ⟨io, m, hio⟩ := sendBurst_total inputs 0 s.destinations
        (s := { s.toIOState with targetChecksumArray := fun _ => targetChecksum p s.seqNumber })
        s.outstandingRequests (fun _ => Or.inr (targetChecksum_lt s.seqNumber)) hfree
      have hrounds : ¬ ¬ p.rounds > 0 := not_not_intro p.rounds_pos
      rw [if_neg hrounds, hio]
      exact ⟨_, rfl⟩
    · exact ⟨_, rfl⟩
  · exact ⟨_, rfl⟩

/-! ## Distances of sequence numbers -/

theorem free_of_behind {q : UInt16} {l : List ResultEntry} {n : Nat}
    (hnd : (l.map (·.seqNumber)).Nodup) (hn : n ≤ 65536)
    (hbehind : ∀ e ∈ l, (q - e.seqNumber).toNat + n < 65536) :
    (l.map (·.seqNumber) ++ seqNumbersAfter q n).Nodup := by
  refine List.nodup_append.mpr ⟨hnd, seqNumbersAfter_nodup q hn, ?_⟩
  rintro a ha b hb rfl
  obtain ⟨e, he, rfl⟩ := List.mem_map.mp ha
  obtain ⟨i, h1, hi, hseq⟩ := mem_seqNumbersAfter hb
  have hlt := hbehind e he
  have hq := q.toNat_lt
  rw [UInt16.toNat_sub, hseq] at hlt
  omega

theorem distance_old {q m : UInt16} {n : Nat} (h : (q - m).toNat + n < 65536) :
    (q + UInt16.ofNat n - m).toNat = (q - m).toNat + n := by
  have hq := q.toNat_lt
  have hm := m.toNat_lt
  simp only [UInt16.toNat_add, UInt16.toNat_sub, UInt16.toNat_ofNat'] at h ⊢
  omega

theorem distance_new {q m : UInt16} {n : Nat} (h : m ∈ seqNumbersAfter q n) :
    (q + UInt16.ofNat n - m).toNat < n := by
  obtain ⟨i, h1, hi, hseq⟩ := mem_seqNumbersAfter h
  have hq := q.toNat_lt
  simp only [UInt16.toNat_add, UInt16.toNat_sub, UInt16.toNat_ofNat', hseq]
  omega

/-! ## The timeout timer -/

/-- One wait or handler at most: it comes after the expiry time, or it has been cancelled since
nothing more is to be sent. -/
structure OneWait (timer : WaitTimer) (now : Nat) (done : Prop) : Prop where
  outstanding : timer.outstanding ≤ 1
  expired : 0 < timer.expired → timer.expiry ≤ now
  aborted : 0 < timer.aborted → done

namespace OneWait
variable {timer : WaitTimer} {now : Nat} {done : Prop}

theorem of_zero (h : timer.outstanding = 0) : OneWait timer now done := by
  unfold WaitTimer.outstanding at h
  refine ⟨?_, fun hpos => ?_, fun hpos => ?_⟩
  · unfold WaitTimer.outstanding
    omega
  · omega
  · omega

theorem mono {now' : Nat} {done' : Prop} (h : OneWait timer now done) (hnow : now ≤ now')
    (hdone : done → done') : OneWait timer now' done' :=
  ⟨h.outstanding, fun hpos => (h.expired hpos).trans hnow, fun hpos => hdone (h.aborted hpos)⟩

theorem expire (h : OneWait timer now done) : OneWait (timer.expire now) now done := by
  refine ⟨by rw [WaitTimer.expire_outstanding]; exact h.outstanding, ?_, ?_⟩
  · unfold WaitTimer.expire
    split
    · next hexpiry => exact fun _ => hexpiry
    · exact h.expired
  · unfold WaitTimer.expire
    split
    · exact h.aborted
    · exact h.aborted

theorem cancel (h : OneWait timer now done) (hdone : done) : OneWait timer.cancel now done :=
  ⟨by rw [WaitTimer.cancel_outstanding]; exact h.outstanding, h.expired, fun _ => hdone⟩

theorem restart (h : timer.outstanding = 0) (time : Nat) :
    OneWait ((timer.expiresAt time).asyncWait) now done := by
  unfold WaitTimer.outstanding at h
  refine ⟨?_, fun hpos => ?_, fun hpos => ?_⟩
  · rw [WaitTimer.asyncWait_outstanding, WaitTimer.expiresAt_outstanding]
    unfold WaitTimer.outstanding
    omega
  · simp only [WaitTimer.asyncWait_expired, WaitTimer.expiresAt_expired] at hpos
    omega
  · simp only [WaitTimer.asyncWait, WaitTimer.expiresAt, WaitTimer.cancel] at hpos
    omega

/-- The handler that is taken is the only one. -/
theorem take (h : OneWait timer now done) {aborted : Bool} {timer' : WaitTimer}
    (htake : timer.take aborted = some timer') :
    timer'.outstanding = 0 ∧ timer'.expiry = timer.expiry ∧ (done ∨ timer.expiry ≤ now) := by
  have hout := WaitTimer.take_outstanding htake
  have hone := h.outstanding
  refine ⟨by omega, ?_⟩
  rcases WaitTimer.take_cases htake with ⟨-, hpos, rfl⟩ | ⟨-, hpos, rfl⟩
  · exact ⟨rfl, Or.inl (h.aborted hpos)⟩
  · exact ⟨rfl, Or.inr (h.expired hpos)⟩

end OneWait

/-! ## The entries in the map -/

/-- A further burst may be sent. -/
def Live (p : Parameters) (s : State) : Prop :=
  s.stopRequested = false ∧ s.destinations ≠ [] ∧
    (p.iterations = 0 ∨ s.iterationNumber < p.iterations)

/-- The entry is from the burst before the last `b` ones, which sent up to `n` requests each. -/
structure Behind (p : Parameters) (n : Nat) (s : State) (b : Nat) (e : ResultEntry) : Prop where
  distance : (s.seqNumber - e.seqNumber).toNat < n * (b + 1)
  time : e.sendTime .application + (b + 1) * spacing p * 1000000 ≤ s.timeoutTimer.expiry
  iteration : 0 < p.iterations → b < s.iterationNumber

/-- The bursts are sent one after the other, with the spacing between them. -/
structure Spaced (p : Parameters) (n : Nat) (s : State) : Prop where
  nodup : (s.resultsMap.map (·.seqNumber)).Nodup
  length_le : s.destinations.length * p.rounds ≤ n
  interval : s.destinations ≠ [] → s.intervalTimer.outstanding = 0
  timer : OneWait s.timeoutTimer s.now (¬ Live p s)
  starting : s.pc = .starting →
    s.iterationNumber = 0 ∧ s.resultsMap = [] ∧ s.timeoutTimer.outstanding = 0
  prepared : s.pc = .prepared → s.destinations ≠ [] →
    s.iterationNumber = 1 ∧ s.resultsMap = [] ∧ s.timeoutTimer.outstanding = 0
  behind : Live p s → ∀ e ∈ s.resultsMap, ∃ b, Behind p n s b e

theorem Spaced.start (p : Parameters) (now : Nat) (seqNumber : UInt16)
    (destinations : List DestinationInfo) :
    Spaced p ((State.start p now seqNumber destinations).destinations.length * p.rounds)
      (State.start p now seqNumber destinations) where
  nodup := List.nodup_nil
  length_le := Nat.le_refl _
  interval _ := rfl
  timer := .of_zero rfl
  starting _ := ⟨rfl, rfl, rfl⟩
  prepared hpc := by cases hpc
  behind _ e he := absurd he List.not_mem_nil

/-- **A burst.**  The entries that are left lie far enough back; then one more burst lies between
them and the next one. -/
theorem Spaced.sent {n : Nat} {inputs : Inputs} {s : State} (hd : s.destinations ≠ [])
    (hiteration : p.iterations = 0 ∨ s.iterationNumber ≤ p.iterations)
    (hnd : (s.resultsMap.map (·.seqNumber)).Nodup)
    (hlength : s.destinations.length * p.rounds ≤ n) (hn : n ≤ 65536)
    (hinterval : s.intervalTimer.outstanding = 0) (hout : s.timeoutTimer.outstanding = 0)
    (hpc : s.pc = .idle) (hfirst : 0 < p.iterations → 0 < s.iterationNumber)
    (hbehind : ∀ e ∈ s.resultsMap, ∃ b, n * (b + 2) ≤ 65536 ∧
      (s.seqNumber - e.seqNumber).toNat < n * (b + 1) ∧
      e.sendTime .application + (b + 1) * spacing p * 1000000 ≤ s.now ∧
      (0 < p.iterations → b + 1 < s.iterationNumber)) :
    ∃ t, sendRequests p inputs s = .ok t ∧ Spaced p n t := by
  have hroom : ∀ e ∈ s.resultsMap, ∀ k ≤ s.destinations.length * p.rounds,
      (s.seqNumber - e.seqNumber).toNat + k < 65536 := by
    intro e he k hk
    obtain ⟨b, hb, hdistance, -⟩ := hbehind e he
    have hmul : n * (b + 2) = n * (b + 1) + n := Nat.mul_succ n (b + 1)
    omega
  obtain ⟨t, ht⟩ := sendRequests_total inputs
    (free_of_behind hnd (hlength.trans hn) fun e he => hroom e he _ (Nat.le_refl _))
  obtain ⟨k, new, hsent, -⟩ := sendRequests_sent hd hiteration ht
  obtain ⟨hpc', hstop, hnumber, hdestinations, hintervalTimer⟩ := hsent.frame
  have hidle : t.pc = .idle := hpc'.trans hpc
  refine ⟨t, ht, ?_, ?_, ?_, ?_, ?_, ?_, ?_⟩
  · rw [hsent.numbered.resultsMap, List.map_append, hsent.numbered.seqNumbers]
    exact free_of_behind hnd ((hsent.le.trans hlength).trans hn) fun e he =>
      hroom e he _ hsent.le
  · rw [hdestinations]
    exact hlength
  · intro _
    rw [hintervalTimer]
    exact hinterval
  · obtain ⟨time, htimer⟩ := hsent.timer
    rw [htimer]
    exact .restart hout time
  · intro hstarting
    rw [hidle] at hstarting
    cases hstarting
  · intro hprepared
    rw [hidle] at hprepared
    cases hprepared
  · intro hlive e he
    have hwaits : t.now + spacing p * 1000000 ≤ t.timeoutTimer.expiry := by
      rw [hsent.waits (hnumber ▸ hlive.2.2)]
      exact Nat.add_le_add_left (Nat.mul_le_mul_right _ (spacing_le _)) _
    have hnow := hsent.now_le
    have hle := hsent.le
    rw [hsent.numbered.resultsMap] at he
    rcases List.mem_append.mp he with he | he
    · obtain ⟨b, -, hdistance, htime, hb⟩ := hbehind e he
      have hmul : n * (b + 1 + 1) = n * (b + 1) + n := Nat.mul_succ n (b + 1)
      have hspacing : (b + 1 + 1) * spacing p * 1000000 =
          (b + 1) * spacing p * 1000000 + spacing p * 1000000 := by ring
      refine ⟨b + 1, ?_, ?_, fun hpos => ?_⟩
      · rw [hsent.numbered.seqNumber, distance_old (hroom e he _ hle)]
        omega
      · rw [hspacing, ← Nat.add_assoc]
        exact (Nat.add_le_add_right (htime.trans hnow) _).trans hwaits
      · rw [hnumber]
        exact hb hpos
    · have hmem : e.seqNumber ∈ seqNumbersAfter s.seqNumber k :=
        hsent.numbered.seqNumbers ▸ List.mem_map_of_mem he
      have htime := hsent.sendTime e he
      refine ⟨0, ?_, ?_, fun hpos => ?_⟩
      · rw [hsent.numbered.seqNumber]
        have hdistance := distance_new hmem
        omega
      · omega
      · rw [hnumber]
        exact hfirst hpos

/-! ## Steps -/

theorem Spaced.response {n : Nat} {data : ReceivedData} {s t : State} (h : Spaced p n s)
    (hpc : s.pc = .idle) (hr : ResponseResult p (methods p) data s t) : Spaced p n t := by
  have hnd := (Later.response h.nodup hr).nodup
  have hidle : ∀ q, q ≠ ProgramCounter.idle → s.pc ≠ q := fun q hq heq => hq (heq.symm.trans hpc)
  -- An entry that is changed keeps its request.
  have hbehind : ∀ l₁ e e' l₂, s.resultsMap = l₁ ++ e :: l₂ → e'.request = e.request →
      Live p s → ∀ x ∈ l₁ ++ e' :: l₂, ∃ b, Behind p n s b x := by
    intro l₁ e e' l₂ hmap hrequest hlive x hx
    rcases List.mem_append.mp hx with hx | hx
    · exact h.behind hlive x (hmap ▸ List.mem_append_left _ hx)
    · rcases List.mem_cons.mp hx with rfl | hx
      · obtain ⟨b, hb⟩ := h.behind hlive e (hmap ▸ List.mem_append_right _ List.mem_cons_self)
        have hseq : x.seqNumber = e.seqNumber := congrArg ResultEntry.Request.seqNumber hrequest
        have htime : x.sendTime .application = e.sendTime .application :=
          congrArg ResultEntry.Request.sendTime hrequest
        exact ⟨b, by rw [hseq]; exact hb.distance, by rw [htime]; exact hb.time, hb.iteration⟩
      · exact h.behind hlive x (hmap ▸ List.mem_append_right _ (List.mem_cons_of_mem _ hx))
  cases hr with
  | ignored => exact h
  | later l₁ e l₂ hmap _ =>
    refine ⟨hnd, h.length_le, h.interval, h.timer, fun hq => absurd hq (hidle _ (by decide)),
      fun hq => absurd hq (hidle _ (by decide)), fun hlive x hx => ?_⟩
    obtain ⟨b, hb⟩ := hbehind l₁ e _ l₂ hmap (request_withSource data e) hlive x hx
    exact ⟨b, hb.distance, hb.time, hb.iteration⟩
  | first l₁ e e' l₂ hmap _ hrequest _ _ =>
    rw [newResult_eq] at hnd ⊢
    refine ⟨hnd, h.length_le, h.interval, ?_, fun hq => absurd hq (hidle _ (by decide)),
      fun hq => absurd hq (hidle _ (by decide)), fun hlive x hx => ?_⟩
    · show OneWait (if _ then s.timeoutTimer.cancel else s.timeoutTimer) s.now (¬ Live p s)
      split
      · next hlast =>
        refine h.timer.cancel fun hlive => ?_
        have hmore := hlive.2.2
        replace hlast : _ ∧ p.iterations > 0 ∧ s.iterationNumber ≥ p.iterations := hlast
        omega
      · exact h.timer
    · obtain ⟨b, hb⟩ := hbehind l₁ e e' l₂ hmap hrequest hlive x hx
      refine ⟨b, hb.distance, ?_, hb.iteration⟩
      show _ ≤ WaitTimer.expiry (if _ then s.timeoutTimer.cancel else s.timeoutTimer)
      split
      · exact hb.time
      · exact hb.time

/-- Nothing more is sent, so only the timers matter. -/
theorem Spaced.of_done {n : Nat} {s : State} (hnd : (s.resultsMap.map (·.seqNumber)).Nodup)
    (hlength : s.destinations.length * p.rounds ≤ n) (hpc : s.pc = .idle) (hlive : ¬ Live p s)
    (hinterval : s.destinations ≠ [] → s.intervalTimer.outstanding = 0)
    (htimer : OneWait s.timeoutTimer s.now (¬ Live p s)) : Spaced p n s := by
  have hidle : ∀ q, q ≠ ProgramCounter.idle → s.pc ≠ q := fun q hq heq => hq (heq.symm.trans hpc)
  exact ⟨hnd, hlength, hinterval, htimer, fun hq => absurd hq (hidle _ (by decide)),
    fun hq => absurd hq (hidle _ (by decide)), fun h => absurd h hlive⟩

theorem Spaced.of_empty {n : Nat} {s : State} (hnd : (s.resultsMap.map (·.seqNumber)).Nodup)
    (hd : s.destinations = []) (hpc : s.pc = .idle)
    (htimer : OneWait s.timeoutTimer s.now (¬ Live p s)) : Spaced p n s := by
  refine .of_done hnd ?_ hpc (fun hlive => hlive.2.1 hd) (fun hne => absurd hd hne) htimer
  rw [hd, List.length_nil, Nat.zero_mul]
  exact Nat.zero_le n

/-- What waiting for the interval timer leaves as it is. -/
theorem scheduleIntervalEvent_frame (random : Nat) (s : State) :
    (scheduleIntervalEvent p random s).toIOState = s.toIOState ∧
      (scheduleIntervalEvent p random s).destinations = s.destinations ∧
      (scheduleIntervalEvent p random s).pc = s.pc ∧
      (scheduleIntervalEvent p random s).timeoutTimer.outstanding = s.timeoutTimer.outstanding := by
  obtain ⟨_, _, _, heq, hcases⟩ := scheduleIntervalEvent_cases (p := p) random s
  rw [heq]
  rcases hcases with ⟨rfl, -⟩ | ⟨rfl, -⟩
  · exact ⟨rfl, rfl, rfl, rfl⟩
  · exact ⟨rfl, rfl, rfl, WaitTimer.cancel_outstanding _⟩

theorem prepareRun_frame (newRound : Bool) (s : State) :
    (prepareRun p newRound s).1.toIOState = s.toIOState ∧
      (prepareRun p newRound s).1.destinations = s.destinations ∧
      (prepareRun p newRound s).1.pc = s.pc ∧
      (prepareRun p newRound s).1.timeoutTimer.outstanding = s.timeoutTimer.outstanding ∧
      (prepareRun p newRound s).1.intervalTimer.outstanding = s.intervalTimer.outstanding := by
  obtain ⟨_, _, _, heq, hcases⟩ := prepareRun_cases (p := p) newRound s
  rw [heq]
  rcases hcases with ⟨-, rfl, rfl, -⟩ | ⟨-, rfl, rfl, -⟩
  · exact ⟨rfl, rfl, rfl, rfl, rfl⟩
  · exact ⟨rfl, rfl, rfl, WaitTimer.cancel_outstanding _, WaitTimer.cancel_outstanding _⟩

/-- An entry that has not expired belongs to a burst that overlaps the next one. -/
theorem Behind.overlaps {n b : Nat} {s : State} {e : ResultEntry} (h : Behind p n s b e)
    (hremove : p.removeDestinationAfterRun = false) (hexpiry : s.timeoutTimer.expiry ≤ s.now)
    (hmore : p.iterations = 0 ∨ s.iterationNumber < p.iterations)
    (hleft : completed p s.now e = false) : Overlaps p (b + 1) := by
  have hwaiting : (s.now - e.sendTime .application) / 1000000 < p.expiration := by
    by_contra hno
    rw [completed_iff.mpr fun _ => not_lt.mp hno] at hleft
    cases hleft
  have htime := h.time
  have hspacing : (b + 1) * spacing p ≤ (s.now - e.sendTime .application) / 1000000 := by
    rw [Nat.le_div_iff_mul_le (by decide)]
    exact Nat.le_sub_of_add_le (Nat.add_comm _ _ ▸ htime.trans hexpiry)
  refine Or.inr ⟨hremove, hspacing.trans_lt hwaiting, ?_⟩
  rcases Nat.eq_zero_or_pos p.iterations with hzero | hpos
  · exact Or.inl hzero
  · have := h.iteration hpos
    omega

/-- **A further burst** after the expiry time, or the end. -/
theorem Spaced.next {n : Nat} {inputs : Inputs} {s u v : State} (h : Spaced p n s)
    (hroomy : ∀ c, Overlaps p c → n * (c + 1) ≤ 65536) (hpc : s.pc = .idle)
    (hstop : s.stopRequested = false) {timer : WaitTimer}
    {ttlCache : DestinationInfo → Option Nat} (hout : timer.outstanding = 0)
    (hdone : ¬ Live p s ∨ s.timeoutTimer.expiry ≤ s.now)
    (hadmitted : p.iterations = 0 ∨ s.iterationNumber + 1 < 2 ^ 32)
    (hu : u = processed p { s with timeoutTimer := timer, ttlCache })
    (hrun : prepareRun p false u = (v, false)) :
    ∃ t, sendRequests p inputs v = .ok t ∧ Spaced p n t := by
  obtain ⟨timeoutTimer, intervalTimer, stop, hprepare, hcases⟩ := prepareRun_cases (p := p) false u
  obtain ⟨rfl, hempty⟩ := Prod.mk.inj (hprepare.symm.trans hrun)
  have hnd : (u.resultsMap.map (·.seqNumber)).Nodup := by
    rw [hu]
    exact processed_nodup (s := { s with timeoutTimer := timer, ttlCache }) h.nodup
  have hremove : p.removeDestinationAfterRun = false := by
    by_contra hremove
    rw [hu] at hempty
    replace hempty : List.isEmpty (if p.removeDestinationAfterRun then [] else s.destinations) =
      false := hempty
    rw [if_pos (Bool.of_not_eq_false hremove)] at hempty
    cases hempty
  have hdestinations : u.destinations = s.destinations := by
    rw [hu]
    exact if_neg (by rw [hremove]; decide)
  have hd : s.destinations ≠ [] := by
    rintro hnone
    rw [hdestinations, hnone] at hempty
    cases hempty
  have hlength : u.destinations.length * p.rounds ≤ n := by
    rw [hdestinations]
    exact h.length_le
  have hnumber : u.iterationNumber = s.iterationNumber := by rw [hu]; rfl
  rcases hcases with ⟨hmore, rfl, rfl, rfl⟩ | ⟨hlast, rfl, rfl, rfl⟩
  · -- one more iteration
    have hlive : Live p s := ⟨hstop, hd, by rw [hnumber] at hmore; omega⟩
    have hexpiry := hdone.resolve_left fun hno => hno hlive
    refine Spaced.sent (by rw [hdestinations]; exact hd) hmore hnd hlength
      (by simpa using hroomy 0 (Or.inl rfl)) ?_ ?_ ?_ ?_ ?_
    · rw [hu]
      exact h.interval hd
    · rw [hu]
      exact hout
    · rw [hu]
      exact hpc
    · intro hpos
      simp only [hnumber]
      omega
    · intro e he
      rw [hu] at he
      obtain ⟨he, hleft⟩ := List.mem_filter.mp he
      obtain ⟨b, hb⟩ := h.behind hlive e he
      have hover := hb.overlaps hremove hexpiry hlive.2.2 (Bool.not_eq_true' _ ▸ hleft)
      refine ⟨b, hroomy (b + 1) hover, ?_, ?_, fun hpos => ?_⟩
      · rw [hu]
        exact hb.distance
      · rw [hu]
        exact hb.time.trans hexpiry
      · have := hb.iteration hpos
        simp only [hnumber]
        omega
  · -- the iterations are done
    have hmore : ¬ (p.iterations = 0 ∨ (u.iterationNumber + 1) % 2 ^ 32 ≤ p.iterations) := by omega
    refine ⟨_, sendRequests_done hmore, .of_done hnd hlength ?_ ?_ ?_ ?_⟩
    · rw [hu]
      exact hpc
    · intro hlive
      have hstop' : true = false := hlive.1
      cases hstop'
    · intro _
      show u.intervalTimer.cancel.outstanding = 0
      rw [WaitTimer.cancel_outstanding, hu]
      exact h.interval hd
    · refine .of_zero ?_
      show u.timeoutTimer.cancel.outstanding = 0
      rw [WaitTimer.cancel_outstanding, hu]
      exact hout

theorem Spaced.timeout {n : Nat} {inputs : Inputs} {aborted : Bool} {timer : WaitTimer}
    {s : State} (h : Spaced p n s) (hroomy : ∀ c, Overlaps p c → n * (c + 1) ≤ 65536)
    (hpc : s.pc = .idle) (htake : s.timeoutTimer.take aborted = some timer)
    (hadmitted : p.iterations = 0 ∨ s.iterationNumber + 1 < 2 ^ 32) :
    ∃ t, handleTimeoutEvent p (methods p) inputs { s with timeoutTimer := timer } = .ok t ∧
      Spaced p n t := by
  obtain ⟨hout, -, hdone⟩ := h.timer.take htake
  have hr := handleTimeoutEvent_result p (methods p) inputs { s with timeoutTimer := timer }
  generalize handleTimeoutEvent p (methods p) inputs { s with timeoutTimer := timer } = r at hr
  cases hr with
  | stopped hstop =>
    refine ⟨_, rfl, .of_done h.nodup h.length_le hpc (fun hlive => ?_) h.interval (.of_zero hout)⟩
    exact absurd (hstop.symm.trans hlive.1) (by decide)
  | again s' hstop hs => exact absurd (nextWindow_cases hs).1 (by decide)
  | failed s' a hstop hs hproc =>
    obtain ⟨-, ttlCache, rfl⟩ := nextWindow_cases hs
    have heq := hproc.symm.trans
      (processResults_eq (s := { s with timeoutTimer := timer, ttlCache }) h.nodup)
    cases heq
  | next s' u v hstop hs hproc hrun =>
    obtain ⟨-, ttlCache, rfl⟩ := nextWindow_cases hs
    have hu := Except.ok.inj (hproc.symm.trans
      (processResults_eq (s := { s with timeoutTimer := timer, ttlCache }) h.nodup))
    exact h.next hroomy hpc hstop hout hdone hadmitted hu hrun
  | last s' u v hstop hs hproc hrun =>
    obtain ⟨-, ttlCache, rfl⟩ := nextWindow_cases hs
    have hu := Except.ok.inj (hproc.symm.trans
      (processResults_eq (s := { s with timeoutTimer := timer, ttlCache }) h.nodup))
    obtain ⟨_, _, _, hprepare, -⟩ := prepareRun_cases (p := p) false u
    have hempty := (Prod.mk.inj (hprepare.symm.trans hrun)).2
    have hv : v = (prepareRun p false u).1 := (congrArg Prod.fst hrun).symm
    obtain ⟨hio, hd, hidle, hout', -⟩ := prepareRun_frame (p := p) false u
    obtain ⟨hio', hd', hidle', hout''⟩ :=
      scheduleIntervalEvent_frame (p := p) inputs.random (prepareRun p false u).1
    refine ⟨_, rfl, .of_empty ?_ ?_ ?_ ?_⟩
    · rw [hv, hio', hio, hu]
      exact processed_nodup (s := { s with timeoutTimer := timer, ttlCache }) h.nodup
    · rw [hv, hd', hd]
      exact List.isEmpty_iff.mp hempty
    · rw [hv, hidle', hidle, hu]
      exact hpc
    · refine .of_zero ?_
      rw [hv, hout'', hout', hu]
      exact hout

/-- The first burst, or none if there is no destination. -/
theorem Spaced.first {n : Nat} {inputs : Inputs} {s : State} (h : Spaced p n s)
    (hn : n ≤ 65536) (hpc : s.pc = .prepared) :
    ∃ t, sendRequests p inputs { s with pc := .idle } = .ok t ∧ Spaced p n t := by
  by_cases hd : s.destinations = []
  · have hlive : ∀ t : State, t.destinations = s.destinations → ¬ Live p t :=
      fun t ht hlive => hlive.2.1 (ht.trans hd)
    have hfree : (s.resultsMap.map (·.seqNumber) ++
        seqNumbersAfter s.seqNumber (s.destinations.length * p.rounds)).Nodup := by
      rw [hd, List.length_nil, Nat.zero_mul]
      show (_ ++ []).Nodup
      rw [List.append_nil]
      exact h.nodup
    obtain ⟨t, ht⟩ := sendRequests_total inputs (s := { s with pc := .idle }) hfree
    refine ⟨t, ht, ?_⟩
    cases sendRequests_result ht with
    | done _ =>
      exact .of_empty h.nodup hd rfl (h.timer.mono (Nat.le_refl _) fun _ => hlive _ rfl)
    | waiting _ timeoutTimer _ _ _ htimer =>
      refine .of_empty h.nodup hd rfl ?_
      have hone := h.timer.mono (Nat.le_refl _) fun _ => hlive s rfl
      rcases htimer with ⟨rfl, -⟩ | ⟨rfl, -⟩
      · exact hone.mono (Nat.le_refl _) fun _ => hlive _ rfl
      · exact (hone.cancel (hlive s rfl)).mono (Nat.le_refl _) fun _ => hlive _ rfl
    | sent _ hne _ _ _ _ _ _ _ => exact absurd hd hne
  · obtain ⟨hnumber, hempty, hout⟩ := h.prepared hpc hd
    by_cases hiteration : p.iterations = 0 ∨ s.iterationNumber ≤ p.iterations
    · refine Spaced.sent hd hiteration h.nodup h.length_le hn (h.interval hd) hout rfl ?_ ?_
      · intro _
        show 0 < s.iterationNumber
        omega
      · intro e he
        replace he : e ∈ s.resultsMap := he
        rw [hempty] at he
        cases he
    · omega

/-- Time passes, the service may be stopped, and the timers expire or are cancelled. -/
theorem Spaced.quiet {n now : Nat} {timeoutTimer intervalTimer : WaitTimer} {stop : Bool}
    {s : State} (h : Spaced p n s) (hnow : s.now ≤ now)
    (htimeout : timeoutTimer = s.timeoutTimer ∨ timeoutTimer = s.timeoutTimer.expire s.now ∨
      s.stopRequested = true ∧ timeoutTimer = s.timeoutTimer.cancel)
    (hinterval : intervalTimer.outstanding ≤ s.intervalTimer.outstanding)
    (hstop : stop = s.stopRequested ∨ stop = true) :
    Spaced p n { s with now, timeoutTimer, intervalTimer, stopRequested := stop } := by
  have hlive : Live p { s with now, timeoutTimer, intervalTimer, stopRequested := stop } →
      Live p s := by
    rintro ⟨hrunning, hrest⟩
    refine ⟨?_, hrest⟩
    rcases hstop with rfl | rfl
    · exact hrunning
    · cases hrunning
  have htimer : timeoutTimer.outstanding = s.timeoutTimer.outstanding ∧
      timeoutTimer.expiry = s.timeoutTimer.expiry ∧
      OneWait timeoutTimer s.now (¬ Live p s) := by
    rcases htimeout with rfl | rfl | ⟨hstopped, rfl⟩
    · exact ⟨rfl, rfl, h.timer⟩
    · refine ⟨WaitTimer.expire_outstanding _ _, ?_, h.timer.expire⟩
      unfold WaitTimer.expire
      split <;> rfl
    · refine ⟨WaitTimer.cancel_outstanding _, rfl, h.timer.cancel fun hl => ?_⟩
      exact absurd (hstopped.symm.trans hl.1) (by decide)
  obtain ⟨hout, hexpiry, hone⟩ := htimer
  refine ⟨h.nodup, h.length_le, fun hd => ?_, hone.mono hnow (mt hlive), fun hpc => ?_,
    fun hpc hd => ?_, fun hl e he => ?_⟩
  · exact Nat.le_zero.mp (hinterval.trans (h.interval hd).le)
  · obtain ⟨hnumber, hempty, hzero⟩ := h.starting hpc
    exact ⟨hnumber, hempty, hout.trans hzero⟩
  · obtain ⟨hnumber, hempty, hzero⟩ := h.prepared hpc hd
    exact ⟨hnumber, hempty, hout.trans hzero⟩
  · obtain ⟨b, hb⟩ := h.behind (hlive hl) e he
    exact ⟨b, hb.distance, hexpiry ▸ hb.time, hb.iteration⟩

/-- The run starts, or starts again when there is nothing to send. -/
theorem Spaced.restart {n : Nat} {intervalTimer : WaitTimer} {s : State} (h : Spaced p n s)
    (hevent : s.pc = .starting ∨ s.destinations = [])
    (hinterval : intervalTimer.outstanding ≤ s.intervalTimer.outstanding) :
    Spaced p n { (prepareRun p true { s with intervalTimer }).1 with pc := .prepared } := by
  obtain ⟨timeoutTimer, t₂, stop, heq, hcases⟩ := prepareRun_cases (p := p) true
    { s with intervalTimer }
  have hout : timeoutTimer.outstanding = s.timeoutTimer.outstanding ∧
      t₂.outstanding = intervalTimer.outstanding := by
    rcases hcases with ⟨-, rfl, rfl, -⟩ | ⟨-, rfl, rfl, -⟩
    · exact ⟨rfl, rfl⟩
    · exact ⟨WaitTimer.cancel_outstanding _, WaitTimer.cancel_outstanding _⟩
  rw [heq]
  refine ⟨h.nodup, h.length_le, fun hd => ?_, ?_, fun hpc => ?_, fun _ hd => ?_, fun hl e he => ?_⟩
  · exact hout.2.trans (Nat.le_zero.mp (hinterval.trans (h.interval hd).le))
  · rcases hevent with hstarting | hd
    · exact .of_zero (hout.1.trans (h.starting hstarting).2.2)
    · have hone := h.timer.mono (Nat.le_refl _) fun _ => (fun hl : Live p s => hl.2.1 hd)
      rcases hcases with ⟨-, rfl, -⟩ | ⟨-, rfl, -⟩
      · exact hone.mono (Nat.le_refl _) fun _ hl => hl.2.1 hd
      · exact (hone.cancel fun hl => hl.2.1 hd).mono (Nat.le_refl _) fun _ hl => hl.2.1 hd
  · cases hpc
  · obtain ⟨hnumber, hempty, hzero⟩ := h.starting (hevent.resolve_right hd)
    refine ⟨?_, hempty, hout.1.trans hzero⟩
    simp only [hnumber]
    decide
  · rcases hevent with hstarting | hd
    · replace he : e ∈ s.resultsMap := he
      rw [(h.starting hstarting).2.1] at he
      cases he
    · exact absurd hd hl.2.1

/-- **Step.**  The insertions succeed, and the bursts keep their distance. -/
theorem Spaced.step {n : Nat} {s : State} {event : Event} (h : Spaced p n s)
    (hroomy : ∀ c, Overlaps p c → n * (c + 1) ≤ 65536) (hadmitted : Admitted p s event) :
    ∃ t, Service.step p (methods p) s event = .ok t ∧ Spaced p n t := by
  have hr := step_result p (methods p) s event
  generalize Service.step p (methods p) s event = r at hr
  cases hr with
  | quiet _ now timeoutTimer intervalTimer stop destinations hnow htimeout hinterval hstop hd =>
    have hadded : ∀ d, event ≠ .addDestination d := by
      rintro d rfl
      exact hadmitted
    obtain rfl := hd.resolve_right fun ⟨d, heq⟩ => hadded d heq
    refine ⟨_, rfl, h.quiet hnow htimeout ?_ (hstop.imp_right And.right)⟩
    exact hinterval.resolve_right fun ⟨d, heq⟩ => hadded d heq
  | restart _ intervalTimer hevent hinterval =>
    refine ⟨_, rfl, h.restart ?_ hinterval⟩
    rcases hevent with ⟨-, hpc⟩ | ⟨-, -, -, hpos⟩
    · exact Or.inl hpc
    · by_cases hd : s.destinations = []
      · exact Or.inr hd
      · have := h.interval hd
        omega
  | burst inputs hpc => exact h.first (by simpa using hroomy 0 (Or.inl rfl)) hpc
  | timeout aborted inputs timer s' hpc htake hs' =>
    rw [hs']
    exact h.timeout hroomy hpc htake hadmitted
  | response message data hpc =>
    exact ⟨_, rfl, h.response hpc (handleResponse_result _ message data h.nodup)⟩

/-! ## No request is lost -/

theorem Kept.congr {s t : State} (h : Kept s) (hmap : t.resultsMap = s.resultsMap)
    (hrequested : t.requested = s.requested) (hwritten : t.written = s.written) : Kept t :=
  ⟨by rw [hmap]; exact h.nodup, by rw [hrequested, hwritten, hmap]; exact h.requested⟩

theorem Kept.sendRequests {inputs : Inputs} {s t : State} (h : Kept s)
    (hs : sendRequests p inputs s = .ok t) : Kept t := by
  have hnd := (Later.sendRequests h.nodup hs).nodup
  cases sendRequests_result hs with
  | done _ => exact h
  | waiting _ _ _ _ _ _ => exact h.congr rfl rfl rfl
  | sent _ _ targets io n new _ hburst _ =>
    refine ⟨hnd, ?_⟩
    show ((s.requested ++ new).map (·.request)).Perm ((s.written ++ io.resultsMap).map (·.request))
    rw [hburst.resultsMap, ← List.append_assoc, List.map_append, List.map_append]
    exact h.requested.append_right _

theorem Kept.processed {s : State} (h : Kept s) : Kept (processed p s) := by
  refine ⟨processed_nodup h.nodup, h.requested.trans ?_⟩
  have hperm : ((s.resultsMap.insertionSort pingOrder).filter (completed p s.now)).Perm
      (s.resultsMap.filter (completed p s.now)) := (s.resultsMap.perm_insertionSort pingOrder).filter _
  have htimeOut : (((s.resultsMap.insertionSort pingOrder).filter (completed p s.now)).map
      (timeOut p s.now)).map (·.request) =
      ((s.resultsMap.insertionSort pingOrder).filter (completed p s.now)).map (·.request) := by
    rw [List.map_map]
    exact List.map_congr_left fun e _ => timeOut_request s.now e
  show ((s.written ++ s.resultsMap).map (·.request)).Perm
    (((s.written ++ ((s.resultsMap.insertionSort pingOrder).filter (completed p s.now)).map
      (timeOut p s.now)) ++ s.resultsMap.filter fun e => !completed p s.now e).map (·.request))
  rw [List.append_assoc, List.map_append, List.map_append, List.map_append, htimeOut]
  refine List.Perm.append_left _ ?_
  rw [← List.map_append]
  refine List.Perm.map _ ?_
  exact ((List.filter_append_perm (completed p s.now) s.resultsMap).symm).trans
    (hperm.symm.append_right _)

theorem Kept.response {data : ReceivedData} {s t : State} (h : Kept s)
    (hr : ResponseResult p (methods p) data s t) : Kept t := by
  have hnd := (Later.response h.nodup hr).nodup
  have hmap : ∀ l₁ e e' l₂, s.resultsMap = l₁ ++ e :: l₂ → e'.request = e.request →
      (l₁ ++ e' :: l₂).map (·.request) = s.resultsMap.map (·.request) := by
    intro l₁ e e' l₂ heq hrequest
    rw [heq, List.map_append, List.map_append, List.map_cons, List.map_cons, hrequest]
  cases hr with
  | ignored => exact h
  | later l₁ e l₂ heq _ =>
    refine ⟨hnd, ?_⟩
    show (s.requested.map (·.request)).Perm ((s.written ++ (l₁ ++ _ :: l₂)).map (·.request))
    rw [List.map_append, hmap l₁ e _ l₂ heq (request_withSource data e), ← List.map_append]
    exact h.requested
  | first l₁ e e' l₂ heq _ hrequest _ _ =>
    rw [newResult_eq] at hnd ⊢
    refine ⟨hnd, ?_⟩
    show (s.requested.map (·.request)).Perm ((s.written ++ (l₁ ++ e' :: l₂)).map (·.request))
    rw [List.map_append, hmap l₁ e e' l₂ heq hrequest, ← List.map_append]
    exact h.requested

theorem Kept.prepareRun {s : State} (h : Kept s) (newRound : Bool) :
    Kept (prepareRun p newRound s).1 := by
  obtain ⟨_, _, _, heq, -⟩ := prepareRun_cases (p := p) newRound s
  rw [heq]
  exact h.congr rfl rfl rfl

theorem Kept.step {s t : State} {event : Event} (h : Kept s)
    (hs : Service.step p (methods p) s event = .ok t) : Kept t := by
  have hr := step_result p (methods p) s event
  rw [hs] at hr
  generalize hres : (Except.ok t : Except Assure State) = r at hr
  cases hr with
  | quiet _ _ _ _ _ _ _ _ _ _ _ =>
    cases hres
    exact h.congr rfl rfl rfl
  | restart _ intervalTimer _ _ =>
    cases hres
    have hkept : Kept { s with intervalTimer } := h.congr rfl rfl rfl
    exact (hkept.prepareRun true).congr rfl rfl rfl
  | burst inputs hpc =>
    have hkept : Kept { s with pc := .idle } := h.congr rfl rfl rfl
    exact hkept.sendRequests hres.symm
  | timeout aborted inputs timer s' hpc htake hs' =>
    have hkept : Kept s' := by
      rw [hs']
      exact h.congr rfl rfl rfl
    cases handleTimeoutEvent_ok hkept.nodup hres.symm with
    | stopped _ ht =>
      rw [ht]
      exact hkept
    | again ttlCache u _ hu hd hsend =>
      have hkept' : Kept { s' with ttlCache } := hkept.congr rfl rfl rfl
      have hkeptu : Kept u := by
        rw [hu]
        exact hkept'.processed
      exact (hkeptu.prepareRun false).sendRequests hsend
    | last ttlCache u _ hu hd ht =>
      have hkept' : Kept { s' with ttlCache } := hkept.congr rfl rfl rfl
      have hkeptu : Kept u := by
        rw [hu]
        exact hkept'.processed
      obtain ⟨_, _, _, heq, -⟩ := scheduleIntervalEvent_cases (p := p) inputs.random
        (Ping.prepareRun p false u).1
      rw [ht, heq]
      exact (hkeptu.prepareRun false).congr rfl rfl rfl
  | response message data hpc =>
    cases hres
    exact h.response (handleResponse_result _ message data h.nodup)

/-- **Runs with room.**  No insertion fails, and no request is lost. -/
theorem Roomy.exec {now : Nat} {seqNumber : UInt16} {destinations : List DestinationInfo}
    {events : List Event}
    (h : Roomy p (State.start p now seqNumber destinations).destinations.length)
    (hadmitted : Run.Meets (Service.step p (methods p)) (Admitted p)
      (State.start p now seqNumber destinations) events) :
    ∃ t, Run.exec (Service.step p (methods p)) (State.start p now seqNumber destinations) events =
      .ok t ∧ Kept t := by
  have hstart : Kept (State.start p now seqNumber destinations) := ⟨List.nodup_nil, .refl _⟩
  obtain ⟨t, ht, -, hkept⟩ := Run.exec_total
    (P := fun s => Spaced p ((State.start p now seqNumber destinations).destinations.length *
      p.rounds) s ∧ Kept s)
    (fun s event hs hc => by
      obtain ⟨t, ht, hspaced⟩ := hs.1.step h hc
      exact ⟨t, ht, hspaced, hs.2.step ht⟩)
    ⟨.start p now seqNumber destinations, hstart⟩ hadmitted
  exact ⟨t, ht, hkept⟩

/-! ## Assertions that fail -/

/-- Only an insertion can fail. -/
theorem sendBurst_error {inputs : Inputs} {k : Nat} {destinations : List DestinationInfo}
    {s : IOState} {m : Nat} {a : Assure} (hgood : GoodTargets s.targetChecksumArray)
    (h : sendBurst p inputs k destinations s m = .error a) : a = .inserted := by
  induction destinations generalizing k s m with
  | nil => cases h
  | cons d rest ih =>
    unfold sendBurst at h
    cases hsend : p.io.sendRequest d p.finalMaxTTL p.finalMaxTTL 0 (p.rounds - 1)
        (inputs.trafficClassSet k) (inputs.outcomes k) s with
    | error a' =>
      rw [hsend] at h
      cases h
      exact sendRequest_inserted hgood (Nat.zero_le _) (Nat.le_refl _) hsend
    | ok r =>
      rw [hsend] at h
      exact ih (sendRequest_numbered hgood hsend).1 h

theorem sendRequests_error {inputs : Inputs} {s : State} {a : Assure}
    (h : sendRequests p inputs s = .error a) : a = .inserted := by
  unfold sendRequests at h
  split at h
  · simp only at h
    split at h
    · have hrounds : ¬ ¬ p.rounds > 0 := not_not_intro p.rounds_pos
      rw [if_neg hrounds] at h
      split at h
      · next hburst =>
        cases h
        exact sendBurst_error (fun _ => Or.inr (targetChecksum_lt s.seqNumber)) hburst
      · cases h
    · cases h
  · cases h

theorem step_error {s : State} {event : Event} {a : Assure}
    (hnd : (s.resultsMap.map (·.seqNumber)).Nodup)
    (h : Service.step p (methods p) s event = .error a) : a = .inserted := by
  have hr := step_result p (methods p) s event
  rw [h] at hr
  generalize hres : (Except.error a : Except Assure State) = r at hr
  cases hr with
  | quiet _ _ _ _ _ _ _ _ _ _ _ => cases hres
  | restart _ _ _ _ => cases hres
  | burst inputs hpc => exact sendRequests_error hres.symm
  | timeout aborted inputs timer s' hpc htake hs' =>
    have hr' := handleTimeoutEvent_result p (methods p) inputs s'
    rw [← hres] at hr'
    generalize hres' : (Except.error a : Except Assure State) = r' at hr'
    cases hr' with
    | stopped _ => cases hres'
    | again _ _ hs => exact absurd (nextWindow_cases hs).1 (by decide)
    | failed u a' _ hs hproc =>
      obtain ⟨-, ttlCache, rfl⟩ := nextWindow_cases hs
      have hok := processResults_eq (p := p) (s := { s' with ttlCache }) (by rw [hs']; exact hnd)
      cases hproc.symm.trans hok
    | next _ _ v _ _ _ _ => exact sendRequests_error hres'.symm
    | last _ _ _ _ _ _ _ => cases hres'
  | response _ _ _ => cases hres

theorem exec_error {s : State} {events : List Event} {a : Assure}
    (hnd : (s.resultsMap.map (·.seqNumber)).Nodup)
    (h : Run.exec (Service.step p (methods p)) s events = .error a) : a = .inserted := by
  obtain ⟨t, event, ht, -, he⟩ := Run.exec_error
    (P := fun s => (s.resultsMap.map (·.seqNumber)).Nodup)
    (fun _ _ _ hs _ hst => (Later.step hs hst).nodup) hnd (Run.meets_true _ s events) h
  exact step_error ht he

/-! ## Bursts that nobody responds to -/

/-- All requests are sent at once, and the interval is as short as it can be. -/
def instant : Inputs where
  trafficClassSet _ := true
  outcomes _ _ := ⟨0, 0, none, 44⟩
  random := 0

/-- An entry made now, or an old one. -/
def Made (s : IOState) (e : ResultEntry) : Prop :=
  e ∈ s.resultsMap ∨ e.status = .unknown ∧ e.sendTime .application = s.now

theorem sendLoop_instant {io : IOModule} {destination : DestinationInfo} {k i : Nat}
    {pairs : List (Nat × Nat)} {s s' : Sending}
    (h : io.sendLoop destination (instant.outcomes k) i pairs s = .ok s') :
    s'.now = s.now ∧ ∀ x ∈ s'.resultEntryArray, x ∈ s.resultEntryArray ∨
      x.2.success = true ∧ x.1.status = .unknown ∧ x.1.sendTime .application = s.now := by
  induction pairs generalizing i s with
  | nil =>
    cases h
    exact ⟨rfl, fun x hx => Or.inl hx⟩
  | cons pair pairs ih =>
    obtain ⟨round, ttl⟩ := pair
    unfold sendLoop at h
    cases hp : io.sendPacket destination (instant.outcomes k i) round ttl s with
    | error a =>
      rw [hp] at h
      cases h
    | ok u =>
      rw [hp] at h
      obtain ⟨hnow, hmem⟩ := ih h
      unfold sendPacket at hp
      simp only at hp
      split at hp
      · cases hp
      · cases hp
        refine ⟨hnow, fun x hx => ?_⟩
        rcases hmem x hx with hx | hx
        · rcases List.mem_append.mp hx with hx | hx
          · exact Or.inl hx
          · rw [List.mem_singleton.mp hx]
            exact Or.inr ⟨rfl, rfl, rfl⟩
        · exact Or.inr hx

theorem sendRequest_instant {io : IOModule} {destination : DestinationInfo}
    {fromTTL toTTL fromRound toRound k m : Nat} {s s' : IOState}
    (h : io.sendRequest destination fromTTL toTTL fromRound toRound true (instant.outcomes k) s =
      .ok (s', m)) : s'.now = s.now ∧ ∀ e ∈ s'.resultsMap, Made s e := by
  unfold sendRequest at h
  rw [if_neg fun hskip => absurd hskip.2 (by decide)] at h
  split at h
  · cases h
  · split at h
    · cases h
    · split at h
      · cases h
      · next l hl =>
        obtain ⟨hnow, hmem⟩ := sendLoop_instant hl
        split at h
        · cases h
        · split at h
          · cases h
          · next resultsMap hi =>
            cases h
            refine ⟨hnow, fun e he => ?_⟩
            replace he : e ∈ resultsMap := he
            rw [(insertEntries_ok hi).1] at he
            rcases List.mem_append.mp he with he | he
            · exact Or.inl he
            · obtain ⟨x, hx, rfl⟩ := List.mem_map.mp he
              obtain ⟨hok, hstatus, htime⟩ := (hmem x hx).resolve_left List.not_mem_nil
              unfold checkedEntry
              rw [if_pos hok]
              exact Or.inr ⟨hstatus, htime⟩

theorem sendBurst_instant {k m m' : Nat} {destinations : List DestinationInfo} {s s' : IOState}
    (h : sendBurst p instant k destinations s m = .ok (s', m')) :
    s'.now = s.now ∧ ∀ e ∈ s'.resultsMap, Made s e := by
  induction destinations generalizing k s m with
  | nil =>
    cases h
    exact ⟨rfl, fun e he => Or.inl he⟩
  | cons d rest ih =>
    unfold sendBurst at h
    split at h
    · cases h
    · next u _ hsend =>
      obtain ⟨hnow, hmade⟩ := sendRequest_instant hsend
      obtain ⟨hnow', hmade'⟩ := ih h
      refine ⟨hnow'.trans hnow, fun e he => ?_⟩
      rcases hmade' e he with he | ⟨hstatus, htime⟩
      · exact hmade e he
      · exact Or.inr ⟨hstatus, htime.trans hnow⟩

theorem sendRequests_instant {s t : State} (h : sendRequests p instant s = .ok t) :
    t.now = s.now ∧ ∀ e ∈ t.resultsMap, Made s.toIOState e := by
  unfold sendRequests at h
  split at h
  · simp only at h
    split at h
    · split at h
      · cases h
      · split at h
        · cases h
        · next hburst =>
          obtain ⟨hnow, hmade⟩ := sendBurst_instant hburst
          cases h
          unfold scheduleTimeoutEvent
          split <;> exact ⟨hnow, hmade⟩
    · cases h
      obtain ⟨_, _, _, heq, -⟩ := scheduleIntervalEvent_cases (p := p) instant.random
        { s with targetChecksumArray := fun _ => targetChecksum p s.seqNumber }
      rw [heq]
      exact ⟨rfl, fun e he => Or.inl he⟩
  · cases h
    exact ⟨rfl, fun e he => Or.inl he⟩

/-- The state after `i + 1` bursts without a response, the first of them at the time `first`. -/
structure Unanswered (p : Parameters) (destinations : List DestinationInfo) (first i : Nat)
    (s : State) : Prop where
  pc : s.pc = .idle
  running : s.stopRequested = false
  iteration : s.iterationNumber = i + 1
  destinations_eq : s.destinations = destinations
  nodup : (s.resultsMap.map (·.seqNumber)).Nodup
  count : s.resultsMap.length = destinations.length * p.rounds * (i + 1)
  waiting : ∀ e ∈ s.resultsMap, e.status = .unknown ∧ first ≤ e.sendTime .application
  now_eq : s.now = first + i * spacing p * 1000000
  timer : ∃ time, s.timeoutTimer = ⟨time, 1, 0, 0⟩ ∧
    (p.iterations = 0 ∨ i + 1 < p.iterations → time = s.now + spacing p * 1000000)

theorem Unanswered.of_sent {destinations : List DestinationInfo} {first i : Nat} {s t : State}
    (hd : destinations ≠ []) (hiteration : p.iterations = 0 ∨ i + 1 ≤ p.iterations)
    (hpc : s.pc = .idle) (hrunning : s.stopRequested = false) (hnumber : s.iterationNumber = i + 1)
    (hdestinations : s.destinations = destinations)
    (hnd : (s.resultsMap.map (·.seqNumber)).Nodup)
    (hcount : s.resultsMap.length = destinations.length * p.rounds * i)
    (hwaiting : ∀ e ∈ s.resultsMap, e.status = .unknown ∧ first ≤ e.sendTime .application)
    (hnow : s.now = first + i * spacing p * 1000000)
    (htimer : ∃ time, s.timeoutTimer = ⟨time, 0, 0, 0⟩)
    (h : sendRequests p instant s = .ok t) :
    Unanswered p destinations first i t := by
  obtain ⟨n, new, hsent, hall⟩ := sendRequests_sent (hdestinations ▸ hd) (hnumber ▸ hiteration) h
  obtain ⟨hnow', hmade⟩ := sendRequests_instant h
  obtain ⟨hpc', hstop', hnumber', hdestinations', -⟩ := hsent.frame
  have hn := hall fun _ => rfl
  refine ⟨hpc'.trans hpc, hstop'.trans hrunning, hnumber'.trans hnumber,
    hdestinations'.trans hdestinations, (Later.sendRequests hnd h).nodup, ?_, ?_,
    hnow'.trans hnow, ?_⟩
  · have hlength : new.length = n := by
      rw [← List.length_map (·.seqNumber), hsent.numbered.seqNumbers, seqNumbersAfter_length]
    rw [hsent.numbered.resultsMap, List.length_append, hcount, hlength, hn, hdestinations]
    exact (Nat.mul_succ _ _).symm
  · intro e he
    rcases hmade e he with he | ⟨hstatus, htime⟩
    · exact hwaiting e he
    · refine ⟨hstatus, ?_⟩
      rw [htime, hnow]
      exact Nat.le_add_right _ _
  · obtain ⟨time, htimer⟩ := htimer
    obtain ⟨time', htime'⟩ := hsent.timer
    refine ⟨time', by rw [htime', htimer]; rfl, fun hmore => ?_⟩
    have hexpiry := hsent.waits (hnumber ▸ hmore)
    rw [htime'] at hexpiry
    refine hexpiry.trans (congrArg (fun d => t.now + d * 1000000) ?_)
    show p.interval - p.deviation + 0 % (2 * p.deviation + 1) = spacing p
    rw [Nat.zero_mod]
    rfl

theorem Unanswered.first {now : Nat} {seqNumber : UInt16} {destinations : List DestinationInfo}
    {t : State} (hd : (State.start p now seqNumber destinations).destinations ≠ [])
    (h : sendRequests p instant { (prepareRun p true (State.start p now seqNumber destinations)).1
      with pc := .idle } = .ok t) :
    Unanswered p (State.start p now seqNumber destinations).destinations now 0 t := by
  obtain ⟨_, _, _, hprepare, hcases⟩ := prepareRun_cases (p := p) true
    (State.start p now seqNumber destinations)
  rw [hprepare] at h
  rcases hcases with ⟨hmore, rfl, rfl, rfl⟩ | ⟨⟨hpos, hlast⟩, -⟩
  · refine .of_sent hd hmore ?_ ?_ ?_ ?_ ?_ ?_ ?_ ?_ ?_ h
    · rfl
    · rfl
    · rfl
    · rfl
    · exact List.nodup_nil
    · exact (Nat.mul_zero _).symm
    · exact fun e he => absurd he List.not_mem_nil
    · rw [Nat.zero_mul, Nat.zero_mul]
      rfl
    · exact ⟨0, rfl⟩
  · have : (State.start p now seqNumber destinations).iterationNumber = 0 := rfl
    omega

/-- When the timer has expired, at a later time, all requests wait on, and the next burst is sent. -/
theorem Unanswered.later {destinations : List DestinationInfo} {first i : Nat} {s t : State}
    {timer : WaitTimer} (h : Unanswered p destinations first i s) (hd : destinations ≠ [])
    (hi : i + 2 < 2 ^ 32) (hover : Overlaps p (i + 1)) {expiry later : Nat}
    (htimer : timer = ⟨expiry, 0, 0, 0⟩) (hlater : later = s.now + spacing p * 1000000)
    (ht : handleTimeoutEvent p (methods p) instant { s with now := later, timeoutTimer := timer } =
      .ok t) :
    Unanswered p destinations first (i + 1) t := by
  obtain ⟨hremove, hoverlap, hmore⟩ := hover.resolve_left (Nat.succ_ne_zero i)
  have hleft : s.resultsMap.filter (fun e => !completed p later e) = s.resultsMap := by
    refine List.filter_eq_self.mpr fun e he => ?_
    obtain ⟨hunknown, hfirst⟩ := h.waiting e he
    rw [Bool.not_eq_true', ← Bool.not_eq_true, completed_iff]
    intro hdue
    have hspacing : (i + 1) * spacing p * 1000000 = i * spacing p * 1000000 +
        spacing p * 1000000 := by ring
    have hage : later - e.sendTime .application ≤ (i + 1) * spacing p * 1000000 := by
      rw [hlater, h.now_eq, hspacing]
      omega
    have hdiv := Nat.div_le_div_right (c := 1000000) hage
    rw [Nat.mul_div_cancel _ (by decide)] at hdiv
    exact absurd ((hdue hunknown).trans hdiv) (not_le.mpr hoverlap)
  have hkept : ∀ ttlCache u,
      u = processed p { s with now := later, timeoutTimer := timer, ttlCache } →
      u.resultsMap = s.resultsMap ∧ u.destinations = destinations ∧ u.pc = .idle ∧
        u.stopRequested = false ∧ u.iterationNumber = i + 1 ∧ u.timeoutTimer = timer ∧
        u.now = later := by
    rintro ttlCache u rfl
    refine ⟨hleft, ?_, h.pc, h.running, h.iteration, rfl, rfl⟩
    exact (if_neg (by rw [hremove]; decide)).trans h.destinations_eq
  cases handleTimeoutEvent_ok (by exact h.nodup) ht with
  | stopped hstop _ => exact absurd (hstop.symm.trans h.running) (by decide)
  | last ttlCache u _ hu hnone _ => exact absurd ((hkept ttlCache u hu).2.1.symm.trans hnone) hd
  | again ttlCache u _ hu _ hsend =>
    obtain ⟨hmap, hdu, hpc, hrunning, hnumber, htu, hnow⟩ := hkept ttlCache u hu
    obtain ⟨_, _, _, hprepare, hcases⟩ := prepareRun_cases (p := p) false u
    rw [hprepare] at hsend
    rcases hcases with ⟨-, rfl, rfl, rfl⟩ | ⟨hlast, -⟩
    · refine .of_sent hd hmore ?_ ?_ ?_ ?_ ?_ ?_ ?_ ?_ ?_ hsend
      · exact hpc
      · exact hrunning
      · show (u.iterationNumber + 1) % 2 ^ 32 = i + 1 + 1
        rw [hnumber]
        exact Nat.mod_eq_of_lt hi
      · exact hdu
      · rw [hmap]
        exact h.nodup
      · rw [hmap]
        exact h.count
      · rw [hmap]
        exact h.waiting
      · show u.now = _
        rw [hnow, hlater, h.now_eq]
        ring
      · exact ⟨expiry, htu.trans htimer⟩
    · rw [hnumber] at hlast
      omega

/-- **A turn.** -/
theorem Unanswered.next {destinations : List DestinationInfo} {first i : Nat} {s t : State}
    {timer : WaitTimer} (h : Unanswered p destinations first i s) (hd : destinations ≠ [])
    (hi : i + 2 < 2 ^ 32) (hover : Overlaps p (i + 1)) {expiry : Nat}
    (htimer : timer = ⟨expiry, 0, 0, 0⟩)
    (ht : handleTimeoutEvent p (methods p) instant
      { s with now := s.now + spacing p * 1000000, timeoutTimer := timer } = .ok t) :
    Unanswered p destinations first (i + 1) t :=
  h.later hd hi hover htimer rfl ht

/-- The events of so many turns. -/
def turns (p : Parameters) : Nat → List Event
  | 0 => []
  | k + 1 =>
    .elapse (spacing p * 1000000) :: .timeoutTimerExpires :: .timeoutEvent false instant ::
      turns p k

theorem step_timeoutEvent {inputs : Inputs} {aborted : Bool} {s : State} (timer : WaitTimer)
    (hpc : s.pc = .idle) (htake : s.timeoutTimer.take aborted = some timer) :
    Service.step p (methods p) s (.timeoutEvent aborted inputs) =
      handleTimeoutEvent p (methods p) inputs { s with timeoutTimer := timer } := by
  simp only [Service.step, hpc, htake]

/-- The timer expires after its time, and its handler runs. -/
theorem Unanswered.turn {destinations : List DestinationInfo} {first i : Nat} {s : State}
    (h : Unanswered p destinations first i s) (hd : destinations ≠ []) (hi : i + 2 < 2 ^ 32)
    (hover : Overlaps p (i + 1)) :
    ∃ u v, Service.step p (methods p) s (.elapse (spacing p * 1000000)) = .ok u ∧
      Service.step p (methods p) u .timeoutTimerExpires = .ok v ∧ v.iterationNumber = i + 1 ∧
      ∀ t, Service.step p (methods p) v (.timeoutEvent false instant) = .ok t →
        Unanswered p destinations first (i + 1) t := by
  obtain ⟨time, htimer, htime⟩ := h.timer
  obtain rfl := htime (hover.resolve_left (Nat.succ_ne_zero i)).2.2
  refine ⟨{ s with now := s.now + spacing p * 1000000 }, { s with
    now := s.now + spacing p * 1000000
    timeoutTimer := ⟨s.now + spacing p * 1000000, 0, 1, 0⟩ }, rfl, ?_, h.iteration, ?_⟩
  · simp only [Service.step, h.pc, if_true, htimer, WaitTimer.expire, Nat.le_refl]
  · intro t ht
    refine h.next hd hi hover rfl ((step_timeoutEvent
      ⟨s.now + spacing p * 1000000, 0, 0, 0⟩ ?_ ?_).symm.trans ht)
    · exact h.pc
    · rfl

theorem Unanswered.turns {destinations : List DestinationInfo} {first i k : Nat} {s : State}
    (h : Unanswered p destinations first i s) (hd : destinations ≠ []) (hi : i + k + 1 < 2 ^ 32)
    (hover : ∀ c, c ≤ i + k → Overlaps p c) :
    Run.Meets (Service.step p (methods p)) (Admitted p) s (turns p k) ∧
      ∀ t, Run.exec (Service.step p (methods p)) s (turns p k) = .ok t →
        Unanswered p destinations first (i + k) t := by
  induction k generalizing i s with
  | zero =>
    refine ⟨trivial, fun t ht => ?_⟩
    cases ht
    exact h
  | succ k ih =>
    obtain ⟨u, v, hu, hv, hnumber, hnext⟩ := h.turn hd (by omega) (hover (i + 1) (by omega))
    have hrest : ∀ t, Service.step p (methods p) v (.timeoutEvent false instant) = .ok t →
        Run.Meets (Service.step p (methods p)) (Admitted p) t (Ping.turns p k) ∧
          ∀ t', Run.exec (Service.step p (methods p)) t (Ping.turns p k) = .ok t' →
            Unanswered p destinations first (i + 1 + k) t' := by
      intro t ht
      exact ih (hnext t ht) (by omega) fun c hc => hover c (by omega)
    constructor
    · refine ⟨trivial, fun u' hu' => ⟨trivial, fun v' hv' => ⟨Or.inr ?_, fun t ht => ?_⟩⟩⟩
      all_goals
        obtain rfl := Except.ok.inj (hu.symm.trans hu')
        obtain rfl := Except.ok.inj (hv.symm.trans hv')
      · rw [hnumber]
        omega
      · exact (hrest t ht).1
    · intro t ht
      simp only [Ping.turns, Run.exec, hu, hv] at ht
      split at ht
      · cases ht
      · next w hw =>
        rw [show i + (k + 1) = i + 1 + k by omega]
        exact (hrest w hw).2 t ht

/-! ## Main theorem -/

theorem Overlaps.mono {c k : Nat} (h : Overlaps p c) (hk : k ≤ c) : Overlaps p k := by
  rcases h with rfl | ⟨hremove, htime, hmore⟩
  · exact Or.inl (Nat.le_zero.mp hk)
  · exact Or.inr ⟨hremove, (Nat.mul_le_mul_right _ hk).trans_lt htime, by omega⟩

/-- The events of a run with `c + 1` bursts that nobody responds to. -/
def unansweredBursts (p : Parameters) (c : Nat) : List Event :=
  .run :: .sendRequests instant :: turns p c

theorem unansweredBursts_state {now c : Nat} {seqNumber : UInt16}
    {destinations : List DestinationInfo}
    (hd : (State.start p now seqNumber destinations).destinations ≠ [])
    (hover : Overlaps p c) (hc : c + 1 < 2 ^ 32) :
    Run.Meets (Service.step p (methods p)) (Admitted p) (State.start p now seqNumber destinations)
        (unansweredBursts p c) ∧
      ∀ t, Run.exec (Service.step p (methods p)) (State.start p now seqNumber destinations)
          (unansweredBursts p c) = .ok t →
        Unanswered p (State.start p now seqNumber destinations).destinations now c t := by
  have hrun : Service.step p (methods p) (State.start p now seqNumber destinations) .run =
      .ok { (prepareRun p true (State.start p now seqNumber destinations)).1 with
        pc := .prepared } := rfl
  have hturns : ∀ t, sendRequests p instant
      { (prepareRun p true (State.start p now seqNumber destinations)).1 with pc := .idle } =
        .ok t → Run.Meets (Service.step p (methods p)) (Admitted p) t (turns p c) ∧
      ∀ t', Run.exec (Service.step p (methods p)) t (turns p c) = .ok t' →
        Unanswered p (State.start p now seqNumber destinations).destinations now (0 + c) t' :=
    fun t ht => (Unanswered.first hd ht).turns hd (by omega) fun k hk => hover.mono (by omega)
  rw [Nat.zero_add] at hturns
  constructor
  · refine ⟨trivial, fun u hu => ⟨trivial, fun t ht => ?_⟩⟩
    obtain rfl := Except.ok.inj (hrun.symm.trans hu)
    exact (hturns t ht).1
  · intro t ht
    simp only [unansweredBursts, Run.exec, hrun] at ht
    split at ht
    · cases ht
    · next u hu => exact (hturns u hu).2 t ht

/-- Without room, a run without responses ends with an insertion that fails. -/
theorem unansweredBursts_inserted {now c : Nat} {seqNumber : UInt16}
    {destinations : List DestinationInfo} (hover : Overlaps p c) (hc : c + 1 < 2 ^ 32)
    (hfull : 65536 < (State.start p now seqNumber destinations).destinations.length * p.rounds *
      (c + 1)) :
    Run.exec (Service.step p (methods p)) (State.start p now seqNumber destinations)
      (unansweredBursts p c) = .error .inserted := by
  have hd : (State.start p now seqNumber destinations).destinations ≠ [] := by
    intro hnone
    rw [hnone, List.length_nil, Nat.zero_mul, Nat.zero_mul] at hfull
    exact absurd hfull (by decide)
  cases hrun : Run.exec (Service.step p (methods p)) (State.start p now seqNumber destinations)
      (unansweredBursts p c) with
  | error a =>
    have hnd : ((State.start p now seqNumber destinations).resultsMap.map (·.seqNumber)).Nodup :=
      List.nodup_nil
    rw [exec_error hnd hrun]
  | ok t =>
    have hstate := (unansweredBursts_state hd hover hc).2 t hrun
    have hle := nodup_length_le hstate.nodup
    rw [List.length_map, hstate.count] at hle
    omega

/-- **Sequence numbers.**  In every run without further destinations no assertion fails and no
request is lost, exactly if there are enough sequence numbers for the bursts that overlap. -/
theorem sequenceNumbers_free_iff (p : Parameters) (now : Nat) (seqNumber : UInt16)
    (destinations : List DestinationInfo) :
    (∀ events, Run.Meets (Service.step p (methods p)) (Admitted p)
        (State.start p now seqNumber destinations) events →
      ∃ t, Run.exec (Service.step p (methods p)) (State.start p now seqNumber destinations) events =
        .ok t ∧ Kept t) ↔
      Roomy p (State.start p now seqNumber destinations).destinations.length := by
  constructor
  · intro hfree c hover
    by_contra hfull
    rw [not_le] at hfull
    have hpos : 1 ≤ (State.start p now seqNumber destinations).destinations.length * p.rounds := by
      by_contra hzero
      rw [Nat.lt_one_iff.mp (not_le.mp hzero), Nat.zero_mul] at hfull
      exact absurd hfull (by decide)
    have hover' := hover.mono (Nat.min_le_left c 65536)
    have hfull' : 65536 < (State.start p now seqNumber destinations).destinations.length *
        p.rounds * (min c 65536 + 1) := by
      rcases Nat.le_total c 65536 with hle | hle
      · rwa [Nat.min_eq_left hle]
      · rw [Nat.min_eq_right hle]
        exact (Nat.lt_succ_self 65536).trans_le (Nat.le_mul_of_pos_left _ hpos)
    have hd : (State.start p now seqNumber destinations).destinations ≠ [] := by
      intro hnone
      rw [hnone, List.length_nil, Nat.zero_mul] at hpos
      exact absurd hpos (by decide)
    obtain ⟨t, ht, -⟩ := hfree _ (unansweredBursts_state hd hover' (by omega)).1
    rw [unansweredBursts_inserted hover' (by omega) hfull'] at ht
    cases ht
  · exact fun h events hadmitted => h.exec hadmitted

/-! ## Bursts every 100 ms -/

/-- A Ping service to one destination, with 1024 packets in each burst, an interval of 100 ms and
an expiration of 10 s. -/
def busyPing : Parameters where
  io := udpModule
  addressText _ := ""
  sha1 _ := 0
  iterations := 0
  removeDestinationAfterRun := false
  rounds := 1024
  initialMaxTTL := 64
  finalMaxTTL := 64
  incrementMaxTTL := 1
  interval := 100
  deviation := 0
  expiration := 10000
  rounds_pos := by decide
  initialMaxTTL_pos := by decide
  initialMaxTTL_le := by decide
  deviation_le := by decide

/-- The insertion of the 65537th request fails, when no request has expired yet. -/
theorem busyPing_inserted :
    Run.exec (Service.step busyPing (methods busyPing))
      (State.start busyPing 0 0 [⟨.v4 0x0a000002, 0⟩]) (unansweredBursts busyPing 64) =
        .error .inserted :=
  unansweredBursts_inserted (Or.inr ⟨rfl, by decide, Or.inl rfl⟩) (by decide) (by decide)

end Ping

end HiPerConTracer.Service
