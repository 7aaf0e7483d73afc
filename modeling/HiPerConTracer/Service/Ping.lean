import HiPerConTracer.Service.Outstanding

/-!
# The Ping service (`ping.cc`)

The methods that `Ping` overrides, and what they can do.  A burst sends the requests of all rounds
to all destinations; the results of former bursts are processed before the next one is sent:

    sendBurst … = .ok (io', n) → Burst … io io' n new          (sendBurst_burst)
    processResults p s = .ok (processed p s)                   (processResults_eq)

The constructor asserts that the initial and the final maximum TTL are the same.  No modelled
function makes use of that.
-/

namespace HiPerConTracer.Service
open Net IOModule

namespace Ping
variable (p : Parameters)

/-! ## Methods -/

def prepareRun (_newRound : Bool) (s : State) : State × Bool :=
  let s := { s with iterationNumber := (s.iterationNumber + 1) % 2 ^ 32 }
  let s := if p.iterations > 0 ∧ s.iterationNumber > p.iterations then s.stop else s
  ({ s with runStartTimeStamp := s.now }, s.destinations.isEmpty)

/-- In the last iteration, only the expiration has to be waited for. -/
def scheduleTimeoutEvent (random : Nat) (s : State) : State :=
  if p.iterations = 0 ∨ s.iterationNumber < p.iterations then
    s.startTimeoutTimer (makeDeviation p.interval p.deviation random)
  else s.startTimeoutTimer p.expiration

def noMoreOutstandingRequests (s : State) : State :=
  let s := { s with completions := s.completions + 1 }
  if p.iterations > 0 ∧ s.iterationNumber ≥ p.iterations then s.cancelTimeoutEvent else s

def notReachedWithCurrentTTL (s : State) : State × Bool := (s, false)

/-- The target checksum of all rounds; 0xffff cannot occur. -/
def targetChecksum (seqNumber : UInt16) : UInt32 :=
  Wire.pingTargetChecksum p.io.identifier seqNumber

/-- The loop of `sendRequests` over the destinations, from the `k`-th one. -/
def sendBurst (inputs : Inputs) : Nat → List DestinationInfo → IOState → Nat →
    Except Assure (IOState × Nat)
  | _, [], io, outstandingRequests => .ok (io, outstandingRequests)
  | k, destination :: rest, io, outstandingRequests =>
    match p.io.sendRequest destination p.finalMaxTTL p.finalMaxTTL 0 (p.rounds - 1)
        (inputs.trafficClassSet k) (inputs.outcomes k) io with
    | .error a => .error a
    | .ok (io, messagesSent) =>
      sendBurst inputs (k + 1) rest io (outstandingRequests + messagesSent)

def sendRequests (inputs : Inputs) (s : State) : Except Assure State :=
  if p.iterations = 0 ∨ s.iterationNumber ≤ p.iterations then
    let s := { s with targetChecksumArray := fun _ => targetChecksum p s.seqNumber }
    if s.destinations ≠ [] then
      if ¬ p.rounds > 0 then .error .pingRounds
      else
        match sendBurst p inputs 0 s.destinations s.toIOState s.outstandingRequests with
        | .error a => .error a
        | .ok (io, outstandingRequests) =>
          .ok (scheduleTimeoutEvent p inputs.random
            { s with
              toIOState := io
              outstandingRequests
              bursts := s.bursts + 1
              requested := s.requested ++ io.resultsMap.drop s.resultsMap.length })
    else .ok (scheduleIntervalEvent p inputs.random s)
  else .ok s

/-- `comparePingResults`, as an order. -/
def pingOrder (a b : ResultEntry) : Prop :=
  a.destination < b.destination ∨ (a.destination = b.destination ∧ a.roundNumber ≤ b.roundNumber)

instance : DecidableRel pingOrder := fun _ _ => inferInstanceAs (Decidable (_ ∨ _ ∧ _))

/-- An entry that has waited for the expiration time is a timeout. -/
def timeOut (now : Nat) (e : ResultEntry) : ResultEntry :=
  if e.status = .unknown ∧ (now - e.sendTime .application) / 1000000 ≥ p.expiration then
    e.expire p.expiration
  else e

/-- The loop of `processResults`: completed entries are written and removed. -/
def processEntries : List ResultEntry → State → Except Assure State
  | [], s => .ok s
  | e :: rest, s =>
    let e := timeOut p s.now e
    if e.status ≠ .unknown then
      if (s.resultsMap.countP fun x => x.seqNumber = e.seqNumber) ≠ 1 then .error .erased
      else
        processEntries rest
          { s with
            resultsMap := s.resultsMap.filter fun x => x.seqNumber ≠ e.seqNumber
            outstandingRequests := s.outstandingRequests - 1
            written := s.written ++ [e] }
    else processEntries rest s

def processResults (s : State) : Except Assure State :=
  match processEntries p (s.resultsMap.insertionSort pingOrder) s with
  | .error a => .error a
  | .ok s =>
    if p.removeDestinationAfterRun then
      .ok { s with destinations := [], destinationIterator := none }
    else .ok s

def methods : Methods where
  prepareRun := prepareRun p
  sendRequests := sendRequests p
  noMoreOutstandingRequests := noMoreOutstandingRequests p
  notReachedWithCurrentTTL := notReachedWithCurrentTTL
  processResults := processResults p

variable {p}

/-! ## Bursts -/

theorem targetChecksum_lt (seqNumber : UInt16) : (targetChecksum p seqNumber).toNat < 0xffff :=
  Wire.pingTargetChecksum_lt p.io.identifier seqNumber

/-- One of the requests to the `k`-th destination is sent. -/
def GetsOut (p : Parameters) (inputs : Inputs) (k : Nat) : Prop :=
  (p.io.protocol = .icmp → inputs.trafficClassSet k = true) ∧
    ∃ i, i < p.rounds ∧ (inputs.outcomes k i).success = true

/-- Distinct requests, made for the destinations of a burst: `n` of them have been sent. -/
structure Burst (p : Parameters) (inputs : Inputs) (destinations : List DestinationInfo)
    (s s' : IOState) (n : Nat) (new : List ResultEntry) : Prop where
  resultsMap : s'.resultsMap = s.resultsMap ++ new
  now_le : s.now ≤ s'.now
  sendTime : ∀ e ∈ new, s.now ≤ e.sendTime .application ∧ e.sendTime .application ≤ s'.now
  status : ∀ e ∈ new, e.status = .unknown ∨ e.status.isSendError = true
  unknown : n = new.countP fun e => e.status = .unknown
  nodup : (s.resultsMap.map (·.seqNumber)).Nodup → (s'.resultsMap.map (·.seqNumber)).Nodup
  reached : (∀ k, GetsOut p inputs k) →
    ∀ d ∈ destinations, ∃ e ∈ new,
      e.destination = { d with address := d.address.dropScopeID } ∧ e.status = .unknown

theorem roundsAndTTLs_rounds (p : Parameters) :
    (roundsAndTTLs p.finalMaxTTL p.finalMaxTTL 0 (p.rounds - 1)).length = p.rounds := by
  rw [roundsAndTTLs_length _ _ _ _ (Nat.zero_le _) (Nat.le_refl _)]
  have := p.rounds_pos
  rw [Nat.sub_self, Nat.add_zero, Nat.mul_one]
  omega

theorem sendBurst_burst {inputs : Inputs} {k : Nat} {destinations : List DestinationInfo}
    {s s' : IOState} {n n' : Nat} (hgood : GoodTargets s.targetChecksumArray)
    (h : sendBurst p inputs k destinations s n = .ok (s', n')) :
    ∃ new m, n' = n + m ∧ Burst p inputs destinations s s' m new := by
  induction destinations generalizing k s n with
  | nil =>
    cases h
    refine ⟨[], 0, rfl, (List.append_nil _).symm, Nat.le_refl _, ?_, ?_, rfl, id, ?_⟩
    all_goals
      intros
      contradiction
  | cons d rest ih =>
    unfold sendBurst at h
    cases hsend : p.io.sendRequest d p.finalMaxTTL p.finalMaxTTL 0 (p.rounds - 1)
        (inputs.trafficClassSet k) (inputs.outcomes k) s with
    | error a =>
      rw [hsend] at h
      cases h
    | ok r =>
      obtain ⟨u, m₁⟩ := r
      rw [hsend] at h
      simp only at h
      rcases sendRequest_cases hgood hsend with ⟨-, rfl, rfl⟩ | ⟨-, -, new₁, h₁⟩
      · obtain ⟨new, m, rfl, hb⟩ := ih hgood h
        refine ⟨new, m, by omega, { hb with reached := fun hall => ?_ }⟩
        obtain ⟨hclass, i, hi, hsuccess⟩ := hall k
        exact absurd ((p.io.sendRequest_sends_iff hsend).mpr
          ⟨hclass, i, by rw [roundsAndTTLs_rounds]; exact hi, hsuccess⟩) (Nat.lt_irrefl 0)
      · obtain ⟨new₂, m₂, rfl, h₂⟩ := ih h₁.good h
        refine ⟨new₁ ++ new₂, m₁ + m₂, by omega, ?_, h₁.now_le.trans h₂.now_le, ?_, ?_, ?_,
          fun hnd => h₂.nodup (h₁.nodup hnd), ?_⟩
        · rw [h₂.resultsMap, h₁.resultsMap, List.append_assoc]
        · intro e he
          have h12 := h₂.now_le
          have h01 := h₁.now_le
          rcases List.mem_append.mp he with he | he
          · obtain ⟨_, -, hreq⟩ := forall₂_mem_right h₁.requests he
            exact ⟨hreq.sendTime_ge, hreq.sendTime_le.trans h12⟩
          · have := h₂.sendTime e he
            omega
        · intro e he
          rcases List.mem_append.mp he with he | he
          · exact h₁.status e he
          · exact h₂.status e he
        · rw [List.countP_append, ← h₁.unknown, ← h₂.unknown]
        · intro hall x hx
          rcases List.mem_cons.mp hx with rfl | hx
          · obtain ⟨hclass, i, hi, hsuccess⟩ := hall k
            have hpos := (p.io.sendRequest_sends_iff hsend).mpr
              ⟨hclass, i, by rw [roundsAndTTLs_rounds]; exact hi, hsuccess⟩
            rw [h₁.unknown, List.countP_pos_iff] at hpos
            obtain ⟨e, he, hun⟩ := hpos
            obtain ⟨_, -, hreq⟩ := forall₂_mem_right h₁.requests he
            exact ⟨e, List.mem_append_left _ he, hreq.destination_eq, of_decide_eq_true hun⟩
          · obtain ⟨e, he, hr⟩ := h₂.reached hall x hx
            exact ⟨e, List.mem_append_right _ he, hr⟩

/-! ## Processing -/

theorem timeOut_request (now : Nat) (e : ResultEntry) : (timeOut p now e).request = e.request := by
  unfold timeOut
  split <;> rfl

theorem timeOut_seqNumber (now : Nat) (e : ResultEntry) :
    (timeOut p now e).seqNumber = e.seqNumber :=
  congrArg ResultEntry.Request.seqNumber (timeOut_request now e)

/-- The entry is written and removed, if the results are processed now. -/
def completed (p : Parameters) (now : Nat) (e : ResultEntry) : Bool :=
  decide ((timeOut p now e).status ≠ .unknown)

theorem completed_iff {now : Nat} {e : ResultEntry} : completed p now e = true ↔
    (e.status = .unknown → (now - e.sendTime .application) / 1000000 ≥ p.expiration) := by
  unfold completed timeOut
  rw [decide_eq_true_iff]
  by_cases hu : e.status = .unknown
  · by_cases hd : (now - e.sendTime .application) / 1000000 ≥ p.expiration
    · rw [if_pos ⟨hu, hd⟩, ResultEntry.status_expire]
      exact ⟨fun _ _ => hd, fun _ => by decide⟩
    · rw [if_neg fun h => hd h.2]
      exact ⟨fun h => absurd hu h, fun h => absurd (h hu) hd⟩
  · rw [if_neg fun h => hu h.1]
    exact ⟨fun _ h => absurd h hu, fun _ => hu⟩

theorem countP_seqNumber {l : List ResultEntry} (hnd : (l.map (·.seqNumber)).Nodup)
    {e : ResultEntry} (he : e ∈ l) : (l.countP fun x => x.seqNumber = e.seqNumber) = 1 := by
  have hcount := List.count_eq_one_of_mem hnd (List.mem_map_of_mem (f := (·.seqNumber)) he)
  rw [List.count, List.countP_map] at hcount
  rw [← hcount]
  refine List.countP_congr fun x _ => ?_
  simp

/-- The completed entries of the list are written, in its order, and removed. -/
theorem processEntries_eq {l : List ResultEntry} {s : State} (hl : (l.map (·.seqNumber)).Nodup)
    (hnd : (s.resultsMap.map (·.seqNumber)).Nodup) (hmem : ∀ e ∈ l, e ∈ s.resultsMap) :
    processEntries p l s = .ok { s with
      resultsMap := s.resultsMap.filter fun x =>
        x.seqNumber ∉ (l.filter (completed p s.now)).map (·.seqNumber)
      outstandingRequests := s.outstandingRequests - (l.filter (completed p s.now)).length
      written := s.written ++ (l.filter (completed p s.now)).map (timeOut p s.now) } := by
  induction l generalizing s with
  | nil =>
    unfold processEntries
    congr 1
    simp
  | cons e rest ih =>
    obtain ⟨hnew, hrest⟩ := List.nodup_cons.mp (List.map_cons ▸ hl)
    unfold processEntries
    simp only [timeOut_seqNumber]
    rw [countP_seqNumber hnd (hmem e List.mem_cons_self)]
    by_cases hc : (timeOut p s.now e).status ≠ .unknown
    · have hcompleted : completed p s.now e = true := decide_eq_true hc
      have hkept : ∀ x ∈ rest, x ∈ s.resultsMap.filter fun x => x.seqNumber ≠ e.seqNumber := by
        intro x hx
        refine List.mem_filter.mpr ⟨hmem x (List.mem_cons_of_mem _ hx), decide_eq_true ?_⟩
        intro heq
        exact hnew (heq ▸ List.mem_map_of_mem hx)
      have hmap : (s.resultsMap.filter fun x => x.seqNumber ≠ e.seqNumber).filter
          (fun x => x.seqNumber ∉ (rest.filter (completed p s.now)).map (·.seqNumber)) =
          s.resultsMap.filter fun x =>
            x.seqNumber ∉ (e :: rest.filter (completed p s.now)).map (·.seqNumber) := by
        rw [List.filter_filter]
        refine List.filter_congr fun x _ => ?_
        simp only [List.map_cons, List.mem_cons, not_or, Bool.decide_and]
        rw [Bool.and_comm]
      rw [if_pos hc, if_neg (not_not_intro rfl), ih hrest (hnd.sublist
        (List.filter_sublist.map _)) hkept, List.filter_cons_of_pos hcompleted]
      simp only [hmap, List.length_cons, List.map_cons, List.append_assoc, List.singleton_append,
        Nat.sub_sub, Nat.add_comm 1]
    · have hcompleted : ¬ completed p s.now e = true := fun h => hc (of_decide_eq_true h)
      rw [if_neg hc, ih hrest hnd fun x hx => hmem x (List.mem_cons_of_mem _ hx),
        List.filter_cons_of_neg hcompleted]

/-- The state after the results have been processed. -/
def processed (p : Parameters) (s : State) : State :=
  { s with
    resultsMap := s.resultsMap.filter fun e => !completed p s.now e
    outstandingRequests := s.outstandingRequests - s.resultsMap.countP (completed p s.now)
    written := s.written ++ ((s.resultsMap.insertionSort pingOrder).filter
      (completed p s.now)).map (timeOut p s.now)
    destinations := if p.removeDestinationAfterRun then [] else s.destinations
    destinationIterator := if p.removeDestinationAfterRun then none else s.destinationIterator }

/-- **No assertion of `processResults` fails.**  It writes and removes the completed entries. -/
theorem processResults_eq {s : State} (hnd : (s.resultsMap.map (·.seqNumber)).Nodup) :
    processResults p s = .ok (processed p s) := by
  have hperm := s.resultsMap.perm_insertionSort pingOrder
  have hsorted : ((s.resultsMap.insertionSort pingOrder).map (·.seqNumber)).Nodup :=
    (hperm.map _).nodup_iff.mpr hnd
  have hfilter : (s.resultsMap.filter fun x => decide (x.seqNumber ∉
      ((s.resultsMap.insertionSort pingOrder).filter (completed p s.now)).map (·.seqNumber))) =
      s.resultsMap.filter fun e => !completed p s.now e := by
    refine List.filter_congr fun x hx => ?_
    rw [Bool.eq_iff_iff, decide_eq_true_iff, Bool.not_eq_true']
    constructor
    · intro hnot
      by_contra hc
      apply hnot
      refine List.mem_map_of_mem (List.mem_filter.mpr ⟨hperm.mem_iff.mpr hx, ?_⟩)
      exact Bool.of_not_eq_false hc
    · intro hc hin
      obtain ⟨y, hy, hseq⟩ := List.mem_map.mp hin
      obtain ⟨hy, hcy⟩ := List.mem_filter.mp hy
      have hxy := List.inj_on_of_nodup_map hnd (hperm.mem_iff.mp hy) hx hseq
      rw [hxy, hc] at hcy
      cases hcy
  unfold processResults
  rw [processEntries_eq hsorted hnd fun e he => hperm.mem_iff.mp he]
  simp only [processed, hfilter, ← List.countP_eq_length_filter, hperm.countP_eq]
  by_cases hremove : p.removeDestinationAfterRun = true
  · rw [if_pos hremove, if_pos hremove, if_pos hremove]
  · rw [if_neg hremove, if_neg hremove, if_neg hremove]

/-! ## What the methods can do -/

/-- The service stops, if there is no further iteration. -/
theorem prepareRun_cases (newRound : Bool) (s : State) :
    ∃ timeoutTimer intervalTimer stopRequested,
      prepareRun p newRound s =
        ({ s with
            iterationNumber := (s.iterationNumber + 1) % 2 ^ 32
            timeoutTimer, intervalTimer, stopRequested
            runStartTimeStamp := s.now }, s.destinations.isEmpty) ∧
      ((p.iterations = 0 ∨ (s.iterationNumber + 1) % 2 ^ 32 ≤ p.iterations) ∧
          timeoutTimer = s.timeoutTimer ∧ intervalTimer = s.intervalTimer ∧
          stopRequested = s.stopRequested ∨
        (p.iterations > 0 ∧ (s.iterationNumber + 1) % 2 ^ 32 > p.iterations) ∧
          timeoutTimer = s.timeoutTimer.cancel ∧ intervalTimer = s.intervalTimer.cancel ∧
          stopRequested = true) := by
  simp only [prepareRun]
  split
  · next hlast => exact ⟨_, _, _, rfl, Or.inr ⟨hlast, rfl, rfl, rfl⟩⟩
  · next hmore => exact ⟨_, _, _, rfl, Or.inl ⟨by omega, rfl, rfl, rfl⟩⟩

/-- What `sendRequests` leads to, unless an assertion fails. -/
inductive SendResult (p : Parameters) (inputs : Inputs) (s : State) : State → Prop where
  | done (h : p.iterations > 0 ∧ s.iterationNumber > p.iterations) : SendResult p inputs s s
  /-- There is no destination. -/
  | waiting (targets : Nat → UInt32) (timeoutTimer intervalTimer : WaitTimer)
      (stopRequested : Bool) (hd : s.destinations = [])
      (h : timeoutTimer = s.timeoutTimer ∧ stopRequested = s.stopRequested ∨
        timeoutTimer = s.timeoutTimer.cancel ∧ stopRequested = true) :
      SendResult p inputs s { s with
        targetChecksumArray := targets, timeoutTimer, intervalTimer, stopRequested }
  | sent (hiteration : p.iterations = 0 ∨ s.iterationNumber ≤ p.iterations)
      (hd : s.destinations ≠ []) (targets : Nat → UInt32) (io : IOState) (n : Nat)
      (new : List ResultEntry) (milliseconds : Nat)
      (hburst : Burst p inputs s.destinations { s.toIOState with targetChecksumArray := targets }
        io n new)
      (hlast : p.iterations = s.iterationNumber → 0 < p.iterations →
        milliseconds = p.expiration) :
      SendResult p inputs s { s with
        toIOState := io
        outstandingRequests := s.outstandingRequests + n
        bursts := s.bursts + 1
        requested := s.requested ++ new
        timeoutTimer :=
          (s.timeoutTimer.expiresAt (io.now + milliseconds * 1000000)).asyncWait }

theorem sendRequests_result {inputs : Inputs} {s t : State} (h : sendRequests p inputs s = .ok t) :
    SendResult p inputs s t := by
  unfold sendRequests at h
  split at h
  · next hiteration =>
    simp only at h
    split at h
    · next hd =>
      split at h
      · cases h
      · split at h
        · cases h
        · next io n' hio =>
          obtain ⟨new, n, rfl, hburst⟩ := sendBurst_burst
            (fun _ => Or.inr (targetChecksum_lt s.seqNumber)) hio
          have hnew : io.resultsMap.drop s.resultsMap.length = new := by
            rw [hburst.resultsMap, List.drop_left]
          rw [hnew] at h
          cases h
          unfold scheduleTimeoutEvent
          split
          · exact .sent hiteration hd _ io n new _ hburst fun heq hpos => by
              simp only at *
              omega
          · exact .sent hiteration hd _ io n new _ hburst fun _ _ => rfl
    · next hd =>
      cases h
      obtain ⟨timeoutTimer, intervalTimer, stop, heq, hcases⟩ :=
        scheduleIntervalEvent_cases (p := p) inputs.random
          { s with targetChecksumArray := fun _ => targetChecksum p s.seqNumber }
      rw [heq]
      exact .waiting _ timeoutTimer intervalTimer stop (not_not.mp hd) hcases
  · cases h
    exact .done (by omega)

/-- `newResult`; in the last iteration, the last outstanding request cancels the timeout timer. -/
theorem newResult_eq (e : ResultEntry) (s : State) :
    newResult (methods p) e s =
      { s with
        outstandingRequests := s.outstandingRequests - 1
        lastHop := if e.status = .success then min s.lastHop e.hopNumber else s.lastHop
        completions := if s.outstandingRequests - 1 = 0 then s.completions + 1 else s.completions
        timeoutTimer :=
          if s.outstandingRequests - 1 = 0 ∧ p.iterations > 0 ∧
            s.iterationNumber ≥ p.iterations then s.timeoutTimer.cancel
          else s.timeoutTimer } := by
  have hmethod : (methods p).noMoreOutstandingRequests = noMoreOutstandingRequests p := rfl
  unfold newResult
  rw [hmethod]
  simp only [noMoreOutstandingRequests]
  by_cases hs : e.status = .success <;> by_cases ho : s.outstandingRequests - 1 = 0 <;>
    by_cases hi : p.iterations > 0 ∧ s.iterationNumber ≥ p.iterations <;>
    simp only [hs, ho, hi, if_true, if_false, and_self, and_true, and_false] <;> rfl

theorem nextWindow_cases {s t : State} {again : Bool}
    (h : s.nextWindow (methods p) = (t, again)) :
    again = false ∧ ∃ ttlCache, t = { s with ttlCache } := by
  obtain ⟨ttlCache, hcache, -⟩ := s.cacheLastHop_cases
  rcases s.nextWindow_cases (methods p) with heq | ⟨-, -, heq⟩
  · rw [heq, hcache] at h
    cases h
    exact ⟨rfl, ttlCache, rfl⟩
  · rw [heq, hcache] at h
    cases h
    exact ⟨rfl, ttlCache, rfl⟩

/-- What the timeout handler leads to, unless an assertion fails: the results are processed, and
the next burst is sent, or the interval timer is started. -/
inductive TimeoutOk (p : Parameters) (inputs : Inputs) (s t : State) : Prop where
  | stopped (hstop : s.stopRequested = true) (ht : t = s)
  | again (ttlCache : DestinationInfo → Option Nat) (u : State) (hstop : s.stopRequested = false)
      (hu : u = processed p { s with ttlCache }) (hd : u.destinations ≠ [])
      (hsend : sendRequests p inputs (prepareRun p false u).1 = .ok t)
  | last (ttlCache : DestinationInfo → Option Nat) (u : State) (hstop : s.stopRequested = false)
      (hu : u = processed p { s with ttlCache }) (hd : u.destinations = [])
      (ht : t = scheduleIntervalEvent p inputs.random (prepareRun p false u).1)

theorem handleTimeoutEvent_ok {inputs : Inputs} {s t : State}
    (hnd : (s.resultsMap.map (·.seqNumber)).Nodup)
    (h : handleTimeoutEvent p (methods p) inputs s = .ok t) : TimeoutOk p inputs s t := by
  have hdone : ∀ u, (prepareRun p false u).2 = u.destinations.isEmpty := by
    intro u
    obtain ⟨_, _, _, heq, -⟩ := prepareRun_cases (p := p) false u
    rw [heq]
  have hr := handleTimeoutEvent_result p (methods p) inputs s
  rw [h] at hr
  generalize hres : (Except.ok t : Except Assure State) = r at hr
  cases hr with
  | stopped hstop =>
    cases hres
    exact .stopped hstop rfl
  | again s' hstop hs => exact absurd (nextWindow_cases hs).1 (by decide)
  | failed s' a hstop hs hproc => cases hres
  | next s' u v hstop hs hproc hrun =>
    obtain ⟨-, ttlCache, rfl⟩ := nextWindow_cases hs
    have hu := hproc.symm.trans (processResults_eq (s := { s with ttlCache }) hnd)
    replace hrun : prepareRun p false u = (v, false) := hrun
    have hd := hdone u
    rw [hrun] at hd
    refine .again ttlCache u hstop (Except.ok.inj hu) ?_ (hrun ▸ hres.symm)
    intro hempty
    rw [hempty] at hd
    cases hd
  | last s' u v hstop hs hproc hrun =>
    obtain ⟨-, ttlCache, rfl⟩ := nextWindow_cases hs
    have hu := hproc.symm.trans (processResults_eq (s := { s with ttlCache }) hnd)
    replace hrun : prepareRun p false u = (v, true) := hrun
    have hd := hdone u
    rw [hrun] at hd
    exact .last ttlCache u hstop (Except.ok.inj hu) (List.isEmpty_iff.mp hd.symm)
      (hrun ▸ Except.ok.inj hres)

/-! ## Requests -/

/-- The requests of `s`, and later ones; those in `ResultsMap` are distinct. -/
structure Later (s t : State) : Prop where
  nodup : (t.resultsMap.map (·.seqNumber)).Nodup
  requested : s.requested <+: t.requested

theorem Later.sendRequests {inputs : Inputs} {s t : State}
    (hnd : (s.resultsMap.map (·.seqNumber)).Nodup) (h : sendRequests p inputs s = .ok t) :
    Later s t := by
  cases sendRequests_result h with
  | done _ => exact ⟨hnd, List.prefix_rfl⟩
  | waiting _ _ _ _ _ _ => exact ⟨hnd, List.prefix_rfl⟩
  | sent _ _ targets io n new _ hburst _ => exact ⟨hburst.nodup hnd, List.prefix_append _ _⟩

theorem processed_nodup {s : State} (hnd : (s.resultsMap.map (·.seqNumber)).Nodup) :
    ((processed p s).resultsMap.map (·.seqNumber)).Nodup :=
  hnd.sublist (List.filter_sublist.map _)

theorem Later.response {data : ReceivedData} {s t : State}
    (hnd : (s.resultsMap.map (·.seqNumber)).Nodup)
    (hr : ResponseResult p (methods p) data s t) : Later s t := by
  cases hr with
  | ignored => exact ⟨hnd, List.prefix_rfl⟩
  | later l₁ e l₂ hmap _ =>
    exact ⟨nodup_replaced (request_withSource data e) (hmap ▸ hnd), List.prefix_rfl⟩
  | first l₁ e e' l₂ hmap _ hrequest _ _ =>
    rw [newResult_eq]
    exact ⟨nodup_replaced hrequest (hmap ▸ hnd), List.prefix_rfl⟩

theorem prepareRun_requested (newRound : Bool) (s : State) :
    (prepareRun p newRound s).1.toIOState = s.toIOState ∧
      (prepareRun p newRound s).1.requested = s.requested := by
  obtain ⟨_, _, _, heq, -⟩ := prepareRun_cases (p := p) newRound s
  rw [heq]
  exact ⟨rfl, rfl⟩

theorem Later.step {s t : State} {event : Event} (hnd : (s.resultsMap.map (·.seqNumber)).Nodup)
    (hs : step p (methods p) s event = .ok t) : Later s t := by
  have hr := step_result p (methods p) s event
  rw [hs] at hr
  generalize hres : (Except.ok t : Except Assure State) = r at hr
  cases hr with
  | quiet _ _ _ _ _ _ _ _ _ _ _ =>
    cases hres
    exact ⟨hnd, List.prefix_rfl⟩
  | restart _ intervalTimer _ _ =>
    cases hres
    obtain ⟨hio, hreq⟩ := prepareRun_requested (p := p) true { s with intervalTimer }
    refine ⟨?_, ?_⟩
    · show ((prepareRun p true { s with intervalTimer }).1.resultsMap.map _).Nodup
      rw [hio]
      exact hnd
    · show s.requested <+: (prepareRun p true { s with intervalTimer }).1.requested
      rw [hreq]
  | burst inputs hpc =>
    obtain ⟨hnd', hreq⟩ := Later.sendRequests (s := { s with pc := .idle }) hnd hres.symm
    exact ⟨hnd', hreq⟩
  | timeout aborted inputs timer s' hpc htake hs' =>
    have hnd' : (s'.resultsMap.map (·.seqNumber)).Nodup := by rw [hs']; exact hnd
    have hreq : s'.requested = s.requested := by rw [hs']
    cases handleTimeoutEvent_ok hnd' hres.symm with
    | stopped _ ht =>
      rw [ht]
      exact ⟨hnd', hreq ▸ List.prefix_rfl⟩
    | again ttlCache u _ hu hd hsend =>
      obtain ⟨hio, hrequ⟩ := prepareRun_requested (p := p) false u
      have hu' : u.requested = s.requested := by rw [hu]; exact hreq
      have hndu : ((Ping.prepareRun p false u).1.resultsMap.map (·.seqNumber)).Nodup := by
        rw [hio, hu]
        exact processed_nodup (s := { s' with ttlCache }) hnd'
      have hlater := Later.sendRequests hndu hsend
      refine ⟨hlater.nodup, ?_⟩
      rw [← hu', ← hrequ]
      exact hlater.requested
    | last ttlCache u _ hu hd ht =>
      obtain ⟨hio, hrequ⟩ := prepareRun_requested (p := p) false u
      obtain ⟨_, _, _, heq, -⟩ := scheduleIntervalEvent_cases (p := p) inputs.random
        (Ping.prepareRun p false u).1
      have hu' : u.requested = s.requested := by rw [hu]; exact hreq
      rw [ht, heq]
      refine ⟨?_, ?_⟩
      · show ((Ping.prepareRun p false u).1.resultsMap.map (·.seqNumber)).Nodup
        rw [hio, hu]
        exact processed_nodup (s := { s' with ttlCache }) hnd'
      · show s.requested <+: (Ping.prepareRun p false u).1.requested
        rw [hrequ, hu']
  | response message data hpc =>
    cases hres
    exact Later.response hnd (handleResponse_result _ message data hnd)

end Ping

end HiPerConTracer.Service
