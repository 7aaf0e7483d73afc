import HiPerConTracer.Service.Steps

/-!
# What the methods of Traceroute can do

The cases of each method, with the state after it written as an update of the state before it.
-/

namespace HiPerConTracer.Service
open Net IOModule

variable {p : Parameters}

/-! ## Handlers that Ping shares -/

/-- A cache with the last hop for some destinations, and for the others as it was. -/
def CacheUpdate (s : State) (ttlCache : DestinationInfo → Option Nat) : Prop :=
  ∀ d ttl, ttlCache d = some ttl → ttl = s.lastHop ∨ s.ttlCache d = some ttl

theorem State.cacheLastHop_cases (s : State) :
    ∃ ttlCache, s.cacheLastHop = { s with ttlCache } ∧ CacheUpdate s ttlCache := by
  unfold State.cacheLastHop
  split
  · next d hd =>
    refine ⟨_, rfl, fun x ttl hx => ?_⟩
    split at hx
    · exact Or.inl (Option.some.inj hx).symm
    · exact Or.inr hx
  · exact ⟨s.ttlCache, rfl, fun _ _ => Or.inr⟩

/-- The interval timer is started, or the service stops. -/
theorem scheduleIntervalEvent_cases (random : Nat) (s : State) :
    ∃ timeoutTimer intervalTimer stopRequested,
      scheduleIntervalEvent p random s = { s with timeoutTimer, intervalTimer, stopRequested } ∧
      (timeoutTimer = s.timeoutTimer ∧ stopRequested = s.stopRequested ∨
        timeoutTimer = s.timeoutTimer.cancel ∧ stopRequested = true) := by
  unfold scheduleIntervalEvent
  split
  · exact ⟨s.timeoutTimer, _, s.stopRequested, rfl, Or.inl ⟨rfl, rfl⟩⟩
  · exact ⟨_, _, true, rfl, Or.inr ⟨rfl, rfl⟩⟩

/-- What a response leads to; a later response to a request does not change its status. -/
inductive ResponseResult (p : Parameters) (m : Methods) (data : ReceivedData) (s : State) :
    State → Prop where
  | ignored : ResponseResult p m data s s
  | later (l₁ : List ResultEntry) (e : ResultEntry) (l₂ : List ResultEntry)
      (hmap : s.resultsMap = l₁ ++ e :: l₂) (hstatus : e.status ≠ .unknown) :
      ResponseResult p m data s { s with resultsMap := l₁ ++ withSource data e :: l₂ }
  | first (l₁ : List ResultEntry) (e e' : ResultEntry) (l₂ : List ResultEntry)
      (hmap : s.resultsMap = l₁ ++ e :: l₂) (hunknown : e.status = .unknown)
      (hrequest : e'.request = e.request) (hhop : e'.hop = data.replyAddress.dropScopeID)
      (hstatus : e'.status.isResponse = true) :
      ResponseResult p m data s (newResult m e' { s with resultsMap := l₁ ++ e' :: l₂ })

theorem handleResponse_result (m : Methods) (message : Message) (data : ReceivedData) {s : State}
    (hnd : (s.resultsMap.map (·.seqNumber)).Nodup) :
    ResponseResult p m data s (handleResponse p m message data s) := by
  unfold handleResponse
  split
  · exact .ignored
  · next icmpType icmpCode seqNumber length hm =>
    have hr := p.io.recordResult_recorded data icmpType icmpCode seqNumber length hnd
    generalize p.io.recordResult data icmpType icmpCode seqNumber length s.resultsMap = r at hr
    generalize hl : s.resultsMap = l at hr
    cases hr with
    | ignored =>
      simp only
      rw [← hl]
      exact .ignored
    | later l₁ e l₂ hs => exact .later l₁ e l₂ hl hs
    | first l₁ e l₂ hs =>
      refine .first l₁ e _ l₂ hl hs ?_ rfl ?_
      · rw [request_answered, request_withSource]
      · rw [status_answered]
        exact p.io.handlePayloadResponse_isResponse hm

namespace Traceroute

/-! ## Methods -/

/-- `MaxTTL` at the begin of a run. -/
def initialTTL (p : Parameters) (s : State) : Option DestinationInfo → Nat
  | some d => getInitialMaxTTL p s d
  | none => p.initialMaxTTL

theorem prepareRun_cases (newRound : Bool) (s : State) :
    ∃ iterationNumber destinationIterator destinations targets,
      prepareRun p newRound s =
        ({ s with
            iterationNumber, destinationIterator, destinations
            targetChecksumArray := targets
            resultsMap := []
            windows := []
            minTTL := 1
            maxTTL := initialTTL p s destinationIterator
            lastHop := noLastHop
            outstandingRequests := 0
            runStartTimeStamp := s.now }, destinationIterator.isNone) ∧
      (targets = s.targetChecksumArray ∨ targets = fun _ => 0xffffffff) := by
  unfold prepareRun initialTTL
  split
  · exact ⟨_, _, _, _, rfl, Or.inr rfl⟩
  · split
    · exact ⟨_, _, _, _, rfl, Or.inl rfl⟩
    · split
      · exact ⟨_, _, _, _, rfl, Or.inl rfl⟩
      · exact ⟨_, _, _, _, rfl, Or.inl rfl⟩

/-- What `prepareRun` sets, and what it keeps. -/
structure Prepared (s : State) (r : State × Bool) : Prop where
  resultsMap : r.1.resultsMap = []
  windows : r.1.windows = []
  minTTL : r.1.minTTL = 1
  pc : r.1.pc = s.pc
  stopRequested : r.1.stopRequested = s.stopRequested
  timeoutTimer : r.1.timeoutTimer = s.timeoutTimer
  roundsWritten : r.1.roundsWritten = s.roundsWritten
  done : r.2 = r.1.destinationIterator.isNone

theorem prepareRun_prepared (newRound : Bool) (s : State) :
    Prepared s (prepareRun p newRound s) := by
  obtain ⟨_, _, _, _, heq, -⟩ := prepareRun_cases (p := p) newRound s
  rw [heq]
  exact ⟨rfl, rfl, rfl, rfl, rfl, rfl, rfl, rfl⟩

/-- The next window of TTLs. -/
theorem nextWindow_true {s t : State} (h : s.nextWindow (methods p) = (t, true)) :
    (∃ d, s.destinationIterator = some d) ∧ s.lastHop = noLastHop ∧ s.maxTTL < p.finalMaxTTL ∧
    ∃ ttlCache, CacheUpdate s ttlCache ∧
      t = { s with
        ttlCache
        minTTL := (s.maxTTL + 1) % 2 ^ 32
        maxTTL := min ((s.maxTTL + p.incrementMaxTTL) % 2 ^ 32) p.finalMaxTTL } := by
  obtain ⟨ttlCache, hcache, hold⟩ := s.cacheLastHop_cases
  obtain heq | ⟨hd, hlast, heq⟩ := s.nextWindow_cases (methods p)
  · rw [heq] at h
    cases h
  · rw [heq, hcache] at h
    change notReachedWithCurrentTTL p _ = _ at h
    unfold notReachedWithCurrentTTL at h
    split at h
    · next hlt =>
      cases h
      exact ⟨hd, hlast, hlt, ttlCache, hold, rfl⟩
    · cases h

/-- No further window: the destination has been reached, or the TTL is at its maximum. -/
theorem nextWindow_false {s t : State} (h : s.nextWindow (methods p) = (t, false)) :
    ∃ ttlCache, CacheUpdate s ttlCache ∧ t = { s with ttlCache } := by
  obtain ⟨ttlCache, hcache, hold⟩ := s.cacheLastHop_cases
  refine ⟨ttlCache, hold, ?_⟩
  obtain heq | ⟨hd, hlast, heq⟩ := s.nextWindow_cases (methods p)
  · rw [heq, hcache] at h
    cases h
    rfl
  · rw [heq, hcache] at h
    change notReachedWithCurrentTTL p _ = _ at h
    unfold notReachedWithCurrentTTL at h
    split at h
    · cases h
    · cases h
      rfl

/-- What `sendRequests` leads to, unless an assertion fails. -/
inductive SendResult (p : Parameters) (inputs : Inputs) (s : State) : State → Prop where
  /-- There is no destination. -/
  | waiting (timeoutTimer intervalTimer : WaitTimer) (stopRequested : Bool)
      (hd : s.destinationIterator = none)
      (h : timeoutTimer = s.timeoutTimer ∧ stopRequested = s.stopRequested ∨
        timeoutTimer = s.timeoutTimer.cancel ∧ stopRequested = true) :
      SendResult p inputs s { s with timeoutTimer, intervalTimer, stopRequested }
  /-- The traffic class could not be set. -/
  | skipped (d : DestinationInfo) (hd : s.destinationIterator = some d)
      (htc : inputs.trafficClassSet 0 = false) :
      SendResult p inputs s { s with
        windows := s.windows ++ [(s.minTTL, s.maxTTL)]
        timeoutTimer := (s.timeoutTimer.expiresAt (s.now + p.expiration * 1000000)).asyncWait }
  | sent (d : DestinationInfo) (hd : s.destinationIterator = some d) (hmin : 0 < s.minTTL)
      (hle : s.minTTL ≤ s.maxTTL) (io : IOState) (n : Nat) (new : List ResultEntry)
      (h : Sent p.io d (roundsAndTTLs s.maxTTL s.minTTL 0 (p.rounds - 1)) s.toIOState io n new) :
      SendResult p inputs s { s with
        toIOState := io
        outstandingRequests := s.outstandingRequests + n
        requested := s.requested ++ new
        windows := s.windows ++ [(s.minTTL, s.maxTTL)]
        timeoutTimer := (s.timeoutTimer.expiresAt (io.now + p.expiration * 1000000)).asyncWait }

theorem sendRequests_result {inputs : Inputs} {s t : State}
    (hgood : GoodTargets s.targetChecksumArray) (h : sendRequests p inputs s = .ok t) :
    SendResult p inputs s t := by
  unfold sendRequests at h
  split at h
  · next d hd =>
    split at h
    · cases h
    · next hmin =>
      split at h
      · cases h
      · next io n hio =>
        cases h
        unfold State.startTimeoutTimer
        rcases sendRequest_cases hgood hio with ⟨htc, rfl, rfl⟩ | ⟨-, hle, new, hsent⟩
        · rw [List.drop_length, List.append_nil]
          exact .skipped d hd htc
        · rw [hsent.resultsMap, List.drop_left]
          exact .sent d hd (by omega) hle io n new hsent
  · next hd =>
    cases h
    obtain ⟨timeoutTimer, intervalTimer, stop, heq, hcases⟩ :=
      scheduleIntervalEvent_cases (p := p) inputs.random s
    rw [heq]
    exact .waiting timeoutTimer intervalTimer stop hd hcases

theorem SendResult.pc {inputs : Inputs} {s t : State} (h : SendResult p inputs s t) :
    t.pc = s.pc := by
  cases h <;> rfl

theorem processResults_cases {s t : State} (h : processResults p s = .ok t) :
    ∃ resultsMap rounds,
      processRounds p s.now (s.resultsMap.insertionSort tracerouteOrder) 0
        (List.range p.rounds) = .ok (resultsMap, rounds) ∧
      t = { s with resultsMap, roundsWritten := s.roundsWritten ++ rounds } := by
  unfold processResults at h
  split at h
  · cases h
  · next resultsMap rounds hr =>
    cases h
    exact ⟨resultsMap, rounds, hr, rfl⟩

/-- What the timeout handler leads to, unless an assertion fails: it sends the next window, or it
processes the results and prepares a new run. -/
inductive TimeoutOk (p : Parameters) (inputs : Inputs) (s t : State) : Prop where
  | stopped (hstop : s.stopRequested = true) (ht : t = s)
  | again (ttlCache : DestinationInfo → Option Nat) (u : State) (hcache : CacheUpdate s ttlCache)
      (hstop : s.stopRequested = false) (hd : ∃ d, s.destinationIterator = some d)
      (hlast : s.lastHop = noLastHop) (hlt : s.maxTTL < p.finalMaxTTL)
      (hu : u = { s with
        ttlCache
        minTTL := (s.maxTTL + 1) % 2 ^ 32
        maxTTL := min ((s.maxTTL + p.incrementMaxTTL) % 2 ^ 32) p.finalMaxTTL })
      (hsend : sendRequests p inputs u = .ok t)
  | next (ttlCache : DestinationInfo → Option Nat) (resultsMap : List ResultEntry)
      (rounds : List Round) (u : State) (hcache : CacheUpdate s ttlCache)
      (hstop : s.stopRequested = false)
      (hrounds : processRounds p s.now (s.resultsMap.insertionSort tracerouteOrder) 0
        (List.range p.rounds) = .ok (resultsMap, rounds))
      (hu : u = { s with ttlCache, resultsMap, roundsWritten := s.roundsWritten ++ rounds })
      (hsend : sendRequests p inputs (prepareRun p false u).1 = .ok t)
  | last (ttlCache : DestinationInfo → Option Nat) (resultsMap : List ResultEntry)
      (rounds : List Round) (u : State) (hcache : CacheUpdate s ttlCache)
      (hstop : s.stopRequested = false)
      (hrounds : processRounds p s.now (s.resultsMap.insertionSort tracerouteOrder) 0
        (List.range p.rounds) = .ok (resultsMap, rounds))
      (hu : u = { s with ttlCache, resultsMap, roundsWritten := s.roundsWritten ++ rounds })
      (ht : t = scheduleIntervalEvent p inputs.random (prepareRun p false u).1)

theorem handleTimeoutEvent_ok {inputs : Inputs} {s t : State}
    (h : handleTimeoutEvent p (methods p) inputs s = .ok t) : TimeoutOk p inputs s t := by
  have hr := handleTimeoutEvent_result p (methods p) inputs s
  rw [h] at hr
  generalize hres : (Except.ok t : Except Assure State) = r at hr
  cases hr with
  | stopped hstop =>
    cases hres
    exact .stopped hstop rfl
  | again s' hstop hs =>
    obtain ⟨hd, hlast, hlt, ttlCache, hcache, hu⟩ := nextWindow_true hs
    exact .again ttlCache s' hcache hstop hd hlast hlt hu hres.symm
  | failed s' a hstop hs hproc => cases hres
  | next s' u v hstop hs hproc hrun =>
    obtain ⟨ttlCache, hcache, rfl⟩ := nextWindow_false hs
    obtain ⟨resultsMap, rounds, hrounds, hu⟩ := processResults_cases hproc
    have hv : (prepareRun p false u).1 = v := congrArg Prod.fst hrun
    exact .next ttlCache resultsMap rounds u hcache hstop hrounds hu (hv ▸ hres.symm)
  | last s' u v hstop hs hproc hrun =>
    obtain ⟨ttlCache, hcache, rfl⟩ := nextWindow_false hs
    obtain ⟨resultsMap, rounds, hrounds, hu⟩ := processResults_cases hproc
    have hv : (prepareRun p false u).1 = v := congrArg Prod.fst hrun
    exact .last ttlCache resultsMap rounds u hcache hstop hrounds hu (hv ▸ Except.ok.inj hres)

/-- `newResult`; the last outstanding request cancels the timeout timer. -/
theorem newResult_eq (e : ResultEntry) (s : State) :
    newResult (methods p) e s =
      { s with
        outstandingRequests := s.outstandingRequests - 1
        lastHop := if e.status = .success then min s.lastHop e.hopNumber else s.lastHop
        completions := if s.outstandingRequests - 1 = 0 then s.completions + 1 else s.completions
        timeoutTimer := if s.outstandingRequests - 1 = 0 then s.timeoutTimer.cancel
          else s.timeoutTimer } := by
  unfold newResult
  by_cases hs : e.status = .success <;> by_cases ho : s.outstandingRequests - 1 = 0 <;>
    simp only [hs, ho, if_true, if_false] <;> rfl

end Traceroute

end HiPerConTracer.Service
