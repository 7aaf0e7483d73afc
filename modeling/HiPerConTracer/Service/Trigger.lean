import HiPerConTracer.Service.Ping

/-!
# Destinations of a triggered Ping service (`hpct-trigger.cc`, `ping.cc`)

With `RemoveDestinationAfterRun`, `addDestination` is called by one thread at any time, and
`processResults` removes all destinations, whether requests have been sent to them or not.  A
destination stays until a request has been sent to it exactly if it is added while no results have
to be processed before the next burst:

    Measured p d s ↔ s.pc = .prepared ∨ s.timeoutTimer.outstanding = 0 ∨ s.stopRequested = true
                                                                          (added_measured_iff)
-/

namespace HiPerConTracer.Service
open Net IOModule

namespace Ping
variable {p : Parameters}

/-! ## Measured destinations -/

/-- The burst that the event may send gets a request out to each destination. -/
def Sends (p : Parameters) (event : Event) : Prop :=
  ∀ inputs, (event = .sendRequests inputs ∨ ∃ aborted, event = .timeoutEvent aborted inputs) →
    ∀ k, GetsOut p inputs k

/-- A request has been sent to the destination since `u`. -/
def SentSince (u : State) (d : DestinationInfo) (t : State) : Prop :=
  ∃ new, t.requested = u.requested ++ new ∧
    ∃ e ∈ new, e.destination = { d with address := d.address.dropScopeID } ∧ e.status = .unknown

/-- When the destination is added, it stays until a request has been sent to it. -/
def Measured (p : Parameters) (d : DestinationInfo) (u : State) : Prop :=
  ∀ after t, (∀ event ∈ after, Sends p event) →
    Run.exec (step p (methods p)) (addDestination p d u) after = .ok t →
      d ∈ t.destinations ∨ SentSince u d t

theorem SentSince.later {u s t : State} {d : DestinationInfo} (h : SentSince u d s)
    (hlater : Later s t) : SentSince u d t := by
  obtain ⟨new, hs, e, he, hd⟩ := h
  obtain ⟨new', ht⟩ := hlater.requested
  refine ⟨new ++ new', ?_, e, List.mem_append_left _ he, hd⟩
  rw [← ht, hs, List.append_assoc]

/-! ## Destinations that wait for a burst -/

/-- There is a burst to be sent before results are processed. -/
def BurstFirst (p : Parameters) (s : State) : Prop :=
  s.stopRequested = true ∨
    s.pc = .prepared ∧ (p.iterations = 0 ∨ s.iterationNumber ≤ p.iterations) ∨
    s.pc ≠ .prepared ∧ s.timeoutTimer.outstanding = 0

/-- No request has been sent since `u`, and the destination waits for the next burst. -/
structure Unsent (p : Parameters) (d : DestinationInfo) (u s : State) : Prop where
  nodup : (s.resultsMap.map (·.seqNumber)).Nodup
  mem : d ∈ s.destinations
  requested : s.requested = u.requested
  burstFirst : BurstFirst p s

theorem addDestination_cases (d : DestinationInfo) (s : State) :
    ∃ intervalTimer destinations, addDestination p d s = { s with intervalTimer, destinations } ∧
      (∀ x ∈ s.destinations, x ∈ destinations) ∧ (added p d s = true → d ∈ destinations) := by
  unfold addDestination added
  by_cases hfamily : d.address.isV6 = p.io.sourceAddress.isV6
  · rw [if_pos hfamily]
    by_cases hmem : d ∈ s.destinations
    · rw [if_pos hmem]
      exact ⟨_, _, rfl, fun x hx => hx, fun _ => hmem⟩
    · rw [if_neg hmem]
      have hkeep : ∀ x ∈ s.destinations, x ∈ s.destinations.orderedInsert (· ≤ ·) d :=
        fun x hx => (List.mem_orderedInsert _).mpr (Or.inr hx)
      have hnew : d ∈ s.destinations.orderedInsert (· ≤ ·) d :=
        (List.mem_orderedInsert _).mpr (Or.inl rfl)
      by_cases hend : s.destinationIterator = none
      · rw [if_pos hend]
        exact ⟨_, _, rfl, hkeep, fun _ => hnew⟩
      · rw [if_neg hend]
        exact ⟨_, _, rfl, hkeep, fun _ => hnew⟩
  · rw [if_neg hfamily]
    refine ⟨_, _, rfl, fun x hx => hx, fun h => ?_⟩
    exact absurd (of_decide_eq_true (Bool.and_eq_true_iff.mp h).1) hfamily

/-- A burst is sent to the destination, or the service is done. -/
theorem Unsent.sendRequests {d : DestinationInfo} {u s t : State} {inputs : Inputs}
    (h : Unsent p d u s) (hpc : s.pc = .prepared) (hget : ∀ k, GetsOut p inputs k)
    (hsend : sendRequests p inputs { s with pc := .idle } = .ok t) :
    Unsent p d u t ∨ SentSince u d t := by
  cases sendRequests_result hsend with
  | done hdone =>
    refine Or.inl ⟨h.nodup, h.mem, h.requested, Or.inl ?_⟩
    rcases h.burstFirst with hstop | ⟨-, hiteration⟩ | ⟨hne, -⟩
    · exact hstop
    · replace hdone : p.iterations > 0 ∧ s.iterationNumber > p.iterations := hdone
      omega
    · exact absurd hpc hne
  | waiting _ _ _ _ hempty _ =>
    replace hempty : s.destinations = [] := hempty
    exact absurd (hempty ▸ h.mem) List.not_mem_nil
  | sent _ _ targets io n new _ hburst _ =>
    obtain ⟨e, he, hd⟩ := hburst.reached hget d h.mem
    refine Or.inr ⟨new, ?_, e, he, hd⟩
    show s.requested ++ new = u.requested ++ new
    rw [h.requested]

theorem Unsent.response {d : DestinationInfo} {data : ReceivedData} {u s t : State}
    (h : Unsent p d u s) (hr : ResponseResult p (methods p) data s t) : Unsent p d u t := by
  have hnd := (Later.response h.nodup hr).nodup
  cases hr with
  | ignored => exact h
  | later _ _ _ _ _ => exact ⟨hnd, h.mem, h.requested, h.burstFirst⟩
  | first l₁ e e' l₂ _ _ _ _ _ =>
    rw [newResult_eq] at hnd ⊢
    refine ⟨hnd, h.mem, h.requested, ?_⟩
    rcases h.burstFirst with hstop | hprepared | ⟨hne, hout⟩
    · exact Or.inl hstop
    · exact Or.inr (Or.inl hprepared)
    · refine Or.inr (Or.inr ⟨hne, ?_⟩)
      show (if _ then s.timeoutTimer.cancel else s.timeoutTimer).outstanding = 0
      split
      · rw [WaitTimer.cancel_outstanding, hout]
      · exact hout

/-- **A step.**  The destination waits on, or a request is sent to it. -/
theorem Unsent.step {d : DestinationInfo} {u s t : State} {event : Event} (h : Unsent p d u s)
    (hget : Sends p event) (hs : Service.step p (methods p) s event = .ok t) :
    Unsent p d u t ∨ SentSince u d t := by
  have hr := step_result p (methods p) s event
  rw [hs] at hr
  generalize hres : (Except.ok t : Except Assure State) = r at hr
  cases hr with
  | quiet _ now timeoutTimer intervalTimer stop destinations _ htimeout _ hstop hdestinations =>
    have hmem : d ∈ destinations := by
      rcases hdestinations with rfl | ⟨x, rfl⟩
      · exact h.mem
      · obtain ⟨_, destinations', heq, hkeep, -⟩ :=
          addDestination_cases (p := p) x s
        have hadd : Except.ok t = (Except.ok (addDestination p x s) : Except Assure State) :=
          hs.symm
        rw [hres, heq] at hadd
        have hd : destinations = destinations' :=
          congrArg State.destinations (Except.ok.inj hadd)
        exact hd ▸ hkeep d h.mem
    cases hres
    refine Or.inl ⟨h.nodup, hmem, h.requested, ?_⟩
    rcases h.burstFirst with hstopped | hprepared | ⟨hne, hout⟩
    · rcases hstop with rfl | ⟨-, rfl⟩
      · exact Or.inl hstopped
      · exact Or.inl rfl
    · exact Or.inr (Or.inl hprepared)
    · refine Or.inr (Or.inr ⟨hne, ?_⟩)
      show timeoutTimer.outstanding = 0
      rcases htimeout with rfl | rfl | ⟨-, rfl⟩
      · exact hout
      · rw [WaitTimer.expire_outstanding, hout]
      · rw [WaitTimer.cancel_outstanding, hout]
  | restart _ intervalTimer _ _ =>
    cases hres
    obtain ⟨_, _, stop, heq, hcases⟩ := prepareRun_cases (p := p) true { s with intervalTimer }
    replace heq : (methods p).prepareRun true { s with intervalTimer } = _ := heq
    rw [heq]
    refine Or.inl ⟨h.nodup, h.mem, h.requested, ?_⟩
    rcases hcases with ⟨hmore, -⟩ | ⟨-, -, -, hstop⟩
    · exact Or.inr (Or.inl ⟨rfl, hmore⟩)
    · exact Or.inl hstop
  | burst inputs hpc => exact h.sendRequests hpc (hget inputs (Or.inl rfl)) hres.symm
  | timeout aborted inputs timer s' hpc htake hs' =>
    have hstop : s.stopRequested = true := by
      rcases h.burstFirst with hstop | ⟨hprepared, -⟩ | ⟨-, hout⟩
      · exact hstop
      · rw [hpc] at hprepared
        cases hprepared
      · have := WaitTimer.take_outstanding htake
        omega
    have hstop' : s'.stopRequested = true := by rw [hs']; exact hstop
    rw [handleTimeoutEvent_eq, if_pos hstop'] at hres
    cases hres
    rw [hs']
    exact Or.inl ⟨h.nodup, h.mem, h.requested, Or.inl hstop⟩
  | response message data hpc =>
    cases hres
    exact Or.inl (h.response (handleResponse_result _ message data h.nodup))

/-- **A run.**  As long as no request has been sent to the destination, it stays. -/
theorem Unsent.exec {d : DestinationInfo} {u s t : State} {events : List Event}
    (h : Unsent p d u s) (hget : ∀ event ∈ events, Sends p event)
    (hrun : Run.exec (Service.step p (methods p)) s events = .ok t) :
    Unsent p d u t ∨ SentSince u d t := by
  have hstep : ∀ s event t,
      (s.resultsMap.map (·.seqNumber)).Nodup ∧ (Unsent p d u s ∨ SentSince u d s) →
      Sends p event → Service.step p (methods p) s event = .ok t →
      (t.resultsMap.map (·.seqNumber)).Nodup ∧ (Unsent p d u t ∨ SentSince u d t) := by
    intro s event t ⟨hnd, hwait⟩ hsends hst
    have hlater := Later.step hnd hst
    refine ⟨hlater.nodup, ?_⟩
    rcases hwait with hun | hsent
    · exact hun.step hsends hst
    · exact Or.inr (hsent.later hlater)
  have hmeets := Run.meets_of_forall (Service.step p (methods p))
    (C := fun _ event => Sends p event) (fun event he _ => hget event he) s
  exact (Run.exec_invariant hstep ⟨h.nodup, Or.inl h⟩ hmeets hrun).2

/-! ## The states of a run -/

/-- Nothing waits for a response before the first burst, and a burst is prepared for an iteration
that takes place, unless the service stops. -/
structure Ready (p : Parameters) (s : State) : Prop where
  nodup : (s.resultsMap.map (·.seqNumber)).Nodup
  starting : s.pc = .starting → s.timeoutTimer.outstanding = 0
  prepared : s.pc = .prepared →
    s.stopRequested = true ∨ p.iterations = 0 ∨ s.iterationNumber ≤ p.iterations

theorem SendResult.pc {inputs : Inputs} {s t : State} (h : SendResult p inputs s t) :
    t.pc = s.pc := by
  cases h <;> rfl

theorem response_pc {data : ReceivedData} {s t : State}
    (hr : ResponseResult p (methods p) data s t) : t.pc = s.pc := by
  cases hr with
  | ignored => rfl
  | later _ _ _ _ _ => rfl
  | first _ _ _ _ _ _ _ _ _ => rw [newResult_eq]

theorem Ready.of_idle {s : State} (hnd : (s.resultsMap.map (·.seqNumber)).Nodup)
    (hpc : s.pc = .idle) : Ready p s := by
  refine ⟨hnd, fun h => ?_, fun h => ?_⟩ <;>
  · rw [hpc] at h
    cases h

theorem Ready.step {s t : State} {event : Event} (h : Ready p s)
    (hs : Service.step p (methods p) s event = .ok t) : Ready p t := by
  have hnd := (Later.step h.nodup hs).nodup
  have hr := step_result p (methods p) s event
  rw [hs] at hr
  generalize hres : (Except.ok t : Except Assure State) = r at hr
  cases hr with
  | quiet _ now timeoutTimer intervalTimer stop _ _ htimeout _ hstop _ =>
    cases hres
    refine ⟨hnd, fun hpc => ?_, fun hpc => ?_⟩
    · have hout := h.starting hpc
      show timeoutTimer.outstanding = 0
      rcases htimeout with rfl | rfl | ⟨-, rfl⟩
      · exact hout
      · rw [WaitTimer.expire_outstanding, hout]
      · rw [WaitTimer.cancel_outstanding, hout]
    · rcases hstop with rfl | ⟨-, rfl⟩
      · exact h.prepared hpc
      · exact Or.inl rfl
  | restart _ intervalTimer _ _ =>
    cases hres
    obtain ⟨_, _, stop, heq, hcases⟩ := prepareRun_cases (p := p) true { s with intervalTimer }
    replace heq : (methods p).prepareRun true { s with intervalTimer } = _ := heq
    rw [heq] at hnd ⊢
    refine ⟨hnd, fun hpc => (by cases hpc), fun _ => ?_⟩
    rcases hcases with ⟨hmore, -⟩ | ⟨-, -, -, hstop⟩
    · exact Or.inr hmore
    · exact Or.inl hstop
  | burst inputs hpc => exact .of_idle hnd (sendRequests_result hres.symm).pc
  | timeout aborted inputs timer s' hpc htake hs' =>
    have hpc' : s'.pc = .idle := by rw [hs', hpc]
    refine .of_idle hnd ?_
    cases handleTimeoutEvent_ok (by rw [hs']; exact h.nodup) hres.symm with
    | stopped _ ht => rw [ht, hpc']
    | again ttlCache u _ hu _ hsend =>
      obtain ⟨_, _, _, heq, -⟩ := prepareRun_cases (p := p) false u
      rw [(sendRequests_result hsend).pc, heq, hu]
      exact hpc'
    | last ttlCache u _ hu _ ht =>
      obtain ⟨_, _, _, heq, -⟩ := prepareRun_cases (p := p) false u
      obtain ⟨_, _, _, heq', -⟩ := scheduleIntervalEvent_cases (p := p) inputs.random
        (prepareRun p false u).1
      rw [ht, heq', heq, hu]
      exact hpc'
  | response message data hpc =>
    cases hres
    exact .of_idle hnd ((response_pc (handleResponse_result _ message data h.nodup)).trans hpc)

theorem Ready.exec {now : Nat} {seqNumber : UInt16} {destinations : List DestinationInfo}
    {events : List Event} {s : State}
    (h : Run.exec (Service.step p (methods p)) (State.start p now seqNumber destinations) events =
      .ok s) : Ready p s := by
  have hstart : Ready p (State.start p now seqNumber destinations) :=
    ⟨List.nodup_nil, fun _ => rfl, fun hpc => by cases hpc⟩
  exact Run.exec_invariant (fun _ _ _ hs _ hst => Ready.step hs hst) hstart
    (Run.meets_true _ _ _) h

/-! ## Removal -/

/-- A timeout event removes all destinations, and sends nothing. -/
theorem timeoutEvent_removes (hremove : p.removeDestinationAfterRun = true) {aborted : Bool}
    (inputs : Inputs) {s : State} {timer : WaitTimer}
    (hnd : (s.resultsMap.map (·.seqNumber)).Nodup) (hpc : s.pc = .idle)
    (hstop : s.stopRequested = false) (htake : s.timeoutTimer.take aborted = some timer) :
    ∃ t, Service.step p (methods p) s (.timeoutEvent aborted inputs) = .ok t ∧
      t.destinations = [] ∧ t.requested = s.requested := by
  have hstep : Service.step p (methods p) s (.timeoutEvent aborted inputs) =
      handleTimeoutEvent p (methods p) inputs { s with timeoutTimer := timer } := by
    simp only [Service.step, hpc, htake]
  obtain ⟨ttlCache, hcache, -⟩ := State.cacheLastHop_cases { s with timeoutTimer := timer }
  have hwindow : State.nextWindow (methods p) { s with timeoutTimer := timer } =
      ({ s with timeoutTimer := timer, ttlCache }, false) := by
    rcases State.nextWindow_cases (methods p) { s with timeoutTimer := timer } with
      heq | ⟨-, -, heq⟩
    · rw [heq, hcache]
    · rw [heq, hcache]
      rfl
  have hprocess : (methods p).processResults { s with timeoutTimer := timer, ttlCache } =
      .ok (processed p { s with timeoutTimer := timer, ttlCache }) := processResults_eq hnd
  obtain ⟨t1, t2, stop, hprepare, -⟩ := prepareRun_cases (p := p) false
    (processed p { s with timeoutTimer := timer, ttlCache })
  have hempty : (processed p { s with timeoutTimer := timer, ttlCache }).destinations = [] :=
    if_pos hremove
  replace hprepare : (methods p).prepareRun false
    (processed p { s with timeoutTimer := timer, ttlCache }) = _ := hprepare
  rw [hstep, handleTimeoutEvent_eq, if_neg (by rw [hstop]; decide), hwindow]
  simp only [Bool.false_eq_true, if_false, hprocess, hprepare, hempty, List.isEmpty_nil]
  have hschedule : ∀ v, (scheduleIntervalEvent p inputs.random v).destinations = v.destinations ∧
      (scheduleIntervalEvent p inputs.random v).requested = v.requested := by
    intro v
    obtain ⟨_, _, _, heq, -⟩ := scheduleIntervalEvent_cases (p := p) inputs.random v
    rw [heq]
    exact ⟨rfl, rfl⟩
  exact ⟨_, rfl, (hschedule _).1, (hschedule _).2⟩

theorem allSent_sends (p : Parameters) (event : Event)
    (h : ∀ inputs, (event = .sendRequests inputs ∨ ∃ aborted, event = .timeoutEvent aborted inputs) →
      inputs = allSent) : Sends p event := by
  intro inputs hevent k
  obtain rfl := h inputs hevent
  exact ⟨fun _ => rfl, 0, p.rounds_pos, rfl⟩

/-- The timer has a wait or a queued handler.  Then a timeout event can come next, maybe after its
expiry time. -/
theorem exists_removal (hremove : p.removeDestinationAfterRun = true) {s : State}
    (hnd : (s.resultsMap.map (·.seqNumber)).Nodup) (hpc : s.pc = .idle)
    (hstop : s.stopRequested = false) (hout : s.timeoutTimer.outstanding ≠ 0) :
    ∃ events t, (∀ event ∈ events, Sends p event) ∧
      Run.exec (Service.step p (methods p)) s events = .ok t ∧
      t.destinations = [] ∧ t.requested = s.requested := by
  have hsends : ∀ aborted, Sends p (.timeoutEvent aborted allSent) := by
    intro aborted
    refine allSent_sends p _ fun inputs hevent => ?_
    rcases hevent with heq | ⟨_, heq⟩ <;> cases heq
    rfl
  have hquiet : ∀ event, event = .timeoutTimerExpires ∨ (∃ time, event = .elapse time) →
      Sends p event := by
    intro event hevent
    refine allSent_sends p _ fun inputs heq => ?_
    rcases hevent with rfl | ⟨_, rfl⟩ <;> rcases heq with heq | ⟨_, heq⟩ <;> cases heq
  unfold WaitTimer.outstanding at hout
  by_cases haborted : s.timeoutTimer.aborted = 0
  · -- time passes until the wait ends
    have hexpired : ∃ timer, ((s.timeoutTimer.expire
        (s.now + s.timeoutTimer.expiry)).take false) = some timer := by
      unfold WaitTimer.expire WaitTimer.take
      rw [if_pos (Nat.le_add_left _ _)]
      simp only [Bool.false_eq_true, if_false]
      rw [if_neg (by omega)]
      exact ⟨_, rfl⟩
    obtain ⟨timer, htake⟩ := hexpired
    obtain ⟨t, hstep, hempty, hreq⟩ := timeoutEvent_removes hremove allSent
      (s := { s with
        now := s.now + s.timeoutTimer.expiry
        timeoutTimer := s.timeoutTimer.expire (s.now + s.timeoutTimer.expiry) })
      hnd hpc hstop htake
    refine ⟨[.elapse s.timeoutTimer.expiry, .timeoutTimerExpires, .timeoutEvent false allSent], t,
      ?_, ?_, hempty, hreq⟩
    · intro event hevent
      simp only [List.mem_cons, List.not_mem_nil, or_false] at hevent
      rcases hevent with rfl | rfl | rfl
      · exact hquiet _ (Or.inr ⟨_, rfl⟩)
      · exact hquiet _ (Or.inl rfl)
      · exact hsends false
    · have hexpires : Service.step p (methods p) { s with now := s.now + s.timeoutTimer.expiry }
          .timeoutTimerExpires = .ok { s with
            now := s.now + s.timeoutTimer.expiry
            timeoutTimer := s.timeoutTimer.expire (s.now + s.timeoutTimer.expiry) } := by
        simp only [Service.step, hpc, if_true]
      have helapse : Service.step p (methods p) s (.elapse s.timeoutTimer.expiry) =
          .ok { s with now := s.now + s.timeoutTimer.expiry } := rfl
      simp only [Run.exec, helapse, hexpires, hstep]
  · have htake : s.timeoutTimer.take true =
        some { s.timeoutTimer with aborted := s.timeoutTimer.aborted - 1 } := by
      unfold WaitTimer.take
      rw [if_pos rfl, if_neg haborted]
    obtain ⟨t, hstep, hempty, hreq⟩ := timeoutEvent_removes hremove allSent hnd hpc hstop htake
    refine ⟨[.timeoutEvent true allSent], t, ?_, ?_, hempty, hreq⟩
    · intro event hevent
      rw [List.mem_singleton.mp hevent]
      exact hsends true
    · simp only [Run.exec, hstep]

/-- **A destination that is added stays until a request has been sent to it**, exactly if it is
added between `prepareRun` and `sendRequests`, or while no timeout event is to be handled, or when
the service stops. -/
theorem added_measured_iff (p : Parameters) (hremove : p.removeDestinationAfterRun = true)
    (now : Nat) (seqNumber : UInt16) (destinations : List DestinationInfo) (events : List Event)
    {s : State} (h : Run.exec (Service.step p (methods p))
      (State.start p now seqNumber destinations) events = .ok s)
    {d : DestinationInfo} (hadd : added p d s = true) :
    Measured p d s ↔
      s.pc = .prepared ∨ s.timeoutTimer.outstanding = 0 ∨ s.stopRequested = true := by
  have hready := Ready.exec h
  obtain ⟨intervalTimer, destinations', heq, -, hmem⟩ := addDestination_cases (p := p) d s
  constructor
  · intro hmeasured
    by_contra hno
    obtain ⟨hprepared, hout, hstop⟩ := not_or.mp hno |>.imp_right not_or.mp
    have hpc : s.pc = .idle := by
      cases hs : s.pc with
      | starting => exact absurd (hready.starting hs) hout
      | prepared => exact absurd hs hprepared
      | idle => rfl
    obtain ⟨after, t, hsends, hrun, hempty, hreq⟩ := exists_removal (p := p) hremove
      (s := { s with intervalTimer, destinations := destinations' }) hready.nodup hpc
      (Bool.eq_false_iff.mpr hstop) hout
    rcases hmeasured after t hsends (heq ▸ hrun) with hin | ⟨new, hnew, e, he, -⟩
    · rw [hempty] at hin
      cases hin
    · rw [hreq] at hnew
      have hnil : new = [] := List.self_eq_append_right.mp hnew
      rw [hnil] at he
      cases he
  · intro hcondition after t hsends hrun
    have hfirst : BurstFirst p s := by
      by_cases hstop : s.stopRequested = true
      · exact Or.inl hstop
      · by_cases hpc : s.pc = .prepared
        · exact Or.inr (Or.inl ⟨hpc, (hready.prepared hpc).resolve_left hstop⟩)
        · exact Or.inr (Or.inr ⟨hpc, (hcondition.resolve_left hpc).resolve_right hstop⟩)
    rw [heq] at hrun
    have hunsent : Unsent p d s { s with intervalTimer, destinations := destinations' } :=
      ⟨hready.nodup, hmem hadd, rfl, hfirst⟩
    exact (hunsent.exec hsends hrun).imp_left Unsent.mem

/-- A triggered Ping service over UDP from 10.0.0.1, with one round. -/
def triggeredPing : Parameters :=
  { udpTraceroute with
    removeDestinationAfterRun := true
    rounds := 1
    initialMaxTTL := 64
    finalMaxTTL := 64
    rounds_pos := oneRound_pos
    initialMaxTTL_pos := pingTTL_pos
    initialMaxTTL_le := pingTTL_le }

/-- A burst has been sent to 10.0.0.2, and its results are about to be processed. -/
def beforeTimeout : List Event :=
  [.run, .sendRequests allSent, .elapse 10000000000, .timeoutTimerExpires]

/-- 10.0.0.3 is added after a burst, removed with 10.0.0.2, and nothing is sent to it. -/
theorem added_after_burst_dropped :
    ∃ s t, Run.exec (Service.step triggeredPing (methods triggeredPing))
        (State.start triggeredPing 0 0 [⟨.v4 0x0a000002, 0⟩]) beforeTimeout = .ok s ∧
      added triggeredPing ⟨.v4 0x0a000003, 0⟩ s = true ∧
      Run.exec (Service.step triggeredPing (methods triggeredPing)) s
        [.addDestination ⟨.v4 0x0a000003, 0⟩, .timeoutEvent false allSent] = .ok t ∧
      t.destinations = [] ∧ t.requested.map (·.destination) = [⟨.v4 0x0a000002, 0⟩] := by
  obtain ⟨s, hs, hadd⟩ := Run.exists_of_passes
    (show Run.passes (added triggeredPing ⟨.v4 0x0a000003, 0⟩) (Run.exec (Service.step triggeredPing (methods triggeredPing))
      (State.start triggeredPing 0 0 [⟨.v4 0x0a000002, 0⟩]) beforeTimeout) = true by
      decide +kernel)
  obtain ⟨t, ht, htest⟩ := Run.exists_of_passes
    (show Run.passes (fun t : State => decide (t.destinations = [] ∧
        t.requested.map (·.destination) = [⟨.v4 0x0a000002, 0⟩])) (Run.exec (Service.step triggeredPing (methods triggeredPing))
      (State.start triggeredPing 0 0 [⟨.v4 0x0a000002, 0⟩])
      (beforeTimeout ++ [.addDestination ⟨.v4 0x0a000003, 0⟩, .timeoutEvent false allSent])) =
        true by decide +kernel)
  rw [Run.exec_append _ _ _ _ _ hs] at ht
  exact ⟨s, t, hs, hadd, ht, of_decide_eq_true htest⟩

/-- 10.0.0.2 is added before the first burst. -/
theorem added_before_burst_measured :
    ∃ s, Run.exec (Service.step triggeredPing (methods triggeredPing))
        (State.start triggeredPing 0 0 []) [.run, .sendRequests allSent] = .ok s ∧
      (Measured triggeredPing ⟨.v4 0x0a000002, 0⟩ s ↔
        s.pc = .prepared ∨ s.timeoutTimer.outstanding = 0 ∨ s.stopRequested = true) := by
  obtain ⟨s, hs, hadd⟩ := Run.exists_of_passes
    (show Run.passes (added triggeredPing ⟨.v4 0x0a000002, 0⟩) (Run.exec (Service.step triggeredPing (methods triggeredPing))
      (State.start triggeredPing 0 0 []) [.run, .sendRequests allSent]) = true by decide +kernel)
  exact ⟨s, hs, added_measured_iff triggeredPing rfl 0 0 [] _ hs hadd⟩

end Ping

end HiPerConTracer.Service
