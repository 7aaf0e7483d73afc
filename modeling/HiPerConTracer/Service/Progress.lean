import HiPerConTracer.Service.Ping

/-!
# A running service goes on (`traceroute.cc`, `ping.cc`)

Between two handlers, a service that has not been stopped waits for one of its timers, whatever the
network and the other threads do.  An aborted wait of the interval timer does not count, since its
handler does nothing:

    exec … start events = .ok s → … → s.stopRequested = false → Awake s          (awake)
    Awake s → s.pc = .idle → GoesOn p m s                                         (Awake.goesOn)

Both services are instances of `Continues`: what their methods do with the timers.
-/

namespace HiPerConTracer.Service
open Net IOModule

variable {p : Parameters} {m : Methods} {Q : State → Prop}

/-! ## Waiting -/

/-- A wait, or a queued handler, that goes on with the measurement. -/
def Awake (s : State) : Prop :=
  0 < s.timeoutTimer.outstanding ∨ 0 < s.intervalTimer.waiting + s.intervalTimer.expired

/-- After some time, a handler that goes on with the measurement is queued. -/
def GoesOn (p : Parameters) (m : Methods) (s : State) : Prop :=
  ∃ time t,
    Run.exec (step p m) s [.elapse time, .timeoutTimerExpires, .intervalTimerExpires] = .ok t ∧
      ((∃ aborted timer, t.timeoutTimer.take aborted = some timer) ∨
        ∃ timer, t.intervalTimer.take false = some timer)

theorem Awake.goesOn {s : State} (h : Awake s) (hpc : s.pc = .idle) : GoesOn p m s := by
  obtain ⟨later, hlater⟩ : ∃ later, later = s.now +
      (s.timeoutTimer.expiry + s.intervalTimer.expiry) := ⟨_, rfl⟩
  have htimeout : s.timeoutTimer.expiry ≤ later := by omega
  have hinterval : s.intervalTimer.expiry ≤ later := by omega
  refine ⟨s.timeoutTimer.expiry + s.intervalTimer.expiry, { s with
    now := later
    timeoutTimer := s.timeoutTimer.expire later
    intervalTimer := s.intervalTimer.expire later }, ?_, ?_⟩
  · simp only [Run.exec, step, hpc, if_true, hlater]
  · simp only [WaitTimer.expire, if_pos htimeout, if_pos hinterval]
    rcases h with h | h
    · refine Or.inl (WaitTimer.exists_take ?_)
      unfold WaitTimer.outstanding at h
      simp only
      omega
    · have hexpired : ¬ s.intervalTimer.expired + s.intervalTimer.waiting = 0 := by omega
      exact Or.inr ⟨_, by rw [WaitTimer.take, if_neg (by decide), if_neg hexpired]⟩

/-! ## Methods -/

/-- Methods of a service that start a timer, or stop it.  `Q` is what `sendRequests` relies on. -/
structure Continues (p : Parameters) (m : Methods) (Q : State → Prop) : Prop where
  stable : ∀ s t : State, Q s → t.iterationNumber = s.iterationNumber →
    (s.stopRequested = true → t.stopRequested = true) → Q t
  prepareRun : ∀ newRound s, Q (m.prepareRun newRound s).1
  sendRequests : ∀ inputs s t, Q s → m.sendRequests inputs s = .ok t →
    Q t ∧ (t.stopRequested = false → Awake t)
  nextWindow : ∀ s t : State, s.nextWindow m = (t, true) → Q t
  newResult : ∀ e s, ∃ timeoutTimer lastHop outstandingRequests completions,
    newResult m e s = { s with timeoutTimer, lastHop, outstandingRequests, completions } ∧
      timeoutTimer.outstanding = s.timeoutTimer.outstanding

theorem startIntervalTimer_waiting (s : State) (milliseconds : Nat) :
    ∃ timer : WaitTimer, s.startIntervalTimer milliseconds = { s with intervalTimer := timer } ∧
      timer.waiting = 1 := by
  refine ⟨_, rfl, ?_⟩
  rw [WaitTimer.asyncWait_waiting, WaitTimer.expiresAt_waiting]

/-- The interval timer is started, or the service is stopped. -/
theorem scheduleIntervalEvent_awake (random : Nat) (s : State) :
    (scheduleIntervalEvent p random s).iterationNumber = s.iterationNumber ∧
      (s.stopRequested = true → (scheduleIntervalEvent p random s).stopRequested = true) ∧
      ((scheduleIntervalEvent p random s).stopRequested = false →
        Awake (scheduleIntervalEvent p random s)) := by
  unfold scheduleIntervalEvent
  split
  · obtain ⟨timer, heq, hwaiting⟩ := startIntervalTimer_waiting s
      ((s.runStartTimeStamp + makeDeviation p.interval p.deviation random * 1000000 - s.now) /
        1000000)
    rw [heq]
    refine ⟨rfl, id, fun _ => Or.inr ?_⟩
    show 0 < timer.waiting + timer.expired
    omega
  · refine ⟨rfl, fun _ => rfl, fun hstop => ?_⟩
    cases hstop

/-! ## Steps -/

/-- The invariant: the service waits, if it is between two handlers and has not been stopped. -/
structure Attentive (Q : State → Prop) (s : State) : Prop where
  ready : Q s
  awake : s.pc = .idle → s.stopRequested = false → Awake s

theorem Attentive.handleTimeoutEvent (hm : Continues p m Q) {inputs : Inputs} {s t : State}
    (h : Q s) (ht : handleTimeoutEvent p m inputs s = .ok t) : Attentive Q t := by
  have hr := handleTimeoutEvent_result p m inputs s
  rw [ht] at hr
  generalize hres : (Except.ok t : Except Assure State) = r at hr
  cases hr with
  | stopped hstop =>
    cases hres
    exact ⟨h, fun _ hrunning => absurd (hstop.symm.trans hrunning) (by decide)⟩
  | again s' _ hs =>
    obtain ⟨hq, hawake⟩ := hm.sendRequests inputs s' t (hm.nextWindow s s' hs) hres.symm
    exact ⟨hq, fun _ => hawake⟩
  | failed _ _ _ _ _ => cases hres
  | next s' u v _ _ _ hrun =>
    have hv : Q v := by
      have hprepared := hm.prepareRun false u
      rwa [hrun] at hprepared
    obtain ⟨hq, hawake⟩ := hm.sendRequests inputs v t hv hres.symm
    exact ⟨hq, fun _ => hawake⟩
  | last s' u v _ _ _ hrun =>
    have hv : Q v := by
      have hprepared := hm.prepareRun false u
      rwa [hrun] at hprepared
    cases hres
    obtain ⟨hnumber, hstop, hawake⟩ := scheduleIntervalEvent_awake (p := p) inputs.random v
    exact ⟨hm.stable v _ hv hnumber hstop, fun _ => hawake⟩

theorem Attentive.handleResponse (hm : Continues p m Q) {message : Message} {data : ReceivedData}
    {s : State} (h : Attentive Q s) : Attentive Q (handleResponse p m message data s) := by
  unfold Service.handleResponse
  split
  · exact h
  · split
    · exact ⟨hm.stable s _ h.ready rfl id, h.awake⟩
    · next resultsMap e _ =>
      obtain ⟨_, _, _, _, heq, hout⟩ := hm.newResult e { s with resultsMap }
      rw [heq]
      refine ⟨hm.stable s _ h.ready rfl id, fun hpc hstop => ?_⟩
      rcases h.awake hpc hstop with hawake | hawake
      · refine Or.inl ?_
        show 0 < WaitTimer.outstanding _
        rw [hout]
        exact hawake
      · exact Or.inr hawake

/-- One case for each event; in the others, the timers do not change. -/
theorem Attentive.step (hm : Continues p m Q) {s t : State} {event : Event} (h : Attentive Q s)
    (hs : step p m s event = .ok t) : Attentive Q t := by
  cases event with
  | elapse time =>
    cases hs
    exact ⟨hm.stable s _ h.ready rfl id, h.awake⟩
  | run =>
    simp only [Service.step] at hs
    split at hs
    · cases hs
      refine ⟨hm.stable _ _ (hm.prepareRun true s) rfl id, fun hpc => ?_⟩
      cases hpc
    · cases hs
      exact h
  | sendRequests inputs =>
    simp only [Service.step] at hs
    split at hs
    · obtain ⟨hq, hawake⟩ := hm.sendRequests inputs { s with pc := .idle } t
        (hm.stable s _ h.ready rfl id) hs
      exact ⟨hq, fun _ => hawake⟩
    · cases hs
      exact h
  | timeoutTimerExpires =>
    simp only [Service.step] at hs
    split at hs
    · cases hs
      refine ⟨hm.stable s _ h.ready rfl id, fun hpc hstop => ?_⟩
      refine (h.awake hpc hstop).imp_left fun hawake => ?_
      show 0 < (s.timeoutTimer.expire s.now).outstanding
      rwa [WaitTimer.expire_outstanding]
    · cases hs
      exact h
  | intervalTimerExpires =>
    simp only [Service.step] at hs
    split at hs
    · cases hs
      refine ⟨hm.stable s _ h.ready rfl id, fun hpc hstop => ?_⟩
      refine (h.awake hpc hstop).imp_right fun hawake => ?_
      show 0 < (s.intervalTimer.expire s.now).waiting + (s.intervalTimer.expire s.now).expired
      rwa [WaitTimer.expire_waiting_expired]
    · cases hs
      exact h
  | timeoutEvent aborted inputs =>
    simp only [Service.step] at hs
    split at hs
    · next timer _ _ =>
      exact .handleTimeoutEvent hm (s := { s with timeoutTimer := timer })
        (hm.stable s _ h.ready rfl id) hs
    · cases hs
      exact h
  | intervalEvent aborted =>
    simp only [Service.step] at hs
    split at hs
    · next timer hpc htake =>
      cases hs
      unfold handleIntervalEvent
      split
      · refine ⟨hm.stable _ _ (hm.prepareRun true _) rfl id, fun hidle => ?_⟩
        cases hidle
      · next hnothing =>
        refine ⟨hm.stable s _ h.ready rfl id, fun _ hstop => ?_⟩
        -- the handler of an aborted wait, which has not been counted
        rcases WaitTimer.take_cases htake with ⟨-, -, rfl⟩ | ⟨hexpired, -, -⟩
        · exact h.awake hpc hstop
        · exact absurd ⟨hstop, hexpired⟩ hnothing
    · cases hs
      exact h
  | response message data =>
    simp only [Service.step] at hs
    split at hs
    · cases hs
      exact h.handleResponse hm
    · cases hs
      exact h
  | addDestination d =>
    simp only [Service.step, addDestination] at hs
    cases hs
    split
    · split
      · exact h
      · split
        · refine ⟨hm.stable s _ h.ready rfl id, fun _ _ => Or.inr ?_⟩
          show 0 < 0 + 1 + s.intervalTimer.expired
          omega
        · exact ⟨hm.stable s _ h.ready rfl id, h.awake⟩
    · exact h
  | requestStop =>
    cases hs
    refine ⟨hm.stable s _ h.ready rfl fun _ => rfl, fun _ hstop => ?_⟩
    cases hstop
  | cancelTimers =>
    simp only [Service.step] at hs
    split at hs
    · next hstopped =>
      cases hs
      exact ⟨hm.stable s _ h.ready rfl id, fun _ hstop =>
        absurd (hstopped.2.symm.trans hstop) (by decide)⟩
    · cases hs
      exact h

theorem Attentive.exec (hm : Continues p m Q) {s t : State} {events : List Event}
    (h : Attentive Q s) (ht : Run.exec (Service.step p m) s events = .ok t) : Attentive Q t :=
  Run.exec_invariant (fun _ _ _ hs _ hst => hs.step hm hst) h (Run.meets_true _ s events) ht

/-! ## The services -/

theorem Traceroute.continues (p : Parameters) :
    Continues p (Traceroute.methods p) fun _ => True where
  stable _ _ _ _ _ := trivial
  prepareRun _ _ := trivial
  nextWindow _ _ _ := trivial
  sendRequests inputs s t _ h := by
    refine ⟨trivial, ?_⟩
    replace h : Traceroute.sendRequests p inputs s = .ok t := h
    unfold Traceroute.sendRequests at h
    split at h
    · split at h
      · cases h
      · split at h
        · cases h
        · cases h
          refine fun _ => Or.inl ?_
          show 0 < WaitTimer.outstanding (WaitTimer.asyncWait _)
          rw [WaitTimer.asyncWait_outstanding]
          exact Nat.succ_pos _
    · cases h
      exact (scheduleIntervalEvent_awake inputs.random s).2.2
  newResult e s := by
    refine ⟨_, _, _, _, Traceroute.newResult_eq e s, ?_⟩
    split
    · exact WaitTimer.cancel_outstanding _
    · rfl

/-- When the iterations are done, the service has been stopped. -/
def Ping.Ended (p : Parameters) (s : State) : Prop :=
  p.iterations > 0 → s.iterationNumber > p.iterations → s.stopRequested = true

theorem Ping.continues (p : Parameters) : Continues p (Ping.methods p) (Ping.Ended p) where
  stable s t h hnumber hstop hpos hlast := hstop (h hpos (hnumber ▸ hlast))
  prepareRun newRound s := by
    obtain ⟨_, _, stop, heq, hcases⟩ := Ping.prepareRun_cases (p := p) newRound s
    show Ping.Ended p (Ping.prepareRun p newRound s).1
    rw [heq]
    rintro hpos hlast
    rcases hcases with ⟨hmore, -⟩ | ⟨-, -, -, hstop⟩
    · simp only at hlast
      omega
    · exact hstop
  nextWindow s t h := absurd (Ping.nextWindow_cases h).1 (by decide)
  sendRequests inputs s t hended h := by
    cases Ping.sendRequests_result (p := p) h with
    | done hdone =>
      exact ⟨hended, fun hstop => absurd ((hended hdone.1 hdone.2).symm.trans hstop) (by decide)⟩
    | waiting targets timeoutTimer intervalTimer stop hd hcases =>
      refine ⟨fun hpos hlast => ?_, ?_⟩
      · rcases hcases with ⟨-, rfl⟩ | ⟨-, rfl⟩
        · exact hended hpos hlast
        · rfl
      · replace h : Ping.sendRequests p inputs s = .ok _ := h
        unfold Ping.sendRequests at h
        split at h
        · simp only at h
          rw [if_neg (not_not_intro hd)] at h
          rw [← Except.ok.inj h]
          exact (scheduleIntervalEvent_awake inputs.random _).2.2
        · next hdone =>
          rw [← Except.ok.inj h]
          intro hstop
          exact absurd ((hended (by omega) (by omega)).symm.trans hstop) (by decide)
    | sent _ _ _ io n new milliseconds _ _ =>
      refine ⟨hended, fun _ => Or.inl ?_⟩
      show 0 < WaitTimer.outstanding (WaitTimer.asyncWait _)
      rw [WaitTimer.asyncWait_outstanding]
      exact Nat.succ_pos _
  newResult e s := by
    refine ⟨_, _, _, _, Ping.newResult_eq e s, ?_⟩
    split
    · exact WaitTimer.cancel_outstanding _
    · rfl

/-- **A running service goes on.**  In every state of a run between two handlers, a service that
has not been stopped gets to a handler that goes on with the measurement. -/
theorem running_goesOn (p : Parameters) (m : Methods)
    (hm : m = Traceroute.methods p ∨ m = Ping.methods p) (now : Nat) (seqNumber : UInt16)
    (destinations : List DestinationInfo) (events : List Event) {s : State}
    (h : Run.exec (step p m) (State.start p now seqNumber destinations) events = .ok s)
    (hpc : s.pc = .idle) (hstop : s.stopRequested = false) : GoesOn p m s := by
  rcases hm with rfl | rfl
  · have hstart : Attentive (fun _ => True) (State.start p now seqNumber destinations) :=
      ⟨trivial, fun hidle => by cases hidle⟩
    exact ((hstart.exec (Traceroute.continues p) h).awake hpc hstop).goesOn hpc
  · have hstart : Attentive (Ping.Ended p) (State.start p now seqNumber destinations) :=
      ⟨fun _ hlast => absurd hlast (Nat.not_lt_zero _), fun hidle => by cases hidle⟩
    exact ((hstart.exec (Ping.continues p) h).awake hpc hstop).goesOn hpc

/-- After an answer to the last request, and from the aborted wait on. -/
theorem running_goesOn_answered :
    ∃ s, Run.exec (step udpTraceroute (Traceroute.methods udpTraceroute))
        (State.start udpTraceroute 0 0 [⟨.v4 0x0a000002, 0⟩]) [.run, .sendRequests allSent,
          .response (.icmp 11 0 1 56) (responseFrom (.v4 0x0a0000fe) 1000000)] = .ok s ∧
      GoesOn udpTraceroute (Traceroute.methods udpTraceroute) s := by
  obtain ⟨s, hs, htest⟩ := Run.exists_of_passes (show Run.passes
    (fun s => decide (s.pc = .idle) && !s.stopRequested)
    (Run.exec (step udpTraceroute (Traceroute.methods udpTraceroute))
      (State.start udpTraceroute 0 0 [⟨.v4 0x0a000002, 0⟩]) [.run, .sendRequests allSent,
        .response (.icmp 11 0 1 56) (responseFrom (.v4 0x0a0000fe) 1000000)]) = true from rfl)
  rw [Bool.and_eq_true, decide_eq_true_eq, Bool.not_eq_true'] at htest
  exact ⟨s, hs, running_goesOn udpTraceroute _ (Or.inl rfl) 0 0 _ _ hs htest.1 htest.2⟩

end HiPerConTracer.Service
