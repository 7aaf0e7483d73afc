import HiPerConTracer.Service.Outstanding
import HiPerConTracer.Service.ProcessResults

/-!
# Timeouts that come too early

`handleTimeoutEvent` does not look at the error code: it gives up the unanswered requests whenever a
wait of the timeout timer ends.  A wait is cancelled when all requests have been answered, which does
no harm, and when a run is started while another one is going on.  That happens when an interval
event is handled although the timeout timer is in use (`AloneInterval` forbids it):

    no interval event while the timeout timer is in use →
      what is written as a timeout was sent at least `Expiration` before   (timeouts_not_premature)
-/

namespace HiPerConTracer.Service
open Net IOModule Traceroute

variable {p : Parameters}

/-- When a request may be given up. -/
def due (p : Parameters) (e : ResultEntry) : Nat := e.sendTime .application + p.expiration * 1000000

/-- The entries of the block that are timeouts were due. -/
def Round.Punctual (p : Parameters) (r : Round) : Prop :=
  ∀ e ∈ r.entries, e.status = .timeout → due p e ≤ r.writtenAt

/-- What the waits of the timeout timer, and its queued handlers, say about the requests. -/
structure Guarded (p : Parameters) (s : State) : Prop where
  one : s.timeoutTimer.outstanding ≤ 1
  before : s.pc ≠ .idle → s.timeoutTimer.outstanding = 0
  waiting : 0 < s.timeoutTimer.waiting →
    ∀ e ∈ s.resultsMap, e.status = .unknown → due p e ≤ s.timeoutTimer.expiry
  expired : 0 < s.timeoutTimer.expired →
    ∀ e ∈ s.resultsMap, e.status = .unknown → due p e ≤ s.now
  aborted : 0 < s.timeoutTimer.aborted → ∀ e ∈ s.resultsMap, e.status ≠ .unknown

structure Punctual (p : Parameters) (s : State) : Prop where
  accounted : Accounted s
  statuses : ∀ e ∈ s.resultsMap, e.status ≠ .timeout
  written : ∀ r ∈ s.roundsWritten, r.Punctual p
  empty : s.pc ≠ .idle → s.resultsMap = []
  guarded : s.stopRequested = false → Guarded p s

/-- No interval event starts a run while the timeout timer waits or has a queued handler. -/
def AloneInterval (s : State) (event : Event) : Prop :=
  event = .intervalEvent false → s.stopRequested = false → s.timeoutTimer.outstanding = 0

theorem HopStatus.isSendError_ne_timeout {s : HopStatus} (h : s.isSendError = true) :
    s ≠ .timeout := by
  rintro rfl
  exact absurd h (by decide)

theorem HopStatus.isResponse_ne_timeout {s : HopStatus} (h : s.isResponse = true) :
    s ≠ .timeout := by
  rintro rfl
  exact absurd h (by decide)

theorem outstanding_eq_zero {t : WaitTimer} (h : t.outstanding = 0) :
    t.waiting = 0 ∧ t.expired = 0 ∧ t.aborted = 0 := by
  unfold WaitTimer.outstanding at h
  omega

/-- A timer that is not in use guards anything. -/
theorem Guarded.of_unused {s : State} (h : s.timeoutTimer.outstanding = 0) : Guarded p s := by
  obtain ⟨hw, he, ha⟩ := outstanding_eq_zero h
  refine ⟨by omega, fun _ => h, fun hpos => ?_, fun hpos => ?_, fun hpos => ?_⟩ <;> omega

/-! ## Sending -/

/-- A timer that is started anew, at `now`, guards the requests that are due after that. -/
theorem Guarded.of_started {s : State} {timer : WaitTimer} {now : Nat}
    (h : timer.outstanding = 0)
    (ht : s.timeoutTimer = (timer.expiresAt (now + p.expiration * 1000000)).asyncWait)
    (hpc : s.pc = .idle)
    (hdue : ∀ e ∈ s.resultsMap, e.status = .unknown → due p e ≤ now + p.expiration * 1000000) :
    Guarded p s := by
  obtain ⟨hw, he, ha⟩ := outstanding_eq_zero h
  have hexpired : s.timeoutTimer.expired = 0 := by
    rw [ht, WaitTimer.asyncWait_expired, WaitTimer.expiresAt_expired, he]
  have haborted : s.timeoutTimer.aborted = 0 := by
    rw [ht]
    show timer.aborted + timer.waiting = 0
    omega
  have hexpiry : s.timeoutTimer.expiry = now + p.expiration * 1000000 := by rw [ht]; rfl
  refine ⟨?_, fun hne => absurd hpc hne, fun _ => ?_, fun hpos => ?_, fun hpos => ?_⟩
  · rw [ht, WaitTimer.asyncWait_outstanding, WaitTimer.expiresAt_outstanding]
    omega
  · rw [hexpiry]
    exact hdue
  · omega
  · omega

/-- The timer is not in use, and the earlier requests without a response are due. -/
theorem Punctual.sendRequests {inputs : Inputs} {s t : State} (hacc : Accounted s)
    (hstatuses : ∀ e ∈ s.resultsMap, e.status ≠ .timeout)
    (hwritten : ∀ r ∈ s.roundsWritten, r.Punctual p) (hpc : s.pc = .idle)
    (hunused : s.stopRequested = false → s.timeoutTimer.outstanding = 0)
    (hdue : s.stopRequested = false →
      ∀ e ∈ s.resultsMap, e.status = .unknown → due p e ≤ s.now)
    (hsend : sendRequests p inputs s = .ok t) : Punctual p t := by
  have hacc' := (hacc.sendRequests hsend).1
  cases sendRequests_result hacc.good hsend with
  | waiting timeoutTimer intervalTimer stop hd h =>
    refine ⟨hacc', hstatuses, hwritten, fun hne => absurd hpc hne, fun hno => .of_unused ?_⟩
    replace hno : stop = false := hno
    rcases h with ⟨rfl, rfl⟩ | ⟨-, rfl⟩
    · exact hunused hno
    · cases hno
  | skipped d hd htc =>
    refine ⟨hacc', hstatuses, hwritten, fun hne => absurd hpc hne,
      fun hno => .of_started (hunused hno) rfl hpc ?_⟩
    exact fun e he hu => (hdue hno e he hu).trans (Nat.le_add_right _ _)
  | sent d hd hmin hle io n new hsent =>
    have hnow := hsent.now_le
    refine ⟨hacc', ?_, hwritten, fun hne => absurd hpc hne,
      fun hno => .of_started (hunused hno) rfl hpc ?_⟩
    · show ∀ e ∈ io.resultsMap, _
      rw [hsent.resultsMap, List.forall_mem_append]
      refine ⟨hstatuses, fun e he => ?_⟩
      rcases hsent.status e he with hu | herr
      · rw [hu]
        decide
      · exact HopStatus.isSendError_ne_timeout herr
    · show ∀ e ∈ io.resultsMap, _
      rw [hsent.resultsMap, List.forall_mem_append]
      refine ⟨fun e he hu => ?_, fun e he _ => ?_⟩
      · exact ((hdue hno e he hu).trans hnow).trans (Nat.le_add_right _ _)
      · obtain ⟨q, -, hreq⟩ := forall₂_mem_right hsent.requests he
        exact Nat.add_le_add_right hreq.sendTime_le _

/-! ## Responses and results -/

theorem Punctual.response {data : ReceivedData} {s t : State} (h : Punctual p s)
    (hpc : s.pc = .idle) (hr : ResponseResult p (methods p) data s t) : Punctual p t := by
  have hacc := (h.accounted.response hr).1
  cases hr with
  | ignored => exact h
  | later l₁ e l₂ hmap hstatus =>
    have hold := h.statuses
    rw [hmap, List.forall_mem_append, List.forall_mem_cons] at hold
    have hkeep : ∀ x ∈ l₁ ++ withSource data e :: l₂, x.status = .unknown → x ∈ s.resultsMap := by
      intro x hx hu
      rw [hmap]
      rcases List.mem_append.mp hx with hx | hx
      · exact List.mem_append_left _ hx
      · rcases List.mem_cons.mp hx with rfl | hx
        · rw [status_withSource] at hu
          exact absurd hu hstatus
        · exact List.mem_append_right _ (List.mem_cons_of_mem _ hx)
    refine ⟨hacc, ?_, h.written, fun hne => absurd hpc hne, fun hstop => ?_⟩
    · show ∀ x ∈ l₁ ++ withSource data e :: l₂, _
      rw [List.forall_mem_append, List.forall_mem_cons, status_withSource]
      exact hold
    · have hg := h.guarded hstop
      exact ⟨hg.one, hg.before, fun hw x hx hu => hg.waiting hw x (hkeep x hx hu) hu,
        fun he x hx hu => hg.expired he x (hkeep x hx hu) hu,
        fun ha x hx hu => hg.aborted ha x (hkeep x hx hu) hu⟩
  | first l₁ e e' l₂ hmap hunknown hrequest hhop hstatus =>
    have hold := h.statuses
    rw [hmap, List.forall_mem_append, List.forall_mem_cons] at hold
    have hne := HopStatus.isResponse_ne_unknown hstatus
    have hkeep : ∀ x ∈ l₁ ++ e' :: l₂, x.status = .unknown → x ∈ s.resultsMap := by
      intro x hx hu
      rw [hmap]
      rcases List.mem_append.mp hx with hx | hx
      · exact List.mem_append_left _ hx
      · rcases List.mem_cons.mp hx with rfl | hx
        · exact absurd hu hne
        · exact List.mem_append_right _ (List.mem_cons_of_mem _ hx)
    have hout : s.outstandingRequests - 1 = unanswered (l₁ ++ e' :: l₂) := by
      have := hacc.outstanding
      rw [newResult_eq] at this
      exact this
    rw [newResult_eq] at hacc ⊢
    refine ⟨hacc, ?_, h.written, fun hne => absurd hpc hne, fun hstop => ?_⟩
    · show ∀ x ∈ l₁ ++ e' :: l₂, _
      rw [List.forall_mem_append, List.forall_mem_cons]
      exact ⟨hold.1, HopStatus.isResponse_ne_timeout hstatus, hold.2.2⟩
    · have hg := h.guarded hstop
      by_cases h0 : s.outstandingRequests - 1 = 0
      · -- all requests have been answered, and the timer is cancelled
        have hall := unanswered_eq_zero.mp (hout.symm.trans h0)
        simp only [h0, if_true]
        refine ⟨?_, fun hne => absurd hpc hne, fun hw => ?_, fun he x hx hu => ?_, fun _ => hall⟩
        · exact (s.timeoutTimer.cancel_outstanding).le.trans hg.one
        · exact absurd hw (by simp)
        · exact absurd hu (hall x hx)
      · simp only [h0, if_false]
        exact ⟨hg.one, hg.before, fun hw x hx hu => hg.waiting hw x (hkeep x hx hu) hu,
          fun he x hx hu => hg.expired he x (hkeep x hx hu) hu,
          fun ha x hx hu => hg.aborted ha x (hkeep x hx hu) hu⟩

/-- What is written for due requests is punctual. -/
theorem processRounds_punctual {s : State} {resultsMap : List ResultEntry} {rounds : List Round}
    (hstatuses : ∀ e ∈ s.resultsMap, e.status ≠ .timeout)
    (hdue : ∀ e ∈ s.resultsMap, e.status = .unknown → due p e ≤ s.now)
    (h : processRounds p s.now (s.resultsMap.insertionSort tracerouteOrder) 0
      (List.range p.rounds) = .ok (resultsMap, rounds)) : ∀ r ∈ rounds, r.Punctual p := by
  intro r hr e he hstatus
  obtain ⟨n, -, -, hround⟩ := forall₂_mem_right (processRounds_ok h) hr
  rw [hround.entries] at he
  obtain ⟨x, hx, rfl⟩ := List.mem_map.mp he
  have hin : x ∈ s.resultsMap :=
    (List.mem_insertionSort _).mp (List.mem_filter.mp (mem_writtenEntries hx)).1
  have htime : due p (settled p x) = due p x :=
    congrArg (fun q => ResultEntry.Request.sendTime q + p.expiration * 1000000) (settled_request x)
  rw [htime, hround.writtenAt]
  by_cases hu : x.status = .unknown
  · exact hdue x hin hu
  · unfold settled at hstatus
    rw [if_neg hu] at hstatus
    exact absurd hstatus (hstatuses x hin)

/-! ## Steps -/

theorem Punctual.start (p : Parameters) (now : Nat) (seqNumber : UInt16)
    (destinations : List DestinationInfo) :
    Punctual p (State.start p now seqNumber destinations) where
  accounted := .start p now seqNumber destinations
  statuses := fun _ he => absurd he List.not_mem_nil
  written := fun _ hr => absurd hr List.not_mem_nil
  empty := fun _ => rfl
  guarded := fun _ => .of_unused rfl

/-- The timeout handler, when the timer is not in use any more and the requests are due. -/
theorem Punctual.timeout {inputs : Inputs} {s t : State} (hacc : Accounted s)
    (hstatuses : ∀ e ∈ s.resultsMap, e.status ≠ .timeout)
    (hwritten : ∀ r ∈ s.roundsWritten, r.Punctual p) (hpc : s.pc = .idle)
    (hunused : s.stopRequested = false → s.timeoutTimer.outstanding = 0)
    (hdue : s.stopRequested = false →
      ∀ e ∈ s.resultsMap, e.status = .unknown → due p e ≤ s.now)
    (h : handleTimeoutEvent p (methods p) inputs s = .ok t) : Punctual p t := by
  cases handleTimeoutEvent_ok h with
  | stopped hstop ht =>
    rw [ht]
    refine ⟨hacc, hstatuses, hwritten, fun hne => absurd hpc hne, fun hno => ?_⟩
    rw [hstop] at hno
    cases hno
  | again ttlCache u hcache hstop hd hlast hlt hu hsend =>
    refine Punctual.sendRequests ?_ ?_ ?_ ?_ ?_ ?_ hsend
    · rw [hu]
      exact hacc.congr ⟨rfl, rfl, rfl⟩
    all_goals rw [hu]
    · exact hstatuses
    · exact hwritten
    · exact hpc
    · exact hunused
    · exact hdue
  | next ttlCache resultsMap rounds u hcache hstop hrounds hu hsend =>
    have hacc' := (Accounted.prepareRun (p := p) (s := u) (by rw [hu]; exact hacc.good) false).1
    have hprep := prepareRun_prepared (p := p) false u
    refine Punctual.sendRequests hacc' ?_ ?_ ?_ ?_ ?_ hsend
    · rw [hprep.resultsMap]
      exact fun e he => absurd he List.not_mem_nil
    · rw [hprep.roundsWritten, hu]
      show ∀ r ∈ s.roundsWritten ++ rounds, _
      rw [List.forall_mem_append]
      exact ⟨hwritten, processRounds_punctual hstatuses (hdue hstop) hrounds⟩
    · rw [hprep.pc, hu]
      exact hpc
    · rw [hprep.timeoutTimer, hu]
      exact fun _ => hunused hstop
    · rw [hprep.resultsMap]
      exact fun _ e he => absurd he List.not_mem_nil
  | last ttlCache resultsMap rounds u hcache hstop hrounds hu ht =>
    have hacc' := (Accounted.prepareRun (p := p) (s := u) (by rw [hu]; exact hacc.good) false).1
    have hprep := prepareRun_prepared (p := p) false u
    have hempty := hprep.resultsMap
    have hunused' : (Traceroute.prepareRun p false u).1.timeoutTimer.outstanding = 0 := by
      rw [hprep.timeoutTimer, hu]
      exact hunused hstop
    have hwritten' : ∀ r ∈ (Traceroute.prepareRun p false u).1.roundsWritten, r.Punctual p := by
      rw [hprep.roundsWritten, hu]
      show ∀ r ∈ s.roundsWritten ++ rounds, _
      rw [List.forall_mem_append]
      exact ⟨hwritten, processRounds_punctual hstatuses (hdue hstop) hrounds⟩
    clear hprep
    generalize (Traceroute.prepareRun p false u).1 = v at *
    obtain ⟨timeoutTimer, intervalTimer, stop, heq, hcases⟩ :=
      scheduleIntervalEvent_cases (p := p) inputs.random v
    rw [ht, heq]
    refine ⟨hacc'.congr ⟨rfl, rfl, rfl⟩, ?_, hwritten', fun _ => hempty,
      fun _ => .of_unused ?_⟩
    · show ∀ e ∈ v.resultsMap, _
      rw [hempty]
      exact fun e he => absurd he List.not_mem_nil
    · rcases hcases with ⟨rfl, -⟩ | ⟨rfl, -⟩
      · exact hunused'
      · exact (v.timeoutTimer.cancel_outstanding).trans hunused'

/-- Time passes, or the timeout timer expires. -/
theorem Guarded.elapsed {s : State} (h : Guarded p s) {now : Nat} {timer : WaitTimer}
    (hnow : s.now ≤ now) (ht : timer = s.timeoutTimer ∨ timer = s.timeoutTimer.expire s.now)
    {t : State} (hmap : t.resultsMap = s.resultsMap) (htimer : t.timeoutTimer = timer)
    (hnow' : t.now = now) (hpc : t.pc = s.pc) : Guarded p t := by
  have hsame : timer.outstanding = s.timeoutTimer.outstanding ∧
      timer.aborted = s.timeoutTimer.aborted ∧ timer.expiry = s.timeoutTimer.expiry ∧
      (0 < timer.waiting → 0 < s.timeoutTimer.waiting) ∧
      (0 < timer.expired → 0 < s.timeoutTimer.expired ∨
        0 < s.timeoutTimer.waiting ∧ s.timeoutTimer.expiry ≤ s.now) := by
    rcases ht with rfl | rfl
    · exact ⟨rfl, rfl, rfl, id, Or.inl⟩
    · refine ⟨WaitTimer.expire_outstanding .., ?_⟩
      unfold WaitTimer.expire
      split
      · next hle =>
        refine ⟨rfl, rfl, fun hw => absurd hw (Nat.lt_irrefl 0), fun he => ?_⟩
        replace he : 0 < s.timeoutTimer.expired + s.timeoutTimer.waiting := he
        omega
      · exact ⟨rfl, rfl, id, Or.inl⟩
  obtain ⟨hone, haborted, hexpiry, hwaiting, hexpired⟩ := hsame
  refine ⟨?_, ?_, ?_, ?_, ?_⟩
  · rw [htimer, hone]
    exact h.one
  · rw [htimer, hone, hpc]
    exact h.before
  · rw [htimer, hmap, hexpiry]
    exact fun hw => h.waiting (hwaiting hw)
  · rw [htimer, hmap, hnow']
    intro he e hin hu
    rcases hexpired he with he | ⟨hw, hle⟩
    · exact (h.expired he e hin hu).trans hnow
    · exact ((h.waiting hw e hin hu).trans hle).trans hnow
  · rw [htimer, hmap, haborted]
    exact h.aborted

theorem Punctual.step {s t : State} {event : Event} (h : Punctual p s)
    (hc : AloneInterval s event) (hs : step p (methods p) s event = .ok t) : Punctual p t := by
  have hacc := (h.accounted.step hs).1
  have hr := step_result p (methods p) s event
  rw [hs] at hr
  generalize hres : (Except.ok t : Except Assure State) = r at hr
  cases hr with
  | quiet event now timer _ stop _ hnow htimeout _ hstop _ =>
    cases hres
    refine ⟨hacc, h.statuses, h.written, h.empty, fun hno => ?_⟩
    replace hno : stop = false := hno
    have hrun : s.stopRequested = false := by
      rcases hstop with rfl | ⟨-, rfl⟩
      · exact hno
      · cases hno
    have htimer : timer = s.timeoutTimer ∨ timer = s.timeoutTimer.expire s.now := ?_
    · exact (h.guarded hrun).elapsed hnow htimer rfl rfl rfl rfl
    rcases htimeout with heq | heq | ⟨hyes, -⟩
    · exact Or.inl heq
    · exact Or.inr heq
    · rw [hrun] at hyes
      cases hyes
  | restart event intervalTimer hevent _ =>
    cases hres
    have hprep := prepareRun_prepared (p := p) true { s with intervalTimer }
    refine ⟨hacc, ?_, ?_, fun _ => hprep.resultsMap, fun hno => .of_unused ?_⟩
    · show ∀ e ∈ (prepareRun p true { s with intervalTimer }).1.resultsMap, _
      rw [hprep.resultsMap]
      exact fun e he => absurd he List.not_mem_nil
    · show ∀ r ∈ (prepareRun p true { s with intervalTimer }).1.roundsWritten, _
      rw [hprep.roundsWritten]
      exact h.written
    · show (prepareRun p true { s with intervalTimer }).1.timeoutTimer.outstanding = 0
      rw [hprep.timeoutTimer]
      have hstop : s.stopRequested = false := hprep.stopRequested.symm.trans hno
      rcases hevent with ⟨-, hpc⟩ | ⟨rfl, -⟩
      · exact (h.guarded hstop).before (by rw [hpc]; decide)
      · exact hc rfl hstop
  | burst inputs hpc =>
    have hne : s.pc ≠ .idle := by
      rw [hpc]
      decide
    refine Punctual.sendRequests (s := { s with pc := .idle })
      (h.accounted.congr ⟨rfl, rfl, rfl⟩) h.statuses h.written rfl
      (fun hstop => (h.guarded hstop).before hne) (fun _ e he _ => ?_) hres.symm
    have hnil : s.resultsMap = [] := h.empty hne
    rw [hnil] at he
    exact absurd he List.not_mem_nil
  | timeout aborted inputs timer s' hpc htake hs' =>
    have hacc' : Accounted s' := by
      rw [hs']
      exact h.accounted.congr ⟨rfl, rfl, rfl⟩
    refine Punctual.timeout hacc' ?_ ?_ ?_ ?_ ?_ hres.symm
    all_goals rw [hs']
    · exact h.statuses
    · exact h.written
    · exact hpc
    · intro hstop
      have hout := WaitTimer.take_outstanding htake
      have hone := (h.guarded hstop).one
      show timer.outstanding = 0
      omega
    · -- the handler was queued because the requests were due, or all of them had been answered
      intro hstop e he hu
      have hg := h.guarded hstop
      rcases WaitTimer.take_cases htake with ⟨-, hpos, -⟩ | ⟨-, hpos, -⟩
      · exact absurd hu (hg.aborted hpos e he)
      · exact hg.expired hpos e he hu
  | response message data hpc =>
    cases hres
    exact h.response hpc (handleResponse_result _ message data h.accounted.nodup)

/-! ## Runs -/

/-- **Timeouts.**  If no interval event is handled while the timeout timer is in use, an entry that
is written as a timeout was sent at least `Expiration` milliseconds before. -/
theorem timeouts_not_premature (now : Nat) (seqNumber : UInt16)
    (destinations : List DestinationInfo) (events : List Event) {s : State}
    (hc : Run.Meets (step p (methods p)) AloneInterval (State.start p now seqNumber destinations)
      events)
    (h : Run.exec (step p (methods p)) (State.start p now seqNumber destinations) events = .ok s) :
    ∀ r ∈ s.roundsWritten, ∀ e ∈ r.entries, e.status = .timeout →
      e.sendTime .application + p.expiration * 1000000 ≤ r.writtenAt :=
  (Run.exec_invariant (fun _ _ _ hs hc hst => Punctual.step hs hc hst)
    (.start p now seqNumber destinations) hc h).written

/-- A service with a single hop. -/
def oneHop : Parameters :=
  { udpTraceroute with
    rounds := 1
    initialMaxTTL := 1
    finalMaxTTL := 1
    rounds_pos := by decide
    initialMaxTTL_pos := by decide
    initialMaxTTL_le := by decide }

/-- A run that ends with a timeout after three seconds. -/
def expiredRun : List Event :=
  [.run, .sendRequests allSent, .elapse 3000000000, .timeoutTimerExpires,
    .timeoutEvent false allSent]

theorem timeouts_not_premature_expired :
    ∃ s, Run.exec (step oneHop (methods oneHop))
        (State.start oneHop 0 65530 [⟨.v4 0x0a000002, 0⟩]) expiredRun = .ok s ∧
      ∀ r ∈ s.roundsWritten, ∀ e ∈ r.entries, e.status = .timeout →
        e.sendTime .application + 3000000000 ≤ r.writtenAt := by
  obtain ⟨s, hs⟩ := Run.exists_of_isOk (show (Run.exec (step oneHop (methods oneHop))
    (State.start oneHop 0 65530 [⟨.v4 0x0a000002, 0⟩]) expiredRun).isOk = true by decide +kernel)
  have hexpiration : oneHop.expiration * 1000000 = 3000000000 := rfl
  have hdue := timeouts_not_premature 0 65530 [⟨.v4 0x0a000002, 0⟩] expiredRun
    (Run.meets_of_forall _ (fun event hin s => ?_) _) hs
  · rw [hexpiration] at hdue
    exact ⟨s, hs, hdue⟩
  · rintro rfl
    simp [expiredRun] at hin

/-- A destination is added while the handler of the interval timer is queued: the second handler
starts a run in the middle of the first one, whose timer ends with an error. -/
def addedRun : List Event :=
  [.run, .sendRequests allSent, .elapse 10000000000, .intervalTimerExpires,
    .addDestination ⟨.v4 0x0a000002, 0⟩, .intervalEvent false, .sendRequests allSent,
    .intervalTimerExpires, .intervalEvent false, .sendRequests allSent,
    .timeoutEvent true allSent]

/-- The request that has just been sent is written as a timeout. -/
theorem added_destination_times_out :
    ∃ s, Run.exec (step oneHop (methods oneHop)) (State.start oneHop 0 65530 []) addedRun =
        .ok s ∧
      ∃ r ∈ s.roundsWritten, ∃ e ∈ r.entries, e.status = .timeout ∧
        r.writtenAt < e.sendTime .application + oneHop.expiration * 1000000 := by
  obtain ⟨s, hs, htest⟩ := Run.exists_of_passes (show Run.passes
    (fun s : State => s.roundsWritten.any fun r => r.entries.any fun e =>
      decide (e.status = .timeout ∧
        r.writtenAt < e.sendTime .application + oneHop.expiration * 1000000))
    (Run.exec (step oneHop (methods oneHop)) (State.start oneHop 0 65530 []) addedRun) = true by
      decide +kernel)
  obtain ⟨r, hr, hentries⟩ := List.any_eq_true.mp htest
  obtain ⟨e, he, hearly⟩ := List.any_eq_true.mp hentries
  exact ⟨s, hs, r, hr, e, he, of_decide_eq_true hearly⟩

end HiPerConTracer.Service
