import HiPerConTracer.Service.TTLs
import HiPerConTracer.Lib.Run
import Mathlib.Data.List.Infix

/-!
# `OutstandingRequests` counts the unanswered requests

In every state of a run of Traceroute, between two handlers, `OutstandingRequests` is the number of
entries with status `Unknown`, whatever responses there are and whichever requests fail to be sent
(`Accounted`).  So the decrement in `newResult` never saturates, and `noMoreOutstandingRequests` is
called for the last unanswered request only.

The timeout timer is started for every window, but only a response cancels it.  So a run waits
although no request is unanswered exactly if a window is sent that has none out (`step_waits_iff`):

    exec … events = .ok s → Accounting s ∧
      (each state of the run waits for requests only ↔ each window sent has a request out)
                                                                   (outstandingRequests_accounting)
-/

namespace HiPerConTracer.Service
open Net IOModule Traceroute

/-- Entries without a response so far. -/
def unanswered (resultsMap : List ResultEntry) : Nat :=
  resultsMap.countP fun e => e.status = .unknown

@[simp] theorem unanswered_append (l l' : List ResultEntry) :
    unanswered (l ++ l') = unanswered l + unanswered l' := List.countP_append

@[simp] theorem unanswered_cons (e : ResultEntry) (l : List ResultEntry) :
    unanswered (e :: l) = unanswered l + if e.status = .unknown then 1 else 0 := by
  unfold unanswered
  rw [List.countP_cons]
  simp only [decide_eq_true_eq]

theorem unanswered_pos {l : List ResultEntry} :
    0 < unanswered l ↔ ∃ e ∈ l, e.status = .unknown := by
  unfold unanswered
  rw [List.countP_pos_iff]
  simp only [decide_eq_true_eq]

theorem unanswered_eq_zero {l : List ResultEntry} :
    unanswered l = 0 ↔ ∀ e ∈ l, e.status ≠ .unknown := by
  unfold unanswered
  rw [List.countP_eq_zero]
  simp only [decide_eq_true_eq, ne_eq]

theorem HopStatus.isResponse_ne_unknown {s : HopStatus} (h : s.isResponse = true) :
    s ≠ .unknown := by
  rintro rfl
  exact absurd h (by decide)

variable {p : Parameters}

/-! ## The invariant -/

structure Accounted (s : State) : Prop where
  good : GoodTargets s.targetChecksumArray
  nodup : (s.resultsMap.map (·.seqNumber)).Nodup
  outstanding : s.outstandingRequests = unanswered s.resultsMap

/-- The requests of two states are the same. -/
structure SameRequests (s t : State) : Prop where
  targetChecksumArray : t.targetChecksumArray = s.targetChecksumArray
  resultsMap : t.resultsMap = s.resultsMap
  outstandingRequests : t.outstandingRequests = s.outstandingRequests

theorem Accounted.congr {s t : State} (h : Accounted s) (hsame : SameRequests s t) : Accounted t := by
  constructor
  · rw [hsame.targetChecksumArray]
    exact h.good
  · rw [hsame.resultsMap]
    exact h.nodup
  · rw [hsame.outstandingRequests, hsame.resultsMap]
    exact h.outstanding

theorem goodTargets_unset : GoodTargets fun _ => 0xffffffff := fun _ => Or.inl rfl

theorem Accounted.start (p : Parameters) (now : Nat) (seqNumber : UInt16)
    (destinations : List DestinationInfo) :
    Accounted (State.start p now seqNumber destinations) :=
  ⟨fun _ => Or.inr (by show 0 < 0xffff; decide), List.nodup_nil, rfl⟩

/-- A new run has no requests. -/
theorem Accounted.prepareRun {s : State} (h : GoodTargets s.targetChecksumArray)
    (newRound : Bool) : Accounted (prepareRun p newRound s).1 ∧
      (Traceroute.prepareRun p newRound s).1.completions = s.completions := by
  obtain ⟨_, _, _, targets, heq, htargets⟩ := prepareRun_cases (p := p) newRound s
  rw [heq]
  refine ⟨⟨?_, List.nodup_nil, rfl⟩, rfl⟩
  rcases htargets with rfl | rfl
  · exact h
  · exact goodTargets_unset

theorem Accounted.sendRequests {inputs : Inputs} {s t : State} (h : Accounted s)
    (hsend : sendRequests p inputs s = .ok t) : Accounted t ∧ t.completions = s.completions := by
  cases sendRequests_result h.good hsend with
  | waiting _ _ _ _ _ => exact ⟨h.congr ⟨rfl, rfl, rfl⟩, rfl⟩
  | skipped _ _ _ => exact ⟨h.congr ⟨rfl, rfl, rfl⟩, rfl⟩
  | sent d hd hmin hle io n new hsent =>
    refine ⟨⟨hsent.good, hsent.nodup h.nodup, ?_⟩, rfl⟩
    show s.outstandingRequests + n = unanswered io.resultsMap
    rw [hsent.resultsMap, unanswered_append, h.outstanding, hsent.unknown]
    rfl

/-- One entry is replaced by one with the same request. -/
theorem nodup_replaced {l₁ l₂ : List ResultEntry} {e e' : ResultEntry}
    (hreq : e'.request = e.request) (h : ((l₁ ++ e :: l₂).map (·.seqNumber)).Nodup) :
    ((l₁ ++ e' :: l₂).map (·.seqNumber)).Nodup := by
  have hseq : e'.seqNumber = e.seqNumber := congrArg ResultEntry.Request.seqNumber hreq
  rw [List.map_append, List.map_cons] at h ⊢
  rw [hseq]
  exact h

/-- What a response does to the counter, and when it calls `noMoreOutstandingRequests`. -/
theorem Accounted.response {data : ReceivedData} {s t : State} (h : Accounted s)
    (hr : ResponseResult p (methods p) data s t) :
    Accounted t ∧
      (unanswered t.resultsMap = unanswered s.resultsMap ∧ t.completions = s.completions ∨
        t.outstandingRequests + 1 = s.outstandingRequests ∧
          t.completions = s.completions + if t.outstandingRequests = 0 then 1 else 0) := by
  cases hr with
  | ignored => exact ⟨h, Or.inl ⟨rfl, rfl⟩⟩
  | later l₁ e l₂ hmap hstatus =>
    have hun : unanswered (l₁ ++ withSource data e :: l₂) = unanswered s.resultsMap := by
      rw [hmap]
      simp only [unanswered_append, unanswered_cons, status_withSource]
    refine ⟨⟨h.good, ?_, h.outstanding.trans hun.symm⟩, Or.inl ⟨hun, rfl⟩⟩
    exact nodup_replaced (request_withSource data e) (hmap ▸ h.nodup)
  | first l₁ e e' l₂ hmap hunknown hrequest hhop hstatus =>
    have hne := HopStatus.isResponse_ne_unknown hstatus
    have hout : s.outstandingRequests = unanswered (l₁ ++ e' :: l₂) + 1 := by
      rw [h.outstanding, hmap]
      simp only [unanswered_append, unanswered_cons, if_pos hunknown, if_neg hne]
      omega
    rw [newResult_eq]
    refine ⟨⟨h.good, nodup_replaced hrequest (hmap ▸ h.nodup), ?_⟩, Or.inr ⟨?_, ?_⟩⟩
    · show s.outstandingRequests - 1 = unanswered (l₁ ++ e' :: l₂)
      omega
    · show s.outstandingRequests - 1 + 1 = s.outstandingRequests
      omega
    · show (if s.outstandingRequests - 1 = 0 then s.completions + 1 else s.completions) = _
      by_cases h0 : s.outstandingRequests - 1 = 0
      · simp only [h0, if_true]
      · simp only [h0, if_false, Nat.add_zero]

/-- Every step keeps the account, and only a response calls `noMoreOutstandingRequests`. -/
theorem Accounted.step {s t : State} {event : Event} (h : Accounted s)
    (hs : step p (methods p) s event = .ok t) :
    Accounted t ∧ (t.completions = s.completions ∨
      ∃ message data, event = .response message data) := by
  have hr := step_result p (methods p) s event
  rw [hs] at hr
  generalize hres : (Except.ok t : Except Assure State) = r at hr
  cases hr with
  | quiet _ _ _ _ _ _ _ _ _ _ _ =>
    cases hres
    exact ⟨h.congr ⟨rfl, rfl, rfl⟩, Or.inl rfl⟩
  | restart _ intervalTimer _ _ =>
    cases hres
    obtain ⟨hprep, hc⟩ := Accounted.prepareRun (p := p) (s := { s with intervalTimer }) h.good true
    exact ⟨hprep.congr ⟨rfl, rfl, rfl⟩, Or.inl hc⟩
  | burst inputs hpc =>
    have h' : Accounted { s with pc := .idle } := h.congr ⟨rfl, rfl, rfl⟩
    obtain ⟨ht, hc⟩ := h'.sendRequests hres.symm
    exact ⟨ht, Or.inl hc⟩
  | timeout aborted inputs timer s' hpc htake hs' =>
    have h' : Accounted s' := by
      rw [hs']
      exact h.congr ⟨rfl, rfl, rfl⟩
    have hc : s'.completions = s.completions := by rw [hs']
    cases handleTimeoutEvent_ok hres.symm with
    | stopped _ ht =>
      rw [ht]
      exact ⟨h', Or.inl hc⟩
    | again _ u _ _ _ _ _ hu hsend =>
      have hacc : Accounted u := by
        rw [hu]
        exact h'.congr ⟨rfl, rfl, rfl⟩
      obtain ⟨ht, hcu⟩ := hacc.sendRequests hsend
      exact ⟨ht, Or.inl (hcu.trans (by rw [hu, hc]))⟩
    | next _ _ _ u _ _ _ hu hsend =>
      obtain ⟨hprep, hcu⟩ := Accounted.prepareRun (p := p) (s := u) (by rw [hu]; exact h'.good)
        false
      obtain ⟨ht, hct⟩ := hprep.sendRequests hsend
      exact ⟨ht, Or.inl (hct.trans (hcu.trans (by rw [hu, hc])))⟩
    | last _ _ _ u _ _ _ hu ht =>
      obtain ⟨hprep, hcu⟩ := Accounted.prepareRun (p := p) (s := u) (by rw [hu]; exact h'.good)
        false
      obtain ⟨_, _, _, heq, -⟩ := scheduleIntervalEvent_cases (p := p) inputs.random
        (Traceroute.prepareRun p false u).1
      rw [ht, heq]
      exact ⟨hprep.congr ⟨rfl, rfl, rfl⟩, Or.inl (hcu.trans (by rw [hu, hc]))⟩
  | response message data hpc =>
    cases hres
    exact ⟨(h.response (handleResponse_result _ message data h.nodup)).1, Or.inr ⟨_, _, rfl⟩⟩

/-! ## Waiting -/

/-- A run that has sent a window waits for the timeout timer only while a request is unanswered. -/
def WaitsForRequests (s : State) : Prop :=
  s.windows ≠ [] → 0 < s.timeoutTimer.waiting → 0 < s.outstandingRequests

instance (s : State) : Decidable (WaitsForRequests s) := inferInstanceAs (Decidable (_ → _ → _))

/-- The state in which the timeout handler calls `sendRequests`: for the next window, or for the
first one of a new run. -/
def timeoutSends (p : Parameters) (s : State) : Option State :=
  if s.stopRequested then none
  else
    match s.nextWindow (methods p) with
    | (s, true) => some s
    | (s, false) =>
      match prepareRun p false s with
      | (s, false) => some s
      | (_, true) => none

/-- The state in which the handler of an event calls `sendRequests`, and what that gets. -/
def sendingState (p : Parameters) (s : State) : Event → Option (Inputs × State)
  | .sendRequests inputs => if s.pc = .prepared then some (inputs, { s with pc := .idle }) else none
  | .timeoutEvent aborted inputs =>
    match s.pc, s.timeoutTimer.take aborted with
    | .idle, some timer =>
      (timeoutSends p { s with timeoutTimer := timer }).map fun u => (inputs, u)
    | _, _ => none
  | _ => none

/-- The window that is sent has a request out: one of the windows before it is unanswered, or the
traffic class can be set and one of its messages is sent. -/
def WindowOut (p : Parameters) (inputs : Inputs) (s : State) : Prop :=
  (∃ e ∈ s.resultsMap, e.status = .unknown) ∨
    (p.io.protocol = .icmp → inputs.trafficClassSet 0 = true) ∧
      ∃ i < (roundsAndTTLs s.maxTTL s.minTTL 0 (p.rounds - 1)).length,
        (inputs.outcomes 0 i).success = true

/-- If the event sends a window, the window has a request out. -/
def RequestOut (p : Parameters) (s : State) (event : Event) : Prop :=
  ∀ inputs u d, sendingState p s event = some (inputs, u) → u.destinationIterator = some d →
    WindowOut p inputs u

/-- Between `prepareRun` and `sendRequests` no window has been sent. -/
structure Tracked (s : State) : Prop where
  accounted : Accounted s
  windows : s.pc ≠ .idle → s.windows = []

theorem sendRequests_pc {inputs : Inputs} {s t : State} (h : Accounted s)
    (hsend : Traceroute.sendRequests p inputs s = .ok t) : t.pc = s.pc :=
  (sendRequests_result h.good hsend).pc

/-- A window with nothing out is waited for all the same. -/
theorem sendRequests_waits_iff {inputs : Inputs} {s t : State} {d : DestinationInfo}
    (h : Accounted s) (hd : s.destinationIterator = some d)
    (hsend : Traceroute.sendRequests p inputs s = .ok t) :
    WaitsForRequests t ↔ WindowOut p inputs s := by
  unfold Traceroute.sendRequests at hsend
  rw [hd] at hsend
  dsimp only at hsend
  split at hsend
  · cases hsend
  · split at hsend
    · cases hsend
    · next io n hio =>
      cases hsend
      unfold WaitsForRequests WindowOut
      rw [← unanswered_pos, ← h.outstanding, ← p.io.sendRequest_sends_iff hio]
      have hwindows : s.windows ++ [(s.minTTL, s.maxTTL)] ≠ [] := by simp
      constructor
      · intro hw
        have hpos : 0 < s.outstandingRequests + n := hw hwindows (Nat.succ_pos _)
        omega
      · intro hpos _ _
        show 0 < s.outstandingRequests + n
        omega

/-- Without a destination, nothing is sent. -/
theorem sendRequests_windows {inputs : Inputs} {s t : State}
    (hd : s.destinationIterator = none)
    (hsend : Traceroute.sendRequests p inputs s = .ok t) : t.windows = s.windows := by
  unfold Traceroute.sendRequests at hsend
  rw [hd] at hsend
  cases hsend
  obtain ⟨_, _, _, heq, -⟩ := scheduleIntervalEvent_cases (p := p) inputs.random s
  rw [heq]

/-- A new run does not depend on the results that have been processed. -/
theorem prepareRun_processed {s u : State} (h : Traceroute.processResults p s = .ok u) :
    ∃ roundsWritten, Traceroute.prepareRun p false u =
      ({ (Traceroute.prepareRun p false s).1 with roundsWritten },
        (Traceroute.prepareRun p false s).2) := by
  obtain ⟨resultsMap, rounds, -, rfl⟩ := processResults_cases h
  refine ⟨s.roundsWritten ++ rounds, ?_⟩
  obtain ⟨_, _, _, _, destinations, iterator, _⟩ := s
  unfold Traceroute.prepareRun
  cases iterator with
  | none => rfl
  | some d => cases p.removeDestinationAfterRun <;> rfl

/-- The timeout handler sends a window in the state that `timeoutSends` tells, or there is none in
progress behind it. -/
theorem handleTimeoutEvent_sends {inputs : Inputs} {s t : State} (h : Accounted s)
    (hs : handleTimeoutEvent p (methods p) inputs s = .ok t) :
    timeoutSends p s = none ∧ (t = s ∨ t.windows = []) ∨
      ∃ u roundsWritten, timeoutSends p s = some u ∧ Accounted u ∧ u.pc = s.pc ∧
        u.destinationIterator ≠ none ∧
        Traceroute.sendRequests p inputs { u with roundsWritten } = .ok t := by
  have hr := handleTimeoutEvent_result p (methods p) inputs s
  generalize handleTimeoutEvent p (methods p) inputs s = r at hr hs
  unfold timeoutSends
  cases hr with
  | stopped hstop =>
    cases hs
    rw [if_pos hstop]
    exact Or.inl ⟨rfl, Or.inl rfl⟩
  | again v hstop hwindow =>
    obtain ⟨⟨d, hd⟩, -, -, _, -, hv⟩ := nextWindow_true hwindow
    rw [hstop, if_neg Bool.false_ne_true, hwindow]
    refine Or.inr ⟨v, v.roundsWritten, rfl, ?_, by rw [hv], by rw [hv, hd]; simp, hs⟩
    rw [hv]
    exact h.congr ⟨rfl, rfl, rfl⟩
  | failed _ _ _ _ _ => cases hs
  | next v u w hstop hwindow hprocess hrun =>
    obtain ⟨_, -, hv⟩ := nextWindow_false hwindow
    obtain ⟨roundsWritten, heq⟩ := prepareRun_processed hprocess
    have hprepared := prepareRun_prepared (p := p) false v
    obtain ⟨haccounted, -⟩ := Accounted.prepareRun (p := p) (s := v) (by rw [hv]; exact h.good)
      false
    have hrun' : Traceroute.prepareRun p false u = (w, false) := hrun
    rw [hstop, if_neg Bool.false_ne_true, hwindow]
    rcases hnew : Traceroute.prepareRun p false v with ⟨x, done⟩
    rw [hnew] at heq hprepared haccounted
    obtain ⟨hw, rfl⟩ := Prod.mk.inj (hrun'.symm.trans heq)
    refine Or.inr ⟨x, roundsWritten, by simp only [hnew], haccounted, ?_, ?_, ?_⟩
    · rw [hprepared.pc, hv]
    · intro hno
      have hdone := hprepared.done
      rw [hno] at hdone
      cases hdone
    · rw [← hw]
      exact hs
  | last v u w hstop hwindow hprocess hrun =>
    cases hs
    obtain ⟨roundsWritten, heq⟩ := prepareRun_processed hprocess
    have hprepared := prepareRun_prepared (p := p) false u
    have hrun' : Traceroute.prepareRun p false u = (w, true) := hrun
    rw [hrun'] at hprepared
    rw [hstop, if_neg Bool.false_ne_true, hwindow]
    rcases hnew : Traceroute.prepareRun p false v with ⟨x, done⟩
    rw [hnew] at heq
    obtain ⟨-, rfl⟩ := Prod.mk.inj (hrun'.symm.trans heq)
    obtain ⟨_, _, _, hinterval, -⟩ := scheduleIntervalEvent_cases (p := p) inputs.random w
    rw [hinterval]
    exact Or.inl ⟨by simp only [hnew], Or.inr hprepared.windows⟩

section
variable {s t u : State} {event : Event} {inputs : Inputs}

theorem step_timeoutEvent {aborted : Bool} {timer : WaitTimer} (hpc : s.pc = .idle)
    (htake : s.timeoutTimer.take aborted = some timer) :
    Service.step p (methods p) s (.timeoutEvent aborted inputs) =
        handleTimeoutEvent p (methods p) inputs { s with timeoutTimer := timer } ∧
      sendingState p s (.timeoutEvent aborted inputs) =
        (timeoutSends p { s with timeoutTimer := timer }).map fun u => (inputs, u) := by
  constructor
  · simp only [Service.step]
    split
    · next timer' _ htake' =>
      rw [htake] at htake'
      cases htake'
      rfl
    · next hno => exact absurd htake (hno timer hpc)
  · simp only [sendingState]
    split
    · next timer' _ htake' =>
      rw [htake] at htake'
      cases htake'
      rfl
    · next hno => exact absurd htake (hno timer hpc)

/-- An event that sends a window calls `sendRequests` in the state that `sendingState` tells. -/
theorem step_sends (h : Tracked s) (hsends : sendingState p s event = some (inputs, u))
    (hs : Service.step p (methods p) s event = .ok t) :
    Accounted u ∧ (u.destinationIterator = none → u.windows = []) ∧
      ∃ roundsWritten, Traceroute.sendRequests p inputs { u with roundsWritten } = .ok t := by
  have hacc := h.accounted
  cases event with
  | sendRequests inputs' =>
    simp only [sendingState] at hsends
    obtain ⟨hpc, heq⟩ := Option.ite_none_right_eq_some.mp hsends
    cases heq
    simp only [Service.step, hpc, if_true] at hs
    exact ⟨hacc.congr ⟨rfl, rfl, rfl⟩, fun _ => h.windows (by rw [hpc]; decide),
      s.roundsWritten, hs⟩
  | timeoutEvent aborted inputs' =>
    have hsends' := hsends
    simp only [sendingState] at hsends'
    split at hsends'
    · next timer hpc htake =>
      obtain ⟨hstep, hsending⟩ := @step_timeoutEvent p s inputs' aborted timer hpc htake
      rw [hstep] at hs
      rw [hsending] at hsends
      obtain ⟨v, hv, heq⟩ := Option.map_eq_some_iff.mp hsends
      cases heq
      have hacc' : Accounted { s with timeoutTimer := timer } :=
        hacc.congr ⟨rfl, rfl, rfl⟩
      rcases handleTimeoutEvent_sends hacc' hs with
        ⟨hno, -⟩ | ⟨w, roundsWritten, hw, haccounted, -, hd, hsend⟩
      · rw [hv] at hno
        cases hno
      · obtain rfl := Option.some.inj (hv.symm.trans hw)
        exact ⟨haccounted, fun hno => absurd hno hd, roundsWritten, hsend⟩
    · cases hsends'
  | _ => cases hsends

/-- Without a window that is sent, a wait needs the unanswered request that there was before. -/
theorem waits_of_not_sent (h : Tracked s) (hw : WaitsForRequests s)
    (hno : sendingState p s event = none) (hs : Service.step p (methods p) s event = .ok t) :
    WaitsForRequests t := by
  have hr := step_result p (methods p) s event
  generalize Service.step p (methods p) s event = r at hr hs
  cases hr with
  | quiet _ _ timeoutTimer _ _ _ _ htimeout _ _ _ =>
    cases hs
    intro hne hpos
    refine hw hne ?_
    rcases htimeout with rfl | rfl | ⟨-, rfl⟩
    · exact hpos
    · exact Nat.lt_of_lt_of_le hpos (s.timeoutTimer.expire_waiting_le s.now)
    · exact absurd hpos (by simp)
  | restart _ intervalTimer _ _ =>
    cases hs
    exact fun hne => absurd (prepareRun_prepared (p := p) true { s with intervalTimer }).windows hne
  | burst inputs hpc =>
    simp only [sendingState, hpc, if_true] at hno
    cases hno
  | timeout aborted inputs timer s' hpc htake hs' =>
    subst hs'
    have hacc := h.accounted
    rw [(step_timeoutEvent hpc htake).2, Option.map_eq_none_iff] at hno
    have hacc' : Accounted { s with timeoutTimer := timer } :=
      hacc.congr ⟨rfl, rfl, rfl⟩
    rcases handleTimeoutEvent_sends hacc' hs with
      ⟨-, rfl | hwindows⟩ | ⟨u, _, hu, -⟩
    · exact fun hne hpos => hw hne (WaitTimer.take_waiting htake ▸ hpos)
    · exact fun hne => absurd hwindows hne
    · rw [hno] at hu
      cases hu
  | response message data hpc =>
    cases hs
    have hr := handleResponse_result (p := p) (methods p) message data h.accounted.nodup
    generalize handleResponse p (methods p) message data s = t at hr
    cases hr with
    | ignored => exact hw
    | later _ _ _ _ _ => exact hw
    | first l₁ e e' l₂ hmap hunknown hrequest hhop hstatus =>
      rw [newResult_eq]
      intro hne hpos
      by_cases hlast : s.outstandingRequests - 1 = 0
      · replace hpos : 0 < (if s.outstandingRequests - 1 = 0 then s.timeoutTimer.cancel
          else s.timeoutTimer).waiting := hpos
        rw [if_pos hlast] at hpos
        exact absurd hpos (by simp)
      · exact Nat.pos_of_ne_zero hlast

/-- A step ends with a wait for requests exactly if the window that it sends has one out. -/
theorem step_waits_iff (h : Tracked s) (hw : WaitsForRequests s)
    (hs : Service.step p (methods p) s event = .ok t) :
    WaitsForRequests t ↔ RequestOut p s event := by
  cases hsends : sendingState p s event with
  | none =>
    refine iff_of_true (waits_of_not_sent h hw hsends hs) fun inputs u d hu => ?_
    rw [hsends] at hu
    cases hu
  | some r =>
    obtain ⟨inputs, u⟩ := r
    obtain ⟨haccounted, hwindows, roundsWritten, hsend⟩ := step_sends h hsends hs
    cases hd : u.destinationIterator with
    | none =>
      refine iff_of_true (fun hne => absurd ?_ hne) fun inputs' u' d hu hd' => ?_
      · exact (sendRequests_windows (s := { u with roundsWritten }) hd hsend).trans (hwindows hd)
      · rw [hsends] at hu
        cases hu
        rw [hd] at hd'
        cases hd'
    | some d =>
      rw [sendRequests_waits_iff (s := { u with roundsWritten })
        (haccounted.congr ⟨rfl, rfl, rfl⟩) hd hsend]
      constructor
      · intro hout inputs' u' d' hu _
        rw [hsends] at hu
        cases hu
        exact hout
      · exact fun hout => hout inputs u d hsends hd

end

theorem Tracked.step {s t : State} {event : Event} (h : Tracked s)
    (hs : Service.step p (methods p) s event = .ok t) : Tracked t := by
  have hacc := h.accounted
  refine ⟨(hacc.step hs).1, ?_⟩
  have hr := step_result p (methods p) s event
  generalize Service.step p (methods p) s event = r at hr hs
  cases hr with
  | quiet _ _ _ _ _ _ _ _ _ _ _ =>
    cases hs
    exact h.windows
  | restart _ intervalTimer _ _ =>
    cases hs
    exact fun _ => (prepareRun_prepared (p := p) true { s with intervalTimer }).windows
  | burst inputs hpc =>
    have hidle : t.pc = .idle := sendRequests_pc (s := { s with pc := .idle })
      (hacc.congr ⟨rfl, rfl, rfl⟩) hs
    exact fun hne => absurd hidle hne
  | timeout aborted inputs timer s' hpc htake hs' =>
    subst hs'
    have hacc' : Accounted { s with timeoutTimer := timer } :=
      hacc.congr ⟨rfl, rfl, rfl⟩
    rcases handleTimeoutEvent_sends hacc' hs with
      ⟨-, rfl | hwindows⟩ | ⟨u, roundsWritten, -, hu, hpcu, -, hsend⟩
    · exact fun hne => absurd hpc hne
    · exact fun _ => hwindows
    · have hidle : t.pc = u.pc := sendRequests_pc (s := { u with roundsWritten })
        (hu.congr ⟨rfl, rfl, rfl⟩) hsend
      exact fun hne => absurd (hidle.trans (hpcu.trans hpc)) hne
  | response message data hpc =>
    cases hs
    have hr := handleResponse_result (p := p) (methods p) message data hacc.nodup
    have hidle : (handleResponse p (methods p) message data s).pc = s.pc := by
      generalize handleResponse p (methods p) message data s = t at hr
      cases hr with
      | ignored => rfl
      | later _ _ _ _ _ => rfl
      | first _ _ _ _ _ _ _ _ _ => rw [newResult_eq]
    exact fun hne => absurd (hidle.trans hpc) hne

/-! ## Runs -/

/-- The event is the response to the last unanswered request. -/
def LastAnswered (s t : State) (event : Event) : Prop :=
  (∃ message data, event = .response message data) ∧
    0 < unanswered s.resultsMap ∧ unanswered t.resultsMap = 0

/-- The accounting of a state between two handlers. -/
structure Accounting (p : Parameters) (s : State) : Prop where
  outstanding : s.outstandingRequests = unanswered s.resultsMap
  /-- `noMoreOutstandingRequests` is called once for the last response, and not otherwise. -/
  completions : ∀ event t, step p (methods p) s event = .ok t →
    LastAnswered s t event ∧ t.completions = s.completions + 1 ∨
      ¬ LastAnswered s t event ∧ t.completions = s.completions
  /-- When `newResult` is called, there is something to decrement. -/
  not_saturated : ∀ d icmpType icmpCode seqNumber length resultsMap e,
    p.io.recordResult d icmpType icmpCode seqNumber length s.resultsMap = (resultsMap, some e) →
      0 < s.outstandingRequests

theorem Accounted.completions {s t : State} {event : Event} (h : Accounted s)
    (hs : Service.step p (methods p) s event = .ok t) :
    LastAnswered s t event ∧ t.completions = s.completions + 1 ∨
      ¬ LastAnswered s t event ∧ t.completions = s.completions := by
  obtain ⟨ht, hc⟩ := h.step hs
  by_cases hev : ∃ message data, event = .response message data
  · obtain ⟨message, data, rfl⟩ := hev
    have hr := step_result p (methods p) s (.response message data)
    rw [hs] at hr
    generalize hres : (Except.ok t : Except Assure State) = r at hr
    cases hr with
    | quiet _ _ _ _ _ _ _ _ _ _ _ =>
      cases hres
      exact Or.inr ⟨fun hl => absurd hl.2.1 (hl.2.2 ▸ Nat.lt_irrefl 0), rfl⟩
    | restart _ _ hevent _ => rcases hevent with ⟨he, -⟩ | ⟨he, -⟩ <;> cases he
    | response _ _ hpc =>
      cases hres
      obtain ⟨-, ⟨hun, hcomp⟩ | ⟨hout, hcomp⟩⟩ :=
        h.response (handleResponse_result (methods p) message data h.nodup)
      · refine Or.inr ⟨fun hl => ?_, hcomp⟩
        have := hl.2.1
        have := hl.2.2
        omega
      · have hs := h.outstanding
        have ht := ht.outstanding
        by_cases h0 : (handleResponse p (methods p) message data s).outstandingRequests = 0
        · rw [if_pos h0] at hcomp
          exact Or.inl ⟨⟨⟨message, data, rfl⟩, by omega, by omega⟩, hcomp⟩
        · rw [if_neg h0] at hcomp
          exact Or.inr ⟨fun hl => h0 (ht.trans hl.2.2), hcomp⟩
  · rcases hc with hc | hc
    · exact Or.inr ⟨fun hl => hev hl.1, hc⟩
    · exact absurd hc hev

theorem Accounted.not_saturated {s : State} (h : Accounted s) {d : ReceivedData}
    {icmpType icmpCode : UInt8} {seqNumber : UInt16} {length : Nat}
    {resultsMap : List ResultEntry} {e : ResultEntry}
    (hrec : p.io.recordResult d icmpType icmpCode seqNumber length s.resultsMap =
      (resultsMap, some e)) : 0 < s.outstandingRequests := by
  have hr := p.io.recordResult_recorded d icmpType icmpCode seqNumber length h.nodup
  rw [hrec] at hr
  rw [h.outstanding]
  generalize hl : s.resultsMap = l at hr
  cases hr with
  | first l₁ e l₂ hunknown =>
    exact unanswered_pos.mpr ⟨e, List.mem_append_right _ List.mem_cons_self, hunknown⟩

/-- **`OutstandingRequests` counts the entries with status `Unknown`**, in every state of a run of
Traceroute, and the run waits for requests only exactly if each window that it sends has one out. -/
theorem outstandingRequests_accounting (p : Parameters) (now : Nat) (seqNumber : UInt16)
    (destinations : List DestinationInfo) (events : List Event) {s : State}
    (h : Run.exec (step p (methods p)) (State.start p now seqNumber destinations) events = .ok s) :
    Accounting p s ∧
      ((∀ before t, before <+: events →
          Run.exec (step p (methods p)) (State.start p now seqNumber destinations) before = .ok t →
          WaitsForRequests t) ↔
        Run.Meets (step p (methods p)) (RequestOut p) (State.start p now seqNumber destinations)
          events) := by
  have hstart : Tracked (State.start p now seqNumber destinations) :=
    ⟨.start p now seqNumber destinations, fun _ => rfl⟩
  have hacc : Accounted s := (Run.exec_invariant (fun _ _ _ hs _ hst => hs.step hst) hstart
    (Run.meets_true _ _ events) h).accounted
  refine ⟨⟨hacc.outstanding, fun event t ht => hacc.completions ht,
    fun d icmpType icmpCode seqNumber length resultsMap e hrec => hacc.not_saturated hrec⟩, ?_⟩
  exact Run.meets_iff_states (fun _ _ _ hs hst => Tracked.step hs hst)
    (fun _ _ _ hs hw hst => step_waits_iff hs hw hst) hstart (fun hne => absurd rfl hne) h

/-- Two windows, and one response, from the first router. -/
def twoWindows : List Event :=
  [.run, .sendRequests allSent,
    .response (.icmp 11 0 65532 56) (responseFrom (.v4 0x0a0000fe) 1000000),
    .elapse 3000000000, .timeoutTimerExpires, .timeoutEvent false allSent]

theorem accounting_two_windows :
    ∃ s, Run.exec (step udpTraceroute (methods udpTraceroute))
        (State.start udpTraceroute 0 65530 [⟨.v4 0x0a000002, 0⟩]) twoWindows = .ok s ∧
      Accounting udpTraceroute s ∧
      Run.Meets (step udpTraceroute (methods udpTraceroute)) (RequestOut udpTraceroute)
        (State.start udpTraceroute 0 65530 [⟨.v4 0x0a000002, 0⟩]) twoWindows := by
  obtain ⟨s, hs⟩ := Run.exists_of_isOk (show (Run.exec (step udpTraceroute (methods udpTraceroute))
    (State.start udpTraceroute 0 65530 [⟨.v4 0x0a000002, 0⟩]) twoWindows).isOk = true from rfl)
  have hall : ∀ before ∈ twoWindows.inits, Run.passes (fun t => decide (WaitsForRequests t))
      (Run.exec (step udpTraceroute (methods udpTraceroute))
        (State.start udpTraceroute 0 65530 [⟨.v4 0x0a000002, 0⟩]) before) = true := by
    decide +kernel
  obtain ⟨haccounting, hmeets⟩ := outstandingRequests_accounting udpTraceroute 0 65530
    [⟨.v4 0x0a000002, 0⟩] twoWindows hs
  refine ⟨s, hs, haccounting, hmeets.mp fun before t hbefore ht => ?_⟩
  have htest := hall before ((List.mem_inits _ _).mpr hbefore)
  rw [ht] at htest
  exact of_decide_eq_true htest

/-- The network cannot be reached. -/
def noneSent : Inputs where
  trafficClassSet := fun _ => true
  outcomes := fun _ _ => ⟨1, 1, some .networkUnreachable, 0⟩
  random := 0

/-- No request of the first window is sent: the run waits for the whole expiration time, with nothing
outstanding. -/
theorem failed_window_waits :
    ∃ s, Run.exec (step udpTraceroute (methods udpTraceroute))
        (State.start udpTraceroute 0 65530 [⟨.v4 0x0a000002, 0⟩])
        [.run, .sendRequests noneSent] = .ok s ∧
      s.timeoutTimer.expiry = s.now + 3000000000 ∧ s.resultsMap.length = 4 ∧
      unanswered s.resultsMap = 0 ∧ ¬ WaitsForRequests s := by
  have hpasses : Run.passes (fun s : State =>
      s.timeoutTimer.expiry == s.now + 3000000000 && s.resultsMap.length == 4 &&
        unanswered s.resultsMap == 0 && decide ¬ WaitsForRequests s)
      (Run.exec (step udpTraceroute (methods udpTraceroute))
        (State.start udpTraceroute 0 65530 [⟨.v4 0x0a000002, 0⟩])
        [.run, .sendRequests noneSent]) = true := by
    decide +kernel
  obtain ⟨s, hs, htest⟩ := Run.exists_of_passes hpasses
  simp only [Bool.and_eq_true, beq_iff_eq, decide_eq_true_eq] at htest
  obtain ⟨⟨⟨hexpiry, hlength⟩, hunanswered⟩, hwaits⟩ := htest
  exact ⟨s, hs, hexpiry, hlength, hunanswered, hwaits⟩

end HiPerConTracer.Service
