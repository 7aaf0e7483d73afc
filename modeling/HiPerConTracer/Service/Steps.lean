import HiPerConTracer.Service.SendRequest
import HiPerConTracer.Service.Traceroute

/-!
# What a step can do

One inversion theorem for each function of the service: the outcome is one of a few cases, each with
the guards that lead to it.  Invariants are proved from these cases.

    step p m s event = r → StepResult p m s event r                      (step_result)
    handleTimeoutEvent p m inputs s = r → TimeoutResult p m inputs s r   (handleTimeoutEvent_result)
    recordResult … resultsMap = r → Recorded … resultsMap r              (recordResult_recorded)
-/

namespace HiPerConTracer.Service
open Net

/-! ## Responses -/

namespace IOModule
variable (io : IOModule)

theorem request_withSource (d : ReceivedData) (e : ResultEntry) :
    (withSource d e).request = e.request := by
  unfold withSource
  split <;> rfl

theorem status_withSource (d : ReceivedData) (e : ResultEntry) :
    (withSource d e).status = e.status := by
  unfold withSource
  split <;> rfl

theorem request_answered (d : ReceivedData) (icmpType icmpCode : UInt8) (length : Nat)
    (e : ResultEntry) : (io.answered d icmpType icmpCode length e).request = e.request := rfl

theorem status_answered (d : ReceivedData) (icmpType icmpCode : UInt8) (length : Nat)
    (e : ResultEntry) :
    (io.answered d icmpType icmpCode length e).status = io.responseStatus icmpType icmpCode := rfl

/-- `recordResult` ignores the response, or it changes the entry of the response: that of a later
response gets a source address only. -/
inductive Recorded (d : ReceivedData) (icmpType icmpCode : UInt8) (length : Nat) :
    List ResultEntry → List ResultEntry × Option ResultEntry → Prop where
  | ignored (l : List ResultEntry) : Recorded d icmpType icmpCode length l (l, none)
  | later (l₁ : List ResultEntry) (e : ResultEntry) (l₂ : List ResultEntry)
      (h : e.status ≠ .unknown) :
      Recorded d icmpType icmpCode length (l₁ ++ e :: l₂) (l₁ ++ withSource d e :: l₂, none)
  | first (l₁ : List ResultEntry) (e : ResultEntry) (l₂ : List ResultEntry)
      (h : e.status = .unknown) :
      Recorded d icmpType icmpCode length (l₁ ++ e :: l₂)
        (l₁ ++ io.answered d icmpType icmpCode length (withSource d e) :: l₂,
          some (io.answered d icmpType icmpCode length (withSource d e)))

theorem replaceEntry_other {l : List ResultEntry} {e : ResultEntry}
    (h : ∀ x ∈ l, x.seqNumber ≠ e.seqNumber) : replaceEntry l e = l := by
  unfold replaceEntry
  conv_rhs => rw [← List.map_id l]
  exact List.map_congr_left fun x hx => if_neg (h x hx)

/-- With distinct sequence numbers, one entry is replaced. -/
theorem replaceEntry_append {l₁ l₂ : List ResultEntry} {e e' : ResultEntry}
    (hnd : ((l₁ ++ e :: l₂).map (·.seqNumber)).Nodup) (he : e'.seqNumber = e.seqNumber) :
    replaceEntry (l₁ ++ e :: l₂) e' = l₁ ++ e' :: l₂ := by
  rw [List.map_append, List.map_cons] at hnd
  obtain ⟨-, h2, h12⟩ := List.nodup_append.mp hnd
  have hl₁ : replaceEntry l₁ e' = l₁ := by
    refine replaceEntry_other fun x hx heq => ?_
    exact h12 _ (List.mem_map_of_mem hx) _ List.mem_cons_self (heq.trans he)
  have hl₂ : replaceEntry l₂ e' = l₂ := by
    refine replaceEntry_other fun x hx heq => ?_
    exact (List.nodup_cons.mp h2).1 (he ▸ heq ▸ List.mem_map_of_mem hx)
  unfold replaceEntry at hl₁ hl₂ ⊢
  rw [List.map_append, List.map_cons, hl₁, hl₂, if_pos he.symm]

theorem recordResult_recorded (d : ReceivedData) (icmpType icmpCode : UInt8) (seqNumber : UInt16)
    (length : Nat) {resultsMap : List ResultEntry}
    (hnd : (resultsMap.map (·.seqNumber)).Nodup) :
    io.Recorded d icmpType icmpCode length resultsMap
      (io.recordResult d icmpType icmpCode seqNumber length resultsMap) := by
  unfold recordResult
  split
  · exact .ignored _
  · next e hfind =>
    split
    · exact .ignored _
    · obtain ⟨-, l₁, l₂, rfl, -⟩ := List.find?_eq_some_iff_append.mp hfind
      have hseq : (withSource d e).seqNumber = e.seqNumber :=
        congrArg ResultEntry.Request.seqNumber (request_withSource d e)
      simp only
      split
      · next hs =>
        have hseq' : (io.answered d icmpType icmpCode length (withSource d e)).seqNumber =
            e.seqNumber := hseq
        rw [replaceEntry_append hnd hseq']
        exact .first l₁ e l₂ (status_withSource d e ▸ hs)
      · next hs =>
        rw [replaceEntry_append hnd hseq]
        exact .later l₁ e l₂ (status_withSource d e ▸ hs)

/-- A message that is recorded is the response of a router or of the destination. -/
theorem handlePayloadResponse_isResponse {m : Message} {icmpType icmpCode : UInt8}
    {seqNumber : UInt16} {length : Nat}
    (h : io.handlePayloadResponse m = some (icmpType, icmpCode, seqNumber, length)) :
    (io.responseStatus icmpType icmpCode).isResponse = true := by
  unfold handlePayloadResponse at h
  split at h
  · cases h
  · cases h
    rfl
  · obtain ⟨hc, heq⟩ := Option.ite_none_right_eq_some.mp h
    cases heq
    unfold responseStatus
    cases hv : io.sourceAddress.isV6 with
    | true =>
      simp only [hv, if_true] at hc
      obtain ⟨-, rfl⟩ | rfl | rfl := hc
      · rfl
      · rfl
      · rw [if_neg fun h => absurd h.1 (by decide), if_pos rfl, if_neg (by decide), if_pos rfl]
        split <;> rfl
    | false =>
      simp only [hv, Bool.false_eq_true, if_false] at hc
      obtain ⟨-, rfl⟩ | rfl | rfl := hc
      · simp only [true_and, if_true]
        split <;> rfl
      · rfl
      · rw [if_neg fun h => absurd h.1 (by decide), if_neg (by decide), if_neg (by decide),
          if_pos rfl]
        split <;> rfl

end IOModule

/-! ## Steps -/

variable (p : Parameters)

/-- What an event leads to. -/
inductive StepResult (m : Methods) (s : State) : Event → Except Assure State → Prop where
  /-- Time, timers, the stop request and the destinations change only. -/
  | quiet (event : Event) (now : Nat) (timeoutTimer intervalTimer : WaitTimer)
      (stopRequested : Bool) (destinations : List DestinationInfo) (hnow : s.now ≤ now)
      (htimeout : timeoutTimer = s.timeoutTimer ∨ timeoutTimer = s.timeoutTimer.expire s.now ∨
        s.stopRequested = true ∧ timeoutTimer = s.timeoutTimer.cancel)
      (hinterval : intervalTimer.outstanding ≤ s.intervalTimer.outstanding ∨
        ∃ d, event = .addDestination d)
      (hstop : stopRequested = s.stopRequested ∨ event = .requestStop ∧ stopRequested = true)
      (hdestinations : destinations = s.destinations ∨ ∃ d, event = .addDestination d) :
      StepResult m s event (.ok { s with now, timeoutTimer, intervalTimer, stopRequested,
                                         destinations })
  | restart (event : Event) (intervalTimer : WaitTimer)
      (hevent : event = .run ∧ s.pc = .starting ∨ event = .intervalEvent false ∧ s.pc = .idle ∧
        s.stopRequested = false ∧ 0 < s.intervalTimer.outstanding)
      (hinterval : intervalTimer.outstanding ≤ s.intervalTimer.outstanding) :
      StepResult m s event (.ok { (m.prepareRun true { s with intervalTimer }).1 with
        pc := .prepared })
  | burst (inputs : Inputs) (hpc : s.pc = .prepared) :
      StepResult m s (.sendRequests inputs) (m.sendRequests inputs { s with pc := .idle })
  | timeout (aborted : Bool) (inputs : Inputs) (timer : WaitTimer) (s' : State)
      (hpc : s.pc = .idle) (htake : s.timeoutTimer.take aborted = some timer)
      (hs : s' = { s with timeoutTimer := timer }) :
      StepResult m s (.timeoutEvent aborted inputs) (handleTimeoutEvent p m inputs s')
  | response (message : IOModule.Message) (data : IOModule.ReceivedData) (hpc : s.pc = .idle) :
      StepResult m s (.response message data) (.ok (handleResponse p m message data s))

/-- Nothing happens. -/
theorem StepResult.nothing {p : Parameters} {m : Methods} {s : State} (event : Event) :
    StepResult p m s event (.ok s) :=
  .quiet event s.now s.timeoutTimer s.intervalTimer s.stopRequested s.destinations (Nat.le_refl _)
    (Or.inl rfl) (Or.inl (Nat.le_refl _)) (Or.inl rfl) (Or.inl rfl)

theorem step_result (m : Methods) (s : State) (event : Event) :
    StepResult p m s event (step p m s event) := by
  cases event with
  | elapse time =>
    exact .quiet _ _ s.timeoutTimer s.intervalTimer s.stopRequested s.destinations
      (Nat.le_add_right _ _) (Or.inl rfl) (Or.inl (Nat.le_refl _)) (Or.inl rfl) (Or.inl rfl)
  | run =>
    simp only [step]
    split
    · next hpc => exact .restart _ s.intervalTimer (Or.inl ⟨rfl, hpc⟩) (Nat.le_refl _)
    · exact .nothing _
  | sendRequests inputs =>
    simp only [step]
    split
    · next hpc => exact .burst inputs hpc
    · exact .nothing _
  | timeoutTimerExpires =>
    simp only [step]
    split
    · exact .quiet _ s.now _ s.intervalTimer s.stopRequested s.destinations (Nat.le_refl _)
        (Or.inr (Or.inl rfl)) (Or.inl (Nat.le_refl _)) (Or.inl rfl) (Or.inl rfl)
    · exact .nothing _
  | intervalTimerExpires =>
    simp only [step]
    split
    · exact .quiet _ s.now s.timeoutTimer _ s.stopRequested s.destinations (Nat.le_refl _)
        (Or.inl rfl) (Or.inl (s.intervalTimer.expire_outstanding s.now).le) (Or.inl rfl)
        (Or.inl rfl)
    · exact .nothing _
  | timeoutEvent aborted inputs =>
    simp only [step]
    split
    · next timer hpc htake => exact .timeout aborted inputs timer _ hpc htake rfl
    · exact .nothing _
  | intervalEvent aborted =>
    simp only [step]
    split
    · next timer hpc htake =>
      have hout := WaitTimer.take_outstanding htake
      unfold handleIntervalEvent
      split
      · next hrun =>
        obtain ⟨hstop, rfl⟩ := hrun
        exact .restart _ timer (Or.inr ⟨rfl, hpc, hstop, by omega⟩) (by omega)
      · exact .quiet _ s.now s.timeoutTimer timer s.stopRequested s.destinations (Nat.le_refl _)
          (Or.inl rfl) (Or.inl (by omega)) (Or.inl rfl) (Or.inl rfl)
    · exact .nothing _
  | response message data =>
    simp only [step]
    split
    · next hpc => exact .response message data hpc
    · exact .nothing _
  | addDestination d =>
    simp only [step, addDestination]
    split
    · split
      · exact .nothing _
      · split
        · exact .quiet _ s.now s.timeoutTimer _ s.stopRequested _ (Nat.le_refl _) (Or.inl rfl)
            (Or.inr ⟨d, rfl⟩) (Or.inl rfl) (Or.inr ⟨d, rfl⟩)
        · exact .quiet _ s.now s.timeoutTimer s.intervalTimer s.stopRequested _ (Nat.le_refl _)
            (Or.inl rfl) (Or.inr ⟨d, rfl⟩) (Or.inl rfl) (Or.inr ⟨d, rfl⟩)
    · exact .nothing _
  | requestStop =>
    exact .quiet _ s.now s.timeoutTimer s.intervalTimer true s.destinations (Nat.le_refl _)
      (Or.inl rfl) (Or.inl (Nat.le_refl _)) (Or.inr ⟨rfl, rfl⟩) (Or.inl rfl)
  | cancelTimers =>
    simp only [step]
    split
    · next h =>
      exact .quiet _ s.now s.timeoutTimer.cancel s.intervalTimer.cancel s.stopRequested
        s.destinations (Nat.le_refl _) (Or.inr (Or.inr ⟨h.2, rfl⟩))
        (Or.inl s.intervalTimer.cancel_outstanding.le) (Or.inl rfl) (Or.inl rfl)
    · exact .nothing _

/-! ## The timeout handler -/

/-- The last hop of the destination is kept for the next run. -/
def State.cacheLastHop (s : State) : State :=
  match s.destinationIterator with
  | some d => { s with ttlCache := fun x => if x = d then some s.lastHop else s.ttlCache x }
  | none => s

/-- The first part of `handleTimeoutEvent`: whether to try the next window of TTLs. -/
def State.nextWindow (m : Methods) (s : State) : State × Bool :=
  match s.destinationIterator with
  | some _ =>
    if s.lastHop = noLastHop then m.notReachedWithCurrentTTL s.cacheLastHop
    else (s.cacheLastHop, false)
  | none => (s.cacheLastHop, false)

theorem handleTimeoutEvent_eq (m : Methods) (inputs : Inputs) (s : State) :
    handleTimeoutEvent p m inputs s =
      if s.stopRequested then .ok s
      else if (s.nextWindow m).2 then m.sendRequests inputs (s.nextWindow m).1
      else
        match m.processResults (s.nextWindow m).1 with
        | .error a => .error a
        | .ok u =>
          match m.prepareRun false u with
          | (v, false) => m.sendRequests inputs v
          | (v, true) => .ok (scheduleIntervalEvent p inputs.random v) := by
  obtain ⟨io, pc, stop, iteration, destinations, iterator, _⟩ := s
  cases iterator <;> rfl

/-- The state after the first part: there is a next window only if the destination has not been
reached and the method says so. -/
theorem State.nextWindow_cases (m : Methods) (s : State) :
    ((s.nextWindow m) = (s.cacheLastHop, false)) ∨
      (∃ d, s.destinationIterator = some d) ∧ s.lastHop = noLastHop ∧
        s.nextWindow m = m.notReachedWithCurrentTTL s.cacheLastHop := by
  unfold State.nextWindow
  split
  · next d hd =>
    split
    · next hlast => exact Or.inr ⟨⟨d, hd⟩, hlast, rfl⟩
    · exact Or.inl rfl
  · exact Or.inl rfl

/-- What `handleTimeoutEvent` leads to: `again` if the destination has not been reached with the
current TTL, and otherwise a new run or the interval timer. -/
inductive TimeoutResult (m : Methods) (inputs : Inputs) (s : State) :
    Except Assure State → Prop where
  | stopped (h : s.stopRequested = true) : TimeoutResult m inputs s (.ok s)
  | again (s' : State) (hstop : s.stopRequested = false) (h : s.nextWindow m = (s', true)) :
      TimeoutResult m inputs s (m.sendRequests inputs s')
  | failed (s' : State) (a : Assure) (hstop : s.stopRequested = false)
      (hs : s.nextWindow m = (s', false)) (h : m.processResults s' = .error a) :
      TimeoutResult m inputs s (.error a)
  | next (s' u v : State) (hstop : s.stopRequested = false) (hs : s.nextWindow m = (s', false))
      (h : m.processResults s' = .ok u) (hrun : m.prepareRun false u = (v, false)) :
      TimeoutResult m inputs s (m.sendRequests inputs v)
  | last (s' u v : State) (hstop : s.stopRequested = false) (hs : s.nextWindow m = (s', false))
      (h : m.processResults s' = .ok u) (hrun : m.prepareRun false u = (v, true)) :
      TimeoutResult m inputs s (.ok (scheduleIntervalEvent p inputs.random v))

theorem handleTimeoutEvent_result (m : Methods) (inputs : Inputs) (s : State) :
    TimeoutResult p m inputs s (handleTimeoutEvent p m inputs s) := by
  rw [handleTimeoutEvent_eq]
  cases hstop : s.stopRequested with
  | true => exact .stopped hstop
  | false =>
    simp only [Bool.false_eq_true, if_false]
    cases hs : s.nextWindow m with
    | mk s' again =>
      cases again with
      | true => exact .again s' hstop hs
      | false =>
        simp only [Bool.false_eq_true, if_false]
        cases h : m.processResults s' with
        | error a => exact .failed s' a hstop hs h
        | ok u =>
          simp only
          cases hrun : m.prepareRun false u with
          | mk v done =>
            cases done with
            | false => exact .next s' u v hstop hs h hrun
            | true => exact .last s' u v hstop hs h hrun

end HiPerConTracer.Service
