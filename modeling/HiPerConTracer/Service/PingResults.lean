import Mathlib.Logic.Relation
import HiPerConTracer.Service.SequenceNumbers

/-!
# The results of the Ping service (`ping.cc`, `traceroute.cc`)

A step of the Ping service is a chain of parts: a burst, a response, or the processing of the
results.  What each part does with a result carries over to whole runs:

    exec … start events = .ok s → Settled p s                      (ping_settled)
    exec … start events = .ok s → exec … s more = .ok t → Keeps s t       (ping_keeps)

`OutstandingRequests` is decremented for a response, and once more when the entry is written.  So it
is too small while bursts overlap.  Without overlaps, a run of finitely many iterations ends only
after all results have been written:

    Alone p → … → s.stopRequested = true → Finished p s              (finite_run_finished)
-/

namespace HiPerConTracer.Service
open Net IOModule

/-! ## Answers -/

/-- What the first response to a request decides. -/
structure ResultEntry.Answer where
  status : HopStatus
  hop : Address
  responseSize : Nat
  receiveTimeSource : RXTimeStampType → TimeSourceType
  receiveTime : RXTimeStampType → Nat

def ResultEntry.answer (e : ResultEntry) : ResultEntry.Answer :=
  ⟨e.status, e.hop, e.responseSize, e.receiveTimeSource, e.receiveTime⟩

/-- `e'` is the entry `e` later on: of the same request, with the same answer. -/
structure ResultEntry.Becomes (e e' : ResultEntry) : Prop where
  request : e'.request = e.request
  answer : e.status ≠ .unknown → e'.answer = e.answer

namespace ResultEntry

theorem Becomes.refl (e : ResultEntry) : e.Becomes e := ⟨rfl, fun _ => rfl⟩

theorem Becomes.trans {e e' e'' : ResultEntry} (h : e.Becomes e') (h' : e'.Becomes e'') :
    e.Becomes e'' := by
  refine ⟨h'.request.trans h.request, fun hs => ?_⟩
  have hs' : e'.status = e.status := congrArg Answer.status (h.answer hs)
  exact (h'.answer (hs' ▸ hs)).trans (h.answer hs)

theorem becomes_withSource (d : ReceivedData) (e : ResultEntry) : e.Becomes (withSource d e) := by
  refine ⟨request_withSource d e, fun _ => ?_⟩
  unfold withSource
  split <;> rfl

end ResultEntry

namespace Ping
variable {p : Parameters}

theorem becomes_timeOut (now : Nat) (e : ResultEntry) : e.Becomes (timeOut p now e) := by
  refine ⟨timeOut_request now e, fun hs => ?_⟩
  unfold timeOut
  rw [if_neg fun h => hs h.1]

/-! ## The parts of a step -/

/-- What a step of the service is made of. -/
inductive Part (p : Parameters) (s : State) : State → Prop where
  /-- Neither the results nor their counter change. -/
  | frame (t : State) (hnow : s.now ≤ t.now) (hmap : t.resultsMap = s.resultsMap)
      (hrequested : t.requested = s.requested) (hwritten : t.written = s.written)
      (houtstanding : t.outstandingRequests = s.outstandingRequests) : Part p s t
  | burst (inputs : Inputs) (t : State) (h : sendRequests p inputs s = .ok t) : Part p s t
  | results : Part p s (processed p s)
  | response (data : ReceivedData) (t : State) (h : ResponseResult p (methods p) data s t) :
      Part p s t

/-- A chain of parts. -/
abbrev Parts (p : Parameters) : State → State → Prop := Relation.ReflTransGen (Part p)

theorem Part.prepareRun (newRound : Bool) (s : State) : Part p s (prepareRun p newRound s).1 := by
  obtain ⟨_, _, _, heq, -⟩ := prepareRun_cases (p := p) newRound s
  rw [heq]
  exact .frame _ (Nat.le_refl _) rfl rfl rfl rfl

theorem Part.scheduleIntervalEvent (random : Nat) (s : State) :
    Part p s (scheduleIntervalEvent p random s) := by
  obtain ⟨_, _, _, heq, -⟩ := scheduleIntervalEvent_cases (p := p) random s
  rw [heq]
  exact .frame _ (Nat.le_refl _) rfl rfl rfl rfl

theorem handleTimeoutEvent_parts {inputs : Inputs} {s t : State}
    (hnd : (s.resultsMap.map (·.seqNumber)).Nodup)
    (h : handleTimeoutEvent p (methods p) inputs s = .ok t) : Parts p s t := by
  cases handleTimeoutEvent_ok hnd h with
  | stopped _ ht =>
    rw [ht]
  | again ttlCache u _ hu _ hsend =>
    rw [hu] at hsend
    exact (((Relation.ReflTransGen.single (.frame { s with ttlCache } (Nat.le_refl _) rfl rfl rfl
      rfl)).tail .results).tail (.prepareRun false _)).tail (.burst inputs t hsend)
  | last ttlCache u _ hu _ ht =>
    rw [ht, hu]
    exact (((Relation.ReflTransGen.single (.frame { s with ttlCache } (Nat.le_refl _) rfl rfl rfl
      rfl)).tail .results).tail (.prepareRun false _)).tail (.scheduleIntervalEvent _ _)

theorem step_parts {s t : State} {event : Event} (hnd : (s.resultsMap.map (·.seqNumber)).Nodup)
    (hs : Service.step p (methods p) s event = .ok t) : Parts p s t := by
  have hr := step_result p (methods p) s event
  rw [hs] at hr
  generalize hres : (Except.ok t : Except Assure State) = r at hr
  cases hr with
  | quiet _ now _ _ _ _ hnow _ _ _ _ =>
    cases hres
    exact .single (.frame _ hnow rfl rfl rfl rfl)
  | restart _ intervalTimer _ _ =>
    cases hres
    obtain ⟨_, _, _, heq, -⟩ := prepareRun_cases (p := p) true { s with intervalTimer }
    have hprepare : (methods p).prepareRun true { s with intervalTimer } = _ := heq
    rw [hprepare]
    exact .single (.frame _ (Nat.le_refl _) rfl rfl rfl rfl)
  | burst inputs hpc =>
    exact (Relation.ReflTransGen.single (.frame { s with pc := .idle } (Nat.le_refl _) rfl rfl rfl
      rfl)).tail (.burst inputs t hres.symm)
  | timeout aborted inputs timer s' hpc htake hs' =>
    have hframe : Part p s s' := by
      rw [hs']
      exact .frame _ (Nat.le_refl _) rfl rfl rfl rfl
    exact .head hframe (handleTimeoutEvent_parts (by rw [hs']; exact hnd) hres.symm)
  | response message data hpc =>
    cases hres
    exact .single (.response data _ (handleResponse_result _ message data hnd))

/-- **Runs are chains of parts.** -/
theorem exec_parts {s t : State} {events : List Event}
    (hnd : (s.resultsMap.map (·.seqNumber)).Nodup)
    (h : Run.exec (Service.step p (methods p)) s events = .ok t) : Parts p s t :=
  (Run.exec_invariant (P := fun u => (u.resultsMap.map (·.seqNumber)).Nodup ∧ Parts p s u)
    (fun _ _ _ hu _ hst => ⟨(Later.step hu.1 hst).nodup, hu.2.trans (step_parts hu.1 hst)⟩)
    ⟨hnd, .refl⟩ (Run.meets_true _ s events) h).2

/-! ## Answers are kept -/

/-- What has been written in `s` stays, and each entry of `s` is still there or has been written,
with its answer. -/
structure Keeps (s t : State) : Prop where
  written : s.written <+: t.written
  entries : ∀ e ∈ s.resultsMap, ∃ e' ∈ t.written ++ t.resultsMap, e.Becomes e'

theorem Keeps.of_subset {s t : State} (hwritten : t.written = s.written)
    (hmap : ∀ e ∈ s.resultsMap, e ∈ t.resultsMap) : Keeps s t :=
  ⟨hwritten ▸ List.prefix_rfl, fun e he =>
    ⟨e, List.mem_append_right _ (hmap e he), .refl e⟩⟩

theorem Keeps.trans {s t u : State} (h : Keeps s t) (h' : Keeps t u) : Keeps s u := by
  refine ⟨h.written.trans h'.written, fun e he => ?_⟩
  obtain ⟨e', he', hbecomes⟩ := h.entries e he
  rcases List.mem_append.mp he' with he' | he'
  · exact ⟨e', List.mem_append_left _ (h'.written.subset he'), hbecomes⟩
  · obtain ⟨e'', he'', hbecomes'⟩ := h'.entries e' he'
    exact ⟨e'', he'', hbecomes.trans hbecomes'⟩

/-- One entry is replaced by what it becomes. -/
theorem Keeps.replaced {s t : State} {l₁ l₂ : List ResultEntry} {e e' : ResultEntry}
    (hwritten : t.written = s.written) (hs : s.resultsMap = l₁ ++ e :: l₂)
    (ht : t.resultsMap = l₁ ++ e' :: l₂) (hbecomes : e.Becomes e') : Keeps s t := by
  refine ⟨hwritten ▸ List.prefix_rfl, fun x hx => ?_⟩
  rw [hs] at hx
  rw [ht]
  rcases List.mem_append.mp hx with hx | hx
  · exact ⟨x, List.mem_append_right _ (List.mem_append_left _ hx), .refl x⟩
  · rcases List.mem_cons.mp hx with rfl | hx
    · exact ⟨e', List.mem_append_right _ (List.mem_append_right _ List.mem_cons_self), hbecomes⟩
    · exact ⟨x, List.mem_append_right _ (List.mem_append_right _ (List.mem_cons_of_mem _ hx)),
        .refl x⟩

theorem Keeps.results (s : State) : Keeps s (processed p s) := by
  refine ⟨List.prefix_append _ _, fun e he => ?_⟩
  cases hc : completed p s.now e with
  | true =>
    have hsorted : e ∈ (s.resultsMap.insertionSort pingOrder).filter (completed p s.now) :=
      List.mem_filter.mpr ⟨(s.resultsMap.perm_insertionSort pingOrder).mem_iff.mpr he, hc⟩
    exact ⟨timeOut p s.now e, List.mem_append_left _ (List.mem_append_right _
      (List.mem_map_of_mem hsorted)), becomes_timeOut s.now e⟩
  | false =>
    exact ⟨e, List.mem_append_right _ (List.mem_filter.mpr ⟨he, by rw [hc]; rfl⟩), .refl e⟩

theorem Keeps.part {s t : State} (h : Part p s t) : Keeps s t := by
  cases h with
  | frame _ _ hmap _ hwritten _ => exact .of_subset hwritten fun e he => hmap ▸ he
  | burst inputs _ hsend =>
    cases sendRequests_result hsend with
    | done _ => exact .of_subset rfl fun e he => he
    | waiting _ _ _ _ _ _ => exact .of_subset rfl fun e he => he
    | sent _ _ targets io n new _ hburst _ =>
      refine .of_subset rfl fun e he => ?_
      show e ∈ io.resultsMap
      rw [hburst.resultsMap]
      exact List.mem_append_left _ he
  | results => exact .results s
  | response data _ hr =>
    cases hr with
    | ignored => exact .of_subset rfl fun e he => he
    | later l₁ e l₂ hmap _ => exact .replaced rfl hmap rfl (e.becomes_withSource data)
    | first l₁ e e' l₂ hmap hunknown hrequest _ _ =>
      rw [newResult_eq]
      exact .replaced rfl hmap rfl ⟨hrequest, fun hs => absurd hunknown hs⟩

theorem Keeps.parts {s t : State} (h : Parts p s t) : Keeps s t := by
  induction h with
  | refl => exact .of_subset rfl fun e he => he
  | tail _ hpart ih => exact ih.trans (.part hpart)

/-! ## What is written -/

/-- A response, a request that could not be sent, or a timeout after the expiration time. -/
def Final (p : Parameters) (now : Nat) (e : ResultEntry) : Prop :=
  e.status.isResponse = true ∨ e.status.isSendError = true ∨
    e.status = .timeout ∧
      e.receiveTime .application = e.sendTime .application + p.expiration * 1000000 ∧
      e.receiveTime .application ≤ now

theorem Final.mono {now now' : Nat} {e : ResultEntry} (h : Final p now e) (hnow : now ≤ now') :
    Final p now' e := by
  rcases h with h | h | ⟨hs, hreceive, hle⟩
  · exact Or.inl h
  · exact Or.inr (Or.inl h)
  · exact Or.inr (Or.inr ⟨hs, hreceive, hle.trans hnow⟩)

/-- An entry that has been sent before, and that only a response has changed. -/
structure Pending (now : Nat) (e : ResultEntry) : Prop where
  sent : e.sendTime .application ≤ now
  status : e.status = .unknown ∨ e.status.isResponse = true ∨ e.status.isSendError = true

theorem Pending.mono {now now' : Nat} {e : ResultEntry} (h : Pending now e) (hnow : now ≤ now') :
    Pending now' e := ⟨h.sent.trans hnow, h.status⟩

/-- An entry that is written is final. -/
theorem Pending.final {now : Nat} {e : ResultEntry} (h : Pending now e)
    (hc : completed p now e = true) : Final p now (timeOut p now e) := by
  unfold timeOut
  split
  · next hout =>
    refine Or.inr (Or.inr ⟨rfl, ?_, ?_⟩)
    · rfl
    · have hsent := h.sent
      have hwaited := Nat.mul_le_of_le_div _ _ _ hout.2
      show e.sendTime .application + p.expiration * 1000000 ≤ now
      omega
  · next hin =>
    have hknown : e.status ≠ .unknown := fun hs => hin ⟨hs, completed_iff.mp hc hs⟩
    rcases h.status with hs | hs | hs
    · exact absurd hs hknown
    · exact Or.inl hs
    · exact Or.inr (Or.inl hs)

/-- The results in a state of a run. -/
structure Settled (p : Parameters) (s : State) : Prop where
  /-- Each request is in `ResultsMap`, or it has been written, once. -/
  kept : Kept s
  pending : ∀ e ∈ s.resultsMap, Pending s.now e
  final : ∀ e ∈ s.written, Final p s.now e
  outstanding : s.outstandingRequests ≤ unanswered s.resultsMap

theorem unanswered_completed (now : Nat) (l : List ResultEntry) :
    unanswered l ≤ unanswered (l.filter fun e => !completed p now e) +
      l.countP (completed p now) := by
  induction l with
  | nil => exact Nat.zero_le _
  | cons e l ih =>
    cases hc : completed p now e with
    | true =>
      rw [List.filter_cons_of_neg (by simp [hc]), List.countP_cons_of_pos hc, unanswered_cons]
      split <;> omega
    | false =>
      rw [List.filter_cons_of_pos (by simp [hc]), List.countP_cons_of_neg (by simp [hc]),
        unanswered_cons, unanswered_cons]
      omega

theorem Settled.frame {s t : State} (h : Settled p s) (hnow : s.now ≤ t.now)
    (hmap : t.resultsMap = s.resultsMap) (hrequested : t.requested = s.requested)
    (hwritten : t.written = s.written)
    (houtstanding : t.outstandingRequests = s.outstandingRequests) : Settled p t where
  kept := h.kept.congr hmap hrequested hwritten
  pending e he := (h.pending e (hmap ▸ he)).mono hnow
  final e he := (h.final e (hwritten ▸ he)).mono hnow
  outstanding := by
    rw [houtstanding, hmap]
    exact h.outstanding

theorem Settled.burst {inputs : Inputs} {s t : State} (h : Settled p s)
    (hsend : sendRequests p inputs s = .ok t) : Settled p t := by
  have hkept := h.kept.sendRequests hsend
  cases sendRequests_result hsend with
  | done _ => exact h
  | waiting _ _ _ _ _ _ => exact h.frame (Nat.le_refl _) rfl rfl rfl rfl
  | sent _ _ targets io n new _ hburst _ =>
    have hnow : s.now ≤ io.now := hburst.now_le
    refine ⟨hkept, fun e he => ?_, fun e he => (h.final e he).mono hnow, ?_⟩
    · replace he : e ∈ io.resultsMap := he
      rw [hburst.resultsMap] at he
      rcases List.mem_append.mp he with he | he
      · exact (h.pending e he).mono hnow
      · refine ⟨(hburst.sendTime e he).2, ?_⟩
        rcases hburst.status e he with hs | hs
        · exact Or.inl hs
        · exact Or.inr (Or.inr hs)
    · show s.outstandingRequests + n ≤ unanswered io.resultsMap
      rw [hburst.resultsMap, unanswered_append, hburst.unknown]
      exact Nat.add_le_add_right h.outstanding _

theorem Settled.results {s : State} (h : Settled p s) : Settled p (processed p s) := by
  refine ⟨h.kept.processed, fun e he => h.pending e (List.mem_filter.mp he).1, fun e he => ?_, ?_⟩
  · rcases List.mem_append.mp he with he | he
    · exact h.final e he
    · obtain ⟨x, hx, rfl⟩ := List.mem_map.mp he
      obtain ⟨hx, hc⟩ := List.mem_filter.mp hx
      have hmem := (s.resultsMap.perm_insertionSort pingOrder).mem_iff.mp hx
      exact (h.pending x hmem).final hc
  · have hle := unanswered_completed (p := p) s.now s.resultsMap
    have hout := h.outstanding
    show s.outstandingRequests - s.resultsMap.countP (completed p s.now) ≤
      unanswered (s.resultsMap.filter fun e => !completed p s.now e)
    omega

theorem Settled.response {data : ReceivedData} {s t : State} (h : Settled p s)
    (hr : ResponseResult p (methods p) data s t) : Settled p t := by
  have hkept := h.kept.response hr
  -- The pending entries, when one of them is replaced.
  have hpending : ∀ l₁ e e' l₂, s.resultsMap = l₁ ++ e :: l₂ →
      (Pending s.now e → Pending s.now e') → ∀ x ∈ l₁ ++ e' :: l₂, Pending s.now x := by
    intro l₁ e e' l₂ hmap he' x hx
    rcases List.mem_append.mp hx with hx | hx
    · exact h.pending x (hmap ▸ List.mem_append_left _ hx)
    · rcases List.mem_cons.mp hx with rfl | hx
      · exact he' (h.pending e (hmap ▸ List.mem_append_right _ List.mem_cons_self))
      · exact h.pending x (hmap ▸ List.mem_append_right _ (List.mem_cons_of_mem _ hx))
  have hout := h.outstanding
  cases hr with
  | ignored => exact h
  | later l₁ e l₂ hmap _ =>
    refine ⟨hkept, hpending l₁ e _ l₂ hmap fun he => ⟨?_, ?_⟩, h.final, ?_⟩
    · rw [show (withSource data e).sendTime .application = e.sendTime .application from
        congrArg ResultEntry.Request.sendTime (request_withSource data e)]
      exact he.sent
    · rw [status_withSource]
      exact he.status
    · show s.outstandingRequests ≤ unanswered (l₁ ++ withSource data e :: l₂)
      rw [hmap] at hout
      simpa only [unanswered_append, unanswered_cons, status_withSource] using hout
  | first l₁ e e' l₂ hmap hunknown hrequest _ hstatus =>
    rw [newResult_eq] at hkept ⊢
    refine ⟨hkept, hpending l₁ e e' l₂ hmap fun he => ⟨?_, Or.inr (Or.inl hstatus)⟩, h.final, ?_⟩
    · rw [show e'.sendTime .application = e.sendTime .application from
        congrArg ResultEntry.Request.sendTime hrequest]
      exact he.sent
    · show s.outstandingRequests - 1 ≤ unanswered (l₁ ++ e' :: l₂)
      rw [hmap] at hout
      have hne := HopStatus.isResponse_ne_unknown hstatus
      simp only [unanswered_append, unanswered_cons, if_pos hunknown, if_neg hne] at hout ⊢
      omega

theorem Settled.parts {s t : State} (h : Settled p s) (hparts : Parts p s t) : Settled p t := by
  induction hparts with
  | refl => exact h
  | tail _ hpart ih =>
    cases hpart with
    | frame _ hnow hmap hrequested hwritten houtstanding =>
      exact ih.frame hnow hmap hrequested hwritten houtstanding
    | burst inputs _ hsend => exact ih.burst hsend
    | results => exact ih.results
    | response data _ hr => exact ih.response hr

theorem Settled.start (p : Parameters) (now : Nat) (seqNumber : UInt16)
    (destinations : List DestinationInfo) : Settled p (State.start p now seqNumber destinations) :=
  ⟨⟨List.nodup_nil, .refl _⟩, fun _ he => absurd he List.not_mem_nil,
    fun _ he => absurd he List.not_mem_nil, Nat.le_refl _⟩

theorem exec_settled {now : Nat} {seqNumber : UInt16} {destinations : List DestinationInfo}
    {events : List Event} {s : State}
    (h : Run.exec (Service.step p (methods p)) (State.start p now seqNumber destinations) events =
      .ok s) : Settled p s :=
  (Settled.start p now seqNumber destinations).parts (exec_parts List.nodup_nil h)

/-- Two iterations of two requests to one destination, 10 s apart. -/
def finitePing : Parameters :=
  { udpTraceroute with
    iterations := 2
    initialMaxTTL := 64
    finalMaxTTL := 64
    initialMaxTTL_pos := pingTTL_pos
    initialMaxTTL_le := pingTTL_le }

/-- The first burst, and an answer to its first request. -/
def firstBurst : List Event :=
  [.run, .sendRequests allSent,
    .response (.icmp 11 0 1 56) (responseFrom (.v4 0x0a0000fe) 1000000)]

/-- The timer expires, and its handler runs. -/
def nextIteration : List Event :=
  [.elapse 20000000000, .timeoutTimerExpires, .timeoutEvent false allSent]

theorem firstBurst_ok :
    ∃ s, Run.exec (Service.step finitePing (methods finitePing))
      (State.start finitePing 0 0 [⟨.v4 0x0a000002, 0⟩]) firstBurst = .ok s :=
  Run.exists_of_isOk (by decide +kernel)

theorem nextIteration_ok :
    ∃ s t, Run.exec (Service.step finitePing (methods finitePing))
        (State.start finitePing 0 0 [⟨.v4 0x0a000002, 0⟩]) firstBurst = .ok s ∧
      Run.exec (Service.step finitePing (methods finitePing)) s nextIteration = .ok t := by
  obtain ⟨s, hs⟩ := firstBurst_ok
  obtain ⟨t, ht⟩ := Run.exists_of_isOk (show (Run.exec (Service.step finitePing (methods finitePing))
    (State.start finitePing 0 0 [⟨.v4 0x0a000002, 0⟩]) (firstBurst ++ nextIteration)).isOk = true by
      decide +kernel)
  rw [Run.exec_append _ _ s _ _ hs] at ht
  exact ⟨s, t, hs, ht⟩

/-- **What a run writes.**  In every state of a run each request is in `ResultsMap` or has been
written, once; what has been written is a response, a failure, or a timeout after the expiration
time. -/
theorem ping_settled (p : Parameters) (now : Nat) (seqNumber : UInt16)
    (destinations : List DestinationInfo) (events : List Event) {s : State}
    (h : Run.exec (Service.step p (methods p)) (State.start p now seqNumber destinations) events =
      .ok s) : Settled p s := exec_settled h

theorem ping_settled_firstBurst :
    ∃ s, Run.exec (Service.step finitePing (methods finitePing))
        (State.start finitePing 0 0 [⟨.v4 0x0a000002, 0⟩]) firstBurst = .ok s ∧
      Settled finitePing s := by
  obtain ⟨s, hs⟩ := firstBurst_ok
  exact ⟨s, hs, ping_settled finitePing 0 0 _ _ hs⟩

/-- **Answers are kept.**  From every state of a run on, an entry keeps its answer until it is
written, and what has been written stays. -/
theorem ping_keeps (p : Parameters) (now : Nat) (seqNumber : UInt16)
    (destinations : List DestinationInfo) (events more : List Event) {s t : State}
    (hs : Run.exec (Service.step p (methods p)) (State.start p now seqNumber destinations) events =
      .ok s) (ht : Run.exec (Service.step p (methods p)) s more = .ok t) : Keeps s t :=
  .parts (exec_parts (exec_settled hs).kept.nodup ht)

theorem ping_keeps_nextIteration :
    ∃ s t, Run.exec (Service.step finitePing (methods finitePing))
        (State.start finitePing 0 0 [⟨.v4 0x0a000002, 0⟩]) firstBurst = .ok s ∧
      Run.exec (Service.step finitePing (methods finitePing)) s nextIteration = .ok t ∧
      Keeps s t := by
  obtain ⟨s, t, hs, ht⟩ := nextIteration_ok
  exact ⟨s, t, hs, ht, ping_keeps finitePing 0 0 _ _ _ hs ht⟩

/-! ## Finitely many iterations -/

/-- The requests of a burst have been answered, or have expired, when the next one is sent. -/
def Alone (p : Parameters) : Prop := p.iterations = 1 ∨ p.expiration ≤ spacing p

/-- No destination is added, and nobody asks the service to stop. -/
def Undisturbed : Event → Prop
  | .addDestination _ => False
  | .requestStop => False
  | _ => True

/-- Nothing has been sent. -/
structure Fresh (s : State) : Prop where
  running : s.stopRequested = false
  resultsMap : s.resultsMap = []
  outstanding : s.outstandingRequests = 0
  bursts : s.bursts = 0
  timer : s.timeoutTimer.outstanding = 0

/-- The burst of an iteration has been sent, and its results wait for the timer. -/
structure Running (p : Parameters) (s : State) : Prop where
  pc : s.pc = .idle
  iteration_pos : 1 ≤ s.iterationNumber
  iteration_le : s.iterationNumber ≤ p.iterations
  bursts : s.bursts = s.iterationNumber
  timer : s.timeoutTimer.outstanding = 1
  expired : 0 < s.timeoutTimer.expired → s.timeoutTimer.expiry ≤ s.now
  aborted : 0 < s.timeoutTimer.aborted → unanswered s.resultsMap = 0
  outstanding : s.outstandingRequests = unanswered s.resultsMap
  waits : ∀ e ∈ s.resultsMap,
    e.sendTime .application + p.expiration * 1000000 ≤ s.timeoutTimer.expiry

inductive Phase (p : Parameters) (s : State) : Prop where
  | starting (hpc : s.pc = .starting) (hnumber : s.iterationNumber = 0) (hfresh : Fresh s)
  | prepared (hpc : s.pc = .prepared) (hnumber : s.iterationNumber = 1) (hfresh : Fresh s)
  | running (hstop : s.stopRequested = false) (h : Running p s)
  | stopped (hpc : s.pc = .idle) (hstop : s.stopRequested = true)
      (hbursts : s.bursts = p.iterations) (hmap : s.resultsMap = [])
      (houtstanding : s.outstandingRequests = 0)

/-- The course of a run with finitely many iterations, and up to `n` requests in each. -/
structure Course (p : Parameters) (n : Nat) (s : State) : Prop where
  nodup : (s.resultsMap.map (·.seqNumber)).Nodup
  destinations : s.destinations ≠ [] ∧ s.destinations.length * p.rounds ≤ n
  interval : s.intervalTimer.outstanding = 0
  phase : Phase p s

theorem Course.start (p : Parameters) (now : Nat) (seqNumber : UInt16)
    {destinations : List DestinationInfo}
    (hd : (State.start p now seqNumber destinations).destinations ≠ []) :
    Course p ((State.start p now seqNumber destinations).destinations.length * p.rounds)
      (State.start p now seqNumber destinations) :=
  ⟨List.nodup_nil, ⟨hd, Nat.le_refl _⟩, rfl, .starting rfl rfl ⟨rfl, rfl, rfl, rfl, rfl⟩⟩

/-- **A burst**, when no request is left. -/
theorem Running.sent {inputs : Inputs} {s t : State} (halone : Alone p) (hd : s.destinations ≠ [])
    (hpc : s.pc = .idle) (hpos : 1 ≤ s.iterationNumber) (hle : s.iterationNumber ≤ p.iterations)
    (hbursts : s.bursts + 1 = s.iterationNumber) (hmap : s.resultsMap = [])
    (hout : s.outstandingRequests = 0) (htimer : s.timeoutTimer.outstanding = 0)
    (h : sendRequests p inputs s = .ok t) :
    Running p t ∧ t.stopRequested = s.stopRequested ∧ t.iterationNumber = s.iterationNumber ∧
      t.destinations = s.destinations ∧ t.intervalTimer = s.intervalTimer := by
  obtain ⟨_, _, hsent, -⟩ := sendRequests_sent hd (Or.inr hle) h
  have hwaits := hsent.waits
  cases sendRequests_result h with
  | done hdone => omega
  | waiting _ _ _ _ hnone _ => exact absurd hnone hd
  | sent _ _ targets io n new milliseconds hburst hlast =>
    have hnew : io.resultsMap = new := by
      rw [hburst.resultsMap]
      show s.resultsMap ++ new = new
      rw [hmap, List.nil_append]
    have hlong : p.expiration ≤ milliseconds := by
      rcases Nat.lt_or_eq_of_le hle with hlt | heq
      · replace hwaits : io.now + milliseconds * 1000000 =
            io.now + makeDeviation p.interval p.deviation inputs.random * 1000000 :=
          hwaits (Or.inr hlt)
        have hspacing := spacing_le (p := p) inputs.random
        rcases halone with hone | halone <;> omega
      · exact (hlast heq.symm (by omega)).ge
    unfold WaitTimer.outstanding at htimer
    refine ⟨⟨hpc, hpos, hle, hbursts, ?_, fun hexpired => ?_, fun haborted => ?_, ?_, ?_⟩, rfl,
      rfl, rfl, rfl⟩
    · rw [WaitTimer.asyncWait_outstanding, WaitTimer.expiresAt_outstanding]
      unfold WaitTimer.outstanding
      omega
    · rw [WaitTimer.asyncWait_expired, WaitTimer.expiresAt_expired] at hexpired
      omega
    · replace haborted : 0 < s.timeoutTimer.aborted + s.timeoutTimer.waiting := haborted
      omega
    · show s.outstandingRequests + n = unanswered io.resultsMap
      rw [hout, Nat.zero_add, hburst.unknown, hnew]
      rfl
    · intro e he
      replace he : e ∈ io.resultsMap := he
      have hsendTime := (hburst.sendTime e (hnew ▸ he)).2
      have hms := Nat.mul_le_mul_right 1000000 hlong
      show _ ≤ io.now + milliseconds * 1000000
      omega

/-- When the handler of the timeout timer runs, nothing has to be waited for any more. -/
theorem Running.completed {s : State} (h : Running p s)
    (hdue : s.timeoutTimer.expiry ≤ s.now ∨ unanswered s.resultsMap = 0) :
    ∀ e ∈ s.resultsMap, completed p s.now e = true := by
  intro e he
  refine completed_iff.mpr fun hunknown => ?_
  rcases hdue with hexpiry | hzero
  · have hwaits := h.waits e he
    show p.expiration ≤ _
    rw [Nat.le_div_iff_mul_le (by decide)]
    omega
  · exact absurd hunknown (unanswered_eq_zero.mp hzero e he)

/-- All results have been processed. -/
theorem processed_all {s : State} (hall : ∀ e ∈ s.resultsMap, completed p s.now e = true)
    (hout : s.outstandingRequests = unanswered s.resultsMap) :
    (processed p s).resultsMap = [] ∧ (processed p s).outstandingRequests = 0 := by
  constructor
  · show (s.resultsMap.filter fun e => !Ping.completed p s.now e) = []
    rw [List.filter_eq_nil_iff]
    intro e he
    rw [hall e he]
    decide
  · show s.outstandingRequests - s.resultsMap.countP (Ping.completed p s.now) = 0
    rw [hout, List.countP_eq_length.mpr hall]
    exact Nat.sub_eq_zero_of_le List.countP_le_length

/-- **The next iteration**, or the end. -/
theorem Course.next {n : Nat} {inputs : Inputs} {s t : State} (hpos : 1 ≤ p.iterations)
    (hlt : p.iterations + 1 < 2 ^ 32) (halone : Alone p)
    (hd : s.destinations ≠ [] ∧ s.destinations.length * p.rounds ≤ n)
    (hpc : s.pc = .idle) (hstop : s.stopRequested = false) (hinterval : s.intervalTimer.outstanding = 0)
    (htimer : s.timeoutTimer.outstanding = 0) (hmap : s.resultsMap = [])
    (hout : s.outstandingRequests = 0) (hbursts : s.bursts = s.iterationNumber)
    (hle : s.iterationNumber ≤ p.iterations)
    (h : sendRequests p inputs (prepareRun p false s).1 = .ok t) :
    Course p n t ∧ t.iterationNumber = s.iterationNumber + 1 ∧ t.destinations = s.destinations := by
  obtain ⟨timeoutTimer, intervalTimer, stop, hprepare, hcases⟩ := prepareRun_cases (p := p) false s
  have hnumber : (s.iterationNumber + 1) % 2 ^ 32 = s.iterationNumber + 1 :=
    Nat.mod_eq_of_lt (by omega)
  rw [hprepare, hnumber] at h
  rw [hnumber] at hcases
  have hnd : (s.resultsMap.map (·.seqNumber)).Nodup := by
    rw [hmap]
    exact List.nodup_nil
  rcases hcases with ⟨hmore, rfl, rfl, rfl⟩ | ⟨hlast, rfl, rfl, rfl⟩
  · -- one more iteration
    obtain ⟨hrunning, hstop', hnumber', hd', hinterval'⟩ := Running.sent halone (by exact hd.1)
      (by exact hpc) (Nat.le_add_left 1 _) (hmore.resolve_left (by omega))
      (congrArg (· + 1) hbursts) (by exact hmap) (by exact hout) (by exact htimer) h
    exact ⟨⟨(Later.sendRequests (by exact hnd) h).nodup, hd' ▸ hd, hinterval' ▸ hinterval,
      .running (hstop'.trans hstop) hrunning⟩, hnumber', hd'⟩
  · -- the iterations are done
    have hdone : ¬ (p.iterations = 0 ∨ s.iterationNumber + 1 ≤ p.iterations) := by omega
    cases (sendRequests_done (by exact hdone)).symm.trans h
    refine ⟨⟨hnd, hd, ?_, .stopped hpc rfl ?_ hmap hout⟩, rfl, rfl⟩
    · show s.intervalTimer.cancel.outstanding = 0
      rw [WaitTimer.cancel_outstanding, hinterval]
    · show s.bursts = p.iterations
      omega

theorem Course.timeout {n : Nat} {inputs : Inputs} {aborted : Bool} {timer : WaitTimer} {s t : State}
    (hpos : 1 ≤ p.iterations) (hlt : p.iterations + 1 < 2 ^ 32) (hkeep : p.removeDestinationAfterRun = false)
    (halone : Alone p) (h : Course p n s) (hpc : s.pc = .idle)
    (htake : s.timeoutTimer.take aborted = some timer)
    (ht : handleTimeoutEvent p (methods p) inputs { s with timeoutTimer := timer } = .ok t) :
    Course p n t := by
  cases h.phase with
  | starting hstarting _ _ => exact absurd (hpc.symm.trans hstarting) (by decide)
  | prepared hprepared _ _ => exact absurd (hpc.symm.trans hprepared) (by decide)
  | stopped _ hstop hbursts hmap hout =>
    cases handleTimeoutEvent_ok (by exact h.nodup) ht with
    | stopped _ ht =>
      rw [ht]
      exact ⟨h.nodup, h.destinations, h.interval, .stopped hpc hstop hbursts hmap hout⟩
    | again _ _ hrunning _ _ _ => exact absurd (hstop.symm.trans hrunning) (by decide)
    | last _ _ hrunning _ _ _ => exact absurd (hstop.symm.trans hrunning) (by decide)
  | running hstop hrunning =>
    have htimer := WaitTimer.take_outstanding htake
    have hone := hrunning.timer
    have hdue : s.timeoutTimer.expiry ≤ s.now ∨ unanswered s.resultsMap = 0 := by
      rcases WaitTimer.take_cases htake with ⟨-, hpos, -⟩ | ⟨-, hpos, -⟩
      · exact Or.inr (hrunning.aborted hpos)
      · exact Or.inl (hrunning.expired hpos)
    have hdestinations : ∀ ttlCache,
        (processed p { s with timeoutTimer := timer, ttlCache }).destinations = s.destinations :=
      fun ttlCache => if_neg (by rw [hkeep]; decide)
    cases handleTimeoutEvent_ok (by exact h.nodup) ht with
    | stopped hstopped _ => exact absurd (hstopped.symm.trans hstop) (by decide)
    | last ttlCache u _ hu hnone _ =>
      rw [hu, hdestinations] at hnone
      exact absurd hnone h.destinations.1
    | again ttlCache u _ hu _ hsend =>
      obtain ⟨hmap, hout⟩ := processed_all (s := { s with timeoutTimer := timer, ttlCache })
        (hrunning.completed hdue) hrunning.outstanding
      rw [← hu] at hmap hout
      have hd : u.destinations = s.destinations := by rw [hu, hdestinations]
      refine (Course.next hpos hlt halone (hd ▸ h.destinations) ?_ ?_ ?_ ?_ hmap hout ?_ ?_
        hsend).1
      all_goals rw [hu]
      · exact hpc
      · exact hstop
      · exact h.interval
      · show timer.outstanding = 0
        omega
      · exact hrunning.bursts
      · exact hrunning.iteration_le

/-- The timer is cancelled only for the last outstanding request. -/
theorem newResult_cases (e : ResultEntry) (s : State) :
    ∃ lastHop completions timeoutTimer,
      newResult (methods p) e s =
        { s with outstandingRequests := s.outstandingRequests - 1
                 lastHop, completions, timeoutTimer } ∧
      (timeoutTimer = s.timeoutTimer ∨
        s.outstandingRequests - 1 = 0 ∧ timeoutTimer = s.timeoutTimer.cancel) := by
  refine ⟨_, _, _, newResult_eq e s, ?_⟩
  split
  · next hlast => exact Or.inr ⟨hlast.1, rfl⟩
  · exact Or.inl rfl

theorem Course.response {n : Nat} {data : ReceivedData} {s t : State} (h : Course p n s) (hpc : s.pc = .idle)
    (hr : ResponseResult p (methods p) data s t) : Course p n t := by
  have hnd := (Later.response h.nodup hr).nodup
  cases h.phase with
  | starting hstarting _ _ => exact absurd (hpc.symm.trans hstarting) (by decide)
  | prepared hprepared _ _ => exact absurd (hpc.symm.trans hprepared) (by decide)
  | stopped _ _ _ hmap _ =>
    cases hr with
    | ignored => exact h
    | later l₁ e l₂ hmap' _ => exact absurd (hmap'.symm.trans hmap) (by simp)
    | first l₁ e e' l₂ hmap' _ _ _ _ => exact absurd (hmap'.symm.trans hmap) (by simp)
  | running hstop hrunning =>
    -- The time that is left for the entries, when one of them is replaced.
    have hwaits : ∀ l₁ e e' l₂, s.resultsMap = l₁ ++ e :: l₂ → e'.request = e.request →
        ∀ x ∈ l₁ ++ e' :: l₂,
          x.sendTime .application + p.expiration * 1000000 ≤ s.timeoutTimer.expiry := by
      intro l₁ e e' l₂ hmap hrequest x hx
      rcases List.mem_append.mp hx with hx | hx
      · exact hrunning.waits x (hmap ▸ List.mem_append_left _ hx)
      · rcases List.mem_cons.mp hx with rfl | hx
        · have htime : x.sendTime .application = e.sendTime .application :=
            congrArg ResultEntry.Request.sendTime hrequest
          rw [htime]
          exact hrunning.waits e (hmap ▸ List.mem_append_right _ List.mem_cons_self)
        · exact hrunning.waits x (hmap ▸ List.mem_append_right _ (List.mem_cons_of_mem _ hx))
    cases hr with
    | ignored => exact h
    | later l₁ e l₂ hmap _ =>
      have hun : unanswered (l₁ ++ withSource data e :: l₂) = unanswered s.resultsMap := by
        rw [hmap]
        simp only [unanswered_append, unanswered_cons, status_withSource]
      exact ⟨hnd, h.destinations, h.interval, .running hstop
        { hrunning with
          aborted := fun ha => hun.trans (hrunning.aborted ha)
          outstanding := hrunning.outstanding.trans hun.symm
          waits := hwaits l₁ e _ l₂ hmap (request_withSource data e) }⟩
    | first l₁ e e' l₂ hmap hunknown hrequest _ hstatus =>
      have hun : unanswered s.resultsMap = unanswered (l₁ ++ e' :: l₂) + 1 := by
        have hne := HopStatus.isResponse_ne_unknown hstatus
        rw [hmap]
        simp only [unanswered_append, unanswered_cons, if_pos hunknown, if_neg hne]
        omega
      have hout := hrunning.outstanding
      obtain ⟨_, _, timer, heq, htimer⟩ :=
        newResult_cases (p := p) e' { s with resultsMap := l₁ ++ e' :: l₂ }
      rw [heq] at hnd ⊢
      have hone := hrunning.timer
      have hzero := hrunning.aborted
      refine ⟨hnd, h.destinations, h.interval, .running hstop ⟨hpc, hrunning.iteration_pos,
        hrunning.iteration_le, hrunning.bursts, ?_, ?_, ?_, ?_, ?_⟩⟩
      · rcases htimer with rfl | ⟨-, rfl⟩
        · exact hone
        · exact (WaitTimer.cancel_outstanding _).trans hone
      · rcases htimer with rfl | ⟨-, rfl⟩ <;> exact hrunning.expired
      · intro haborted
        show unanswered (l₁ ++ e' :: l₂) = 0
        rcases htimer with rfl | ⟨hlast, -⟩
        · have := hzero haborted
          omega
        · replace hlast : s.outstandingRequests - 1 = 0 := hlast
          omega
      · show s.outstandingRequests - 1 = unanswered (l₁ ++ e' :: l₂)
        omega
      · rcases htimer with rfl | ⟨-, rfl⟩ <;> exact hwaits l₁ e e' l₂ hmap hrequest

/-- Time passes, and the timers expire or are cancelled. -/
theorem Course.quiet {n now : Nat} {timeoutTimer intervalTimer : WaitTimer} {s : State}
    (h : Course p n s) (hnow : s.now ≤ now)
    (htimeout : timeoutTimer = s.timeoutTimer ∨ timeoutTimer = s.timeoutTimer.expire s.now ∨
      s.stopRequested = true ∧ timeoutTimer = s.timeoutTimer.cancel)
    (hinterval : intervalTimer.outstanding ≤ s.intervalTimer.outstanding) :
    Course p n { s with now, timeoutTimer, intervalTimer } := by
  have hzero : intervalTimer.outstanding = 0 := Nat.le_zero.mp (hinterval.trans h.interval.le)
  have hfresh : Fresh s → Fresh { s with now, timeoutTimer, intervalTimer } := by
    intro hfresh
    refine { hfresh with timer := ?_ }
    rcases htimeout with rfl | rfl | ⟨-, rfl⟩
    · exact hfresh.timer
    · exact (WaitTimer.expire_outstanding _ _).trans hfresh.timer
    · exact (WaitTimer.cancel_outstanding _).trans hfresh.timer
  refine ⟨h.nodup, h.destinations, hzero, ?_⟩
  cases h.phase with
  | starting hpc hnumber hf => exact .starting hpc hnumber (hfresh hf)
  | prepared hpc hnumber hf => exact .prepared hpc hnumber (hfresh hf)
  | stopped hpc hstop hbursts hmap hout => exact .stopped hpc hstop hbursts hmap hout
  | running hstop hrunning =>
    refine .running hstop ?_
    rcases htimeout with rfl | rfl | ⟨hstopped, -⟩
    · exact { hrunning with expired := fun hpos => (hrunning.expired hpos).trans hnow }
    · by_cases hdue : s.timeoutTimer.expiry ≤ s.now
      · rw [WaitTimer.expire, if_pos hdue]
        refine { hrunning with timer := ?_, expired := fun _ => hdue.trans hnow }
        have hone := hrunning.timer
        unfold WaitTimer.outstanding at hone ⊢
        simp only
        omega
      · rw [WaitTimer.expire, if_neg hdue]
        exact { hrunning with expired := fun hpos => (hrunning.expired hpos).trans hnow }
    · exact absurd (hstopped.symm.trans hstop) (by decide)

theorem Course.step {n : Nat} {s t : State} {event : Event} (hpos : 1 ≤ p.iterations)
    (hlt : p.iterations + 1 < 2 ^ 32) (hkeep : p.removeDestinationAfterRun = false)
    (halone : Alone p) (h : Course p n s) (hevent : Undisturbed event)
    (hs : Service.step p (methods p) s event = .ok t) : Course p n t := by
  have hr := step_result p (methods p) s event
  rw [hs] at hr
  generalize hres : (Except.ok t : Except Assure State) = r at hr
  cases hr with
  | quiet _ now timeoutTimer intervalTimer stop destinations hnow htimeout hinterval hstop hd =>
    cases hres
    have hadded : ∀ d, event ≠ .addDestination d := by
      rintro d rfl
      exact hevent
    obtain rfl := hd.resolve_right fun ⟨d, heq⟩ => hadded d heq
    obtain rfl := hstop.resolve_right fun hstop => by
      rw [hstop.1] at hevent
      exact hevent
    exact h.quiet hnow htimeout (hinterval.resolve_right fun ⟨d, heq⟩ => hadded d heq)
  | restart _ intervalTimer hevent' hinterval =>
    cases hres
    have hzero : intervalTimer.outstanding = 0 := Nat.le_zero.mp (hinterval.trans h.interval.le)
    have hstarting : s.pc = .starting := by
      rcases hevent' with ⟨-, hpc⟩ | ⟨-, -, -, hwaits⟩
      · exact hpc
      · exact absurd h.interval hwaits.ne'
    cases h.phase with
    | prepared hpc _ _ => exact absurd (hpc.symm.trans hstarting) (by decide)
    | running _ hrunning => exact absurd (hrunning.pc.symm.trans hstarting) (by decide)
    | stopped hpc _ _ _ _ => exact absurd (hpc.symm.trans hstarting) (by decide)
    | starting _ hnumber hfresh =>
      obtain ⟨timeoutTimer, intervalTimer', stop, heq, hcases⟩ :=
        prepareRun_cases (p := p) true { s with intervalTimer }
      have hone : (s.iterationNumber + 1) % 2 ^ 32 = 1 := by rw [hnumber]; decide
      have hprepare : (methods p).prepareRun true { s with intervalTimer } = _ := heq
      rw [hprepare]
      rcases hcases with ⟨-, rfl, rfl, rfl⟩ | ⟨⟨-, hlast⟩, -⟩
      · exact ⟨h.nodup, h.destinations, hzero, .prepared rfl hone
          ⟨hfresh.running, hfresh.resultsMap, hfresh.outstanding, hfresh.bursts, hfresh.timer⟩⟩
      · simp only [hone] at hlast
        omega
  | burst inputs hpc =>
    cases h.phase with
    | starting hpc' _ _ => exact absurd (hpc'.symm.trans hpc) (by decide)
    | running _ hrunning => exact absurd (hrunning.pc.symm.trans hpc) (by decide)
    | stopped hpc' _ _ _ _ => exact absurd (hpc'.symm.trans hpc) (by decide)
    | prepared _ hnumber hfresh =>
      have hsend : sendRequests p inputs { s with pc := .idle } = .ok t := hres.symm
      obtain ⟨hrunning, hstop, -, hd, hinterval⟩ := Running.sent halone (by exact h.destinations.1)
        rfl
        (by exact hnumber.ge) (by exact hnumber.le.trans hpos)
        (by simp only [hfresh.bursts, hnumber]) (by exact hfresh.resultsMap)
        (by exact hfresh.outstanding) (by exact hfresh.timer) hsend
      exact ⟨(Later.sendRequests (by exact h.nodup) hsend).nodup, hd ▸ h.destinations,
        hinterval ▸ h.interval, .running (hstop.trans hfresh.running) hrunning⟩
  | timeout aborted inputs timer s' hpc htake hs' =>
    rw [hs'] at hres
    exact h.timeout hpos hlt hkeep halone hpc htake hres.symm
  | response message data hpc =>
    cases hres
    exact h.response hpc (handleResponse_result _ message data h.nodup)

/-- All iterations have been done, and all results have been written. -/
structure Finished (p : Parameters) (s : State) : Prop where
  bursts : s.bursts = p.iterations
  resultsMap : s.resultsMap = []
  written : (s.requested.map (·.request)).Perm (s.written.map (·.request))

theorem Course.outstanding {n : Nat} {s : State} (h : Course p n s) :
    s.outstandingRequests = unanswered s.resultsMap := by
  cases h.phase with
  | starting _ _ hfresh =>
    rw [hfresh.outstanding, hfresh.resultsMap]
    rfl
  | prepared _ _ hfresh =>
    rw [hfresh.outstanding, hfresh.resultsMap]
    rfl
  | running _ hrunning => exact hrunning.outstanding
  | stopped _ _ _ hmap hout =>
    rw [hout, hmap]
    rfl

theorem Course.finished {n : Nat} {s : State} (h : Course p n s) (hkept : Kept s)
    (hstop : s.stopRequested = true) : Finished p s := by
  have hrequested := hkept.requested
  cases h.phase with
  | starting _ _ hfresh => exact absurd (hfresh.running.symm.trans hstop) (by decide)
  | prepared _ _ hfresh => exact absurd (hfresh.running.symm.trans hstop) (by decide)
  | running hrunning _ => exact absurd (hrunning.symm.trans hstop) (by decide)
  | stopped _ _ hbursts hmap _ =>
    rw [hmap, List.append_nil] at hrequested
    exact ⟨hbursts, hmap, hrequested⟩

theorem Course.exec {n : Nat} {s t : State} {events : List Event} (hpos : 1 ≤ p.iterations)
    (hlt : p.iterations + 1 < 2 ^ 32) (hkeep : p.removeDestinationAfterRun = false)
    (halone : Alone p) (h : Course p n s) (hevents : ∀ event ∈ events, Undisturbed event)
    (ht : Run.exec (Service.step p (methods p)) s events = .ok t) : Course p n t :=
  Run.exec_invariant (C := fun _ event => Undisturbed event)
    (fun _ _ _ hs hevent hst => hs.step hpos hlt hkeep halone hevent hst) h
    (Run.meets_of_forall _ (fun event he _ => hevents event he) _) ht

/-! ## The end of a run -/

/-- The handler of the timeout timer leads to the next iteration. -/
theorem Course.handled {n : Nat} {aborted : Bool} {timer : WaitTimer} {s : State}
    (hpos : 1 ≤ p.iterations) (hlt : p.iterations + 1 < 2 ^ 32) (hkeep : p.removeDestinationAfterRun = false)
    (halone : Alone p) (hn : n ≤ 65536) (h : Course p n s)
    (hrunning : Running p s) (hstop : s.stopRequested = false)
    (htake : s.timeoutTimer.take aborted = some timer) :
    ∃ t, Service.step p (methods p) s (.timeoutEvent aborted instant) = .ok t ∧
      t.iterationNumber = s.iterationNumber + 1 ∧ t.destinations = s.destinations := by
  have htimer := WaitTimer.take_outstanding htake
  have hone := hrunning.timer
  have hdue : s.timeoutTimer.expiry ≤ s.now ∨ unanswered s.resultsMap = 0 := by
    rcases WaitTimer.take_cases htake with ⟨-, hwaits, -⟩ | ⟨-, hwaits, -⟩
    · exact Or.inr (hrunning.aborted hwaits)
    · exact Or.inl (hrunning.expired hwaits)
  rw [step_timeoutEvent timer hrunning.pc htake]
  have hr := handleTimeoutEvent_result p (methods p) instant { s with timeoutTimer := timer }
  generalize handleTimeoutEvent p (methods p) instant { s with timeoutTimer := timer } = r at hr
  have hprocess : ∀ ttlCache, processResults p { s with timeoutTimer := timer, ttlCache } =
      .ok (processed p { s with timeoutTimer := timer, ttlCache }) :=
    fun ttlCache => processResults_eq (by exact h.nodup)
  cases hr with
  | stopped hstopped => exact absurd (hstopped.symm.trans hstop) (by decide)
  | again s' _ hs => exact absurd (nextWindow_cases hs).1 (by decide)
  | failed s' a _ hs hproc =>
    obtain ⟨-, ttlCache, rfl⟩ := nextWindow_cases hs
    cases hproc.symm.trans (hprocess ttlCache)
  | last s' u v _ hs hproc hrun =>
    obtain ⟨-, ttlCache, rfl⟩ := nextWindow_cases hs
    obtain rfl := Except.ok.inj (hproc.symm.trans (hprocess ttlCache))
    obtain ⟨_, _, _, heq, -⟩ := prepareRun_cases (p := p) false
      (processed p { s with timeoutTimer := timer, ttlCache })
    have hnone := (Prod.mk.inj (heq.symm.trans hrun)).2
    replace hnone : List.isEmpty (if p.removeDestinationAfterRun then [] else s.destinations) =
      true := hnone
    rw [hkeep, List.isEmpty_iff] at hnone
    exact absurd hnone h.destinations.1
  | next s' u v _ hs hproc hrun =>
    obtain ⟨-, ttlCache, rfl⟩ := nextWindow_cases hs
    have hu := Except.ok.inj (hproc.symm.trans (hprocess ttlCache))
    obtain ⟨hmap, hout⟩ := processed_all (s := { s with timeoutTimer := timer, ttlCache })
      (hrunning.completed hdue) hrunning.outstanding
    rw [← hu] at hmap hout
    have hd : u.destinations = s.destinations := by
      rw [hu]
      exact if_neg (by rw [hkeep]; decide)
    have hv : v = (prepareRun p false u).1 := (congrArg Prod.fst hrun).symm
    obtain ⟨hio, hdv, -, -, -⟩ := prepareRun_frame (p := p) false u
    have hfree : (v.resultsMap.map (·.seqNumber) ++
        seqNumbersAfter v.seqNumber (v.destinations.length * p.rounds)).Nodup := by
      rw [hv, hio, hdv, hmap, hd]
      exact seqNumbersAfter_nodup _ (h.destinations.2.trans hn)
    obtain ⟨t, ht⟩ := sendRequests_total instant hfree
    have hfacts : u.pc = .idle ∧ u.stopRequested = false ∧ u.intervalTimer.outstanding = 0 ∧
        u.timeoutTimer.outstanding = 0 ∧ u.bursts = u.iterationNumber ∧
        u.iterationNumber = s.iterationNumber := by
      rw [hu]
      refine ⟨hrunning.pc, hstop, h.interval, ?_, hrunning.bursts, rfl⟩
      show timer.outstanding = 0
      omega
    obtain ⟨hpc, hstop', hinterval, htimer', hbursts, hnumber⟩ := hfacts
    obtain ⟨-, hnumber', hd'⟩ := Course.next hpos hlt halone (hd ▸ h.destinations) hpc hstop'
      hinterval htimer' hmap hout hbursts (hnumber ▸ hrunning.iteration_le) (hv ▸ ht)
    exact ⟨t, ht, by rw [hnumber', hnumber], hd'.trans hd⟩

/-- From every state on, there is a way to the next iteration. -/
theorem Course.turn {n : Nat} {s : State} (hpos : 1 ≤ p.iterations)
    (hlt : p.iterations + 1 < 2 ^ 32)
    (hkeep : p.removeDestinationAfterRun = false) (halone : Alone p)
    (hn : n ≤ 65536) (h : Course p n s) (hrunning : Running p s)
    (hstop : s.stopRequested = false) :
    ∃ events t, (∀ event ∈ events, Undisturbed event) ∧
      Run.exec (Service.step p (methods p)) s events = .ok t ∧
      t.iterationNumber = s.iterationNumber + 1 ∧ t.destinations = s.destinations := by
  have hone := hrunning.timer
  unfold WaitTimer.outstanding at hone
  rcases Nat.eq_zero_or_pos s.timeoutTimer.waiting with hwaiting | hwaiting
  · -- the handler is queued
    obtain ⟨aborted, timer, htake⟩ := WaitTimer.exists_take (t := s.timeoutTimer) (by omega)
    obtain ⟨t, ht, hnumber, hd⟩ :=
      h.handled hpos hlt hkeep halone hn hrunning hstop htake
    refine ⟨[.timeoutEvent aborted instant], t, ?_, ?_, hnumber, hd⟩
    · intro event he
      rw [List.mem_singleton.mp he]
      trivial
    · simp only [Run.exec, ht]
  · -- the timer has to expire
    have hexpire : s.timeoutTimer.expire (s.now + s.timeoutTimer.expiry) =
        ⟨s.timeoutTimer.expiry, 0, 1, 0⟩ := by
      rw [WaitTimer.expire, if_pos (Nat.le_add_left _ _), WaitTimer.mk.injEq]
      exact ⟨rfl, rfl, by omega, by omega⟩
    have hcourse : Course p n { s with
        now := s.now + s.timeoutTimer.expiry
        timeoutTimer := ⟨s.timeoutTimer.expiry, 0, 1, 0⟩ } :=
      (h.quiet (Nat.le_add_right _ s.timeoutTimer.expiry) (Or.inl rfl) (Nat.le_refl _)).quiet
        (Nat.le_refl _) (Or.inr (Or.inl hexpire.symm)) (Nat.le_refl _)
    have hrunning' : Running p { s with
        now := s.now + s.timeoutTimer.expiry
        timeoutTimer := ⟨s.timeoutTimer.expiry, 0, 1, 0⟩ } :=
      { hrunning with
        timer := rfl
        expired := fun _ => Nat.le_add_left _ _
        aborted := fun habsurd => absurd habsurd (Nat.lt_irrefl 0) }
    have htake : WaitTimer.take ⟨s.timeoutTimer.expiry, 0, 1, 0⟩ false =
      some ⟨s.timeoutTimer.expiry, 0, 0, 0⟩ := rfl
    obtain ⟨t, ht, hnumber, hd⟩ := hcourse.handled hpos hlt hkeep halone hn
      hrunning' (by exact hstop) htake
    refine ⟨[.elapse s.timeoutTimer.expiry, .timeoutTimerExpires, .timeoutEvent false instant], t,
      ?_, ?_, hnumber, hd⟩
    · simp only [List.forall_mem_cons, Undisturbed]
      exact ⟨trivial, trivial, trivial, fun _ he => absurd he List.not_mem_nil⟩
    · simp only [Run.exec, Service.step, hrunning.pc, if_true, hexpire]
      simp only [Service.step] at ht
      rw [hrunning.pc] at ht
      rw [ht]

/-- There is a way to the end after the first burst: by induction on the iterations that are
left. -/
theorem Course.ends {n : Nat} (hpos : 1 ≤ p.iterations) (hlt : p.iterations + 1 < 2 ^ 32)
    (hkeep : p.removeDestinationAfterRun = false) (halone : Alone p) (hn : n ≤ 65536) (k : Nat)
    {s : State} (h : Course p n s) (hpc : s.pc = .idle)
    (hk : p.iterations ≤ s.iterationNumber + k) :
    ∃ events t, (∀ event ∈ events, Undisturbed event) ∧
      Run.exec (Service.step p (methods p)) s events = .ok t ∧ t.stopRequested = true := by
  induction k generalizing s with
  | zero =>
    cases h.phase with
    | starting hstarting _ _ => exact absurd (hpc.symm.trans hstarting) (by decide)
    | prepared hprepared _ _ => exact absurd (hpc.symm.trans hprepared) (by decide)
    | stopped _ hstop _ _ _ => exact ⟨[], s, fun _ he => absurd he List.not_mem_nil, rfl, hstop⟩
    | running hstop hrunning =>
      obtain ⟨events, t, hevents, ht, hnumber, -⟩ :=
        h.turn hpos hlt hkeep halone hn hrunning hstop
      refine ⟨events, t, hevents, ht, ?_⟩
      cases (h.exec hpos hlt hkeep halone hevents ht).phase with
      | stopped _ hstopped _ _ _ => exact hstopped
      | starting _ hzero _ => omega
      | prepared _ hone _ =>
        have := hrunning.iteration_pos
        omega
      | running _ hagain =>
        have := hagain.iteration_le
        omega
  | succ k ih =>
    cases h.phase with
    | starting hstarting _ _ => exact absurd (hpc.symm.trans hstarting) (by decide)
    | prepared hprepared _ _ => exact absurd (hpc.symm.trans hprepared) (by decide)
    | stopped _ hstop _ _ _ => exact ⟨[], s, fun _ he => absurd he List.not_mem_nil, rfl, hstop⟩
    | running hstop hrunning =>
      obtain ⟨events, t, hevents, ht, hnumber, -⟩ :=
        h.turn hpos hlt hkeep halone hn hrunning hstop
      have hcourse := h.exec hpos hlt hkeep halone hevents ht
      have hfirst := hrunning.iteration_pos
      have hidle : t.pc = .idle := by
        cases hcourse.phase with
        | starting _ hzero _ => omega
        | prepared _ hone _ => omega
        | stopped hidle _ _ _ _ => exact hidle
        | running _ hagain => exact hagain.pc
      obtain ⟨more, u, hmore, hu, hstopped⟩ := ih hcourse hidle (by omega)
      refine ⟨events ++ more, u, ?_, ?_, hstopped⟩
      · intro event he
        exact (List.mem_append.mp he).elim (hevents event) (hmore event)
      · rw [Run.exec_append _ s t _ _ ht, hu]

/-- The first burst can be sent. -/
theorem Course.first {n : Nat} {s : State} (hpos : 1 ≤ p.iterations)
    (hlt : p.iterations + 1 < 2 ^ 32) (hkeep : p.removeDestinationAfterRun = false)
    (halone : Alone p) (hn : n ≤ 65536) (h : Course p n s) (hpc : s.pc = .prepared) :
    ∃ t, Run.exec (Service.step p (methods p)) s [.sendRequests instant] = .ok t ∧
      Course p n t ∧ t.pc = .idle := by
  cases h.phase with
  | starting hstarting _ _ => exact absurd (hpc.symm.trans hstarting) (by decide)
  | running _ hrunning => exact absurd (hpc.symm.trans hrunning.pc) (by decide)
  | stopped hidle _ _ _ _ => exact absurd (hpc.symm.trans hidle) (by decide)
  | prepared _ hnumber hfresh =>
    have hfree : (s.resultsMap.map (·.seqNumber) ++
        seqNumbersAfter s.seqNumber (s.destinations.length * p.rounds)).Nodup := by
      rw [hfresh.resultsMap]
      exact seqNumbersAfter_nodup _ (h.destinations.2.trans hn)
    obtain ⟨t, ht⟩ := sendRequests_total instant (s := { s with pc := .idle }) hfree
    have hstep : Run.exec (Service.step p (methods p)) s [.sendRequests instant] = .ok t := by
      simp only [Run.exec, Service.step, hpc, if_true]
      rw [show (methods p).sendRequests = sendRequests p from rfl, ht]
    obtain ⟨_, _, hsent, -⟩ := sendRequests_sent (s := { s with pc := .idle }) h.destinations.1
      (Or.inr (by exact hnumber.le.trans hpos)) ht
    refine ⟨t, hstep, h.exec hpos hlt hkeep halone (fun event he => ?_) hstep, hsent.frame.1⟩
    rw [List.mem_singleton.mp he]
    trivial

/-- **Finite runs.**  If the bursts do not overlap, `OutstandingRequests` counts the unanswered
requests, and when the service stops, it has done all iterations and written all results. -/
theorem finite_run_finished (p : Parameters) (hpos : 1 ≤ p.iterations)
    (hlt : p.iterations + 1 < 2 ^ 32) (hkeep : p.removeDestinationAfterRun = false)
    (halone : Alone p) (now : Nat) (seqNumber : UInt16) (destinations : List DestinationInfo)
    (hd : (State.start p now seqNumber destinations).destinations ≠ []) (events : List Event)
    (hevents : ∀ event ∈ events, Undisturbed event) {s : State}
    (h : Run.exec (Service.step p (methods p)) (State.start p now seqNumber destinations) events =
      .ok s) :
    s.outstandingRequests = unanswered s.resultsMap ∧
      (s.stopRequested = true → Finished p s) := by
  have hcourse := (Course.start p now seqNumber hd).exec hpos hlt hkeep halone hevents h
  exact ⟨hcourse.outstanding, hcourse.finished (exec_settled h).kept⟩

theorem finite_run_finished_two :
    ∃ s, Run.exec (Service.step finitePing (methods finitePing))
        (State.start finitePing 0 0 [⟨.v4 0x0a000002, 0⟩])
        (firstBurst ++ nextIteration ++ nextIteration) = .ok s ∧ s.stopRequested = true ∧
      Finished finitePing s := by
  obtain ⟨s, hs, hstop⟩ := Run.exists_of_passes (show Run.passes (·.stopRequested)
    (Run.exec (Service.step finitePing (methods finitePing))
      (State.start finitePing 0 0 [⟨.v4 0x0a000002, 0⟩])
      (firstBurst ++ nextIteration ++ nextIteration)) = true by decide +kernel)
  refine ⟨s, hs, hstop, (finite_run_finished finitePing (by decide) (by decide) rfl
    (Or.inr (by decide)) 0 0 _ (by decide) _ ?_ hs).2 hstop⟩
  simp only [firstBurst, nextIteration, List.cons_append, List.nil_append, List.forall_mem_cons]
  exact ⟨trivial, trivial, trivial, trivial, trivial, trivial, trivial, trivial, trivial,
    fun _ he => absurd he List.not_mem_nil⟩

/-- With an interval of 1 s and an expiration of 3 s, the answer to the first request is counted
twice, and the second request is lost: the timer is cancelled after the answers to the others. -/
example : Run.passes (fun s => s.stopRequested && s.requested.length == 4 && s.written.length == 3)
    (Run.exec (Service.step { finitePing with interval := 1000, deviation_le := by decide }
        (methods { finitePing with interval := 1000, deviation_le := by decide }))
      (State.start finitePing 0 0 [⟨.v4 0x0a000002, 0⟩])
      (firstBurst ++ [.elapse 1100000000, .timeoutTimerExpires, .timeoutEvent false allSent,
        .response (.icmp 11 0 3 56) (responseFrom (.v4 0x0a0000fe) 1200000000),
        .response (.icmp 11 0 4 56) (responseFrom (.v4 0x0a0000fe) 1200000000),
        .timeoutEvent true allSent])) = true := by
  decide +kernel

/-- **A finite run can always be completed**, from every state, and writes all results then. -/
theorem finite_run_ends (p : Parameters) (hpos : 1 ≤ p.iterations)
    (hlt : p.iterations + 1 < 2 ^ 32) (hkeep : p.removeDestinationAfterRun = false)
    (halone : Alone p) (now : Nat) (seqNumber : UInt16) (destinations : List DestinationInfo)
    (hd : (State.start p now seqNumber destinations).destinations ≠ [])
    (hroom : (State.start p now seqNumber destinations).destinations.length * p.rounds ≤ 65536)
    (events : List Event) (hevents : ∀ event ∈ events, Undisturbed event) {s : State}
    (h : Run.exec (Service.step p (methods p)) (State.start p now seqNumber destinations) events =
      .ok s) :
    ∃ more t, (∀ event ∈ more, Undisturbed event) ∧
      Run.exec (Service.step p (methods p)) s more = .ok t ∧ t.stopRequested = true ∧
      Finished p t := by
  have hcourse := (Course.start p now seqNumber hd).exec hpos hlt hkeep halone hevents h
  have hsettled := exec_settled h
  -- From the state that some further events lead to, the way to the end is known.
  have hrest : ∀ before u, (∀ event ∈ before, Undisturbed event) →
      Run.exec (Service.step p (methods p)) s before = .ok u → u.pc = .idle →
      ∃ more t, (∀ event ∈ more, Undisturbed event) ∧
        Run.exec (Service.step p (methods p)) s more = .ok t ∧ t.stopRequested = true ∧
        Finished p t := by
    intro before u hbefore hu hpc
    have hcu := hcourse.exec hpos hlt hkeep halone hbefore hu
    obtain ⟨more, t, hmore, ht, hstop⟩ := hcu.ends hpos hlt hkeep halone hroom p.iterations hpc
      (Nat.le_add_left _ _)
    have hexec : Run.exec (Service.step p (methods p)) s (before ++ more) = .ok t := by
      rw [Run.exec_append _ s u _ _ hu, ht]
    refine ⟨before ++ more, t, fun event he => ?_, hexec, hstop, ?_⟩
    · exact (List.mem_append.mp he).elim (hbefore event) (hmore event)
    · exact (hcu.exec hpos hlt hkeep halone hmore ht).finished
        (hsettled.parts (exec_parts hsettled.kept.nodup hexec)).kept hstop
  cases hpc : s.pc with
  | idle => exact hrest [] s (fun _ he => absurd he List.not_mem_nil) rfl hpc
  | prepared =>
    obtain ⟨t, ht, -, hidle⟩ := hcourse.first hpos hlt hkeep halone hroom hpc
    refine hrest [.sendRequests instant] t (fun event he => ?_) ht hidle
    rw [List.mem_singleton.mp he]
    trivial
  | starting =>
    have hrun : Run.exec (Service.step p (methods p)) s [.run] =
        .ok { (prepareRun p true s).1 with pc := .prepared } := by
      simp only [Run.exec, Service.step, hpc, if_true]
      rfl
    have hevent : ∀ event ∈ [Event.run], Undisturbed event := by
      intro event he
      rw [List.mem_singleton.mp he]
      trivial
    obtain ⟨t, ht, -, hidle⟩ := (hcourse.exec hpos hlt hkeep halone hevent hrun).first hpos hlt
      hkeep halone hroom rfl
    refine hrest ([.run] ++ [.sendRequests instant]) t ?_ ?_ hidle
    · intro event he
      rcases List.mem_append.mp he with he | he
      · exact hevent event he
      · rw [List.mem_singleton.mp he]
        trivial
    · rw [Run.exec_append _ _ _ _ _ hrun, ht]

theorem finite_run_ends_firstBurst :
    ∃ s more t, Run.exec (Service.step finitePing (methods finitePing))
        (State.start finitePing 0 0 [⟨.v4 0x0a000002, 0⟩]) firstBurst = .ok s ∧
      Run.exec (Service.step finitePing (methods finitePing)) s more = .ok t ∧
      Finished finitePing t := by
  obtain ⟨s, hs⟩ := firstBurst_ok
  have hevents : ∀ event ∈ firstBurst, Undisturbed event := by
    simp only [firstBurst, List.forall_mem_cons]
    exact ⟨trivial, trivial, trivial, fun _ he => absurd he List.not_mem_nil⟩
  obtain ⟨more, t, -, ht, -, hfinished⟩ := finite_run_ends finitePing (by decide) (by decide) rfl
    (Or.inr (by decide)) 0 0 _ (by decide) (by decide) _ hevents hs
  exact ⟨s, more, t, hs, ht, hfinished⟩

end Ping

end HiPerConTracer.Service
