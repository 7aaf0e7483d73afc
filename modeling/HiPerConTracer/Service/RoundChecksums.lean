import HiPerConTracer.Service.Outstanding
import HiPerConTracer.Service.ProcessResults

/-!
# One checksum for all packets of a round

In every state of a run of Traceroute, the entries of a round have the target checksum of the round
(`Steered`), over all TTL windows.  So neither the assertions in `ICMPModule::sendRequest` nor the
one in `writeTracerouteResultEntry` can fail:

    ¬ exec … events = .error a with a about a checksum,
    exec … events = .ok s → entries of one round have one checksum      (checksum_steering)
-/

namespace HiPerConTracer.Service
open Net Wire IOModule Traceroute

variable {p : Parameters}

/-- An assertion about a checksum. -/
def Assure.isChecksum : Assure → Bool
  | .checksum _ => true
  | .checksumCheck => true
  | _ => false

structure Steered (p : Parameters) (s : State) : Prop where
  accounted : Accounted s
  checksum : ∀ e ∈ s.resultsMap, p.io.RoundChecksum s.targetChecksumArray e.roundNumber e.checksum

theorem Steered.of_empty {s : State} (h : Accounted s) (hempty : s.resultsMap = []) :
    Steered p s := by
  refine ⟨h, fun e he => ?_⟩
  rw [hempty] at he
  exact absurd he List.not_mem_nil

/-- Targets that are set stay, and new requests have them. -/
theorem Steered.sendRequests (hrounds : p.rounds ≤ 65536) {inputs : Inputs} {s t : State}
    (h : Steered p s) (hsend : sendRequests p inputs s = .ok t) : Steered p t := by
  refine ⟨(h.accounted.sendRequests hsend).1, ?_⟩
  cases sendRequests_result h.accounted.good hsend with
  | waiting _ _ _ _ _ => exact h.checksum
  | skipped _ _ _ => exact h.checksum
  | sent d hd hmin hle io n new hsent =>
    show ∀ e ∈ io.resultsMap, _
    rw [hsent.resultsMap, List.forall_mem_append]
    refine ⟨fun e he => (h.checksum e he).mono hsent.extends_targets, fun e he => ?_⟩
    obtain ⟨⟨round, ttl⟩, hq, hreq⟩ := forall₂_mem_right hsent.requests he
    have hround : round ≤ p.rounds - 1 := (mem_roundsAndTTLs.mp hq).1.2
    have hpos := p.rounds_pos
    have heq := hreq.roundNumber
    simp only at heq
    rw [Nat.mod_eq_of_lt (by omega)] at heq
    rw [heq]
    exact hreq.checksum

theorem Steered.response {data : ReceivedData} {s t : State} (h : Steered p s)
    (hr : ResponseResult p (methods p) data s t) : Steered p t := by
  refine ⟨(h.accounted.response hr).1, ?_⟩
  have hreplaced : ∀ l₁ e e' l₂, s.resultsMap = l₁ ++ e :: l₂ →
      ResultEntry.request e' = ResultEntry.request e → ∀ x ∈ l₁ ++ e' :: l₂,
        p.io.RoundChecksum s.targetChecksumArray x.roundNumber x.checksum := by
    intro l₁ e e' l₂ hmap hreq
    have hold := h.checksum
    have hround : e'.roundNumber = e.roundNumber := congrArg ResultEntry.Request.roundNumber hreq
    have hsum : e'.checksum = e.checksum := congrArg ResultEntry.Request.checksum hreq
    rw [hmap, List.forall_mem_append, List.forall_mem_cons] at hold
    rw [List.forall_mem_append, List.forall_mem_cons, hround, hsum]
    exact hold
  cases hr with
  | ignored => exact h.checksum
  | later l₁ e l₂ hmap hstatus => exact hreplaced l₁ e _ l₂ hmap (request_withSource data e)
  | first l₁ e e' l₂ hmap hunknown hrequest hhop hstatus =>
    rw [newResult_eq]
    exact hreplaced l₁ e e' l₂ hmap hrequest

theorem Steered.congr {s t : State} (h : Steered p s) (hsame : SameRequests s t) : Steered p t := by
  refine ⟨h.accounted.congr hsame, ?_⟩
  rw [hsame.targetChecksumArray, hsame.resultsMap]
  exact h.checksum

theorem Steered.step (hrounds : p.rounds ≤ 65536) {s t : State} {event : Event}
    (h : Steered p s) (hs : step p (methods p) s event = .ok t) : Steered p t := by
  have hacc := (h.accounted.step hs).1
  have hr := step_result p (methods p) s event
  rw [hs] at hr
  generalize hres : (Except.ok t : Except Assure State) = r at hr
  cases hr with
  | quiet _ _ _ _ _ _ _ _ _ _ _ =>
    cases hres
    exact ⟨hacc, h.checksum⟩
  | restart _ intervalTimer _ _ =>
    cases hres
    exact .of_empty hacc (prepareRun_prepared true { s with intervalTimer }).resultsMap
  | burst inputs hpc =>
    have h' : Steered p { s with pc := .idle } :=
      h.congr ⟨rfl, rfl, rfl⟩
    exact h'.sendRequests hrounds hres.symm
  | timeout aborted inputs timer s' hpc htake hs' =>
    have hacc' : Accounted s' := by
      rw [hs']
      exact h.accounted.congr ⟨rfl, rfl, rfl⟩
    have hsum : ∀ e ∈ s'.resultsMap,
        p.io.RoundChecksum s'.targetChecksumArray e.roundNumber e.checksum := by
      rw [hs']
      exact h.checksum
    cases handleTimeoutEvent_ok hres.symm with
    | stopped _ ht =>
      rw [ht]
      exact ⟨hacc', hsum⟩
    | again ttlCache u _ _ _ _ _ hu hsend =>
      have hu' : Steered p u := by
        rw [hu]
        exact ⟨hacc'.congr ⟨rfl, rfl, rfl⟩, hsum⟩
      exact hu'.sendRequests hrounds hsend
    | next _ _ _ u _ _ _ hu hsend =>
      have hprep := (Accounted.prepareRun (p := p) (s := u) (by rw [hu]; exact hacc'.good) false).1
      exact (Steered.of_empty hprep (prepareRun_prepared false u).resultsMap).sendRequests hrounds hsend
    | last _ _ _ u _ _ _ hu ht =>
      obtain ⟨_, _, _, heq, -⟩ := scheduleIntervalEvent_cases (p := p) inputs.random
        (Traceroute.prepareRun p false u).1
      rw [heq] at ht
      refine .of_empty hacc ?_
      rw [ht]
      exact (prepareRun_prepared false u).resultsMap
  | response message data hpc =>
    cases hres
    exact h.response (handleResponse_result _ message data h.accounted.nodup)

/-! ## Assertions -/

theorem sendRequests_error {inputs : Inputs} {s : State} {a : Assure}
    (hgood : GoodTargets s.targetChecksumArray) (h : sendRequests p inputs s = .error a) :
    a.isChecksum = false := by
  unfold sendRequests at h
  split at h
  · split at h
    · cases h
      rfl
    · split at h
      · next hio =>
        cases h
        rcases sendRequest_error hgood hio with rfl | rfl | rfl | rfl <;> rfl
      · cases h
  · cases h

/-- The entries of a round pass the check of their checksums. -/
theorem Steered.processResults_error {s : State} {a : Assure} (h : Steered p s)
    (hproc : processResults p s = .error a) : a.isChecksum = false := by
  unfold processResults at hproc
  split at hproc
  · next herr =>
    cases hproc
    obtain ⟨n, timeStamp, hn⟩ := processRounds_error herr
    have hsum : ∀ e ∈ ofRound (s.resultsMap.insertionSort tracerouteOrder) n,
        p.io.RoundChecksum s.targetChecksumArray n e.checksum := by
      intro e he
      obtain ⟨hmem, hround⟩ := List.mem_filter.mp he
      rw [← of_decide_eq_true hround]
      exact h.checksum e ((List.mem_insertionSort _).mp hmem)
    rcases processRound_checksumCheck
      (fun e he e' he' => (hsum e he).unique (hsum e' he')) hn with rfl | rfl <;> rfl
  · cases hproc

theorem Steered.step_error {s : State} {event : Event} {a : Assure} (h : Steered p s)
    (hs : Service.step p (methods p) s event = .error a) : a.isChecksum = false := by
  have hr := step_result p (methods p) s event
  rw [hs] at hr
  generalize hres : (Except.error a : Except Assure State) = r at hr
  cases hr with
  | quiet _ _ _ _ _ _ _ _ _ _ _ => cases hres
  | restart _ _ _ _ => cases hres
  | burst inputs hpc =>
    exact sendRequests_error (s := { s with pc := .idle }) h.accounted.good hres.symm
  | timeout aborted inputs timer s' hpc htake hs' =>
    have hr := handleTimeoutEvent_result p (methods p) inputs s'
    rw [← hres] at hr
    generalize hres' : (Except.error a : Except Assure State) = r at hr
    cases hr with
    | stopped _ => cases hres'
    | again u _ hu =>
      obtain ⟨-, -, -, ttlCache, -, rfl⟩ := nextWindow_true hu
      refine sendRequests_error ?_ hres'.symm
      rw [hs']
      exact h.accounted.good
    | failed u a' _ hu hproc =>
      cases hres'
      obtain ⟨ttlCache, -, rfl⟩ := nextWindow_false hu
      refine Steered.processResults_error ⟨⟨?_, ?_, ?_⟩, ?_⟩ hproc
      · rw [hs']
        exact h.accounted.good
      · rw [hs']
        exact h.accounted.nodup
      · rw [hs']
        exact h.accounted.outstanding
      · rw [hs']
        exact h.checksum
    | next u v w _ hu hproc hrun =>
      obtain ⟨ttlCache, -, rfl⟩ := nextWindow_false hu
      obtain ⟨_, _, _, hv⟩ := processResults_cases hproc
      have hprep := (Accounted.prepareRun (p := p) (s := v)
        (by rw [hv, hs']; exact h.accounted.good) false).1
      have hw : (prepareRun p false v).1 = w := congrArg Prod.fst hrun
      exact sendRequests_error (hw ▸ hprep.good) hres'.symm
    | last _ _ _ _ _ _ _ => cases hres'
  | response _ _ _ => cases hres

/-! ## Runs -/

/-- **Checksum steering.**  The tweak value takes the checksum of a request to the target, no
assertion about a checksum fails, and in a run of Traceroute the packets of a round have one
checksum. -/
theorem checksum_steering :
    (∀ (packet : Packet) (target : UInt32), packet.echoRequest.type ≠ 0 →
      packet.tsHeader.checksumTweak = 0 → target.toNat < 0xffff →
        (packet.withTweak (tweak target packet.internetChecksum)).internetChecksum.toNat =
          target.toNat) ∧
    (∀ (packet : Packet) (seqNumber : UInt16) (ttl round : UInt8) (sendTime : UInt64)
        (target : UInt32), packet.echoRequest.type ≠ 0 →
      target = 0xffffffff ∨ target.toNat < 0xffff →
        ∃ packet' target',
          preparePacket packet seqNumber ttl round sendTime target = .ok (packet', target') ∧
          packet'.Prepared seqNumber target' ∧ (target ≠ 0xffffffff → target' = target)) ∧
    (∀ identifier seqNumber, (pingTargetChecksum identifier seqNumber).toNat < 0xffff) ∧
    ∀ (p : Parameters) (now : Nat) (seqNumber : UInt16) (destinations : List DestinationInfo)
        (events : List Event), p.rounds ≤ 65536 →
      (∀ a, Run.exec (step p (methods p)) (State.start p now seqNumber destinations) events =
          .error a → a.isChecksum = false) ∧
      ∀ s, Run.exec (step p (methods p)) (State.start p now seqNumber destinations) events =
          .ok s →
        ∀ e ∈ s.resultsMap, p.io.RoundChecksum s.targetChecksumArray e.roundNumber e.checksum ∧
          ∀ e' ∈ s.resultsMap, e'.roundNumber = e.roundNumber → e'.checksum = e.checksum := by
  refine ⟨fun packet target htype h0 ht => internetChecksum_tweak htype h0 ht,
    fun packet seqNumber ttl round sendTime target htype ht =>
      preparePacket_target htype seqNumber ttl round sendTime ht,
    pingTargetChecksum_lt, ?_⟩
  intro p now seqNumber destinations events hrounds
  have hstart : Steered p (State.start p now seqNumber destinations) :=
    .of_empty (.start p now seqNumber destinations) rfl
  have htrue := Run.meets_true (step p (methods p)) (State.start p now seqNumber destinations)
    events
  constructor
  · intro a ha
    obtain ⟨t, event, ht, -, hstep⟩ := Run.exec_error
      (fun _ _ _ hs _ hst => Steered.step hrounds hs hst) hstart htrue ha
    exact ht.step_error hstep
  · intro s hs e he
    have hsteered := Run.exec_invariant
      (fun _ _ _ hs _ hst => Steered.step hrounds hs hst) hstart htrue hs
    refine ⟨hsteered.checksum e he, fun e' he' hround => ?_⟩
    have h' := hsteered.checksum e' he'
    rw [hround] at h'
    exact h'.unique (hsteered.checksum e he)

def icmpTraceroute : Parameters :=
  { udpTraceroute with
    io := { udpModule with protocol := .icmp }
    rounds := 1
    rounds_pos := oneRound_pos }

/-- Two windows over ICMP, with the echo request of the module for the parts about a packet. -/
theorem checksum_steering_icmp :
    (udpModule.echoRequest.withTweak (tweak 0
        udpModule.echoRequest.internetChecksum)).internetChecksum.toNat = (0 : UInt32).toNat ∧
    (∃ packet' target', preparePacket udpModule.echoRequest 1 2 0 0 0xfffe =
        .ok (packet', target') ∧ packet'.Prepared 1 target' ∧
        ((0xfffe : UInt32) ≠ 0xffffffff → target' = 0xfffe)) ∧
    ∃ s, Run.exec (step icmpTraceroute (methods icmpTraceroute))
        (State.start icmpTraceroute 0 65530 [⟨.v4 0x0a000002, 0⟩])
        [.run, .sendRequests allSent, .elapse 3000000000, .timeoutTimerExpires,
          .timeoutEvent false allSent] = .ok s ∧
      ∀ e ∈ s.resultsMap,
        icmpTraceroute.io.RoundChecksum s.targetChecksumArray e.roundNumber e.checksum ∧
        ∀ e' ∈ s.resultsMap, e'.roundNumber = e.roundNumber → e'.checksum = e.checksum := by
  obtain ⟨s, hs⟩ := Run.exists_of_isOk (show (Run.exec
        (step icmpTraceroute (methods icmpTraceroute))
        (State.start icmpTraceroute 0 65530 [⟨.v4 0x0a000002, 0⟩])
        [.run, .sendRequests allSent, .elapse 3000000000, .timeoutTimerExpires,
          .timeoutEvent false allSent]).isOk = true by decide +kernel)
  exact ⟨checksum_steering.1 _ 0 udpModule.echoRequest_type rfl (by decide),
    checksum_steering.2.1 _ 1 2 0 0 _ udpModule.echoRequest_type (Or.inr (by decide)),
    s, hs, (checksum_steering.2.2.2 icmpTraceroute 0 65530 _ _ (by decide)).2 s hs⟩

end HiPerConTracer.Service
