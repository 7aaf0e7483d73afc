import HiPerConTracer.Service.SendRequest
import HiPerConTracer.Service.Steps
import HiPerConTracer.Lib.Run
import Mathlib.Data.List.Sort

/-!
# Transmission timestamps (`updateSendTimeInResultEntry`, `sendRequest`)

The kernel numbers the messages that have been sent successfully, and reports the times of their
transmission with these numbers.  `sendRequest` stores the number of the next message in each entry
before it sends, and goes on to the next number only if the message has been sent.  So the entry of
a message that failed has the number of a later one.  In a run where it is removed before the next
message, each report reaches the entry of its message:

    Meets step Distinct start events → exec step start events = .ok s →
      s.Attributed                                                    (transmissions_attributed)
-/

namespace HiPerConTracer.Service.Timestamping
open Net IOModule

/-! ## Reports -/

/-- The types of reports (`ee_info`). -/
inductive TimestampInfo where
  /-- `SCM_TSTAMP_SND` -/
  | sent
  /-- `SCM_TSTAMP_SCHED` -/
  | scheduled
  | other
deriving DecidableEq, Repr

/-- A `timespec`, with seconds since the epoch. -/
structure Timespec where
  sec : Nat
  nsec : Nat
deriving DecidableEq, Repr

def Timespec.time (t : Timespec) : Nat := t.sec * 1000000000 + t.nsec

/-- A report: the number of the message (`ee_data`), the type, and the times of software (`ts[0]`)
and hardware (`ts[2]`). -/
structure Report where
  data : UInt32
  info : TimestampInfo
  ts0 : Timespec
  ts2 : Timespec

/-- The type of time stamp and its source, where they are known, and the time. -/
def Report.sendTime (r : Report) :
    Option TXTimeStampType × Option TimeSourceType × Nat :=
  let (txTimeStampType, txTimeSource, txTimePoint) :
      Option TXTimeStampType × Option TimeSourceType × Nat :=
    if r.ts2.sec ≠ 0 then
      (if r.info = .sent then some .transmissionHW else none, some .timestampingHW, r.ts2.time)
    else (none, none, 0)
  if r.ts0.sec ≠ 0 then
    (match r.info with
      | .scheduled => some .schedulerSW
      | .sent => some .transmissionSW
      | .other => txTimeStampType,
      some .timestampingSW, r.ts0.time)
  else (txTimeStampType, txTimeSource, txTimePoint)

/-- What a report stores in an entry. -/
def Report.store (r : Report) (e : ResultEntry) : ResultEntry :=
  match r.sendTime with
  | (some txTimeStampType, some txTimeSource, txTimePoint) =>
    e.setSendTime txTimeStampType txTimeSource txTimePoint
  | _ => e

/-- The map in the order of its keys. -/
def inKeyOrder (resultsMap : List ResultEntry) : List ResultEntry :=
  resultsMap.insertionSort fun a b => a.seqNumber.toNat ≤ b.seqNumber.toNat

/-- `updateSendTimeInResultEntry`: the first entry with the number of the report. -/
def updateSendTimeInResultEntry (r : Report) (resultsMap : List ResultEntry) :
    List ResultEntry :=
  match (inKeyOrder resultsMap).find? fun e => e.timeStampSeqID = r.data with
  | none => resultsMap
  | some e => replaceEntry resultsMap (r.store e)

/-! ## Runs -/

/-- The arguments of a call of `sendRequest`, and what happens at its sends. -/
structure Call where
  targetChecksumArray : Nat → UInt32
  destination : DestinationInfo
  fromTTL : Nat
  toTTL : Nat
  fromRound : Nat
  toRound : Nat
  trafficClassSet : Bool
  outcomes : Nat → SendOutcome

inductive Event where
  | sendRequest (call : Call)
  | recordResult (d : ReceivedData) (icmpType icmpCode : UInt8) (seqNumber : UInt16)
      (responseLength : Nat)
  /-- Entries that are finished are removed. -/
  | remove (seqNumbers : List UInt16)
  | report (r : Report)

/-- The state of a module.  `number` has the number of the message for the sequence number of an
entry, if it was sent. -/
structure State where
  io : IOState
  messagesSent : Nat
  number : UInt16 → Option Nat

variable (io : IOModule)

/-- The number of requests of a call. -/
def Call.requests (call : Call) : Nat :=
  (roundsAndTTLs call.fromTTL call.toTTL call.fromRound call.toRound).length

/-- Nothing is done when the traffic class cannot be set. -/
def Call.Skipped (call : Call) : Prop := io.protocol = .icmp ∧ call.trafficClassSet = false

/-- The number of messages that the first `n` sends of a call have sent. -/
def Call.successes (call : Call) (n : Nat) : Nat :=
  (List.range n).countP fun i => (call.outcomes i).success

/-- The numbers after a call: request `j` of the call has the sequence number `first + j`. -/
def Call.number (call : Call) (s : State) (q : UInt16) : Option Nat :=
  let j := (q - (s.io.seqNumber + 1)).toNat
  if j < call.requests then
    if (call.outcomes j).success then some (s.messagesSent + call.successes j) else none
  else s.number q

def step (s : State) : Event → Except Assure State
  | .sendRequest call =>
    match io.sendRequest call.destination call.fromTTL call.toTTL call.fromRound call.toRound
        call.trafficClassSet call.outcomes
        { s.io with targetChecksumArray := call.targetChecksumArray } with
    | .error a => .error a
    | .ok (t, _) =>
      if io.protocol = .icmp ∧ call.trafficClassSet = false then .ok { s with io := t }
      else .ok ⟨t, s.messagesSent + call.successes call.requests, call.number s⟩
  | .recordResult d icmpType icmpCode seqNumber responseLength =>
    .ok { s with io := { s.io with resultsMap :=
      (io.recordResult d icmpType icmpCode seqNumber responseLength s.io.resultsMap).1 } }
  | .remove seqNumbers =>
    .ok { s with io := { s.io with resultsMap :=
      (s.io.resultsMap.filter fun e => e.seqNumber ∉ seqNumbers) } }
  | .report r =>
    .ok { s with io := { s.io with resultsMap := (updateSendTimeInResultEntry r s.io.resultsMap) } }

/-- A module without requests; the first sequence number is arbitrary. -/
def start (now : Nat) (seqNumber : UInt16) : State :=
  ⟨⟨now, seqNumber, 0, fun _ => 0xffffffff, []⟩, 0, fun _ => none⟩

/-- A report of message `k` is stored in the entry of that message, if it is there, and nowhere
else; numbers are reported before they come again.  No two entries have the same number. -/
structure State.Attributed (s : State) : Prop where
  stored : ∀ k, k < s.messagesSent → s.messagesSent < k + 2 ^ 32 → ∀ r : Report,
    r.data = UInt32.ofNat k → updateSendTimeInResultEntry r s.io.resultsMap =
      s.io.resultsMap.map fun e => if s.number e.seqNumber = some k then r.store e else e
  distinct : (s.io.resultsMap.map (·.timeStampSeqID)).Nodup

/-- Only the last send of a call may fail, and its entry is removed before the next request. -/
def Distinct (s : State) : Event → Prop
  | .sendRequest call => ¬ call.Skipped io →
      (∀ i, i + 1 < call.requests → (call.outcomes i).success = true) ∧
      ∀ e ∈ s.io.resultsMap, e.timeStampSeqID ≠ s.io.timeStampSeqID
  | _ => True

/-! ## What a call does -/

variable {io}

/-- What the sender loop has numbered: `k` entries from `s` on, with the outcomes from `i` on. -/
structure LoopNumbers (outcomes : Nat → SendOutcome) (i k : Nat) (s s' : Sending)
    (new : List (ResultEntry × SendOutcome)) : Prop where
  array : s'.resultEntryArray = s.resultEntryArray ++ new
  seqNumbers : new.map (·.1.seqNumber) = seqNumbersAfter s.seqNumber k
  seqNumber : s'.seqNumber = s.seqNumber + UInt16.ofNat k
  timeStampSeqIDs : new.map (·.1.timeStampSeqID) = (List.range k).map fun j =>
    s.timeStampSeqID + UInt32.ofNat ((List.range j).countP fun m => (outcomes (i + m)).success)
  timeStampSeqID : s'.timeStampSeqID = s.timeStampSeqID +
    UInt32.ofNat ((List.range k).countP fun m => (outcomes (i + m)).success)

theorem sendPacket_numbers {destination : DestinationInfo} {outcome : SendOutcome} {round ttl : Nat}
    {s u : Sending} (h : io.sendPacket destination outcome round ttl s = .ok u) :
    ∃ x, u.resultEntryArray = s.resultEntryArray ++ [x] ∧ x.1.seqNumber = s.seqNumber + 1 ∧
      x.1.timeStampSeqID = s.timeStampSeqID ∧ u.seqNumber = s.seqNumber + 1 ∧
      u.timeStampSeqID = s.timeStampSeqID + UInt32.ofNat (if outcome.success then 1 else 0) := by
  unfold sendPacket at h
  simp only at h
  split at h
  · cases h
  · cases h
    refine ⟨_, rfl, rfl, rfl, rfl, ?_⟩
    simp only
    split
    · rfl
    · exact (UInt32.add_zero _).symm

/-- The first outcome and the others. -/
theorem countP_outcomes (p : Nat → Bool) (i j : Nat) :
    (List.range (j + 1)).countP (fun m => p (i + m)) =
      (if p i then 1 else 0) + (List.range j).countP fun m => p (i + 1 + m) := by
  rw [List.range_succ_eq_map, List.countP_cons, List.countP_map, Nat.add_comm]
  refine congrArg _ (List.countP_congr fun m _ => ?_)
  rw [Function.comp_apply, Nat.add_right_comm, Nat.add_assoc]

/-- The loop numbers the entries one after the other, and goes on after a success. -/
theorem sendLoop_numbers {destination : DestinationInfo} {outcomes : Nat → SendOutcome} {i : Nat}
    {pairs : List (Nat × Nat)} {s s' : Sending}
    (h : io.sendLoop destination outcomes i pairs s = .ok s') :
    ∃ new, LoopNumbers outcomes i pairs.length s s' new := by
  induction pairs generalizing i s with
  | nil =>
    cases h
    exact ⟨[], by simp, rfl, by simp, rfl, by simp⟩
  | cons pair pairs ih =>
    obtain ⟨round, ttl⟩ := pair
    unfold sendLoop at h
    cases hp : io.sendPacket destination (outcomes i) round ttl s with
    | error a =>
      rw [hp] at h
      cases h
    | ok u =>
      rw [hp] at h
      obtain ⟨x, harray, hseq, hid, huseq, huid⟩ := sendPacket_numbers hp
      obtain ⟨new, hnew⟩ := ih h
      have hnext : ∀ j, s.timeStampSeqID +
          UInt32.ofNat ((List.range (j + 1)).countP fun m => (outcomes (i + m)).success) =
          u.timeStampSeqID +
            UInt32.ofNat ((List.range j).countP fun m => (outcomes (i + 1 + m)).success) := by
        intro j
        rw [countP_outcomes (fun m => (outcomes m).success), huid, UInt32.ofNat_add,
          UInt32.add_assoc]
      refine ⟨x :: new, ⟨?_, ?_, ?_, ?_, ?_⟩⟩
      · rw [hnew.array, harray, List.append_assoc]
        rfl
      · rw [List.map_cons, hnew.seqNumbers, hseq, huseq]
        rfl
      · rw [hnew.seqNumber, huseq, List.length_cons]
        apply UInt16.toNat_inj.mp
        simp only [UInt16.toNat_add, UInt16.toNat_ofNat', UInt16.toNat_one]
        omega
      · rw [List.map_cons, hnew.timeStampSeqIDs, hid, List.length_cons, List.range_succ_eq_map,
          List.map_cons, List.map_map]
        refine congrArg₂ _ (UInt32.add_zero _).symm (List.map_congr_left fun j _ => ?_)
        exact (hnext j).symm
      · rw [hnew.timeStampSeqID, List.length_cons]
        exact (hnext _).symm

/-- What a call of `sendRequest` that is not skipped changes. -/
structure Numbers (call : Call) (s : State) (t : IOState) (new : List ResultEntry) : Prop where
  resultsMap : t.resultsMap = s.io.resultsMap ++ new
  nodup : (s.io.resultsMap.map (·.seqNumber)).Nodup → (t.resultsMap.map (·.seqNumber)).Nodup
  seqNumbers : new.map (·.seqNumber) = seqNumbersAfter s.io.seqNumber call.requests
  seqNumber : t.seqNumber = s.io.seqNumber + UInt16.ofNat call.requests
  timeStampSeqIDs : new.map (·.timeStampSeqID) = (List.range call.requests).map fun j =>
    s.io.timeStampSeqID + UInt32.ofNat (call.successes j)
  timeStampSeqID : t.timeStampSeqID =
    s.io.timeStampSeqID + UInt32.ofNat (call.successes call.requests)

theorem checkedEntry_timeStampSeqID (r : ResultEntry × SendOutcome) :
    (checkedEntry r).timeStampSeqID = r.1.timeStampSeqID := by
  unfold checkedEntry
  split <;> rfl

theorem sendRequest_numbers {call : Call} {s : State} {t : IOState} {n : Nat}
    (hskip : ¬ call.Skipped io)
    (h : io.sendRequest call.destination call.fromTTL call.toTTL call.fromRound call.toRound
      call.trafficClassSet call.outcomes
      { s.io with targetChecksumArray := call.targetChecksumArray } = .ok (t, n)) :
    ∃ new, Numbers call s t new := by
  unfold sendRequest at h
  rw [if_neg (show ¬ (io.protocol = .icmp ∧ call.trafficClassSet = false) from hskip)] at h
  split at h
  · cases h
  · split at h
    · cases h
    · split at h
      · cases h
      · next l hl =>
        obtain ⟨new, hnew⟩ := sendLoop_numbers hl
        split at h
        · cases h
        · split at h
          · cases h
          · next resultsMap hi =>
            cases h
            rw [hnew.array] at hi
            obtain ⟨heq, hnd⟩ := insertEntries_ok hi
            refine ⟨_, heq, hnd, ?_, hnew.seqNumber, ?_, ?_⟩
            · exact Eq.trans (by rw [List.map_map]
                                 exact List.map_congr_left fun x _ => checkedEntry_seqNumber x)
                hnew.seqNumbers
            · refine Eq.trans (by rw [List.map_map]
                                  exact List.map_congr_left fun x _ =>
                                    checkedEntry_timeStampSeqID x) (hnew.timeStampSeqIDs.trans ?_)
              simp only [Nat.zero_add]
              rfl
            · have hid := hnew.timeStampSeqID
              simp only [Nat.zero_add] at hid
              exact hid

theorem seqNumbersAfter_eq_map (q : UInt16) (k : Nat) :
    seqNumbersAfter q k = (List.range k).map fun j => q + UInt16.ofNat (j + 1) := by
  induction k with
  | zero => rfl
  | succ k ih =>
    rw [seqNumbersAfter_add, ih, List.range_succ, List.map_append, List.map_singleton,
      UInt16.ofNat_add, ← UInt16.add_assoc]
    rfl

theorem get_of_map_eq_range {α β : Type} {l : List α} {f : α → β} {g : Nat → β} {k j : Nat}
    (h : l.map f = (List.range k).map g) (hj : j < l.length) : j < k ∧ f (l.get ⟨j, hj⟩) = g j := by
  have hlength : l.length = k := by
    rw [← List.length_map f, h, List.length_map, List.length_range]
  have hget := congrArg (fun m => m[j]?) h
  simp only [List.getElem?_map, List.getElem?_eq_getElem hj, List.getElem?_range (hlength ▸ hj),
    Option.map_some, Option.some.injEq] at hget
  exact ⟨hlength ▸ hj, hget⟩

/-- The entry of request `j`. -/
theorem Numbers.request {call : Call} {s : State} {t : IOState} {new : List ResultEntry}
    (h : Numbers call s t new) {e : ResultEntry} (he : e ∈ new) :
    ∃ j < call.requests, e.seqNumber = s.io.seqNumber + UInt16.ofNat (j + 1) ∧
      e.timeStampSeqID = s.io.timeStampSeqID + UInt32.ofNat (call.successes j) := by
  obtain ⟨j, rfl⟩ := List.get_of_mem he
  obtain ⟨hj, hid⟩ := get_of_map_eq_range h.timeStampSeqIDs j.isLt
  have hseq := h.seqNumbers
  rw [seqNumbersAfter_eq_map] at hseq
  exact ⟨j, hj, (get_of_map_eq_range hseq j.isLt).2, hid⟩

/-- A call makes at most 2^16 requests, and their sequence numbers are not in use. -/
theorem Numbers.fresh {call : Call} {s : State} {t : IOState} {new : List ResultEntry}
    (h : Numbers call s t new) (hkeys : (s.io.resultsMap.map (·.seqNumber)).Nodup) :
    call.requests ≤ 65536 ∧ ∀ e ∈ s.io.resultsMap, ∀ j < call.requests,
      e.seqNumber ≠ s.io.seqNumber + UInt16.ofNat (j + 1) := by
  have hnd := h.nodup hkeys
  rw [h.resultsMap, List.map_append, h.seqNumbers] at hnd
  obtain ⟨-, hnew, hdisjoint⟩ := List.nodup_append.mp hnd
  constructor
  · have hle := nodup_length_le hnew
    rwa [seqNumbersAfter_length] at hle
  · intro e he j hj heq
    refine hdisjoint _ (List.mem_map_of_mem he) _ ?_ heq
    rw [seqNumbersAfter_eq_map]
    exact List.mem_map.mpr ⟨j, List.mem_range.mpr hj, rfl⟩

/-- An entry from before is further back than the requests of the call. -/
theorem Numbers.behind {call : Call} {s : State} {t : IOState} {new : List ResultEntry}
    (h : Numbers call s t new) (hkeys : (s.io.resultsMap.map (·.seqNumber)).Nodup)
    {e : ResultEntry} (he : e ∈ s.io.resultsMap) :
    (t.seqNumber - e.seqNumber).toNat = (s.io.seqNumber - e.seqNumber).toNat + call.requests ∧
      (s.io.seqNumber - e.seqNumber).toNat + call.requests < 65536 := by
  obtain ⟨hle, hfresh⟩ := h.fresh hkeys
  have hlt : (s.io.seqNumber - e.seqNumber).toNat + call.requests < 65536 := by
    by_contra hno
    have hd := (s.io.seqNumber - e.seqNumber).toNat_lt
    refine hfresh e he (65535 - (s.io.seqNumber - e.seqNumber).toNat) (by omega) ?_
    apply UInt16.toNat_inj.mp
    have hs := s.io.seqNumber.toNat_lt
    have he := e.seqNumber.toNat_lt
    simp only [UInt16.toNat_add, UInt16.toNat_sub, UInt16.toNat_ofNat'] at hd ⊢
    omega
  refine ⟨?_, hlt⟩
  rw [h.seqNumber]
  have hs := s.io.seqNumber.toNat_lt
  have he := e.seqNumber.toNat_lt
  simp only [UInt16.toNat_add, UInt16.toNat_sub, UInt16.toNat_ofNat'] at hlt ⊢
  omega

/-! ## The numbers in the map -/

/-- The entry of a message that was sent has its number, and lies back by no more requests than
there were since; the entry of a message that failed, if there is one, has the next number. -/
structure Numbered (s : State) : Prop where
  nodup : (s.io.resultsMap.map (·.seqNumber)).Nodup
  next : s.io.timeStampSeqID = UInt32.ofNat s.messagesSent
  sent : ∀ e ∈ s.io.resultsMap, ∀ k, s.number e.seqNumber = some k →
    e.timeStampSeqID = UInt32.ofNat k ∧ k < s.messagesSent ∧
      s.messagesSent ≤ k + 1 + (s.io.seqNumber - e.seqNumber).toNat
  failed : ∀ e ∈ s.io.resultsMap, s.number e.seqNumber = none →
    e.timeStampSeqID = UInt32.ofNat s.messagesSent
  unique : ∀ e ∈ s.io.resultsMap, ∀ e' ∈ s.io.resultsMap,
    s.number e.seqNumber = s.number e'.seqNumber → e.seqNumber = e'.seqNumber

theorem numbered_start (now : Nat) (seqNumber : UInt16) : Numbered (start now seqNumber) :=
  ⟨List.nodup_nil, rfl, fun _ he => absurd he List.not_mem_nil,
    fun _ he => absurd he List.not_mem_nil, fun _ he => absurd he List.not_mem_nil⟩

/-- The map may lose entries, and its entries may change in all but their numbers. -/
theorem Numbered.sublist {s : State} (h : Numbered s) {resultsMap : List ResultEntry}
    (hsub : (resultsMap.map fun e => (e.seqNumber, e.timeStampSeqID)).Sublist
      (s.io.resultsMap.map fun e => (e.seqNumber, e.timeStampSeqID))) :
    Numbered { s with io := { s.io with resultsMap } } := by
  have hold : ∀ e ∈ resultsMap, ∃ x ∈ s.io.resultsMap,
      x.seqNumber = e.seqNumber ∧ x.timeStampSeqID = e.timeStampSeqID := by
    intro e he
    obtain ⟨x, hx, heq⟩ := List.mem_map.mp (hsub.subset (List.mem_map_of_mem he))
    exact ⟨x, hx, (Prod.mk.inj heq).1, (Prod.mk.inj heq).2⟩
  refine ⟨?_, h.next, ?_, ?_, ?_⟩
  · have hkeys := hsub.map Prod.fst
    rw [List.map_map, List.map_map] at hkeys
    exact h.nodup.sublist hkeys
  · intro e he k hk
    obtain ⟨x, hx, hseq, hid⟩ := hold e he
    have hx := h.sent x hx k (hseq ▸ hk)
    rw [hseq, hid] at hx
    exact hx
  · intro e he hk
    obtain ⟨x, hx, hseq, hid⟩ := hold e he
    rw [← hid]
    exact h.failed x hx (hseq ▸ hk)
  · intro e he e' he' heq
    obtain ⟨x, hx, hseq, -⟩ := hold e he
    obtain ⟨x', hx', hseq', -⟩ := hold e' he'
    rw [← hseq, ← hseq'] at heq ⊢
    exact h.unique x hx x' hx' heq

/-- One entry is replaced by another one with the same numbers. -/
theorem replaceEntry_numbers {resultsMap : List ResultEntry} {e e' : ResultEntry}
    (hnd : (resultsMap.map (·.seqNumber)).Nodup) (he : e ∈ resultsMap)
    (hseq : e'.seqNumber = e.seqNumber) (hid : e'.timeStampSeqID = e.timeStampSeqID) :
    ((replaceEntry resultsMap e').map fun x => (x.seqNumber, x.timeStampSeqID)) =
      resultsMap.map fun x => (x.seqNumber, x.timeStampSeqID) := by
  unfold replaceEntry
  rw [List.map_map]
  refine List.map_congr_left fun x hx => ?_
  rw [Function.comp_apply]
  split
  · next hxe =>
    obtain rfl := List.inj_on_of_nodup_map hnd hx he (hxe.trans hseq)
    rw [hseq, hid]
  · rfl

variable (io) in
theorem answered_numbers (d : ReceivedData) (icmpType icmpCode : UInt8) (responseLength : Nat)
    (e : ResultEntry) :
    (io.answered d icmpType icmpCode responseLength e).seqNumber = e.seqNumber ∧
      (io.answered d icmpType icmpCode responseLength e).timeStampSeqID = e.timeStampSeqID :=
  ⟨rfl, rfl⟩

theorem recordResult_numbers (d : ReceivedData) (icmpType icmpCode : UInt8) (seqNumber : UInt16)
    (responseLength : Nat) {resultsMap : List ResultEntry}
    (hnd : (resultsMap.map (·.seqNumber)).Nodup) :
    ((io.recordResult d icmpType icmpCode seqNumber responseLength resultsMap).1.map
      fun x => (x.seqNumber, x.timeStampSeqID)) =
      resultsMap.map fun x => (x.seqNumber, x.timeStampSeqID) := by
  unfold recordResult
  cases hf : resultsMap.find? fun e => e.seqNumber = seqNumber with
  | none => rfl
  | some e =>
    have he := List.mem_of_find?_eq_some hf
    have hsource : (withSource d e).seqNumber = e.seqNumber ∧
        (withSource d e).timeStampSeqID = e.timeStampSeqID := by
      unfold withSource
      split <;> exact ⟨rfl, rfl⟩
    obtain ⟨hseq, hid⟩ := answered_numbers io d icmpType icmpCode responseLength (withSource d e)
    simp only
    split
    · rfl
    · split
      · exact replaceEntry_numbers hnd he (hseq.trans hsource.1) (hid.trans hsource.2)
      · exact replaceEntry_numbers hnd he hsource.1 hsource.2

theorem Report.store_numbers (r : Report) (e : ResultEntry) :
    (r.store e).seqNumber = e.seqNumber ∧ (r.store e).timeStampSeqID = e.timeStampSeqID := by
  unfold Report.store
  split <;> exact ⟨rfl, rfl⟩

theorem mem_inKeyOrder {resultsMap : List ResultEntry} {e : ResultEntry} :
    e ∈ inKeyOrder resultsMap ↔ e ∈ resultsMap :=
  (List.perm_insertionSort _ resultsMap).mem_iff

theorem updateSendTimeInResultEntry_numbers (r : Report) {resultsMap : List ResultEntry}
    (hnd : (resultsMap.map (·.seqNumber)).Nodup) :
    ((updateSendTimeInResultEntry r resultsMap).map fun x => (x.seqNumber, x.timeStampSeqID)) =
      resultsMap.map fun x => (x.seqNumber, x.timeStampSeqID) := by
  unfold updateSendTimeInResultEntry
  split
  · rfl
  · next e hf =>
    exact replaceEntry_numbers hnd (mem_inKeyOrder.mp (List.mem_of_find?_eq_some hf))
      (r.store_numbers e).1 (r.store_numbers e).2

/-! ## A call that keeps the numbers apart -/

theorem Call.successes_eq {call : Call}
    (h : ∀ i, i + 1 < call.requests → (call.outcomes i).success = true) {j : Nat}
    (hj : j < call.requests) : call.successes j = j := by
  unfold Call.successes
  rw [List.countP_eq_length.mpr, List.length_range]
  intro i hi
  exact h i (by have := List.mem_range.mp hi; omega)

theorem Call.successes_succ (call : Call) (j : Nat) :
    call.successes (j + 1) = call.successes j + if (call.outcomes j).success then 1 else 0 := by
  unfold Call.successes
  rw [List.range_succ, List.countP_append, List.countP_singleton]

/-- The number of request `j`. -/
theorem Call.number_request {call : Call} {s : State} {j : Nat} (hj : j < call.requests)
    (hle : call.requests ≤ 65536) :
    call.number s (s.io.seqNumber + UInt16.ofNat (j + 1)) =
      if (call.outcomes j).success then some (s.messagesSent + call.successes j) else none := by
  have hindex : (s.io.seqNumber + UInt16.ofNat (j + 1) - (s.io.seqNumber + 1)).toNat = j := by
    have hs := s.io.seqNumber.toNat_lt
    simp only [UInt16.toNat_add, UInt16.toNat_sub, UInt16.toNat_ofNat', UInt16.toNat_one]
    omega
  unfold Call.number
  simp only [hindex, if_pos hj]

theorem Numbers.number_old {call : Call} {s : State} {t : IOState} {new : List ResultEntry}
    (h : Numbers call s t new) (hkeys : (s.io.resultsMap.map (·.seqNumber)).Nodup)
    {e : ResultEntry} (he : e ∈ s.io.resultsMap) :
    call.number s e.seqNumber = s.number e.seqNumber := by
  have hlt := (h.behind hkeys he).2
  have hindex : ¬ (e.seqNumber - (s.io.seqNumber + 1)).toNat < call.requests := by
    have hs := s.io.seqNumber.toNat_lt
    have he := e.seqNumber.toNat_lt
    simp only [UInt16.toNat_add, UInt16.toNat_sub, UInt16.toNat_one] at hlt ⊢
    omega
  unfold Call.number
  simp only [if_neg hindex]

/-- A request that fails is the last one. -/
theorem Call.last_fails {call : Call}
    (h : ∀ i, i + 1 < call.requests → (call.outcomes i).success = true) {j : Nat}
    (hj : j < call.requests) (hfail : (call.outcomes j).success = false) :
    j + 1 = call.requests ∧ call.successes call.requests = j := by
  have hj1 : j + 1 = call.requests := by
    by_contra hne
    rw [h j (by omega)] at hfail
    cases hfail
  rw [← hj1, call.successes_succ, hfail, Call.successes_eq h hj]
  exact ⟨rfl, rfl⟩

theorem Call.lt_successes {call : Call}
    (h : ∀ i, i + 1 < call.requests → (call.outcomes i).success = true) {j : Nat}
    (hj : j < call.requests) (hok : (call.outcomes j).success = true) :
    j < call.successes call.requests := by
  have hmono : call.successes (j + 1) ≤ call.successes call.requests :=
    (List.range_sublist.mpr hj).countP_le
  rw [call.successes_succ, hok, Call.successes_eq h hj] at hmono
  exact hmono

theorem Call.successes_le (call : Call) (n : Nat) : call.successes n ≤ n :=
  List.countP_le_length.trans_eq List.length_range

/-- If no entry of a message that failed is left, the others have the numbers they had. -/
theorem Numbers.old {call : Call} {s : State} {t : IOState} {new : List ResultEntry}
    (h : Numbers call s t new) (hs : Numbered s)
    (hfree : ∀ e ∈ s.io.resultsMap, e.timeStampSeqID ≠ s.io.timeStampSeqID) {e : ResultEntry}
    (he : e ∈ s.io.resultsMap) :
    ∃ k, call.number s e.seqNumber = some k ∧ s.number e.seqNumber = some k := by
  rw [h.number_old hs.nodup he]
  cases hk : s.number e.seqNumber with
  | none => exact absurd ((hs.failed e he hk).trans hs.next.symm) (hfree e he)
  | some k => exact ⟨k, rfl, rfl⟩

theorem Numbers.new {call : Call} {s : State} {t : IOState} {new : List ResultEntry}
    (h : Numbers call s t new) (hs : Numbered s)
    (hsuccess : ∀ i, i + 1 < call.requests → (call.outcomes i).success = true) {e : ResultEntry}
    (he : e ∈ new) :
    ∃ j < call.requests, e.seqNumber = s.io.seqNumber + UInt16.ofNat (j + 1) ∧
      e.timeStampSeqID = UInt32.ofNat (s.messagesSent + j) ∧ call.number s e.seqNumber =
        if (call.outcomes j).success then some (s.messagesSent + j) else none := by
  obtain ⟨j, hj, hseq, hid⟩ := h.request he
  refine ⟨j, hj, hseq, ?_, ?_⟩
  · rw [hid, hs.next, Call.successes_eq hsuccess hj, UInt32.ofNat_add]
  · rw [hseq, Call.number_request hj (h.fresh hs.nodup).1, Call.successes_eq hsuccess hj]

/-- No two entries have the same number after the call. -/
theorem Numbers.unique {call : Call} {s : State} {t : IOState} {new : List ResultEntry}
    (h : Numbers call s t new) (hs : Numbered s)
    (hsuccess : ∀ i, i + 1 < call.requests → (call.outcomes i).success = true)
    (hfree : ∀ e ∈ s.io.resultsMap, e.timeStampSeqID ≠ s.io.timeStampSeqID) :
    ∀ e ∈ t.resultsMap, ∀ e' ∈ t.resultsMap,
      call.number s e.seqNumber = call.number s e'.seqNumber → e.seqNumber = e'.seqNumber := by
  have hnewold : ∀ x ∈ s.io.resultsMap, ∀ y ∈ new,
      call.number s x.seqNumber ≠ call.number s y.seqNumber := by
    intro x hx y hy hxy
    obtain ⟨k, hk, hks⟩ := h.old hs hfree hx
    obtain ⟨j, -, -, -, hnumber⟩ := h.new hs hsuccess hy
    have hlt := (hs.sent x hx k hks).2.1
    rw [hk, hnumber] at hxy
    split at hxy
    · have := Option.some.inj hxy
      omega
    · cases hxy
  intro e he e' he' heq
  rw [h.resultsMap] at he he'
  rcases List.mem_append.mp he with he | he <;> rcases List.mem_append.mp he' with he' | he'
  · rw [h.number_old hs.nodup he, h.number_old hs.nodup he'] at heq
    exact hs.unique e he e' he' heq
  · exact absurd heq (hnewold e he e' he')
  · exact absurd heq.symm (hnewold e' he' e he)
  · obtain ⟨j, hj, hseq, -, hnumber⟩ := h.new hs hsuccess he
    obtain ⟨j', hj', hseq', -, hnumber'⟩ := h.new hs hsuccess he'
    have hjj : j = j' := by
      rw [hnumber, hnumber'] at heq
      cases hok : (call.outcomes j).success <;> cases hok' : (call.outcomes j').success <;>
        rw [hok, hok'] at heq
      · have := (Call.last_fails hsuccess hj hok).1
        have := (Call.last_fails hsuccess hj' hok').1
        omega
      · cases heq
      · cases heq
      · have := Option.some.inj heq
        omega
    rw [hseq, hseq', hjj]

/-- **Step.**  A call with no failure but at its end, and none left in the map. -/
theorem Numbers.numbered {call : Call} {s : State} {t : IOState} {new : List ResultEntry}
    (h : Numbers call s t new) (hs : Numbered s)
    (hsuccess : ∀ i, i + 1 < call.requests → (call.outcomes i).success = true)
    (hfree : ∀ e ∈ s.io.resultsMap, e.timeStampSeqID ≠ s.io.timeStampSeqID) :
    Numbered ⟨t, s.messagesSent + call.successes call.requests, call.number s⟩ := by
  have hle := (h.fresh hs.nodup).1
  have hbound := call.successes_le call.requests
  refine ⟨h.nodup hs.nodup, ?_, ?_, ?_, h.unique hs hsuccess hfree⟩
  · rw [h.timeStampSeqID, hs.next, UInt32.ofNat_add]
  · intro e he k hk
    rw [h.resultsMap] at he
    rcases List.mem_append.mp he with he | he
    · obtain ⟨k', hk', hks⟩ := h.old hs hfree he
      obtain rfl := Option.some.inj (hk'.symm.trans hk)
      obtain ⟨hid, hlt, hwindow⟩ := hs.sent e he k' hks
      have hbehind := (h.behind hs.nodup he).1
      refine ⟨hid, Nat.lt_add_right _ hlt, ?_⟩
      simp only [hbehind]
      omega
    · obtain ⟨j, hj, hseq, hid, hnumber⟩ := h.new hs hsuccess he
      cases hok : (call.outcomes j).success with
      | false =>
        rw [hok] at hnumber
        cases hnumber.symm.trans hk
      | true =>
        rw [hok] at hnumber
        obtain rfl := Option.some.inj (hnumber.symm.trans hk)
        refine ⟨hid, Nat.add_lt_add_left (Call.lt_successes hsuccess hj hok) _, ?_⟩
        have hdistance : (t.seqNumber - e.seqNumber).toNat = call.requests - (j + 1) := by
          rw [h.seqNumber, hseq]
          have hs := s.io.seqNumber.toNat_lt
          simp only [UInt16.toNat_add, UInt16.toNat_sub, UInt16.toNat_ofNat']
          omega
        simp only [hdistance]
        omega
  · intro e he hk
    rw [h.resultsMap] at he
    rcases List.mem_append.mp he with he | he
    · obtain ⟨k, hk', -⟩ := h.old hs hfree he
      cases hk'.symm.trans hk
    · obtain ⟨j, hj, -, hid, hnumber⟩ := h.new hs hsuccess he
      cases hok : (call.outcomes j).success with
      | true =>
        rw [hok] at hnumber
        cases hnumber.symm.trans hk
      | false => rw [hid, (Call.last_fails hsuccess hj hok).2]

/-! ## Attribution -/

theorem ofNat_ne {k m : Nat} (h : k < m) (hm : m < k + 2 ^ 32) :
    UInt32.ofNat k ≠ UInt32.ofNat m := by
  intro heq
  have hnat := congrArg UInt32.toNat heq
  simp only [UInt32.toNat_ofNat'] at hnat
  omega

/-- The number of an entry is less than 2^32 messages ago. -/
theorem Numbered.recent {s : State} (h : Numbered s) {e : ResultEntry} (he : e ∈ s.io.resultsMap)
    {k : Nat} (hk : s.number e.seqNumber = some k) :
    k < s.messagesSent ∧ s.messagesSent < k + 2 ^ 32 := by
  have hsent := h.sent e he k hk
  have hlt := (s.io.seqNumber - e.seqNumber).toNat_lt
  omega

/-- The entry with the stored number of a message is that of the message. -/
theorem Numbered.number_eq {s : State} (h : Numbered s) {e : ResultEntry}
    (he : e ∈ s.io.resultsMap) {k : Nat} (hk : k < s.messagesSent)
    (hrecent : s.messagesSent < k + 2 ^ 32) :
    e.timeStampSeqID = UInt32.ofNat k ↔ s.number e.seqNumber = some k := by
  constructor
  · intro hid
    cases hn : s.number e.seqNumber with
    | none => exact absurd (hid.symm.trans (h.failed e he hn)) (ofNat_ne hk hrecent)
    | some m =>
      obtain ⟨hm, hm'⟩ := h.recent he hn
      have heq : UInt32.ofNat m = UInt32.ofNat k := (h.sent e he m hn).1.symm.trans hid
      rcases Nat.lt_trichotomy m k with hlt | rfl | hlt
      · exact absurd heq (ofNat_ne hlt (by omega))
      · rfl
      · exact absurd heq.symm (ofNat_ne hlt (by omega))
  · exact fun hn => (h.sent e he k hn).1

theorem Numbered.attributed {s : State} (h : Numbered s) : s.Attributed := by
  constructor
  · intro k hk hrecent r hr
    unfold updateSendTimeInResultEntry
    cases hf : (inKeyOrder s.io.resultsMap).find? fun e => e.timeStampSeqID = r.data with
    | none =>
      simp only
      conv_lhs => rw [← List.map_id s.io.resultsMap]
      refine List.map_congr_left fun x hx => ?_
      have hx' := List.find?_eq_none.mp hf x (mem_inKeyOrder.mpr hx)
      rw [decide_eq_true_eq, hr, h.number_eq hx hk hrecent] at hx'
      rw [if_neg hx']
      rfl
    | some e =>
      have he := mem_inKeyOrder.mp (List.mem_of_find?_eq_some hf)
      have hid : e.timeStampSeqID = r.data := by simpa using List.find?_some hf
      rw [hr, h.number_eq he hk hrecent] at hid
      unfold replaceEntry
      refine List.map_congr_left fun x hx => ?_
      rw [(r.store_numbers e).1]
      by_cases hxe : x.seqNumber = e.seqNumber
      · obtain rfl := List.inj_on_of_nodup_map h.nodup hx he hxe
        rw [if_pos rfl, if_pos hid]
      · rw [if_neg hxe, if_neg]
        exact fun hn => hxe (h.unique x hx e he (hn.trans hid.symm))
  · refine List.Nodup.map_on ?_ (List.Nodup.of_map _ h.nodup)
    intro e he e' he' heq
    refine List.inj_on_of_nodup_map h.nodup he he' (h.unique e he e' he' ?_)
    cases hn : s.number e.seqNumber with
    | none =>
      cases hn' : s.number e'.seqNumber with
      | none => rfl
      | some k =>
        obtain ⟨hk, hk'⟩ := h.recent he' hn'
        exact absurd (((h.sent e' he' k hn').1.symm.trans heq.symm).trans (h.failed e he hn))
          (ofNat_ne hk hk')
    | some k =>
      obtain ⟨hk, hk'⟩ := h.recent he hn
      rw [(h.sent e he k hn).1] at heq
      exact ((h.number_eq he' hk hk').mp heq.symm).symm

/-- **Step.** -/
theorem step_numbered {s t : State} {event : Event} (hs : Numbered s) (hd : Distinct io s event)
    (h : step io s event = .ok t) : Numbered t := by
  cases event with
  | sendRequest call =>
    unfold step at h
    simp only at h
    split at h
    · cases h
    · next u n hcall =>
      split at h
      · next hskip =>
        cases h
        unfold sendRequest at hcall
        rw [if_pos hskip] at hcall
        cases hcall
        exact ⟨hs.nodup, hs.next, hs.sent, hs.failed, hs.unique⟩
      · next hskip =>
        cases h
        obtain ⟨hsuccess, hfree⟩ := hd hskip
        obtain ⟨new, hnew⟩ := sendRequest_numbers hskip hcall
        exact hnew.numbered hs hsuccess hfree
  | recordResult d icmpType icmpCode seqNumber responseLength =>
    cases h
    refine hs.sublist ?_
    rw [recordResult_numbers d icmpType icmpCode seqNumber _ hs.nodup]
  | remove seqNumbers =>
    cases h
    exact hs.sublist (List.filter_sublist.map _)
  | report r =>
    cases h
    refine hs.sublist ?_
    rw [updateSendTimeInResultEntry_numbers r hs.nodup]

/-- **Main theorem.**  In every run whose calls meet `Distinct`, each report reaches the entry of
its message, or none, and no two entries have the same number. -/
theorem transmissions_attributed {now : Nat} {seqNumber : UInt16} {events : List Event} {s : State}
    (hd : Run.Meets (step io) (Distinct io) (start now seqNumber) events)
    (h : Run.exec (step io) (start now seqNumber) events = .ok s) : s.Attributed :=
  (Run.exec_invariant (fun _ _ _ hs hd ht => step_numbered hs hd ht)
    (numbered_start now seqNumber) hd h).attributed

/-! ## A failure before a success -/

def smallModule : IOModule where
  protocol := .udp
  identifier := 7
  magicNumber := 0x12345678
  payloadSize := 16
  payloadSize_le := udpModule.payloadSize_le
  actualPacketSize := 64
  sourceAddress := .v4 0x0a000001
  findSourceForDestination := id
  sourcePort := 50000
  destinationPort := 7

/-- Two requests; the sends with the given numbers fail. -/
def smallCall (failures : List Nat) : Call where
  targetChecksumArray _ := 0xffffffff
  destination := ⟨.v4 0x0a000002, 0⟩
  fromTTL := 64
  toTTL := 64
  fromRound := 0
  toRound := 1
  trafficClassSet := true
  outcomes i := if i ∈ failures then ⟨1, 1, some .hostUnreachable, 0⟩ else ⟨1, 1, none, 64⟩

/-- The transmission of a message at 1000 s. -/
def smallReport (k : UInt32) : Report := ⟨k, .sent, ⟨1000, 0⟩, ⟨0, 0⟩⟩

/-- The last request of the first call fails; it is removed before the second call. -/
def smallRun : List Event :=
  [.sendRequest (smallCall [1]), .report (smallReport 0), .remove [2],
    .sendRequest (smallCall []), .report (smallReport 1)]

theorem smallRun_attributed :
    ∃ s, Run.exec (step smallModule) (start 0 0) smallRun = .ok s ∧ s.Attributed := by
  obtain ⟨s, hs⟩ := Run.exists_of_isOk
    (r := Run.exec (step smallModule) (start 0 0) smallRun) (by decide +kernel)
  refine ⟨s, hs, transmissions_attributed ?_ hs⟩
  refine ⟨fun _ => ⟨fun i hi => ?_, fun e he => absurd he List.not_mem_nil⟩, fun t ht =>
    ⟨trivial, fun u hu => ⟨trivial, fun v hv => ⟨fun _ => ⟨fun i _ => rfl, ?_⟩, fun _ _ =>
      ⟨trivial, fun _ _ => trivial⟩⟩⟩⟩⟩
  · have hi0 : i = 0 := by
      have : (smallCall [1]).requests = 2 := rfl
      omega
    rw [hi0]
    rfl
  · have hrun : Run.exec (step smallModule) (start 0 0)
        [.sendRequest (smallCall [1]), .report (smallReport 0), .remove [2]] = .ok v := by
      simp only [Run.exec, ht, hu, hv]
    have hpasses : Run.passes
        (fun s : State => s.io.resultsMap.all fun e => e.timeStampSeqID ≠ s.io.timeStampSeqID)
        (Run.exec (step smallModule) (start 0 0)
          [.sendRequest (smallCall [1]), .report (smallReport 0), .remove [2]]) = true := by
      decide +kernel
    obtain ⟨w, hw, hfree⟩ := Run.exists_of_passes hpasses
    obtain rfl := Except.ok.inj (hw.symm.trans hrun)
    simpa using hfree

/-- The first request of a call fails, and the second one is sent: the time of the message is stored
in the entry of the request that failed, which has the number of the message, too. -/
theorem failure_attributed :
    ∃ s, Run.exec (step smallModule) (start 0 0)
        [.sendRequest (smallCall [0]), .report (smallReport 0)] = .ok s ∧
      (s.io.resultsMap.map fun e =>
        (e.seqNumber, s.number e.seqNumber, e.timeStampSeqID, e.sendTime .transmissionSW)) =
        [(1, none, 0, 1000 * 1000000000), (2, some 0, 0, 3)] ∧
      ¬ s.Attributed := by
  have hpasses : Run.passes (fun s : State => (s.io.resultsMap.map fun e =>
        (e.seqNumber, s.number e.seqNumber, e.timeStampSeqID, e.sendTime .transmissionSW)) =
          [(1, none, 0, 1000 * 1000000000), (2, some 0, 0, 3)])
      (Run.exec (step smallModule) (start 0 0)
        [.sendRequest (smallCall [0]), .report (smallReport 0)]) = true := by
    decide +kernel
  obtain ⟨s, hs, htest⟩ := Run.exists_of_passes hpasses
  rw [decide_eq_true_eq] at htest
  refine ⟨s, hs, htest, fun h => ?_⟩
  have hids := congrArg (List.map fun x => x.2.2.1) htest
  rw [List.map_map] at hids
  have hnd := h.distinct
  rw [show s.io.resultsMap.map (·.timeStampSeqID) = [0, 0] from hids] at hnd
  exact absurd hnd (by decide)

end HiPerConTracer.Service.Timestamping
