import HiPerConTracer.Service.IOModule

/-!
# What `sendRequest` does

If the targets are such that no assertion about checksums fails (`GoodTargets`), the sender loop
ends for any outcomes of `send_to`.  It makes one entry for each round and TTL, with the next
sequence numbers, and `sendRequest` appends them to `ResultsMap`, unless one of the sequence numbers
is in use (`Sent`):

    sendRequest … s = .ok (s', n) → skipped, or Sent … s s' n new        (sendRequest_cases)
    the sequence numbers are free → ∃ s' n, sendRequest … s = .ok (s', n)   (sendRequest_total)
-/

namespace HiPerConTracer.Service
open Net Wire

/-! ## Target checksums -/

/-- Each target is not set, or one that a checksum can be steered to. -/
def GoodTargets (targets : Nat → UInt32) : Prop :=
  ∀ r, targets r = 0xffffffff ∨ (targets r).toNat < 0xffff

/-- Targets that are set stay. -/
def Extends (targets targets' : Nat → UInt32) : Prop :=
  ∀ r, targets r ≠ 0xffffffff → targets' r = targets r

theorem Extends.refl (targets : Nat → UInt32) : Extends targets targets := fun _ _ => rfl

theorem Extends.trans {t t' t'' : Nat → UInt32} (h : Extends t t') (h' : Extends t' t'') :
    Extends t t'' := by
  intro r hr
  have h1 := h r hr
  rw [h' r (by rw [h1]; exact hr), h1]

namespace IOModule
variable (io : IOModule)

/-- The checksum of a request of a round: its target for ICMP. -/
def RoundChecksum (targets : Nat → UInt32) (round : Nat) (checksum : UInt16) : Prop :=
  match io.protocol with
  | .icmp => targets round ≠ 0xffffffff ∧ checksum = (targets round).toUInt16
  | .udp => checksum = 0

variable {io}

theorem RoundChecksum.mono {t t' : Nat → UInt32} {round : Nat} {checksum : UInt16}
    (h : io.RoundChecksum t round checksum) (he : Extends t t') :
    io.RoundChecksum t' round checksum := by
  unfold RoundChecksum at h ⊢
  cases hp : io.protocol with
  | icmp =>
    rw [hp] at h
    have heq := he round h.1
    exact ⟨by rw [heq]; exact h.1, by rw [heq]; exact h.2⟩
  | udp =>
    rw [hp] at h
    exact h

/-- Two requests of one round have the same checksum. -/
theorem RoundChecksum.unique {t : Nat → UInt32} {round : Nat} {c c' : UInt16}
    (h : io.RoundChecksum t round c) (h' : io.RoundChecksum t round c') : c = c' := by
  unfold RoundChecksum at h h'
  cases hp : io.protocol with
  | icmp =>
    rw [hp] at h h'
    exact h.2.trans h'.2.symm
  | udp =>
    rw [hp] at h h'
    exact Eq.trans h h'.symm

theorem echoRequest_type (io : IOModule) : io.echoRequest.echoRequest.type ≠ 0 := by
  show (if io.sourceAddress.isV6 then (128 : UInt8) else 8) ≠ 0
  split <;> decide

/-- No assertion about a checksum fails, whatever is sent when. -/
theorem requestChecksum_spec (io : IOModule) (seqNumber : UInt16) (round ttl sendTime : Nat)
    {targets : Nat → UInt32} (h : GoodTargets targets) :
    ∃ checksum targets', io.requestChecksum seqNumber round ttl sendTime targets =
        .ok (checksum, targets') ∧
      GoodTargets targets' ∧ Extends targets targets' ∧
      io.RoundChecksum targets' round checksum := by
  unfold requestChecksum RoundChecksum
  cases io.protocol with
  | udp => exact ⟨0, targets, rfl, h, Extends.refl _, rfl⟩
  | icmp =>
    obtain ⟨p', target, hp, hprep, hkeep⟩ := preparePacket_target io.echoRequest_type seqNumber
      (UInt8.ofNat ttl) (UInt8.ofNat round) (sendTimeStamp sendTime) (h round)
    rw [hp]
    have hset : target ≠ 0xffffffff := by
      rintro rfl
      exact absurd hprep.target_lt (by decide)
    refine ⟨target.toUInt16, _, rfl, ?_, ?_, ?_⟩
    · intro r
      by_cases hr : r = round
      · exact Or.inr (by simp only [hr, if_true]; exact hprep.target_lt)
      · simp only [hr, if_false]
        exact h r
    · intro r hr
      by_cases hrr : r = round
      · subst hrr
        simp only [if_true]
        exact hkeep hr
      · simp only [hrr, if_false]
    · simp only [if_true]
      exact ⟨hset, trivial⟩

/-! ## The sender loop -/

variable (io)

/-- What an entry says about its request. -/
structure IsRequest (destination : DestinationInfo) (first last : Nat) (targets : Nat → UInt32)
    (roundTTL : Nat × Nat) (e : ResultEntry) : Prop where
  roundNumber : e.roundNumber = roundTTL.1 % 65536
  hopNumber : e.hopNumber = roundTTL.2
  destination_eq : e.destination = { destination with address := destination.address.dropScopeID }
  sendTime_ge : first ≤ e.sendTime .application
  sendTime_le : e.sendTime .application ≤ last
  checksum : io.RoundChecksum targets roundTTL.1 e.checksum

variable {io}

theorem IsRequest.mono {destination : DestinationInfo} {first first' last last' : Nat}
    {t t' : Nat → UInt32} {roundTTL : Nat × Nat} {e : ResultEntry}
    (h : io.IsRequest destination first last t roundTTL e) (hf : first' ≤ first)
    (hl : last ≤ last') (ht : Extends t t') :
    io.IsRequest destination first' last' t' roundTTL e :=
  { h with sendTime_ge := Nat.le_trans hf h.sendTime_ge
           sendTime_le := Nat.le_trans h.sendTime_le hl
           checksum := h.checksum.mono ht }

/-- The sequence numbers after `n`. -/
def seqNumbersAfter (n : UInt16) : Nat → List UInt16
  | 0 => []
  | k + 1 => (n + 1) :: seqNumbersAfter (n + 1) k

/-- What the sender loop has done for a list of rounds and TTLs. -/
structure LoopDone (io : IOModule) (destination : DestinationInfo) (pairs : List (Nat × Nat))
    (s s' : Sending) (new : List (ResultEntry × SendOutcome)) : Prop where
  array : s'.resultEntryArray = s.resultEntryArray ++ new
  requests : List.Forall₂ (fun p x => io.IsRequest destination s.now s'.now
    s'.targetChecksumArray p x.1 ∧ x.1.status = .unknown) pairs new
  seqNumbers : new.map (·.1.seqNumber) = seqNumbersAfter s.seqNumber pairs.length
  seqNumber : s'.seqNumber = s.seqNumber + UInt16.ofNat pairs.length
  now_le : s.now ≤ s'.now
  messagesSent : s'.messagesSent = s.messagesSent + new.countP fun x => x.2.success
  good : GoodTargets s'.targetChecksumArray
  extends_targets : Extends s.targetChecksumArray s'.targetChecksumArray

variable (io) in
theorem sendPacket_spec (destination : DestinationInfo) (outcome : SendOutcome) (round ttl : Nat)
    {s : Sending} (h : GoodTargets s.targetChecksumArray) :
    ∃ s' x, io.sendPacket destination outcome round ttl s = .ok s' ∧
      LoopDone io destination [(round, ttl)] s s' [x] := by
  obtain ⟨checksum, targets, hc, hgood, hext, hround⟩ :=
    requestChecksum_spec io (s.seqNumber + 1) round ttl (s.now + outcome.before) h
  unfold sendPacket
  simp only [hc]
  refine ⟨_, _, rfl, ⟨rfl, ?_, rfl, ?_, by simp only; omega, ?_, hgood, hext⟩⟩
  · refine List.Forall₂.cons ⟨⟨rfl, rfl, rfl, ?_, ?_, hround⟩, rfl⟩ List.Forall₂.nil
    · exact Nat.le_add_right _ _
    · exact Nat.le_add_right _ _
  · rfl
  · simp only [List.countP_cons, List.countP_nil, Nat.zero_add]
    split <;> rfl

theorem seqNumbersAfter_length (n : UInt16) (k : Nat) : (seqNumbersAfter n k).length = k := by
  induction k generalizing n with
  | zero => rfl
  | succ k ih => rw [seqNumbersAfter, List.length_cons, ih]

theorem seqNumbersAfter_add (n : UInt16) (j k : Nat) :
    seqNumbersAfter n (j + k) = seqNumbersAfter n j ++ seqNumbersAfter (n + UInt16.ofNat j) k := by
  induction j generalizing n with
  | zero =>
    show seqNumbersAfter n (0 + k) = seqNumbersAfter (n + 0) k
    rw [Nat.zero_add, UInt16.add_zero]
  | succ j ih =>
    have hnext : n + 1 + UInt16.ofNat j = n + UInt16.ofNat (j + 1) := by
      apply UInt16.toNat_inj.mp
      simp only [UInt16.toNat_add, UInt16.toNat_ofNat', UInt16.toNat_one]
      omega
    rw [Nat.succ_add, seqNumbersAfter, seqNumbersAfter, ih, hnext]
    rfl

theorem mem_seqNumbersAfter {n m : UInt16} {k : Nat} (h : m ∈ seqNumbersAfter n k) :
    ∃ i, 1 ≤ i ∧ i ≤ k ∧ m.toNat = (n.toNat + i) % 65536 := by
  induction k generalizing n with
  | zero => cases h
  | succ k ih =>
    have hone : (n + 1).toNat = (n.toNat + 1) % 65536 := by
      rw [UInt16.toNat_add, UInt16.toNat_one]
    rcases List.mem_cons.mp h with rfl | h
    · exact ⟨1, Nat.le_refl _, by omega, hone⟩
    · obtain ⟨i, h1, hk, hm⟩ := ih h
      refine ⟨i + 1, by omega, by omega, ?_⟩
      rw [hm, hone]
      omega

/-- Up to 2^16 sequence numbers are different. -/
theorem seqNumbersAfter_nodup (n : UInt16) {k : Nat} (hk : k ≤ 65536) :
    (seqNumbersAfter n k).Nodup := by
  induction k generalizing n with
  | zero => exact List.nodup_nil
  | succ k ih =>
    refine List.nodup_cons.mpr ⟨fun hin => ?_, ih (n + 1) (by omega)⟩
    obtain ⟨i, h1, hik, hm⟩ := mem_seqNumbersAfter hin
    have hlt := (n + 1).toNat_lt
    omega

/-- There are no more than 2^16 of them. -/
theorem nodup_length_le {l : List UInt16} (h : l.Nodup) : l.length ≤ 65536 := by
  have hsub : l.map UInt16.toNat ⊆ List.range 65536 := by
    intro n hn
    obtain ⟨q, -, rfl⟩ := List.mem_map.mp hn
    exact List.mem_range.mpr q.toNat_lt
  have hle := (List.subperm_of_subset (h.map fun _ _ => UInt16.toNat_inj.mp) hsub).length_le
  rwa [List.length_map, List.length_range] at hle

variable (io) in
theorem sendLoop_spec (destination : DestinationInfo) (outcomes : Nat → SendOutcome) (i : Nat)
    (pairs : List (Nat × Nat)) {s : Sending} (h : GoodTargets s.targetChecksumArray) :
    ∃ s' new, io.sendLoop destination outcomes i pairs s = .ok s' ∧
      LoopDone io destination pairs s s' new := by
  induction pairs generalizing i s with
  | nil =>
    exact ⟨s, [], rfl, by simp, List.Forall₂.nil, rfl, by simp, Nat.le_refl _, by simp, h,
      Extends.refl _⟩
  | cons p pairs ih =>
    obtain ⟨round, ttl⟩ := p
    obtain ⟨s1, x, h1, d1⟩ := sendPacket_spec io destination (outcomes i) round ttl h
    obtain ⟨s2, new, h2, d2⟩ := ih (i + 1) d1.good
    refine ⟨s2, x :: new, by simp only [sendLoop, h1, h2], ?_⟩
    have hx := (List.forall₂_cons.mp d1.requests).1
    refine ⟨?_, ?_, ?_, ?_, d1.now_le.trans d2.now_le, ?_, d2.good,
      d1.extends_targets.trans d2.extends_targets⟩
    · rw [d2.array, d1.array, List.append_assoc]
      rfl
    · refine List.Forall₂.cons ⟨hx.1.mono (Nat.le_refl _) d2.now_le d2.extends_targets, hx.2⟩ ?_
      refine d2.requests.imp fun q y hy => ⟨hy.1.mono d1.now_le (Nat.le_refl _) (Extends.refl _),
        hy.2⟩
    · have hseq : x.1.seqNumber = s.seqNumber + 1 := by
        have := d1.seqNumbers
        simp only [List.map_cons, List.map_nil, List.length_cons, List.length_nil,
          seqNumbersAfter, List.cons.injEq] at this
        exact this.1
      have hs1 : s1.seqNumber = s.seqNumber + 1 := d1.seqNumber
      rw [List.map_cons, d2.seqNumbers, hseq, hs1]
      rfl
    · rw [d2.seqNumber, d1.seqNumber, List.length_cons]
      apply UInt16.toNat_inj.mp
      simp only [UInt16.toNat_add, UInt16.toNat_ofNat', List.length_cons, List.length_nil]
      omega
    · rw [d2.messagesSent, d1.messagesSent, List.countP_cons, List.countP_cons, List.countP_nil]
      omega

/-- The outcomes are used one after the other. -/
theorem sendLoop_messagesSent (io : IOModule) {destination : DestinationInfo}
    {outcomes : Nat → SendOutcome} {i : Nat} {pairs : List (Nat × Nat)} {s s' : Sending}
    (h : io.sendLoop destination outcomes i pairs s = .ok s') :
    s'.messagesSent = s.messagesSent +
      (List.range' i pairs.length).countP fun j => (outcomes j).success := by
  induction pairs generalizing i s with
  | nil =>
    cases h
    rfl
  | cons pair pairs ih =>
    obtain ⟨round, ttl⟩ := pair
    unfold sendLoop at h
    cases hp : io.sendPacket destination (outcomes i) round ttl s with
    | error a =>
      rw [hp] at h
      cases h
    | ok u =>
      rw [hp] at h
      have hu : u.messagesSent =
          if (outcomes i).success then s.messagesSent + 1 else s.messagesSent := by
        simp only [sendPacket] at hp
        cases hc : io.requestChecksum (s.seqNumber + 1) round ttl (s.now + (outcomes i).before)
            s.targetChecksumArray with
        | error a =>
          rw [hc] at hp
          cases hp
        | ok r =>
          rw [hc] at hp
          cases hp
          rfl
      rw [ih h, hu, List.length_cons, List.range'_succ, List.countP_cons]
      split <;> omega

/-! ## Insertion -/

theorem checkedEntry_request (r : ResultEntry × SendOutcome) :
    (checkedEntry r).request = r.1.request := by
  unfold checkedEntry
  split <;> simp

theorem checkedEntry_seqNumber (r : ResultEntry × SendOutcome) :
    (checkedEntry r).seqNumber = r.1.seqNumber :=
  congrArg ResultEntry.Request.seqNumber (checkedEntry_request r)

/-- An entry is unanswered exactly if its request was sent. -/
theorem checkedEntry_status {r : ResultEntry × SendOutcome} (h : r.1.status = .unknown) :
    (r.2.success = true ∧ (checkedEntry r).status = .unknown) ∨
      (r.2.success = false ∧ (checkedEntry r).status.isSendError = true) := by
  unfold checkedEntry
  cases hs : r.2.success with
  | true => exact Or.inl ⟨rfl, h⟩
  | false => exact Or.inr ⟨rfl, ResultEntry.failedToSend_isSendError _ _⟩

theorem insertEntries_ok {resultsMap resultsMap' : List ResultEntry}
    {l : List (ResultEntry × SendOutcome)} (h : insertEntries resultsMap l = .ok resultsMap') :
    resultsMap' = resultsMap ++ l.map checkedEntry ∧
      ((resultsMap.map (·.seqNumber)).Nodup → (resultsMap'.map (·.seqNumber)).Nodup) := by
  induction l generalizing resultsMap with
  | nil =>
    cases h
    exact ⟨by simp, id⟩
  | cons r rest ih =>
    unfold insertEntries at h
    split at h
    · cases h
    · next hnew =>
      obtain ⟨heq, hnd⟩ := ih h
      refine ⟨by rw [heq]; simp, fun hm => hnd ?_⟩
      rw [List.map_append, List.map_singleton, checkedEntry_seqNumber]
      refine List.nodup_append.mpr ⟨hm, List.nodup_singleton _, ?_⟩
      rintro a ha b hb rfl
      rw [List.mem_singleton] at hb
      exact hnew (hb ▸ ha)

theorem insertEntries_total {resultsMap : List ResultEntry} {l : List (ResultEntry × SendOutcome)}
    (h : (resultsMap.map (·.seqNumber) ++ l.map (·.1.seqNumber)).Nodup) :
    ∃ resultsMap', insertEntries resultsMap l = .ok resultsMap' := by
  induction l generalizing resultsMap with
  | nil => exact ⟨resultsMap, rfl⟩
  | cons r rest ih =>
    unfold insertEntries
    have hnew : r.1.seqNumber ∉ resultsMap.map (·.seqNumber) := by
      intro hin
      exact (List.nodup_append.mp h).2.2 _ hin _ List.mem_cons_self rfl
    rw [if_neg hnew]
    apply ih
    rw [List.map_append, List.map_singleton, checkedEntry_seqNumber, List.append_assoc]
    exact h

/-! ## Rounds and TTLs -/

theorem roundsAndTTLs_length (fromTTL toTTL fromRound toRound : Nat) (hr : fromRound ≤ toRound)
    (ht : toTTL ≤ fromTTL) : (roundsAndTTLs fromTTL toTTL fromRound toRound).length =
      (1 + (toRound - fromRound)) * (1 + (fromTTL - toTTL)) := by
  unfold roundsAndTTLs
  simp only [List.length_flatMap, List.length_map, List.length_reverse, List.length_range',
    List.map_const', List.sum_replicate, smul_eq_mul]
  congr 1 <;> omega

theorem mem_roundsAndTTLs {fromTTL toTTL fromRound toRound round ttl : Nat} :
    (round, ttl) ∈ roundsAndTTLs fromTTL toTTL fromRound toRound ↔
      (fromRound ≤ round ∧ round ≤ toRound) ∧ toTTL ≤ ttl ∧ ttl ≤ fromTTL := by
  unfold roundsAndTTLs
  simp only [List.mem_flatMap, List.mem_map, List.mem_reverse, List.mem_range'_1, Prod.mk.injEq]
  constructor
  · rintro ⟨r, hr, t, ht, rfl, rfl⟩
    omega
  · rintro ⟨hr, ht⟩
    exact ⟨round, by omega, ttl, by omega, rfl, rfl⟩

theorem roundsAndTTLs_nodup (fromTTL toTTL fromRound toRound : Nat) :
    (roundsAndTTLs fromTTL toTTL fromRound toRound).Nodup := by
  unfold roundsAndTTLs
  rw [List.nodup_flatMap]
  refine ⟨fun r _ => ?_, ?_⟩
  · refine List.Nodup.map ?_ (List.nodup_reverse.mpr List.nodup_range')
    exact fun a b h => (Prod.mk.inj h).2
  · refine (List.nodup_range' (n := toRound + 1 - fromRound)).imp ?_
    intro r r' hne x hx hx'
    obtain ⟨t, -, rfl⟩ := List.mem_map.mp hx
    obtain ⟨t', -, h⟩ := List.mem_map.mp hx'
    exact hne (Prod.mk.inj h).1.symm

/-! ## The whole call -/

theorem forall₂_mem_right {α β : Type} {R : α → β → Prop} {l : List α} {m : List β}
    (h : List.Forall₂ R l m) {b : β} (hb : b ∈ m) : ∃ a ∈ l, R a b := by
  induction h with
  | nil => cases hb
  | cons hr _ ih =>
    rcases List.mem_cons.mp hb with rfl | hb
    · exact ⟨_, List.mem_cons_self, hr⟩
    · obtain ⟨a, ha, hab⟩ := ih hb
      exact ⟨a, List.mem_cons_of_mem _ ha, hab⟩

theorem forall₂_mem_left {α β : Type} {R : α → β → Prop} {l : List α} {m : List β}
    (h : List.Forall₂ R l m) {a : α} (ha : a ∈ l) : ∃ b ∈ m, R a b := by
  induction h with
  | nil => cases ha
  | cons hr _ ih =>
    rcases List.mem_cons.mp ha with rfl | ha
    · exact ⟨_, List.mem_cons_self, hr⟩
    · obtain ⟨b, hb, hab⟩ := ih ha
      exact ⟨b, List.mem_cons_of_mem _ hb, hab⟩

/-- The entries `new` were made for the given rounds and TTLs, and `n` requests were sent. -/
structure Sent (io : IOModule) (destination : DestinationInfo) (pairs : List (Nat × Nat))
    (s s' : IOState) (n : Nat) (new : List ResultEntry) : Prop where
  resultsMap : s'.resultsMap = s.resultsMap ++ new
  requests : List.Forall₂ (io.IsRequest destination s.now s'.now s'.targetChecksumArray) pairs new
  status : ∀ e ∈ new, e.status = .unknown ∨ e.status.isSendError = true
  unknown : n = new.countP fun e => e.status = .unknown
  seqNumbers : new.map (·.seqNumber) = seqNumbersAfter s.seqNumber pairs.length
  seqNumber : s'.seqNumber = s.seqNumber + UInt16.ofNat pairs.length
  nodup : (s.resultsMap.map (·.seqNumber)).Nodup → (s'.resultsMap.map (·.seqNumber)).Nodup
  now_le : s.now ≤ s'.now
  good : GoodTargets s'.targetChecksumArray
  extends_targets : Extends s.targetChecksumArray s'.targetChecksumArray

theorem IsRequest.checked {destination : DestinationInfo} {first last : Nat}
    {t : Nat → UInt32} {roundTTL : Nat × Nat} {r : ResultEntry × SendOutcome}
    (h : io.IsRequest destination first last t roundTTL r.1) :
    io.IsRequest destination first last t roundTTL (checkedEntry r) := by
  unfold checkedEntry
  split
  · exact h
  · exact ⟨h.roundNumber, h.hopNumber, h.destination_eq, h.sendTime_ge, h.sendTime_le, h.checksum⟩

theorem LoopDone.sent {destination : DestinationInfo} {pairs : List (Nat × Nat)} {s : IOState}
    {l : Sending} {new : List (ResultEntry × SendOutcome)}
    (h : LoopDone io destination pairs
      ⟨s.now, s.seqNumber, s.timeStampSeqID, s.targetChecksumArray, 0, []⟩ l new)
    {resultsMap : List ResultEntry} (hi : insertEntries s.resultsMap new = .ok resultsMap) :
    Sent io destination pairs s
      ⟨l.now, l.seqNumber, l.timeStampSeqID, l.targetChecksumArray, resultsMap⟩ l.messagesSent
      (new.map checkedEntry) := by
  obtain ⟨heq, hnd⟩ := insertEntries_ok hi
  have hunknown : ∀ x ∈ new, x.1.status = .unknown := by
    intro x hx
    obtain ⟨q, -, hq⟩ := forall₂_mem_right h.requests hx
    exact hq.2
  refine ⟨heq, ?_, ?_, ?_, ?_, h.seqNumber, hnd, h.now_le, h.good, h.extends_targets⟩
  · rw [List.forall₂_map_right_iff]
    exact h.requests.imp fun q x hx => hx.1.checked
  · intro e he
    obtain ⟨x, hx, rfl⟩ := List.mem_map.mp he
    rcases checkedEntry_status (hunknown x hx) with ⟨-, hs⟩ | ⟨-, hs⟩
    · exact Or.inl hs
    · exact Or.inr hs
  · show l.messagesSent = _
    rw [h.messagesSent, List.countP_map, Nat.zero_add]
    refine List.countP_congr fun x hx => ?_
    rcases checkedEntry_status (hunknown x hx) with ⟨hok, hs⟩ | ⟨hok, hs⟩
    · simp [hok, hs]
    · simp [hok, HopStatus.isSendError_ne_unknown hs]
  · rw [← h.seqNumbers, List.map_map]
    exact List.map_congr_left fun x _ => checkedEntry_seqNumber x

/-- A call that ends without a failed assertion did nothing, since the traffic class could not be
set, or made and sent the requests. -/
theorem sendRequest_cases {destination : DestinationInfo} {fromTTL toTTL fromRound toRound : Nat}
    {trafficClassSet : Bool} {outcomes : Nat → SendOutcome} {s s' : IOState} {n : Nat}
    (hgood : GoodTargets s.targetChecksumArray)
    (h : io.sendRequest destination fromTTL toTTL fromRound toRound trafficClassSet outcomes s =
      .ok (s', n)) :
    (trafficClassSet = false ∧ s' = s ∧ n = 0) ∨
    fromRound ≤ toRound ∧ toTTL ≤ fromTTL ∧
      ∃ new, Sent io destination (roundsAndTTLs fromTTL toTTL fromRound toRound) s s' n new := by
  unfold sendRequest at h
  split at h
  · next hskip =>
    cases h
    exact Or.inl ⟨hskip.2, rfl, rfl⟩
  · split at h
    · cases h
    · next hr =>
      split at h
      · cases h
      · next ht =>
        obtain ⟨l, new, hl, hdone⟩ := sendLoop_spec io destination outcomes 0
          (roundsAndTTLs fromTTL toTTL fromRound toRound)
          (s := ⟨s.now, s.seqNumber, s.timeStampSeqID, s.targetChecksumArray, 0, []⟩) hgood
        have harray : l.resultEntryArray = new := hdone.array
        rw [hl] at h
        simp only at h
        split at h
        · cases h
        · rw [harray] at h
          split at h
          · cases h
          · next resultsMap hi =>
            cases h
            exact Or.inr ⟨not_not.mp hr, not_not.mp ht, _, hdone.sent hi⟩

/-- The call sends a message exactly if it gets to its sender loop and one of the messages there
is sent. -/
theorem sendRequest_sends_iff {destination : DestinationInfo}
    {fromTTL toTTL fromRound toRound : Nat} {trafficClassSet : Bool} {outcomes : Nat → SendOutcome}
    {s s' : IOState} {n : Nat}
    (h : io.sendRequest destination fromTTL toTTL fromRound toRound trafficClassSet outcomes s =
      .ok (s', n)) :
    0 < n ↔ (io.protocol = .icmp → trafficClassSet = true) ∧
      ∃ i < (roundsAndTTLs fromTTL toTTL fromRound toRound).length,
        (outcomes i).success = true := by
  unfold sendRequest at h
  split at h
  · next hskip =>
    cases h
    refine ⟨fun hno => absurd hno (Nat.lt_irrefl 0), fun hsent => ?_⟩
    exact absurd (hskip.2.symm.trans (hsent.1 hskip.1)) (by decide)
  · next hclass =>
    have hset : io.protocol = .icmp → trafficClassSet = true := fun hp => by
      simpa [hp] using hclass
    split at h
    · cases h
    · split at h
      · cases h
      · split at h
        · cases h
        · next l hl =>
          have hsent := io.sendLoop_messagesSent hl
          split at h
          · cases h
          · split at h
            · cases h
            · cases h
              rw [hsent, Nat.zero_add, List.countP_pos_iff]
              constructor
              · rintro ⟨i, hi, hsuccess⟩
                have hlt := List.mem_range'_1.mp hi
                exact ⟨hset, i, by omega, hsuccess⟩
              · rintro ⟨-, i, hi, hsuccess⟩
                exact ⟨i, List.mem_range'_1.mpr ⟨Nat.zero_le i, by omega⟩, hsuccess⟩

theorem insertEntries_error {resultsMap : List ResultEntry} {l : List (ResultEntry × SendOutcome)}
    {a : Assure} (h : insertEntries resultsMap l = .error a) : a = .inserted := by
  induction l generalizing resultsMap with
  | nil => cases h
  | cons r rest ih =>
    unfold insertEntries at h
    split at h
    · cases h
      rfl
    · exact ih h

/-- An assertion that fails is not one about a checksum. -/
theorem sendRequest_error {destination : DestinationInfo} {fromTTL toTTL fromRound toRound : Nat}
    {trafficClassSet : Bool} {outcomes : Nat → SendOutcome} {s : IOState} {a : Assure}
    (hgood : GoodTargets s.targetChecksumArray)
    (h : io.sendRequest destination fromTTL toTTL fromRound toRound trafficClassSet outcomes s =
      .error a) :
    a = .rounds ∨ a = .ttls ∨ a = .entries ∨ a = .inserted := by
  obtain ⟨l, new, hl, -⟩ := sendLoop_spec io destination outcomes 0
    (roundsAndTTLs fromTTL toTTL fromRound toRound)
    (s := ⟨s.now, s.seqNumber, s.timeStampSeqID, s.targetChecksumArray, 0, []⟩) hgood
  unfold sendRequest at h
  rw [hl] at h
  split at h
  · cases h
  · split at h
    · cases h
      exact Or.inl rfl
    · split at h
      · cases h
        exact Or.inr (Or.inl rfl)
      · simp only at h
        split at h
        · cases h
          exact Or.inr (Or.inr (Or.inl rfl))
        · split at h
          · next hi =>
            cases h
            exact Or.inr (Or.inr (Or.inr (insertEntries_error hi)))
          · cases h

/-- For a proper range of rounds and TTLs, only an insertion can fail. -/
theorem sendRequest_inserted {destination : DestinationInfo} {fromTTL toTTL fromRound toRound : Nat}
    {trafficClassSet : Bool} {outcomes : Nat → SendOutcome} {s : IOState} {a : Assure}
    (hgood : GoodTargets s.targetChecksumArray) (hr : fromRound ≤ toRound) (ht : toTTL ≤ fromTTL)
    (h : io.sendRequest destination fromTTL toTTL fromRound toRound trafficClassSet outcomes s =
      .error a) : a = .inserted := by
  obtain ⟨l, new, hl, hdone⟩ := sendLoop_spec io destination outcomes 0
    (roundsAndTTLs fromTTL toTTL fromRound toRound)
    (s := ⟨s.now, s.seqNumber, s.timeStampSeqID, s.targetChecksumArray, 0, []⟩) hgood
  have harray : l.resultEntryArray = new := hdone.array
  have hlen : new.length = (1 + (toRound - fromRound)) * (1 + (fromTTL - toTTL)) := by
    rw [← hdone.requests.length_eq, roundsAndTTLs_length _ _ _ _ hr ht]
  unfold sendRequest at h
  rw [hl] at h
  split at h
  · cases h
  · simp only at h
    rw [harray, if_neg (not_not_intro hlen)] at h
    split at h
    · next hi =>
      cases h
      exact insertEntries_error hi
    · cases h

/-- The assertions hold if the sequence numbers that follow are not in use. -/
theorem sendRequest_total {destination : DestinationInfo} {fromTTL toTTL fromRound toRound : Nat}
    (trafficClassSet : Bool) (outcomes : Nat → SendOutcome) {s : IOState}
    (hgood : GoodTargets s.targetChecksumArray) (hr : fromRound ≤ toRound)
    (ht : toTTL ≤ fromTTL)
    (hfree : (s.resultsMap.map (·.seqNumber) ++ seqNumbersAfter s.seqNumber
      (roundsAndTTLs fromTTL toTTL fromRound toRound).length).Nodup) :
    ∃ s' n, io.sendRequest destination fromTTL toTTL fromRound toRound trafficClassSet outcomes s =
      .ok (s', n) := by
  obtain ⟨l, new, hl, hdone⟩ := sendLoop_spec io destination outcomes 0
    (roundsAndTTLs fromTTL toTTL fromRound toRound)
    (s := ⟨s.now, s.seqNumber, s.timeStampSeqID, s.targetChecksumArray, 0, []⟩) hgood
  have harray : l.resultEntryArray = new := hdone.array
  have hlen : new.length = (1 + (toRound - fromRound)) * (1 + (fromTTL - toTTL)) := by
    rw [← hdone.requests.length_eq, roundsAndTTLs_length _ _ _ _ hr ht]
  rw [← hdone.seqNumbers] at hfree
  obtain ⟨resultsMap, hi⟩ := insertEntries_total hfree
  unfold sendRequest
  split
  · exact ⟨_, _, rfl⟩
  · rw [hl]
    simp only [harray, hlen, hi]
    exact ⟨_, _, if_neg (not_not_intro rfl)⟩

end IOModule

end HiPerConTracer.Service
