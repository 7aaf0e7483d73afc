import HiPerConTracer.Lib.Smoothing
import HiPerConTracer.Service.TimeStamps

/-!
# Jitter (`jitter-rfc3550.cc`, `jitter.cc`)

`JitterRFC3550::process` adds a part of each difference of transit times, but takes nothing back from the
estimate.  It computes the jitter of RFC 3550 as long as only the last difference counts:

    (calls.foldl process start).jitter = rfc3550 calls ↔ ∀ d ∈ (differences calls).dropLast, d = 0
                                                                             (process_rfc3550_iff)

`computeJitter` takes entries as reference up to the first one without success, instead of the first one
with success:

    w.IsReference entries ↔ (∀ e ∈ entries, e.status ≠ success) ∨ entries.length = 1
                                                                     (computeJitter_reference_iff)
-/

namespace HiPerConTracer.Service

/-! ## Jitter estimate -/

/-- `JitterRFC3550`, with exact numbers for the two of type `double`.  What the constructor does not set is
not read before the first packet. -/
structure JitterRFC3550 where
  prevSendTimeStamp : UInt64
  prevReceiveTimeStamp : UInt64
  packets : UInt32
  jitter : ℚ
  latencySum : ℚ
  timeSource : UInt8

/-- The time stamps of a packet. -/
structure PacketTimes where
  timeSource : UInt8
  sendTimeStamp : UInt64
  receiveTimeStamp : UInt64
deriving DecidableEq, Repr

namespace PacketTimes

def transit (p : PacketTimes) : ℚ := p.receiveTimeStamp.toNat - p.sendTimeStamp.toNat

end PacketTimes

namespace JitterRFC3550

def start : JitterRFC3550 := ⟨0, 0, 0, 0, 0, 0⟩

/-- The transit time of the previous packet. -/
def prevTransit (j : JitterRFC3550) : ℚ := j.prevReceiveTimeStamp.toNat - j.prevSendTimeStamp.toNat

/-- What `process` does with each packet that it accepts. -/
def accept (j : JitterRFC3550) (p : PacketTimes) : JitterRFC3550 :=
  { j with
    packets := j.packets + 1
    latencySum := j.latencySum + (p.receiveTimeStamp - p.sendTimeStamp).toNat
    prevSendTimeStamp := p.sendTimeStamp
    prevReceiveTimeStamp := p.receiveTimeStamp }

def process (j : JitterRFC3550) (p : PacketTimes) : JitterRFC3550 :=
  if j.packets > 0 then
    if p.timeSource ≠ j.timeSource then j
    else
      let difference := p.transit - j.prevTransit
      { j with jitter := j.jitter + |difference| / 16 }.accept p
  else { j with timeSource := p.timeSource }.accept p

/-- The packets with the time source of the first one. -/
def accepted : List PacketTimes → List PacketTimes
  | [] => []
  | p :: ps => p :: ps.filter fun q => q.timeSource = p.timeSource

/-- The absolute differences |D| of transit times. -/
def differences (ps : List PacketTimes) : List ℚ :=
  Smoothing.differences ((accepted ps).map PacketTimes.transit)

/-- The recurrence of RFC 3550, section 6.4.1. -/
def rfc3550 (ps : List PacketTimes) : ℚ := Smoothing.smooth (1 / 16) 0 (differences ps)

/-! ## What the estimate is -/

theorem process_of_ne {j : JitterRFC3550} {p : PacketTimes} (hpackets : j.packets > 0)
    (h : p.timeSource ≠ j.timeSource) : j.process p = j := by
  unfold process
  rw [if_pos hpackets, if_pos h]

theorem process_of_eq {j : JitterRFC3550} {p : PacketTimes} (hpackets : j.packets > 0)
    (h : p.timeSource = j.timeSource) :
    j.process p = { j with jitter := j.jitter + |p.transit - j.prevTransit| / 16 }.accept p := by
  unfold process
  rw [if_pos hpackets, if_neg (not_not_intro h)]

/-- The packets behind an accepted one, while the counter does not wrap around. -/
theorem foldl_process (ps : List PacketTimes) {j : JitterRFC3550} (hpackets : j.packets > 0)
    (h : j.packets.toNat + (ps.filter fun q => q.timeSource = j.timeSource).length < 2 ^ 32) :
    (ps.foldl process j).jitter = Smoothing.accumulate (1 / 16) j.jitter (Smoothing.differences
      (j.prevTransit :: (ps.filter fun q => q.timeSource = j.timeSource).map PacketTimes.transit)) := by
  induction ps generalizing j with
  | nil => rfl
  | cons p ps ih =>
    rw [List.foldl_cons]
    by_cases hp : p.timeSource = j.timeSource
    · rw [List.filter_cons_of_pos (by simpa using hp), List.length_cons] at h
      have hnext : (j.packets + 1).toNat = j.packets.toNat + 1 := by
        rw [UInt32.toNat_add, Nat.mod_eq_of_lt]
        · rfl
        · show j.packets.toNat + 1 < 2 ^ 32
          omega
      have hpos : j.packets + 1 > 0 := by
        rw [gt_iff_lt, UInt32.lt_iff_toNat_lt, hnext]
        exact Nat.succ_pos _
      rw [List.filter_cons_of_pos (by simpa using hp), process_of_eq hpackets hp, List.map_cons,
        Smoothing.differences_cons, Smoothing.accumulate_cons, mul_one_div]
      refine ih (j := accept _ p) hpos ?_
      show (j.packets + 1).toNat + (ps.filter fun q => q.timeSource = j.timeSource).length < 2 ^ 32
      omega
    · rw [List.filter_cons_of_neg (by simpa using hp)] at h
      rw [process_of_ne hpackets hp, List.filter_cons_of_neg (by simpa using hp), ih hpackets h]

theorem jitter_eq {ps : List PacketTimes} (h : (accepted ps).length < 2 ^ 32) :
    (ps.foldl process start).jitter = Smoothing.accumulate (1 / 16) 0 (differences ps) := by
  cases ps with
  | nil => rfl
  | cons p ps =>
    unfold accepted at h
    rw [List.length_cons] at h
    have hone : (start.process p).packets = 1 := rfl
    refine foldl_process ps (j := start.process p) (by rw [hone]; decide) ?_
    rw [hone, Nat.add_comm]
    exact h

/-- **The recurrence of RFC 3550** is met if and only if no difference but the last one counts; then, the
jitter is not above all differences. -/
theorem process_rfc3550_iff (ps : List PacketTimes) (h : (accepted ps).length < 2 ^ 32) :
    ((ps.foldl process start).jitter = rfc3550 ps ∧
      ∀ bound, 0 ≤ bound → (∀ d ∈ differences ps, d ≤ bound) →
        (ps.foldl process start).jitter ≤ bound) ↔
    ∀ d ∈ (differences ps).dropLast, d = 0 := by
  have hnonneg : ∀ d ∈ differences ps, 0 ≤ d := Smoothing.differences_nonneg _
  have hiff := Smoothing.accumulate_eq_smooth_iff (g := 1 / 16) (by norm_num) (by norm_num) hnonneg
  rw [jitter_eq h, ← hiff]
  constructor
  · exact fun hboth => hboth.1
  · intro heq
    refine ⟨heq, fun bound hbound hle => ?_⟩
    rw [heq]
    exact Smoothing.smooth_le (by norm_num) (by norm_num) hbound hle

/-- Transit times of 0 and 16, and 16 again. -/
def threePackets : List PacketTimes := [⟨1, 100, 100⟩, ⟨1, 200, 216⟩, ⟨1, 300, 316⟩]

theorem process_rfc3550_two :
    ((threePackets.take 2).foldl process start).jitter = rfc3550 (threePackets.take 2) :=
  ((process_rfc3550_iff (threePackets.take 2) (by decide)).mpr (by decide +kernel)).1

theorem process_three :
    (threePackets.foldl process start).jitter = 1 ∧ rfc3550 threePackets = 15 / 16 := by
  decide +kernel

end JitterRFC3550

/-! ## Blocks of entries -/

namespace Jitter

/-- What `computeJitter` fails with. -/
inductive Failure where
  /-- `resultEntry->roundNumber() == roundNumber` -/
  | roundNumber
  | times (abort : Abort)
deriving DecidableEq, Repr

/-- A pointer to an entry of the block. -/
structure Reference where
  position : Nat
  entry : ResultEntry

/-- The variables of the loop.  The time sources are not initialised, but set before they are read. -/
structure Variables where
  position : Nat
  roundNumber : UInt16
  referenceEntry : Option Reference
  timeSource : Nat
  timeSources : Value → Nat
  jitters : Value → JitterRFC3550

def Variables.start : Variables := ⟨0, 0, none, 0, fun _ => 0, fun _ => .start⟩

/-- The time source and the times for a value. -/
def obtain (t : TimeStamps) : Value → Nat × Except Abort (Option (Int × Int))
  | .rttApplication => ((t.obtainSendReceiveTime .application).1,
      .ok (t.obtainSendReceiveTime .application).2)
  | .rttSoftware => ((t.obtainSendReceiveTime .receptionSW).1,
      .ok (t.obtainSendReceiveTime .receptionSW).2)
  | .rttHardware => ((t.obtainSendReceiveTime .receptionHW).1,
      .ok (t.obtainSendReceiveTime .receptionHW).2)
  | .delayQueuing => t.obtainSchedulingSendTime
  | .delayAppSend => t.obtainApplicationSendSchedulingTime
  | .delayAppReceive => t.obtainReceptionApplicationReceiveTime

/-- The times of one value are processed, if they are available. -/
def processTimes (t : TimeStamps) (s : Variables) (value : Value) : Except Abort Variables :=
  let timeSource := (obtain t value).1
  let s := { s with timeSources := Function.update s.timeSources value timeSource }
  match (obtain t value).2 with
  | .error abort => .error abort
  | .ok none => .ok s
  | .ok (some (sendTime, receiveTime)) =>
    let packet := ⟨UInt8.ofNat timeSource, UInt64.ofInt sendTime, UInt64.ofInt receiveTime⟩
    .ok { s with jitters := Function.update s.jitters value ((s.jitters value).process packet) }

/-- The values in the order of the loop. -/
def processed : List Value :=
  [.delayQueuing, .delayAppSend, .delayAppReceive, .rttApplication, .rttSoftware, .rttHardware]

/-- The time source in the output. -/
def combine (timeSources : Value → Nat) : Nat :=
  (timeSources .rttApplication <<< 24) ||| (timeSources .delayQueuing <<< 16) |||
    (timeSources .rttSoftware <<< 8) ||| timeSources .rttHardware

/-- The reference entry is set as long as there is none, or one with success. -/
def setReference (s : Variables) (e : ResultEntry) : Variables :=
  if s.referenceEntry.all fun r => r.entry.status = .success then
    { s with
      referenceEntry := some ⟨s.position, e⟩
      timeSource := if e.status = .success then combine s.timeSources else 0 }
  else s

/-- The times of an entry with success are processed. -/
def processEntry (s : Variables) (e : ResultEntry) : Except Failure Variables :=
  if e.status = .success then (Run.exec (processTimes (.of e)) s processed).mapError .times
  else .ok s

def step (s : Variables) (e : ResultEntry) : Except Failure Variables :=
  if e.roundNumber ≠ s.roundNumber.toNat then .error .roundNumber
  else
    (processEntry { s with roundNumber := s.roundNumber + 1 } e).map fun s =>
      { setReference s e with position := s.position + 1 }

/-- What `writeJitterResultEntry` is called with. -/
structure Written where
  referenceEntry : Reference
  timeSource : Nat
  jitters : Value → JitterRFC3550

/-- `computeJitter`, up to the call of `writeJitterResultEntry`. -/
def computeJitter (entries : List ResultEntry) : Except Failure (Option Written) := do
  let s ← Run.exec step .start entries
  return s.referenceEntry.map fun r => ⟨r, s.timeSource, s.jitters⟩

/-! ## Which entry is the reference -/

/-- The time source from the time stamps of an entry, and zero without success. -/
def ownTimeSource (e : ResultEntry) : Nat :=
  if e.status = .success then combine fun value => (obtain (.of e) value).1 else 0

/-- The first entry with success, or else the first one, with its own time source. -/
def Written.IsReference (w : Written) (entries : List ResultEntry) : Prop :=
  w.referenceEntry.position = (entries.findIdx? fun e => e.status = .success).getD 0 ∧
    entries[w.referenceEntry.position]? = some w.referenceEntry.entry ∧
    w.timeSource = ownTimeSource w.referenceEntry.entry

/-- The variables that the times of an entry do not change. -/
structure Keeps (s s' : Variables) : Prop where
  position : s'.position = s.position
  roundNumber : s'.roundNumber = s.roundNumber
  referenceEntry : s'.referenceEntry = s.referenceEntry
  timeSource : s'.timeSource = s.timeSource

theorem Keeps.refl (s : Variables) : Keeps s s := ⟨rfl, rfl, rfl, rfl⟩

theorem Keeps.trans {s s' s'' : Variables} (h : Keeps s s') (h' : Keeps s' s'') : Keeps s s'' :=
  ⟨h'.position.trans h.position, h'.roundNumber.trans h.roundNumber,
    h'.referenceEntry.trans h.referenceEntry, h'.timeSource.trans h.timeSource⟩

theorem processTimes_ok {t : TimeStamps} {s s' : Variables} {value : Value}
    (h : processTimes t s value = .ok s') :
    s'.timeSources = Function.update s.timeSources value (obtain t value).1 ∧ Keeps s s' := by
  unfold processTimes at h
  simp only at h
  split at h
  · cases h
  · cases h
    exact ⟨rfl, rfl, rfl, rfl, rfl⟩
  · cases h
    exact ⟨rfl, rfl, rfl, rfl, rfl⟩

theorem exec_processTimes {t : TimeStamps} {s s' : Variables} {values : List Value}
    (h : Run.exec (processTimes t) s values = .ok s') :
    (∀ value, s'.timeSources value =
      if value ∈ values then (obtain t value).1 else s.timeSources value) ∧ Keeps s s' := by
  induction values generalizing s with
  | nil =>
    cases h
    exact ⟨fun _ => (if_neg List.not_mem_nil).symm, .refl _⟩
  | cons v values ih =>
    unfold Run.exec at h
    split at h
    · cases h
    · next s1 hs1 =>
      obtain ⟨htimeSources, hkeeps⟩ := processTimes_ok hs1
      obtain ⟨htimeSources', hkeeps'⟩ := ih h
      refine ⟨fun value => ?_, hkeeps.trans hkeeps'⟩
      rw [htimeSources', htimeSources]
      by_cases hv : value = v
      · subst hv
        rw [Function.update_self, if_pos List.mem_cons_self]
        split <;> rfl
      · rw [Function.update_of_ne hv]
        simp only [List.mem_cons, hv, false_or]

/-- The reference behind some entries: all entries before it have success, and it has none unless it is the
last one. -/
structure Selected (done : List ResultEntry) (s : Variables) : Prop where
  position : s.position = done.length
  none_iff : s.referenceEntry = none ↔ done = []
  entry : ∀ r, s.referenceEntry = some r → done[r.position]? = some r.entry
  before : ∀ r, s.referenceEntry = some r → ∀ e ∈ done.take r.position, e.status = .success
  last : ∀ r, s.referenceEntry = some r → r.entry.status = .success → r.position + 1 = done.length
  timeSource : ∀ r, s.referenceEntry = some r → s.timeSource = ownTimeSource r.entry

theorem setReference_cases (s : Variables) (e : ResultEntry) :
    (∀ r, s.referenceEntry = some r → r.entry.status = .success) ∧
        setReference s e = { s with
          referenceEntry := some ⟨s.position, e⟩
          timeSource := if e.status = .success then combine s.timeSources else 0 } ∨
      (∃ r, s.referenceEntry = some r ∧ r.entry.status ≠ .success) ∧ setReference s e = s := by
  unfold setReference
  cases hr : s.referenceEntry with
  | none =>
    left
    refine ⟨?_, if_pos rfl⟩
    rintro r ⟨⟩
  | some r =>
    by_cases hstatus : r.entry.status = .success
    · left
      refine ⟨?_, if_pos (by simpa using hstatus)⟩
      rintro r' ⟨⟩
      exact hstatus
    · exact .inr ⟨⟨r, rfl, hstatus⟩, if_neg (by simpa using hstatus)⟩

theorem processEntry_ok {s s' : Variables} {e : ResultEntry} (h : processEntry s e = .ok s') :
    Keeps s s' ∧ (if e.status = .success then combine s'.timeSources else 0) = ownTimeSource e := by
  unfold processEntry at h
  unfold ownTimeSource
  by_cases hstatus : e.status = .success
  · rw [if_pos hstatus] at h ⊢
    cases hexec : Run.exec (processTimes (.of e)) s processed with
    | error abort =>
      rw [hexec] at h
      cases h
    | ok s1 =>
      rw [hexec] at h
      cases h
      obtain ⟨htimeSources, hkeeps⟩ := exec_processTimes hexec
      have hall : s'.timeSources = fun value => (obtain (.of e) value).1 := by
        funext value
        rw [htimeSources, if_pos]
        cases value <;> decide
      rw [hall, if_pos hstatus]
      exact ⟨hkeeps, rfl⟩
  · rw [if_neg hstatus] at h ⊢
    cases h
    exact ⟨.refl _, (if_neg hstatus).symm⟩

/-- What a turn of the loop does to the variables of the reference. -/
theorem step_ok {s s' : Variables} {e : ResultEntry} (h : step s e = .ok s') :
    s'.position = s.position + 1 ∧
      ((∀ r, s.referenceEntry = some r → r.entry.status = .success) ∧
          s'.referenceEntry = some ⟨s.position, e⟩ ∧ s'.timeSource = ownTimeSource e ∨
        (∃ r, s.referenceEntry = some r ∧ r.entry.status ≠ .success) ∧
          s'.referenceEntry = s.referenceEntry ∧ s'.timeSource = s.timeSource) := by
  unfold step at h
  split at h
  · cases h
  · obtain ⟨s1, hs1, rfl⟩ := Run.map_ok h
    obtain ⟨⟨hposition, -, hreference, htimeSource⟩, hown⟩ := processEntry_ok hs1
    simp only at hposition hreference htimeSource ⊢
    refine ⟨by rw [hposition], ?_⟩
    rcases setReference_cases s1 e with ⟨hall, heq⟩ | ⟨hex, heq⟩
    · rw [heq, hown, hposition]
      exact .inl ⟨hreference ▸ hall, rfl, rfl⟩
    · rw [heq]
      exact .inr ⟨hreference ▸ hex, hreference, htimeSource⟩

theorem Selected.lt_length {done : List ResultEntry} {s : Variables} (h : Selected done s)
    {r : Reference} (hr : s.referenceEntry = some r) : r.position < done.length :=
  (List.getElem?_eq_some_iff.mp (h.entry r hr)).1

/-- With a reference with success, all entries have success. -/
theorem Selected.all {done : List ResultEntry} {s : Variables} (h : Selected done s)
    (hall : ∀ r, s.referenceEntry = some r → r.entry.status = .success) :
    ∀ e ∈ done, e.status = .success := by
  cases hr : s.referenceEntry with
  | none =>
    rw [h.none_iff.mp hr]
    exact List.forall_mem_nil _
  | some r =>
    have hlast := h.last r hr (hall r hr)
    have hsplit : done = done.take r.position ++ [r.entry] := by
      calc done = done.take (r.position + 1) := by rw [hlast, List.take_length]
        _ = done.take r.position ++ [r.entry] := by rw [List.take_add_one, h.entry r hr]; rfl
    rw [hsplit, List.forall_mem_append]
    refine ⟨h.before r hr, fun e he => ?_⟩
    rw [List.mem_singleton.mp he]
    exact hall r hr

theorem Selected.step {done : List ResultEntry} {s s' : Variables} {e : ResultEntry}
    (h : Selected done s) (hstep : Jitter.step s e = .ok s') : Selected (done ++ [e]) s' := by
  obtain ⟨hposition, hcases⟩ := step_ok hstep
  have hlength : s'.position = (done ++ [e]).length := by
    rw [hposition, h.position, List.length_append]
    rfl
  rcases hcases with ⟨hall, hreference, htimeSource⟩ | ⟨⟨r, hr, hstatus⟩, hreference, htimeSource⟩
  · have hsome : ∀ r, s'.referenceEntry = some r → r = ⟨done.length, e⟩ := by
      intro r hr
      rw [hreference, h.position] at hr
      exact (Option.some.inj hr).symm
    refine ⟨hlength, by rw [hreference]; simp, fun r hr => ?_, fun r hr => ?_, fun r hr _ => ?_,
      fun r hr => ?_⟩
    all_goals obtain rfl := hsome r hr
    · exact List.getElem?_concat_length
    · rw [List.take_left]
      exact h.all hall
    · rw [List.length_append]
      rfl
    · exact htimeSource
  · have hlt := h.lt_length hr
    have hsome : ∀ r', s'.referenceEntry = some r' → r' = r := by
      intro r' hr'
      rw [hreference, hr] at hr'
      exact (Option.some.inj hr').symm
    refine ⟨hlength, by rw [hreference, hr]; simp, fun r' hr' => ?_, fun r' hr' => ?_,
      fun r' hr' hsuccess => ?_, fun r' hr' => ?_⟩
    all_goals obtain rfl := hsome r' hr'
    · rw [List.getElem?_append_left hlt]
      exact h.entry _ hr
    · rw [List.take_append_of_le_length hlt.le]
      exact h.before _ hr
    · exact absurd hsuccess hstatus
    · rw [htimeSource]
      exact h.timeSource _ hr

theorem Selected.exec {entries done : List ResultEntry} {s s' : Variables} (h : Selected done s)
    (hexec : Run.exec Jitter.step s entries = .ok s') : Selected (done ++ entries) s' := by
  induction entries generalizing done s with
  | nil =>
    cases hexec
    rw [List.append_nil]
    exact h
  | cons e entries ih =>
    unfold Run.exec at hexec
    split at hexec
    · cases hexec
    · next s1 hs1 =>
      have hrest := ih (h.step hs1) hexec
      rw [List.append_assoc] at hrest
      exact hrest

theorem Selected.start : Selected [] .start := by
  refine ⟨rfl, by simp [Variables.start], ?_, ?_, ?_, ?_⟩
  all_goals rintro r ⟨⟩

/-! ## The assertions -/

/-- What the assertions ask for, from a position on: the rounds are counted (in 16 bits), and no time stamp
with a source is missing. -/
structure IsBlock (position : Nat) (entries : List ResultEntry) : Prop where
  rounds : ∀ i e, entries[i]? = some e → e.roundNumber = (position + i) % 65536
  times : ∀ e ∈ entries, e.status = .success → ∀ value, ((obtain (.of e) value).2).isOk = true

theorem processTimes_exists {t : TimeStamps} {value : Value} (h : ((obtain t value).2).isOk = true)
    (s : Variables) : ∃ s', processTimes t s value = .ok s' := by
  unfold processTimes
  obtain ⟨times, htimes⟩ := Run.exists_of_isOk h
  rw [htimes]
  cases times with
  | none => exact ⟨_, rfl⟩
  | some times => exact ⟨_, rfl⟩

theorem step_exists {s : Variables} {e : ResultEntry}
    (hround : e.roundNumber = s.roundNumber.toNat)
    (h : e.status = .success → ∀ value, ((obtain (.of e) value).2).isOk = true) :
    ∃ s', step s e = .ok s' ∧ s'.roundNumber = s.roundNumber + 1 := by
  have hentry : ∀ s, ∃ s', processEntry s e = .ok s' := by
    intro s
    unfold processEntry
    by_cases hstatus : e.status = .success
    · have hstep : ∀ s value, True → True → ∃ s', processTimes (.of e) s value = .ok s' ∧ True :=
        fun s value _ _ => (processTimes_exists (h hstatus value) s).imp fun _ hs => ⟨hs, trivial⟩
      obtain ⟨s', hs', -⟩ := Run.exec_total hstep trivial (Run.meets_true _ s processed)
      rw [if_pos hstatus, hs']
      exact ⟨s', rfl⟩
    · exact ⟨s, if_neg hstatus⟩
  obtain ⟨s1, hs1⟩ := hentry { s with roundNumber := s.roundNumber + 1 }
  have hkeeps := (processEntry_ok hs1).1.roundNumber
  refine ⟨{ setReference s1 e with position := s1.position + 1 }, ?_, ?_⟩
  · unfold step
    rw [if_neg (not_not_intro hround), hs1]
    rfl
  · rcases setReference_cases s1 e with ⟨-, heq⟩ | ⟨-, heq⟩
    · rw [heq]
      exact hkeeps
    · rw [heq]
      exact hkeeps

theorem exec_exists {entries : List ResultEntry} {s : Variables}
    (hround : s.roundNumber.toNat = s.position % 65536) (h : IsBlock s.position entries) :
    ∃ s', Run.exec step s entries = .ok s' := by
  induction entries generalizing s with
  | nil => exact ⟨s, rfl⟩
  | cons e entries ih =>
    obtain ⟨s1, hs1, hround1⟩ := step_exists
      ((h.rounds 0 e rfl).trans hround.symm) (h.times e List.mem_cons_self)
    have hposition := (step_ok hs1).1
    obtain ⟨s', hs'⟩ := ih (s := s1) (by
      rw [hround1, hposition, UInt16.toNat_add, hround]
      show (s.position % 65536 + 1) % 65536 = _
      omega) ⟨fun i e' he' => by
        rw [h.rounds (i + 1) e' he', hposition]
        congr 1
        omega, fun e' he' => h.times e' (List.mem_cons_of_mem _ he')⟩
    refine ⟨s', ?_⟩
    unfold Run.exec
    rw [hs1]
    exact hs'

/-- **The reference entry** is the first one with success, or else the first one, if and only if there is no
success or only one entry. -/
theorem computeJitter_reference_iff {entries : List ResultEntry} (hne : entries ≠ [])
    (h : IsBlock 0 entries) :
    ∃ w, computeJitter entries = .ok (some w) ∧
      (w.IsReference entries ↔ (∀ e ∈ entries, e.status ≠ .success) ∨ entries.length = 1) := by
  obtain ⟨s, hs⟩ := exec_exists (s := .start) rfl h
  have hselected := Selected.start.exec hs
  rw [List.nil_append] at hselected
  obtain ⟨r, hr⟩ := Option.ne_none_iff_exists'.mp (mt hselected.none_iff.mp hne)
  refine ⟨⟨r, s.timeSource, s.jitters⟩, ?_, ?_⟩
  · unfold computeJitter
    rw [hs]
    show Except.ok (s.referenceEntry.map fun r => _) = _
    rw [hr]
    rfl
  have hentry := hselected.entry r hr
  have hlt := hselected.lt_length hr
  -- an entry in front of the reference has success
  have hfront : ∀ j, (hj : j < r.position) → (entries.get ⟨j, hj.trans hlt⟩).status = .success := by
    intro j hj
    refine hselected.before r hr _ ?_
    exact List.mem_take_iff_getElem.mpr ⟨j, by omega, rfl⟩
  unfold Written.IsReference
  simp only
  constructor
  · rintro ⟨hposition, -, -⟩
    cases hfind : entries.findIdx? fun e => e.status = .success with
    | none =>
      left
      intro e he
      have hnone := List.findIdx?_eq_none_iff.mp hfind e he
      simpa using hnone
    | some k =>
      rw [hfind, Option.getD_some] at hposition
      subst hposition
      obtain ⟨_, hsuccess, hbefore⟩ := List.findIdx?_eq_some_iff_getElem.mp hfind
      right
      have hlast := hselected.last r hr (by
        rw [List.getElem?_eq_getElem hlt] at hentry
        rw [← Option.some.inj hentry]
        simpa using hsuccess)
      by_contra hlength
      have hpos : 0 < r.position := by omega
      exact absurd (hfront 0 hpos) (by simpa using hbefore 0 hpos)
  · intro hcond
    refine ⟨?_, hentry, hselected.timeSource r hr⟩
    have hzero : r.position = 0 := by
      rcases hcond with hnone | hone
      · by_contra hne
        have hpos : 0 < r.position := Nat.pos_of_ne_zero hne
        exact hnone _ (List.getElem_mem (hpos.trans hlt)) (hfront 0 hpos)
      · omega
    rw [hzero]
    cases hfind : entries.findIdx? fun e => e.status = .success with
    | none => rfl
    | some k =>
      obtain ⟨hk, hsuccess, -⟩ := List.findIdx?_eq_some_iff_getElem.mp hfind
      rw [Option.getD_some]
      rcases hcond with hnone | hone
      · exact absurd (by simpa using hsuccess) (hnone _ (List.getElem_mem hk))
      · omega

/-- A request and its response after a millisecond. -/
def answeredEntry (roundNumber : Nat) : ResultEntry :=
  (ResultEntry.initialise 0 roundNumber 1 64 64 0 0 0 1000000000 (.v4 1) ⟨.v4 2, 0⟩
    .success).setReceiveTime .application .sysClock 1001000000

theorem isBlock_answered (roundNumber : Nat) :
    IsBlock roundNumber [answeredEntry roundNumber] where
  rounds := by
    intro i e he
    obtain ⟨hi, rfl⟩ := List.getElem?_eq_some_iff.mp he
    obtain rfl : i = 0 := by simpa using hi
    rfl
  times := by
    intro e he _ value
    rw [List.mem_singleton.mp he]
    cases value <;> rfl

/-- A request that has expired after a second. -/
def expiredEntry (roundNumber : Nat) : ResultEntry :=
  (ResultEntry.initialise 0 roundNumber 1 64 64 0 0 0 1000000000 (.v4 1) ⟨.v4 2, 0⟩
    .unknown).expire 1000

theorem isBlock_expired : IsBlock 0 [expiredEntry 0, expiredEntry 1, expiredEntry 2] where
  rounds := by
    intro i e he
    rcases i with _ | _ | _ | i
    · cases he
      rfl
    · cases he
      rfl
    · cases he
      rfl
    · cases he
  times := by
    intro e he hsuccess
    have hno : ∀ e ∈ [expiredEntry 0, expiredEntry 1, expiredEntry 2], e.status ≠ .success := by decide
    exact absurd hsuccess (hno e he)

theorem computeJitter_answered_expired :
    (∃ w, computeJitter [answeredEntry 0] = .ok (some w) ∧ w.IsReference [answeredEntry 0]) ∧
    ∃ w, computeJitter [expiredEntry 0, expiredEntry 1, expiredEntry 2] = .ok (some w) ∧
      w.IsReference [expiredEntry 0, expiredEntry 1, expiredEntry 2] := by
  constructor
  · obtain ⟨w, hw, hiff⟩ := computeJitter_reference_iff (List.cons_ne_nil _ _) (isBlock_answered 0)
    exact ⟨w, hw, hiff.mpr (.inr rfl)⟩
  · obtain ⟨w, hw, hiff⟩ := computeJitter_reference_iff (List.cons_ne_nil _ _) isBlock_expired
    exact ⟨w, hw, hiff.mpr (.inl (by decide))⟩

/-- Two entries with success: the second one is the reference. -/
theorem computeJitter_two :
    ∃ w, computeJitter [answeredEntry 0, answeredEntry 1] = .ok (some w) ∧
      w.referenceEntry.position = 1 ∧
      ¬ w.IsReference [answeredEntry 0, answeredEntry 1] := by
  refine ⟨_, rfl, rfl, ?_⟩
  rintro ⟨hposition, -⟩
  cases hposition

end Jitter

end HiPerConTracer.Service
