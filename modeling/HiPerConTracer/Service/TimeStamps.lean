import HiPerConTracer.Service.IOModule
import HiPerConTracer.Lib.Run

/-!
# The values of a result (`ResultEntry::obtainResultsValues`)

Six values are computed from the send and receive times of an entry, each from two of them, or
`-1` when the two are not available or cannot be compared; and then verified.  The verification of
`rttApplication` does not leave out the value `-1`:

    t.Evaluated ↔ t.Evaluable                                              (evaluated_iff_evaluable)

where `Evaluable` says that the response has not been received before the request was sent, that no
time stamp with a source is zero, and that no difference is too large.  The entries are those that
`initialise`, `setSendTime` and one of `recordResult`, `expire` and `failedToSend` lead to, when the
sum of `expire` fits (`evaluated_iff`).
-/

namespace HiPerConTracer.Service

/-- The time stamps of an entry, in nanoseconds since the epoch; zero is the value of a time stamp
that has not been set. -/
structure TimeStamps where
  sendTimeSource : TXTimeStampType → TimeSourceType
  sendTime : TXTimeStampType → Int
  receiveTimeSource : RXTimeStampType → TimeSourceType
  receiveTime : RXTimeStampType → Int

/-- The numbers of the sources. -/
def TimeSourceType.code : TimeSourceType → Nat
  | unknown => 0x0
  | sysClock => 0x1
  | timestamp => 0x2
  | timestampNS => 0x3
  | siocgstamp => 0x4
  | siocgstampNS => 0x5
  | timestampingSW => 0x6
  | timestampingHW => 0xa

/-- Both enumerations have the same numbers. -/
def RXTimeStampType.toTX : RXTimeStampType → TXTimeStampType
  | application => .application
  | receptionSW => .transmissionSW
  | receptionHW => .transmissionHW

inductive Value where
  | rttApplication
  | rttSoftware
  | rttHardware
  | delayQueuing
  | delayAppSend
  | delayAppReceive
deriving DecidableEq, Repr

/-- What a completion and its evaluation fail with. -/
inductive Abort where
  /-- The time of an expiration does not fit. -/
  | expiration
  /-- A time stamp with a source is not set. -/
  | assure (value : Value)
  /-- The difference of two times does not fit. -/
  | overflow (value : Value)
  /-- `abort()`, since a value does not pass its verification. -/
  | check (value : Value)
deriving DecidableEq, Repr

namespace TimeStamps

/-! ## Time stamps -/

/-- The times of `initialise`. -/
def initialise (sendTime : Int) : TimeStamps where
  sendTimeSource := fun t =>
    if t = .transmissionSW then .sysClock else if t = .application then .sysClock else .unknown
  sendTime := fun t =>
    if t = .transmissionSW then sendTime else if t = .application then sendTime else 0
  receiveTimeSource := fun _ => .unknown
  receiveTime := fun _ => 0

def setSendTime (t : TimeStamps) (type : TXTimeStampType) (timeSource : TimeSourceType)
    (time : Int) : TimeStamps :=
  { t with sendTimeSource := fun x => if x = type then timeSource else t.sendTimeSource x
           sendTime := fun x => if x = type then time else t.sendTime x }

def setReceiveTime (t : TimeStamps) (type : RXTimeStampType) (timeSource : TimeSourceType)
    (time : Int) : TimeStamps :=
  { t with receiveTimeSource := fun x => if x = type then timeSource else t.receiveTimeSource x
           receiveTime := fun x => if x = type then time else t.receiveTime x }

/-- How an entry is completed. -/
inductive Completion where
  /-- The times of `recordResult`. -/
  | recorded (applicationReceiveTime : Int) (receiveSWSource : TimeSourceType) (receiveSWTime : Int)
      (receiveHWSource : TimeSourceType) (receiveHWTime : Int)
  /-- The expiration is in milliseconds. -/
  | expired (expiration : Nat)
  | failedToSend

def complete (t : TimeStamps) : Completion → TimeStamps
  | .recorded time swSource swTime hwSource hwTime =>
    ((t.setReceiveTime .application .sysClock time).setReceiveTime .receptionSW swSource
      swTime).setReceiveTime .receptionHW hwSource hwTime
  | .expired expiration =>
    t.setReceiveTime .application .sysClock (t.sendTime .application + expiration * 1000000)
  | .failedToSend => t.setReceiveTime .application .sysClock (t.sendTime .application)

/-- The sum of `expire` is a time of 64 bits. -/
def Completion.Fits (t : TimeStamps) : Completion → Prop
  | .expired expiration => t.sendTime .application + expiration * 1000000 < 2 ^ 63
  | .recorded _ _ _ _ _ | .failedToSend => True

instance (t : TimeStamps) : (completion : Completion) → Decidable (completion.Fits t)
  | .expired _ => inferInstanceAs (Decidable (_ < _))
  | .recorded _ _ _ _ _ => inferInstanceAs (Decidable True)
  | .failedToSend => inferInstanceAs (Decidable True)

/-- The time stamps of an entry. -/
def of (e : ResultEntry) : TimeStamps where
  sendTimeSource := e.sendTimeSource
  sendTime := fun t => e.sendTime t
  receiveTimeSource := e.receiveTimeSource
  receiveTime := fun t => e.receiveTime t

/-! ## The values -/

/-- A time source with the other one, as a byte. -/
def timeSource (second first : TimeSourceType) : Nat := (second.code <<< 4) ||| first.code

/-- `obtainSendReceiveTime`: the byte of the sources, and the two times. -/
def obtainSendReceiveTime (t : TimeStamps) (type : RXTimeStampType) : Nat × Option (Int × Int) :=
  let receiveTimeSource := t.receiveTimeSource type
  let sendTimeSource := t.sendTimeSource type.toTX
  let receiveTime := t.receiveTime type
  let sendTime := t.sendTime type.toTX
  (timeSource receiveTimeSource sendTimeSource,
    if receiveTimeSource = .unknown ∨ sendTimeSource = .unknown then none
    else if (receiveTimeSource = .timestampingHW ∨ sendTimeSource = .timestampingHW) ∧
        receiveTimeSource ≠ sendTimeSource then none
    else if receiveTime = 0 ∨ sendTime = 0 then none
    else if sendTime > receiveTime then none
    else some (sendTime, receiveTime))

/-- Two times with sources that are `comparable`; both have to be set. -/
def obtainTimes (value : Value) (comparable : Prop) [Decidable comparable] (first second : Int) :
    Except Abort (Option (Int × Int)) :=
  if ¬ comparable then .ok none
  else if first = 0 ∨ second = 0 then .error (.assure value)
  else if first > second then .ok none
  else .ok (some (first, second))

/-- The sources of `obtainSchedulingSendTime`. -/
def Queuing (t : TimeStamps) : Prop :=
  t.sendTimeSource .schedulerSW ≠ .unknown ∧ t.sendTimeSource .transmissionSW ≠ .unknown ∧
    t.sendTimeSource .schedulerSW = t.sendTimeSource .transmissionSW

/-- The sources of `obtainApplicationSendSchedulingTime`. -/
def AppSend (t : TimeStamps) : Prop :=
  t.sendTimeSource .application = .sysClock ∧ t.sendTimeSource .schedulerSW = .timestampingSW

/-- The sources of `obtainReceptionApplicationReceiveTime`. -/
def AppReceive (t : TimeStamps) : Prop :=
  t.receiveTimeSource .receptionSW = .timestampingSW ∧
    t.receiveTimeSource .application = .sysClock

instance (t : TimeStamps) : Decidable t.Queuing := inferInstanceAs (Decidable (_ ∧ _ ∧ _))
instance (t : TimeStamps) : Decidable t.AppSend := inferInstanceAs (Decidable (_ ∧ _))
instance (t : TimeStamps) : Decidable t.AppReceive := inferInstanceAs (Decidable (_ ∧ _))

def obtainSchedulingSendTime (t : TimeStamps) : Nat × Except Abort (Option (Int × Int)) :=
  (timeSource (t.sendTimeSource .transmissionSW) (t.sendTimeSource .schedulerSW),
    obtainTimes .delayQueuing t.Queuing (t.sendTime .schedulerSW) (t.sendTime .transmissionSW))

def obtainApplicationSendSchedulingTime (t : TimeStamps) :
    Nat × Except Abort (Option (Int × Int)) :=
  (timeSource (t.sendTimeSource .schedulerSW) (t.sendTimeSource .application),
    obtainTimes .delayAppSend t.AppSend (t.sendTime .application) (t.sendTime .schedulerSW))

def obtainReceptionApplicationReceiveTime (t : TimeStamps) :
    Nat × Except Abort (Option (Int × Int)) :=
  (timeSource (t.receiveTimeSource .application) (t.receiveTimeSource .receptionSW),
    obtainTimes .delayAppReceive t.AppReceive (t.receiveTime .receptionSW)
      (t.receiveTime .application))

/-- The difference in 64 bits, or `-1`. -/
def difference (value : Value) : Option (Int × Int) → Except Abort Int
  | none => .ok (-1)
  | some (first, second) =>
    if second - first < 2 ^ 63 then .ok (second - first) else .error (.overflow value)

def getRTT (t : TimeStamps) (value : Value) (type : RXTimeStampType) : Except Abort Int :=
  difference value (t.obtainSendReceiveTime type).2

def getQueuingDelay (t : TimeStamps) : Except Abort Int :=
  t.obtainSchedulingSendTime.2 >>= difference .delayQueuing

def getAppSendDelay (t : TimeStamps) : Except Abort Int :=
  t.obtainApplicationSendSchedulingTime.2 >>= difference .delayAppSend

def getAppReceiveDelay (t : TimeStamps) : Except Abort Int :=
  t.obtainReceptionApplicationReceiveTime.2 >>= difference .delayAppReceive

structure ResultsValues where
  timeSource : Nat
  rttApplication : Int
  rttSoftware : Int
  rttHardware : Int
  delayQueuing : Int
  delayAppSend : Int
  delayAppReceive : Int
deriving DecidableEq, Repr

/-- A verification, with `abort()`. -/
def verify (value : Value) (check : Prop) [Decidable check] : Except Abort Unit :=
  if check then .ok () else .error (.check value)

/-- The verifications of `obtainResultsValues`; values that are not available are left out, except
for the first one. -/
def verifyValues (t : TimeStamps) (r : ResultsValues) : Except Abort Unit := do
  verify .rttApplication (t.sendTime .application + r.rttApplication = t.receiveTime .application)
  verify .rttSoftware (r.rttSoftware ≥ 0 →
    t.sendTime .transmissionSW + r.rttSoftware = t.receiveTime .receptionSW)
  verify .rttHardware (r.rttHardware ≥ 0 →
    t.sendTime .transmissionHW + r.rttHardware = t.receiveTime .receptionHW)
  verify .delayQueuing (r.delayQueuing ≥ 0 →
    t.sendTime .schedulerSW + r.delayQueuing = t.sendTime .transmissionSW)
  verify .delayAppSend (r.delayAppSend ≥ 0 →
    t.sendTime .application + r.delayAppSend = t.sendTime .schedulerSW)
  verify .delayAppReceive (r.delayAppReceive ≥ 0 →
    t.receiveTime .receptionSW + r.delayAppReceive = t.receiveTime .application)

def obtainResultsValues (t : TimeStamps) : Except Abort ResultsValues := do
  let rttApplication ← t.getRTT .rttApplication .application
  let rttSoftware ← t.getRTT .rttSoftware .receptionSW
  let rttHardware ← t.getRTT .rttHardware .receptionHW
  let delayAppSend ← t.getAppSendDelay
  let delayAppReceive ← t.getAppReceiveDelay
  let delayQueuing ← t.getQueuingDelay
  let timeSource := ((t.obtainSendReceiveTime .application).1 <<< 24) |||
    (t.obtainSchedulingSendTime.1 <<< 16) ||| ((t.obtainSendReceiveTime .receptionSW).1 <<< 8) |||
    (t.obtainSendReceiveTime .receptionHW).1
  let r : ResultsValues := ⟨timeSource, rttApplication, rttSoftware, rttHardware, delayQueuing,
    delayAppSend, delayAppReceive⟩
  t.verifyValues r
  return r

/-! ## Evaluation -/

/-- `-1`, or the difference of two times in order. -/
def Exact (value first second : Int) : Prop := value = -1 ∨ first ≤ second ∧ value = second - first

structure ResultsValues.Exact (r : ResultsValues) (t : TimeStamps) : Prop where
  rttApplication : TimeStamps.Exact r.rttApplication (t.sendTime .application)
    (t.receiveTime .application)
  rttSoftware : TimeStamps.Exact r.rttSoftware (t.sendTime .transmissionSW)
    (t.receiveTime .receptionSW)
  rttHardware : TimeStamps.Exact r.rttHardware (t.sendTime .transmissionHW)
    (t.receiveTime .receptionHW)
  delayQueuing : TimeStamps.Exact r.delayQueuing (t.sendTime .schedulerSW)
    (t.sendTime .transmissionSW)
  delayAppSend : TimeStamps.Exact r.delayAppSend (t.sendTime .application)
    (t.sendTime .schedulerSW)
  delayAppReceive : TimeStamps.Exact r.delayAppReceive (t.receiveTime .receptionSW)
    (t.receiveTime .application)

/-- No `abort()` and no failing `assure`, and exact values. -/
def Evaluated (t : TimeStamps) : Prop := ∃ r, t.obtainResultsValues = .ok r ∧ r.Exact t

/-- Both times have sources, of hardware or of software, are set, and are in order. -/
structure Available (t : TimeStamps) (type : RXTimeStampType) : Prop where
  received : t.receiveTimeSource type ≠ .unknown
  sent : t.sendTimeSource type.toTX ≠ .unknown
  hardware : t.receiveTimeSource type = .timestampingHW ↔
    t.sendTimeSource type.toTX = .timestampingHW
  receiveTime_ne : t.receiveTime type ≠ 0
  sendTime_ne : t.sendTime type.toTX ≠ 0
  le : t.sendTime type.toTX ≤ t.receiveTime type

/-- Set times whose difference fits. -/
def Fits (first second : Int) : Prop := first ≠ 0 ∧ second ≠ 0 ∧ second - first < 2 ^ 63

structure Evaluable (t : TimeStamps) : Prop where
  /-- The application has its RTT, or one that is `-1` indeed. -/
  application : t.Available .application ∨
    t.receiveTime .application = t.sendTime .application - 1
  rtt : ∀ type, t.Available type → t.receiveTime type - t.sendTime type.toTX < 2 ^ 63
  queuing : t.Queuing → Fits (t.sendTime .schedulerSW) (t.sendTime .transmissionSW)
  appSend : t.AppSend → Fits (t.sendTime .application) (t.sendTime .schedulerSW)
  appReceive : t.AppReceive → Fits (t.receiveTime .receptionSW) (t.receiveTime .application)

/-! ## Each value -/

theorem obtainSendReceiveTime_some (t : TimeStamps) {type : RXTimeStampType}
    (h : t.Available type) :
    (t.obtainSendReceiveTime type).2 = some (t.sendTime type.toTX, t.receiveTime type) := by
  have hsources := h.hardware
  have hle := h.le
  unfold obtainSendReceiveTime
  simp only
  rw [if_neg (not_or.mpr ⟨h.received, h.sent⟩), if_neg ?_,
    if_neg (not_or.mpr ⟨h.receiveTime_ne, h.sendTime_ne⟩), if_neg (by omega)]
  rintro ⟨hhw | hhw, hne⟩
  · exact hne (hhw.trans (hsources.mp hhw).symm)
  · exact hne ((hsources.mpr hhw).trans hhw.symm)

theorem obtainSendReceiveTime_none (t : TimeStamps) {type : RXTimeStampType}
    (h : ¬ t.Available type) : (t.obtainSendReceiveTime type).2 = none := by
  unfold obtainSendReceiveTime
  simp only
  by_cases hunknown : t.receiveTimeSource type = .unknown ∨
      t.sendTimeSource type.toTX = .unknown
  · rw [if_pos hunknown]
  rw [if_neg hunknown]
  split
  · rfl
  · next hsources =>
    split
    · rfl
    · next hset =>
      split
      · rfl
      · next hle =>
        exfalso
        rw [not_or] at hunknown hset
        refine h ⟨hunknown.1, hunknown.2, ?_, hset.1, hset.2, by omega⟩
        constructor
        · intro hhw
          by_contra hno
          exact hsources ⟨Or.inl hhw, fun heq => hno (heq ▸ hhw)⟩
        · intro hhw
          by_contra hno
          exact hsources ⟨Or.inr hhw, fun heq => hno (heq ▸ hhw)⟩

theorem difference_ok {value : Value} {first second delay : Int}
    (h : difference value (some (first, second)) = .ok delay) :
    second - first < 2 ^ 63 ∧ delay = second - first := by
  by_cases hfits : second - first < 2 ^ 63
  · have hok : difference value (some (first, second)) = .ok (second - first) := if_pos hfits
    rw [hok] at h
    exact ⟨hfits, (Except.ok.inj h).symm⟩
  · have herror : difference value (some (first, second)) = .error (.overflow value) := if_neg hfits
    rw [herror] at h
    cases h

/-- An RTT that is available is a difference. -/
theorem getRTT_available (t : TimeStamps) (value : Value) {type : RXTimeStampType}
    (h : t.Available type)
    (hfits : t.receiveTime type - t.sendTime type.toTX < 2 ^ 63) :
    t.getRTT value type = .ok (t.receiveTime type - t.sendTime type.toTX) := by
  unfold getRTT
  rw [t.obtainSendReceiveTime_some h]
  exact if_pos hfits

theorem getRTT_missing (t : TimeStamps) (value : Value) {type : RXTimeStampType}
    (h : ¬ t.Available type) : t.getRTT value type = .ok (-1) := by
  unfold getRTT
  rw [t.obtainSendReceiveTime_none h]
  rfl

theorem getRTT_ok (t : TimeStamps) {value : Value} {type : RXTimeStampType} {rtt : Int}
    (h : t.getRTT value type = .ok rtt) :
    Exact rtt (t.sendTime type.toTX) (t.receiveTime type) ∧
      (t.Available type → t.receiveTime type - t.sendTime type.toTX < 2 ^ 63 ∧
        rtt = t.receiveTime type - t.sendTime type.toTX) ∧
      (¬ t.Available type → rtt = -1) := by
  by_cases havailable : t.Available type
  · unfold getRTT at h
    rw [t.obtainSendReceiveTime_some havailable] at h
    obtain ⟨hfits, rfl⟩ := difference_ok h
    exact ⟨Or.inr ⟨havailable.le, rfl⟩, fun _ => ⟨hfits, rfl⟩, fun hno => absurd havailable hno⟩
  · rw [t.getRTT_missing value havailable] at h
    obtain rfl := Except.ok.inj h
    exact ⟨Or.inl rfl, fun hyes => absurd hyes havailable, fun _ => rfl⟩

section
variable {value : Value} {comparable : Prop} [Decidable comparable] {first second : Int}

theorem obtainTimes_exists (h : comparable → Fits first second) :
    ∃ delay, (obtainTimes value comparable first second >>= difference value) = .ok delay := by
  unfold obtainTimes
  by_cases hc : comparable
  · obtain ⟨hfirst, hsecond, hfits⟩ := h hc
    rw [if_neg (not_not_intro hc), if_neg (not_or.mpr ⟨hfirst, hsecond⟩)]
    by_cases hback : first > second
    · rw [if_pos hback]
      exact ⟨-1, rfl⟩
    · rw [if_neg hback]
      exact ⟨second - first, if_pos hfits⟩
  · rw [if_pos hc]
    exact ⟨-1, rfl⟩

theorem obtainTimes_ok {delay : Int}
    (h : (obtainTimes value comparable first second >>= difference value) = .ok delay) :
    Exact delay first second ∧ (comparable → Fits first second) := by
  obtain ⟨times, htimes, hdelay⟩ := Run.bind_ok h
  unfold obtainTimes at htimes
  by_cases hc : comparable
  · rw [if_neg (not_not_intro hc)] at htimes
    split at htimes
    · cases htimes
    · next hset =>
      rw [not_or] at hset
      split at htimes
      · next hback =>
        obtain rfl := Except.ok.inj htimes
        obtain rfl := Except.ok.inj hdelay
        exact ⟨Or.inl rfl, fun _ => ⟨hset.1, hset.2, by omega⟩⟩
      · next hle =>
        obtain rfl := Except.ok.inj htimes
        obtain ⟨hfits, rfl⟩ := difference_ok hdelay
        exact ⟨Or.inr ⟨by omega, rfl⟩, fun _ => ⟨hset.1, hset.2, hfits⟩⟩
  · rw [if_pos hc] at htimes
    obtain rfl := Except.ok.inj htimes
    obtain rfl := Except.ok.inj hdelay
    exact ⟨Or.inl rfl, fun hyes => absurd hyes hc⟩

end

/-! ## All values -/

theorem verify_ok_iff {value : Value} {check : Prop} [Decidable check] :
    verify value check = .ok () ↔ check := by
  unfold verify
  by_cases hc : check
  · rw [if_pos hc]
    exact iff_of_true rfl hc
  · rw [if_neg hc]
    exact iff_of_false (fun h => by cases h) hc

/-- Exact values pass their verification, the one for the application apart. -/
theorem verifyValues_iff {t : TimeStamps} {r : ResultsValues} (hr : r.Exact t) :
    t.verifyValues r = .ok () ↔
      t.sendTime .application + r.rttApplication = t.receiveTime .application := by
  have hpass : ∀ {v a b : Int}, TimeStamps.Exact v a b → v ≥ 0 → a + v = b := by
    rintro v a b (rfl | ⟨-, rfl⟩) hv
    · omega
    · omega
  have hbind : ∀ {x y : Except Abort Unit}, (do x; y) = .ok () ↔ x = .ok () ∧ y = .ok () := by
    intro x y
    constructor
    · intro h
      obtain ⟨_, hx, hy⟩ := Run.bind_ok h
      exact ⟨hx, hy⟩
    · rintro ⟨hx, hy⟩
      rw [hx]
      exact hy
  unfold verifyValues
  rw [hbind, hbind, hbind, hbind, hbind]
  simp only [verify_ok_iff]
  constructor
  · exact And.left
  · intro h
    exact ⟨h, hpass hr.rttSoftware, hpass hr.rttHardware, hpass hr.delayQueuing,
      hpass hr.delayAppSend, hpass hr.delayAppReceive⟩

theorem getRTT_exists {t : TimeStamps} (h : t.Evaluable) (value : Value) (type : RXTimeStampType) :
    ∃ rtt, t.getRTT value type = .ok rtt := by
  by_cases havailable : t.Available type
  · exact ⟨_, t.getRTT_available value havailable (h.rtt type havailable)⟩
  · exact ⟨_, t.getRTT_missing value havailable⟩

/-- **Evaluation** of arbitrary time stamps. -/
theorem evaluated_iff_evaluable (t : TimeStamps) : t.Evaluated ↔ t.Evaluable := by
  constructor
  · rintro ⟨r, hr, hexact⟩
    obtain ⟨rttApplication, happ, hr⟩ := Run.bind_ok hr
    obtain ⟨rttSoftware, hsoft, hr⟩ := Run.bind_ok hr
    obtain ⟨rttHardware, hhard, hr⟩ := Run.bind_ok hr
    obtain ⟨delayAppSend, hsend, hr⟩ := Run.bind_ok hr
    obtain ⟨delayAppReceive, hreceive, hr⟩ := Run.bind_ok hr
    obtain ⟨delayQueuing, hqueuing, hr⟩ := Run.bind_ok hr
    obtain ⟨_, hverify, hr⟩ := Run.bind_ok hr
    obtain rfl := Except.ok.inj hr
    have hcheck := (verifyValues_iff hexact).mp hverify
    obtain ⟨-, happ, hmissing⟩ := t.getRTT_ok happ
    refine ⟨?_, ?_, (obtainTimes_ok hqueuing).2, (obtainTimes_ok hsend).2,
      (obtainTimes_ok hreceive).2⟩
    · by_cases havailable : t.Available .application
      · exact Or.inl havailable
      · right
        have hrtt := hmissing havailable
        replace hcheck : t.sendTime .application + rttApplication =
          t.receiveTime .application := hcheck
        omega
    · intro type havailable
      cases type with
      | application => exact (happ havailable).1
      | receptionSW => exact ((t.getRTT_ok hsoft).2.1 havailable).1
      | receptionHW => exact ((t.getRTT_ok hhard).2.1 havailable).1
  · intro h
    obtain ⟨rttApplication, happ⟩ := getRTT_exists h .rttApplication .application
    obtain ⟨rttSoftware, hsoft⟩ := getRTT_exists h .rttSoftware .receptionSW
    obtain ⟨rttHardware, hhard⟩ := getRTT_exists h .rttHardware .receptionHW
    obtain ⟨delayAppSend, hsend⟩ : ∃ delay, t.getAppSendDelay = .ok delay :=
      obtainTimes_exists h.appSend
    obtain ⟨delayAppReceive, hreceive⟩ : ∃ delay, t.getAppReceiveDelay = .ok delay :=
      obtainTimes_exists h.appReceive
    obtain ⟨delayQueuing, hqueuing⟩ : ∃ delay, t.getQueuingDelay = .ok delay :=
      obtainTimes_exists h.queuing
    obtain ⟨r, hr⟩ : ∃ r : ResultsValues, r = ⟨((t.obtainSendReceiveTime .application).1 <<< 24) |||
        (t.obtainSchedulingSendTime.1 <<< 16) |||
        ((t.obtainSendReceiveTime .receptionSW).1 <<< 8) |||
        (t.obtainSendReceiveTime .receptionHW).1, rttApplication, rttSoftware, rttHardware,
        delayQueuing, delayAppSend, delayAppReceive⟩ := ⟨_, rfl⟩
    have hexact : r.Exact t := by
      subst hr
      exact ⟨(t.getRTT_ok happ).1, (t.getRTT_ok hsoft).1, (t.getRTT_ok hhard).1,
        (obtainTimes_ok hqueuing).1, (obtainTimes_ok hsend).1, (obtainTimes_ok hreceive).1⟩
    have hcheck : t.sendTime .application + r.rttApplication = t.receiveTime .application := by
      obtain ⟨-, hrtt, hmissing⟩ := t.getRTT_ok happ
      rw [hr]
      show t.sendTime .application + rttApplication = _
      rcases h.application with havailable | hback
      · have heq : rttApplication = t.receiveTime .application - t.sendTime .application :=
          (hrtt havailable).2
        omega
      · by_cases havailable : t.Available .application
        · have hle : t.sendTime .application ≤ t.receiveTime .application := havailable.le
          omega
        · have hone := hmissing havailable
          omega
    refine ⟨r, ?_, hexact⟩
    unfold obtainResultsValues
    rw [happ, hsoft, hhard, hsend, hreceive, hqueuing]
    have hverify := (verifyValues_iff hexact).mpr hcheck
    rw [hr] at hverify ⊢
    show (do t.verifyValues _; .ok _) = .ok _
    rw [hverify]
    rfl

/-! ## Entries -/

theorem of_initialise (timeStampSeqID : UInt32) (roundNumber : Nat) (seqNumber : UInt16)
    (hopNumber packetSize : Nat) (checksum sourcePort destinationPort : UInt16) (sendTime : Nat)
    (source : Net.Address) (destination : Net.DestinationInfo) (status : HopStatus) :
    of (ResultEntry.initialise timeStampSeqID roundNumber seqNumber hopNumber packetSize checksum
      sourcePort destinationPort sendTime source destination status) = initialise sendTime := by
  unfold of initialise ResultEntry.initialise ResultEntry.setSendTime
  congr 1
  ext t
  cases t <;> rfl

theorem of_setSendTime (e : ResultEntry) (type : TXTimeStampType) (timeSource : TimeSourceType)
    (time : Nat) : of (e.setSendTime type timeSource time) =
      (of e).setSendTime type timeSource time := by
  unfold of setSendTime ResultEntry.setSendTime
  congr 1
  ext t
  by_cases h : t = type
  · simp only [if_pos h]
  · simp only [if_neg h]

theorem of_setReceiveTime (e : ResultEntry) (type : RXTimeStampType) (timeSource : TimeSourceType)
    (time : Nat) : of (e.setReceiveTime type timeSource time) =
      (of e).setReceiveTime type timeSource time := by
  unfold of setReceiveTime ResultEntry.setReceiveTime
  congr 1
  ext t
  by_cases h : t = type
  · simp only [if_pos h]
  · simp only [if_neg h]

theorem of_expire (e : ResultEntry) (expiration : Nat) :
    of (e.expire expiration) = (of e).complete (.expired expiration) := by
  unfold ResultEntry.expire
  rw [of_setReceiveTime, Nat.cast_add, Nat.cast_mul]
  rfl

theorem of_failedToSend (e : ResultEntry) (errorCode : ErrorCode) :
    of (e.failedToSend errorCode) = (of e).complete .failedToSend := by
  unfold ResultEntry.failedToSend
  rw [of_setReceiveTime]
  rfl

/-- The times that `recordResult` sets. -/
theorem of_answered (io : IOModule) (d : IOModule.ReceivedData) (icmpType icmpCode : UInt8)
    (responseLength : Nat) (e : ResultEntry) :
    of (io.answered d icmpType icmpCode responseLength e) =
      (of e).complete (.recorded d.applicationReceiveTime d.receiveSWSource d.receiveSWTime
        d.receiveHWSource d.receiveHWTime) := by
  have hstatus : ∀ (e : ResultEntry) (status : HopStatus), of (e.setStatus status) = of e :=
    fun _ _ => rfl
  unfold IOModule.answered
  rw [hstatus, of_setReceiveTime, of_setReceiveTime, of_setReceiveTime]
  rfl

/-- The time stamps of an entry after `initialise` and the updates of its send times. -/
def sent (sendTime : Int) (updates : List (TXTimeStampType × TimeSourceType × Int)) : TimeStamps :=
  updates.foldl (fun t u => t.setSendTime u.1 u.2.1 u.2.2) (initialise sendTime)

/-- Those of a completed entry. -/
def produced (sendTime : Int) (updates : List (TXTimeStampType × TimeSourceType × Int))
    (completion : Completion) : Except Abort TimeStamps :=
  if completion.Fits (sent sendTime updates) then .ok ((sent sendTime updates).complete completion)
  else .error .expiration

section
variable (sendTime : Int) (updates : List (TXTimeStampType × TimeSourceType × Int))
  (completion : Completion)

theorem exists_produced {P : TimeStamps → Prop} :
    (∃ t, produced sendTime updates completion = .ok t ∧ P t) ↔
      completion.Fits (sent sendTime updates) ∧ P ((sent sendTime updates).complete completion) := by
  unfold produced
  by_cases hfits : completion.Fits (sent sendTime updates)
  · rw [if_pos hfits, and_iff_right hfits]
    constructor
    · rintro ⟨t, ht, hP⟩
      cases ht
      exact hP
    · exact fun hP => ⟨_, rfl, hP⟩
  · rw [if_neg hfits]
    refine iff_of_false ?_ fun h => hfits h.1
    rintro ⟨t, ht, -⟩
    cases ht

/-- **Evaluation of the results**: nothing aborts, and the values are exact, exactly if the time of
an expiration fits, and the time stamps can be evaluated. -/
theorem evaluated_iff : (∃ t, produced sendTime updates completion = .ok t ∧ t.Evaluated) ↔
    completion.Fits (sent sendTime updates) ∧
      ((sent sendTime updates).complete completion).Evaluable := by
  rw [exists_produced, evaluated_iff_evaluable]

end

/-- The clock is set back by a second between sending and receiving. -/
theorem clock_set_back :
    (produced 5000000000 [] (.recorded 4000000000 .unknown 0 .unknown 0) >>= obtainResultsValues) =
        .error (.check .rttApplication) ∧
      ¬ ∃ t, produced 5000000000 [] (.recorded 4000000000 .unknown 0 .unknown 0) = .ok t ∧
        t.Evaluated := by
  have habort : (produced 5000000000 [] (.recorded 4000000000 .unknown 0 .unknown 0) >>=
      obtainResultsValues) = .error (.check .rttApplication) := by decide +kernel
  refine ⟨habort, ?_⟩
  rintro ⟨t, ht, r, hr, -⟩
  rw [ht] at habort
  replace habort : t.obtainResultsValues = .error (.check .rttApplication) := habort
  rw [hr] at habort
  cases habort

/-! ## Time stamps of a running service -/

/-- Every time stamp with a source is a time after the epoch. -/
structure AllSet (t : TimeStamps) : Prop where
  send : ∀ x, t.sendTimeSource x ≠ .unknown → 0 < t.sendTime x ∧ t.sendTime x < 2 ^ 63
  receive : ∀ x, t.receiveTimeSource x ≠ .unknown → 0 < t.receiveTime x ∧ t.receiveTime x < 2 ^ 63

theorem fits_of_pos {first second : Int} (hfirst : 0 < first ∧ first < 2 ^ 63)
    (hsecond : 0 < second ∧ second < 2 ^ 63) : Fits first second := by
  refine ⟨by omega, by omega, by omega⟩

/-- With set time stamps, only the RTT of the application can fail. -/
theorem AllSet.evaluable_iff {t : TimeStamps} (h : t.AllSet)
    (hsend : t.sendTimeSource .application = .sysClock)
    (hreceive : t.receiveTimeSource .application = .sysClock) :
    t.Evaluable ↔ t.sendTime .application ≤ t.receiveTime .application + 1 := by
  have hs := h.send .application (by rw [hsend]; decide)
  have hr := h.receive .application (by rw [hreceive]; decide)
  constructor
  · intro hevaluable
    rcases hevaluable.application with havailable | hback
    · have hle : t.sendTime .application ≤ t.receiveTime .application := havailable.le
      omega
    · omega
  · intro hle
    refine ⟨?_, ?_, fun hq => ?_, fun hq => ?_, fun hq => ?_⟩
    · by_cases hback : t.receiveTime .application = t.sendTime .application - 1
      · exact Or.inr hback
      · left
        refine ⟨by rw [hreceive]; decide, ?_, ?_, by omega, ?_, ?_⟩
        · show t.sendTimeSource .application ≠ .unknown
          rw [hsend]
          decide
        · show _ ↔ t.sendTimeSource .application = .timestampingHW
          rw [hreceive, hsend]
        · show t.sendTime .application ≠ 0
          omega
        · show t.sendTime .application ≤ _
          omega
    · intro type havailable
      have h1 := h.receive type havailable.received
      have h2 := h.send type.toTX havailable.sent
      omega
    · exact fits_of_pos (h.send _ hq.1) (h.send _ hq.2.1)
    · exact fits_of_pos hs (h.send _ (by rw [hq.2]; decide))
    · exact fits_of_pos (h.receive _ (by rw [hq.1]; decide)) hr

theorem AllSet.setReceiveTime {t : TimeStamps} (h : t.AllSet) (type : RXTimeStampType)
    (timeSource : TimeSourceType) {time : Int}
    (htime : timeSource ≠ .unknown → 0 < time ∧ time < 2 ^ 63) :
    (t.setReceiveTime type timeSource time).AllSet := by
  refine ⟨h.send, fun x hx => ?_⟩
  unfold TimeStamps.setReceiveTime at hx ⊢
  simp only at hx ⊢
  split at hx
  · next heq =>
    rw [if_pos heq]
    exact htime hx
  · next hne =>
    rw [if_neg hne]
    exact h.receive x hx

/-- Updates by the kernel, whose types are not that of the application. -/
def Reported (updates : List (TXTimeStampType × TimeSourceType × Int)) : Prop :=
  ∀ u ∈ updates, u.1 ≠ .application ∧ 0 < u.2.2 ∧ u.2.2 < 2 ^ 63

/-- Times of a completion after the epoch. -/
def Completion.Reported (sendTime : Int) : Completion → Prop
  | .recorded time swSource swTime hwSource hwTime => (0 < time ∧ time < 2 ^ 63) ∧
      (swSource ≠ .unknown → 0 < swTime ∧ swTime < 2 ^ 63) ∧
      (hwSource ≠ .unknown → 0 < hwTime ∧ hwTime < 2 ^ 63)
  | .expired expiration => sendTime + expiration * 1000000 < 2 ^ 63
  | .failedToSend => True

/-- The response has been received at the time of sending, or later; a nanosecond earlier gives the
value for an RTT that is not available. -/
def Completion.InTime (sendTime : Int) : Completion → Prop
  | .recorded time _ _ _ _ => sendTime ≤ time + 1
  | _ => True

theorem updates_allSet {updates : List (TXTimeStampType × TimeSourceType × Int)}
    (hupdates : Reported updates) {t : TimeStamps} (h : t.AllSet)
    (hsource : t.sendTimeSource .application = .sysClock) :
    let u := updates.foldl (fun t u => t.setSendTime u.1 u.2.1 u.2.2) t
    u.AllSet ∧ u.sendTimeSource .application = .sysClock ∧
      u.sendTime .application = t.sendTime .application := by
  induction updates generalizing t with
  | nil => exact ⟨h, hsource, rfl⟩
  | cons u updates ih =>
    obtain ⟨hne, htime⟩ := hupdates u List.mem_cons_self
    have hnext : (t.setSendTime u.1 u.2.1 u.2.2).AllSet := by
      refine ⟨fun x hx => ?_, h.receive⟩
      unfold setSendTime at hx ⊢
      simp only at hx ⊢
      split at hx
      · next heq =>
        rw [if_pos heq]
        exact htime
      · next hother =>
        rw [if_neg hother]
        exact h.send x hx
    have hkept : (t.setSendTime u.1 u.2.1 u.2.2).sendTimeSource .application = .sysClock := by
      unfold setSendTime
      simp only
      rw [if_neg (Ne.symm hne), hsource]
    obtain ⟨hset, happ, htimeApp⟩ :=
      ih (fun v hv => hupdates v (List.mem_cons_of_mem u hv)) hnext hkept
    refine ⟨hset, happ, htimeApp.trans ?_⟩
    unfold setSendTime
    simp only
    rw [if_neg (Ne.symm hne)]

/-- **Results of a running service**: evaluation fails exactly if the clock of the host has been set
back, so that the response is received before the request is sent. -/
theorem service_evaluated_iff {sendTime : Int}
    {updates : List (TXTimeStampType × TimeSourceType × Int)} {completion : Completion}
    (hsend : 0 < sendTime ∧ sendTime < 2 ^ 63) (hupdates : Reported updates)
    (hcompletion : completion.Reported sendTime) :
    (∃ t, produced sendTime updates completion = .ok t ∧ t.Evaluated) ↔
      completion.InTime sendTime := by
  have hinit : (initialise sendTime).AllSet := by
    refine ⟨fun x hx => ?_, fun x hx => absurd rfl hx⟩
    cases x with
    | application => exact hsend
    | transmissionSW => exact hsend
    | transmissionHW => exact absurd rfl hx
    | schedulerSW => exact absurd rfl hx
  obtain ⟨hset, hsource, htime⟩ := updates_allSet hupdates hinit rfl
  rw [exists_produced, evaluated_iff_evaluable]
  change (sent sendTime updates).AllSet at hset
  change (sent sendTime updates).sendTimeSource .application = .sysClock at hsource
  change (sent sendTime updates).sendTime .application = sendTime at htime
  generalize sent sendTime updates = t at hset hsource htime ⊢
  cases completion with
  | recorded time swSource swTime hwSource hwTime =>
    obtain ⟨happ, hsw, hhw⟩ := hcompletion
    have hall := ((hset.setReceiveTime .application .sysClock fun _ => happ).setReceiveTime
      .receptionSW swSource hsw).setReceiveTime .receptionHW hwSource hhw
    refine (and_iff_right trivial).trans ((hall.evaluable_iff hsource rfl).trans ?_)
    show t.sendTime .application ≤ time + 1 ↔ sendTime ≤ time + 1
    rw [htime]
  | expired expiration =>
    have hexpired : 0 < t.sendTime .application + (expiration : Int) * 1000000 ∧
        t.sendTime .application + (expiration : Int) * 1000000 < 2 ^ 63 := by
      rw [htime]
      exact ⟨by omega, hcompletion⟩
    have hall := hset.setReceiveTime .application .sysClock fun _ => hexpired
    refine (and_iff_right hexpired.2).trans
      ((hall.evaluable_iff hsource rfl).trans (iff_of_true ?_ trivial))
    show t.sendTime .application ≤ t.sendTime .application + expiration * 1000000 + 1
    omega
  | failedToSend =>
    have hall := hset.setReceiveTime .application .sysClock fun _ => htime ▸ hsend
    refine (and_iff_right trivial).trans
      ((hall.evaluable_iff hsource rfl).trans (iff_of_true ?_ trivial))
    show t.sendTime .application ≤ t.sendTime .application + 1
    omega

end TimeStamps

end HiPerConTracer.Service
