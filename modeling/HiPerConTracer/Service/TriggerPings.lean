import HiPerConTracer.Net.Sources
import Mathlib.Data.Finset.Sort

/-!
# Counting of trigger Pings (`hpct-trigger.cc`)

The first Ping of a source makes an entry with the counter 1, but only a Ping that finds an entry is
compared with `TriggerPingsBeforeQueuing`.  The Ping with that number queues the destination

    Counts p setup history ping ↔
      p.triggerPingsBeforeQueuing ≠ 1 ∨ (there was a Ping of the source before) ∨
        (there is nothing to be queued)                                             (counts_iff)
-/

namespace HiPerConTracer.Service.TriggerPings
open Net

/-! ## Handlers -/

/-- The options, as `main` passes them on. -/
structure Parameters where
  triggerPingsBeforeQueuing : UInt32
  triggerPingPacketSize : UInt32
  triggerPingAge : UInt32
  one_le_pings : 1 ≤ triggerPingsBeforeQueuing
  one_le_age : 1 ≤ triggerPingAge

theorem one_le_max (x : UInt32) : 1 ≤ max 1 x := by
  show 1 ≤ if 1 ≤ x then x else 1
  split
  · assumption
  · exact UInt32.le_refl 1

/-- The ranges of the options in `main`. -/
def Parameters.ofOptions (triggerPingAge triggerPingsBeforeQueuing triggerPingPacketSize : UInt32) :
    Parameters where
  triggerPingsBeforeQueuing := max 1 triggerPingsBeforeQueuing
  triggerPingPacketSize := min (max 64 triggerPingPacketSize) 65535
  triggerPingAge := max 1 triggerPingAge
  one_le_pings := one_le_max _
  one_le_age := one_le_max _

/-- `TargetInfo`, with the time in nanoseconds. -/
structure TargetInfo where
  triggerCounter : UInt32
  lastSeen : Nat
deriving DecidableEq, Repr

abbrev TargetMap := Address → Option TargetInfo

/-- A service of `ServiceSet`. -/
structure QueuingService where
  number : Nat
  source : Address
deriving DecidableEq, Repr

/-- A call of `addDestination`. -/
structure Call where
  service : QueuingService
  destination : DestinationInfo
deriving DecidableEq

/-- The services, all of which have their source in `SourceArray`. -/
structure Setup where
  services : List QueuingService
  sourceArray : SourceMap
  found : ∀ service ∈ services, (sourceArray service.source).isSome = true

/-- The loops over the services and the traffic classes of their sources. -/
def Setup.calls (setup : Setup) (source : Address) : List Call :=
  setup.services.flatMap fun service =>
    (((setup.sourceArray service.source).getD ∅).sort (· ≤ ·)).map fun trafficClass =>
      ⟨service, ⟨source, trafficClass⟩⟩

/-- A Ping that has been sniffed, with the answers of the services, or a run of the clean-up timer. -/
inductive Event where
  | ping (source : Address) (totalLength now : Nat) (addDestination : Call → Bool)
  | cleanup (joinable : QueuingService → Bool) (now : Nat)

namespace Event

def now : Event → Nat
  | ping _ _ now _ => now
  | cleanup _ now => now

def addDestination : Event → Call → Bool
  | ping _ _ _ addDestination => addDestination
  | cleanup _ _ => fun _ => false

end Event

variable (p : Parameters) (setup : Setup)

/-- `handlePing` -/
def handlePing (targetMap : TargetMap) (source : Address) (totalLength now : Nat)
    (addDestination : Call → Bool) : TargetMap × List Call :=
  if totalLength = p.triggerPingPacketSize.toNat then
    match targetMap source with
    | some targetInfo =>
      let triggerCounter := targetInfo.triggerCounter + 1
      if triggerCounter ≥ p.triggerPingsBeforeQueuing then
        let triggerCounter := (setup.calls source).foldl
          (fun triggerCounter call => if addDestination call then 0 else triggerCounter) triggerCounter
        (Function.update targetMap source (some ⟨triggerCounter, now⟩), setup.calls source)
      else (Function.update targetMap source (some ⟨triggerCounter, now⟩), [])
    | none => (Function.update targetMap source (some ⟨1, now⟩), [])
  else (targetMap, [])

/-- The nanoseconds of `TriggerPingAge`. -/
def Parameters.age (p : Parameters) : Nat := p.triggerPingAge.toNat * 1000000000

/-- `tryCleanup` -/
def tryCleanup (targetMap : TargetMap) (joinable : QueuingService → Bool) (now : Nat) : TargetMap :=
  if setup.services.all joinable then targetMap
  else fun address => (targetMap address).filter fun targetInfo => ¬targetInfo.lastSeen + p.age ≤ now

def step (targetMap : TargetMap) : Event → TargetMap × List Call
  | .ping source totalLength now addDestination =>
    handlePing p setup targetMap source totalLength now addDestination
  | .cleanup joinable now => (tryCleanup p setup targetMap joinable now, [])

/-- The entries after the events, the last one of which comes first. -/
def targets : List Event → TargetMap
  | [] => fun _ => none
  | event :: history => (step p setup (targets history) event).1

/-- The calls at the event, after the events of the history. -/
def callsAt (history : List Event) (event : Event) : List Call :=
  (step p setup (targets p setup history) event).2

/-! ## Counting -/

/-- A Ping of the trigger size from the source. -/
def Event.isTrigger (p : Parameters) (source : Address) : Event → Bool
  | .ping source' totalLength _ _ => source' = source ∧ totalLength = p.triggerPingPacketSize.toNat
  | .cleanup _ _ => false

/-- When the last trigger Ping of the source came. -/
def lastPing (source : Address) (history : List Event) : Option Nat :=
  (history.find? (Event.isTrigger p source)).map Event.now

/-- The trigger Pings of the source since its first one, or since the last one with a destination that was
accepted. -/
def pingsSince (source : Address) : List Event → Nat
  | [] => 0
  | event :: history =>
    if event.isTrigger p source then
      if (callsAt p setup history event).any event.addDestination then 0
      else pingsSince source history + 1
    else pingsSince source history

/-- The clock is steady, and less than the age goes by between two trigger Pings of a source. -/
def WellTimed : List Event → Prop
  | [] => True
  | event :: history =>
    WellTimed history ∧ (∀ earlier ∈ history, earlier.now ≤ event.now) ∧
      ∀ source, event.isTrigger p source = true →
        ∀ time, lastPing p source history = some time → event.now < time + p.age

/-- The services have to queue the source for each traffic class. -/
def Required (source : Address) (call : Call) : Prop :=
  call.service ∈ setup.services ∧ call.destination.address = source ∧
    ∃ classes, setup.sourceArray call.service.source = some classes ∧
      call.destination.trafficClass ∈ classes

/-- The Ping with the number of `TriggerPingsBeforeQueuing` queues the source, and none before it. -/
structure Counts (source : Address) (history : List Event) (ping : Event) : Prop where
  before : pingsSince p setup source history + 1 < p.triggerPingsBeforeQueuing.toNat →
    callsAt p setup history ping = []
  queued : pingsSince p setup source history + 1 = p.triggerPingsBeforeQueuing.toNat →
    ∀ call, call ∈ callsAt p setup history ping ↔ Required setup source call

/-! ## Entries -/

section
variable {p : Parameters} {setup : Setup} {source : Address} {history : List Event}

theorem mem_calls {call : Call} : call ∈ setup.calls source ↔ Required setup source call := by
  unfold Setup.calls Required
  simp only [List.mem_flatMap, List.mem_map, Finset.mem_sort]
  constructor
  · rintro ⟨service, hservice, c, hc, rfl⟩
    refine ⟨hservice, rfl, ?_⟩
    obtain ⟨classes, hclasses⟩ := Option.isSome_iff_exists.mp (setup.found service hservice)
    rw [hclasses] at hc
    exact ⟨classes, hclasses, hc⟩
  · rintro ⟨hservice, hsource, classes, hclasses, hc⟩
    refine ⟨call.service, hservice, call.destination.trafficClass, ?_, ?_⟩
    · rw [hclasses]
      exact hc
    · rw [← hsource]

/-- The counter is reset if a destination has been accepted. -/
theorem foldl_reset (addDestination : Call → Bool) (calls : List Call) (counter : UInt32) :
    calls.foldl (fun counter call => if addDestination call then 0 else counter) counter =
      if calls.any addDestination then 0 else counter := by
  induction calls generalizing counter with
  | nil => rfl
  | cons call calls ih =>
    rw [List.foldl_cons, ih, List.any_cons]
    cases addDestination call <;> simp

/-- The calls for a source with an entry. -/
def callsFor (p : Parameters) (setup : Setup) (source : Address) (info : TargetInfo) : List Call :=
  if info.triggerCounter + 1 ≥ p.triggerPingsBeforeQueuing then setup.calls source else []

/-- What a trigger Ping does for a source with an entry. -/
theorem handlePing_known {targetMap : TargetMap} {info : TargetInfo} {totalLength now : Nat}
    {addDestination : Call → Bool} (hinfo : targetMap source = some info)
    (hlength : totalLength = p.triggerPingPacketSize.toNat) :
    handlePing p setup targetMap source totalLength now addDestination =
      (Function.update targetMap source
        (some ⟨if (callsFor p setup source info).any addDestination then 0
          else info.triggerCounter + 1, now⟩), callsFor p setup source info) := by
  unfold handlePing callsFor
  rw [if_pos hlength, hinfo]
  dsimp only
  by_cases hcounter : info.triggerCounter + 1 ≥ p.triggerPingsBeforeQueuing
  · rw [if_pos hcounter, if_pos hcounter, foldl_reset]
  · rw [if_neg hcounter, if_neg hcounter]
    rfl

/-- What a trigger Ping does for a source without entry. -/
theorem handlePing_new {targetMap : TargetMap} {totalLength now : Nat} {addDestination : Call → Bool}
    (hnone : targetMap source = none) (hlength : totalLength = p.triggerPingPacketSize.toNat) :
    handlePing p setup targetMap source totalLength now addDestination =
      (Function.update targetMap source (some ⟨1, now⟩), []) := by
  unfold handlePing
  rw [if_pos hlength, hnone]

/-- Other Pings leave the entry of a source as it is. -/
theorem handlePing_other {targetMap : TargetMap} {source' : Address} {totalLength now : Nat}
    {addDestination : Call → Bool}
    (h : ¬(source' = source ∧ totalLength = p.triggerPingPacketSize.toNat)) :
    (handlePing p setup targetMap source' totalLength now addDestination).1 source =
      targetMap source := by
  by_cases hlength : totalLength = p.triggerPingPacketSize.toNat
  · have hne : source ≠ source' := fun heq => h ⟨heq.symm, hlength⟩
    cases htarget : targetMap source' with
    | none =>
      rw [handlePing_new htarget hlength]
      exact Function.update_of_ne hne _ _
    | some info =>
      rw [handlePing_known htarget hlength]
      exact Function.update_of_ne hne _ _
  · unfold handlePing
    rw [if_neg hlength]

/-- The clean-up keeps an entry that is not too old. -/
theorem tryCleanup_apply {targetMap : TargetMap} {joinable : QueuingService → Bool} {now : Nat}
    (h : ∀ info, targetMap source = some info → now < info.lastSeen + p.age) :
    tryCleanup p setup targetMap joinable now source = targetMap source := by
  unfold tryCleanup
  split
  · rfl
  · cases hinfo : targetMap source with
    | none => simp only [hinfo, Option.filter_none]
    | some info =>
      have hage := h info hinfo
      simp only [hinfo]
      rw [Option.filter_some, if_pos (decide_eq_true (by omega))]

/-! ## Counters -/

theorem lastPing_of_trigger {event : Event} (h : event.isTrigger p source = true) :
    lastPing p source (event :: history) = some event.now := by
  unfold lastPing
  rw [List.find?_cons_of_pos h, Option.map_some]

theorem lastPing_of_not_trigger {event : Event} (h : ¬event.isTrigger p source = true) :
    lastPing p source (event :: history) = lastPing p source history := by
  unfold lastPing
  rw [List.find?_cons_of_neg h]

theorem pingsSince_of_not_trigger {event : Event} (h : ¬event.isTrigger p source = true) :
    pingsSince p setup source (event :: history) = pingsSince p setup source history := by
  rw [pingsSince, if_neg h]

theorem pingsSince_of_lastPing_none (h : lastPing p source history = none) :
    pingsSince p setup source history = 0 := by
  induction history with
  | nil => rfl
  | cons event history ih =>
    by_cases htrigger : event.isTrigger p source = true
    · rw [lastPing_of_trigger htrigger] at h
      cases h
    · rw [lastPing_of_not_trigger htrigger] at h
      rw [pingsSince_of_not_trigger htrigger, ih h]

/-- The entry of a source: its counter counts its Pings, unless the clean-up has found it too old. -/
def Tracks (p : Parameters) (setup : Setup) (source : Address) (history : List Event) : Prop :=
  match lastPing p source history with
  | none => targets p setup history source = none
  | some time =>
    targets p setup history source =
        some ⟨UInt32.ofNat (pingsSince p setup source history), time⟩ ∨
      ∃ event ∈ history, time + p.age ≤ event.now

theorem tracks_of_none (h : lastPing p source history = none) :
    Tracks p setup source history ↔ targets p setup history source = none := by
  unfold Tracks
  rw [h]

theorem tracks_of_some {time : Nat} (h : lastPing p source history = some time) :
    Tracks p setup source history ↔
      (targets p setup history source =
          some ⟨UInt32.ofNat (pingsSince p setup source history), time⟩ ∨
        ∃ event ∈ history, time + p.age ≤ event.now) := by
  unfold Tracks
  rw [h]

/-- The next trigger Ping of a source still finds its entry. -/
theorem Tracks.entry {event : Event} {time : Nat} (h : Tracks p setup source history)
    (htimed : WellTimed p (event :: history)) (htrigger : event.isTrigger p source = true)
    (hlast : lastPing p source history = some time) :
    targets p setup history source =
      some ⟨UInt32.ofNat (pingsSince p setup source history), time⟩ := by
  rcases (tracks_of_some hlast).mp h with hentry | ⟨earlier, hmem, hold⟩
  · exact hentry
  · have horder := htimed.2.1 earlier hmem
    have hgap := htimed.2.2 source htrigger time hlast
    omega

/-- A trigger Ping of the source. -/
theorem Tracks.ping {totalLength now : Nat} {addDestination : Call → Bool}
    (h : Tracks p setup source history)
    (htimed : WellTimed p (.ping source totalLength now addDestination :: history))
    (hlength : totalLength = p.triggerPingPacketSize.toNat) :
    Tracks p setup source (.ping source totalLength now addDestination :: history) := by
  have htrigger : (Event.ping source totalLength now addDestination).isTrigger p source = true :=
    decide_eq_true ⟨rfl, hlength⟩
  rw [tracks_of_some (lastPing_of_trigger htrigger), pingsSince, if_pos htrigger]
  left
  show (handlePing p setup (targets p setup history) source totalLength now addDestination).1 source =
    some ⟨UInt32.ofNat (if (handlePing p setup (targets p setup history) source totalLength now
      addDestination).2.any addDestination then 0 else pingsSince p setup source history + 1), now⟩
  cases hlast : lastPing p source history with
  | none =>
    rw [handlePing_new ((tracks_of_none hlast).mp h) hlength, pingsSince_of_lastPing_none hlast]
    exact Function.update_self _ _ _
  | some time =>
    rw [handlePing_known (h.entry htimed htrigger hlast) hlength]
    dsimp only
    rw [Function.update_self]
    split
    · rfl
    · rw [UInt32.ofNat_add]
      rfl

/-- Any other event. -/
theorem Tracks.other {event : Event} (h : Tracks p setup source history)
    (htrigger : ¬event.isTrigger p source = true) : Tracks p setup source (event :: history) := by
  have hkept : targets p setup (event :: history) source = targets p setup history source ∨
      ∃ info, targets p setup history source = some info ∧ info.lastSeen + p.age ≤ event.now := by
    cases event with
    | ping source' totalLength now addDestination =>
      left
      exact handlePing_other fun hand => htrigger (decide_eq_true hand)
    | cleanup joinable now =>
      by_cases hold : ∃ info, targets p setup history source = some info ∧ info.lastSeen + p.age ≤ now
      · exact Or.inr hold
      · left
        refine tryCleanup_apply fun info hinfo => ?_
        by_contra hage
        exact hold ⟨info, hinfo, by omega⟩
  cases hlast : lastPing p source history with
  | none =>
    have hnone := (tracks_of_none hlast).mp h
    rw [tracks_of_none (by rw [lastPing_of_not_trigger htrigger, hlast])]
    rcases hkept with hkept | ⟨info, hinfo, -⟩
    · rw [hkept, hnone]
    · rw [hnone] at hinfo
      cases hinfo
  | some time =>
    rw [tracks_of_some (by rw [lastPing_of_not_trigger htrigger, hlast]),
      pingsSince_of_not_trigger htrigger]
    rcases (tracks_of_some hlast).mp h with hentry | ⟨earlier, hmem, hold⟩
    · rcases hkept with hkept | ⟨info, hinfo, hold⟩
      · exact Or.inl (hkept.trans hentry)
      · rw [hentry] at hinfo
        cases hinfo
        exact Or.inr ⟨event, List.mem_cons_self, hold⟩
    · exact Or.inr ⟨earlier, List.mem_cons_of_mem _ hmem, hold⟩

/-- A step of the events. -/
theorem Tracks.cons {event : Event} (h : Tracks p setup source history)
    (htimed : WellTimed p (event :: history)) : Tracks p setup source (event :: history) := by
  by_cases htrigger : event.isTrigger p source = true
  · cases event with
    | cleanup joinable now => cases htrigger
    | ping source' totalLength now addDestination =>
      obtain ⟨rfl, hlength⟩ := of_decide_eq_true htrigger
      exact h.ping htimed hlength
  · exact h.other htrigger

theorem tracks (source : Address) (htimed : WellTimed p history) : Tracks p setup source history := by
  induction history with
  | nil => rfl
  | cons event history ih => exact (ih htimed.1).cons htimed

/-- The calls for a source whose entry counts its Pings. -/
theorem mem_callsFor {k time : Nat} {call : Call}
    (h : k + 1 = p.triggerPingsBeforeQueuing.toNat) :
    call ∈ callsFor p setup source ⟨UInt32.ofNat k, time⟩ ↔ Required setup source call := by
  have hlt := p.triggerPingsBeforeQueuing.toNat_lt
  have hcounter : UInt32.ofNat k + 1 = p.triggerPingsBeforeQueuing := by
    rw [← UInt32.toNat_inj, ← h, show UInt32.ofNat k + 1 = UInt32.ofNat (k + 1) from
      (UInt32.ofNat_add _ _).symm]
    exact UInt32.toNat_ofNat_of_lt' (by rw [h]; exact hlt)
  unfold callsFor
  rw [if_pos (by rw [hcounter]; exact UInt32.le_refl _), mem_calls]

theorem callsFor_eq_nil {k time : Nat} (h : k + 1 < p.triggerPingsBeforeQueuing.toNat) :
    callsFor p setup source ⟨UInt32.ofNat k, time⟩ = [] := by
  have hlt := p.triggerPingsBeforeQueuing.toNat_lt
  have hcounter : (UInt32.ofNat k + 1).toNat = k + 1 := by
    rw [show UInt32.ofNat k + 1 = UInt32.ofNat (k + 1) from (UInt32.ofNat_add _ _).symm]
    exact UInt32.toNat_ofNat_of_lt' (lt_trans h hlt)
  unfold callsFor
  rw [if_neg]
  rw [ge_iff_le, UInt32.le_iff_toNat_le, hcounter]
  omega

/-- **Counting of Pings.**  The Ping with the number of `TriggerPingsBeforeQueuing` queues its source, unless it
is the first one. -/
theorem counts_iff (p : Parameters) (setup : Setup) (source : Address) (history : List Event)
    (ping : Event) (htimed : WellTimed p (ping :: history)) (hping : ping.isTrigger p source = true) :
    Counts p setup source history ping ↔
      p.triggerPingsBeforeQueuing ≠ 1 ∨ (∃ event ∈ history, event.isTrigger p source = true) ∨
        ∀ call, ¬Required setup source call := by
  have htracks : Tracks p setup source history := tracks source htimed.1
  have hseen : (∃ event ∈ history, event.isTrigger p source = true) ↔
      lastPing p source history ≠ none := by
    unfold lastPing
    simp
  rw [hseen]
  cases ping with
  | cleanup joinable now => cases hping
  | ping source' totalLength now addDestination =>
    obtain ⟨rfl, hlength⟩ := of_decide_eq_true hping
    cases hlast : lastPing p source' history with
    | none =>
      have hcalls : callsAt p setup history (.ping source' totalLength now addDestination) = [] := by
        show (handlePing p setup (targets p setup history) source' totalLength now addDestination).2 = []
        rw [handlePing_new ((tracks_of_none hlast).mp htracks) hlength]
      have hsince : pingsSince p setup source' history = 0 := pingsSince_of_lastPing_none hlast
      have hone : p.triggerPingsBeforeQueuing ≠ 1 ↔ ¬1 = p.triggerPingsBeforeQueuing.toNat := by
        rw [ne_eq, ← UInt32.toNat_inj]
        exact not_congr eq_comm
      constructor
      · intro h
        by_cases hp : 1 = p.triggerPingsBeforeQueuing.toNat
        · refine Or.inr (Or.inr fun call hcall => ?_)
          have hmem := (h.queued (by rw [hsince]; exact hp) call).mpr hcall
          rw [hcalls] at hmem
          cases hmem
        · exact Or.inl (hone.mpr hp)
      · intro h
        refine ⟨fun _ => hcalls, fun hp call => ?_⟩
        rw [hsince] at hp
        rcases h with h | h | h
        · exact absurd hp (hone.mp h)
        · exact absurd rfl h
        · rw [hcalls]
          exact iff_of_false List.not_mem_nil (h call)
    | some time =>
      have hcalls : callsAt p setup history (.ping source' totalLength now addDestination) =
          callsFor p setup source' ⟨UInt32.ofNat (pingsSince p setup source' history), time⟩ := by
        show (handlePing p setup (targets p setup history) source' totalLength now addDestination).2 = _
        rw [handlePing_known (htracks.entry htimed hping hlast) hlength]
      refine iff_of_true ⟨fun hp => ?_, fun hp call => ?_⟩ (Or.inr (Or.inl (Option.some_ne_none _)))
      · rw [hcalls, callsFor_eq_nil hp]
      · rw [hcalls, mem_callsFor hp]

/-- One service with the traffic class 0. -/
def singleSetup : Setup where
  services := [⟨0, .v4 0x0a010101⟩]
  sourceArray := fun address => if address = .v4 0x0a010101 then some {0} else none
  found := by decide

theorem counts_second :
    Counts ⟨2, 67, 300, by decide, by decide⟩ singleSetup (.v4 0x0a000001)
      [.cleanup (fun _ => false) 200000000000, .ping (.v4 0x0a000001) 67 1000000000 fun _ => true]
      (.ping (.v4 0x0a000001) 67 300000000000 fun _ => true) := by
  refine (counts_iff _ _ _ _ _ ?_ rfl).mpr (Or.inl (by decide))
  refine And.intro (And.intro (And.intro trivial ⟨?_, ?_⟩) ⟨?_, ?_⟩) ⟨?_, ?_⟩
  · simp
  · intro source _ time hlast
    cases hlast
  · simp [Event.now]
  · intro source htrigger
    cases htrigger
  · simp [Event.now]
  · intro source htrigger time hlast
    obtain ⟨rfl, -⟩ := of_decide_eq_true htrigger
    obtain rfl : 1000000000 = time := Option.some.inj hlast
    decide

/-- With `TriggerPingsBeforeQueuing` of 1, the first Ping queues nothing. -/
theorem counts_first :
    ¬Counts ⟨1, 67, 300, by decide, by decide⟩ singleSetup (.v4 0x0a000001) []
      (.ping (.v4 0x0a000001) 67 1000000000 fun _ => true) := by
  intro h
  have hqueued := h.queued rfl ⟨⟨0, .v4 0x0a010101⟩, ⟨.v4 0x0a000001, 0⟩⟩
  exact absurd (hqueued.mpr ⟨List.mem_cons_self, rfl, {0}, rfl, Finset.mem_singleton_self 0⟩)
    List.not_mem_nil

end

end HiPerConTracer.Service.TriggerPings
