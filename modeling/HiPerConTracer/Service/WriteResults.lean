import HiPerConTracer.Results.Conversions
import HiPerConTracer.Service.Jitter
import HiPerConTracer.Service.ProcessResults

/-!
# The lines that the services write (`ping.cc`, `traceroute.cc`, `jitter.cc`)

`writePingResultEntry`, `writeTracerouteResultEntry` and `writeJitterResultEntry` write the columns of
an entry, in the current format or in the old one.  The lines of a round begin with its header, which
has the values of the first entry:

    writeRound w trafficClass timeStamp r = .ok s → r.entries = e :: es →
      s.lines = roundHeaderText … e :: hops, with a hop for each entry          (writeRound_ok)
-/

namespace HiPerConTracer.Service
open Net
open Results (Text dec hex spaced)
open Results.Statement (decimal)

inductive OutputFormatVersion where
  | version1
  | version2
deriving DecidableEq, Repr

/-- What the lines depend on, besides the entries. -/
structure LineWriter where
  outputFormatVersion : OutputFormatVersion
  /-- `IOModule->getProtocolType()`. -/
  protocolType : Char
  measurementID : Nat
  /-- `to_string` of an address. -/
  addressText : Address → Text

namespace TimeStamps

/-- `obtainMostAccurateRTT`, with the byte of the sources. -/
def obtainMostAccurateRTT (t : TimeStamps) : Except Abort (Int × Nat) := do
  let rttHardware ← t.getRTT .rttHardware .receptionHW
  if rttHardware ≤ 0 then
    let rttSoftware ← t.getRTT .rttSoftware .receptionSW
    if rttSoftware ≤ 0 then
      let rttApplication ← t.getRTT .rttApplication .application
      return (rttApplication, (t.obtainSendReceiveTime .application).1)
    else return (rttSoftware, (t.obtainSendReceiveTime .receptionSW).1)
  else return (rttHardware, (t.obtainSendReceiveTime .receptionHW).1)

end TimeStamps

/-- `duration_cast` of nanoseconds to microseconds. -/
def microseconds (duration : Int) : Int := duration.tdiv 1000

/-- The columns with the time source, the delays and the RTTs. -/
def timingTexts (r : TimeStamps.ResultsValues) : List Text :=
  [Numeral.padded 16 8 r.timeSource,
    decimal r.delayAppSend,
    decimal r.delayQueuing,
    decimal r.delayAppReceive,
    decimal r.rttApplication,
    decimal r.rttSoftware,
    decimal r.rttHardware]

section
variable (w : LineWriter)

/-! ## Ping -/

/-- The columns in front of the time source. -/
def pingTexts (e : ResultEntry) : List Text :=
  [['#', 'P', w.protocolType],
    dec w.measurementID,
    w.addressText e.source,
    w.addressText e.destination.address,
    hex (e.sendTime .application),
    dec e.roundNumber,
    hex e.destination.trafficClass.toNat,
    dec e.packetSize,
    dec e.responseSize,
    hex e.checksum.toNat,
    dec e.sourcePort.toNat,
    dec e.destinationPort.toNat,
    dec e.status.code]

/-- The columns of the old format. -/
def oldPingTexts (e : ResultEntry) (rtt : Int) (timeSource : Nat) : List Text :=
  [['#', 'P'],
    w.addressText e.source,
    w.addressText e.destination.address,
    hex (e.sendTime .application / 1000),
    hex e.checksum.toNat,
    dec e.status.code,
    decimal (microseconds rtt),
    hex e.destination.trafficClass.toNat,
    dec e.packetSize,
    Numeral.padded 16 2 timeSource]

/-- The line of an entry; the old format has no indentation. -/
def writePingResultEntry (indentation : Text) (e : ResultEntry) : Except Abort Text :=
  match w.outputFormatVersion with
  | .version2 => do
    let r ← (TimeStamps.of e).obtainResultsValues
    return indentation ++ spaced (pingTexts w e ++ timingTexts r)
  | .version1 => do
    let (rtt, timeSource) ← (TimeStamps.of e).obtainMostAccurateRTT
    return spaced (oldPingTexts w e rtt timeSource)

/-! ## Traceroute -/

inductive WriteFailure where
  | times (abort : Abort)
  /-- `resultEntry->checksum() == checksumCheck` -/
  | checksumCheck
deriving DecidableEq, Repr

/-- The columns of the header of a round, from its first entry. -/
def headerTexts (trafficClass : UInt8) (r : Round) (timeStamp : Nat) (e : ResultEntry) : List Text :=
  [['#', 'T', w.protocolType],
    dec w.measurementID,
    w.addressText e.source,
    w.addressText e.destination.address,
    hex timeStamp,
    dec e.roundNumber,
    dec r.totalHops,
    hex trafficClass.toNat,
    dec e.packetSize,
    hex e.checksum.toNat,
    dec e.sourcePort.toNat,
    dec e.destinationPort.toNat,
    hex r.statusFlags,
    -- as `int64_t`, with the same hexadecimal digits
    hex r.pathHash.toNat]

def oldHeaderTexts (trafficClass : UInt8) (r : Round) (timeStamp : Nat) (e : ResultEntry) :
    List Text :=
  [['#', 'T'],
    w.addressText e.source,
    w.addressText e.destination.address,
    hex (timeStamp / 1000),
    dec e.roundNumber,
    hex e.checksum.toNat,
    dec r.totalHops,
    hex r.statusFlags,
    hex r.pathHash.toNat,
    hex trafficClass.toNat,
    dec e.packetSize]

def roundHeaderText (trafficClass : UInt8) (r : Round) (timeStamp : Nat) (e : ResultEntry) : Text :=
  match w.outputFormatVersion with
  | .version2 => spaced (headerTexts w trafficClass r timeStamp e)
  | .version1 => spaced (oldHeaderTexts w trafficClass r timeStamp e)

/-- The columns of a hop in front of the time source; the first one begins with a tabulator. -/
def hopTexts (e : ResultEntry) : List Text :=
  ['\t' :: hex (e.sendTime .application),
    dec e.hopNumber,
    dec e.responseSize,
    dec e.status.code]

def oldHopTexts (e : ResultEntry) (rtt : Int) (timeSource : Nat) : List Text :=
  ['\t' :: dec e.hopNumber,
    hex e.status.code,
    decimal (microseconds rtt),
    w.addressText e.hop,
    Numeral.padded 16 2 timeSource]

def roundHopText (e : ResultEntry) : Except Abort Text :=
  match w.outputFormatVersion with
  | .version2 => do
    let r ← (TimeStamps.of e).obtainResultsValues
    return spaced (hopTexts e ++ timingTexts r ++ [w.addressText e.hop])
  | .version1 => do
    let (rtt, timeSource) ← (TimeStamps.of e).obtainMostAccurateRTT
    return spaced (oldHopTexts w e rtt timeSource)

/-- The variables of `processResults` that `writeTracerouteResultEntry` sets, and the lines. -/
structure RoundLines where
  timeStamp : Nat
  writeHeader : Bool
  checksumCheck : UInt16
  lines : List Text
deriving DecidableEq, Repr

def writeTracerouteResultEntry (trafficClass : UInt8) (r : Round) (s : RoundLines)
    (e : ResultEntry) : Except WriteFailure RoundLines :=
  -- the time stamp of the first entry is that of all rounds of a run
  let timeStamp := if s.timeStamp = 0 then e.sendTime .application else s.timeStamp
  let header := if s.writeHeader then [roundHeaderText w trafficClass r timeStamp e] else []
  let checksumCheck := if s.writeHeader then e.checksum else s.checksumCheck
  match roundHopText w e with
  | .error abort => .error (.times abort)
  | .ok hop =>
    if e.checksum ≠ checksumCheck then .error .checksumCheck
    else .ok ⟨timeStamp, false, checksumCheck, s.lines ++ header ++ [hop]⟩

/-- The lines of a round, and the time stamp for the next round. -/
def writeRound (trafficClass : UInt8) (timeStamp : Nat) (r : Round) :
    Except WriteFailure RoundLines :=
  Run.exec (writeTracerouteResultEntry w trafficClass r) ⟨timeStamp, true, 0, []⟩ r.entries

/-- The lines of the rounds of a run, in the loop of `processResults`. -/
def writeRounds (trafficClass : UInt8) : Nat → List Round → Except WriteFailure (List Text)
  | _, [] => .ok []
  | timeStamp, r :: rs => do
    let s ← writeRound w trafficClass timeStamp r
    let lines ← writeRounds trafficClass s.timeStamp rs
    return s.lines ++ lines

/-! ## Jitter -/

namespace Jitter

/-- `rint`: the next integer, or the even one of two. -/
def rint (q : ℚ) : Nat :=
  let n := q.floor.toNat
  if q - n < 1 / 2 ∨ q - n = 1 / 2 ∧ n % 2 = 0 then n else n + 1

/-- The columns of a value: packets, mean latency and jitter. -/
def jitterTexts (j : JitterRFC3550) : List Text :=
  [dec j.packets.toNat,
    dec (if j.packets > 0 then (j.latencySum / j.packets.toNat).floor.toNat else 0),
    dec (rint j.jitter)]

/-- The values in the order of the columns. -/
def writtenValues : List Value :=
  [.delayAppSend, .delayQueuing, .delayAppReceive, .rttApplication, .rttSoftware, .rttHardware]

/-- The line of a block of entries; there is one format only. -/
def writeJitterResultEntry (x : Written) : Text :=
  let e := x.referenceEntry.entry
  spaced ([['#', 'J', w.protocolType],
    dec w.measurementID,
    w.addressText e.source,
    w.addressText e.destination.address,
    hex (e.sendTime .application),
    dec e.roundNumber,
    hex e.destination.trafficClass.toNat,
    dec e.packetSize,
    hex e.checksum.toNat,
    dec e.sourcePort.toNat,
    dec e.destinationPort.toNat,
    dec e.status.code,
    Numeral.padded 16 8 x.timeSource,
    -- the jitter type
    dec 0] ++ writtenValues.flatMap fun value => jitterTexts (x.jitters value))

/-- The lines of `computeJitter`; the raw results are indented. -/
def jitterLines (recordRawResults : Bool) (entries : List ResultEntry) :
    Except Failure (List Text) := do
  match ← computeJitter entries with
  | none => return []
  | some x =>
    if recordRawResults then
      let raw ← (entries.mapM (writePingResultEntry w ['\t'])).mapError Failure.times
      return writeJitterResultEntry w x :: raw
    else return [writeJitterResultEntry w x]

end Jitter

/-! ## Lines of a round -/

variable {w} {trafficClass : UInt8} {r : Round}

/-- What a line of an entry adds. -/
theorem writeTracerouteResultEntry_ok {s u : RoundLines} {e : ResultEntry}
    (h : writeTracerouteResultEntry w trafficClass r s e = .ok u) :
    ∃ hop, roundHopText w e = .ok hop ∧
      u.timeStamp = (if s.timeStamp = 0 then e.sendTime .application else s.timeStamp) ∧
      u.writeHeader = false ∧
      u.lines = s.lines ++
        (if s.writeHeader then [roundHeaderText w trafficClass r u.timeStamp e] else []) ++ [hop] := by
  unfold writeTracerouteResultEntry at h
  cases hhop : roundHopText w e with
  | error abort =>
    rw [hhop] at h
    cases h
  | ok hop =>
    simp only [hhop] at h
    generalize (if s.writeHeader then e.checksum else s.checksumCheck) = checksumCheck at h
    by_cases hchecksum : e.checksum = checksumCheck
    · rw [if_neg (not_not_intro hchecksum)] at h
      obtain rfl := Except.ok.inj h
      exact ⟨hop, rfl, rfl, rfl, rfl⟩
    · rw [if_pos hchecksum] at h
      cases h

/-- Behind the header, there is a line for each entry, and the time stamp stays. -/
theorem exec_hops {s t : RoundLines} {es : List ResultEntry} (hs : s.writeHeader = false)
    (h : Run.exec (writeTracerouteResultEntry w trafficClass r) s es = .ok t) :
    (∃ hops, List.Forall₂ (fun e hop => roundHopText w e = .ok hop) es hops ∧
      t.lines = s.lines ++ hops) ∧ (s.timeStamp ≠ 0 → t.timeStamp = s.timeStamp) := by
  induction es generalizing s with
  | nil =>
    cases h
    exact ⟨⟨[], .nil, (List.append_nil _).symm⟩, fun _ => rfl⟩
  | cons e es ih =>
    obtain ⟨u, hu, hrest⟩ := Run.exec_cons_ok h
    obtain ⟨hop, hhop, htime, hheader, hlines⟩ := writeTracerouteResultEntry_ok hu
    obtain ⟨⟨hops, hall, hlines'⟩, hkept⟩ := ih hheader hrest
    refine ⟨⟨hop :: hops, .cons hhop hall, ?_⟩, fun hne => ?_⟩
    · rw [hlines', hlines, hs, if_neg (by decide)]
      simp only [List.append_assoc, List.nil_append, List.singleton_append]
    · rw [if_neg hne] at htime
      exact (hkept (by rwa [htime])).trans htime

/-- **The lines of a round**: its header, and a hop for each entry. -/
theorem writeRound_ok {timeStamp : Nat} {e : ResultEntry} {es : List ResultEntry} {s : RoundLines}
    (hentries : r.entries = e :: es) (he : e.sendTime .application ≠ 0)
    (h : writeRound w trafficClass timeStamp r = .ok s) :
    s.timeStamp = (if timeStamp = 0 then e.sendTime .application else timeStamp) ∧
      ∃ hops, List.Forall₂ (fun e hop => roundHopText w e = .ok hop) r.entries hops ∧
        s.lines = roundHeaderText w trafficClass r s.timeStamp e :: hops := by
  unfold writeRound at h
  rw [hentries] at h ⊢
  obtain ⟨u, hu, hrest⟩ := Run.exec_cons_ok h
  obtain ⟨hop, hhop, htime, hheader, hlines⟩ := writeTracerouteResultEntry_ok hu
  obtain ⟨⟨hops, hall, hlines'⟩, hkept⟩ := exec_hops hheader hrest
  have hne : u.timeStamp ≠ 0 := by
    rw [htime]
    split
    · exact he
    · next hne => exact hne
  have hsame : s.timeStamp = u.timeStamp := hkept hne
  refine ⟨hsame.trans htime, hop :: hops, .cons hhop hall, ?_⟩
  rw [hlines', hlines, hsame]
  rfl

theorem writeRound_nil (timeStamp : Nat) (hentries : r.entries = []) :
    writeRound w trafficClass timeStamp r = .ok ⟨timeStamp, true, 0, []⟩ := by
  unfold writeRound
  rw [hentries]
  rfl

end

/-! ## The rounds that are written -/

section
variable {p : Parameters}

/-- Increasing numbers that are not more than there is room for are consecutive. -/
theorem range'_of_increasing {l : List Nat} {k : Nat} (hinc : l.Pairwise (· < ·))
    (hlow : ∀ n ∈ l, k < n) (hhigh : ∀ n ∈ l, n ≤ k + l.length) :
    l = List.range' (k + 1) l.length := by
  induction l generalizing k with
  | nil => rfl
  | cons n l ih =>
    rw [List.pairwise_cons] at hinc
    rw [List.forall_mem_cons] at hlow hhigh
    rw [List.length_cons] at hhigh
    have hrest : l = List.range' (n + 1) l.length :=
      ih hinc.2 hinc.1 fun m hm => by have := hhigh.2 m hm; omega
    have hn : n = k + 1 := by
      cases l with
      | nil =>
        have := hhigh.1
        simp only [List.length_nil] at this
        omega
      | cons m ms =>
        -- the last of the numbers has to fit, too
        have hlast : n + 1 + ms.length ∈ m :: ms := by
          rw [hrest, List.length_cons, List.mem_range'_1]
          omega
        have := hhigh.2 _ hlast
        simp only [List.length_cons] at this
        omega
    rw [List.length_cons, List.range'_succ, ← hn, ← hrest]

theorem scanRound_totalHops {scan scan' : PathScan} {es es' : List ResultEntry}
    (h : scanRound p scan es = .ok (es', scan')) :
    scan.totalHops ≤ scan'.totalHops ∧ ∀ e ∈ writtenEntries es, e.hopNumber ≤ scan'.totalHops := by
  induction es generalizing scan es' with
  | nil =>
    cases h
    exact ⟨Nat.le_refl _, fun e he => absurd he List.not_mem_nil⟩
  | cons e es ih =>
    rw [scanRound_cons] at h
    unfold writtenEntries
    split at h
    · cases h
    · next hhop =>
      have hadvance : (scan.advance p e).totalHops = e.hopNumber := rfl
      split at h
      · next hlast =>
        cases h
        rw [if_pos hlast, List.forall_mem_singleton]
        exact ⟨by omega, Nat.le_refl _⟩
      · next hlast =>
        cases hrec : scanRound p (scan.advance p e) es with
        | error a =>
          rw [hrec] at h
          cases h
        | ok rest =>
          rw [hrec] at h
          cases h
          obtain ⟨hle, hall⟩ := ih hrec
          rw [if_neg hlast, List.forall_mem_cons]
          exact ⟨by omega, by omega, hall⟩

/-- **The hops of a round that is written** are numbered from 1 on. -/
theorem processRound_hops {n timeStamp now : Nat} {es es' : List ResultEntry}
    (h : processRound p n timeStamp now es = .ok (es', r)) :
    r.entries.map (·.hopNumber) = List.range' 1 r.entries.length ∧
      r.totalHops = r.entries.length := by
  obtain ⟨-, -, hround⟩ := processRound_ok h
  have hlength : r.entries.length = (writtenEntries es).length := by
    rw [hround.entries, List.length_map]
  have hhops : r.entries.map (·.hopNumber) = (writtenEntries es).map (·.hopNumber) := by
    rw [hround.entries, List.map_map]
    exact List.map_congr_left fun e _ => congrArg ResultEntry.Request.hopNumber (settled_request e)
  refine ⟨?_, hround.totalHops.trans hlength.symm⟩
  unfold processRound at h
  cases hscan : scanRound p ⟨0, 0, true, false, p.addressText p.io.sourceAddress⟩ es with
  | error a =>
    rw [hscan] at h
    cases h
  | ok x =>
    obtain ⟨es'', scan⟩ := x
    rw [hscan] at h
    simp only at h
    obtain ⟨hinc, hpos⟩ := scanRound_increasing hscan
    obtain ⟨-, hle⟩ := scanRound_totalHops hscan
    by_cases hcurrent : scan.currentHop = scan.totalHops
    · have htotal : scan.totalHops = (writtenEntries es).length := by
        rw [← hcurrent, (scanRound_ok p hscan).2, foldl_advance_currentHop]
        exact Nat.zero_add _
      have hmap : ((writtenEntries es).map (·.hopNumber)).length = (writtenEntries es).length :=
        List.length_map _
      rw [hhops, hlength, ← hmap]
      refine range'_of_increasing (List.pairwise_map.mpr hinc) ?_ ?_
      · exact List.forall_mem_map.mpr hpos
      · rw [List.forall_mem_map, hmap, ← htotal, Nat.zero_add]
        exact hle
    · rw [if_pos hcurrent] at h
      cases h

/-- The time stamp of a run is that of the first entry that is written. -/
theorem processRound_timeStamp {n timeStamp now : Nat} {es es' : List ResultEntry}
    (h : processRound p n timeStamp now es = .ok (es', r)) :
    r.timeStamp = if timeStamp = 0 then
      (r.entries.head?.map (·.sendTime .application)).getD 0 else timeStamp := by
  unfold processRound at h
  split at h
  · cases h
  · split at h
    · cases h
    · simp only at h
      split at h
      · cases h
      · cases h
        rfl

/-- The status flags leave the low byte to the status of a hop. -/
theorem processRound_statusFlags {n timeStamp now : Nat} {es es' : List ResultEntry}
    (h : processRound p n timeStamp now es = .ok (es', r)) :
    r.statusFlags % 256 = 0 ∧ r.statusFlags < 1024 := by
  have hflags : ∀ complete reached : Bool,
      ((if complete then 0 else flagStarredRoute) |||
        (if reached then flagDestinationReached else 0)) % 256 = 0 ∧
      ((if complete then 0 else flagStarredRoute) |||
        (if reached then flagDestinationReached else 0)) < 1024 := by decide
  unfold processRound at h
  split at h
  · cases h
  · next es'' scan hscan =>
    split at h
    · cases h
    · simp only at h
      split at h
      · cases h
      · cases h
        exact hflags scan.completeTraceroute scan.destinationReached

end

end HiPerConTracer.Service
