import HiPerConTracer.Query.RoundTrip
import HiPerConTracer.Service.WriteResults

/-!
# From measurements to exports

The lines that the services write are those of values (`pingOf`, `headerOf`, `hopOf`) that the entries
have.  The importer gets these values back, and what `hpct-query` prints of the database are the lines of
the results files, sorted by their keys: of Ping

    lines of es → ∃ vs, … ∧ ReadsAs … lines (rows of vs) ∧
      (order ~ vs → sorted → Prints … (order.map (pingText p)))            (pings_roundTrip)

and of the runs of Traceroute (`traceroutes_roundTrip`).
-/

namespace HiPerConTracer.Query
open Net
open Service (ResultEntry LineWriter Round TimeStamps TimeSourceType Abort)
open Results (Text dec hex Input Output Backend PingValues HeaderValues HopValues Timing)
open SortedSet (Sorted)
open Grouping (members memberKey)

variable {i : Input} {o : Output} {backend : Backend} {p : Options} {w : LineWriter}

/-! ## Values of an entry -/

def timingOf (r : TimeStamps.ResultsValues) : Timing where
  timeSource := r.timeSource
  delayAppSend := r.delayAppSend
  delayQueuing := r.delayQueuing
  delayAppReceive := r.delayAppReceive
  rttApp := r.rttApplication
  rttSoftware := r.rttSoftware
  rttHardware := r.rttHardware

def pingOf (w : LineWriter) (e : ResultEntry) (r : TimeStamps.ResultsValues) : PingValues where
  protocol := w.protocolType
  measurementID := w.measurementID
  sourceIP := e.source
  destinationIP := e.destination.address
  sendTimeStamp := e.sendTime .application
  burstSeq := e.roundNumber
  trafficClass := e.destination.trafficClass.toNat
  packetSize := e.packetSize
  responseSize := e.responseSize
  checksum := e.checksum.toNat
  sourcePort := e.sourcePort.toNat
  destinationPort := e.destinationPort.toNat
  status := e.status.code
  timing := timingOf r

/-- The header has the values of the first entry. -/
def headerOf (w : LineWriter) (trafficClass : UInt8) (r : Round) (timeStamp : Nat)
    (e : ResultEntry) : HeaderValues where
  protocol := w.protocolType
  measurementID := w.measurementID
  sourceIP := e.source
  destinationIP := e.destination.address
  timeStamp := timeStamp
  roundNumber := e.roundNumber
  totalHops := r.totalHops
  trafficClass := trafficClass.toNat
  packetSize := e.packetSize
  checksum := e.checksum.toNat
  sourcePort := e.sourcePort.toNat
  destinationPort := e.destinationPort.toNat
  statusFlags := r.statusFlags
  pathHash := Results.toLongLong r.pathHash.toNat

def hopOf (e : ResultEntry) (r : TimeStamps.ResultsValues) : HopValues where
  sendTimeStamp := e.sendTime .application
  hopNumber := e.hopNumber
  responseSize := e.responseSize
  status := e.status.code
  timing := timingOf r
  hopIP := e.hop

/-- The entry has been evaluated to the values of this Ping. -/
def IsPing (w : LineWriter) (e : ResultEntry) (v : PingValues) : Prop :=
  ∃ r, (TimeStamps.of e).obtainResultsValues = .ok r ∧ v = pingOf w e r

def IsHop (e : ResultEntry) (v : HopValues) : Prop :=
  ∃ r, (TimeStamps.of e).obtainResultsValues = .ok r ∧ v = hopOf e r

/-! ## Values that are evaluated -/

theorem timeSource_lt (second first : TimeSourceType) :
    TimeStamps.timeSource second first < 2 ^ 8 := by
  cases second <;> cases first <;> decide

theorem timeSource_lt_of_ne {second : TimeSourceType} (h : second ≠ .timestampingHW)
    (first : TimeSourceType) : TimeStamps.timeSource second first < 2 ^ 7 := by
  cases second <;> cases first <;> first | decide | exact absurd rfl h

theorem difference_lt {value : Service.Value} {times : Option (Int × Int)} {n : Int}
    (h : TimeStamps.difference value times = .ok n) : n < 2 ^ 63 := by
  cases times with
  | none =>
    obtain rfl := Except.ok.inj h
    decide
  | some x =>
    obtain ⟨hlt, rfl⟩ := TimeStamps.difference_ok h
    exact hlt

theorem obtainTimes_lt {value : Service.Value} {comparable : Prop} [Decidable comparable]
    {first second n : Int}
    (h : (TimeStamps.obtainTimes value comparable first second >>=
      TimeStamps.difference value) = .ok n) : n < 2 ^ 63 := by
  obtain ⟨times, -, hdifference⟩ := Run.bind_ok h
  exact difference_lt hdifference

theorem inInt64_of_exact {n first second : Int} (hexact : TimeStamps.Exact n first second)
    (h : n < 2 ^ 63) : Fields.InInt64 n := by
  unfold Fields.InInt64
  rcases hexact with rfl | ⟨hle, rfl⟩
  · decide
  · omega

/-- The values fit into their columns. -/
theorem obtainResultsValues_fits {t : TimeStamps} {r : TimeStamps.ResultsValues}
    (h : t.obtainResultsValues = .ok r)
    (hsource : t.receiveTimeSource .application ≠ .timestampingHW) :
    TimingFits (timingOf r) := by
  unfold TimeStamps.obtainResultsValues at h
  obtain ⟨rttApplication, happ, h⟩ := Run.bind_ok h
  obtain ⟨rttSoftware, hsoft, h⟩ := Run.bind_ok h
  obtain ⟨rttHardware, hhard, h⟩ := Run.bind_ok h
  obtain ⟨delayAppSend, hsend, h⟩ := Run.bind_ok h
  obtain ⟨delayAppReceive, hreceive, h⟩ := Run.bind_ok h
  obtain ⟨delayQueuing, hqueuing, h⟩ := Run.bind_ok h
  obtain ⟨-, -, h⟩ := Run.bind_ok h
  obtain rfl := Except.ok.inj h
  have htimeSource : ((TimeStamps.timeSource (t.receiveTimeSource .application)
      (t.sendTimeSource .application)) <<< 24 ||| (t.obtainSchedulingSendTime.1 <<< 16) |||
      ((t.obtainSendReceiveTime .receptionSW).1 <<< 8) |||
      (t.obtainSendReceiveTime .receptionHW).1) < 2 ^ 31 := by
    have happ := timeSource_lt_of_ne hsource (t.sendTimeSource .application)
    have hsched : t.obtainSchedulingSendTime.1 < 2 ^ 8 := timeSource_lt _ _
    have hsw : (t.obtainSendReceiveTime .receptionSW).1 < 2 ^ 8 := timeSource_lt _ _
    have hhw : (t.obtainSendReceiveTime .receptionHW).1 < 2 ^ 8 := timeSource_lt _ _
    refine Nat.or_lt_two_pow (Nat.or_lt_two_pow (Nat.or_lt_two_pow ?_ ?_) ?_) ?_
    all_goals first | rw [Nat.shiftLeft_eq] | skip
    all_goals omega
  refine ⟨?_, ?_⟩
  · show Fields.InInt32 (_ : Nat)
    unfold Fields.InInt32
    exact ⟨by omega, by exact_mod_cast htimeSource⟩
  · simp only [timingOf, List.forall_mem_cons]
    exact ⟨inInt64_of_exact (TimeStamps.obtainTimes_ok hsend).1 (obtainTimes_lt hsend),
      inInt64_of_exact (TimeStamps.obtainTimes_ok hqueuing).1 (obtainTimes_lt hqueuing),
      inInt64_of_exact (TimeStamps.obtainTimes_ok hreceive).1 (obtainTimes_lt hreceive),
      inInt64_of_exact (t.getRTT_ok happ).1 (difference_lt happ),
      inInt64_of_exact (t.getRTT_ok hsoft).1 (difference_lt hsoft),
      inInt64_of_exact (t.getRTT_ok hhard).1 (difference_lt hhard),
      fun n hn => absurd hn List.not_mem_nil⟩

theorem TimingFits.readable {t : Timing} (h : TimingFits t) : TimingReadable t := by
  obtain ⟨hsource, hvalues⟩ := h
  simp only [List.forall_mem_cons] at hvalues
  unfold Fields.InInt32 at hsource
  exact ⟨by omega, hvalues.1, hvalues.2.1, hvalues.2.2.1, hvalues.2.2.2.1, hvalues.2.2.2.2.1,
    hvalues.2.2.2.2.2.1⟩

/-! ## Entries that can be stored -/

structure AddressStored (i : Input) (p : Options) (a : Address) : Prop extends AddressReadable i p a where
  decoded : decodeAddress a = a

/-- The services write the current format, and `hpct-query` writes addresses in the same way. -/
structure WriterStored (p : Options) (w : LineWriter) : Prop where
  outputFormatVersion : w.outputFormatVersion = .version2
  addressText : w.addressText = p.addressText
  protocolType : w.protocolType ∈ ['i', 'u', 't']
  measurementID : w.measurementID < 2 ^ 31

/-- The numbers of an entry fit into the columns of a database. -/
structure EntryStored (i : Input) (p : Options) (w : LineWriter) (e : ResultEntry) : Prop where
  /-- The application has the time of the system clock. -/
  clock : e.receiveTimeSource .application ≠ .timestampingHW
  inTime : i.inTime (e.sendTime .application) = true
  sendTime_pos : 0 < e.sendTime .application
  sendTime : e.sendTime .application < 2 ^ 63
  roundNumber : e.roundNumber < 2 ^ 31
  hopNumber : e.hopNumber ≤ 255
  packetSize : e.packetSize < 2 ^ 31
  responseSize : e.responseSize < 2 ^ 31
  source : AddressStored i p e.source
  destination : AddressStored i p e.destination.address
  hop : AddressStored i p e.hop
  mapped : MeasurementIDKept p w.measurementID e.source

theorem code_lt (s : Service.HopStatus) : s.code < 256 := by
  cases s <;> decide

theorem WriterStored.protocol (hw : WriterStored p w) :
    w.protocolType ≠ ' ' ∧ w.protocolType.toNat < 128 := by
  have hprotocol := hw.protocolType
  simp only [List.mem_cons, List.not_mem_nil, or_false] at hprotocol
  rcases hprotocol with h | h | h <;> rw [h] <;> decide

theorem protocolNumber_lt {c : Char} (h : c.toNat < 128) : protocolNumber c < 2 ^ 31 := by
  unfold protocolNumber
  rw [if_pos h]
  omega

theorem inInt32_of_lt {n : Nat} (h : n < 2 ^ 31) : Fields.InInt32 n := by
  unfold Fields.InInt32
  omega

theorem time_readable {n : Nat} (hin : i.inTime n = true) (h : n < 2 ^ 63) : TimeReadable i n := by
  refine ⟨hin, ?_⟩
  unfold Fields.InInt64
  omega

theorem inInt64_unsigned {n : Nat} (h : n < 2 ^ 63) : Fields.InInt64 (unsigned 64 (n : Int)) := by
  rw [unsigned_of_lt (lt_trans h (by decide))]
  unfold Fields.InInt64
  omega

theorem pingOf_stored (hw : WriterStored p w) {e : ResultEntry} (he : EntryStored i p w e)
    {r : TimeStamps.ResultsValues} (hr : (TimeStamps.of e).obtainResultsValues = .ok r) :
    PingStored i p (pingOf w e r) where
  protocol := hw.protocol.1
  measurementID := lt_trans hw.measurementID (by decide)
  sourceIP := he.source.toAddressReadable
  destinationIP := he.destination.toAddressReadable
  sendTimeStamp := time_readable he.inTime he.sendTime
  burstSeq := lt_trans he.roundNumber (by decide)
  trafficClass := Nat.le_of_lt_succ e.destination.trafficClass.toNat_lt
  packetSize := lt_trans he.packetSize (by decide)
  responseSize := lt_trans he.responseSize (by decide)
  checksum := Nat.le_of_lt_succ e.checksum.toNat_lt
  sourcePort := Nat.le_of_lt_succ e.sourcePort.toNat_lt
  destinationPort := Nat.le_of_lt_succ e.destinationPort.toNat_lt
  status := lt_trans (code_lt e.status) (by decide)
  timing := (obtainResultsValues_fits hr he.clock).readable
  fits := by
    have htrafficClass := e.destination.trafficClass.toNat_lt
    have hchecksum := e.checksum.toNat_lt
    have hsourcePort := e.sourcePort.toNat_lt
    have hdestinationPort := e.destinationPort.toNat_lt
    have hstatus := code_lt e.status
    refine ⟨inInt64_unsigned he.sendTime, ?_, obtainResultsValues_fits hr he.clock⟩
    simp only [pingOf, List.forall_mem_cons]
    exact ⟨inInt32_of_lt hw.measurementID, inInt32_of_lt (protocolNumber_lt hw.protocol.2),
      inInt32_of_lt (by omega), inInt32_of_lt he.roundNumber, inInt32_of_lt he.packetSize,
      inInt32_of_lt he.responseSize, inInt32_of_lt (by omega), inInt32_of_lt (by omega),
      inInt32_of_lt (by omega), inInt32_of_lt (by omega), fun n hn => absurd hn List.not_mem_nil⟩
  time := Int.natCast_nonneg _
  protocol_lt := hw.protocol.2
  mapped := he.mapped
  sourceIP_decoded := he.source.decoded
  destinationIP_decoded := he.destination.decoded

theorem hopOf_stored {e : ResultEntry} (he : EntryStored i p w e) (hpos : 1 ≤ e.hopNumber)
    {r : TimeStamps.ResultsValues} (hr : (TimeStamps.of e).obtainResultsValues = .ok r) :
    HopStored i p (hopOf e r) where
  sendTimeStamp := time_readable he.inTime he.sendTime
  hopNumber_pos := hpos
  hopNumber_le := he.hopNumber
  responseSize := lt_trans he.responseSize (by decide)
  status := code_lt e.status
  timing := (obtainResultsValues_fits hr he.clock).readable
  hopIP := he.hop.toAddressReadable
  fits := ⟨inInt64_unsigned he.sendTime, inInt32_of_lt he.responseSize,
    inInt32_of_lt (lt_trans (code_lt e.status) (by decide)), obtainResultsValues_fits hr he.clock⟩
  time := Int.natCast_nonneg _
  hopIP_decoded := he.hop.decoded

theorem toLongLong_inInt64 {n : Nat} (h : n < 2 ^ 64) : Fields.InInt64 (Results.toLongLong n) := by
  unfold Fields.InInt64 Results.toLongLong
  split <;> omega

theorem unsigned_toLongLong {n : Nat} (h : n < 2 ^ 64) : unsigned 64 (Results.toLongLong n) = n := by
  unfold unsigned Results.toLongLong
  split <;> omega

theorem headerOf_stored (hw : WriterStored p w) {trafficClass : UInt8} {r : Round} {timeStamp : Nat}
    {e : ResultEntry} (he : EntryStored i p w e) (hin : i.inTime timeStamp = true)
    (htime : timeStamp < 2 ^ 63) (hpos : 1 ≤ r.totalHops) (hle : r.totalHops ≤ 255)
    (hflags : r.statusFlags % 256 = 0) (hflags_lt : r.statusFlags < 1024) :
    HeaderStored i p (headerOf w trafficClass r timeStamp e) where
  protocol := hw.protocol.1
  measurementID := lt_trans hw.measurementID (by decide)
  sourceIP := he.source.toAddressReadable
  destinationIP := he.destination.toAddressReadable
  timeStamp := time_readable hin htime
  roundNumber := lt_trans he.roundNumber (by decide)
  totalHops_pos := hpos
  totalHops_le := hle
  trafficClass := Nat.le_of_lt_succ trafficClass.toNat_lt
  packetSize := lt_trans he.packetSize (by decide)
  checksum := Nat.le_of_lt_succ e.checksum.toNat_lt
  sourcePort := Nat.le_of_lt_succ e.sourcePort.toNat_lt
  destinationPort := Nat.le_of_lt_succ e.destinationPort.toNat_lt
  statusFlags := lt_trans hflags_lt (by decide)
  pathHash := toLongLong_inInt64 r.pathHash.toNat_lt
  fits := by
    have htrafficClass := trafficClass.toNat_lt
    have hchecksum := e.checksum.toNat_lt
    have hsourcePort := e.sourcePort.toNat_lt
    have hdestinationPort := e.destinationPort.toNat_lt
    have hmeasurementID : Fields.InInt64 w.measurementID := by
      have := hw.measurementID
      unfold Fields.InInt64
      omega
    refine ⟨?_, ?_⟩
    · simp only [headerOf, List.forall_mem_cons]
      exact ⟨inInt64_unsigned htime, hmeasurementID, toLongLong_inInt64 r.pathHash.toNat_lt,
        fun n hn => absurd hn List.not_mem_nil⟩
    · simp only [headerOf, List.forall_mem_cons]
      exact ⟨inInt32_of_lt (protocolNumber_lt hw.protocol.2), inInt32_of_lt (by omega),
        inInt32_of_lt he.roundNumber, inInt32_of_lt (by omega), inInt32_of_lt he.packetSize,
        inInt32_of_lt (by omega), inInt32_of_lt (by omega), inInt32_of_lt (by omega),
        inInt32_of_lt (by omega), fun n hn => absurd hn List.not_mem_nil⟩
  time := Int.natCast_nonneg _
  protocol_lt := hw.protocol.2
  mapped := he.mapped
  sourceIP_decoded := he.source.decoded
  destinationIP_decoded := he.destination.decoded
  flags := hflags

/-! ## Lines -/

theorem hex_unsigned {n : Nat} (h : n < 2 ^ 63) : hex n = hex (unsigned 64 (n : Int)) := by
  rw [unsigned_of_lt (lt_trans h (by decide))]

theorem ping_written (hw : WriterStored p w) {e : ResultEntry} (he : EntryStored i p w e) {line : Text}
    (h : Service.writePingResultEntry w [] e = .ok line) :
    ∃ v, IsPing w e v ∧ PingStored i p v ∧ line = pingText p v := by
  unfold Service.writePingResultEntry at h
  rw [hw.outputFormatVersion] at h
  obtain ⟨r, hr, h⟩ := Run.bind_ok h
  obtain rfl := Except.ok.inj h
  refine ⟨pingOf w e r, ⟨r, hr, rfl⟩, pingOf_stored hw he hr, ?_⟩
  unfold Service.pingTexts Results.spaced
  rw [hw.addressText, hex_unsigned he.sendTime]
  rfl

theorem hop_written (hw : WriterStored p w) {e : ResultEntry} (he : EntryStored i p w e)
    (hpos : 1 ≤ e.hopNumber) {line : Text} (h : Service.roundHopText w e = .ok line) :
    ∃ v, IsHop e v ∧ HopStored i p v ∧ line = hopText p v := by
  unfold Service.roundHopText at h
  rw [hw.outputFormatVersion] at h
  obtain ⟨r, hr, h⟩ := Run.bind_ok h
  obtain rfl := Except.ok.inj h
  have hstatus : (hopOf e r).status % 256 = e.status.code := Nat.mod_eq_of_lt (code_lt e.status)
  refine ⟨hopOf e r, ⟨r, hr, rfl⟩, hopOf_stored he hpos hr, ?_⟩
  unfold Service.hopTexts Results.spaced hopText hopWords
  rw [hw.addressText, hex_unsigned he.sendTime, hstatus]
  rfl

theorem headerText_written (hw : WriterStored p w) (trafficClass : UInt8) (r : Round) {timeStamp : Nat}
    (htime : timeStamp < 2 ^ 63) (e : ResultEntry) :
    Service.roundHeaderText w trafficClass r timeStamp e =
      headerText p (headerOf w trafficClass r timeStamp e) := by
  have hpathHash : unsigned 64 (headerOf w trafficClass r timeStamp e).pathHash = r.pathHash.toNat :=
    unsigned_toLongLong r.pathHash.toNat_lt
  unfold Service.roundHeaderText
  rw [hw.outputFormatVersion]
  unfold Service.headerTexts Results.spaced headerText
  rw [hpathHash, hw.addressText, hex_unsigned htime]
  rfl

/-! ## Ping -/

theorem pings_written (hw : WriterStored p w) {es : List ResultEntry} {lines : List Text}
    (hes : ∀ e ∈ es, EntryStored i p w e)
    (h : List.Forall₂ (fun e line => Service.writePingResultEntry w [] e = .ok line) es lines) :
    ∃ vs, List.Forall₂ (IsPing w) es vs ∧ (∀ v ∈ vs, PingStored i p v) ∧
      lines = vs.map (pingText p) := by
  induction h with
  | nil => exact ⟨[], .nil, fun v hv => absurd hv List.not_mem_nil, rfl⟩
  | cons hline _ ih =>
    rw [List.forall_mem_cons] at hes
    obtain ⟨v, hping, hstored, rfl⟩ := ping_written hw hes.1 hline
    obtain ⟨vs, hpings, hall, rfl⟩ := ih hes.2
    exact ⟨v :: vs, .cons hping hpings, List.forall_mem_cons.mpr ⟨hstored, hall⟩, rfl⟩

/-- **Ping from the measurement to the export.**  The lines of entries are read as the rows of the
values that the entries have been evaluated to.  In whatever order the database has them, sorted by
time, both queries print the lines again, and these are read as the same rows. -/
theorem pings_roundTrip (hw : WriterStored p w) (hp : p.deduplication = false)
    {es : List ResultEntry} (hes : ∀ e ∈ es, EntryStored i p w e) {lines : List Text}
    (hlines : List.Forall₂ (fun e line => Service.writePingResultEntry w [] e = .ok line) es lines)
    {identifiers : List Text} (hid : ∀ line ∈ identifiers, line.take 2 = ['#', '?'])
    (o : Output) (backend : Backend) :
    ∃ vs, List.Forall₂ (IsPing w) es vs ∧ lines = vs.map (pingText p) ∧
      ReadsAs (Results.PingReader.parseContents i o) backend (identifiers ++ lines)
        (vs.map fun v => fieldsText o backend (pingDocument v)) ∧
      ∀ order : List PingValues, order.Perm vs → order.Pairwise (·.sendTimeStamp ≤ ·.sendTimeStamp) →
        Prints p "Ping 2" (order.flatMap fun v => sqlPingActions p (pingRow v))
          (order.map (pingText p)) ∧
        Prints p "Ping 2" (order.flatMap fun v => noSQLPingActions p (noSQLPingTwo p) (pingDocument v))
          (order.map (pingText p)) ∧
        ReadsAs (Results.PingReader.parseContents i o) backend
          (exportTexts p "Ping 2" (order.map (pingText p)))
          (order.map fun v => fieldsText o backend (pingDocument v)) := by
  obtain ⟨vs, hpings, hstored, rfl⟩ := pings_written hw hes hlines
  refine ⟨vs, hpings, rfl, pings_readsAs hstored hid, fun order hperm hsorted => ?_⟩
  have hstored' : ∀ v ∈ order, PingStored i p v := fun v hv => hstored v (hperm.mem_iff.mp hv)
  obtain ⟨identifiers', hid', hexport⟩ := exportTexts_eq p "Ping 2" (order.map (pingText p))
  rw [hexport]
  exact ⟨pings_exported hp hstored' hsorted fun v hv => sqlPingActions_eq (hstored' v hv),
    pings_exported hp hstored' hsorted fun v hv => noSQLPingActions_eq (hstored' v hv),
    pings_readsAs hstored' hid'⟩

/-! ## Two entries -/

def measuredOptions : Options where
  deduplication := false
  programID := "HPCT-Query".toList
  addressText := Results.tracerouteTable.addressText
  addressToMeasurementID := fun _ => none

def measuredWriter : LineWriter where
  outputFormatVersion := .version2
  protocolType := 'i'
  measurementID := 1
  addressText := Results.tracerouteTable.addressText

def pingTable : Output := { Results.tracerouteTable with table := "Ping" }

/-- A request to 10.0.0.2, with the answer of a hop after a millisecond. -/
def measuredEntry (sendTime roundNumber hopNumber : Nat) (hop : Address) (status : Service.HopStatus) :
    ResultEntry :=
  ((ResultEntry.initialise 0 roundNumber 1 hopNumber 64 0x1234 0 0 sendTime (.v4 0x0a000001)
    ⟨.v4 0x0a000002, 0⟩ status).setHopAddress hop).setReceiveTime .application .sysClock
      (sendTime + 1000000)

theorem measuredWriter_stored : WriterStored measuredOptions measuredWriter where
  outputFormatVersion := rfl
  addressText := rfl
  protocolType := by decide
  measurementID := by decide

theorem address_stored {a : Address} (h : a = .v4 0x0a000001 ∨ a = .v4 0x0a000002) :
    AddressStored Results.twoAddresses measuredOptions a := by
  rcases h with rfl | rfl
  · exact ⟨⟨by decide +kernel, by decide +kernel, by decide +kernel⟩, rfl⟩
  · exact ⟨⟨by decide +kernel, by decide +kernel, by decide +kernel⟩, rfl⟩

theorem measuredEntry_stored {sendTime roundNumber hopNumber : Nat} {hop : Address}
    {status : Service.HopStatus} (hin : Results.twoAddresses.inTime sendTime = true)
    (hpos : 0 < sendTime) (hlt : sendTime < 2 ^ 63) (hnumber : hopNumber ≤ 255)
    (hhop : hop = .v4 0x0a000001 ∨ hop = .v4 0x0a000002) :
    EntryStored Results.twoAddresses measuredOptions measuredWriter
      (measuredEntry sendTime roundNumber hopNumber hop status) where
  clock := by
    show Service.TimeSourceType.sysClock ≠ .timestampingHW
    decide
  inTime := hin
  sendTime_pos := hpos
  sendTime := hlt
  roundNumber := by
    show roundNumber % 65536 < 2 ^ 31
    omega
  hopNumber := hnumber
  packetSize := by
    show 64 < 2 ^ 31
    decide
  responseSize := by
    show 0 < 2 ^ 31
    decide
  source := address_stored (Or.inl rfl)
  destination := address_stored (Or.inr rfl)
  hop := by
    rcases hhop with rfl | rfl
    · exact address_stored (Or.inl rfl)
    · exact address_stored (Or.inr rfl)
  mapped := fun h => absurd h (by decide)

/-- The second one has been written first. -/
def measuredPings : List ResultEntry :=
  [measuredEntry 0x178f2cc6c7f9437a 1 1 (.v4 0x0a000002) .success,
    measuredEntry 0x178f2cc6c7ea013a 0 1 (.v4 0x0a000002) .timeout]

theorem measuredPings_stored : ∀ e ∈ measuredPings,
    EntryStored Results.twoAddresses measuredOptions measuredWriter e := by
  unfold measuredPings
  simp only [List.forall_mem_cons, List.not_mem_nil, false_imp_iff, implies_true, and_true]
  exact ⟨measuredEntry_stored (by decide +kernel) (by decide) (by decide) (by decide) (Or.inr rfl),
    measuredEntry_stored (by decide +kernel) (by decide) (by decide) (by decide) (Or.inr rfl)⟩

theorem measuredPings_written : ∃ lines, List.Forall₂
    (fun e line => Service.writePingResultEntry measuredWriter [] e = .ok line) measuredPings lines := by
  obtain ⟨first, hfirst⟩ := Run.exists_of_isOk (show (Service.writePingResultEntry measuredWriter []
    (measuredEntry 0x178f2cc6c7f9437a 1 1 (.v4 0x0a000002) .success)).isOk = true by decide +kernel)
  obtain ⟨second, hsecond⟩ := Run.exists_of_isOk (show (Service.writePingResultEntry measuredWriter []
    (measuredEntry 0x178f2cc6c7ea013a 0 1 (.v4 0x0a000002) .timeout)).isOk = true by decide +kernel)
  exact ⟨[first, second], .cons hfirst (.cons hsecond .nil)⟩

/-- The values of entries that are sent later and later, from the last one on. -/
theorem pings_reverse_sorted {es : List ResultEntry} {vs : List PingValues}
    (h : List.Forall₂ (IsPing w) es vs)
    (hsent : es.Pairwise (fun e e' => e'.sendTime .application ≤ e.sendTime .application)) :
    vs.reverse.Pairwise (·.sendTimeStamp ≤ ·.sendTimeStamp) := by
  have htimes : vs.map (·.sendTimeStamp) = es.map fun e => (e.sendTime .application : Int) := by
    clear hsent
    induction h with
    | nil => rfl
    | cons hping _ ih =>
      obtain ⟨r, -, rfl⟩ := hping
      rw [List.map_cons, List.map_cons, ih]
      rfl
  rw [List.pairwise_reverse]
  have hvalues : (vs.map (·.sendTimeStamp)).Pairwise (fun a b => b ≤ a) := by
    rw [htimes, List.pairwise_map]
    exact hsent.imp Int.ofNat_le.mpr
  exact List.pairwise_map.mp hvalues

/-- The lines of two entries are read as their rows, and the exports have them in the order of time. -/
theorem pings_roundTrip_two :
    ∃ lines vs, List.Forall₂
        (fun e line => Service.writePingResultEntry measuredWriter [] e = .ok line) measuredPings lines ∧
      List.Forall₂ (IsPing measuredWriter) measuredPings vs ∧
      lines = vs.map (pingText measuredOptions) ∧
      ReadsAs (Results.PingReader.parseContents Results.twoAddresses pingTable) .noSqlMongoDB lines
        (vs.map fun v => fieldsText pingTable .noSqlMongoDB (pingDocument v)) ∧
      Prints measuredOptions "Ping 2"
        (vs.reverse.flatMap fun v => sqlPingActions measuredOptions (pingRow v)) lines.reverse ∧
      Prints measuredOptions "Ping 2"
        (vs.reverse.flatMap fun v =>
          noSQLPingActions measuredOptions (noSQLPingTwo measuredOptions) (pingDocument v))
        lines.reverse ∧
      ReadsAs (Results.PingReader.parseContents Results.twoAddresses pingTable) .noSqlMongoDB
        (exportTexts measuredOptions "Ping 2" lines.reverse)
        (vs.reverse.map fun v => fieldsText pingTable .noSqlMongoDB (pingDocument v)) := by
  obtain ⟨lines, hlines⟩ := measuredPings_written
  obtain ⟨vs, hpings, htexts, hreads, hexports⟩ := pings_roundTrip measuredWriter_stored rfl
    measuredPings_stored hlines (List.forall_mem_nil _) pingTable .noSqlMongoDB
  obtain ⟨hsql, hnoSQL, hagain⟩ := hexports vs.reverse (List.reverse_perm vs)
    (pings_reverse_sorted hpings (by decide +kernel))
  rw [List.map_reverse, ← htexts] at hsql hnoSQL hagain
  exact ⟨lines, vs, hlines, hpings, htexts, hreads, hsql, hnoSQL, hagain⟩

/-! ## Traceroute -/

/-- A run of `processResults`, with the lines of its rounds. -/
structure TracerouteRun (q : Service.Parameters) (w : LineWriter) where
  now : Nat
  sorted : List ResultEntry
  entries : List ResultEntry
  rounds : List Round
  trafficClass : UInt8
  lines : List Text
  processed : Service.processRounds q now sorted 0 (List.range q.rounds) = .ok (entries, rounds)
  written : Service.writeRounds w trafficClass 0 rounds = .ok lines

variable {q : Service.Parameters}

/-- The rounds with entries; of other rounds there are no lines. -/
def measuredRounds (rounds : List Round) : List Round := rounds.filter fun r => !r.entries.isEmpty

def TracerouteRun.measured (x : TracerouteRun q w) : List (UInt8 × Round) :=
  (measuredRounds x.rounds).map fun r => (x.trafficClass, r)

/-- The values of a round are those of the block. -/
def IsBlock (w : LineWriter) (x : UInt8 × Round) (b : Block) : Prop :=
  (∃ e es, x.2.entries = e :: es ∧ b.header = headerOf w x.1 x.2 x.2.timeStamp e) ∧
    List.Forall₂ IsHop x.2.entries b.hops

theorem hops_written (hw : WriterStored p w) {es : List ResultEntry} {texts : List Text}
    (hes : ∀ e ∈ es, EntryStored i p w e) (hpos : ∀ e ∈ es, 1 ≤ e.hopNumber)
    (h : List.Forall₂ (fun e hop => Service.roundHopText w e = .ok hop) es texts) :
    ∃ vs, List.Forall₂ IsHop es vs ∧ (∀ v ∈ vs, HopStored i p v) ∧ texts = vs.map (hopText p) := by
  induction h with
  | nil => exact ⟨[], .nil, fun v hv => absurd hv List.not_mem_nil, rfl⟩
  | cons hline _ ih =>
    rw [List.forall_mem_cons] at hes hpos
    obtain ⟨v, hhop, hstored, rfl⟩ := hop_written hw hes.1 hpos.1 hline
    obtain ⟨vs, hhops, hall, rfl⟩ := ih hes.2 hpos.2
    exact ⟨v :: vs, .cons hhop hhops, List.forall_mem_cons.mpr ⟨hstored, hall⟩, rfl⟩

theorem hopNumbers_eq {es : List ResultEntry} {vs : List HopValues} (h : List.Forall₂ IsHop es vs) :
    vs.map HopValues.hopNumber = es.map (·.hopNumber) := by
  induction h with
  | nil => rfl
  | cons hhop _ ih =>
    obtain ⟨r, -, rfl⟩ := hhop
    rw [List.map_cons, List.map_cons, ih]
    rfl

/-- No time stamp yet, or one that can be read. -/
def TimeKept (i : Input) (timeStamp : Nat) : Prop :=
  timeStamp = 0 ∨ i.inTime timeStamp = true ∧ timeStamp < 2 ^ 63

/-- **A round with entries** is written as a block. -/
theorem round_written (hw : WriterStored p w) {n timeStamp now : Nat} {es es' : List ResultEntry}
    {r : Round} (hround : Service.processRound q n timeStamp now es = .ok (es', r))
    {trafficClass : UInt8} {s : Service.RoundLines}
    (hwrite : Service.writeRound w trafficClass timeStamp r = .ok s)
    (hes : ∀ e ∈ r.entries, EntryStored i p w e) (htime : TimeKept i timeStamp)
    {e : ResultEntry} {rest : List ResultEntry} (hentries : r.entries = e :: rest) :
    s.timeStamp = r.timeStamp ∧ TimeKept i s.timeStamp ∧
      ∃ b, IsBlock w (trafficClass, r) b ∧ BlockStored i p b ∧ s.lines = b.lines p := by
  have he : EntryStored i p w e := hes e (by rw [hentries]; exact List.mem_cons_self)
  obtain ⟨hstamp, hops, hall, hlines⟩ :=
    Service.writeRound_ok hentries (Nat.ne_of_gt he.sendTime_pos) hwrite
  obtain ⟨hnumbers, htotal⟩ := Service.processRound_hops hround
  obtain ⟨hflags, hflags_lt⟩ := Service.processRound_statusFlags hround
  have hsame : s.timeStamp = r.timeStamp := by
    rw [hstamp, Service.processRound_timeStamp hround, hentries]
    rfl
  have hkept : i.inTime s.timeStamp = true ∧ s.timeStamp < 2 ^ 63 := by
    rw [hstamp]
    split
    · exact ⟨he.inTime, he.sendTime⟩
    · next hne => exact htime.resolve_left hne
  have hrange : ∀ x ∈ r.entries, 1 ≤ x.hopNumber := by
    intro x hx
    have hin : x.hopNumber ∈ List.range' 1 r.entries.length := by
      rw [← hnumbers]
      exact List.mem_map_of_mem hx
    exact (List.mem_range'_1.mp hin).1
  have hlength : 1 ≤ r.entries.length := by
    rw [hentries, List.length_cons]
    omega
  have hlast : r.totalHops ≤ 255 := by
    have hin : r.totalHops ∈ r.entries.map (·.hopNumber) := by
      rw [hnumbers, htotal, List.mem_range'_1]
      omega
    obtain ⟨x, hx, hnumber⟩ := List.mem_map.mp hin
    rw [← hnumber]
    exact (hes x hx).hopNumber
  obtain ⟨vs, hhops, hstored, rfl⟩ := hops_written hw hes hrange hall
  have hvs : vs.length = r.entries.length := hhops.length_eq.symm
  have hnumbered : vs.map HopValues.hopNumber = List.range' 1 vs.length := by
    rw [hopNumbers_eq hhops, hnumbers, hvs]
  let b : Block := ⟨headerOf w trafficClass r s.timeStamp e, vs, hnumbered, by
    rw [hvs, ← htotal]
    omega⟩
  have hheader : HeaderStored i p b.header :=
    headerOf_stored hw he hkept.1 hkept.2 (by omega) hlast hflags hflags_lt
  refine ⟨hsame, Or.inr hkept, b, ⟨⟨e, rest, hentries, by rw [← hsame]⟩, hhops⟩, ⟨hheader, hstored, ?_⟩, ?_⟩
  · intro hnil
    have : vs.length = 0 := by
      rw [show vs = [] from hnil]
      rfl
    omega
  · rw [hlines, headerText_written hw trafficClass r hkept.2 e]
    rfl

/-- The rounds of a run, one after the other. -/
theorem rounds_written (hw : WriterStored p w) {now : Nat} {sorted es : List ResultEntry}
    {trafficClass : UInt8} {ns : List Nat} {rounds : List Round} {timeStamp : Nat}
    {lines : List Text} (hrounds : Service.processRounds q now sorted timeStamp ns = .ok (es, rounds))
    (hwrite : Service.writeRounds w trafficClass timeStamp rounds = .ok lines)
    (hes : ∀ r ∈ rounds, ∀ e ∈ r.entries, EntryStored i p w e) (htime : TimeKept i timeStamp) :
    ∃ bs : List Block,
      List.Forall₂ (IsBlock w) ((measuredRounds rounds).map fun r => (trafficClass, r)) bs ∧
      (∀ b ∈ bs, BlockStored i p b) ∧ lines = bs.flatMap (Block.lines p) := by
  induction ns generalizing timeStamp es rounds lines with
  | nil =>
    cases hrounds
    cases hwrite
    exact ⟨[], .nil, fun b hb => absurd hb List.not_mem_nil, rfl⟩
  | cons n ns ih =>
    unfold Service.processRounds at hrounds
    split at hrounds
    · cases hrounds
    · next es₁ r hround =>
      split at hrounds
      · cases hrounds
      · next es₂ rs hrest =>
        cases hrounds
        rw [List.forall_mem_cons] at hes
        obtain ⟨s, hs, hwrite⟩ := Run.bind_ok hwrite
        obtain ⟨lines', hlines', hwrite⟩ := Run.bind_ok hwrite
        obtain rfl := Except.ok.inj hwrite
        cases hentries : r.entries with
        | nil =>
          have hnone : Service.writeRound w trafficClass timeStamp r = .ok ⟨timeStamp, true, 0, []⟩ :=
            Service.writeRound_nil timeStamp hentries
          rw [hnone] at hs
          obtain rfl := Except.ok.inj hs
          have hstamp : r.timeStamp = timeStamp := by
            rw [Service.processRound_timeStamp hround, hentries]
            split
            · next hzero => exact hzero.symm
            · rfl
          rw [hstamp] at hrest
          obtain ⟨bs, hbs, hstored, rfl⟩ := ih hrest hlines' hes.2 htime
          have hskip : measuredRounds (r :: rs) = measuredRounds rs :=
            List.filter_cons_of_neg (by rw [hentries]; decide)
          rw [hskip]
          exact ⟨bs, hbs, hstored, rfl⟩
        | cons e rest =>
          obtain ⟨hsame, hkept, b, hblock, hb, hlines⟩ :=
            round_written hw hround hs hes.1 htime hentries
          rw [hsame] at hlines' hkept
          obtain ⟨bs, hbs, hstored, rfl⟩ := ih hrest hlines' hes.2 hkept
          have hkeep : measuredRounds (r :: rs) = r :: measuredRounds rs :=
            List.filter_cons_of_pos (by rw [hentries]; rfl)
          rw [hkeep, hlines]
          exact ⟨b :: bs, .cons hblock hbs, List.forall_mem_cons.mpr ⟨hb, hstored⟩, rfl⟩

theorem runs_written (hw : WriterStored p w) {runs : List (TracerouteRun q w)}
    (hes : ∀ x ∈ runs, ∀ r ∈ x.rounds, ∀ e ∈ r.entries, EntryStored i p w e) :
    ∃ bs : List Block, List.Forall₂ (IsBlock w) (runs.flatMap TracerouteRun.measured) bs ∧
      (∀ b ∈ bs, BlockStored i p b) ∧
      runs.flatMap TracerouteRun.lines = bs.flatMap (Block.lines p) := by
  induction runs with
  | nil => exact ⟨[], .nil, fun b hb => absurd hb List.not_mem_nil, rfl⟩
  | cons x xs ih =>
    rw [List.forall_mem_cons] at hes
    obtain ⟨bs, hbs, hstored, hlines⟩ := rounds_written hw x.processed x.written hes.1 (Or.inl rfl)
    obtain ⟨bs', hbs', hstored', hlines'⟩ := ih hes.2
    refine ⟨bs ++ bs', ?_, List.forall_mem_append.mpr ⟨hstored, hstored'⟩, ?_⟩
    · rw [List.flatMap_cons]
      exact List.rel_append hbs hbs'
    · rw [List.flatMap_cons, List.flatMap_append, hlines, hlines']

/-- **Traceroute from the measurement to the export.**  The lines of runs are read as the rows of their
rounds.  When no two blocks have the same primary key, both queries print the blocks again, sorted by
their keys, and these are read as the same rows. -/
theorem traceroutes_roundTrip (hw : WriterStored p w) (hp : p.deduplication = false)
    {runs : List (TracerouteRun q w)}
    (hes : ∀ x ∈ runs, ∀ r ∈ x.rounds, ∀ e ∈ r.entries, EntryStored i p w e)
    {identifiers : List Text} (hid : ∀ line ∈ identifiers, line.take 2 = ['#', '?'])
    {α : Type} [LinearOrder α] (addressKey : Address → α) (o : Output) (backend : Backend) :
    ∃ bs : List Block, List.Forall₂ (IsBlock w) (runs.flatMap TracerouteRun.measured) bs ∧
      ReadsAs (Results.TracerouteReader.parseContents i o) backend
        (identifiers ++ runs.flatMap TracerouteRun.lines) (bs.flatMap (Block.texts o backend)) ∧
      ((bs.map (blockKey addressKey)).Nodup →
        (∀ rows : List (Block × HopValues), rows.Perm (members Block.hops bs) →
          rows.Pairwise (memberKey (blockKey addressKey) HopValues.hopNumber · ≤
            memberKey (blockKey addressKey) HopValues.hopNumber ·) →
          ∃ order, order.Perm bs ∧ Sorted (blockKey addressKey) order ∧
            Prints p "Traceroute 2"
              (rows.flatMap fun x => sqlTracerouteActions p (hopRow x.1.header x.2))
              (order.flatMap (Block.lines p))) ∧
        ∀ order : List Block, order.Perm bs → Sorted (blockKey addressKey) order →
          Prints p "Traceroute 2" (order.flatMap fun b => noSQLTracerouteTwo p b.document)
            (order.flatMap (Block.lines p)) ∧
          ReadsAs (Results.TracerouteReader.parseContents i o) backend
            (exportTexts p "Traceroute 2" (order.flatMap (Block.lines p)))
            (order.flatMap (Block.texts o backend))) := by
  obtain ⟨bs, hbs, hstored, hlines⟩ := runs_written hw hes
  rw [hlines]
  refine ⟨bs, hbs, blocks_readsAs hstored hid, fun hkeys => ⟨fun rows hperm hsorted => ?_,
    fun order hperm hsorted => ?_⟩⟩
  · exact rows_exported hp hstored hkeys hperm hsorted
  · have hstored' : ∀ b ∈ order, BlockStored i p b := fun b hb => hstored b (hperm.mem_iff.mp hb)
    obtain ⟨identifiers', hid', hexport⟩ :=
      exportTexts_eq p "Traceroute 2" (order.flatMap (Block.lines p))
    rw [hexport]
    exact ⟨documents_exported hp hstored' hsorted, blocks_readsAs hstored' hid'⟩

/-- The time and the number of a round with entries. -/
def roundTime (x : UInt8 × Round) : Option (Int × Nat) :=
  x.2.entries.head?.map fun e => (x.2.timeStamp, e.roundNumber)

theorem blocks_times {xs : List (UInt8 × Round)} {bs : List Block} (h : List.Forall₂ (IsBlock w) xs bs) :
    bs.map (fun b => some (b.header.timeStamp, b.header.roundNumber)) = xs.map roundTime := by
  induction h with
  | nil => rfl
  | cons hblock _ ih =>
    obtain ⟨⟨e, es, hentries, hheader⟩, -⟩ := hblock
    rw [List.map_cons, List.map_cons, ih]
    unfold roundTime
    rw [hentries, hheader]
    rfl

/-- Blocks of different times or rounds have different keys. -/
theorem blocks_nodup {α : Type} [LinearOrder α] (addressKey : Address → α)
    {xs : List (UInt8 × Round)} {bs : List Block} (h : List.Forall₂ (IsBlock w) xs bs)
    (htimes : (xs.map roundTime).Nodup) : (bs.map (blockKey addressKey)).Nodup := by
  rw [← blocks_times h] at htimes
  refine List.pairwise_map.mpr ((List.pairwise_map.mp htimes).imp fun hne hkey => hne ?_)
  unfold blockKey headerKey at hkey
  simp only [toLex_inj, Prod.mk.injEq] at hkey
  rw [hkey.1, hkey.2.2.2.2.2.2]

/-! ## Two runs -/

/-- A result that is there. -/
theorem eq_ok_of_isOk {ε α : Type} {x : Except ε α} (h : x.isOk = true) (a : α) :
    x = .ok (x.toOption.getD a) := by
  cases x with
  | error e => cases h
  | ok b => rfl

/-- A router and the destination. -/
def measuredHops (sendTime roundNumber : Nat) : List ResultEntry :=
  [measuredEntry sendTime roundNumber 1 (.v4 0x0a000001) .timeExceeded,
    measuredEntry (sendTime + 1000) roundNumber 2 (.v4 0x0a000002) .success]

def measuredRoundsOf (entries : List ResultEntry) : List ResultEntry × List Round :=
  (Service.processRounds Service.udpTraceroute 0x178f2cc6c7f9437a entries 0
    (List.range 2)).toOption.getD ([], [])

def measuredRun (entries : List ResultEntry)
    (hprocessed : (Service.processRounds Service.udpTraceroute 0x178f2cc6c7f9437a entries 0
      (List.range 2)).isOk = true)
    (hwritten : (Service.writeRounds measuredWriter 0 0 (measuredRoundsOf entries).2).isOk = true) :
    TracerouteRun Service.udpTraceroute measuredWriter where
  now := 0x178f2cc6c7f9437a
  sorted := entries
  entries := (measuredRoundsOf entries).1
  rounds := (measuredRoundsOf entries).2
  trafficClass := 0
  lines := (Service.writeRounds measuredWriter 0 0 (measuredRoundsOf entries).2).toOption.getD []
  processed := eq_ok_of_isOk hprocessed ([], [])
  written := eq_ok_of_isOk hwritten []

/-- A run without entries of its first round, and before it one with two rounds. -/
def measuredRuns : List (TracerouteRun Service.udpTraceroute measuredWriter) :=
  [measuredRun (measuredHops 0x178f2cc6c7f9437a 1) (by decide +kernel) (by decide +kernel),
    measuredRun (measuredHops 0x178f2cc6c7ea013a 0 ++ measuredHops 0x178f2cc6c7ea213a 1)
      (by decide +kernel) (by decide +kernel)]

theorem measuredRuns_stored : ∀ x ∈ measuredRuns, ∀ r ∈ x.rounds, ∀ e ∈ r.entries,
    EntryStored Results.twoAddresses measuredOptions measuredWriter e := by
  intro x hx r hr e he
  have hmem : e ∈ measuredRuns.flatMap fun x => x.rounds.flatMap Round.entries :=
    List.mem_flatMap_of_mem hx (List.mem_flatMap_of_mem hr he)
  have hentries : (measuredRuns.flatMap fun x => x.rounds.flatMap Round.entries) =
      measuredHops 0x178f2cc6c7f9437a 1 ++
        (measuredHops 0x178f2cc6c7ea013a 0 ++ measuredHops 0x178f2cc6c7ea213a 1) := by
    rfl
  rw [hentries] at hmem
  unfold measuredHops at hmem
  simp only [List.cons_append, List.nil_append, List.mem_cons, List.not_mem_nil, or_false] at hmem
  rcases hmem with rfl | rfl | rfl | rfl | rfl | rfl
  · exact measuredEntry_stored (by decide +kernel) (by decide) (by decide) (by decide) (Or.inl rfl)
  · exact measuredEntry_stored (by decide +kernel) (by decide) (by decide) (by decide) (Or.inr rfl)
  · exact measuredEntry_stored (by decide +kernel) (by decide) (by decide) (by decide) (Or.inl rfl)
  · exact measuredEntry_stored (by decide +kernel) (by decide) (by decide) (by decide) (Or.inr rfl)
  · exact measuredEntry_stored (by decide +kernel) (by decide) (by decide) (by decide) (Or.inl rfl)
  · exact measuredEntry_stored (by decide +kernel) (by decide) (by decide) (by decide) (Or.inr rfl)

/-- The lines of three blocks are read as their rows, and the exports have the blocks in order. -/
theorem traceroutes_roundTrip_three :
    ∃ bs order : List Block,
      List.Forall₂ (IsBlock measuredWriter) (measuredRuns.flatMap TracerouteRun.measured) bs ∧
      bs.length = 3 ∧
      ReadsAs (Results.TracerouteReader.parseContents Results.twoAddresses Results.tracerouteTable)
        .noSqlMongoDB (measuredRuns.flatMap TracerouteRun.lines)
        (bs.flatMap (Block.texts Results.tracerouteTable .noSqlMongoDB)) ∧
      order.Perm bs ∧ Sorted (blockKey (id : Address → Address)) order ∧
      Prints measuredOptions "Traceroute 2"
        ((members Block.hops order).flatMap fun x =>
          sqlTracerouteActions measuredOptions (hopRow x.1.header x.2))
        (order.flatMap (Block.lines measuredOptions)) ∧
      Prints measuredOptions "Traceroute 2"
        (order.flatMap fun b => noSQLTracerouteTwo measuredOptions b.document)
        (order.flatMap (Block.lines measuredOptions)) ∧
      ReadsAs (Results.TracerouteReader.parseContents Results.twoAddresses Results.tracerouteTable)
        .noSqlMongoDB
        (exportTexts measuredOptions "Traceroute 2" (order.flatMap (Block.lines measuredOptions)))
        (order.flatMap (Block.texts Results.tracerouteTable .noSqlMongoDB)) := by
  obtain ⟨bs, hbs, hreads, hexports⟩ := traceroutes_roundTrip measuredWriter_stored rfl
    measuredRuns_stored (List.forall_mem_nil _) (id : Address → Address) Results.tracerouteTable
    .noSqlMongoDB
  rw [List.nil_append] at hreads
  have hkeys : (bs.map (blockKey (id : Address → Address))).Nodup :=
    blocks_nodup id hbs (by decide +kernel)
  obtain ⟨order, hperm, hsorted⟩ := Grouping.exists_sorted hkeys
  obtain ⟨hrows, hdocuments⟩ := hexports hkeys
  have hmembers : Sorted (memberKey (blockKey id) HopValues.hopNumber) (members Block.hops order) :=
    Grouping.members_sorted hsorted fun b _ => b.hops_sorted
  obtain ⟨order', hperm', hsorted', hsql⟩ := hrows (members Block.hops order)
    (hperm.flatMap_right _) (hmembers.imp le_of_lt)
  obtain rfl : order' = order := hsorted'.eq_of_perm hsorted (hperm'.trans hperm.symm)
  obtain ⟨hnoSQL, hagain⟩ := hdocuments order' hperm hsorted
  exact ⟨bs, order', hbs, hbs.length_eq.symm.trans (by decide +kernel), hreads, hperm, hsorted, hsql,
    hnoSQL, hagain⟩

end HiPerConTracer.Query
