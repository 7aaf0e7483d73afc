import HiPerConTracer.Lib.Run
import HiPerConTracer.Results.Conversions

/-!
# Readers of results files (`reader-ping.cc`, `reader-traceroute.cc`)

`parseContents` reads the lines of a file one after the other, and adds rows to a statement.  Its
loop is a run over the lines, with the local variables as the state.  The loop ends when
`std::getline` returns false: at the end of the file, or when the stream fails.
-/

namespace HiPerConTracer.Results
open Net

/-- What the writing of rows depends on. -/
structure Output where
  table : String
  addressText : Address → Text
  base64 : Address → Text

variable (i : Input) (o : Output)

/-! ## Streams -/

/-- An `InputStream`: the lines that can be read, and whether the stream buffer throws an exception
behind them, instead of the end of the file. -/
structure InputStream where
  lines : List Text
  fails : Bool
  /-- Whether `badbit` is in the mask of `exceptions`; `openStream` does not set it. -/
  throwsBad : Bool
deriving DecidableEq, Repr

def openStream (lines : List Text) (fails : Bool) : InputStream := ⟨lines, fails, false⟩

/-- `std::getline` behind the last line: it returns false, or the exception is thrown again. -/
def InputStream.getlineEnd (s : InputStream) : Except Failure Unit :=
  if s.fails ∧ s.throwsBad then .error (.exception "stream") else .ok ()

/-- A loop over the lines. -/
def InputStream.forLines {σ : Type} (s : InputStream) (body : σ → Text → Except Failure σ)
    (start : σ) : Except Failure σ :=
  match Run.exec body start s.lines with
  | .error e => .error e
  | .ok t =>
    match s.getlineEnd with
    | .error e => .error e
    | .ok () => .ok t

/-! ## Values -/

/-- The columns with the time source, the delays and the RTTs. -/
structure Timing where
  timeSource : Nat
  delayAppSend : Int
  delayQueuing : Int
  delayAppReceive : Int
  rttApp : Int
  rttSoftware : Int
  rttHardware : Int
deriving DecidableEq, Repr

def parseTiming (tuple : List Text) (k : Nat) : Except Failure Timing := do
  let timeSource ← parseTimeSource i (column tuple k)
  let delayAppSend ← parseNanoseconds i (column tuple (k + 1))
  let delayQueuing ← parseNanoseconds i (column tuple (k + 2))
  let delayAppReceive ← parseNanoseconds i (column tuple (k + 3))
  let rttApp ← parseNanoseconds i (column tuple (k + 4))
  let rttSoftware ← parseNanoseconds i (column tuple (k + 5))
  let rttHardware ← parseNanoseconds i (column tuple (k + 6))
  return ⟨timeSource, delayAppSend, delayQueuing, delayAppReceive, rttApp, rttSoftware, rttHardware⟩

/-- The values of a Ping line. -/
structure PingValues where
  protocol : Char
  measurementID : Nat
  sourceIP : Address
  destinationIP : Address
  sendTimeStamp : Int
  burstSeq : Nat
  trafficClass : Nat
  packetSize : Nat
  responseSize : Nat
  checksum : Nat
  sourcePort : Nat
  destinationPort : Nat
  status : Nat
  timing : Timing
deriving DecidableEq, Repr

def parsePing (tuple : List Text) : Except Failure PingValues := do
  let protocol := (column tuple 0).getD 2 '\x00'
  let measurementID ← parseMeasurementID i (column tuple 1)
  let sourceIP ← parseAddress i (column tuple 2)
  let destinationIP ← parseAddress i (column tuple 3)
  let sendTimeStamp ← parseTimeStamp i (column tuple 4)
  let burstSeq ← parseRoundNumber i (column tuple 5)
  let trafficClass ← parseTrafficClass i (column tuple 6)
  let packetSize ← parsePacketSize i (column tuple 7)
  let responseSize ← parseResponseSize i (column tuple 8)
  let checksum ← parseChecksum i (column tuple 9)
  let sourcePort ← parsePort i (column tuple 10)
  let destinationPort ← parsePort i (column tuple 11)
  let status ← parseStatus i (column tuple 12) 10
  let timing ← parseTiming i tuple 13
  return { protocol, measurementID, sourceIP, destinationIP, sendTimeStamp, burstSeq, trafficClass
           packetSize, responseSize, checksum, sourcePort, destinationPort, status, timing }

/-- The values of the header of a Traceroute block. -/
structure HeaderValues where
  protocol : Char
  measurementID : Nat
  sourceIP : Address
  destinationIP : Address
  timeStamp : Int
  roundNumber : Nat
  totalHops : Nat
  trafficClass : Nat
  packetSize : Nat
  checksum : Nat
  sourcePort : Nat
  destinationPort : Nat
  statusFlags : Nat
  pathHash : Int
deriving DecidableEq, Repr

def parseHeader (tuple : List Text) : Except Failure HeaderValues := do
  let protocol := (column tuple 0).getD 2 '\x00'
  let measurementID ← parseMeasurementID i (column tuple 1)
  let sourceIP ← parseAddress i (column tuple 2)
  let destinationIP ← parseAddress i (column tuple 3)
  let timeStamp ← parseTimeStamp i (column tuple 4)
  let roundNumber ← parseRoundNumber i (column tuple 5)
  let totalHops ← parseTotalHops i (column tuple 6)
  let trafficClass ← parseTrafficClass i (column tuple 7)
  let packetSize ← parsePacketSize i (column tuple 8)
  let checksum ← parseChecksum i (column tuple 9)
  let sourcePort ← parsePort i (column tuple 10)
  let destinationPort ← parsePort i (column tuple 11)
  let statusFlags ← parseStatus i (column tuple 12) 16
  let pathHash ← parsePathHash i (column tuple 13)
  return { protocol, measurementID, sourceIP, destinationIP, timeStamp, roundNumber, totalHops
           trafficClass, packetSize, checksum, sourcePort, destinationPort, statusFlags, pathHash }

/-- The values of a hop line. -/
structure HopValues where
  sendTimeStamp : Int
  hopNumber : Nat
  responseSize : Nat
  status : Nat
  timing : Timing
  hopIP : Address
deriving DecidableEq, Repr

def parseHop (tuple : List Text) : Except Failure HopValues := do
  let sendTimeStamp ← parseTimeStamp i (column tuple 0)
  let hopNumber ← parseHopNumber i (column tuple 1)
  let responseSize ← parseResponseSize i (column tuple 2)
  let status ← parseStatus i (column tuple 3) 10
  let timing ← parseTiming i tuple 4
  let hopIP ← parseAddress i (column tuple 11)
  return { sendTimeStamp, hopNumber, responseSize, status, timing, hopIP }

/-! ## Rows -/

/-- A number without sign. -/
def unsignedText (n : Nat) : Text := Numeral.text 10 n

/-- `(unsigned int)protocol`, of a signed character. -/
def protocolText (protocol : Char) : Text :=
  unsignedText (if protocol.toNat < 128 then protocol.toNat else 2 ^ 32 - 256 + protocol.toNat)

/-- A time point, as `unsigned long long`. -/
def timePointText (ns : Int) : Text := unsignedText (ns % 2 ^ 64).toNat

/-- The cells of named fields; the names are for NoSQL only. -/
def fieldCells (isSQL : Bool) (fields : List (String × Text)) : List Text :=
  fields.map fun (name, value) =>
    if isSQL then value else ['"'] ++ name.toList ++ ['"', ':'] ++ value

def timingFields (t : Timing) : List (String × Text) := [
  ("timeSource", unsignedText t.timeSource),
  ("delay.appSend", Statement.decimal t.delayAppSend),
  ("delay.queuing", Statement.decimal t.delayQueuing),
  ("delay.appRecv", Statement.decimal t.delayAppReceive),
  ("rtt.app", Statement.decimal t.rttApp),
  ("rtt.sw", Statement.decimal t.rttSoftware),
  ("rtt.hw", Statement.decimal t.rttHardware)]

def pingFields (backend : Backend) (v : PingValues) : List (String × Text) :=
  let encodeAddress := Statement.encodeAddress o.addressText o.base64 backend
  [("sendTimestamp", timePointText v.sendTimeStamp),
    ("measurementID", unsignedText v.measurementID),
    ("sourceIP", encodeAddress v.sourceIP),
    ("destinationIP", encodeAddress v.destinationIP),
    ("protocol", protocolText v.protocol),
    ("trafficClass", unsignedText v.trafficClass),
    ("burstSeq", unsignedText v.burstSeq),
    ("packetSize", unsignedText v.packetSize),
    ("responseSize", unsignedText v.responseSize),
    ("checksum", unsignedText v.checksum),
    ("sourcePort", unsignedText v.sourcePort),
    ("destinationPort", unsignedText v.destinationPort),
    ("status", unsignedText v.status)] ++ timingFields v.timing

/-- The row of a hop, for SQL. -/
def hopRow (backend : Backend) (h : HeaderValues) (v : HopValues) : List Text :=
  let encodeAddress := Statement.encodeAddress o.addressText o.base64 backend
  [timePointText h.timeStamp,
    unsignedText h.measurementID,
    encodeAddress h.sourceIP,
    encodeAddress h.destinationIP,
    protocolText h.protocol,
    unsignedText h.trafficClass,
    unsignedText h.roundNumber,
    unsignedText v.hopNumber,
    unsignedText h.totalHops,
    unsignedText h.packetSize,
    unsignedText v.responseSize,
    unsignedText h.checksum,
    unsignedText h.sourcePort,
    unsignedText h.destinationPort,
    unsignedText (v.status ||| h.statusFlags),
    Statement.decimal h.pathHash,
    timePointText v.sendTimeStamp,
    encodeAddress v.hopIP] ++ fieldCells true (timingFields v.timing)

/-- The begin of the row of a block, for NoSQL. -/
def headerCells (backend : Backend) (h : HeaderValues) : List Text :=
  let encodeAddress := Statement.encodeAddress o.addressText o.base64 backend
  fieldCells false [
    ("timestamp", timePointText h.timeStamp),
    ("measurementID", unsignedText h.measurementID),
    ("sourceIP", encodeAddress h.sourceIP),
    ("destinationIP", encodeAddress h.destinationIP),
    ("protocol", protocolText h.protocol),
    ("trafficClass", unsignedText h.trafficClass),
    ("roundNumber", unsignedText h.roundNumber),
    ("packetSize", unsignedText h.packetSize),
    ("checksum", unsignedText h.checksum),
    ("sourcePort", unsignedText h.sourcePort),
    ("destinationPort", unsignedText h.destinationPort),
    ("statusFlags", unsignedText h.statusFlags),
    ("totalHops", unsignedText h.totalHops),
    ("pathHash", Statement.decimal h.pathHash)] ++ ["\"hops\": [ ".toList]

/-- A hop in the row of its block, for NoSQL. -/
def hopCells (backend : Backend) (v : HopValues) : List Text :=
  fieldCells false ([
    ("sendTimestamp", timePointText v.sendTimeStamp),
    ("responseSize", unsignedText v.responseSize),
    ("hopIP", Statement.encodeAddress o.addressText o.base64 backend v.hopIP),
    ("status", unsignedText v.status)] ++ timingFields v.timing)

/-- A statement and the rows that the caller counts. -/
structure Parsed where
  statement : Statement
  rows : Nat
deriving DecidableEq, Repr

/-! ## Begin and end -/

def sqlColumns (isPing : Bool) : String :=
  if isPing then
    " (SendTimestamp,MeasurementID,SourceIP,DestinationIP,Protocol,TrafficClass,BurstSeq," ++
    "PacketSize,ResponseSize,Checksum,SourcePort,DestinationPort,Status,TimeSource,Delay_AppSend," ++
    "Delay_Queuing, Delay_AppReceive,RTT_App,RTT_SW,RTT_HW) VALUES"
  else
    " (Timestamp,MeasurementID,SourceIP,DestinationIP,Protocol,TrafficClass,RoundNumber,HopNumber," ++
    "TotalHops,PacketSize,ResponseSize,Checksum,SourcePort,DestinationPort,Status,PathHash," ++
    "SendTimestamp,HopIP,TimeSource,Delay_AppSend,Delay_Queuing,Delay_AppReceive,RTT_App,RTT_SW," ++
    "RTT_HW) VALUES"

/-- The text of a statement without rows. -/
def beginText (isPing : Bool) (backend : Backend) : Text :=
  if backend.isSQL then ("INSERT INTO " ++ o.table ++ sqlColumns isPing).toList
  else ("\x7b \"" ++ o.table ++ "\": [").toList

/-- `beginParsing`, with the statement of the database client cleared. -/
def beginParsing (isPing : Bool) (backend : Backend) : Parsed :=
  ⟨⟨backend, 0, false, beginText o isPing backend⟩, 0⟩

/-- `finishParsing`: the statement to be executed, if there are rows. -/
def finishParsing (p : Parsed) : Except Failure (Option Statement) :=
  if p.statement.rows ≠ p.rows then .error .assertion
  else if p.rows > 0 then
    .ok (some (if p.statement.backend.isSQL then p.statement
      else p.statement.append " \n] \x7d".toList))
  else .ok none

/-! ## Ping -/

namespace PingReader

def columns : Nat := 20

/-- A row with its cells. -/
def writeRow (p : Parsed) (v : PingValues) : Except Failure Parsed := do
  let s ← p.statement.beginRow true
  let s ← s.cells (fieldCells s.backend.isSQL (pingFields o s.backend v))
  let s ← s.endRow
  return ⟨s, p.rows + 1⟩

/-- The line as it is parsed: converted from version 1. -/
def convert (inputLine : Text) : Except Failure Text :=
  if inputLine.take 3 = ['#', 'P', ' '] then convertOldPingLine inputLine else .ok inputLine

/-- The loop of `parseContents` for one line. -/
def readLine (state : List Text × Parsed) (inputLine : Text) :
    Except Failure (List Text × Parsed) :=
  let (tuple, p) := state
  if inputLine.take 2 = ['#', '?'] then .ok state
  else if inputLine.take 2 = ['#', 'P'] then do
    let inputLine ← convert inputLine
    let tuple := assignColumns columns (columnsOf inputLine) tuple
    if (columnsOf inputLine).length < columns then
      .error (.dataError ("Too few columns in input file " ++ i.file))
    else do
      let v ← parsePing i tuple
      let p ← writeRow o p v
      return (tuple, p)
  else .error (.dataError ("Unexpected input in input file " ++ i.file))

def parseContents (stream : InputStream) (p : Parsed) : Except Failure Parsed :=
  (stream.forLines (readLine i o) (List.replicate columns [], p)).map (·.2)

end PingReader

/-! ## Traceroute -/

namespace TracerouteReader

def minColumns : Nat := 4
def maxColumns : Nat := 14

/-- The local variables of `parseContents`, and what it gets. -/
structure State where
  version : Nat
  header : HeaderValues
  oldTimeStamp : Nat
  tuple : List Text
  parsed : Parsed
deriving DecidableEq, Repr

/-- `~0U`: there has not been a header. -/
def noStatusFlags : Nat := 0xffffffff

def State.start (p : Parsed) : State where
  version := 2
  header :=
    { protocol := '\x00', measurementID := 0, sourceIP := .v4 0, destinationIP := .v4 0
      timeStamp := 0, roundNumber := 0, totalHops := 0, trafficClass := 0, packetSize := 0
      checksum := 0, sourcePort := 0, destinationPort := 0
      statusFlags := noStatusFlags, pathHash := 0 }
  oldTimeStamp := 0
  tuple := List.replicate maxColumns []
  parsed := p

/-- The end of the row of a block, for NoSQL. -/
def endBlock (h : HeaderValues) (p : Parsed) : Except Failure Parsed :=
  if h.statusFlags ≠ noStatusFlags ∧ p.statement.backend.isSQL = false then do
    let s ← (p.statement.append [']']).endRow
    return ⟨s, p.rows + 1⟩
  else .ok p

/-- The begin of the row of a block, for NoSQL. -/
def beginBlock (h : HeaderValues) (p : Parsed) : Except Failure Parsed :=
  if p.statement.backend.isSQL then .ok p
  else do
    let s ← p.statement.beginRow true
    let s ← s.cells (headerCells o s.backend h)
    return ⟨s, p.rows⟩

/-- A row of its own for SQL, and a part of the row of the block for NoSQL. -/
def writeHop (h : HeaderValues) (v : HopValues) (p : Parsed) : Except Failure Parsed :=
  if p.statement.backend.isSQL then do
    let s ← p.statement.beginRow true
    let s ← s.cells (hopRow o s.backend h v)
    let s ← s.endRow
    return ⟨s, p.rows + 1⟩
  else do
    let s := p.statement.append (if v.hopNumber > 1 then ", \x7b ".toList else " \x7b ".toList)
    let s ← s.cells (hopCells o s.backend v)
    return ⟨s.append " \x7d".toList, p.rows⟩

def isHeader (tuple : List Text) : Bool :=
  (column tuple 0).length ≥ 3 ∧ (column tuple 0).take 2 = ['#', 'T']

def isHop (tuple : List Text) : Bool := (column tuple 0).head? = some '\t'

/-- The line as it is parsed: converted, once there has been a header of version 1. -/
def convert (s : State) (inputLine : Text) : Except Failure (State × Text) :=
  let s := if inputLine.take 3 = ['#', 'T', ' '] then { s with version := 1 } else s
  if s.version < 2 then do
    let (line, oldTimeStamp) ← convertOldTracerouteLine inputLine s.oldTimeStamp
    return ({ s with oldTimeStamp }, line)
  else .ok (s, inputLine)

/-- The columns of a line in the tuple. -/
def readTuple (s : State) (inputLine : Text) : Except Failure State := do
  let (s, line) ← convert s inputLine
  let columns := columnsOf line
  if columns.length < minColumns then
    .error (.dataError ("Too few columns in input file " ++ i.file))
  else .ok { s with tuple := assignColumns maxColumns columns s.tuple }

/-- What the columns of a line do. -/
def readColumns (s : State) : Except Failure State :=
  if isHeader s.tuple then do
    let parsed ← endBlock s.header s.parsed
    let header ← parseHeader i s.tuple
    let parsed ← beginBlock o header parsed
    return { s with header, parsed }
  else if isHop s.tuple then
    if s.header.statusFlags = noStatusFlags then
      .error (.dataError "Hop data has no corresponding #T line")
    else do
      let v ← parseHop i s.tuple
      let parsed ← writeHop o s.header v s.parsed
      return { s with parsed }
  else .error (.dataError ("Unexpected input in input file " ++ i.file))

/-- The loop of `parseContents` for one line. -/
def readLine (s : State) (inputLine : Text) : Except Failure State :=
  if inputLine.take 2 = ['#', '?'] then .ok s
  else do
    let s ← readTuple i s inputLine
    readColumns i o s

def parseContents (stream : InputStream) (p : Parsed) : Except Failure Parsed := do
  let s ← stream.forLines (readLine i o) (State.start p)
  endBlock s.header s.parsed

end TracerouteReader

/-! ## A file and a table -/

/-- A file that is read at its time, with two addresses. -/
def twoAddresses : Input where
  file := "Traceroute-1.hpct"
  now := 0x178f2cc6c7ea013a
  makeAddress := fun value =>
    if value = "10.0.0.1".toList then .ok (.v4 0x0a000001)
    else if value = "10.0.0.2".toList then .ok (.v4 0x0a000002)
    else .error "Invalid argument"

def tracerouteTable : Output where
  table := "Traceroute"
  addressText := fun a => if a = .v4 0x0a000001 then "10.0.0.1".toList else "10.0.0.2".toList
  base64 := fun a => if a = .v4 0x0a000001 then "CgAAAQ==".toList else "CgAAAg==".toList

end HiPerConTracer.Results
