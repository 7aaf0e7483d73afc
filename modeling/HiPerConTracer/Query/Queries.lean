import HiPerConTracer.Query.Output

/-!
# The queries of `hpct-query`

Measurements are stored as rows of an SQL database or as documents of a NoSQL database, in tables of
version 2, which the importer writes, or of version 1.  A row is read by column numbers, a document by
field names: a field that is no `int32` is no integer for `getInteger`, and ends the program.
-/

namespace HiPerConTracer.Query
open Net
open Results (Text PingValues HeaderValues HopValues Timing)

/-! ## Cells -/

inductive Cell where
  | int (value : Int)
  | address (a : Address)
deriving Repr

/-- `decodeAddress`; a mapped address is an IPv4 address.  What is stored has no scope identifier. -/
def decodeAddress : Address → Address
  | .v4 value => .v4 value
  | .v6 value _ =>
      if value.toNat / 2 ^ 32 = 0xffff then .v4 (UInt32.ofNat value.toNat) else .v6 value 0

/-- A row of a result, with columns from 1 on. -/
abbrev Row := List Cell

namespace Row

def int (r : Row) (column : Nat) : Int :=
  match r[column - 1]? with
  | some (.int value) => value
  | _ => 0

/-- `getInteger`: `atoi` cuts a number to 32 bits. -/
def getInteger (r : Row) (column : Nat) : Int := (r.int column).bmod (2 ^ 32)

def getBigInt (r : Row) (column : Nat) : Int := (r.int column).bmod (2 ^ 64)

def getAddress (r : Row) (column : Nat) : Address :=
  match r[column - 1]? with
  | some (.address a) => decodeAddress a
  | _ => .v4 0

end Row

abbrev Fields := List (String × Cell)

namespace Fields

def InInt32 (value : Int) : Prop := -2 ^ 31 ≤ value ∧ value < 2 ^ 31

def InInt64 (value : Int) : Prop := -2 ^ 63 ≤ value ∧ value < 2 ^ 63

instance (value : Int) : Decidable (InInt32 value) := inferInstanceAs (Decidable (_ ∧ _))

instance (value : Int) : Decidable (InInt64 value) := inferInstanceAs (Decidable (_ ∧ _))

def getInteger (d : Fields) (column : String) : Except Ending Int :=
  match d.lookup column with
  | some (.int value) => if InInt32 value then .ok value else .error .badData
  | _ => .error .badData

def getBigInt (d : Fields) (column : String) : Except Ending Int :=
  match d.lookup column with
  | some (.int value) => if InInt64 value then .ok value else .error .badData
  | _ => .error .badData

def getAddress (d : Fields) (column : String) : Except Ending Address :=
  match d.lookup column with
  | some (.address a) => .ok (decodeAddress a)
  | _ => .error .badData

/-- An optional field. -/
def getIntegerOr (d : Fields) (column : String) (default : Int) : Except Ending Int :=
  if (d.lookup column).isSome then d.getInteger column else .ok default

end Fields

/-- A document of a Traceroute has an array of hops. -/
structure Document where
  fields : Fields
  hops : List Fields

/-! ## SQL -/

section Queries
variable (p : Options)

/-- A row of a query for Ping, of both versions. -/
def sqlPing (r : Row) : PingValues where
  sendTimeStamp := unsigned 64 (r.getBigInt 1)
  sourceIP := r.getAddress 3
  destinationIP := r.getAddress 4
  measurementID := mapMeasurementID p (unsigned 64 (r.getInteger 2)) (r.getAddress 3)
  protocol := Char.ofNat (unsigned 8 (r.getInteger 5))
  trafficClass := unsigned 8 (r.getInteger 6)
  burstSeq := unsigned 32 (r.getInteger 7)
  packetSize := unsigned 32 (r.getInteger 8)
  responseSize := unsigned 32 (r.getInteger 9)
  checksum := unsigned 16 (r.getInteger 10)
  sourcePort := unsigned 16 (r.getInteger 11)
  destinationPort := unsigned 16 (r.getInteger 12)
  status := unsigned 32 (r.getInteger 13)
  timing :=
    { timeSource := unsigned 32 (r.getInteger 14)
      delayAppSend := r.getBigInt 15
      delayQueuing := r.getBigInt 16
      delayAppReceive := r.getBigInt 17
      rttApp := r.getBigInt 18
      rttSoftware := r.getBigInt 19
      rttHardware := r.getBigInt 20 }

def sqlPingActions (r : Row) : List Action := [outputPing p (sqlPing p r)]

/-- The values of a row of a query for Traceroute, of both versions. -/
def sqlTracerouteHop (r : Row) : HopValues where
  hopNumber := unsigned 32 (r.getInteger 8)
  responseSize := unsigned 32 (r.getInteger 11)
  status := unsigned 32 (r.getInteger 15)
  sendTimeStamp := unsigned 64 (r.getBigInt 17)
  hopIP := r.getAddress 18
  timing :=
    { timeSource := unsigned 32 (r.getInteger 19)
      delayAppSend := r.getBigInt 20
      delayQueuing := r.getBigInt 21
      delayAppReceive := r.getBigInt 22
      rttApp := r.getBigInt 23
      rttSoftware := r.getBigInt 24
      rttHardware := r.getBigInt 25 }

def sqlTracerouteHeader (r : Row) : HeaderValues where
  timeStamp := unsigned 64 (r.getBigInt 1)
  sourceIP := r.getAddress 3
  destinationIP := r.getAddress 4
  measurementID := mapMeasurementID p (unsigned 64 (r.getBigInt 2)) (r.getAddress 3)
  protocol := Char.ofNat (unsigned 8 (r.getInteger 5))
  trafficClass := unsigned 8 (r.getInteger 6)
  roundNumber := unsigned 32 (r.getInteger 7)
  totalHops := unsigned 32 (r.getInteger 9)
  packetSize := unsigned 32 (r.getInteger 10)
  checksum := unsigned 16 (r.getInteger 12)
  sourcePort := unsigned 16 (r.getInteger 13)
  destinationPort := unsigned 16 (r.getInteger 14)
  -- status - (status & 0xff)
  statusFlags := unsigned 32 (r.getInteger 15) - unsigned 32 (r.getInteger 15) % 256
  pathHash := r.getBigInt 16

/-- The header is written for the first hop. -/
def sqlTracerouteActions (r : Row) : List Action :=
  (if (sqlTracerouteHop r).hopNumber = 1 then [outputTracerouteHeader p (sqlTracerouteHeader p r)]
    else []) ++ [outputTracerouteHop p (sqlTracerouteHop r)]

/-! ## NoSQL -/

def noSQLPingOne (d : Fields) : Except Ending PingValues := do
  let timestamp ← d.getBigInt "timestamp"
  let sourceIP ← d.getAddress "source"
  let destinationIP ← d.getAddress "destination"
  let trafficClass ← d.getIntegerOr "trafficClass" 0
  let packetSize ← d.getIntegerOr "packetSize" 0
  let checksum ← d.getInteger "checksum"
  let status ← d.getInteger "status"
  let rtt ← d.getBigInt "rtt"
  return {
    sendTimeStamp := unsigned 64 (1000 * timestamp)
    sourceIP, destinationIP
    measurementID := mapMeasurementID p 0 sourceIP
    protocol := 'i'
    trafficClass := unsigned 8 trafficClass
    burstSeq := 0
    packetSize := unsigned 32 packetSize
    responseSize := 0
    checksum := unsigned 16 checksum
    sourcePort := 0
    destinationPort := 0
    status := unsigned 32 status
    timing := {
      timeSource := 0
      delayAppSend := -1
      delayQueuing := -1
      delayAppReceive := -1
      rttApp := (1000 * rtt).bmod (2 ^ 64)
      -- Everywhere else these are -1.
      rttSoftware := 0
      rttHardware := 0 } }

/-- The fields with the timing, which documents of version 2 have for a Ping and for a hop. -/
def noSQLTiming (d : Fields) : Except Ending Timing := do
  let timeSource ← d.getInteger "timeSource"
  let delayAppSend ← d.getBigInt "delay.appSend"
  let delayQueuing ← d.getBigInt "delay.queuing"
  let delayAppReceive ← d.getBigInt "delay.appRecv"
  let rttApp ← d.getBigInt "rtt.app"
  let rttSoftware ← d.getBigInt "rtt.sw"
  let rttHardware ← d.getBigInt "rtt.hw"
  return {
    timeSource := unsigned 32 timeSource
    delayAppSend, delayQueuing, delayAppReceive, rttApp, rttSoftware, rttHardware }

def noSQLPingTwo (d : Fields) : Except Ending PingValues := do
  let sendTimestamp ← d.getBigInt "sendTimestamp"
  let sourceIP ← d.getAddress "sourceIP"
  let destinationIP ← d.getAddress "destinationIP"
  let measurementID ← d.getInteger "measurementID"
  let protocol ← d.getInteger "protocol"
  let trafficClass ← d.getInteger "trafficClass"
  let burstSeq ← d.getInteger "burstSeq"
  let packetSize ← d.getInteger "packetSize"
  let responseSize ← d.getInteger "responseSize"
  let checksum ← d.getInteger "checksum"
  let sourcePort ← d.getInteger "sourcePort"
  let destinationPort ← d.getInteger "destinationPort"
  let status ← d.getInteger "status"
  let timing ← noSQLTiming d
  return {
    sendTimeStamp := unsigned 64 sendTimestamp
    sourceIP, destinationIP
    measurementID := mapMeasurementID p (unsigned 64 measurementID) sourceIP
    protocol := Char.ofNat (unsigned 8 protocol)
    trafficClass := unsigned 8 trafficClass
    burstSeq := unsigned 32 burstSeq
    packetSize := unsigned 32 packetSize
    responseSize := unsigned 32 responseSize
    checksum := unsigned 16 checksum
    sourcePort := unsigned 16 sourcePort
    destinationPort := unsigned 16 destinationPort
    status := unsigned 32 status
    timing }

def noSQLHeaderOne (d : Fields) : Except Ending HeaderValues := do
  let timestamp ← d.getBigInt "timestamp"
  let sourceIP ← d.getAddress "source"
  let destinationIP ← d.getAddress "destination"
  let trafficClass ← d.getIntegerOr "trafficClass" 0
  let round ← d.getInteger "round"
  let totalHops ← d.getInteger "totalHops"
  let packetSize ← d.getIntegerOr "packetSize" 0
  let checksum ← d.getInteger "checksum"
  let statusFlags ← d.getInteger "statusFlags"
  let pathHash ← d.getBigInt "pathHash"
  return {
    timeStamp := unsigned 64 (1000 * timestamp)
    sourceIP, destinationIP
    measurementID := mapMeasurementID p 0 sourceIP
    protocol := 'i'
    trafficClass := unsigned 8 trafficClass
    roundNumber := unsigned 32 round
    totalHops := unsigned 32 totalHops
    packetSize := unsigned 32 packetSize
    checksum := unsigned 16 checksum
    sourcePort := 0
    destinationPort := 0
    statusFlags := unsigned 32 statusFlags
    pathHash }

/-- The hop has the time stamp of its block. -/
def noSQLHopOne (timeStamp : Int) (hopNumber : Nat) (d : Fields) : Except Ending HopValues := do
  let hopIP ← d.getAddress "hop"
  let status ← d.getInteger "status"
  let rtt ← d.getBigInt "rtt"
  return {
    sendTimeStamp := timeStamp
    hopNumber
    responseSize := 0
    hopIP
    status := unsigned 32 status
    timing := {
      timeSource := 0
      delayAppSend := -1
      delayQueuing := -1
      delayAppReceive := -1
      rttApp := (1000 * rtt).bmod (2 ^ 64)
      rttSoftware := -1
      rttHardware := -1 } }

def noSQLHeaderTwo (d : Fields) : Except Ending HeaderValues := do
  let timestamp ← d.getBigInt "timestamp"
  let sourceIP ← d.getAddress "sourceIP"
  let destinationIP ← d.getAddress "destinationIP"
  let measurementID ← d.getBigInt "measurementID"
  let protocol ← d.getInteger "protocol"
  let trafficClass ← d.getInteger "trafficClass"
  let roundNumber ← d.getInteger "roundNumber"
  let totalHops ← d.getInteger "totalHops"
  let packetSize ← d.getInteger "packetSize"
  let checksum ← d.getInteger "checksum"
  let sourcePort ← d.getInteger "sourcePort"
  let destinationPort ← d.getInteger "destinationPort"
  let statusFlags ← d.getInteger "statusFlags"
  let pathHash ← d.getBigInt "pathHash"
  return {
    timeStamp := unsigned 64 timestamp
    sourceIP, destinationIP
    measurementID := mapMeasurementID p (unsigned 64 measurementID) sourceIP
    protocol := Char.ofNat (unsigned 8 protocol)
    trafficClass := unsigned 8 trafficClass
    roundNumber := unsigned 32 roundNumber
    totalHops := unsigned 32 totalHops
    packetSize := unsigned 32 packetSize
    checksum := unsigned 16 checksum
    sourcePort := unsigned 16 sourcePort
    destinationPort := unsigned 16 destinationPort
    statusFlags := unsigned 32 statusFlags
    pathHash }

def noSQLHopTwo (hopNumber : Nat) (d : Fields) : Except Ending HopValues := do
  let sendTimestamp ← d.getBigInt "sendTimestamp"
  let responseSize ← d.getInteger "responseSize"
  let hopIP ← d.getAddress "hopIP"
  let status ← d.getInteger "status"
  let timing ← noSQLTiming d
  return {
    sendTimeStamp := unsigned 64 sendTimestamp
    hopNumber
    responseSize := unsigned 32 responseSize
    hopIP
    status := unsigned 32 status
    timing }

/-- A document of a Ping. -/
def noSQLPingActions (read : Fields → Except Ending PingValues) (d : Fields) : List Action :=
  match read d with
  | .error _ => [.badData]
  | .ok v => [outputPing p v]

/-- The hops are numbered as they are found. -/
def noSQLHopActions (read : Nat → Fields → Except Ending HopValues) (hopNumber : Nat) :
    List Fields → List Action
  | [] => []
  | d :: ds =>
      match read (hopNumber + 1) d with
      | .error _ => [.badData]
      | .ok v => outputTracerouteHop p v :: noSQLHopActions read (hopNumber + 1) ds

/-- A document of a Traceroute: the header, and then the hops. -/
def noSQLTracerouteActions (readHeader : Fields → Except Ending HeaderValues)
    (readHop : HeaderValues → Nat → Fields → Except Ending HopValues) (d : Document) : List Action :=
  match readHeader d.fields with
  | .error _ => [.badData]
  | .ok h => outputTracerouteHeader p h :: noSQLHopActions p (readHop h) 0 d.hops

def noSQLTracerouteOne (d : Document) : List Action :=
  noSQLTracerouteActions p (noSQLHeaderOne p) (fun h => noSQLHopOne h.timeStamp) d

def noSQLTracerouteTwo (d : Document) : List Action :=
  noSQLTracerouteActions p (noSQLHeaderTwo p) (fun _ => noSQLHopTwo) d

end Queries

end HiPerConTracer.Query
