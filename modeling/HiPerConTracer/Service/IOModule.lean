import HiPerConTracer.Wire.ChecksumSteering
import HiPerConTracer.Service.ResultEntry

/-!
# Sending requests and recording responses (`iomodule-icmp.cc`, `iomodule-udp.cc`, `iomodule-base.cc`)

`sendRequest` sends one request for each round and TTL, with a new sequence number each, and then
puts their entries into `ResultsMap`.  `recordResult` finds the entry of a response and sets its
hop address and status, if it is the first response to that request.

What the network does is input: the outcome of each `send_to`, and the responses with what the
headers of the message say.  Time is in nanoseconds, and goes on with every request.
-/

namespace HiPerConTracer.Service
open Net Wire

/-- The assertions of the services, as far as modelled functions have them. -/
inductive Assure where
  | checksum (assertion : ChecksumAssure)
  /-- `fromRound <= toRound` -/
  | rounds
  /-- `fromTTL >= toTTL` -/
  | ttls
  /-- `currentEntry == entries` -/
  | entries
  /-- The insertion into `ResultsMap`: `result.second == true` -/
  | inserted
  /-- `MinTTL > 0` -/
  | minTTL
  /-- `resultEntry->hopNumber() > totalHops` -/
  | hopNumber
  /-- `currentHop == totalHops` -/
  | currentHop
  /-- `resultEntry->checksum() == checksumCheck` -/
  | checksumCheck
  /-- `Parameters.Rounds > 0` in `Ping::sendRequests` -/
  | pingRounds
  /-- `elementsErased == 1` in `Ping::processResults` -/
  | erased
deriving DecidableEq, Repr

inductive ProtocolType where
  | icmp
  | udp
deriving DecidableEq, Repr

structure IOModule where
  protocol : ProtocolType
  identifier : UInt16
  magicNumber : UInt32
  payloadSize : Nat
  payloadSize_le : payloadSize ≤ maxTraceServiceHeaderSize
  actualPacketSize : Nat
  sourceAddress : Address
  /-- `findSourceForDestination`: what the routing of the host says. -/
  findSourceForDestination : Address → Address
  sourcePort : UInt16
  destinationPort : UInt16

/-- What a service and its I/O module share. -/
structure IOState where
  now : Nat
  seqNumber : UInt16
  timeStampSeqID : UInt32
  targetChecksumArray : Nat → UInt32
  resultsMap : List ResultEntry

/-! ## Sending -/

/-- The outcome of a `send_to`, and the time that passes before and after it. -/
structure SendOutcome where
  before : Nat
  after : Nat
  errorCode : Option ErrorCode
  sent : Nat
deriving DecidableEq, Repr

def SendOutcome.success (o : SendOutcome) : Bool := o.errorCode.isNone && 0 < o.sent

/-- The variables of the sender loop. -/
structure Sending where
  now : Nat
  seqNumber : UInt16
  timeStampSeqID : UInt32
  targetChecksumArray : Nat → UInt32
  messagesSent : Nat
  /-- `resultEntryArray`, with what `errorCodeArray` and `sentArray` have for each entry. -/
  resultEntryArray : List (ResultEntry × SendOutcome)

namespace IOModule
variable (io : IOModule)

/-- Seconds since the Unix epoch. -/
def hiPerConTracerEpoch : Nat := 212803200

/-- The time stamp of a TraceService header: nanoseconds since the HiPerConTracer epoch. -/
def sendTimeStamp (time : Nat) : UInt64 :=
  UInt64.ofNat time - UInt64.ofNat (hiPerConTracerEpoch * 1000000000)

/-- The headers before the sender loop: type `ICMP6_ECHO_REQUEST` or `ICMP_ECHO`. -/
def echoRequest : Packet where
  echoRequest := ⟨if io.sourceAddress.isV6 then 128 else 8, 0, 0, io.identifier, 0⟩
  tsHeader := { TraceServiceHeader.new io.payloadSize io.payloadSize_le with
    magicNumber := io.magicNumber }

def localAddress (destination : DestinationInfo) : Address :=
  if io.sourceAddress.isUnspecified then io.findSourceForDestination destination.address
  else io.sourceAddress

/-- The checksum that the entry gets: the target of the round for ICMP, zero for UDP. -/
def requestChecksum (seqNumber : UInt16) (round ttl sendTime : Nat)
    (targetChecksumArray : Nat → UInt32) : Except Assure (UInt16 × (Nat → UInt32)) :=
  match io.protocol with
  | .icmp =>
    match preparePacket io.echoRequest seqNumber (UInt8.ofNat ttl) (UInt8.ofNat round)
        (sendTimeStamp sendTime) (targetChecksumArray round) with
    | .error a => .error (.checksum a)
    | .ok (_, target) =>
      .ok (target.toUInt16, fun r => if r = round then target else targetChecksumArray r)
  | .udp => .ok (0, targetChecksumArray)

/-- One turn of the sender loop. -/
def sendPacket (destination : DestinationInfo) (outcome : SendOutcome) (round ttl : Nat)
    (s : Sending) : Except Assure Sending :=
  let seqNumber := s.seqNumber + 1
  let sendTime := s.now + outcome.before
  match io.requestChecksum seqNumber round ttl sendTime s.targetChecksumArray with
  | .error a => .error a
  | .ok (checksum, targetChecksumArray) =>
    let entry := ResultEntry.initialise s.timeStampSeqID round seqNumber ttl io.actualPacketSize
      checksum (if io.protocol = .udp then io.sourcePort else 0)
      (if io.protocol = .udp then io.destinationPort else 0)
      sendTime (io.localAddress destination) destination .unknown
    .ok { now := sendTime + outcome.after
          seqNumber
          timeStampSeqID := if outcome.success then s.timeStampSeqID + 1 else s.timeStampSeqID
          targetChecksumArray
          messagesSent := if outcome.success then s.messagesSent + 1 else s.messagesSent
          resultEntryArray := s.resultEntryArray ++ [(entry, outcome)] }

/-- The sender loop over rounds and TTLs; `i` counts the entries. -/
def sendLoop (destination : DestinationInfo) (outcomes : Nat → SendOutcome) :
    Nat → List (Nat × Nat) → Sending → Except Assure Sending
  | _, [], s => .ok s
  | i, (round, ttl) :: rest, s =>
    match io.sendPacket destination (outcomes i) round ttl s with
    | .error a => .error a
    | .ok s => sendLoop destination outcomes (i + 1) rest s

/-- An entry as it is after the check of its result. -/
def checkedEntry (r : ResultEntry × SendOutcome) : ResultEntry :=
  if r.2.success then r.1 else r.1.failedToSend (r.2.errorCode.getD .other)

/-- The entries are inserted one after the other. -/
def insertEntries : List ResultEntry → List (ResultEntry × SendOutcome) →
    Except Assure (List ResultEntry)
  | resultsMap, [] => .ok resultsMap
  | resultsMap, r :: rest =>
    if r.1.seqNumber ∈ resultsMap.map (·.seqNumber) then .error .inserted
    else insertEntries (resultsMap ++ [checkedEntry r]) rest

/-- The rounds in their order, and for each of them the TTLs from the highest to the lowest. -/
def roundsAndTTLs (fromTTL toTTL fromRound toRound : Nat) : List (Nat × Nat) :=
  (List.range' fromRound (toRound + 1 - fromRound)).flatMap fun round =>
    (List.range' toTTL (fromTTL + 1 - toTTL)).reverse.map fun ttl => (round, ttl)

/-- `sendRequest`: the state and the number of messages sent.  For ICMP the traffic class is set
first, and nothing is done if that fails. -/
def sendRequest (destination : DestinationInfo) (fromTTL toTTL fromRound toRound : Nat)
    (trafficClassSet : Bool) (outcomes : Nat → SendOutcome) (s : IOState) :
    Except Assure (IOState × Nat) :=
  if io.protocol = .icmp ∧ trafficClassSet = false then .ok (s, 0)
  else if ¬ fromRound ≤ toRound then .error .rounds
  else if ¬ fromTTL ≥ toTTL then .error .ttls
  else
    match io.sendLoop destination outcomes 0 (roundsAndTTLs fromTTL toTTL fromRound toRound)
        ⟨s.now, s.seqNumber, s.timeStampSeqID, s.targetChecksumArray, 0, []⟩ with
    | .error a => .error a
    | .ok l =>
      if l.resultEntryArray.length ≠ (1 + (toRound - fromRound)) * (1 + (fromTTL - toTTL)) then
        .error .entries
      else
        match insertEntries s.resultsMap l.resultEntryArray with
        | .error a => .error a
        | .ok resultsMap =>
          .ok (⟨l.now, l.seqNumber, l.timeStampSeqID, l.targetChecksumArray, resultsMap⟩,
            l.messagesSent)

/-! ## Responses -/

/-- A message whose headers name this module: its identifier or ports, and its magic number. -/
inductive Message where
  /-- A TraceService header over UDP. -/
  | payload (seqNumber : UInt16) (length : Nat)
  | icmp (type code : UInt8) (seqNumber : UInt16) (length : Nat)
deriving DecidableEq, Repr

/-- `ReceivedData`; an address that is not known is unspecified. -/
structure ReceivedData where
  source : Address
  destination : Address
  replyAddress : Address
  applicationReceiveTime : Nat
  receiveSWSource : TimeSourceType
  receiveSWTime : Nat
  receiveHWSource : TimeSourceType
  receiveHWTime : Nat

/-- `handlePayloadResponse`: type, code, sequence number and length of a message that is
recorded. -/
def handlePayloadResponse (m : Message) : Option (UInt8 × UInt8 × UInt16 × Nat) :=
  match io.protocol, m with
  | .icmp, .payload _ _ => none
  | .udp, .payload seqNumber length => some (0, 0, seqNumber, length)
  | protocol, .icmp type code seqNumber length =>
    let echoReply := if io.sourceAddress.isV6 then 129 else 0
    let timeExceeded := if io.sourceAddress.isV6 then 3 else 11
    let unreachable := if io.sourceAddress.isV6 then 1 else 3
    if (protocol = .icmp ∧ type = echoReply) ∨ type = timeExceeded ∨ type = unreachable then
      some (type, code, seqNumber, length)
    else none

/-- The status for a response, as `recordResult` obtains it. -/
def responseStatus (icmpType icmpCode : UInt8) : HopStatus :=
  if icmpType = 0 ∧ icmpCode = 0 then .success
  else if io.sourceAddress.isV6 then
    if icmpType = 3 then .timeExceeded
    else if icmpType = 1 then
      match icmpCode with
      | 1 => .unreachableProhibited
      | 2 => .unreachableScope
      | 0 => .unreachableNetwork
      | 3 => .unreachableHost
      | 4 => .unreachablePort
      | _ => .unreachableUnknown
    else if icmpType = 129 then .success
    else .unknown
  else
    if icmpType = 11 then .timeExceeded
    else if icmpType = 3 then
      match icmpCode with
      | 13 => .unreachableProhibited
      | 0 | 6 => .unreachableNetwork
      | 1 | 7 => .unreachableHost
      | 3 => .unreachablePort
      | _ => .unreachableUnknown
    else if icmpType = 0 then .success
    else .unknown

/-- The addresses of the message contradict those of the entry. -/
def mappingMismatch (d : ReceivedData) (e : ResultEntry) : Bool :=
  (!d.source.isUnspecified && !e.source.isUnspecified && decide (d.source ≠ e.source)) ||
  (!d.destination.isUnspecified && !e.destination.address.isUnspecified &&
    decide (d.destination ≠ e.destination.address))

/-- The entry of the sequence number is replaced. -/
def replaceEntry (resultsMap : List ResultEntry) (e : ResultEntry) : List ResultEntry :=
  resultsMap.map fun x => if x.seqNumber = e.seqNumber then e else x

/-- The source address is set if it has been unspecified so far. -/
def withSource (d : ReceivedData) (e : ResultEntry) : ResultEntry :=
  if e.source.isUnspecified && !d.source.isUnspecified then { e with source := d.source } else e

/-- The entry with what the first response says. -/
def answered (d : ReceivedData) (icmpType icmpCode : UInt8) (responseLength : Nat)
    (e : ResultEntry) : ResultEntry :=
  (((({ e with responseSize := responseLength }.setHopAddress d.replyAddress).setReceiveTime
    .application .sysClock d.applicationReceiveTime).setReceiveTime
    .receptionSW d.receiveSWSource d.receiveSWTime).setReceiveTime
    .receptionHW d.receiveHWSource d.receiveHWTime).setStatus (io.responseStatus icmpType icmpCode)

/-- `recordResult`: the new map, and the entry for `NewResultCallback`. -/
def recordResult (d : ReceivedData) (icmpType icmpCode : UInt8) (seqNumber : UInt16)
    (responseLength : Nat) (resultsMap : List ResultEntry) :
    List ResultEntry × Option ResultEntry :=
  match resultsMap.find? fun e => e.seqNumber = seqNumber with
  | none => (resultsMap, none)
  | some e =>
    if mappingMismatch d e then (resultsMap, none)
    else
      let e := withSource d e
      if e.status = .unknown then
        let e := io.answered d icmpType icmpCode responseLength e
        (replaceEntry resultsMap e, some e)
      else (replaceEntry resultsMap e, none)

end IOModule

end HiPerConTracer.Service
