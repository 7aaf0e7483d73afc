import HiPerConTracer.Lib.WaitTimer
import HiPerConTracer.Service.IOModule

/-!
# The Traceroute service (`traceroute.cc`)

The functions of `Traceroute` on the state of a service.  Those that `Ping` overrides are the
fields of `Methods`, and the handlers that both share take them as a parameter.  Failing assertions
are errors.  Time is in nanoseconds, and the parameters are in milliseconds.

What is written is logged: a `Round` is what `writeTracerouteResultEntry` gets for one round.
-/

namespace HiPerConTracer.Service
open Net

/-- `TracerouteParameters` and the arguments of the constructor, which asserts the bounds. -/
structure Parameters where
  io : IOModule
  /-- The text of an address (`to_string`). -/
  addressText : Address → String
  /-- The first 64 bits of the SHA-1 sum. -/
  sha1 : String → UInt64
  iterations : Nat
  removeDestinationAfterRun : Bool
  rounds : Nat
  initialMaxTTL : Nat
  finalMaxTTL : Nat
  incrementMaxTTL : Nat
  interval : Nat
  /-- `interval * deviation`, the most that an interval deviates. -/
  deviation : Nat
  expiration : Nat
  rounds_pos : 1 ≤ rounds
  initialMaxTTL_pos : 1 ≤ initialMaxTTL
  initialMaxTTL_le : initialMaxTTL ≤ finalMaxTTL
  deviation_le : deviation ≤ interval

/-- What one handler gets from outside: whether the traffic class of the `k`-th destination can be
set, the outcome of its `i`-th request, and a random number. -/
structure Inputs where
  trafficClassSet : Nat → Bool
  outcomes : Nat → Nat → SendOutcome
  random : Nat

/-- What is written for a round of a traceroute. -/
structure Round where
  roundNumber : Nat
  timeStamp : Nat
  totalHops : Nat
  statusFlags : Nat
  pathString : String
  pathHash : UInt64
  /-- The entries that are written, the first of them with the header. -/
  entries : List ResultEntry
  writtenAt : Nat

/-- Where the thread of the service is. -/
inductive ProgramCounter where
  /-- Before `run`. -/
  | starting
  /-- After `prepareRun(true)`, before `sendRequests`. -/
  | prepared
  /-- In `IOContext.run`, between two handlers. -/
  | idle
deriving DecidableEq, Repr

structure State extends IOState where
  pc : ProgramCounter
  stopRequested : Bool
  iterationNumber : Nat
  /-- `Destinations`, in their order. -/
  destinations : List DestinationInfo
  /-- `none` is `Destinations.end()`. -/
  destinationIterator : Option DestinationInfo
  ttlCache : DestinationInfo → Option Nat
  minTTL : Nat
  maxTTL : Nat
  lastHop : Nat
  outstandingRequests : Nat
  runStartTimeStamp : Nat
  timeoutTimer : WaitTimer
  intervalTimer : WaitTimer
  /-- The TTL windows of the run, in the order in which they were sent. -/
  windows : List (Nat × Nat)
  /-- Calls of `noMoreOutstandingRequests`. -/
  completions : Nat
  /-- Calls of `Ping::sendRequests` that send. -/
  bursts : Nat
  /-- The entries put into `ResultsMap`. -/
  requested : List ResultEntry
  /-- The entries passed to `writePingResultEntry`. -/
  written : List ResultEntry
  roundsWritten : List Round

/-- No hop has been found to be the last: 0xffffffff. -/
def noLastHop : Nat := 0xffffffff

/-- The functions that `Ping` overrides. -/
structure Methods where
  prepareRun : Bool → State → State × Bool
  sendRequests : Inputs → State → Except Assure State
  noMoreOutstandingRequests : State → State
  notReachedWithCurrentTTL : State → State × Bool
  processResults : State → Except Assure State

variable (p : Parameters)

/-! ## Timers -/

/-- `makeDeviation`, with the random number. -/
def makeDeviation (interval d random : Nat) : Nat := interval - d + random % (2 * d + 1)

def State.cancelIntervalEvent (s : State) : State :=
  { s with intervalTimer := s.intervalTimer.cancel }

def State.cancelTimeoutEvent (s : State) : State := { s with timeoutTimer := s.timeoutTimer.cancel }

/-- A wait of the timeout timer that ends after so many milliseconds. -/
def State.startTimeoutTimer (s : State) (milliseconds : Nat) : State :=
  { s with timeoutTimer :=
      (s.timeoutTimer.expiresAt (s.now + milliseconds * 1000000)).asyncWait }

def State.startIntervalTimer (s : State) (milliseconds : Nat) : State :=
  { s with intervalTimer :=
      (s.intervalTimer.expiresAt (s.now + milliseconds * 1000000)).asyncWait }

/-- The service is done: the timers and the socket are cancelled. -/
def State.stop (s : State) : State :=
  { s with stopRequested := true }.cancelIntervalEvent.cancelTimeoutEvent

def scheduleIntervalEvent (random : Nat) (s : State) : State :=
  if p.iterations = 0 ∨ s.iterationNumber < p.iterations then
    let waitingDuration := makeDeviation p.interval p.deviation random
    let howLongToWait := s.runStartTimeStamp + waitingDuration * 1000000 - s.now
    s.startIntervalTimer (howLongToWait / 1000000)
  else s.stop

/-! ## Destinations -/

/-- `DestinationIterator++`. -/
def nextDestination (destinations : List DestinationInfo) (d : DestinationInfo) :
    Option DestinationInfo := destinations.find? fun x => d < x

/-- `addDestination`. -/
def addDestination (d : DestinationInfo) (s : State) : State :=
  if d.address.isV6 = p.io.sourceAddress.isV6 then
    if d ∈ s.destinations then s
    else
      let s := if s.destinationIterator = none then s.startIntervalTimer 0 else s
      { s with destinations := s.destinations.orderedInsert (· ≤ ·) d }
  else s

/-- The result of `addDestination`: the destination has been added. -/
def added (d : DestinationInfo) (s : State) : Bool :=
  decide (d.address.isV6 = p.io.sourceAddress.isV6) && decide (d ∉ s.destinations)

def getInitialMaxTTL (s : State) (d : DestinationInfo) : Nat :=
  match s.ttlCache d with
  | some ttl => min ttl p.finalMaxTTL
  | none => p.initialMaxTTL

/-! ## Responses -/

/-- `newResult`. -/
def newResult (m : Methods) (e : ResultEntry) (s : State) : State :=
  let s := { s with outstandingRequests := s.outstandingRequests - 1 }
  let s := if e.status = .success then { s with lastHop := min s.lastHop e.hopNumber } else s
  if s.outstandingRequests = 0 then m.noMoreOutstandingRequests s else s

/-- A message has been read from a socket. -/
def handleResponse (m : Methods) (message : IOModule.Message) (d : IOModule.ReceivedData)
    (s : State) : State :=
  match p.io.handlePayloadResponse message with
  | none => s
  | some (icmpType, icmpCode, seqNumber, length) =>
    match p.io.recordResult d icmpType icmpCode seqNumber length s.resultsMap with
    | (resultsMap, none) => { s with resultsMap }
    | (resultsMap, some e) => newResult m e { s with resultsMap }

/-! ## Results -/

def HopStatus.isLast (s : HopStatus) : Bool := s = .success || s.isUnreachable

/-- The counters and the path of a round, as the first loop of `processResults` has them. -/
structure PathScan where
  totalHops : Nat
  currentHop : Nat
  completeTraceroute : Bool
  destinationReached : Bool
  pathString : String
deriving DecidableEq, Repr

/-- The first loop of `processResults` over the entries of a round: unanswered ones expire. -/
def scanRound : PathScan → List ResultEntry → Except Assure (List ResultEntry × PathScan)
  | scan, [] => .ok ([], scan)
  | scan, e :: es =>
    if ¬ e.hopNumber > scan.totalHops then .error .hopNumber
    else
      let destinationText := p.addressText e.destination.address
      let scan := { scan with currentHop := scan.currentHop + 1, totalHops := e.hopNumber }
      if e.status = .success then
        .ok (e :: es, { scan with pathString := scan.pathString ++ "-" ++ destinationText,
                                  destinationReached := true })
      else if e.status.isUnreachable then
        .ok (e :: es, { scan with pathString := scan.pathString ++ "-" ++ destinationText })
      else if e.status = .unknown then
        match scanRound { scan with pathString := scan.pathString ++ "-*",
                                    completeTraceroute := false } es with
        | .error a => .error a
        | .ok (es, scan) => .ok (e.expire p.expiration :: es, scan)
      else
        match scanRound { scan with pathString := scan.pathString ++ "-" ++ destinationText } es with
        | .error a => .error a
        | .ok (es, scan) => .ok (e :: es, scan)

/-- The entries that the second loop writes: up to the first that is `Success` or unreachable. -/
def writtenEntries : List ResultEntry → List ResultEntry
  | [] => []
  | e :: es => if e.status.isLast then [e] else e :: writtenEntries es

/-- `compareTracerouteResults`, as an order. -/
def tracerouteOrder (a b : ResultEntry) : Prop :=
  a.roundNumber < b.roundNumber ∨ (a.roundNumber = b.roundNumber ∧ a.hopNumber ≤ b.hopNumber)

instance : DecidableRel tracerouteOrder := fun _ _ => inferInstanceAs (Decidable (_ ∨ _ ∧ _))

/-- One turn of the loop of `processResults`: the entries of the round, and what is written. -/
def processRound (roundNumber timeStamp now : Nat) (entries : List ResultEntry) :
    Except Assure (List ResultEntry × Round) :=
  match scanRound p ⟨0, 0, true, false, p.addressText p.io.sourceAddress⟩ entries with
  | .error a => .error a
  | .ok (entries, scan) =>
    if scan.currentHop ≠ scan.totalHops then .error .currentHop
    else
      let written := writtenEntries entries
      -- the time stamp is that of the first entry of the first round that has one
      let timeStamp := if timeStamp = 0 then
        (written.head?.map (·.sendTime .application)).getD 0 else timeStamp
      if ¬ ∀ e ∈ written, some e.checksum = written.head?.map (·.checksum) then
        .error .checksumCheck
      else
        .ok (entries,
          { roundNumber, timeStamp, totalHops := scan.totalHops
            statusFlags := (if scan.completeTraceroute then 0 else flagStarredRoute) |||
              (if scan.destinationReached then flagDestinationReached else 0)
            pathString := scan.pathString
            pathHash := p.sha1 scan.pathString
            entries := written, writtenAt := now })

/-- The loop of `processResults` over rounds. -/
def processRounds (now : Nat) (sorted : List ResultEntry) :
    Nat → List Nat → Except Assure (List ResultEntry × List Round)
  | _, [] => .ok ([], [])
  | timeStamp, round :: rest =>
    match processRound p round timeStamp now (sorted.filter fun e => e.roundNumber = round) with
    | .error a => .error a
    | .ok (entries, r) =>
      match processRounds now sorted r.timeStamp rest with
      | .error a => .error a
      | .ok (entries', rs) => .ok (entries ++ entries', r :: rs)

/-! ## The methods of `Traceroute` -/

namespace Traceroute

def prepareRun (newRound : Bool) (s : State) : State × Bool :=
  let s :=
    if newRound then
      { s with iterationNumber := (s.iterationNumber + 1) % 2 ^ 32
               destinationIterator := s.destinations.head?
               targetChecksumArray := fun _ => 0xffffffff }
    else
      match s.destinationIterator with
      | none => s
      | some d =>
        if p.removeDestinationAfterRun = false then
          { s with destinationIterator := nextDestination s.destinations d }
        else
          { s with destinationIterator := nextDestination s.destinations d
                   destinations := s.destinations.erase d }
  let s :=
    { s with
      resultsMap := []
      windows := []
      minTTL := 1
      maxTTL := match s.destinationIterator with
        | some d => getInitialMaxTTL p s d
        | none => p.initialMaxTTL
      lastHop := noLastHop
      outstandingRequests := 0
      runStartTimeStamp := s.now }
  (s, s.destinationIterator.isNone)

/-- `cancelTimeoutEvent`. -/
def noMoreOutstandingRequests (s : State) : State :=
  { s with completions := s.completions + 1 }.cancelTimeoutEvent

def notReachedWithCurrentTTL (s : State) : State × Bool :=
  if s.maxTTL < p.finalMaxTTL then
    ({ s with minTTL := (s.maxTTL + 1) % 2 ^ 32
              maxTTL := min ((s.maxTTL + p.incrementMaxTTL) % 2 ^ 32) p.finalMaxTTL }, true)
  else (s, false)

def sendRequests (inputs : Inputs) (s : State) : Except Assure State :=
  match s.destinationIterator with
  | some destination =>
    if ¬ s.minTTL > 0 then .error .minTTL
    else
      match p.io.sendRequest destination s.maxTTL s.minTTL 0 (p.rounds - 1)
          (inputs.trafficClassSet 0) (inputs.outcomes 0) s.toIOState with
      | .error a => .error a
      | .ok (io, messagesSent) =>
        -- `scheduleTimeoutEvent`
        .ok (State.startTimeoutTimer
          { s with
            toIOState := io
            outstandingRequests := s.outstandingRequests + messagesSent
            requested := s.requested ++ io.resultsMap.drop s.resultsMap.length
            windows := s.windows ++ [(s.minTTL, s.maxTTL)] } p.expiration)
  | none => .ok (scheduleIntervalEvent p inputs.random s)

def processResults (s : State) : Except Assure State :=
  match processRounds p s.now (s.resultsMap.insertionSort tracerouteOrder) 0
      (List.range p.rounds) with
  | .error a => .error a
  | .ok (resultsMap, rounds) =>
    .ok { s with resultsMap, roundsWritten := s.roundsWritten ++ rounds }

def methods : Methods where
  prepareRun := prepareRun p
  sendRequests := sendRequests p
  noMoreOutstandingRequests := noMoreOutstandingRequests
  notReachedWithCurrentTTL := notReachedWithCurrentTTL p
  processResults := processResults p

end Traceroute

/-! ## Handlers -/

/-- `handleTimeoutEvent`; it does not look at the error code. -/
def handleTimeoutEvent (m : Methods) (inputs : Inputs) (s : State) : Except Assure State :=
  if s.stopRequested then .ok s
  else
    let (s, again) :=
      match s.destinationIterator with
      | some d =>
        let s := { s with ttlCache := fun x => if x = d then some s.lastHop else s.ttlCache x }
        if s.lastHop = noLastHop then m.notReachedWithCurrentTTL s else (s, false)
      | none => (s, false)
    if again then m.sendRequests inputs s
    else
      match m.processResults s with
      | .error a => .error a
      | .ok s =>
        match m.prepareRun false s with
        | (s, false) => m.sendRequests inputs s
        | (s, true) => .ok (scheduleIntervalEvent p inputs.random s)

/-- The first part of `handleIntervalEvent`, up to `sendRequests`. -/
def handleIntervalEvent (m : Methods) (aborted : Bool) (s : State) : State :=
  if s.stopRequested = false ∧ aborted = false then
    { (m.prepareRun true s).1 with pc := .prepared }
  else s

/-! ## Events -/

inductive Event where
  | elapse (time : Nat)
  /-- The thread starts: `prepareRun(true)` in `run`. -/
  | run
  /-- `sendRequests` after `prepareRun(true)`; in between the mutex is free. -/
  | sendRequests (inputs : Inputs)
  | timeoutTimerExpires
  | intervalTimerExpires
  /-- A queued handler of a timer runs, with `operation_aborted` or without error. -/
  | timeoutEvent (aborted : Bool) (inputs : Inputs)
  | intervalEvent (aborted : Bool)
  | response (message : IOModule.Message) (data : IOModule.ReceivedData)
  /-- From another thread. -/
  | addDestination (destination : DestinationInfo)
  /-- From another thread; the cancellations are posted. -/
  | requestStop
  | cancelTimers

/-- What an event does; an event that cannot happen in the state does nothing. -/
def step (m : Methods) (s : State) : Event → Except Assure State
  | .elapse time => .ok { s with now := s.now + time }
  | .run =>
    if s.pc = .starting then .ok { (m.prepareRun true s).1 with pc := .prepared } else .ok s
  | .sendRequests inputs =>
    if s.pc = .prepared then m.sendRequests inputs { s with pc := .idle } else .ok s
  | .timeoutTimerExpires =>
    if s.pc = .idle then .ok { s with timeoutTimer := s.timeoutTimer.expire s.now } else .ok s
  | .intervalTimerExpires =>
    if s.pc = .idle then .ok { s with intervalTimer := s.intervalTimer.expire s.now } else .ok s
  | .timeoutEvent aborted inputs =>
    match s.pc, s.timeoutTimer.take aborted with
    | .idle, some timer => handleTimeoutEvent p m inputs { s with timeoutTimer := timer }
    | _, _ => .ok s
  | .intervalEvent aborted =>
    match s.pc, s.intervalTimer.take aborted with
    | .idle, some timer => .ok (handleIntervalEvent m aborted { s with intervalTimer := timer })
    | _, _ => .ok s
  | .response message data =>
    if s.pc = .idle then .ok (handleResponse p m message data s) else .ok s
  | .addDestination d => .ok (addDestination p d s)
  | .requestStop => .ok { s with stopRequested := true }
  | .cancelTimers =>
    if s.pc = .idle ∧ s.stopRequested then .ok s.cancelIntervalEvent.cancelTimeoutEvent
    else .ok s

/-- A service that has been constructed. -/
def State.start (now : Nat) (seqNumber : UInt16) (destinations : List DestinationInfo) : State where
  now := now
  seqNumber := seqNumber
  timeStampSeqID := 0
  targetChecksumArray := fun _ => 0
  resultsMap := []
  pc := .starting
  stopRequested := false
  iterationNumber := 0
  destinations := (destinations.filter fun d =>
    d.address.isV6 = p.io.sourceAddress.isV6).dedup.insertionSort (· ≤ ·)
  destinationIterator := none
  ttlCache := fun _ => none
  minTTL := 1
  maxTTL := p.initialMaxTTL
  lastHop := noLastHop
  outstandingRequests := 0
  runStartTimeStamp := 0
  timeoutTimer := .idle
  intervalTimer := .idle
  windows := []
  completions := 0
  bursts := 0
  requested := []
  written := []
  roundsWritten := []

/-! ## A service with fixed parameters -/

def dottedQuad (value : UInt32) : String :=
  ".".intercalate (([24, 16, 8, 0] : List UInt32).map fun k =>
    toString ((value >>> k) &&& 0xff).toNat)

def udpModule : IOModule where
  protocol := .udp
  identifier := 1
  magicNumber := 0
  payloadSize := 16
  payloadSize_le := by decide
  actualPacketSize := 44
  sourceAddress := .v4 0x0a000001
  findSourceForDestination := id
  sourcePort := 40000
  destinationPort := 7

/-- A Traceroute service over UDP from 10.0.0.1, with two rounds and windows of two TTLs. -/
def udpTraceroute : Parameters where
  io := udpModule
  addressText := fun a =>
    match a with
    | .v4 value => dottedQuad value
    | .v6 _ _ => "::"
  sha1 := fun s => s.length.toUInt64
  iterations := 0
  removeDestinationAfterRun := false
  rounds := 2
  initialMaxTTL := 2
  finalMaxTTL := 5
  incrementMaxTTL := 2
  interval := 10000
  deviation := 0
  expiration := 3000
  rounds_pos := by decide
  initialMaxTTL_pos := by decide
  initialMaxTTL_le := by decide
  deviation_le := by decide

theorem oneRound_pos : 1 ≤ 1 := Nat.le_refl 1

theorem pingTTL_pos : 1 ≤ 64 := by decide

theorem pingTTL_le : 64 ≤ 64 := Nat.le_refl 64

/-- Each request is sent within two nanoseconds. -/
def allSent : Inputs where
  trafficClassSet := fun _ => true
  outcomes := fun _ _ => ⟨1, 1, none, 44⟩
  random := 0

/-- A response from an address, at the given time. -/
def responseFrom (address : Address) (time : Nat) : IOModule.ReceivedData where
  source := .v4 0
  destination := .v4 0
  replyAddress := address
  applicationReceiveTime := time
  receiveSWSource := .sysClock
  receiveSWTime := time
  receiveHWSource := .unknown
  receiveHWTime := 0

end HiPerConTracer.Service
