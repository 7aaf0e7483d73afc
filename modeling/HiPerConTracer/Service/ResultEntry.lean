import HiPerConTracer.Net.Address

/-!
# Result entries (`resultentry.h`, `resultentry.cc`)

A `ResultEntry` is made for each request, and keeps what is known about its response: the hop
address and the status, and the send and receive times of each kind (nanoseconds since the Unix
epoch, by one clock).
-/

namespace HiPerConTracer.Service
open Net

inductive HopStatus where
  | unknown
  | timeExceeded
  | unreachableScope
  | unreachableNetwork
  | unreachableHost
  | unreachableProtocol
  | unreachablePort
  | unreachableProhibited
  | unreachableUnknown
  | timeout
  | notSentGenericError
  | notSentPermissionDenied
  | notSentNetworkUnreachable
  | notSentHostUnreachable
  | notAvailableAddress
  | notValidMsgSize
  | notEnoughBufferSpace
  | success
deriving DecidableEq, Repr

namespace HopStatus

def code : HopStatus → Nat
  | unknown => 0
  | timeExceeded => 1
  | unreachableScope => 100
  | unreachableNetwork => 101
  | unreachableHost => 102
  | unreachableProtocol => 103
  | unreachablePort => 104
  | unreachableProhibited => 105
  | unreachableUnknown => 110
  | timeout => 200
  | notSentGenericError => 210
  | notSentPermissionDenied => 211
  | notSentNetworkUnreachable => 212
  | notSentHostUnreachable => 213
  | notAvailableAddress => 214
  | notValidMsgSize => 215
  | notEnoughBufferSpace => 216
  | success => 255

/-- `statusIsUnreachable`. -/
def isUnreachable (s : HopStatus) : Bool := unreachableScope.code ≤ s.code ∧ s.code < timeout.code

/-- `statusIsSendError`. -/
def isSendError (s : HopStatus) : Bool := timeout.code < s.code ∧ s.code < success.code

/-- A router (1 to 199) or the destination (255) has responded. -/
def isResponse (s : HopStatus) : Bool := (1 ≤ s.code ∧ s.code ≤ 199) ∨ s = success

end HopStatus

/-- `Flag_StarredRoute`: a router did not respond. -/
def flagStarredRoute : Nat := 1 <<< 8
/-- `Flag_DestinationReached`: the destination has responded. -/
def flagDestinationReached : Nat := 1 <<< 9

inductive TimeSourceType where
  | unknown
  | sysClock
  | timestamp
  | timestampNS
  | siocgstamp
  | siocgstampNS
  | timestampingSW
  | timestampingHW
deriving DecidableEq, Repr

inductive TXTimeStampType where
  | application
  | transmissionSW
  | transmissionHW
  | schedulerSW
deriving DecidableEq, Repr

inductive RXTimeStampType where
  | application
  | receptionSW
  | receptionHW
deriving DecidableEq, Repr

structure ResultEntry where
  timeStampSeqID : UInt32
  roundNumber : Nat
  seqNumber : UInt16
  hopNumber : Nat
  packetSize : Nat
  responseSize : Nat
  checksum : UInt16
  sourcePort : UInt16
  destinationPort : UInt16
  source : Address
  destination : DestinationInfo
  hop : Address
  status : HopStatus
  sendTimeSource : TXTimeStampType → TimeSourceType
  sendTime : TXTimeStampType → Nat
  receiveTimeSource : RXTimeStampType → TimeSourceType
  receiveTime : RXTimeStampType → Nat

/-- The error codes that `failedToSend` tells apart. -/
inductive ErrorCode where
  | permissionDenied
  | networkUnreachable
  | hostUnreachable
  | addressNotAvailable
  | messageSize
  | noBufferSpace
  | other
deriving DecidableEq, Repr

namespace ResultEntry

def setSendTime (e : ResultEntry) (type : TXTimeStampType) (timeSource : TimeSourceType)
    (time : Nat) : ResultEntry :=
  { e with sendTimeSource := fun t => if t = type then timeSource else e.sendTimeSource t
           sendTime := fun t => if t = type then time else e.sendTime t }

def setReceiveTime (e : ResultEntry) (type : RXTimeStampType) (timeSource : TimeSourceType)
    (time : Nat) : ResultEntry :=
  { e with receiveTimeSource := fun t => if t = type then timeSource else e.receiveTimeSource t
           receiveTime := fun t => if t = type then time else e.receiveTime t }

def setStatus (e : ResultEntry) (status : HopStatus) : ResultEntry := { e with status }

/-- `setHopAddress`. -/
def setHopAddress (e : ResultEntry) (address : Address) : ResultEntry :=
  { e with hop := address.dropScopeID }

/-- `initialise`; the round is passed as `unsigned short`. -/
def initialise (timeStampSeqID : UInt32) (roundNumber : Nat) (seqNumber : UInt16)
    (hopNumber packetSize : Nat) (checksum sourcePort destinationPort : UInt16) (sendTime : Nat)
    (source : Address) (destination : DestinationInfo) (status : HopStatus) : ResultEntry :=
  let e : ResultEntry :=
    { timeStampSeqID, roundNumber := roundNumber % 65536, seqNumber, hopNumber, packetSize
      responseSize := 0, checksum, sourcePort, destinationPort
      source := source.dropScopeID
      destination := { destination with address := destination.address.dropScopeID }
      hop := destination.address.dropScopeID
      status
      sendTimeSource := fun _ => .unknown
      sendTime := fun _ => 0
      receiveTimeSource := fun _ => .unknown
      receiveTime := fun _ => 0 }
  (e.setSendTime .application .sysClock sendTime).setSendTime .transmissionSW .sysClock sendTime

/-- `expire`; the expiration is in milliseconds. -/
def expire (e : ResultEntry) (expiration : Nat) : ResultEntry :=
  (e.setStatus .timeout).setReceiveTime .application .sysClock
    (e.sendTime .application + expiration * 1000000)

def failureStatus : ErrorCode → HopStatus
  | .permissionDenied => .notSentPermissionDenied
  | .networkUnreachable => .notSentNetworkUnreachable
  | .hostUnreachable => .notSentHostUnreachable
  | .addressNotAvailable => .notAvailableAddress
  | .messageSize => .notValidMsgSize
  | .noBufferSpace => .notEnoughBufferSpace
  | .other => .notSentGenericError

def failedToSend (e : ResultEntry) (errorCode : ErrorCode) : ResultEntry :=
  (e.setStatus (failureStatus errorCode)).setReceiveTime .application .sysClock
    (e.sendTime .application)

/-- The request of an entry: what no response changes. -/
structure Request where
  roundNumber : Nat
  seqNumber : UInt16
  hopNumber : Nat
  checksum : UInt16
  destination : DestinationInfo
  sendTime : Nat

def request (e : ResultEntry) : Request :=
  ⟨e.roundNumber, e.seqNumber, e.hopNumber, e.checksum, e.destination, e.sendTime .application⟩

@[simp] theorem request_setStatus (e : ResultEntry) (s : HopStatus) :
    (e.setStatus s).request = e.request := rfl

@[simp] theorem request_setReceiveTime (e : ResultEntry) (t : RXTimeStampType)
    (src : TimeSourceType) (time : Nat) : (e.setReceiveTime t src time).request = e.request := rfl

@[simp] theorem request_setHopAddress (e : ResultEntry) (a : Address) :
    (e.setHopAddress a).request = e.request := rfl

@[simp] theorem request_expire (e : ResultEntry) (expiration : Nat) :
    (e.expire expiration).request = e.request := rfl

@[simp] theorem request_failedToSend (e : ResultEntry) (c : ErrorCode) :
    (e.failedToSend c).request = e.request := rfl

@[simp] theorem status_setReceiveTime (e : ResultEntry) (t : RXTimeStampType)
    (src : TimeSourceType) (time : Nat) : (e.setReceiveTime t src time).status = e.status := rfl

@[simp] theorem status_expire (e : ResultEntry) (expiration : Nat) :
    (e.expire expiration).status = .timeout := rfl

/-- A request that could not be sent has a status of its own, which no response has. -/
theorem failedToSend_isSendError (e : ResultEntry) (c : ErrorCode) :
    (e.failedToSend c).status.isSendError = true := by
  show (failureStatus c).isSendError = true
  cases c <;> decide

end ResultEntry

theorem HopStatus.isSendError_ne_unknown {s : HopStatus} (h : s.isSendError = true) :
    s ≠ .unknown := by
  rintro rfl
  exact absurd h (by decide)

theorem HopStatus.isSendError_not_isResponse {s : HopStatus} (h : s.isSendError = true) :
    s.isResponse = false := by
  cases s <;> first | rfl | exact absurd h (by decide)

end HiPerConTracer.Service
