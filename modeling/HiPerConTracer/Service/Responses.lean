import HiPerConTracer.Service.IOModule
import HiPerConTracer.Wire.Streams

/-!
# Responses (`ICMPModule::handlePayloadResponse`, `UDPModule::handlePayloadResponse`)

The messages that the sockets deliver are read header by header, and recorded with what their
headers say.  An ICMP socket delivers an IPv4 message with its header, and an IPv6 message without;
a UDP socket delivers the payload only.  The size of the response is that of the packet

    recorded.responseLength = packet.size ↔
      ¬ (UDP module, IPv6, and an ICMPv6 error)                        (responseLength_eq_iff)
-/

namespace HiPerConTracer.Service
open Net Wire

/-- A call of `recordResult`; addresses that are not known are unspecified. -/
structure Recorded where
  source : Address
  destination : Address
  icmpType : UInt8
  icmpCode : UInt8
  seqNumber : UInt16
  responseLength : Nat
deriving Repr

/-- The sockets with messages. -/
inductive Socket where
  | icmp
  | udp
deriving DecidableEq, Repr

variable (io : IOModule)

/-- A default-constructed endpoint. -/
def anyAddress : Address := .v4 0

/-! ## ICMP -/

namespace ICMPModule

/-- An ICMPv6 message without IPv6 header. -/
def readIPv6 (messageLength : Nat) : InputStream Recorded := do
  let icmpHeader ← ICMPHeader.read
  if icmpHeader.type = 129 ∧ icmpHeader.identifier = io.identifier then
    let tsHeader ← TraceServiceHeader.read
    if tsHeader.magicNumber = io.magicNumber then
      return ⟨anyAddress, anyAddress, icmpHeader.type, icmpHeader.code, icmpHeader.seqNumber,
        40 + messageLength⟩
    else failure
  else if icmpHeader.type = 3 ∨ icmpHeader.type = 1 then
    let innerIPv6Header ← IPv6Header.read
    let innerICMPHeader ← ICMPHeader.read
    let tsHeader ← TraceServiceHeader.read
    if innerIPv6Header.nextHeader = 58 ∧ innerICMPHeader.identifier = io.identifier ∧
        tsHeader.magicNumber = io.magicNumber then
      return ⟨.v6 innerIPv6Header.sourceAddress 0, .v6 innerIPv6Header.destinationAddress 0,
        icmpHeader.type, icmpHeader.code, innerICMPHeader.seqNumber, 40 + messageLength⟩
    else failure
  else failure

/-- An ICMP message with IPv4 header. -/
def readIPv4 (messageLength : Nat) : InputStream Recorded := do
  let ipv4Header ← IPv4Header.read
  if ipv4Header.protocol = 1 then
    let icmpHeader ← ICMPHeader.read
    if icmpHeader.type = 0 ∧ icmpHeader.identifier = io.identifier then
      let tsHeader ← TraceServiceHeader.read
      if tsHeader.magicNumber = io.magicNumber then
        -- source and destination of a response are swapped
        return ⟨.v4 ipv4Header.destinationAddress, .v4 ipv4Header.sourceAddress, icmpHeader.type,
          icmpHeader.code, icmpHeader.seqNumber, messageLength⟩
      else failure
    else if icmpHeader.type = 11 ∨ icmpHeader.type = 3 then
      let innerIPv4Header ← IPv4Header.read
      let innerICMPHeader ← ICMPHeader.read
      if innerIPv4Header.protocol = 1 ∧ innerICMPHeader.identifier = io.identifier then
        return ⟨.v4 innerIPv4Header.sourceAddress, .v4 innerIPv4Header.destinationAddress,
          icmpHeader.type, icmpHeader.code, innerICMPHeader.seqNumber, messageLength⟩
      else failure
    else failure
  else failure

/-- `ICMPModule::handlePayloadResponse`. -/
def handlePayloadResponse (message : List UInt8) : Option Recorded :=
  if io.sourceAddress.isV6 then (readIPv6 io message.length).run' message
  else (readIPv4 io message.length).run' message

end ICMPModule

/-! ## UDP -/

namespace UDPModule

/-- The payload of a UDP response. -/
def readPayload (messageLength : Nat) : InputStream Recorded := do
  let tsHeader ← TraceServiceHeader.read
  if tsHeader.magicNumber = io.magicNumber then
    return ⟨anyAddress, anyAddress, 0, 0, tsHeader.checksumTweak,
      (if io.sourceAddress.isV6 then 40 + 8 else 20 + 8) + messageLength⟩
  else failure

/-- An ICMPv6 error without IPv6 header. -/
def readIPv6Error (messageLength : Nat) : InputStream Recorded := do
  let icmpHeader ← ICMPHeader.read
  if icmpHeader.type = 3 ∨ icmpHeader.type = 1 then
    let innerIPv6Header ← IPv6Header.read
    if innerIPv6Header.nextHeader = 17 then
      let udpHeader ← UDPHeader.read
      if udpHeader.sourcePort = io.sourcePort ∧ udpHeader.destinationPort = io.destinationPort then
        let tsHeader ← TraceServiceHeader.read
        if tsHeader.magicNumber = io.magicNumber then
          return ⟨.v6 innerIPv6Header.sourceAddress 0, .v6 innerIPv6Header.destinationAddress 0,
            icmpHeader.type, icmpHeader.code, tsHeader.checksumTweak, messageLength⟩
        else failure
      else failure
    else failure
  else failure

/-- An ICMP error with IPv4 header; the sequence number is the Identification. -/
def readIPv4Error (messageLength : Nat) : InputStream Recorded := do
  let ipv4Header ← IPv4Header.read
  if ipv4Header.protocol = 1 then
    let icmpHeader ← ICMPHeader.read
    if icmpHeader.type = 11 ∨ icmpHeader.type = 3 then
      let innerIPv4Header ← IPv4Header.read
      if innerIPv4Header.protocol = 17 then
        let udpHeader ← UDPHeader.read
        if udpHeader.sourcePort = io.sourcePort ∧
            udpHeader.destinationPort = io.destinationPort then
          return ⟨.v4 innerIPv4Header.sourceAddress, .v4 innerIPv4Header.destinationAddress,
            icmpHeader.type, icmpHeader.code, innerIPv4Header.identification, messageLength⟩
        else failure
      else failure
    else failure
  else failure

/-- `UDPModule::handlePayloadResponse`. -/
def handlePayloadResponse (socketDescriptor : Socket) (message : List UInt8) : Option Recorded :=
  match socketDescriptor with
  | .udp => (readPayload io message.length).run' message
  | .icmp =>
    if io.sourceAddress.isV6 then (readIPv6Error io message.length).run' message
    else (readIPv4Error io message.length).run' message

end UDPModule

/-! ## Received packets -/

/-- A packet for one of the sockets.  The header of an ICMPv6 message has 40 bytes, and that of a
datagram has no options. -/
inductive Received (isV6 : Bool) where
  | icmp (ipHeader message : List UInt8) (length_eq : isV6 = true → ipHeader.length = 40)
  | udp (ipHeader udpHeader payload : List UInt8)
      (length_eq : ipHeader.length = if isV6 then 40 else 20) (udpLength_eq : udpHeader.length = 8)

namespace Received
variable {isV6 : Bool}

/-- The total size of the packet. -/
def size : Received isV6 → Nat
  | .icmp ipHeader message _ => ipHeader.length + message.length
  | .udp ipHeader udpHeader payload _ _ => ipHeader.length + udpHeader.length + payload.length

def socket : Received isV6 → Socket
  | .icmp _ _ _ => .icmp
  | .udp _ _ _ _ _ => .udp

/-- What the socket delivers. -/
def message : Received isV6 → List UInt8
  | .icmp ipHeader message _ => if isV6 then message else ipHeader ++ message
  | .udp _ _ payload _ _ => payload

end Received

/-- The module's reaction to a packet; the module for ICMP listens on its ICMP socket only. -/
def receive (packet : Received io.sourceAddress.isV6) : Option Recorded :=
  match io.protocol, packet.socket with
  | .icmp, .icmp => ICMPModule.handlePayloadResponse io packet.message
  | .icmp, .udp => none
  | .udp, socket => UDPModule.handlePayloadResponse io socket packet.message

/-! ## The size of a response -/

section
open InputStream

theorem ICMPModule.readIPv6_ensures (messageLength : Nat) :
    Ensures (readIPv6 io messageLength) fun r => r.responseLength = 40 + messageLength ∧
      (r.icmpType = 129 ∨ r.icmpType = 3 ∨ r.icmpType = 1) := by
  refine .bind fun icmpHeader => .ite (fun hreply => ?_) fun _ => .ite (fun herror => ?_) fun _ =>
    .failure
  · exact .bind fun tsHeader => .ite (fun _ => .pure ⟨rfl, Or.inl hreply.1⟩) fun _ => .failure
  · refine .bind fun innerIPv6Header => .bind fun innerICMPHeader => .bind fun tsHeader => ?_
    exact .ite (fun _ => .pure ⟨rfl, Or.inr herror⟩) fun _ => .failure

theorem ICMPModule.readIPv4_ensures (messageLength : Nat) :
    Ensures (readIPv4 io messageLength) fun r => r.responseLength = messageLength ∧
      (r.icmpType = 0 ∨ r.icmpType = 11 ∨ r.icmpType = 3) := by
  refine .bind fun ipv4Header => .ite (fun _ => ?_) fun _ => .failure
  refine .bind fun icmpHeader => .ite (fun hreply => ?_) fun _ => .ite (fun herror => ?_) fun _ =>
    .failure
  · exact .bind fun tsHeader => .ite (fun _ => .pure ⟨rfl, Or.inl hreply.1⟩) fun _ => .failure
  · refine .bind fun innerIPv4Header => .bind fun innerICMPHeader => ?_
    exact .ite (fun _ => .pure ⟨rfl, Or.inr herror⟩) fun _ => .failure

theorem UDPModule.readPayload_ensures (messageLength : Nat) :
    Ensures (readPayload io messageLength) fun r => r.responseLength =
        (if io.sourceAddress.isV6 then 40 + 8 else 20 + 8) + messageLength ∧
      r.icmpType = 0 ∧ r.icmpCode = 0 :=
  .bind fun _ => .ite (fun _ => .pure ⟨rfl, rfl, rfl⟩) fun _ => .failure

theorem UDPModule.readIPv6Error_ensures (messageLength : Nat) :
    Ensures (readIPv6Error io messageLength) fun r => r.responseLength = messageLength ∧
      (r.icmpType = 3 ∨ r.icmpType = 1) := by
  refine .bind fun icmpHeader => .ite (fun herror => ?_) fun _ => .failure
  refine .bind fun innerIPv6Header => .ite (fun _ => ?_) fun _ => .failure
  refine .bind fun udpHeader => .ite (fun _ => ?_) fun _ => .failure
  exact .bind fun tsHeader => .ite (fun _ => .pure ⟨rfl, herror⟩) fun _ => .failure

theorem UDPModule.readIPv4Error_ensures (messageLength : Nat) :
    Ensures (readIPv4Error io messageLength) fun r => r.responseLength = messageLength ∧
      (r.icmpType = 11 ∨ r.icmpType = 3) := by
  refine .bind fun ipv4Header => .ite (fun _ => ?_) fun _ => .failure
  refine .bind fun icmpHeader => .ite (fun herror => ?_) fun _ => .failure
  refine .bind fun innerIPv4Header => .ite (fun _ => ?_) fun _ => .failure
  exact .bind fun udpHeader => .ite (fun _ => .pure ⟨rfl, herror⟩) fun _ => .failure

end

/-- What the module for ICMP records. -/
theorem ICMPModule.handlePayloadResponse_ensures {message : List UInt8} {recorded : Recorded}
    (h : handlePayloadResponse io message = some recorded) :
    recorded.responseLength =
        (if io.sourceAddress.isV6 then 40 + message.length else message.length) ∧
      (if io.sourceAddress.isV6 then
        recorded.icmpType = 129 ∨ recorded.icmpType = 3 ∨ recorded.icmpType = 1
      else recorded.icmpType = 0 ∨ recorded.icmpType = 11 ∨ recorded.icmpType = 3) := by
  unfold handlePayloadResponse at h
  by_cases hv6 : io.sourceAddress.isV6 = true
  · rw [if_pos hv6] at h ⊢
    rw [if_pos hv6]
    exact (readIPv6_ensures io message.length).run h
  · rw [if_neg hv6] at h ⊢
    rw [if_neg hv6]
    exact (readIPv4_ensures io message.length).run h

/-- What the module for UDP records of an ICMP error. -/
theorem UDPModule.handlePayloadResponse_ensures {message : List UInt8} {recorded : Recorded}
    (h : handlePayloadResponse io .icmp message = some recorded) :
    recorded.responseLength = message.length ∧
      (if io.sourceAddress.isV6 then recorded.icmpType = 3 ∨ recorded.icmpType = 1
      else recorded.icmpType = 11 ∨ recorded.icmpType = 3) := by
  unfold handlePayloadResponse at h
  by_cases hv6 : io.sourceAddress.isV6 = true
  · simp only [if_pos hv6] at h
    rw [if_pos hv6]
    exact (readIPv6Error_ensures io message.length).run h
  · simp only [if_neg hv6] at h
    rw [if_neg hv6]
    exact (readIPv4Error_ensures io message.length).run h

/-- **The size of a response** is that of the IP packet, except for the ICMPv6 errors of the UDP
module, whose IPv6 header is not counted. -/
theorem responseLength_eq_iff {packet : Received io.sourceAddress.isV6} {recorded : Recorded}
    (h : receive io packet = some recorded) :
    recorded.responseLength = packet.size ↔
      ¬ (io.protocol = .udp ∧ io.sourceAddress.isV6 = true ∧ packet.socket = .icmp) := by
  unfold receive at h
  cases hprotocol : io.protocol with
  | icmp =>
    rw [hprotocol] at h
    refine iff_of_true ?_ fun hudp => by cases hudp.1
    cases packet with
    | udp ipHeader udpHeader payload _ _ => cases h
    | icmp ipHeader message length_eq =>
      rw [(ICMPModule.handlePayloadResponse_ensures io h).1]
      show _ = ipHeader.length + message.length
      by_cases hv6 : io.sourceAddress.isV6 = true
      · rw [if_pos hv6, length_eq hv6]
        show 40 + (if io.sourceAddress.isV6 then message else ipHeader ++ message).length = _
        rw [if_pos hv6]
      · rw [if_neg hv6]
        show (if io.sourceAddress.isV6 then message else ipHeader ++ message).length = _
        rw [if_neg hv6, List.length_append]
  | udp =>
    rw [hprotocol] at h
    cases packet with
    | udp ipHeader udpHeader payload length_eq udpLength_eq =>
      refine iff_of_true ?_ fun herror => by cases herror.2.2
      rw [((UDPModule.readPayload_ensures io payload.length).run h).1]
      show (if io.sourceAddress.isV6 then 40 + 8 else 20 + 8) + payload.length =
        ipHeader.length + udpHeader.length + payload.length
      rw [length_eq, udpLength_eq]
      split <;> rfl
    | icmp ipHeader message length_eq =>
      rw [(UDPModule.handlePayloadResponse_ensures io h).1]
      show (if io.sourceAddress.isV6 then message else ipHeader ++ message).length =
        ipHeader.length + message.length ↔ _
      by_cases hv6 : io.sourceAddress.isV6 = true
      · rw [if_pos hv6]
        have hheader := length_eq hv6
        constructor
        · intro heq
          omega
        · intro herror
          exact absurd ⟨rfl, hv6, rfl⟩ herror
      · rw [if_neg hv6, List.length_append]
        exact iff_of_true rfl fun herror => hv6 herror.2.1

theorem smallPayload_le : 16 ≤ maxTraceServiceHeaderSize := by decide

/-- The service that sends `smallRequest`. -/
def smallService : IOModule where
  protocol := .udp
  identifier := 0
  magicNumber := 0x12345678
  payloadSize := 16
  payloadSize_le := smallPayload_le
  actualPacketSize := 64
  sourceAddress := .v6 0xfd000000000000000000000000000001 0
  findSourceForDestination := id
  sourcePort := 50000
  destinationPort := 7

/-- A request of the service. -/
def smallPacket : UDPPacket := smallRequest.datagram [] ⟨1, 64, 0, 1570000000000000000⟩

/-- The echo of the request. -/
def smallEcho : Received smallService.sourceAddress.isV6 :=
  .udp (List.replicate 40 0) (List.replicate 8 0) smallPacket.tsHeader.bytes rfl rfl

theorem smallEcho_responseLength : ∃ recorded, receive smallService smallEcho = some recorded ∧
    recorded.responseLength = smallEcho.size := by
  have h : receive smallService smallEcho = some ⟨anyAddress, anyAddress, 0, 0, 1, 64⟩ := by
    rfl
  exact ⟨_, h, (responseLength_eq_iff smallService h).mpr (by decide)⟩

/-- A Time Exceeded message about the request, without its IPv6 header. -/
def smallTimeExceeded : List UInt8 :=
  match smallPacket.ipHeader with
  | .v4 _ => []
  | .v6 ipv6Header => [3, 0, 0, 0, 0, 0, 0, 0] ++ ipv6Header.bytes ++
      smallPacket.udpHeader.bytes ++ smallPacket.tsHeader.bytes

/-- The packet has 112 bytes, but 72 are recorded. -/
theorem timeExceeded_responseLength :
    (receive smallService (.icmp (List.replicate 40 0) smallTimeExceeded fun _ => rfl)).map
        (·.responseLength) = some 72 ∧
      Received.size (.icmp (List.replicate 40 0) smallTimeExceeded fun _ => rfl :
        Received smallService.sourceAddress.isV6) = 112 := by
  decide +kernel

/-- What is recorded is a response to one of the messages of the services. -/
theorem receive_message {packet : Received io.sourceAddress.isV6} {recorded : Recorded}
    (h : receive io packet = some recorded) :
    ∃ m : IOModule.Message, io.handlePayloadResponse m = some (recorded.icmpType,
      recorded.icmpCode, recorded.seqNumber, recorded.responseLength) := by
  unfold receive at h
  cases hprotocol : io.protocol with
  | icmp =>
    rw [hprotocol] at h
    cases packet with
    | udp ipHeader udpHeader payload _ _ => cases h
    | icmp ipHeader message length_eq =>
      have htype := (ICMPModule.handlePayloadResponse_ensures io h).2
      refine ⟨.icmp recorded.icmpType recorded.icmpCode recorded.seqNumber
        recorded.responseLength, ?_⟩
      unfold IOModule.handlePayloadResponse
      rw [hprotocol]
      refine if_pos ?_
      split at htype <;> simp [*]
  | udp =>
    rw [hprotocol] at h
    cases packet with
    | udp ipHeader udpHeader payload length_eq udpLength_eq =>
      obtain ⟨-, htype, hcode⟩ := (UDPModule.readPayload_ensures io payload.length).run h
      refine ⟨.payload recorded.seqNumber recorded.responseLength, ?_⟩
      unfold IOModule.handlePayloadResponse
      rw [hprotocol, htype, hcode]
    | icmp ipHeader message length_eq =>
      have htype := (UDPModule.handlePayloadResponse_ensures io h).2
      refine ⟨.icmp recorded.icmpType recorded.icmpCode recorded.seqNumber
        recorded.responseLength, ?_⟩
      unfold IOModule.handlePayloadResponse
      rw [hprotocol]
      refine if_pos (Or.inr ?_)
      split at htype <;> simp [*]

end HiPerConTracer.Service
