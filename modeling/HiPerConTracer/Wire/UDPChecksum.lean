import HiPerConTracer.Wire.ChecksumSteering

/-!
# The checksums of UDP requests (`UDPModule::sendRequest`, `ipv4header.h`, `ipv6header.h`)

`sendRequest` writes the IP header, the UDP header and the payload of each request itself, and sums
up the UDP header, the pseudo header and the payload in the byte order of the host.  The receiver,
who adds the words in network byte order with an end-around carry, gets `0xffff`; and so for the
header of an IPv4 packet.  But a checksum that is computed as zero is sent as zero:

    Valid (request.datagram before m) ↔ (request.words m).sum % 65535 ≠ 0       (datagram_valid_iff)
-/

namespace HiPerConTracer.Wire

/-! ## Headers -/

structure UDPHeader where
  sourcePort : UInt16
  destinationPort : UInt16
  length : UInt16
  checksum : UInt16
deriving DecidableEq, Repr

def UDPHeader.bytes (h : UDPHeader) : List UInt8 :=
  encode h.sourcePort ++ encode h.destinationPort ++ encode h.length ++ encode h.checksum

/-- `to_bytes()` of an IPv4 address. -/
def v4Bytes (a : UInt32) : List UInt8 :=
  [(a >>> 24).toUInt8, (a >>> 16).toUInt8, (a >>> 8).toUInt8, a.toUInt8]

/-- The words of an IPv6 address. -/
def v6Words (a : BitVec 128) : List UInt16 :=
  (List.range 8).map fun i => UInt16.ofNat (a.toNat / 65536 ^ (7 - i))

/-- `to_bytes()` of an IPv6 address. -/
def v6Bytes (a : BitVec 128) : List UInt8 := (v6Words a).flatMap encode

structure IPv4Header where
  version : UInt8
  /-- In bytes. -/
  headerLength : UInt8
  typeOfService : UInt8
  totalLength : UInt16
  identification : UInt16
  fragmentOffset : UInt16
  timeToLive : UInt8
  protocol : UInt8
  headerChecksum : UInt16
  sourceAddress : UInt32
  destinationAddress : UInt32

def IPv4Header.bytes (h : IPv4Header) : List UInt8 :=
  [(h.version <<< 4) ||| ((h.headerLength >>> 2) &&& 0x0f), h.typeOfService] ++
  encode h.totalLength ++ encode h.identification ++ encode h.fragmentOffset ++
  [h.timeToLive, h.protocol] ++ encode h.headerChecksum ++
  v4Bytes h.sourceAddress ++ v4Bytes h.destinationAddress

structure IPv6Header where
  version : UInt8
  trafficClass : UInt8
  flowLabel : UInt32
  payloadLength : UInt16
  nextHeader : UInt8
  hopLimit : UInt8
  sourceAddress : BitVec 128
  destinationAddress : BitVec 128

def IPv6Header.bytes (h : IPv6Header) : List UInt8 :=
  [((h.version &&& 0x0f) <<< 4) ||| ((h.trafficClass &&& 0xf0) >>> 4),
    ((h.trafficClass &&& 0x0f) <<< 4) ||| ((h.flowLabel &&& 0x000f0000) >>> 16).toUInt8,
    ((h.flowLabel &&& 0x0000ff00) >>> 8).toUInt8, (h.flowLabel &&& 0x000000ff).toUInt8] ++
  encode h.payloadLength ++ [h.nextHeader, h.hopLimit] ++
  v6Bytes h.sourceAddress ++ v6Bytes h.destinationAddress

/-- `IPv4PseudoHeader`. -/
def IPv4Header.pseudoHeader (h : IPv4Header) (length : UInt16) : List UInt8 :=
  v4Bytes h.sourceAddress ++ v4Bytes h.destinationAddress ++ [0x00, h.protocol] ++ encode length

/-- `IPv6PseudoHeader`. -/
def IPv6Header.pseudoHeader (h : IPv6Header) (length : UInt32) : List UInt8 :=
  v6Bytes h.sourceAddress ++ v6Bytes h.destinationAddress ++
  [(length >>> 24).toUInt8, (length >>> 16).toUInt8, (length >>> 8).toUInt8, length.toUInt8] ++
  [0x00, 0x00, 0x00, h.nextHeader]

inductive IPHeader where
  | v4 (ipv4Header : IPv4Header)
  | v6 (ipv6Header : IPv6Header)

def IPHeader.pseudoHeader (length : UInt16) : IPHeader → List UInt8
  | .v4 h => h.pseudoHeader length
  | .v6 h => h.pseudoHeader length.toUInt32

/-! ## Requests -/

/-- Source and destination are of the family of the service's source address. -/
inductive Endpoints where
  | v4 (source destination : UInt32)
  | v6 (source destination : BitVec 128)

/-- What all requests of a call of `sendRequest` have; `main` limits the packet size. -/
structure UDPRequest where
  endpoints : Endpoints
  sourcePort : UInt16
  destinationPort : UInt16
  trafficClass : UInt8
  magicNumber : UInt32
  packetSize : Nat
  packetSize_le : packetSize ≤ 65535

/-- What a request of its own has. -/
structure Message where
  seqNumber : UInt16
  ttl : UInt8
  round : UInt8
  sendTime : UInt64

/-- The size of the IP header. -/
def Endpoints.headerSize : Endpoints → Nat
  | .v4 _ _ => 20
  | .v6 _ _ => 40

def UDPRequest.payloadSize (r : UDPRequest) : Nat :=
  max minTraceServiceHeaderSize (r.packetSize - r.endpoints.headerSize - 8)

theorem UDPRequest.payloadSize_le (r : UDPRequest) : r.payloadSize ≤ maxTraceServiceHeaderSize := by
  have hsize := r.packetSize_le
  unfold payloadSize minTraceServiceHeaderSize maxTraceServiceHeaderSize
  omega

def UDPRequest.actualPacketSize (r : UDPRequest) : Nat :=
  r.endpoints.headerSize + 8 + r.payloadSize

structure UDPPacket where
  ipHeader : IPHeader
  pseudoHeader : List UInt8
  udpHeader : UDPHeader
  tsHeader : TraceServiceHeader

/-- The IP header; the fields that have no value yet are set for each request. -/
def UDPRequest.ipHeader (r : UDPRequest) : IPHeader :=
  match r.endpoints with
  | .v6 source destination => .v6
    { version := 6, trafficClass := r.trafficClass, flowLabel := 0
      payloadLength := UInt16.ofNat (8 + r.payloadSize), nextHeader := 17, hopLimit := 0
      sourceAddress := source, destinationAddress := destination }
  | .v4 source destination => .v4
    { version := 4, headerLength := 20, typeOfService := r.trafficClass
      totalLength := UInt16.ofNat r.actualPacketSize, identification := 0, fragmentOffset := 0
      timeToLive := 0, protocol := 17, headerChecksum := 0
      sourceAddress := source, destinationAddress := destination }

/-- The headers before the sender loop. -/
def UDPRequest.packet (r : UDPRequest) : UDPPacket :=
  let udpHeader : UDPHeader := ⟨r.sourcePort, r.destinationPort, UInt16.ofNat (8 + r.payloadSize), 0⟩
  { ipHeader := r.ipHeader
    pseudoHeader := r.ipHeader.pseudoHeader udpHeader.length
    udpHeader := udpHeader
    tsHeader := { TraceServiceHeader.new r.payloadSize r.payloadSize_le with
                  magicNumber := r.magicNumber } }

/-- The update of the IP header; the sequence number is the Identification of IPv4. -/
def IPHeader.update (m : Message) : IPHeader → IPHeader
  | .v6 h => .v6 { h with hopLimit := m.ttl }
  | .v4 h => .v4 { h with timeToLive := m.ttl, identification := m.seqNumber, headerChecksum := 0 }

def IPv4Header.computeChecksum (h : IPv4Header) : UInt16 :=
  finishInternet16 (computeInternet16 0 h.bytes)

/-- The header checksum of IPv4. -/
def IPHeader.setChecksum : IPHeader → IPHeader
  | .v6 h => .v6 h
  | .v4 h => .v4 { h with headerChecksum := h.computeChecksum }

/-- One turn of the sender loop up to `send_to`. -/
def UDPPacket.prepare (p : UDPPacket) (m : Message) : UDPPacket :=
  let ipHeader := p.ipHeader.update m
  let udpHeader := { p.udpHeader with checksum := 0 }
  let tsHeader := { p.tsHeader with checksumTweak := m.seqNumber, sendTTL := m.ttl
                                    round := m.round, sendTimeStamp := m.sendTime }
  let udpChecksum := computeInternet16 0 udpHeader.bytes
  let udpChecksum := computeInternet16 udpChecksum p.pseudoHeader
  let udpChecksum := computeInternet16 udpChecksum tsHeader.bytes
  { ipHeader := ipHeader.setChecksum
    pseudoHeader := p.pseudoHeader
    udpHeader := { udpHeader with checksum := finishInternet16 udpChecksum }
    tsHeader := tsHeader }

/-- The datagram of a message, behind those sent before in the loop. -/
def UDPRequest.datagram (r : UDPRequest) (before : List Message) (m : Message) : UDPPacket :=
  (before.foldl UDPPacket.prepare r.packet).prepare m

/-! ## What the receiver checks -/

/-- The 16-bit words in network byte order; a final byte is followed by zero. -/
def networkWords : List UInt8 → List Nat
  | b0 :: b1 :: data => (256 * b0.toNat + b1.toNat) :: networkWords data
  | [b] => [256 * b.toNat]
  | [] => []

def onesComplementSum (data : List UInt8) : Nat := OnesComplement.total 256 (networkWords data)

/-- The checksums verify, and the one of UDP is not the value for no checksum. -/
structure UDPPacket.Valid (p : UDPPacket) : Prop where
  udp : onesComplementSum (p.ipHeader.pseudoHeader p.udpHeader.length ++ p.udpHeader.bytes ++
    p.tsHeader.bytes) = 0xffff
  checksum : p.udpHeader.checksum ≠ 0
  ipv4 : ∀ h, p.ipHeader = .v4 h → onesComplementSum h.bytes = 0xffff

/-- The words of the pseudo header. -/
def Endpoints.words (length : Nat) : Endpoints → List Nat
  | .v4 s d => [s.toNat / 65536, s.toNat % 65536, d.toNat / 65536, d.toNat % 65536, 17, length]
  | .v6 s d => (v6Words s ++ v6Words d).map (·.toNat) ++ [0, length, 0, 17]

/-- The words of the pseudo header, the ports and the length, and the payload of a request. -/
def UDPRequest.words (r : UDPRequest) (m : Message) : List Nat :=
  r.endpoints.words (8 + r.payloadSize) ++
  [r.sourcePort.toNat, r.destinationPort.toNat, 8 + r.payloadSize, 0] ++
  [r.magicNumber.toNat / 65536, r.magicNumber.toNat % 65536, 256 * m.ttl.toNat + m.round.toNat,
    m.seqNumber.toNat, m.sendTime.toNat / 65536 ^ 3, m.sendTime.toNat / 65536 ^ 2 % 65536,
    m.sendTime.toNat / 65536 % 65536, m.sendTime.toNat % 65536] ++
  networkWords (TraceServiceHeader.new r.payloadSize r.payloadSize_le).padding

/-! ## Network byte order -/

theorem networkWords_append {data : List UInt8} (rest : List UInt8) (h : data.length % 2 = 0) :
    networkWords (data ++ rest) = networkWords data ++ networkWords rest := by
  induction data using networkWords.induct with
  | case1 b0 b1 data ih =>
    simp only [List.length_cons] at h
    simp only [List.cons_append, networkWords]
    rw [ih (by omega)]
  | case2 b => simp at h
  | case3 => rfl

theorem networkWords_lt (data : List UInt8) : ∀ w ∈ networkWords data, w < 256 * 256 := by
  induction data using networkWords.induct with
  | case1 b0 b1 data ih =>
    have h0 := b0.toNat_lt
    have h1 := b1.toNat_lt
    intro w hw
    rcases List.mem_cons.mp hw with rfl | hw
    · omega
    · exact ih w hw
  | case2 b =>
    have hb := b.toNat_lt
    intro w hw
    rw [List.mem_singleton.mp hw]
    omega
  | case3 =>
    intro w hw
    cases hw

/-- A sum of words in the other byte order. -/
theorem wordSum_eq (data : List UInt8) :
    ((wordSum data : Nat) : ZMod (256 * 256 - 1)) = (256 : Nat) * (networkWords data).sum := by
  have h1 := OnesComplement.base_eq_one (b := 256) (by decide)
  induction data using networkWords.induct with
  | case1 b0 b1 data ih =>
    simp only [wordSum, networkWords, List.sum_cons]
    push_cast at ih h1 ⊢
    rw [ih]
    linear_combination -(b0.toNat : ZMod (256 * 256 - 1)) * h1
  | case2 b =>
    simp only [wordSum, networkWords, List.sum_cons, List.sum_nil]
    push_cast at h1 ⊢
    linear_combination -(b.toNat : ZMod (256 * 256 - 1)) * h1
  | case3 => simp [wordSum, networkWords]

theorem networkWords_encode (n : UInt16) (rest : List UInt8) :
    networkWords (encode n ++ rest) = n.toNat :: networkWords rest := by
  unfold encode
  simp only [List.cons_append, List.nil_append, networkWords]
  rw [toUInt8_high, toUInt8_low]
  congr 1
  omega

theorem sum_pos_iff (data : List UInt8) : 0 < wordSum data ↔ 0 < (networkWords data).sum := by
  induction data using networkWords.induct with
  | case1 b0 b1 data ih =>
    simp only [wordSum, networkWords, List.sum_cons]
    omega
  | case2 b =>
    simp only [wordSum, networkWords, List.sum_cons, List.sum_nil]
    omega
  | case3 => rfl

/-- **A checksum field within the data** that has been computed with the field zero. -/
theorem stored_verifies {before rest : List UInt8} {sum : UInt32} (heven : before.length % 2 = 0)
    (hsum : sum.toNat = wordSum (before ++ (encode 0 ++ rest))) :
    onesComplementSum (before ++ (encode (finishInternet16 sum) ++ rest)) = 0xffff := by
  have hbound : sum.toNat < 256 * 256 * (256 * 256) := sum.toNat_lt
  have hzero : (0 : UInt16).toNat = 0 := rfl
  have hwords : ∀ c, (networkWords (before ++ (encode c ++ rest))).sum =
      (networkWords before).sum + (c.toNat + (networkWords rest).sum) := by
    intro c
    rw [networkWords_append _ heven, networkWords_encode, List.sum_append, List.sum_cons]
  have horder := wordSum_eq (before ++ (encode 0 ++ rest))
  rw [← hsum] at horder
  refine (OnesComplement.total_eq_ones_iff (by decide) (networkWords_lt _)).mpr ⟨?_, ?_⟩
  · -- without any other word, the complement is all ones
    rw [hwords]
    by_cases hpos : 0 < sum.toNat
    · rw [hsum] at hpos
      have hn := (sum_pos_iff _).mp hpos
      rw [hwords] at hn
      omega
    · have hones : (finishInternet16 sum).toNat = 256 * 256 - 1 := by
        rw [finishInternet16_toNat, Nat.eq_zero_of_not_pos hpos,
          OnesComplement.complement_zero (by decide)]
      omega
  · have hverify := OnesComplement.sum_add_complement (by decide) hbound horder
    rw [← finishInternet16_toNat, hwords] at hverify
    rw [← hverify, hwords]
    congr 1
    omega

/-- A checksum is zero if the sum is, unless all words are zero. -/
theorem checksum_verifies {before rest : List UInt8} {sum : UInt32}
    (heven : before.length % 2 = 0) (hsum : sum.toNat = wordSum (before ++ (encode 0 ++ rest)))
    (hpos : 0 < wordSum (before ++ (encode 0 ++ rest))) :
    onesComplementSum (before ++ (encode (finishInternet16 sum) ++ rest)) = 0xffff ∧
      (finishInternet16 sum = 0 ↔
        (networkWords (before ++ (encode 0 ++ rest))).sum % 65535 = 0) := by
  have hbound : sum.toNat < 256 * 256 * (256 * 256) := sum.toNat_lt
  have horder := wordSum_eq (before ++ (encode 0 ++ rest))
  rw [← hsum] at horder
  refine ⟨stored_verifies heven hsum, ?_⟩
  have hzero : (finishInternet16 sum = 0 ↔ (finishInternet16 sum).toNat = 0) := by
    rw [← UInt16.toNat_inj]
    rfl
  rw [hzero, finishInternet16_toNat,
    OnesComplement.complement_eq_zero_iff (by decide) hbound (by omega), horder,
    OnesComplement.natCast_base_mul_eq_zero_iff (by decide), ZMod.natCast_eq_zero_iff,
    Nat.dvd_iff_mod_eq_zero]

/-! ## The words of a request -/

theorem shiftRight_toUInt8 (n : UInt32) {k : UInt32} (hk : k.toNat < 32) :
    (n >>> k).toUInt8.toNat = n.toNat / 2 ^ k.toNat % 256 := by
  rw [UInt32.toNat_toUInt8, UInt32.toNat_shiftRight, Nat.shiftRight_eq_div_pow,
    Nat.mod_eq_of_lt hk]

theorem shiftRight_toUInt8' (n : UInt64) {k : UInt64} (hk : k.toNat < 64) :
    (n >>> k).toUInt8.toNat = n.toNat / 2 ^ k.toNat % 256 := by
  rw [UInt64.toNat_toUInt8, UInt64.toNat_shiftRight, Nat.shiftRight_eq_div_pow,
    Nat.mod_eq_of_lt hk]

theorem networkWords_v4 (a : UInt32) (rest : List UInt8) :
    networkWords (v4Bytes a ++ rest) =
      a.toNat / 65536 :: a.toNat % 65536 :: networkWords rest := by
  have ha := a.toNat_lt
  unfold v4Bytes
  simp only [List.cons_append, List.nil_append, networkWords]
  rw [shiftRight_toUInt8 a (by decide), shiftRight_toUInt8 a (by decide),
    shiftRight_toUInt8 a (by decide), UInt32.toNat_toUInt8]
  simp only [UInt32.reduceToNat, Nat.reducePow]
  congr 1
  · omega
  · congr 1
    omega

theorem networkWords_encodes (l : List UInt16) (rest : List UInt8) :
    networkWords (l.flatMap encode ++ rest) = l.map (·.toNat) ++ networkWords rest := by
  induction l with
  | nil => rfl
  | cons n l ih => rw [List.flatMap_cons, List.append_assoc, networkWords_encode, ih]; rfl

theorem TraceServiceHeader.networkWords_bytes (h : TraceServiceHeader) :
    networkWords h.bytes = [h.magicNumber.toNat / 65536, h.magicNumber.toNat % 65536,
      256 * h.sendTTL.toNat + h.round.toNat, h.checksumTweak.toNat,
      h.sendTimeStamp.toNat / 65536 ^ 3, h.sendTimeStamp.toNat / 65536 ^ 2 % 65536,
      h.sendTimeStamp.toNat / 65536 % 65536, h.sendTimeStamp.toNat % 65536] ++
      networkWords h.padding := by
  have hm := h.magicNumber.toNat_lt
  have ht := h.sendTimeStamp.toNat_lt
  unfold TraceServiceHeader.bytes
  simp only [List.append_assoc, List.cons_append, List.nil_append, networkWords]
  rw [networkWords_encode]
  simp only [networkWords]
  rw [shiftRight_toUInt8 _ (by decide), shiftRight_toUInt8 _ (by decide),
    shiftRight_toUInt8 _ (by decide), UInt32.toNat_toUInt8]
  repeat rw [shiftRight_toUInt8' _ (by decide)]
  rw [UInt64.toNat_toUInt8]
  simp only [UInt32.reduceToNat, UInt64.reduceToNat, Nat.reducePow]
  simp only [List.cons.injEq, and_true, true_and]
  refine ⟨?_, ?_, ?_, ?_, ?_, ?_⟩ <;> omega

theorem UDPRequest.length_toNat (r : UDPRequest) :
    (UInt16.ofNat (8 + r.payloadSize)).toNat = 8 + r.payloadSize := by
  have hsize := r.packetSize_le
  have hheader : 20 ≤ r.endpoints.headerSize := by
    cases r.endpoints with
    | v4 _ _ => exact Nat.le_refl 20
    | v6 _ _ => exact (by decide : 20 ≤ 40)
  rw [UInt16.toNat_ofNat']
  unfold payloadSize minTraceServiceHeaderSize
  omega

/-- The words of the pseudo header. -/
theorem UDPRequest.networkWords_pseudoHeader (r : UDPRequest) (rest : List UInt8) :
    networkWords (r.packet.pseudoHeader ++ rest) =
      r.endpoints.words (8 + r.payloadSize) ++ networkWords rest := by
  have hlength := r.length_toNat
  show networkWords (r.ipHeader.pseudoHeader (UInt16.ofNat (8 + r.payloadSize)) ++ rest) = _
  generalize UInt16.ofNat (8 + r.payloadSize) = length at hlength
  rw [← hlength]
  have hlt := length.toNat_lt
  unfold ipHeader
  cases r.endpoints with
  | v4 s d =>
    simp only [IPHeader.pseudoHeader, IPv4Header.pseudoHeader, List.append_assoc]
    rw [networkWords_v4, networkWords_v4]
    simp only [List.cons_append, List.nil_append, networkWords]
    rw [networkWords_encode]
    rfl
  | v6 s d =>
    simp only [IPHeader.pseudoHeader, IPv6Header.pseudoHeader, v6Bytes, List.append_assoc]
    rw [networkWords_encodes, networkWords_encodes]
    simp only [List.cons_append, List.nil_append, networkWords]
    rw [shiftRight_toUInt8 _ (by decide), shiftRight_toUInt8 _ (by decide),
      shiftRight_toUInt8 _ (by decide), UInt32.toNat_toUInt8]
    simp only [UInt32.reduceToNat, Nat.reducePow, UInt16.toNat_toUInt32]
    show _ = (v6Words s ++ v6Words d).map (·.toNat) ++ [0, length.toNat, 0, 17] ++ _
    rw [List.map_append, List.append_assoc, List.append_assoc]
    have h0 : 256 * (length.toNat / 16777216 % 256) + length.toNat / 65536 % 256 = 0 := by omega
    have h1 : 256 * (length.toNat / 256 % 256) + length.toNat % 256 = length.toNat := by omega
    rw [h0, h1]
    rfl

/-- What a request writes does not depend on the requests before it. -/
theorem prepare_prepare (p : UDPPacket) (m m' : Message) :
    (p.prepare m).prepare m' = p.prepare m' := by
  obtain ⟨ipHeader, pseudoHeader, udpHeader, tsHeader⟩ := p
  cases ipHeader <;> rfl

theorem UDPRequest.datagram_eq (r : UDPRequest) (before : List Message) (m : Message) :
    r.datagram before m = r.packet.prepare m := by
  unfold datagram
  generalize r.packet = p
  induction before generalizing p with
  | nil => rfl
  | cons m' before ih => rw [List.foldl_cons, ih, prepare_prepare]

/-- The payload of a request. -/
def UDPRequest.payload (r : UDPRequest) (m : Message) : TraceServiceHeader :=
  { r.packet.tsHeader with checksumTweak := m.seqNumber, sendTTL := m.ttl, round := m.round
                           sendTimeStamp := m.sendTime }

/-- The UDP header up to the checksum. -/
def UDPRequest.ports (r : UDPRequest) : List UInt8 :=
  encode r.sourcePort ++ encode r.destinationPort ++ encode (UInt16.ofNat (8 + r.payloadSize))

/-- The data of the checksum, with checksum field zero. -/
theorem UDPRequest.networkWords_data (r : UDPRequest) (m : Message) :
    networkWords ((r.packet.pseudoHeader ++ r.ports) ++ (encode 0 ++ (r.payload m).bytes)) =
      r.words m := by
  unfold ports
  simp only [List.append_assoc]
  rw [networkWords_pseudoHeader, networkWords_encode, networkWords_encode, networkWords_encode,
    networkWords_encode, r.length_toNat, TraceServiceHeader.networkWords_bytes]
  unfold words
  simp only [List.append_assoc]
  rfl

theorem v6Bytes_length (a : BitVec 128) : (v6Bytes a).length = 16 := by
  unfold v6Bytes v6Words
  rw [List.length_flatMap, List.map_map]
  rfl

theorem UDPRequest.pseudoHeader_length (r : UDPRequest) :
    r.packet.pseudoHeader.length = 12 ∨ r.packet.pseudoHeader.length = 40 := by
  show (r.ipHeader.pseudoHeader (UInt16.ofNat (8 + r.payloadSize))).length = 12 ∨ _
  unfold packet ipHeader
  cases r.endpoints with
  | v4 s d => exact Or.inl rfl
  | v6 s d =>
    right
    simp only [IPHeader.pseudoHeader, IPv6Header.pseudoHeader, List.length_append,
      v6Bytes_length, List.length_cons, List.length_nil]

/-- The sum of the three parts is that of the data in the order of the receiver. -/
theorem UDPRequest.sum_toNat (r : UDPRequest) (m : Message) :
    (computeInternet16 (computeInternet16 (computeInternet16 0 (r.ports ++ encode 0))
      r.packet.pseudoHeader) (r.payload m).bytes).toNat =
      wordSum ((r.packet.pseudoHeader ++ r.ports) ++ (encode 0 ++ (r.payload m).bytes)) := by
  have hpseudo := r.pseudoHeader_length
  have hports : r.ports.length = 6 := rfl
  have hzero : (encode 0).length = 2 := rfl
  have hsplit : wordSum ((r.packet.pseudoHeader ++ r.ports) ++
      (encode 0 ++ (r.payload m).bytes)) = wordSum r.packet.pseudoHeader +
        (wordSum (r.ports ++ encode 0) + wordSum (r.payload m).bytes) := by
    rw [List.append_assoc, wordSum_append (by omega), ← List.append_assoc,
      wordSum_append (by rw [List.length_append]; omega)]
  have hbound : wordSum ((r.packet.pseudoHeader ++ r.ports) ++
      (encode 0 ++ (r.payload m).bytes)) < 2 ^ 32 := by
    have hle := wordSum_le ((r.packet.pseudoHeader ++ r.ports) ++
      (encode 0 ++ (r.payload m).bytes))
    have hsize := (r.payload m).size_le
    rw [← TraceServiceHeader.bytes_length] at hsize
    unfold maxTraceServiceHeaderSize at hsize
    simp only [List.length_append] at hle
    omega
  rw [hsplit] at hbound ⊢
  rw [computeInternet16_toNat, computeInternet16_toNat, computeInternet16_toNat]
  simp only [UInt32.reduceToNat]
  omega

/-- The IPv4 header up to the checksum. -/
def IPv4Header.fields (h : IPv4Header) : List UInt8 :=
  [(h.version <<< 4) ||| ((h.headerLength >>> 2) &&& 0x0f), h.typeOfService] ++
  encode h.totalLength ++ encode h.identification ++ encode h.fragmentOffset ++
  [h.timeToLive, h.protocol]

theorem IPv4Header.bytes_eq (h : IPv4Header) (c : UInt16) :
    ({ h with headerChecksum := c } : IPv4Header).bytes =
      h.fields ++ (encode c ++ (v4Bytes h.sourceAddress ++ v4Bytes h.destinationAddress)) := by
  unfold bytes fields
  simp only [List.append_assoc]

/-- The header checksum of IPv4 verifies. -/
theorem setChecksum_verifies {h : IPv4Header} (hversion : h.version = 4)
    (hlength : h.headerLength = 20) (hzero : h.headerChecksum = 0) :
    onesComplementSum ({ h with headerChecksum := h.computeChecksum } : IPv4Header).bytes =
      0xffff := by
  have hbytes : h.bytes = h.fields ++
      (encode 0 ++ (v4Bytes h.sourceAddress ++ v4Bytes h.destinationAddress)) := by
    rw [← h.bytes_eq, ← hzero]
  have hfields : h.fields.length = 10 := rfl
  have hsum : (computeInternet16 0 h.bytes).toNat = wordSum h.bytes := by
    have hle := wordSum_le h.bytes
    have hsize : h.bytes.length = 20 := rfl
    rw [computeInternet16_toNat]
    simp only [UInt32.reduceToNat]
    omega
  have hpos : 0 < wordSum h.bytes := by
    unfold IPv4Header.bytes
    rw [hversion, hlength]
    simp only [List.cons_append, wordSum]
    have hfirst : ((4 : UInt8) <<< 4 ||| (20 : UInt8) >>> 2 &&& 0x0f).toNat = 0x45 := by decide
    omega
  rw [h.bytes_eq]
  unfold IPv4Header.computeChecksum
  rw [hbytes] at hsum hpos ⊢
  exact (checksum_verifies (by omega) hsum hpos).1

/-- The receiver's pseudo header is the one of the sender. -/
theorem UDPRequest.prepare_pseudoHeader (r : UDPRequest) (m : Message) :
    (r.packet.prepare m).ipHeader.pseudoHeader (r.packet.prepare m).udpHeader.length =
      r.packet.pseudoHeader := by
  show ((r.ipHeader.update m).setChecksum).pseudoHeader (UInt16.ofNat (8 + r.payloadSize)) =
    r.ipHeader.pseudoHeader (UInt16.ofNat (8 + r.payloadSize))
  generalize r.ipHeader = ipHeader
  cases ipHeader <;> rfl

/-- **The checksums of UDP requests**: every datagram has valid checksums exactly if the sum of its
words, without the checksum, is not a multiple of `0xffff`. -/
theorem datagram_valid_iff (r : UDPRequest) (before : List Message) (m : Message) :
    (r.datagram before m).Valid ↔ (r.words m).sum % 65535 ≠ 0 := by
  rw [r.datagram_eq before m]
  have hpseudo := r.pseudoHeader_length
  have hports : r.ports.length = 6 := rfl
  have heven : (r.packet.pseudoHeader ++ r.ports).length % 2 = 0 := by
    rw [List.length_append]
    omega
  have hpos : 0 < wordSum ((r.packet.pseudoHeader ++ r.ports) ++
      (encode 0 ++ (r.payload m).bytes)) := by
    -- the length of the payload is not zero
    rw [sum_pos_iff, r.networkWords_data m]
    unfold UDPRequest.words
    simp only [List.sum_append, List.sum_cons]
    omega
  obtain ⟨hudp, hchecksum⟩ := checksum_verifies heven (r.sum_toNat m) hpos
  rw [r.networkWords_data m] at hchecksum
  constructor
  · intro hvalid hsum
    exact hvalid.checksum (hchecksum.mpr hsum)
  · intro hsum
    refine ⟨?_, fun hc => hsum (hchecksum.mp hc), ?_⟩
    · rw [r.prepare_pseudoHeader m, List.append_assoc]
      rw [List.append_assoc, ← List.append_assoc r.ports] at hudp
      exact hudp
    · intro h hh
      have hheader : (r.ipHeader.update m).setChecksum = .v4 h := hh
      unfold UDPRequest.ipHeader at hheader
      cases hends : r.endpoints with
      | v4 s d =>
        rw [hends] at hheader
        obtain rfl := IPHeader.v4.inj hheader
        exact setChecksum_verifies rfl rfl rfl
      | v6 s d =>
        rw [hends] at hheader
        cases hheader

/-- Small requests from `fd00::1` to `fd00::2`. -/
def smallRequest : UDPRequest :=
  ⟨.v6 0xfd000000000000000000000000000001 0xfd000000000000000000000000000002, 50000, 7, 0,
    0x12345678, 64, by decide⟩

/-- A request with checksum zero. -/
theorem checksum_zero :
    (smallRequest.datagram [] ⟨14304, 64, 0, 1570000000000000000⟩).udpHeader.checksum = 0 ∧
      ¬ (smallRequest.datagram [] ⟨14304, 64, 0, 1570000000000000000⟩).Valid := by
  have hzero : (smallRequest.datagram []
      ⟨14304, 64, 0, 1570000000000000000⟩).udpHeader.checksum = 0 := by decide +kernel
  exact ⟨hzero, fun hvalid => hvalid.checksum hzero⟩

end HiPerConTracer.Wire
