import HiPerConTracer.Wire.Internet16

/-!
# Steering the ICMP checksum (`icmpheader.h`, `traceserviceheader.h`, `ICMPModule::sendRequest`)

All requests of a round get the same ICMP checksum: the first one sets the target, and the others
have a tweak value in their payload that makes their checksum the target's.

    preparePacket … target = .ok packet, with checksum target            (preparePacket_target)

No assertion about the target can fail, since the type of an Echo Request is not zero: the sum of
its words is positive, so its checksum is not `0xffff`.
-/

namespace HiPerConTracer.Wire

/-! ## Headers -/

structure ICMPHeader where
  type : UInt8
  code : UInt8
  checksum : UInt16
  identifier : UInt16
  seqNumber : UInt16
deriving DecidableEq, Repr

/-- A 16-bit field in network byte order (`encode`). -/
def encode (n : UInt16) : List UInt8 := [(n >>> 8).toUInt8, (n &&& 0xff).toUInt8]

def ICMPHeader.bytes (h : ICMPHeader) : List UInt8 :=
  [h.type, h.code] ++ encode h.checksum ++ encode h.identifier ++ encode h.seqNumber

def minTraceServiceHeaderSize : Nat := 16
def maxTraceServiceHeaderSize : Nat := 65536

structure TraceServiceHeader where
  magicNumber : UInt32
  sendTTL : UInt8
  round : UInt8
  /-- The sequence number instead, for other protocols than ICMP. -/
  checksumTweak : UInt16
  sendTimeStamp : UInt64
  /-- The bytes behind the fields. -/
  padding : List UInt8
  size_le : minTraceServiceHeaderSize + padding.length ≤ maxTraceServiceHeaderSize

/-- A header of the given size: zero up to byte 63, then the bytes of their own number. -/
def TraceServiceHeader.new (size : Nat) (h : size ≤ maxTraceServiceHeaderSize) :
    TraceServiceHeader where
  magicNumber := 0
  sendTTL := 0
  round := 0
  checksumTweak := 0
  sendTimeStamp := 0
  padding := (List.range (size - minTraceServiceHeaderSize)).map fun i =>
    if i + minTraceServiceHeaderSize < 64 then 0 else (i + minTraceServiceHeaderSize).toUInt8
  size_le := by
    rw [List.length_map, List.length_range]
    unfold minTraceServiceHeaderSize maxTraceServiceHeaderSize at *
    omega

def TraceServiceHeader.bytes (h : TraceServiceHeader) : List UInt8 :=
  [(h.magicNumber >>> 24).toUInt8, (h.magicNumber >>> 16).toUInt8,
    (h.magicNumber >>> 8).toUInt8, h.magicNumber.toUInt8, h.sendTTL, h.round] ++
  encode h.checksumTweak ++
  [(h.sendTimeStamp >>> 56).toUInt8, (h.sendTimeStamp >>> 48).toUInt8,
    (h.sendTimeStamp >>> 40).toUInt8, (h.sendTimeStamp >>> 32).toUInt8,
    (h.sendTimeStamp >>> 24).toUInt8, (h.sendTimeStamp >>> 16).toUInt8,
    (h.sendTimeStamp >>> 8).toUInt8, h.sendTimeStamp.toUInt8] ++
  h.padding

/-! ## One packet -/

/-- The assertions on the target checksum. -/
inductive ChecksumAssure where
  /-- `targetChecksumArray[round] != 0xffff` -/
  | targetNotFFFF
  /-- `echoRequest.checksum() == targetChecksumArray[round]` -/
  | checksumIsTarget
  /-- `(targetChecksumArray[round] & ~0xffff) == 0` -/
  | targetFits
deriving DecidableEq, Repr

structure Packet where
  echoRequest : ICMPHeader
  tsHeader : TraceServiceHeader

/-- The sum over both headers. -/
def Packet.sum (p : Packet) : UInt32 :=
  computeInternet16 (computeInternet16 0 p.echoRequest.bytes) p.tsHeader.bytes

/-- The Internet checksum of the packet, with checksum field zero. -/
def Packet.internetChecksum (p : Packet) : UInt16 :=
  finishInternet16 (Packet.sum { p with echoRequest := { p.echoRequest with checksum := 0 } })

/-- The checksum field is reset, computed and set. -/
def Packet.setChecksum (p : Packet) : Packet :=
  { p with echoRequest := { p.echoRequest with checksum := p.internetChecksum } }

/-- `tsHeader.checksumTweak(value)`. -/
def Packet.withTweak (p : Packet) (value : UInt16) : Packet :=
  { p with tsHeader := { p.tsHeader with checksumTweak := value } }

/-- The tweak value that takes the original checksum to the target. -/
def tweak (target : UInt32) (originalChecksum : UInt16) : UInt16 :=
  let diff := (0xffff - (target - originalChecksum.toUInt32)).toUInt16
  if originalChecksum.toUInt32 > target then diff + 1 else diff

/-- One turn of the sender loop up to `send_to`: the packet, and the target of the round. -/
def preparePacket (p : Packet) (seqNumber : UInt16) (ttl round : UInt8) (sendTime : UInt64)
    (target : UInt32) : Except ChecksumAssure (Packet × UInt32) :=
  let p := Packet.setChecksum
    { echoRequest := { p.echoRequest with seqNumber := seqNumber }
      tsHeader := { p.tsHeader with sendTTL := ttl, round := round, checksumTweak := 0,
                                    sendTimeStamp := sendTime } }
  if target = 0xffffffff then
    let target := p.echoRequest.checksum.toUInt32
    if target &&& ~~~0xffff = 0 then .ok (p, target) else .error .targetFits
  else if target = 0xffff then .error .targetNotFFFF
  else
    let p := (p.withTweak (tweak target p.echoRequest.checksum)).setChecksum
    if p.echoRequest.checksum.toUInt32 ≠ target then .error .checksumIsTarget
    else if target &&& ~~~0xffff = 0 then .ok (p, target)
    else .error .targetFits

/-- The target that `Ping::sendRequests` chooses. -/
def pingTargetChecksum (identifier seqNumber : UInt16) : UInt32 :=
  if (identifier ^^^ seqNumber).toUInt32 = 0xffff then 0x0000
  else (identifier ^^^ seqNumber).toUInt32

/-! ## The sum of a packet -/

theorem toUInt8_high (n : UInt16) : ((n >>> 8).toUInt8).toNat = n.toNat / 256 := by
  have hn := n.toNat_lt
  rw [UInt16.toNat_toUInt8, UInt16.toNat_shiftRight, Nat.shiftRight_eq_div_pow]
  simp only [UInt16.reduceToNat, Nat.reduceMod, Nat.reducePow]
  omega

theorem toUInt8_low (n : UInt16) : ((n &&& 0xff).toUInt8).toNat = n.toNat % 256 := by
  have hand : n.toNat &&& 255 = n.toNat % 256 := Nat.and_two_pow_sub_one_eq_mod _ 8
  rw [UInt16.toNat_toUInt8, UInt16.toNat_and]
  simp only [UInt16.reduceToNat]
  rw [hand]
  omega

/-- A field in network byte order is a swapped word. -/
theorem wordSum_encode (n : UInt16) (rest : List UInt8) :
    wordSum (encode n ++ rest) = OnesComplement.swap 256 n.toNat + wordSum rest := by
  unfold encode OnesComplement.swap
  simp only [List.cons_append, List.nil_append, wordSum]
  rw [toUInt8_high, toUInt8_low]
  omega

/-- The sum of the words of both headers. -/
def Packet.words (p : Packet) : Nat := wordSum p.echoRequest.bytes + wordSum p.tsHeader.bytes

theorem ICMPHeader.words_eq (h : ICMPHeader) :
    wordSum h.bytes = h.type.toNat + 256 * h.code.toNat +
      OnesComplement.swap 256 h.checksum.toNat + OnesComplement.swap 256 h.identifier.toNat +
      OnesComplement.swap 256 h.seqNumber.toNat := by
  have hseq := wordSum_encode h.seqNumber []
  rw [List.append_nil] at hseq
  unfold ICMPHeader.bytes
  simp only [List.append_assoc, List.cons_append, List.nil_append, wordSum]
  rw [wordSum_encode, wordSum_encode, hseq]
  simp only [wordSum]
  omega

/-- The tweak value is a swapped word of its own. -/
theorem TraceServiceHeader.words_tweak (h : TraceServiceHeader) (d : UInt16) :
    wordSum ({ h with checksumTweak := d } : TraceServiceHeader).bytes =
      wordSum ({ h with checksumTweak := 0 } : TraceServiceHeader).bytes +
        OnesComplement.swap 256 d.toNat := by
  unfold TraceServiceHeader.bytes
  simp only [List.append_assoc, List.cons_append, List.nil_append, wordSum]
  rw [wordSum_encode, wordSum_encode]
  have hzero : OnesComplement.swap 256 (0 : UInt16).toNat = 0 := rfl
  rw [hzero]
  omega

theorem TraceServiceHeader.bytes_length (h : TraceServiceHeader) :
    h.bytes.length = minTraceServiceHeaderSize + h.padding.length := by
  unfold TraceServiceHeader.bytes minTraceServiceHeaderSize encode
  simp only [List.length_append, List.length_cons, List.length_nil]

/-- The sum has no carry out of its 32 bits. -/
theorem Packet.words_lt (p : Packet) : p.words < 256 * 256 * (256 * 256) := by
  have h1 := wordSum_le p.echoRequest.bytes
  have h2 := wordSum_le p.tsHeader.bytes
  have hlen : p.echoRequest.bytes.length = 8 := rfl
  have hsize := p.tsHeader.size_le
  rw [← p.tsHeader.bytes_length] at hsize
  unfold maxTraceServiceHeaderSize at hsize
  unfold Packet.words
  omega

theorem Packet.sum_toNat (p : Packet) : p.sum.toNat = p.words := by
  have h := p.words_lt
  unfold Packet.sum
  rw [computeInternet16_toNat, computeInternet16_toNat]
  unfold Packet.words at h ⊢
  simp only [UInt32.reduceToNat]
  omega

/-! ## The checksum -/

theorem internetChecksum_toNat (p : Packet) :
    p.internetChecksum.toNat = OnesComplement.complement 256
      (Packet.words { p with echoRequest := { p.echoRequest with checksum := 0 } }) := by
  unfold Packet.internetChecksum
  rw [finishInternet16_toNat, Packet.sum_toNat]

theorem words_pos {p : Packet} (h : p.echoRequest.type ≠ 0) : 0 < p.words := by
  have htype : p.echoRequest.type.toNat ≠ 0 := fun h0 => h (UInt8.toNat_inj.mp h0)
  unfold Packet.words
  rw [ICMPHeader.words_eq]
  omega

/-- The checksum of a request is never the negative zero. -/
theorem internetChecksum_lt {p : Packet} (h : p.echoRequest.type ≠ 0) :
    p.internetChecksum.toNat < 0xffff := by
  rw [internetChecksum_toNat]
  exact OnesComplement.complement_lt (by omega) (Packet.words_lt _) (words_pos h)

/-- The value of `tweak` is the difference of original and target checksum, up to a carry. -/
theorem tweak_cast {target : UInt32} {original : UInt16} (ht : target.toNat < 0xffff) :
    ((tweak target original).toNat : ZMod (256 * 256 - 1)) =
      (original.toNat : ZMod (256 * 256 - 1)) - target.toNat := by
  have ho := original.toNat_lt
  have hsub : (target - original.toUInt32).toNat =
      (4294967296 - original.toNat + target.toNat) % 4294967296 := by
    rw [UInt32.toNat_sub, UInt16.toNat_toUInt32]
  have hdiff : (0xffff - (target - original.toUInt32)).toUInt16.toNat =
      (65535 + original.toNat - target.toNat) % 65536 := by
    rw [UInt32.toNat_toUInt16, UInt32.toNat_sub, hsub]
    simp only [UInt32.reduceToNat]
    omega
  have hgt : original.toUInt32 > target ↔ target.toNat < original.toNat := by
    rw [gt_iff_lt, UInt32.lt_iff_toNat_lt, UInt16.toNat_toUInt32]
  have hadd : (tweak target original).toNat + target.toNat = original.toNat ∨
      (tweak target original).toNat + target.toNat = original.toNat + 65535 := by
    unfold tweak
    simp only [hgt]
    split
    · rw [UInt16.toNat_add, hdiff]
      simp only [UInt16.reduceToNat]
      omega
    · rw [hdiff]
      omega
  have hzero : ((65535 : Nat) : ZMod (256 * 256 - 1)) = 0 := ZMod.natCast_self _
  rcases hadd with h | h
  · rw [← h]
    push_cast
    ring
  · have hc := congrArg (Nat.cast : Nat → ZMod (256 * 256 - 1)) h
    rw [Nat.cast_add, Nat.cast_add, hzero, add_zero] at hc
    rw [← hc]
    ring

/-- With the tweak value the checksum is the target. -/
theorem internetChecksum_tweak {p : Packet} {target : UInt32} (h : p.echoRequest.type ≠ 0)
    (h0 : p.tsHeader.checksumTweak = 0) (ht : target.toNat < 0xffff) :
    (p.withTweak (tweak target p.internetChecksum)).internetChecksum.toNat = target.toNat := by
  unfold Packet.withTweak
  have hts : p.tsHeader = { p.tsHeader with checksumTweak := 0 } := by rw [← h0]
  have hwords : Packet.words
      { echoRequest := { p.echoRequest with checksum := 0 }
        tsHeader := { p.tsHeader with checksumTweak := tweak target p.internetChecksum } } =
      Packet.words { p with echoRequest := { p.echoRequest with checksum := 0 } } +
        OnesComplement.swap 256 (tweak target p.internetChecksum).toNat := by
    unfold Packet.words
    simp only
    rw [TraceServiceHeader.words_tweak, ← hts]
    omega
  rw [internetChecksum_toNat]
  simp only
  have hlt := Packet.words_lt
    { echoRequest := { p.echoRequest with checksum := 0 }
      tsHeader := { p.tsHeader with checksumTweak := tweak target p.internetChecksum } }
  rw [hwords] at hlt ⊢
  refine OnesComplement.complement_eq_target (by omega) (Packet.words_lt _) hlt (words_pos h) ht ?_
  rw [tweak_cast ht, internetChecksum_toNat]

/-! ## Preparing a packet -/

/-- A value of 16 bits has no bit of the upper half. -/
theorem and_not_ffff {t : UInt32} (h : t.toNat < 65536) : t &&& ~~~0xffff = 0 := by
  apply UInt32.toNat_inj.mp
  rw [UInt32.toNat_and]
  apply Nat.eq_of_testBit_eq
  intro i
  have hmask : (~~~0xffff : UInt32).toNat = 65535 <<< 16 := rfl
  rw [hmask, Nat.testBit_and, Nat.testBit_shiftLeft]
  by_cases hi : 16 ≤ i
  · have hpow : 2 ^ 16 ≤ 2 ^ i := Nat.pow_le_pow_right (by decide) hi
    have hbit : t.toNat.testBit i = false :=
      Nat.testBit_lt_two_pow (Nat.lt_of_lt_of_le h hpow)
    rw [hbit]
    simp
  · simp [hi]

/-- What a prepared packet is: its checksum field is right, and fits. -/
structure Packet.Prepared (p : Packet) (seqNumber : UInt16) (target : UInt32) : Prop where
  seqNumber_eq : p.echoRequest.seqNumber = seqNumber
  checksum_eq : p.echoRequest.checksum = p.internetChecksum
  target_eq : p.internetChecksum.toUInt32 = target
  target_lt : target.toNat < 0xffff

/-- **Checksum steering.**  With no target, or a target below `0xffff`, no assertion fails, and the
Internet checksum of the packet is the target of the round, which stays what it was if it was
set. -/
theorem preparePacket_target {p : Packet} (h : p.echoRequest.type ≠ 0) (seqNumber : UInt16)
    (ttl round : UInt8) (sendTime : UInt64) {target : UInt32}
    (ht : target = 0xffffffff ∨ target.toNat < 0xffff) :
    ∃ p' target', preparePacket p seqNumber ttl round sendTime target = .ok (p', target') ∧
      p'.Prepared seqNumber target' ∧ (target ≠ 0xffffffff → target' = target) := by
  unfold preparePacket
  simp only
  generalize hq : ({ echoRequest := { p.echoRequest with seqNumber := seqNumber }
                     tsHeader := { p.tsHeader with sendTTL := ttl, round := round,
                                                   checksumTweak := 0,
                                                   sendTimeStamp := sendTime } } : Packet) = q
  have htype : q.echoRequest.type ≠ 0 := by rw [← hq]; exact h
  have htweak : q.tsHeader.checksumTweak = 0 := by rw [← hq]
  have hseq : q.echoRequest.seqNumber = seqNumber := by rw [← hq]
  by_cases hnone : target = 0xffffffff
  · have hlt := internetChecksum_lt htype
    have hfits : q.internetChecksum.toUInt32 &&& ~~~0xffff = 0 :=
      and_not_ffff (by rw [UInt16.toNat_toUInt32]; omega)
    refine ⟨q.setChecksum, q.internetChecksum.toUInt32, ?_, ⟨hseq, rfl, rfl, ?_⟩,
      fun hne => absurd hnone hne⟩
    · rw [if_pos hnone]
      exact if_pos hfits
    · rw [UInt16.toNat_toUInt32]
      exact hlt
  · have hlt := ht.resolve_left hnone
    have hne : target ≠ 0xffff := by
      rintro rfl
      exact absurd hlt (by decide)
    -- the original checksum is that of `q`, whose tweak value is zero
    have hsum := internetChecksum_tweak htype htweak hlt
    have heq : (q.withTweak (tweak target q.internetChecksum)).internetChecksum.toUInt32 =
        target := by
      apply UInt32.toNat_inj.mp
      rw [UInt16.toNat_toUInt32]
      exact hsum
    refine ⟨(q.setChecksum.withTweak (tweak target q.internetChecksum)).setChecksum, target, ?_,
      ⟨hseq, rfl, heq, hlt⟩, fun _ => rfl⟩
    rw [if_neg hnone, if_neg hne]
    have hcheck : ¬ (q.setChecksum.withTweak (tweak target
        q.setChecksum.echoRequest.checksum)).setChecksum.echoRequest.checksum.toUInt32 ≠ target :=
      not_not_intro heq
    rw [if_neg hcheck]
    exact if_pos (and_not_ffff (by omega))

/-- The target of Ping is one that the assertion admits. -/
theorem pingTargetChecksum_lt (identifier seqNumber : UInt16) :
    (pingTargetChecksum identifier seqNumber).toNat < 0xffff := by
  unfold pingTargetChecksum
  have hlt := (identifier ^^^ seqNumber).toNat_lt
  split
  · decide
  · next hne =>
    have hne' : (identifier ^^^ seqNumber).toNat ≠ 0xffff := by
      intro h
      refine hne (UInt32.toNat_inj.mp ?_)
      rw [UInt16.toNat_toUInt32, h]
      rfl
    rw [UInt16.toNat_toUInt32]
    omega

end HiPerConTracer.Wire
