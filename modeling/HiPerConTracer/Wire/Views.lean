import HiPerConTracer.Wire.Forms
import HiPerConTracer.Wire.IPHeaderFields

/-!
# Headers as arrays and as values

The getters of a header read an array of bytes.  Of the bytes that are written of a value, they return the
fields of this value:

    UDPData.get g (arrayOf 8 h.bytes) = h.field g                          (UDPHeader.get_bytes)

and so for the other headers, where the numbers of an IP header have to fit into their bits.
-/

namespace HiPerConTracer.Wire
open ByteMasks Net

/-- The array that begins with these bytes. -/
def arrayOf (n : Nat) (bytes : List UInt8) : Bytes n := fun i => byte bytes i

section
variable {n : Nat} {d : Bytes n} {a b : Fin n} {v : UInt16}

theorem decodeAt_of_encode (ha : d a = (v >>> 8).toUInt8) (hb : d b = (v &&& 0xff).toUInt8) :
    decodeAt d a b = v := by
  unfold decodeAt
  rw [ha, hb, decode_encode]

theorem wordField_of_encode (ha : d a = (v >>> 8).toUInt8) (hb : d b = (v &&& 0xff).toUInt8) :
    wordField d a b = .number v.toNat := by
  unfold wordField
  rw [decodeAt_of_encode ha hb]

end

/-- A number of several bytes. -/
theorem number_slice_arrayOf {n start count : Nat} {l : List UInt8} (h : start + count ≤ n)
    (hl : start + count ≤ l.length) :
    number (slice (arrayOf n l) start count h) = decodeBytes l start count := by
  have hbytes : List.ofFn (slice (arrayOf n l) start count h) = (l.drop start).take count := by
    refine List.ext_getElem ?_ fun i hi _ => ?_
    · rw [List.length_ofFn, List.length_take, List.length_drop]
      omega
    · rw [List.length_ofFn] at hi
      rw [List.getElem_ofFn, List.getElem_take, List.getElem_drop]
      show l.getD (start + i) 0 = _
      exact List.getD_eq_getElem l 0 (by omega)
  unfold number decodeBytes
  rw [hbytes]

theorem addressV4_arrayOf {n start : Nat} {l : List UInt8} (h : start + 4 ≤ n)
    (hl : start + 4 ≤ l.length) : addressV4 (arrayOf n l) start h =
      .address (.v4 (UInt32.ofNat (decodeBytes l start 4))) := by
  unfold addressV4
  rw [number_slice_arrayOf h hl]

theorem addressV6_arrayOf {n start : Nat} {l : List UInt8} (h : start + 16 ≤ n)
    (hl : start + 16 ≤ l.length) : addressV6 (arrayOf n l) start h =
      .address (.v6 (BitVec.ofNat 128 (decodeBytes l start 16)) 0) := by
  unfold addressV6
  rw [number_slice_arrayOf h hl]

/-! ## UDP and ICMP -/

def UDPHeader.field (h : UDPHeader) : UDPData.Getter → FieldValue
  | .sourcePort => .number h.sourcePort.toNat
  | .destinationPort => .number h.destinationPort.toNat
  | .length => .number h.length.toNat
  | .checksum => .number h.checksum.toNat

theorem UDPHeader.get_bytes (h : UDPHeader) (g : UDPData.Getter) :
    UDPData.get g (arrayOf 8 h.bytes) = h.field g := by
  cases g <;> exact wordField_of_encode rfl rfl

def ICMPHeader.field (h : ICMPHeader) : ICMPData.Getter → FieldValue
  | .type => .number h.type.toNat
  | .code => .number h.code.toNat
  | .checksum => .number h.checksum.toNat
  | .identifier => .number h.identifier.toNat
  | .seqNumber => .number h.seqNumber.toNat

theorem ICMPHeader.get_bytes (h : ICMPHeader) (g : ICMPData.Getter) :
    ICMPData.get g (arrayOf 8 h.bytes) = h.field g := by
  cases g with
  | type => rfl
  | code => rfl
  | _ => exact wordField_of_encode rfl rfl

/-! ## The TraceService header -/

def TraceServiceHeader.field (h : TraceServiceHeader) : TraceServiceData.Getter → FieldValue
  | .magicNumber => .number h.magicNumber.toNat
  | .sendTTL => .number h.sendTTL.toNat
  | .round => .number h.round.toNat
  | .checksumTweak | .seqNumber => .number h.checksumTweak.toNat
  | .sendTimeStamp => .number h.sendTimeStamp.toNat

theorem TraceServiceHeader.get_bytes (h : TraceServiceHeader) (g : TraceServiceData.Getter) :
    TraceServiceData.get g (arrayOf 65536 h.bytes) = h.field g := by
  have hchecksumTweak : TraceServiceData.checksumTweak (arrayOf 65536 h.bytes) = h.checksumTweak :=
    TraceServiceData.checksumTweak_eq rfl (TraceServiceData.wordMask h.checksumTweak)
  cases g with
  | magicNumber =>
    exact congrArg (fun v => FieldValue.number v.toNat)
      (TraceServiceData.magicNumber_eq (d := arrayOf 65536 h.bytes) rfl rfl rfl rfl)
  | sendTTL => rfl
  | round => rfl
  | checksumTweak => exact congrArg (fun v => FieldValue.number v.toNat) hchecksumTweak
  | seqNumber => exact congrArg (fun v => FieldValue.number v.toNat) hchecksumTweak
  | sendTimeStamp =>
    exact congrArg (fun v => FieldValue.number v.toNat)
      (TraceServiceData.sendTimeStamp_eq (d := arrayOf 65536 h.bytes) rfl rfl rfl rfl rfl rfl rfl rfl)

/-! ## IP headers -/

/-- The flags are bits above the fragment offset. -/
def IPv4Header.field (h : IPv4Header) : IPv4Data.Getter → FieldValue
  | .version => .number h.version.toNat
  | .headerLength => .number h.headerLength.toNat
  | .typeOfService => .number h.typeOfService.toNat
  | .totalLength => .number h.totalLength.toNat
  | .identification => .number h.identification.toNat
  | .dontFragment => .flag ((h.fragmentOffset >>> 8).toUInt8 &&& 0x40 != 0)
  | .moreFragments => .flag ((h.fragmentOffset >>> 8).toUInt8 &&& 0x20 != 0)
  | .fragmentOffset => .number (h.fragmentOffset &&& 0x1fff).toNat
  | .timeToLive => .number h.timeToLive.toNat
  | .protocol => .number h.protocol.toNat
  | .headerChecksum => .number h.headerChecksum.toNat
  | .sourceAddress => .address (.v4 h.sourceAddress)
  | .destinationAddress => .address (.v4 h.destinationAddress)

theorem IPv4Header.get_bytes {h : IPv4Header} (hfirst : h.FirstByte) (g : IPv4Data.Getter) :
    IPv4Data.get g (arrayOf 60 h.bytes) = h.field g := by
  have hread := ofBytes_bytes hfirst
  cases g with
  | version => exact congrArg (fun h => FieldValue.number (version h).toNat) hread
  | headerLength =>
    have hlength := congrArg (fun h => (headerLength h).toNat) hread
    show FieldValue.number ((byte h.bytes 0 &&& 0x0f).toUInt16 * 4).toNat = .number h.headerLength.toNat
    rw [← hlength]
    show FieldValue.number _ = .number ((byte h.bytes 0 &&& 0x0f) * 4).toNat
    rw [four_mul_toNat, UInt16.toNat_mul, UInt8.toNat_toUInt16, low_toNat]
    show FieldValue.number ((byte h.bytes 0).toNat % 16 * 4 % 65536) = _
    congr 1
    omega
  | typeOfService => rfl
  | totalLength => exact wordField_of_encode rfl rfl
  | identification => exact wordField_of_encode rfl rfl
  | dontFragment => rfl
  | moreFragments => rfl
  | fragmentOffset =>
    have hoffset : decodeAt (arrayOf 60 h.bytes) 6 7 = h.fragmentOffset := decodeAt_of_encode rfl rfl
    exact congrArg (fun v => FieldValue.number (v &&& 0x1fff).toNat) hoffset
  | timeToLive => rfl
  | protocol => rfl
  | headerChecksum => exact wordField_of_encode rfl rfl
  | sourceAddress =>
    refine (addressV4_arrayOf (by decide) (show 16 ≤ h.bytes.length from ?_)).trans
      (congrArg (fun h => FieldValue.address (.v4 (sourceAddress h))) hread)
    show 16 ≤ 20
    decide
  | destinationAddress =>
    refine (addressV4_arrayOf (by decide) (show 20 ≤ h.bytes.length from ?_)).trans
      (congrArg (fun h => FieldValue.address (.v4 (destinationAddress h))) hread)
    exact Nat.le_refl 20

def IPv6Header.field (h : IPv6Header) : IPv6Data.Getter → FieldValue
  | .version => .number h.version.toNat
  | .trafficClass => .number h.trafficClass.toNat
  | .flowLabel => .number h.flowLabel.toNat
  | .payloadLength => .number h.payloadLength.toNat
  | .nextHeader => .number h.nextHeader.toNat
  | .hopLimit => .number h.hopLimit.toNat
  | .sourceAddress => .address (.v6 h.sourceAddress 0)
  | .destinationAddress => .address (.v6 h.destinationAddress 0)

theorem IPv6Header.get_bytes {h : IPv6Header} (hrange : h.InRange) (g : IPv6Data.Getter) :
    IPv6Data.get g (arrayOf 40 h.bytes) = h.field g := by
  have hread := ofBytes_bytes hrange
  cases g with
  | version => exact congrArg (fun h => FieldValue.number (version h).toNat) hread
  | trafficClass => exact congrArg (fun h => FieldValue.number (trafficClass h).toNat) hread
  | flowLabel =>
    have hflow : h.flowLabel < 0x100000 := hrange.flowLabel_lt
    -- the traffic class has the upper half of the byte
    have hupper : ((h.trafficClass &&& 0x0f) <<< 4) &&& (0xf0 : UInt8) = (h.trafficClass &&& 0x0f) <<< 4 := by
      refine byte_ext fun i hi => ?_
      interval_cases i <;> simp
    have hstored := IPv6Data.flowLabel_stored hflow ((h.trafficClass &&& 0x0f) <<< 4)
    rw [hupper] at hstored
    exact congrArg (fun v => FieldValue.number v.toNat) hstored
  | payloadLength => exact wordField_of_encode rfl rfl
  | nextHeader => rfl
  | hopLimit => rfl
  | sourceAddress =>
    refine (addressV6_arrayOf (by decide) (show 24 ≤ h.bytes.length from ?_)).trans
      (congrArg (fun h => FieldValue.address (.v6 (sourceAddress h) 0)) hread)
    show 24 ≤ 40
    decide
  | destinationAddress =>
    refine (addressV6_arrayOf (by decide) (show 40 ≤ h.bytes.length from ?_)).trans
      (congrArg (fun h => FieldValue.address (.v6 (destinationAddress h) 0)) hread)
    exact Nat.le_refl 40

end HiPerConTracer.Wire
