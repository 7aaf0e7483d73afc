import HiPerConTracer.Lib.BigEndian
import HiPerConTracer.Lib.Reads
import HiPerConTracer.Wire.HeaderFields
import HiPerConTracer.Wire.Streams

/-!
# The forms of headers (`operator>>` and `operator<<` of the header classes)

Each header is read exactly from its bytes, as `operator<<` writes them: an IPv4 header with any flags and
options, which are not kept, a UDP header with a length that its payload can have, and a TraceService
header without its padding.
-/

namespace HiPerConTracer.Wire
open Reads

/-! ## Fields -/

theorem read_accepts (n : Nat) : Accepts (read n) fun data l => data = l ∧ l.length = n := by
  intro s data s'
  unfold read
  constructor
  · intro h
    split at h
    · next hn =>
      cases h
      exact ⟨s.take n, ⟨rfl, List.length_take_of_le hn⟩, (List.take_append_drop n s).symm⟩
    · cases h
  · rintro ⟨l, ⟨rfl, rfl⟩, rfl⟩
    rw [if_pos (by rw [List.length_append]; exact Nat.le_add_right ..), List.take_left, List.drop_left]

theorem encode_decode (a b : UInt8) : encode ((a.toUInt16 <<< 8) + b.toUInt16) = [a, b] := by
  have ha := a.toNat_lt
  have hb := b.toNat_lt
  have hnat : ((a.toUInt16 <<< 8) + b.toUInt16).toNat = 256 * a.toNat + b.toNat := by
    rw [UInt16.toNat_add, UInt16.toNat_shiftLeft, UInt8.toNat_toUInt16, UInt8.toNat_toUInt16]
    show (a.toNat <<< 8 % 2 ^ 16 + b.toNat) % 2 ^ 16 = _
    rw [Nat.shiftLeft_eq]
    omega
  have hhigh : ((((a.toUInt16 <<< 8) + b.toUInt16) >>> 8).toUInt8) = a := by
    rw [← UInt8.toNat_inj, toUInt8_high, hnat]
    omega
  have hlow : ((((a.toUInt16 <<< 8) + b.toUInt16) &&& 0xff).toUInt8) = b := by
    rw [← UInt8.toNat_inj, toUInt8_low, hnat]
    omega
  unfold encode
  rw [hhigh, hlow]

theorem v4Bytes_eq (a : UInt32) : v4Bytes a = BigEndian.bytes 4 a.toNat := by
  have hbyte : ∀ k : UInt32, k.toNat < 32 → (a >>> k).toUInt8 = UInt8.ofNat (a.toNat / 2 ^ k.toNat) := by
    intro k hk
    rw [← UInt8.toNat_inj, UInt32.toNat_toUInt8, UInt32.toNat_shiftRight, Nat.mod_eq_of_lt hk,
      Nat.shiftRight_eq_div_pow]
    rfl
  have hlast : a.toUInt8 = UInt8.ofNat a.toNat := rfl
  unfold v4Bytes
  rw [hbyte 24 (by decide), hbyte 16 (by decide), hbyte 8 (by decide), hlast, BigEndian.bytes_eq_map]
  simp [List.range, List.range.loop]

/-- The eight bytes of a time stamp. -/
theorem timeStampBytes_eq (n : UInt64) :
    [(n >>> 56).toUInt8, (n >>> 48).toUInt8, (n >>> 40).toUInt8, (n >>> 32).toUInt8,
      (n >>> 24).toUInt8, (n >>> 16).toUInt8, (n >>> 8).toUInt8, n.toUInt8] =
        BigEndian.bytes 8 n.toNat := by
  have hbyte : ∀ k : UInt64, k.toNat < 64 → (n >>> k).toUInt8 = UInt8.ofNat (n.toNat / 2 ^ k.toNat) := by
    intro k hk
    rw [← UInt8.toNat_inj, UInt64.toNat_toUInt8, UInt64.toNat_shiftRight, Nat.mod_eq_of_lt hk,
      Nat.shiftRight_eq_div_pow]
    rfl
  have hlast : n.toUInt8 = UInt8.ofNat n.toNat := rfl
  rw [hbyte 56 (by decide), hbyte 48 (by decide), hbyte 40 (by decide), hbyte 32 (by decide),
    hbyte 24 (by decide), hbyte 16 (by decide), hbyte 8 (by decide), hlast, BigEndian.bytes_eq_map]
  simp [List.range, List.range.loop]

theorem encode_ofNat (n : Nat) : encode (UInt16.ofNat n) = [UInt8.ofNat (n / 256), UInt8.ofNat n] := by
  have hhigh : ((UInt16.ofNat n) >>> 8).toUInt8 = UInt8.ofNat (n / 256) := by
    rw [← UInt8.toNat_inj, toUInt8_high]
    show n % 2 ^ 16 / 256 = n / 256 % 2 ^ 8
    omega
  have hlow : ((UInt16.ofNat n) &&& 0xff).toUInt8 = UInt8.ofNat n := by
    rw [← UInt8.toNat_inj, toUInt8_low]
    show n % 2 ^ 16 % 256 = n % 2 ^ 8
    omega
  unfold encode
  rw [hhigh, hlow]

theorem words_bytes (k v : Nat) :
    ((List.range k).map fun i => UInt16.ofNat (v / 65536 ^ (k - 1 - i))).flatMap encode =
      BigEndian.bytes (2 * k) v := by
  induction k generalizing v with
  | zero => rfl
  | succ k ih =>
    have hinit : (List.range k).map (fun i => UInt16.ofNat (v / 65536 ^ (k + 1 - 1 - i))) =
        (List.range k).map fun i => UInt16.ofNat (v / 256 / 256 / 65536 ^ (k - 1 - i)) := by
      refine List.map_congr_left fun i hi => ?_
      have hexponent : k + 1 - 1 - i = k - 1 - i + 1 := by
        have := List.mem_range.mp hi
        omega
      have hword : v / 65536 = v / 256 / 256 := (Nat.div_div_eq_div_mul v 256 256).symm
      rw [hexponent, Nat.pow_succ', ← Nat.div_div_eq_div_mul, hword]
    have hlast : k + 1 - 1 - k = 0 := by omega
    rw [List.range_succ, List.map_append, List.flatMap_append, hinit, ih, Nat.mul_succ, BigEndian.bytes,
      BigEndian.bytes, List.map_singleton, List.flatMap_singleton, hlast, Nat.pow_zero, Nat.div_one,
      encode_ofNat, List.append_assoc]
    rfl

theorem v6Bytes_eq (a : BitVec 128) : v6Bytes a = BigEndian.bytes 16 a.toNat := words_bytes 8 a.toNat

/-- A number is read from its bytes within the header. -/
theorem decodeBytes_mid {i n : Nat} {before bytes rest : List UInt8} (hi : before.length = i)
    (hn : bytes.length = n) : decodeBytes (before ++ (bytes ++ rest)) i n = BigEndian.value bytes := by
  unfold decodeBytes BigEndian.value
  rw [List.drop_left' hi, List.take_left' hn]

theorem value_v4Bytes (a : UInt32) : BigEndian.value (v4Bytes a) = a.toNat := by
  rw [v4Bytes_eq, BigEndian.value_bytes]
  exact Nat.mod_eq_of_lt a.toNat_lt

theorem value_v6Bytes (a : BitVec 128) : BigEndian.value (v6Bytes a) = a.toNat := by
  rw [v6Bytes_eq, BigEndian.value_bytes]
  exact Nat.mod_eq_of_lt a.isLt

theorem v4Bytes_value {l : List UInt8} (h : l.length = 4) :
    v4Bytes (UInt32.ofNat (BigEndian.value l)) = l := by
  have hlt := BigEndian.value_lt l
  rw [h] at hlt
  have hnat : (UInt32.ofNat (BigEndian.value l)).toNat = BigEndian.value l := Nat.mod_eq_of_lt hlt
  rw [v4Bytes_eq, hnat, ← h, BigEndian.bytes_value]

theorem v6Bytes_value {l : List UInt8} (h : l.length = 16) :
    v6Bytes (BitVec.ofNat 128 (BigEndian.value l)) = l := by
  have hlt := BigEndian.value_lt l
  rw [h] at hlt
  have hnat : (BitVec.ofNat 128 (BigEndian.value l)).toNat = BigEndian.value l := Nat.mod_eq_of_lt hlt
  rw [v6Bytes_eq, hnat, ← h, BigEndian.bytes_value]

/-! ## Headers -/

/-- A header is read from as many bytes as it is written with. -/
theorem header_accepts {α : Type} {n : Nat} {f : List UInt8 → α} (bytes : α → List UInt8)
    (Valid : α → Prop) (hlength : ∀ h, Valid h → (bytes h).length = n)
    (hread : ∀ h, Valid h → f (bytes h) = h) (hwrite : ∀ l, l.length = n → Valid (f l) ∧ bytes (f l) = l) :
    Accepts (do let data ← read n; return f data) fun h l => Valid h ∧ l = bytes h := by
  refine ((read_accepts n).bind fun data => Accepts.pure (f data)).congr fun h l => ?_
  constructor
  · rintro ⟨data, l₁, l₂, ⟨rfl, hn⟩, ⟨rfl, rfl⟩, rfl⟩
    rw [List.append_nil]
    exact ⟨(hwrite data hn).1, (hwrite data hn).2.symm⟩
  · rintro ⟨hvalid, rfl⟩
    exact ⟨bytes h, bytes h, [], ⟨rfl, hlength h hvalid⟩, ⟨(hread h hvalid).symm, rfl⟩,
      (List.append_nil _).symm⟩

theorem eq_of_length_eight {l : List UInt8} (h : l.length = 8) :
    ∃ b0 b1 b2 b3 b4 b5 b6 b7, l = [b0, b1, b2, b3, b4, b5, b6, b7] := by
  match l, h with
  | [b0, b1, b2, b3, b4, b5, b6, b7], _ => exact ⟨b0, b1, b2, b3, b4, b5, b6, b7, rfl⟩

theorem ICMPHeader.read_accepts : Accepts ICMPHeader.read fun h l => l = h.bytes := by
  refine Accepts.congr (header_accepts bytes (fun _ => True) (fun _ _ => rfl) (fun h _ => ?_)
    fun l hl => ?_) fun h l => and_iff_right trivial
  · obtain ⟨type, code, checksum, identifier, seqNumber⟩ := h
    show ICMPHeader.mk type code _ _ _ = _
    congr 1
    · exact decode_encode checksum
    · exact decode_encode identifier
    · exact decode_encode seqNumber
  · obtain ⟨b0, b1, b2, b3, b4, b5, b6, b7, rfl⟩ := eq_of_length_eight hl
    refine ⟨trivial, ?_⟩
    show [b0, b1] ++ encode ((b2.toUInt16 <<< 8) + b3.toUInt16) ++
      encode ((b4.toUInt16 <<< 8) + b5.toUInt16) ++ encode ((b6.toUInt16 <<< 8) + b7.toUInt16) = _
    rw [encode_decode, encode_decode, encode_decode]
    rfl

theorem TraceServiceHeader.bytes_eq (h : TraceServiceHeader) :
    h.bytes = v4Bytes h.magicNumber ++ ([h.sendTTL, h.round] ++ encode h.checksumTweak ++
      (BigEndian.bytes 8 h.sendTimeStamp.toNat ++ h.padding)) := by
  rw [← timeStampBytes_eq]
  rfl

theorem bytes_timeStamp {l : List UInt8} (h : l.length = 8) :
    BigEndian.bytes 8 (UInt64.ofNat (BigEndian.value l)).toNat = l := by
  have hlt := BigEndian.value_lt l
  rw [h] at hlt
  have hnat : (UInt64.ofNat (BigEndian.value l)).toNat = BigEndian.value l := Nat.mod_eq_of_lt hlt
  rw [hnat, ← h, BigEndian.bytes_value]

theorem value_timeStampBytes (n : UInt64) : BigEndian.value (BigEndian.bytes 8 n.toNat) = n.toNat := by
  rw [BigEndian.value_bytes]
  exact Nat.mod_eq_of_lt n.toNat_lt

theorem TraceServiceHeader.decode_magicNumber (h : TraceServiceHeader) :
    UInt32.ofNat (decodeBytes h.bytes 0 4) = h.magicNumber := by
  rw [bytes_eq, ← List.nil_append (v4Bytes h.magicNumber ++ _), decodeBytes_mid (i := 0) (n := 4) rfl rfl,
    value_v4Bytes, UInt32.ofNat_toNat]

theorem TraceServiceHeader.decode_sendTimeStamp (h : TraceServiceHeader) :
    UInt64.ofNat (decodeBytes h.bytes 8 8) = h.sendTimeStamp := by
  rw [bytes_eq, ← List.append_assoc, decodeBytes_mid (i := 8) rfl (BigEndian.length_bytes 8 _),
    value_timeStampBytes, UInt64.ofNat_toNat]

theorem eq_of_length_sixteen {l : List UInt8} (h : l.length = 16) :
    ∃ b0 b1 b2 b3 b4 b5 b6 b7 rest, l = b0 :: b1 :: b2 :: b3 :: b4 :: b5 :: b6 :: b7 :: rest ∧
      rest.length = 8 := by
  obtain ⟨b0, b1, b2, b3, b4, b5, b6, b7, hfront⟩ :=
    eq_of_length_eight (l := l.take 8) (by rw [List.length_take, h]; rfl)
  refine ⟨b0, b1, b2, b3, b4, b5, b6, b7, l.drop 8, ?_, by rw [List.length_drop, h]⟩
  rw [← List.take_append_drop 8 l, hfront]
  rfl

theorem TraceServiceHeader.read_accepts :
    Accepts TraceServiceHeader.read fun h l => h.padding = [] ∧ l = h.bytes := by
  refine header_accepts bytes (fun h => h.padding = []) (fun h hpadding => ?_) (fun h hpadding => ?_)
    fun l hl => ⟨rfl, ?_⟩
  · unfold bytes
    rw [hpadding]
    rfl
  · have hmagic := h.decode_magicNumber
    have htime := h.decode_sendTimeStamp
    obtain ⟨magicNumber, sendTTL, round, checksumTweak, sendTimeStamp, padding, size_le⟩ := h
    obtain rfl : padding = [] := hpadding
    show TraceServiceHeader.mk _ sendTTL round _ _ [] _ = _
    congr 1
    exact decode_encode checksumTweak
  · obtain ⟨b0, b1, b2, b3, b4, b5, b6, b7, rest, rfl, hrest⟩ := eq_of_length_sixteen hl
    rw [bytes_eq]
    show v4Bytes (UInt32.ofNat (BigEndian.value [b0, b1, b2, b3])) ++
      ([b4, b5] ++ encode ((b6.toUInt16 <<< 8) + b7.toUInt16) ++
        (BigEndian.bytes 8 (UInt64.ofNat (BigEndian.value (rest.take 8))).toNat ++ [])) = _
    rw [v4Bytes_value rfl, encode_decode, List.take_of_length_le (Nat.le_of_eq hrest),
      bytes_timeStamp hrest, List.append_nil]
    rfl

/-! ## Headers with conditions -/

/-- The fields of a UDP header. -/
def UDPHeader.ofBytes (data : List UInt8) : UDPHeader :=
  ⟨decode data 0 1, decode data 2 3, decode data 4 5, decode data 6 7⟩

theorem UDPHeader.read_eq : UDPHeader.read =
    (do let data ← Wire.read 8; return ofBytes data) >>= fun h =>
      if 16 ≤ h.length then Pure.pure h else failure := by
  unfold UDPHeader.read
  rw [bind_assoc]
  refine bind_congr fun data => ?_
  rw [pure_bind]
  by_cases hlength : (ofBytes data).length < 16
  · rw [if_neg (UInt16.not_le.mpr hlength)]
    exact if_pos hlength
  · rw [if_pos (UInt16.not_lt.mp hlength)]
    exact if_neg hlength

theorem UDPHeader.read_accepts :
    Accepts UDPHeader.read fun h l => 16 ≤ h.length ∧ l = h.bytes := by
  rw [UDPHeader.read_eq]
  refine Accepts.checked (Accepts.congr (header_accepts bytes (fun _ => True) (fun _ _ => rfl)
    (fun h _ => ?_) fun l hl => ?_) fun h l => and_iff_right trivial)
  · obtain ⟨sourcePort, destinationPort, length, checksum⟩ := h
    show UDPHeader.mk _ _ _ _ = _
    congr 1
    · exact decode_encode sourcePort
    · exact decode_encode destinationPort
    · exact decode_encode length
    · exact decode_encode checksum
  · obtain ⟨b0, b1, b2, b3, b4, b5, b6, b7, rfl⟩ := eq_of_length_eight hl
    refine ⟨trivial, ?_⟩
    show encode ((b0.toUInt16 <<< 8) + b1.toUInt16) ++ encode ((b2.toUInt16 <<< 8) + b3.toUInt16) ++
      encode ((b4.toUInt16 <<< 8) + b5.toUInt16) ++ encode ((b6.toUInt16 <<< 8) + b7.toUInt16) = _
    rw [encode_decode, encode_decode, encode_decode, encode_decode]
    rfl

/-! ## Half bytes -/

theorem or_toNat {a b : UInt8} (ha : a.toNat < 16) (hb : b.toNat < 16) :
    ((a <<< 4) ||| b).toNat = 16 * a.toNat + b.toNat := by
  have hshift : (a <<< 4).toNat = a.toNat <<< 4 := by
    rw [UInt8.toNat_shiftLeft]
    show a.toNat <<< 4 % 256 = _
    rw [Nat.shiftLeft_eq]
    omega
  rw [UInt8.toNat_or, hshift, ← Nat.shiftLeft_add_eq_or_of_lt (i := 4) hb, Nat.shiftLeft_eq]
  omega

theorem low_toNat (b : UInt8) : (b &&& 0x0f).toNat = b.toNat % 16 := by
  rw [UInt8.toNat_and]
  exact Nat.and_two_pow_sub_one_eq_mod b.toNat 4

theorem shift_toNat (b : UInt8) : (b >>> 4).toNat = b.toNat / 16 := by
  rw [UInt8.toNat_shiftRight]
  show b.toNat >>> 4 = _
  rw [Nat.shiftRight_eq_div_pow]

theorem high_toNat (b : UInt8) : ((b >>> 4) &&& 0x0f).toNat = b.toNat / 16 := by
  have hb := b.toNat_lt
  rw [low_toNat, shift_toNat]
  omega

/-! ## IP headers -/

/-- A header with flags and options as it is sent. -/
structure IPv4Header.OnWire (h : IPv4Header) (options : List UInt8) : Prop where
  version : h.version = 4
  headerLength : h.headerLength.toNat = 20 + options.length
  options_mod : options.length % 4 = 0
  options_le : options.length ≤ 40

/-- The flags are not read. -/
def IPv4Header.withoutFlags (h : IPv4Header) : IPv4Header :=
  { h with fragmentOffset := h.fragmentOffset &&& 0x1fff }

/-- The fields, and the flags within the fragment offset. -/
def IPv4Header.ofBytes (data : List UInt8) : IPv4Header where
  version := (byte data 0 >>> 4) &&& 0x0f
  headerLength := (byte data 0 &&& 0x0f) * 4
  typeOfService := byte data 1
  totalLength := decode data 2 3
  identification := decode data 4 5
  fragmentOffset := decode data 6 7
  timeToLive := byte data 8
  protocol := byte data 9
  headerChecksum := decode data 10 11
  sourceAddress := UInt32.ofNat (decodeBytes data 12 4)
  destinationAddress := UInt32.ofNat (decodeBytes data 16 4)

/-- Version and header length of the first byte. -/
structure IPv4Header.FirstByte (h : IPv4Header) : Prop where
  version_lt : h.version.toNat < 16
  headerLength_le : h.headerLength.toNat ≤ 60
  headerLength_mod : h.headerLength.toNat % 4 = 0

theorem IPv4Header.words_toNat {h : IPv4Header} (hfirst : h.FirstByte) :
    ((h.headerLength >>> 2) &&& 0x0f).toNat = h.headerLength.toNat / 4 := by
  have hshift : (h.headerLength >>> 2).toNat = h.headerLength.toNat / 4 := by
    rw [UInt8.toNat_shiftRight]
    show h.headerLength.toNat >>> 2 = _
    rw [Nat.shiftRight_eq_div_pow]
  have hle := hfirst.headerLength_le
  rw [low_toNat, hshift]
  omega

theorem IPv4Header.firstByte_toNat {h : IPv4Header} (hfirst : h.FirstByte) :
    ((h.version <<< 4) ||| ((h.headerLength >>> 2) &&& 0x0f)).toNat =
      16 * h.version.toNat + h.headerLength.toNat / 4 := by
  have hle := hfirst.headerLength_le
  rw [or_toNat hfirst.version_lt (by rw [words_toNat hfirst]; omega), words_toNat hfirst]

theorem four_mul_toNat (b : UInt8) : ((b &&& 0x0f) * 4).toNat = 4 * (b.toNat % 16) := by
  rw [UInt8.toNat_mul, low_toNat]
  show b.toNat % 16 * 4 % 256 = _
  omega

theorem IPv4Header.bytes_parts (h : IPv4Header) : h.bytes =
    [(h.version <<< 4) ||| ((h.headerLength >>> 2) &&& 0x0f), h.typeOfService] ++
      encode h.totalLength ++ encode h.identification ++ encode h.fragmentOffset ++
      [h.timeToLive, h.protocol] ++ encode h.headerChecksum ++
      (v4Bytes h.sourceAddress ++ (v4Bytes h.destinationAddress ++ [])) := by
  rw [List.append_nil, ← List.append_assoc]
  rfl

theorem IPv4Header.ofBytes_bytes {h : IPv4Header} (hfirst : h.FirstByte) : ofBytes h.bytes = h := by
  have hbyte := firstByte_toNat hfirst
  have hle := hfirst.headerLength_le
  have hmod := hfirst.headerLength_mod
  have hlt := hfirst.version_lt
  have hsource : UInt32.ofNat (decodeBytes h.bytes 12 4) = h.sourceAddress := by
    rw [bytes_parts, decodeBytes_mid (i := 12) (n := 4) rfl rfl, value_v4Bytes, UInt32.ofNat_toNat]
  have hdestination : UInt32.ofNat (decodeBytes h.bytes 16 4) = h.destinationAddress := by
    rw [bytes_parts, ← List.append_assoc, decodeBytes_mid (i := 16) (n := 4) rfl rfl, value_v4Bytes,
      UInt32.ofNat_toNat]
  obtain ⟨version, headerLength, typeOfService, totalLength, identification, fragmentOffset, timeToLive,
    protocol, headerChecksum, sourceAddress, destinationAddress⟩ := h
  show IPv4Header.mk _ _ typeOfService _ _ _ timeToLive protocol _ _ _ = _
  congr 1
  · refine UInt8.toNat_inj.mp ((high_toNat _).trans ?_)
    show ((version <<< 4) ||| ((headerLength >>> 2) &&& 0x0f)).toNat / 16 = version.toNat
    rw [hbyte]
    dsimp only at *
    omega
  · refine UInt8.toNat_inj.mp ((four_mul_toNat _).trans ?_)
    show 4 * (((version <<< 4) ||| ((headerLength >>> 2) &&& 0x0f)).toNat % 16) = headerLength.toNat
    rw [hbyte]
    dsimp only at *
    omega
  · exact decode_encode totalLength
  · exact decode_encode identification
  · exact decode_encode fragmentOffset
  · exact decode_encode headerChecksum

theorem IPv4Header.firstByte_ofBytes (data : List UInt8) : (ofBytes data).FirstByte := by
  have hb := (byte data 0).toNat_lt
  have hversion : (ofBytes data).version.toNat = (byte data 0).toNat / 16 := high_toNat _
  have hlength : (ofBytes data).headerLength.toNat = 4 * ((byte data 0).toNat % 16) := four_mul_toNat _
  constructor <;> omega

theorem IPv4Header.bytes_ofBytes {data : List UInt8} (h : data.length = 20) :
    (ofBytes data).bytes = data := by
  have hfirst : ((ofBytes data).version <<< 4) ||| (((ofBytes data).headerLength >>> 2) &&& 0x0f) =
      byte data 0 := by
    refine UInt8.toNat_inj.mp ((firstByte_toNat (firstByte_ofBytes data)).trans ?_)
    have hversion : (ofBytes data).version.toNat = (byte data 0).toNat / 16 := high_toNat _
    have hlength : (ofBytes data).headerLength.toNat = 4 * ((byte data 0).toNat % 16) :=
      four_mul_toNat _
    omega
  rw [bytes_parts, hfirst]
  match data, h with
  | [b0, b1, b2, b3, b4, b5, b6, b7, b8, b9, b10, b11, b12, b13, b14, b15, b16, b17, b18, b19], _ =>
    show [b0, b1] ++ encode ((b2.toUInt16 <<< 8) + b3.toUInt16) ++
      encode ((b4.toUInt16 <<< 8) + b5.toUInt16) ++ encode ((b6.toUInt16 <<< 8) + b7.toUInt16) ++
      [b8, b9] ++ encode ((b10.toUInt16 <<< 8) + b11.toUInt16) ++
      (v4Bytes (UInt32.ofNat (BigEndian.value [b12, b13, b14, b15])) ++
        (v4Bytes (UInt32.ofNat (BigEndian.value [b16, b17, b18, b19])) ++ [])) = _
    rw [encode_decode, encode_decode, encode_decode, encode_decode, v4Bytes_value rfl, v4Bytes_value rfl]
    rfl

/-- The first twenty bytes. -/
theorem IPv4Header.fixed_accepts :
    Accepts (do let data ← Wire.read 20; return ofBytes data) fun h l => h.FirstByte ∧ l = h.bytes :=
  header_accepts bytes FirstByte (fun _ _ => rfl) (fun _ => ofBytes_bytes)
    fun l hl => ⟨firstByte_ofBytes l, bytes_ofBytes hl⟩

theorem IPv4Header.read_eq : IPv4Header.read =
    ((do let data ← Wire.read 20; return ofBytes data) >>= fun h =>
      if h.version = 4 ∧ 20 ≤ h.headerLength then Pure.pure h else failure) >>= fun h =>
        Wire.read (h.headerLength.toNat - 20) >>= fun _ => Pure.pure h.withoutFlags := by
  unfold IPv4Header.read
  rw [bind_assoc, bind_assoc]
  refine bind_congr fun data => ?_
  rw [pure_bind]
  have hfail (h : ¬((ofBytes data).version = 4 ∧ 20 ≤ (ofBytes data).headerLength)) :
      (if (ofBytes data).version = 4 ∧ 20 ≤ (ofBytes data).headerLength then Pure.pure (ofBytes data)
        else failure : InputStream IPv4Header) = failure := if_neg h
  by_cases hversion : (ofBytes data).version = 4
  · by_cases hlength : (ofBytes data).headerLength < 20
    · rw [hfail fun h => absurd h.2 (UInt8.not_le.mpr hlength)]
      exact (if_neg (not_not_intro hversion)).trans (if_pos hlength)
    · have hgood : (if (ofBytes data).version = 4 ∧ 20 ≤ (ofBytes data).headerLength then
          Pure.pure (ofBytes data) else failure : InputStream IPv4Header) = Pure.pure (ofBytes data) :=
        if_pos ⟨hversion, UInt8.not_lt.mp hlength⟩
      rw [hgood, pure_bind]
      exact (if_neg (not_not_intro hversion)).trans (if_neg hlength)
  · rw [hfail fun h => hversion h.1]
    exact if_pos hversion

theorem IPv4Header.read_accepts : Accepts IPv4Header.read fun h l =>
    ∃ (sent : IPv4Header) (options : List UInt8), sent.OnWire options ∧ l = sent.bytes ++ options ∧
      h = sent.withoutFlags := by
  rw [IPv4Header.read_eq]
  refine (fixed_accepts.checked.bind fun h =>
    (Wire.read_accepts _).bind fun _ => Accepts.pure h.withoutFlags).congr fun h l => ?_
  constructor
  · rintro ⟨sent, l₁, l₂, ⟨⟨hversion, hlength⟩, hfirst, rfl⟩, ⟨options, _, _, ⟨rfl, hoptions⟩, ⟨rfl, rfl⟩, rfl⟩,
      rfl⟩
    have hle := UInt8.le_iff_toNat_le.mp hlength
    have h20 : (20 : UInt8).toNat = 20 := rfl
    have hmax := hfirst.headerLength_le
    have hmod := hfirst.headerLength_mod
    refine ⟨sent, options, ⟨hversion, ?_, ?_, ?_⟩, by rw [List.append_nil], rfl⟩ <;> omega
  · rintro ⟨sent, options, hwire, rfl, rfl⟩
    have hlength := hwire.headerLength
    have hmod := hwire.options_mod
    have hle := hwire.options_le
    have h20 : (20 : UInt8).toNat = 20 := rfl
    have hfirst : sent.FirstByte := by
      refine ⟨?_, ?_, ?_⟩
      · rw [hwire.version]
        decide
      · omega
      · omega
    refine ⟨sent, sent.bytes, options, ⟨⟨hwire.version, ?_⟩, hfirst, rfl⟩,
      ⟨options, options, [], ⟨rfl, by omega⟩, ⟨rfl, rfl⟩, (List.append_nil _).symm⟩, rfl⟩
    rw [UInt8.le_iff_toNat_le]
    omega

/-! ## IPv6 -/

/-- What is read from a header. -/
def IPv6Header.ofBytes (data : List UInt8) : IPv6Header where
  version := (byte data 0 >>> 4) &&& 0x0f
  trafficClass := ((byte data 0 &&& 0x0f) <<< 4) ||| ((byte data 1 >>> 4) &&& 0x0f)
  flowLabel := UInt32.ofNat (decodeBytes data 1 3 % 2 ^ 20)
  payloadLength := decode data 4 5
  nextHeader := byte data 6
  hopLimit := byte data 7
  sourceAddress := BitVec.ofNat 128 (decodeBytes data 8 16)
  destinationAddress := BitVec.ofNat 128 (decodeBytes data 24 16)

/-- The version has 4 bits, and the flow label 20. -/
structure IPv6Header.InRange (h : IPv6Header) : Prop where
  version_lt : h.version.toNat < 16
  flowLabel_lt : h.flowLabel.toNat < 2 ^ 20

theorem IPv6Header.read_eq : IPv6Header.read =
    (do let data ← Wire.read 40; return ofBytes data) >>= fun h =>
      if h.version = 6 then Pure.pure h else failure := by
  unfold IPv6Header.read
  rw [bind_assoc]
  refine bind_congr fun data => ?_
  rw [pure_bind]
  by_cases hversion : (ofBytes data).version = 6
  · rw [if_pos hversion]
    exact if_neg (not_not_intro hversion)
  · rw [if_neg hversion]
    exact if_pos hversion

theorem IPv6Header.bytes_parts (h : IPv6Header) : h.bytes =
    [((h.version &&& 0x0f) <<< 4) ||| ((h.trafficClass &&& 0xf0) >>> 4),
      ((h.trafficClass &&& 0x0f) <<< 4) ||| ((h.flowLabel &&& 0x000f0000) >>> 16).toUInt8,
      ((h.flowLabel &&& 0x0000ff00) >>> 8).toUInt8, (h.flowLabel &&& 0x000000ff).toUInt8] ++
      encode h.payloadLength ++ [h.nextHeader, h.hopLimit] ++
      (v6Bytes h.sourceAddress ++ (v6Bytes h.destinationAddress ++ [])) := by
  rw [List.append_nil, ← List.append_assoc]
  rfl

theorem highMask_toNat (b : UInt8) : ((b &&& 0xf0) >>> 4).toNat = b.toNat / 16 := by
  have hb := b.toNat_lt
  have hmask : (b.toNat &&& 240) >>> 4 = b.toNat / 2 ^ 4 % 2 ^ 4 := by
    rw [Nat.shiftRight_and_distrib, Nat.shiftRight_eq_div_pow]
    exact Nat.and_two_pow_sub_one_eq_mod _ 4
  rw [UInt8.toNat_shiftRight, UInt8.toNat_and]
  refine hmask.trans ?_
  omega

/-- The parts of a flow label. -/
theorem flowLabel_toNat (n : UInt32) :
    ((n &&& 0x000f0000) >>> 16).toUInt8.toNat = n.toNat / 65536 % 16 ∧
      ((n &&& 0x0000ff00) >>> 8).toUInt8.toNat = n.toNat / 256 % 256 ∧
      (n &&& 0x000000ff).toUInt8.toNat = n.toNat % 256 := by
  have hhigh : (n.toNat &&& 0xf0000) >>> 16 = n.toNat / 2 ^ 16 % 2 ^ 4 := by
    rw [Nat.shiftRight_and_distrib, Nat.shiftRight_eq_div_pow]
    exact Nat.and_two_pow_sub_one_eq_mod _ 4
  have hmid : (n.toNat &&& 0xff00) >>> 8 = n.toNat / 2 ^ 8 % 2 ^ 8 := by
    rw [Nat.shiftRight_and_distrib, Nat.shiftRight_eq_div_pow]
    exact Nat.and_two_pow_sub_one_eq_mod _ 8
  have hlow : n.toNat &&& 0xff = n.toNat % 2 ^ 8 := Nat.and_two_pow_sub_one_eq_mod _ 8
  refine ⟨?_, ?_, ?_⟩
  · rw [UInt32.toNat_toUInt8, UInt32.toNat_shiftRight, UInt32.toNat_and]
    show (n.toNat &&& 0xf0000) >>> 16 % 256 = _
    rw [hhigh]
    omega
  · rw [UInt32.toNat_toUInt8, UInt32.toNat_shiftRight, UInt32.toNat_and]
    show (n.toNat &&& 0xff00) >>> 8 % 256 = _
    rw [hmid]
    omega
  · rw [UInt32.toNat_toUInt8, UInt32.toNat_and]
    show (n.toNat &&& 0xff) % 256 = _
    rw [hlow]
    omega

theorem IPv6Header.byte0_toNat (h : IPv6Header) :
    (((h.version &&& 0x0f) <<< 4) ||| ((h.trafficClass &&& 0xf0) >>> 4)).toNat =
      16 * (h.version.toNat % 16) + h.trafficClass.toNat / 16 := by
  have hlt := h.trafficClass.toNat_lt
  rw [or_toNat (by rw [low_toNat]; omega) (by rw [highMask_toNat]; omega), low_toNat, highMask_toNat]

theorem IPv6Header.byte1_toNat (h : IPv6Header) :
    (((h.trafficClass &&& 0x0f) <<< 4) ||| ((h.flowLabel &&& 0x000f0000) >>> 16).toUInt8).toNat =
      16 * (h.trafficClass.toNat % 16) + h.flowLabel.toNat / 65536 % 16 := by
  rw [or_toNat (by rw [low_toNat]; omega) (by rw [(flowLabel_toNat _).1]; omega), low_toNat,
    (flowLabel_toNat _).1]

theorem nibbles_toNat (a b : UInt8) :
    (((a &&& 0x0f) <<< 4) ||| ((b >>> 4) &&& 0x0f)).toNat = 16 * (a.toNat % 16) + b.toNat / 16 := by
  have hb := b.toNat_lt
  rw [or_toNat (by rw [low_toNat]; omega) (by rw [high_toNat]; omega), low_toNat, high_toNat]

theorem IPv6Header.ofBytes_bytes {h : IPv6Header} (hrange : h.InRange) : ofBytes h.bytes = h := by
  have hversion := hrange.version_lt
  have hflow := hrange.flowLabel_lt
  have hclass := h.trafficClass.toNat_lt
  have h0 := byte0_toNat h
  have h1 := byte1_toNat h
  obtain ⟨-, hmid, hlow⟩ := flowLabel_toNat h.flowLabel
  have hsource : BitVec.ofNat 128 (decodeBytes h.bytes 8 16) = h.sourceAddress := by
    rw [bytes_parts, decodeBytes_mid (i := 8) (n := 16) rfl rfl, value_v6Bytes, BitVec.ofNat_toNat,
      BitVec.setWidth_eq]
  have hdestination : BitVec.ofNat 128 (decodeBytes h.bytes 24 16) = h.destinationAddress := by
    rw [bytes_parts, ← List.append_assoc, decodeBytes_mid (i := 24) (n := 16) rfl rfl, value_v6Bytes,
      BitVec.ofNat_toNat, BitVec.setWidth_eq]
  obtain ⟨version, trafficClass, flowLabel, payloadLength, nextHeader, hopLimit, sourceAddress,
    destinationAddress⟩ := h
  show IPv6Header.mk _ _ _ _ nextHeader hopLimit _ _ = _
  dsimp only at *
  congr 1
  · refine UInt8.toNat_inj.mp ((high_toNat _).trans ?_)
    show (((version &&& 0x0f) <<< 4) ||| ((trafficClass &&& 0xf0) >>> 4)).toNat / 16 = version.toNat
    rw [h0]
    omega
  · refine UInt8.toNat_inj.mp ((nibbles_toNat _ _).trans ?_)
    show 16 * ((((version &&& 0x0f) <<< 4) ||| ((trafficClass &&& 0xf0) >>> 4)).toNat % 16) +
      (((trafficClass &&& 0x0f) <<< 4) ||| ((flowLabel &&& 0x000f0000) >>> 16).toUInt8).toNat / 16 =
        trafficClass.toNat
    rw [h0, h1]
    omega
  · refine UInt32.toNat_inj.mp ?_
    have hvalue : decodeBytes
        (IPv6Header.mk version trafficClass flowLabel payloadLength nextHeader hopLimit sourceAddress
          destinationAddress).bytes 1 3 =
        256 * (256 * (256 * 0 +
          (((trafficClass &&& 0x0f) <<< 4) ||| ((flowLabel &&& 0x000f0000) >>> 16).toUInt8).toNat) +
          ((flowLabel &&& 0x0000ff00) >>> 8).toUInt8.toNat) + (flowLabel &&& 0x000000ff).toUInt8.toNat := rfl
    rw [hvalue, h1, hmid, hlow]
    show _ % 2 ^ 20 % 2 ^ 32 = flowLabel.toNat
    omega
  · exact decode_encode payloadLength

theorem IPv6Header.inRange_ofBytes (data : List UInt8) : (ofBytes data).InRange := by
  constructor
  · have hb := (byte data 0).toNat_lt
    have hversion : (ofBytes data).version.toNat = (byte data 0).toNat / 16 := high_toNat _
    omega
  · show decodeBytes data 1 3 % 2 ^ 20 % 2 ^ 32 < 2 ^ 20
    omega

theorem IPv6Header.bytes_ofBytes {data : List UInt8} (h : data.length = 40) :
    (ofBytes data).bytes = data := by
  obtain ⟨b0, b1, b2, b3, b4, b5, b6, b7, hfront⟩ :=
    eq_of_length_eight (l := data.take 8) (by rw [List.length_take, h]; rfl)
  obtain ⟨rest, rfl, hrest⟩ : ∃ rest, data = [b0, b1, b2, b3, b4, b5, b6, b7] ++ rest ∧
      rest.length = 32 := by
    refine ⟨data.drop 8, ?_, by rw [List.length_drop, h]⟩
    rw [← hfront, List.take_append_drop]
  have hsource : (rest.take 16).length = 16 := by rw [List.length_take, hrest]; rfl
  have hdestination : (rest.drop 16).length = 16 := by rw [List.length_drop, hrest]
  have hlast : (rest.drop 16).take 16 = rest.drop 16 := List.take_of_length_le (Nat.le_of_eq hdestination)
  generalize hh : ofBytes ([b0, b1, b2, b3, b4, b5, b6, b7] ++ rest) = header
  have h0 := byte0_toNat header
  have h1 := byte1_toNat header
  obtain ⟨-, hmid, hlow⟩ := flowLabel_toNat header.flowLabel
  have hversion : header.version.toNat = b0.toNat / 16 := by rw [← hh]; exact high_toNat _
  have hclass : header.trafficClass.toNat = 16 * (b0.toNat % 16) + b1.toNat / 16 := by
    rw [← hh]
    exact nibbles_toNat _ _
  have hflow : header.flowLabel.toNat =
      (256 * (256 * (256 * 0 + b1.toNat) + b2.toNat) + b3.toNat) % 2 ^ 20 % 2 ^ 32 := by rw [← hh]; rfl
  have hb0 := b0.toNat_lt
  have hb1 := b1.toNat_lt
  have hb2 := b2.toNat_lt
  have hb3 := b3.toNat_lt
  have hparts := bytes_parts header
  rw [UInt8.toNat_inj.mp (h0.trans (show _ = b0.toNat by omega)),
    UInt8.toNat_inj.mp (h1.trans (show _ = b1.toNat by omega)),
    UInt8.toNat_inj.mp (hmid.trans (show _ = b2.toNat by omega)),
    UInt8.toNat_inj.mp (hlow.trans (show _ = b3.toNat by omega)), ← hh] at hparts
  rw [← hh, hparts]
  show [b0, b1, b2, b3] ++ encode ((b4.toUInt16 <<< 8) + b5.toUInt16) ++ [b6, b7] ++
    (v6Bytes (BitVec.ofNat 128 (BigEndian.value (rest.take 16))) ++
      (v6Bytes (BitVec.ofNat 128 (BigEndian.value ((rest.drop 16).take 16))) ++ [])) = _
  rw [encode_decode, v6Bytes_value hsource, hlast, v6Bytes_value hdestination, List.append_nil,
    List.take_append_drop]
  rfl

theorem IPv6Header.read_accepts : Accepts IPv6Header.read fun h l =>
    h.version = 6 ∧ h.InRange ∧ l = h.bytes := by
  rw [IPv6Header.read_eq]
  exact (header_accepts bytes InRange (fun _ _ => rfl) (fun _ => ofBytes_bytes)
    fun l hl => ⟨inRange_ofBytes l, bytes_ofBytes hl⟩).checked

end HiPerConTracer.Wire
