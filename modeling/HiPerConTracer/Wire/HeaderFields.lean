import HiPerConTracer.Lib.ByteMasks
import HiPerConTracer.Net.Address

/-!
# Fields of the headers (`udpheader.h`, `icmpheader.h`, `traceserviceheader.h`)

A header is an array of bytes.  When a setter only writes the bits of one field, and the getters only read
those of theirs, then the fields are independent, if the setter writes the field of its own name:

    Independent F d s ↔ L.stored s = F.value s                         (independent_iff_stored)
    Independent F d s ↔ F.get (F.target s) d = F.value s ∧ F.get (L.writes s) d = L.stored s
                                                                       (independent_iff_unchanged)
-/

namespace HiPerConTracer.Wire
open ByteMasks Net

/-! ## Formats of headers -/

/-- What a getter returns. -/
inductive FieldValue where
  | number (n : Nat)
  | flag (b : Bool)
  | address (a : Address)
deriving DecidableEq

/-- The getters of a header and the calls of its setters, over the bytes of `Data`. -/
structure HeaderFormat where
  size : Nat
  Getter : Type
  Setter : Type
  get : Getter → Bytes size → FieldValue
  run : Setter → Bytes size → Bytes size
  /-- The getter with the name of the setter. -/
  target : Setter → Getter
  /-- The value of the call. -/
  value : Setter → FieldValue
  /-- The value is in the range of the field. -/
  Admissible : Setter → Prop
  /-- The field of a getter. -/
  field : Getter → Getter

/-- The getter returns the value that has been set, and the others what they returned before. -/
structure Independent (F : HeaderFormat) (d : Bytes F.size) (s : F.Setter) : Prop where
  same : ∀ g, F.field g = F.field (F.target s) → F.get g (F.run s d) = F.value s
  other : ∀ g, F.field g ≠ F.field (F.target s) → F.get g (F.run s d) = F.get g d

/-- Where the fields are, and what the setters write. -/
structure HeaderLayout (F : HeaderFormat) where
  mask : F.Getter → List UInt8
  /-- The field that the setter changes. -/
  writes : F.Setter → F.Getter
  /-- What the getter of this field returns then. -/
  stored : F.Setter → FieldValue
  reads_mask : ∀ g, Reads (mask g) (F.get g)
  writes_mask : ∀ s, F.Admissible s → Writes (mask (writes s)) (F.run s)
  get_run : ∀ s d, F.Admissible s → F.get (writes s) (F.run s d) = stored s
  disjoint : ∀ g g', F.field g ≠ F.field g' → Apart (mask g) (mask g')
  get_field : ∀ g g', F.field g = F.field g' → F.get g = F.get g'

namespace HeaderLayout
variable {F : HeaderFormat} (L : HeaderLayout F) {s : F.Setter}

theorem get_other (hs : F.Admissible s) {g : F.Getter} (hg : F.field g ≠ F.field (L.writes s))
    (d : Bytes F.size) : F.get g (F.run s d) = F.get g d :=
  (L.reads_mask g).frame (L.writes_mask s hs) (L.disjoint _ _ hg) d

/-- A setter that changes the field of its name. -/
theorem independent_iff_stored (hs : F.Admissible s) (h : F.field (L.writes s) = F.field (F.target s))
    (d : Bytes F.size) : Independent F d s ↔ L.stored s = F.value s := by
  constructor
  · intro hindependent
    rw [← L.get_run s d hs]
    exact hindependent.same _ h
  · intro hstored
    constructor
    · intro g hg
      rw [L.get_field g (L.writes s) (hg.trans h.symm), L.get_run s d hs, hstored]
    · intro g hg
      exact L.get_other hs (h ▸ hg) d

/-- A setter that changes another field. -/
theorem independent_iff_unchanged (hs : F.Admissible s)
    (h : F.field (L.writes s) ≠ F.field (F.target s)) (d : Bytes F.size) :
    Independent F d s ↔ F.get (F.target s) d = F.value s ∧ F.get (L.writes s) d = L.stored s := by
  constructor
  · intro hindependent
    constructor
    · rw [← L.get_other hs (Ne.symm h) d]
      exact hindependent.same _ rfl
    · rw [← L.get_run s d hs]
      exact (hindependent.other _ h).symm
  · rintro ⟨hvalue, hstored⟩
    constructor
    · intro g hg
      rw [L.get_field g (F.target s) hg, L.get_other hs (Ne.symm h) d, hvalue]
    · intro g hg
      by_cases hwrites : F.field g = F.field (L.writes s)
      · rw [L.get_field g _ hwrites, L.get_run s d hs, hstored]
      · exact L.get_other hs hwrites d

end HeaderLayout

/-! ## Fields with whole bytes -/

section
variable {n : Nat}

/-- `Data[i]` -/
def byteField (d : Bytes n) (i : Fin n) : FieldValue := .number (d i).toNat

/-- `decode` -/
def decodeAt (d : Bytes n) (a b : Fin n) : UInt16 := ((d a).toUInt16 <<< 8) + (d b).toUInt16

def wordField (d : Bytes n) (a b : Fin n) : FieldValue := .number (decodeAt d a b).toNat

/-- `encode` -/
def encodeAt (d : Bytes n) (a b : Fin n) (v : UInt16) : Bytes n :=
  setByte (setByte d a (v >>> 8).toUInt8) b (v &&& 0xff).toUInt8

/-- An address that is made of its bytes. -/
def addressV4 (d : Bytes n) (start : Nat) (h : start + 4 ≤ n) : FieldValue :=
  .address (.v4 (UInt32.ofNat (number (slice d start 4 h))))

def addressV6 (d : Bytes n) (start : Nat) (h : start + 16 ≤ n) : FieldValue :=
  .address (.v6 (BitVec.ofNat 128 (number (slice d start 16 h))) 0)

variable {a b i : Fin n} {start : Nat} {mask : List UInt8}

theorem reads_byteField (hi : maskAt mask i = 0xff) : Reads mask fun d => byteField d i :=
  Reads.map (fun x : UInt8 => FieldValue.number x.toNat) (.byte i hi)

theorem byteField_setByte (d : Bytes n) (v : UInt8) : byteField (setByte d i v) i = .number v.toNat := by
  unfold byteField
  rw [setByte_self]

theorem decode_encode (v : UInt16) :
    ((v >>> 8).toUInt8.toUInt16 <<< 8) + (v &&& 0xff).toUInt8.toUInt16 = v := by
  rw [← UInt16.toNat_inj]
  have hv := v.toNat_lt
  simp only [UInt16.toNat_add, UInt16.toNat_shiftLeft, UInt8.toNat_toUInt16, UInt16.toNat_toUInt8,
    UInt16.toNat_shiftRight, UInt16.toNat_and, Nat.shiftLeft_eq, Nat.shiftRight_eq_div_pow]
  rw [show (0xff : UInt16).toNat = 2 ^ 8 - 1 from rfl, Nat.and_two_pow_sub_one_eq_mod,
    show (8 : UInt16).toNat % 16 = 8 from rfl]
  omega

theorem reads_wordField (ha : maskAt mask a = 0xff) (hb : maskAt mask b = 0xff) :
    Reads mask fun d => wordField d a b :=
  Reads.map₂ (fun x y : UInt8 => FieldValue.number ((x.toUInt16 <<< 8) + y.toUInt16).toNat)
    (.byte a ha) (.byte b hb)

theorem wordField_encodeAt (d : Bytes n) (h : a ≠ b) (v : UInt16) :
    wordField (encodeAt d a b v) a b = .number v.toNat := by
  unfold wordField decodeAt encodeAt
  rw [setByte_self, setByte_of_ne h, setByte_self, decode_encode]

theorem writes_encodeAt (v : UInt16) (ha : maskAt mask a = 0xff) (hb : maskAt mask b = 0xff) :
    Writes mask fun d => encodeAt d a b v :=
  .comp (.byte a (fun _ => (v >>> 8).toUInt8) ha) (.byte b (fun _ => (v &&& 0xff).toUInt8) hb)

theorem reads_addressV4 {h : start + 4 ≤ n} :
    Reads (wholeBytes start 4) fun d : Bytes n => addressV4 d start h :=
  Reads.map (fun x : Bytes 4 => FieldValue.address (.v4 (UInt32.ofNat (number x)))) (reads_slice h)

theorem addressV4_memcpy (d : Bytes n) {h : start + 4 ≤ n} (a : UInt32) :
    addressV4 (memcpy d start 4 (toBytes 4 a.toNat)) start h = .address (.v4 a) := by
  unfold addressV4
  rw [slice_memcpy, number_toBytes, Nat.mod_eq_of_lt (show a.toNat < 256 ^ 4 from a.toNat_lt),
    UInt32.ofNat_toNat]

theorem reads_addressV6 {h : start + 16 ≤ n} :
    Reads (wholeBytes start 16) fun d : Bytes n => addressV6 d start h :=
  Reads.map (fun x : Bytes 16 => FieldValue.address (.v6 (BitVec.ofNat 128 (number x)) 0))
    (reads_slice h)

theorem addressV6_memcpy (d : Bytes n) {h : start + 16 ≤ n} (a : BitVec 128) :
    addressV6 (memcpy d start 16 (toBytes 16 a.toNat)) start h = .address (.v6 a 0) := by
  unfold addressV6
  rw [slice_memcpy, number_toBytes, Nat.mod_eq_of_lt (show a.toNat < 256 ^ 16 from a.isLt),
    BitVec.ofNat_toNat, BitVec.setWidth_eq]

end

/-! ## `UDPHeader` -/

namespace UDPData

inductive Getter where
  | sourcePort | destinationPort | length | checksum
deriving DecidableEq

inductive Setter where
  | sourcePort (sourcePort : UInt16)
  | destinationPort (destinationPort : UInt16)
  | length (length : UInt16)
  | checksum (checksum : UInt16)

def get : Getter → Bytes 8 → FieldValue
  | .sourcePort, d => wordField d 0 1
  | .destinationPort, d => wordField d 2 3
  | .length, d => wordField d 4 5
  | .checksum, d => wordField d 6 7

def run : Setter → Bytes 8 → Bytes 8
  | .sourcePort sourcePort, d => encodeAt d 0 1 sourcePort
  | .destinationPort destinationPort, d => encodeAt d 2 3 destinationPort
  | .length length, d => encodeAt d 4 5 length
  | .checksum checksum, d => encodeAt d 6 7 checksum

def target : Setter → Getter
  | .sourcePort _ => .sourcePort
  | .destinationPort _ => .destinationPort
  | .length _ => .length
  | .checksum _ => .checksum

def value : Setter → FieldValue
  | .sourcePort v | .destinationPort v | .length v | .checksum v => .number v.toNat

/-- `UDPHeader` -/
def format : HeaderFormat := ⟨8, Getter, Setter, get, run, target, value, fun _ => True, id⟩

def mask : Getter → List UInt8
  | .sourcePort => wholeBytes 0 2
  | .destinationPort => wholeBytes 2 2
  | .length => wholeBytes 4 2
  | .checksum => wholeBytes 6 2

theorem reads_mask (g : Getter) : Reads (mask g) (get g) := by
  cases g <;> exact reads_wordField rfl rfl

theorem writes_mask (s : Setter) : Writes (mask (target s)) (run s) := by
  cases s <;> exact writes_encodeAt _ rfl rfl

theorem get_run (s : Setter) (d : Bytes 8) : get (target s) (run s d) = value s := by
  cases s <;> exact wordField_encodeAt d (by decide) _

def layout : HeaderLayout format where
  mask := mask
  writes := target
  stored := value
  reads_mask := reads_mask
  writes_mask s _ := writes_mask s
  get_run s d _ := get_run s d
  disjoint := by
    intro g g' h
    cases g <;> cases g' <;> first | exact absurd rfl h | decide
  get_field := by
    rintro g g' rfl
    rfl

end UDPData

/-! ## `ICMPHeader` -/

namespace ICMPData

inductive Getter where
  | type | code | checksum | identifier | seqNumber
deriving DecidableEq

inductive Setter where
  | type (type : UInt8)
  | code (code : UInt8)
  | checksum (checksum : UInt16)
  | identifier (id : UInt16)
  | seqNumber (seqNum : UInt16)

def get : Getter → Bytes 8 → FieldValue
  | .type, d => byteField d 0
  | .code, d => byteField d 1
  | .checksum, d => wordField d 2 3
  | .identifier, d => wordField d 4 5
  | .seqNumber, d => wordField d 6 7

def run : Setter → Bytes 8 → Bytes 8
  | .type type, d => setByte d 0 type
  | .code code, d => setByte d 1 code
  | .checksum checksum, d => encodeAt d 2 3 checksum
  | .identifier id, d => encodeAt d 4 5 id
  | .seqNumber seqNum, d => encodeAt d 6 7 seqNum

def target : Setter → Getter
  | .type _ => .type
  | .code _ => .code
  | .checksum _ => .checksum
  | .identifier _ => .identifier
  | .seqNumber _ => .seqNumber

def value : Setter → FieldValue
  | .type v | .code v => .number v.toNat
  | .checksum v | .identifier v | .seqNumber v => .number v.toNat

/-- `ICMPHeader` -/
def format : HeaderFormat := ⟨8, Getter, Setter, get, run, target, value, fun _ => True, id⟩

def mask : Getter → List UInt8
  | .type => wholeBytes 0 1
  | .code => wholeBytes 1 1
  | .checksum => wholeBytes 2 2
  | .identifier => wholeBytes 4 2
  | .seqNumber => wholeBytes 6 2

theorem reads_mask (g : Getter) : Reads (mask g) (get g) := by
  cases g with
  | type => exact reads_byteField rfl
  | code => exact reads_byteField rfl
  | _ => exact reads_wordField rfl rfl

theorem writes_mask (s : Setter) : Writes (mask (target s)) (run s) := by
  cases s with
  | type v => exact .byte 0 (fun _ => v) rfl
  | code v => exact .byte 1 (fun _ => v) rfl
  | _ v => exact writes_encodeAt v rfl rfl

theorem get_run (s : Setter) (d : Bytes 8) : get (target s) (run s d) = value s := by
  cases s with
  | type v => exact byteField_setByte d v
  | code v => exact byteField_setByte d v
  | _ v => exact wordField_encodeAt d (by decide) v

def layout : HeaderLayout format where
  mask := mask
  writes := target
  stored := value
  reads_mask := reads_mask
  writes_mask s _ := writes_mask s
  get_run s d _ := get_run s d
  disjoint := by
    intro g g' h
    cases g <;> cases g' <;> first | exact absurd rfl h | decide
  get_field := by
    rintro g g' rfl
    rfl

end ICMPData

/-! ## `TraceServiceHeader` -/

namespace TraceServiceData

inductive Getter where
  | magicNumber | sendTTL | round | checksumTweak | seqNumber | sendTimeStamp
deriving DecidableEq

inductive Setter where
  | magicNumber (number : UInt32)
  | sendTTL (sendTTL : UInt8)
  | round (round : UInt8)
  | checksumTweak (value : UInt16)
  | seqNumber (value : UInt16)
  | sendTimeStamp (timeStamp : UInt64)
  /-- With the time since `HiPerConTracerEpoch`. -/
  | sendTimePoint (nanoseconds : Int64)

def magicNumber (d : Bytes 65536) : UInt32 :=
  ((d 0).toUInt32 <<< 24) ||| ((d 1).toUInt32 <<< 16) ||| ((d 2).toUInt32 <<< 8) ||| (d 3).toUInt32

def checksumTweak (d : Bytes 65536) : UInt16 := ((d 6).toUInt16 <<< 8) ||| (d 7).toUInt16

def sendTimeStamp (d : Bytes 65536) : UInt64 :=
  ((d 8).toUInt64 <<< 56) ||| ((d 9).toUInt64 <<< 48) ||| ((d 10).toUInt64 <<< 40) |||
  ((d 11).toUInt64 <<< 32) ||| ((d 12).toUInt64 <<< 24) ||| ((d 13).toUInt64 <<< 16) |||
  ((d 14).toUInt64 <<< 8) ||| (d 15).toUInt64

def get : Getter → Bytes 65536 → FieldValue
  | .magicNumber, d => .number (magicNumber d).toNat
  | .sendTTL, d => byteField d 4
  | .round, d => byteField d 5
  | .checksumTweak, d => .number (checksumTweak d).toNat
  | .seqNumber, d => .number (checksumTweak d).toNat
  | .sendTimeStamp, d => .number (sendTimeStamp d).toNat

def setMagicNumber (d : Bytes 65536) (number : UInt32) : Bytes 65536 :=
  setBytes d [
    (0, ((number >>> 24) &&& 0xff).toUInt8),
    (1, ((number >>> 16) &&& 0xff).toUInt8),
    (2, ((number >>> 8) &&& 0xff).toUInt8),
    (3, (number &&& 0xff).toUInt8)]

def setChecksumTweak (d : Bytes 65536) (value : UInt16) : Bytes 65536 :=
  setBytes d [(6, ((value >>> 8) &&& 0xff).toUInt8), (7, (value &&& 0xff).toUInt8)]

def setSendTimeStamp (d : Bytes 65536) (timeStamp : UInt64) : Bytes 65536 :=
  setBytes d [
    (8, ((timeStamp >>> 56) &&& 0xff).toUInt8),
    (9, ((timeStamp >>> 48) &&& 0xff).toUInt8),
    (10, ((timeStamp >>> 40) &&& 0xff).toUInt8),
    (11, ((timeStamp >>> 32) &&& 0xff).toUInt8),
    (12, ((timeStamp >>> 24) &&& 0xff).toUInt8),
    (13, ((timeStamp >>> 16) &&& 0xff).toUInt8),
    (14, ((timeStamp >>> 8) &&& 0xff).toUInt8),
    (15, (timeStamp &&& 0xff).toUInt8)]

def run : Setter → Bytes 65536 → Bytes 65536
  | .magicNumber number, d => setMagicNumber d number
  | .sendTTL sendTTL, d => setByte d 4 sendTTL
  | .round round, d => setByte d 5 round
  | .checksumTweak value, d => setChecksumTweak d value
  | .seqNumber value, d => setChecksumTweak d value
  | .sendTimeStamp timeStamp, d => setSendTimeStamp d timeStamp
  | .sendTimePoint nanoseconds, d => setSendTimeStamp d nanoseconds.toUInt64

def target : Setter → Getter
  | .magicNumber _ => .magicNumber
  | .sendTTL _ => .sendTTL
  | .round _ => .round
  | .checksumTweak _ => .checksumTweak
  | .seqNumber _ => .seqNumber
  | .sendTimeStamp _ | .sendTimePoint _ => .sendTimeStamp

def value : Setter → FieldValue
  | .magicNumber v => .number v.toNat
  | .sendTTL v | .round v => .number v.toNat
  | .checksumTweak v | .seqNumber v => .number v.toNat
  | .sendTimeStamp v => .number v.toNat
  | .sendTimePoint v => .number v.toUInt64.toNat

/-- The sequence number is the tweak value. -/
def field : Getter → Getter
  | .seqNumber => .checksumTweak
  | g => g

/-- `TraceServiceHeader` -/
def format : HeaderFormat :=
  ⟨65536, Getter, Setter, get, run, target, value, fun _ => True, field⟩

def mask : Getter → List UInt8
  | .magicNumber => wholeBytes 0 4
  | .sendTTL => wholeBytes 4 1
  | .round => wholeBytes 5 1
  | .checksumTweak | .seqNumber => wholeBytes 6 2
  | .sendTimeStamp => wholeBytes 8 8

section
variable {d : Bytes 65536}

/-! The getters of numbers with several bytes, from these bytes. -/

theorem magicNumber_eq {v : UInt32} (h0 : d 0 = (v >>> 24).toUInt8) (h1 : d 1 = (v >>> 16).toUInt8)
    (h2 : d 2 = (v >>> 8).toUInt8) (h3 : d 3 = v.toUInt8) : magicNumber d = v := by
  have hbits := shift_or_byte v.toBitVec
  unfold magicNumber
  rw [h0, h1, h2, h3, ← UInt32.toBitVec_inj]
  show ((v.toBitVec >>> 24).setWidth 8).setWidth 32 <<< 24 |||
    ((v.toBitVec >>> 16).setWidth 8).setWidth 32 <<< 16 |||
    ((v.toBitVec >>> 8).setWidth 8).setWidth 32 <<< 8 ||| (v.toBitVec.setWidth 8).setWidth 32 = v.toBitVec
  rw [shift_or_byte_top _ (by decide), hbits 16, hbits 8, shift_or_byte_zero]

theorem sendTimeStamp_eq {v : UInt64} (h8 : d 8 = (v >>> 56).toUInt8)
    (h9 : d 9 = (v >>> 48).toUInt8) (h10 : d 10 = (v >>> 40).toUInt8)
    (h11 : d 11 = (v >>> 32).toUInt8) (h12 : d 12 = (v >>> 24).toUInt8)
    (h13 : d 13 = (v >>> 16).toUInt8) (h14 : d 14 = (v >>> 8).toUInt8) (h15 : d 15 = v.toUInt8) :
    sendTimeStamp d = v := by
  have hbits := shift_or_byte v.toBitVec
  unfold sendTimeStamp
  rw [h8, h9, h10, h11, h12, h13, h14, h15, ← UInt64.toBitVec_inj]
  show ((v.toBitVec >>> 56).setWidth 8).setWidth 64 <<< 56 |||
    ((v.toBitVec >>> 48).setWidth 8).setWidth 64 <<< 48 |||
    ((v.toBitVec >>> 40).setWidth 8).setWidth 64 <<< 40 |||
    ((v.toBitVec >>> 32).setWidth 8).setWidth 64 <<< 32 |||
    ((v.toBitVec >>> 24).setWidth 8).setWidth 64 <<< 24 |||
    ((v.toBitVec >>> 16).setWidth 8).setWidth 64 <<< 16 |||
    ((v.toBitVec >>> 8).setWidth 8).setWidth 64 <<< 8 ||| (v.toBitVec.setWidth 8).setWidth 64 = v.toBitVec
  rw [shift_or_byte_top _ (by decide), hbits 48, hbits 40, hbits 32, hbits 24, hbits 16, hbits 8,
    shift_or_byte_zero]

theorem checksumTweak_eq {v : UInt16} (h6 : d 6 = (v >>> 8).toUInt8) (h7 : d 7 = v.toUInt8) :
    checksumTweak d = v := by
  unfold checksumTweak
  rw [h6, h7, ← UInt16.toBitVec_inj]
  show ((v.toBitVec >>> 8).setWidth 8).setWidth 16 <<< 8 ||| (v.toBitVec.setWidth 8).setWidth 16 = v.toBitVec
  rw [shift_or_byte_top _ (by decide), shift_or_byte_zero]

end

theorem magicNumber_setMagicNumber (d : Bytes 65536) (v : UInt32) :
    magicNumber (setMagicNumber d v) = v := by
  have hmask : ∀ x : UInt32, (x &&& 0xff).toUInt8 = x.toUInt8 := by
    intro x
    rw [UInt32.toUInt8_and]
    refine byte_ext fun i hi => ?_
    interval_cases i <;> simp
  unfold setMagicNumber setBytes
  simp only [List.foldl_cons, List.foldl_nil, hmask]
  apply magicNumber_eq
  all_goals simp (disch := decide) only [setByte_self, setByte_of_ne]

theorem sendTimeStamp_setSendTimeStamp (d : Bytes 65536) (v : UInt64) :
    sendTimeStamp (setSendTimeStamp d v) = v := by
  have hmask : ∀ x : UInt64, (x &&& 0xff).toUInt8 = x.toUInt8 := by
    intro x
    rw [UInt64.toUInt8_and]
    refine byte_ext fun i hi => ?_
    interval_cases i <;> simp
  unfold setSendTimeStamp setBytes
  simp only [List.foldl_cons, List.foldl_nil, hmask]
  apply sendTimeStamp_eq
  all_goals simp (disch := decide) only [setByte_self, setByte_of_ne]

theorem wordMask (v : UInt16) : (v &&& 0xff).toUInt8 = v.toUInt8 := by
  rw [UInt16.toUInt8_and]
  refine byte_ext fun i hi => ?_
  interval_cases i <;> simp

theorem checksumTweak_setChecksumTweak (d : Bytes 65536) (v : UInt16) :
    checksumTweak (setChecksumTweak d v) = v := by
  unfold setChecksumTweak setBytes
  simp only [List.foldl_cons, List.foldl_nil, wordMask]
  apply checksumTweak_eq
  all_goals simp (disch := decide) only [setByte_self, setByte_of_ne]

theorem reads_magicNumber : Reads (wholeBytes 0 4) magicNumber := by
  intro d d' h
  unfold magicNumber
  rw [h.byte 0 rfl, h.byte 1 rfl, h.byte 2 rfl, h.byte 3 rfl]

theorem reads_checksumTweak : Reads (wholeBytes 6 2) checksumTweak := by
  intro d d' h
  unfold checksumTweak
  rw [h.byte 6 rfl, h.byte 7 rfl]

theorem reads_sendTimeStamp : Reads (wholeBytes 8 8) sendTimeStamp := by
  intro d d' h
  unfold sendTimeStamp
  rw [h.byte 8 rfl, h.byte 9 rfl, h.byte 10 rfl, h.byte 11 rfl, h.byte 12 rfl, h.byte 13 rfl,
    h.byte 14 rfl, h.byte 15 rfl]

theorem reads_mask (g : Getter) : Reads (mask g) (get g) := by
  cases g with
  | magicNumber => exact reads_magicNumber.map fun v => FieldValue.number v.toNat
  | sendTTL => exact reads_byteField rfl
  | round => exact reads_byteField rfl
  | checksumTweak => exact reads_checksumTweak.map fun v => FieldValue.number v.toNat
  | seqNumber => exact reads_checksumTweak.map fun v => FieldValue.number v.toNat
  | sendTimeStamp => exact reads_sendTimeStamp.map fun v => FieldValue.number v.toNat

theorem writes_mask (s : Setter) : Writes (mask (target s)) (run s) := by
  cases s with
  | magicNumber v => exact writes_setBytes rfl
  | sendTTL v => exact .byte 4 (fun _ => v) rfl
  | round v => exact .byte 5 (fun _ => v) rfl
  | checksumTweak v => exact writes_setBytes rfl
  | seqNumber v => exact writes_setBytes rfl
  | sendTimeStamp v => exact writes_setBytes rfl
  | sendTimePoint v => exact writes_setBytes rfl

theorem get_run (s : Setter) (d : Bytes 65536) : get (target s) (run s d) = value s := by
  cases s with
  | magicNumber v => exact congrArg (fun v => FieldValue.number v.toNat) (magicNumber_setMagicNumber d v)
  | sendTTL v => exact byteField_setByte d v
  | round v => exact byteField_setByte d v
  | checksumTweak v =>
    exact congrArg (fun v => FieldValue.number v.toNat) (checksumTweak_setChecksumTweak d v)
  | seqNumber v =>
    exact congrArg (fun v => FieldValue.number v.toNat) (checksumTweak_setChecksumTweak d v)
  | sendTimeStamp v =>
    exact congrArg (fun v => FieldValue.number v.toNat) (sendTimeStamp_setSendTimeStamp d v)
  | sendTimePoint v =>
    exact congrArg (fun v => FieldValue.number v.toNat) (sendTimeStamp_setSendTimeStamp d v.toUInt64)

theorem get_field (g : Getter) : get (field g) = get g := by
  cases g <;> rfl

def layout : HeaderLayout format where
  mask := mask
  writes := target
  stored := value
  reads_mask := reads_mask
  writes_mask s _ := writes_mask s
  get_run s d _ := get_run s d
  disjoint := by
    intro g g' h
    cases g <;> cases g' <;> first | exact absurd rfl h | decide
  get_field := by
    intro g g' h
    have hfield : field g = field g' := h
    exact (get_field g).symm.trans ((congrArg get hfield).trans (get_field g'))

end TraceServiceData

end HiPerConTracer.Wire
