import HiPerConTracer.Wire.HeaderFields

/-!
# Fields of the IP headers (`ipv4header.h`, `ipv6header.h`)

The setter of `moreFragments` sets the bit of `dontFragment`, and vice versa, and an IPv6 address is stored
without its scope identifier.  For all headers, the fields are independent

    Independent h.format d s ↔ h.Undisturbed d s                                (independent_iff)

where both flags have to have the value that is set, and an IPv6 address no scope identifier.
-/

namespace HiPerConTracer.Wire
open ByteMasks Net

/-! ## `IPv4Header` -/

namespace IPv4Data

inductive Getter where
  | version | headerLength | typeOfService | totalLength | identification | dontFragment
  | moreFragments | fragmentOffset | timeToLive | protocol | headerChecksum | sourceAddress
  | destinationAddress
deriving DecidableEq

inductive Setter where
  | version (version : UInt8)
  | headerLength (headerLength : UInt8)
  | typeOfService (typeOfService : UInt8)
  | totalLength (totalLength : UInt16)
  | identification (identification : UInt16)
  | moreFragments (df : Bool)
  | dontFragment (df : Bool)
  | fragmentOffset (fragmentOffset : UInt16)
  | timeToLive (timeToLive : UInt8)
  | protocol (protocol : UInt8)
  | headerChecksum (headerChecksum : UInt16)
  | sourceAddress (sourceAddress : UInt32)
  | destinationAddress (destinationAddress : UInt32)

def get : Getter → Bytes 60 → FieldValue
  | .version, d => .number ((d 0 >>> 4) &&& (0x0f : UInt8)).toNat
  | .headerLength, d => .number ((d 0 &&& (0x0f : UInt8)).toUInt16 * 4).toNat
  | .typeOfService, d => byteField d 1
  | .totalLength, d => wordField d 2 3
  | .identification, d => wordField d 4 5
  | .dontFragment, d => .flag (d 6 &&& (0x40 : UInt8) != 0)
  | .moreFragments, d => .flag (d 6 &&& (0x20 : UInt8) != 0)
  | .fragmentOffset, d => .number (decodeAt d 6 7 &&& 0x1fff).toNat
  | .timeToLive, d => byteField d 8
  | .protocol, d => byteField d 9
  | .headerChecksum, d => wordField d 10 11
  | .sourceAddress, d => addressV4 d 12 (by decide)
  | .destinationAddress, d => addressV4 d 16 (by decide)

def run : Setter → Bytes 60 → Bytes 60
  | .version version, d => setByte d 0 ((version <<< 4) ||| (d 0 &&& 0x0f))
  | .headerLength headerLength, d =>
    setByte d 0 ((d 0 &&& (0xf0 : UInt8)) ||| ((headerLength >>> 2) &&& 0x0f))
  | .typeOfService typeOfService, d => setByte d 1 typeOfService
  | .totalLength totalLength, d => encodeAt d 2 3 totalLength
  | .identification identification, d => encodeAt d 4 5 identification
  | .moreFragments df, d => setByte d 6 ((d 6 &&& ~~~(0x40 : UInt8)) ||| if df then 0x40 else 0x00)
  | .dontFragment df, d => setByte d 6 ((d 6 &&& ~~~(0x20 : UInt8)) ||| if df then 0x20 else 0x00)
  | .fragmentOffset fragmentOffset, d =>
    setByte (setByte d 6 ((d 6 &&& (0xe0 : UInt8)) ||| (fragmentOffset >>> 8).toUInt8)) 7
      (fragmentOffset &&& 0xff).toUInt8
  | .timeToLive timeToLive, d => setByte d 8 timeToLive
  | .protocol protocol, d => setByte d 9 protocol
  | .headerChecksum headerChecksum, d => encodeAt d 10 11 headerChecksum
  | .sourceAddress sourceAddress, d => memcpy d 12 4 (toBytes 4 sourceAddress.toNat)
  | .destinationAddress destinationAddress, d =>
    memcpy d 16 4 (toBytes 4 destinationAddress.toNat)

def target : Setter → Getter
  | .version _ => .version
  | .headerLength _ => .headerLength
  | .typeOfService _ => .typeOfService
  | .totalLength _ => .totalLength
  | .identification _ => .identification
  | .moreFragments _ => .moreFragments
  | .dontFragment _ => .dontFragment
  | .fragmentOffset _ => .fragmentOffset
  | .timeToLive _ => .timeToLive
  | .protocol _ => .protocol
  | .headerChecksum _ => .headerChecksum
  | .sourceAddress _ => .sourceAddress
  | .destinationAddress _ => .destinationAddress

def value : Setter → FieldValue
  | .version v | .headerLength v | .typeOfService v | .timeToLive v | .protocol v => .number v.toNat
  | .totalLength v | .identification v | .fragmentOffset v | .headerChecksum v => .number v.toNat
  | .moreFragments df | .dontFragment df => .flag df
  | .sourceAddress a | .destinationAddress a => .address (.v4 a)

def Admissible : Setter → Prop
  | .version version => version < 16
  | .headerLength headerLength => headerLength % 4 = 0 ∧ headerLength ≤ 60
  | .fragmentOffset fragmentOffset => fragmentOffset < 8192
  | _ => True

/-- `IPv4Header` -/
def format : HeaderFormat := ⟨60, Getter, Setter, get, run, target, value, Admissible, id⟩

def mask : Getter → List UInt8
  | .version => [0xf0]
  | .headerLength => [0x0f]
  | .typeOfService => wholeBytes 1 1
  | .totalLength => wholeBytes 2 2
  | .identification => wholeBytes 4 2
  | .dontFragment => [0, 0, 0, 0, 0, 0, 0x40]
  | .moreFragments => [0, 0, 0, 0, 0, 0, 0x20]
  | .fragmentOffset => [0, 0, 0, 0, 0, 0, 0x1f, 0xff]
  | .timeToLive => wholeBytes 8 1
  | .protocol => wholeBytes 9 1
  | .headerChecksum => wholeBytes 10 2
  | .sourceAddress => wholeBytes 12 4
  | .destinationAddress => wholeBytes 16 4

/-- The setters of the flags have each other's bit. -/
def writes : Setter → Getter
  | .moreFragments _ => .dontFragment
  | .dontFragment _ => .moreFragments
  | s => target s

theorem version_bits (v x : UInt8) :
    ((v <<< 4) ||| (x &&& 0x0f)) &&& ~~~(0xf0 : UInt8) = x &&& ~~~(0xf0 : UInt8) := by
  refine byte_ext fun i hi => ?_
  interval_cases i <;> simp

theorem headerLength_bits (v x : UInt8) :
    ((x &&& (0xf0 : UInt8)) ||| ((v >>> 2) &&& (0x0f : UInt8))) &&& ~~~(0x0f : UInt8) =
      x &&& ~~~(0x0f : UInt8) := by
  refine byte_ext fun i hi => ?_
  interval_cases i <;> simp

theorem version_stored (x : UInt8) {v : UInt8} (h : v < 16) :
    (((v <<< 4) ||| (x &&& 0x0f)) >>> 4) &&& (0x0f : UInt8) = v := by
  have hv : ∀ v : UInt8, v < 16 → v &&& (0x0f : UInt8) = v := forall_byte (by decide +kernel)
  rw [← hv v h]
  refine byte_ext fun i hi => ?_
  interval_cases i <;> simp

theorem headerLength_stored (x : UInt8) {v : UInt8} (h : v % 4 = 0 ∧ v ≤ 60) :
    ((((x &&& (0xf0 : UInt8)) ||| ((v >>> 2) &&& (0x0f : UInt8))) &&& (0x0f : UInt8)).toUInt16 * 4).toNat =
      v.toNat := by
  have hbits : ((x &&& (0xf0 : UInt8)) ||| ((v >>> 2) &&& (0x0f : UInt8))) &&& (0x0f : UInt8) =
      (v >>> 2) &&& (0x0f : UInt8) := by
    refine byte_ext fun i hi => ?_
    interval_cases i <;> simp
  have hv : ∀ v : UInt8, v % 4 = 0 ∧ v ≤ 60 →
      (((v >>> 2) &&& (0x0f : UInt8)).toUInt16 * 4).toNat = v.toNat := forall_byte (by decide +kernel)
  rw [hbits, hv v h]

/-- The three bits above are not part of the offset. -/
theorem fragmentOffset_bits (x y : UInt8) :
    ((x.toUInt16 <<< 8) + y.toUInt16) &&& (0x1fff : UInt16) =
      (((x &&& (0x1f : UInt8)).toUInt16 <<< 8) + y.toUInt16) &&& (0x1fff : UInt16) := by
  rw [← UInt16.toNat_inj]
  have hx := x.toNat_lt
  have hy := y.toNat_lt
  simp only [UInt16.toNat_and, UInt16.toNat_add, UInt16.toNat_shiftLeft, UInt8.toNat_toUInt16,
    UInt8.toNat_and, Nat.shiftLeft_eq]
  rw [show (0x1fff : UInt16).toNat = 2 ^ 13 - 1 from rfl, Nat.and_two_pow_sub_one_eq_mod,
    Nat.and_two_pow_sub_one_eq_mod, show (0x1f : UInt8).toNat = 2 ^ 5 - 1 from rfl,
    Nat.and_two_pow_sub_one_eq_mod, show (8 : UInt16).toNat % 16 = 8 from rfl]
  omega

/-- The upper byte of an offset has the three bits free. -/
theorem offset_high {v : UInt16} (h : v < 8192) :
    (v >>> 8).toUInt8 &&& (0x1f : UInt8) = (v >>> 8).toUInt8 := by
  rw [← UInt8.toNat_inj]
  have hv : v.toNat < 8192 := h
  simp only [UInt8.toNat_and, UInt16.toNat_toUInt8, UInt16.toNat_shiftRight, Nat.shiftRight_eq_div_pow]
  rw [show (0x1f : UInt8).toNat = 2 ^ 5 - 1 from rfl, Nat.and_two_pow_sub_one_eq_mod,
    show (8 : UInt16).toNat % 16 = 8 from rfl]
  omega

theorem offset_bits (x : UInt8) {v : UInt16} (h : v < 8192) :
    ((x &&& (0xe0 : UInt8)) ||| (v >>> 8).toUInt8) &&& ~~~(0x1f : UInt8) = x &&& ~~~(0x1f : UInt8) := by
  rw [← offset_high h]
  refine byte_ext fun i hi => ?_
  interval_cases i <;> simp

theorem offset_stored (x : UInt8) {v : UInt16} (h : v < 8192) :
    ((x &&& (0xe0 : UInt8)) ||| (v >>> 8).toUInt8) &&& (0x1f : UInt8) = (v >>> 8).toUInt8 := by
  rw [← offset_high h]
  refine byte_ext fun i hi => ?_
  interval_cases i <;> simp

theorem offset_eq {v : UInt16} (h : v < 8192) : v &&& (0x1fff : UInt16) = v := by
  rw [← UInt16.toNat_inj, UInt16.toNat_and, show (0x1fff : UInt16).toNat = 2 ^ 13 - 1 from rfl,
    Nat.and_two_pow_sub_one_eq_mod]
  exact Nat.mod_eq_of_lt h

/-- The flag that is set is that of the other name. -/
theorem flag_stored (x : UInt8) (df : Bool) :
    (((x &&& ~~~(0x40 : UInt8)) ||| if df then 0x40 else 0x00) &&& (0x40 : UInt8) != 0) = df ∧
      (((x &&& ~~~(0x20 : UInt8)) ||| if df then 0x20 else 0x00) &&& (0x20 : UInt8) != 0) = df := by
  revert x
  cases df <;> exact forall_byte (by decide +kernel)

theorem flag_bits (x : UInt8) (df : Bool) :
    ((x &&& ~~~(0x40 : UInt8)) ||| if df then 0x40 else 0x00) &&& ~~~(0x40 : UInt8) =
        x &&& ~~~(0x40 : UInt8) ∧
      ((x &&& ~~~(0x20 : UInt8)) ||| if df then 0x20 else 0x00) &&& ~~~(0x20 : UInt8) =
        x &&& ~~~(0x20 : UInt8) := by
  revert x
  cases df <;> exact forall_byte (by decide +kernel)

theorem reads_mask : ∀ g, Reads (mask g) (get g)
  | .version =>
    .bits (f := fun x => FieldValue.number ((x >>> 4) &&& (0x0f : UInt8)).toNat) 0 <|
      forall_byte (by decide +kernel)
  | .headerLength =>
    .bits (f := fun x => FieldValue.number ((x &&& (0x0f : UInt8)).toUInt16 * 4).toNat) 0 <|
      forall_byte (by decide +kernel)
  | .typeOfService => reads_byteField rfl
  | .totalLength => reads_wordField rfl rfl
  | .identification => reads_wordField rfl rfl
  | .dontFragment =>
    .bits (f := fun x => FieldValue.flag (x &&& (0x40 : UInt8) != 0)) 6 <| forall_byte (by decide +kernel)
  | .moreFragments =>
    .bits (f := fun x => FieldValue.flag (x &&& (0x20 : UInt8) != 0)) 6 <| forall_byte (by decide +kernel)
  | .fragmentOffset => by
    intro d d' h
    have hlow := h.byte 7 rfl
    have hhigh : d 6 &&& (0x1f : UInt8) = d' 6 &&& (0x1f : UInt8) := h 6
    show FieldValue.number (decodeAt d 6 7 &&& 0x1fff).toNat = .number (decodeAt d' 6 7 &&& 0x1fff).toNat
    unfold decodeAt
    rw [fragmentOffset_bits, fragmentOffset_bits (d' 6), hlow, hhigh]
  | .timeToLive => reads_byteField rfl
  | .protocol => reads_byteField rfl
  | .headerChecksum => reads_wordField rfl rfl
  | .sourceAddress => reads_addressV4
  | .destinationAddress => reads_addressV4

theorem writes_mask : ∀ s, Admissible s → Writes (mask (writes s)) (run s)
  | .version version, _ => .setByte 0 fun d => version_bits version (d 0)
  | .headerLength headerLength, _ => .setByte 0 fun d => headerLength_bits headerLength (d 0)
  | .typeOfService v, _ => .byte 1 (fun _ => v) rfl
  | .totalLength v, _ => writes_encodeAt v rfl rfl
  | .identification v, _ => writes_encodeAt v rfl rfl
  | .moreFragments df, _ => .setByte 6 fun d => (flag_bits (d 6) df).1
  | .dontFragment df, _ => .setByte 6 fun d => (flag_bits (d 6) df).2
  | .fragmentOffset v, h => by
    have hhigh : Writes (mask .fragmentOffset) fun d : Bytes 60 =>
        setByte d 6 ((d 6 &&& (0xe0 : UInt8)) ||| (v >>> 8).toUInt8) :=
      .setByte 6 fun d => offset_bits (d 6) h
    have hlow : Writes (mask .fragmentOffset) fun d : Bytes 60 => setByte d 7 (v &&& 0xff).toUInt8 :=
      .byte 7 (fun _ => (v &&& 0xff).toUInt8) rfl
    exact hhigh.comp hlow
  | .timeToLive v, _ => .byte 8 (fun _ => v) rfl
  | .protocol v, _ => .byte 9 (fun _ => v) rfl
  | .headerChecksum v, _ => writes_encodeAt v rfl rfl
  | .sourceAddress _, _ => writes_memcpy _
  | .destinationAddress _, _ => writes_memcpy _

theorem get_run : ∀ s d, Admissible s → get (writes s) (run s d) = value s
  | .version version, d, h => by
    show FieldValue.number ((setByte d 0 _ 0 >>> 4) &&& (0x0f : UInt8)).toNat = .number version.toNat
    rw [setByte_self, version_stored (d 0) h]
  | .headerLength headerLength, d, h => by
    show FieldValue.number ((setByte d 0 _ 0 &&& (0x0f : UInt8)).toUInt16 * 4).toNat =
      .number headerLength.toNat
    rw [setByte_self, headerLength_stored (d 0) h]
  | .typeOfService v, d, _ => byteField_setByte d v
  | .totalLength v, d, _ => wordField_encodeAt d (by decide) v
  | .identification v, d, _ => wordField_encodeAt d (by decide) v
  | .moreFragments df, d, _ => by
    show FieldValue.flag (setByte d 6 _ 6 &&& (0x40 : UInt8) != 0) = .flag df
    rw [setByte_self, (flag_stored (d 6) df).1]
  | .dontFragment df, d, _ => by
    show FieldValue.flag (setByte d 6 _ 6 &&& (0x20 : UInt8) != 0) = .flag df
    rw [setByte_self, (flag_stored (d 6) df).2]
  | .fragmentOffset v, d, h => by
    show FieldValue.number (decodeAt (setByte (setByte d 6 _) 7 _) 6 7 &&& 0x1fff).toNat = .number v.toNat
    unfold decodeAt
    rw [setByte_self, setByte_of_ne (by decide), setByte_self, fragmentOffset_bits,
      offset_stored (d 6) h, decode_encode, offset_eq h]
  | .timeToLive v, d, _ => byteField_setByte d v
  | .protocol v, d, _ => byteField_setByte d v
  | .headerChecksum v, d, _ => wordField_encodeAt d (by decide) v
  | .sourceAddress a, d, _ => addressV4_memcpy d a
  | .destinationAddress a, d, _ => addressV4_memcpy d a

def layout : HeaderLayout format where
  mask := mask
  writes := writes
  stored := value
  reads_mask := reads_mask
  writes_mask := writes_mask
  get_run := get_run
  disjoint := by
    intro g g' h
    cases g <;> cases g' <;> first | exact absurd rfl h | decide
  get_field := by
    rintro g g' rfl
    rfl

end IPv4Data

/-! ## `IPv6Header` -/

namespace IPv6Data

inductive Getter where
  | version | trafficClass | flowLabel | payloadLength | nextHeader | hopLimit | sourceAddress
  | destinationAddress
deriving DecidableEq

inductive Setter where
  | version (version : UInt8)
  | trafficClass (trafficClass : UInt8)
  | flowLabel (flowLabel : UInt32)
  | payloadLength (payloadLength : UInt16)
  | nextHeader (nextHeader : UInt8)
  | hopLimit (hopLimit : UInt8)
  | sourceAddress (value : BitVec 128) (scopeID : UInt32)
  | destinationAddress (value : BitVec 128) (scopeID : UInt32)

def get : Getter → Bytes 40 → FieldValue
  | .version, d => .number ((d 0 >>> 4) &&& (0x0f : UInt8)).toNat
  | .trafficClass, d =>
    .number (((d 0 &&& (0x0f : UInt8)) <<< 4) ||| ((d 1 >>> 4) &&& (0x0f : UInt8))).toNat
  | .flowLabel, d =>
    .number ((((d 1).toUInt32 &&& 0x0f) <<< 16) ||| ((d 2).toUInt32 <<< 8) ||| (d 3).toUInt32).toNat
  | .payloadLength, d => wordField d 4 5
  | .nextHeader, d => byteField d 6
  | .hopLimit, d => byteField d 7
  | .sourceAddress, d => addressV6 d 8 (by decide)
  | .destinationAddress, d => addressV6 d 24 (by decide)

def run : Setter → Bytes 40 → Bytes 40
  | .version version, d => setByte d 0 (((version &&& 0x0f) <<< 4) ||| (d 0 &&& (0x0f : UInt8)))
  | .trafficClass trafficClass, d =>
    let d := setByte d 0 ((d 0 &&& (0xf0 : UInt8)) ||| ((trafficClass &&& 0xf0) >>> 4))
    setByte d 1 ((d 1 &&& (0x0f : UInt8)) ||| ((trafficClass &&& 0x0f) <<< 4))
  | .flowLabel flowLabel, d =>
    let d := setByte d 1 ((d 1 &&& (0xf0 : UInt8)) ||| ((flowLabel &&& 0x000f0000) >>> 16).toUInt8)
    let d := setByte d 2 ((flowLabel &&& 0x0000ff00) >>> 8).toUInt8
    setByte d 3 (flowLabel &&& 0x000000ff).toUInt8
  | .payloadLength payloadLength, d => encodeAt d 4 5 payloadLength
  | .nextHeader nextHeader, d => setByte d 6 nextHeader
  | .hopLimit hopLimit, d => setByte d 7 hopLimit
  | .sourceAddress value _, d => memcpy d 8 16 (toBytes 16 value.toNat)
  | .destinationAddress value _, d => memcpy d 24 16 (toBytes 16 value.toNat)

def target : Setter → Getter
  | .version _ => .version
  | .trafficClass _ => .trafficClass
  | .flowLabel _ => .flowLabel
  | .payloadLength _ => .payloadLength
  | .nextHeader _ => .nextHeader
  | .hopLimit _ => .hopLimit
  | .sourceAddress _ _ => .sourceAddress
  | .destinationAddress _ _ => .destinationAddress

def value : Setter → FieldValue
  | .version v | .trafficClass v | .nextHeader v | .hopLimit v => .number v.toNat
  | .flowLabel v => .number v.toNat
  | .payloadLength v => .number v.toNat
  | .sourceAddress value scopeID | .destinationAddress value scopeID => .address (.v6 value scopeID)

def Admissible : Setter → Prop
  | .version version => version < 16
  | .flowLabel flowLabel => flowLabel < 0x100000
  | _ => True

/-- `IPv6Header` -/
def format : HeaderFormat := ⟨40, Getter, Setter, get, run, target, value, Admissible, id⟩

def mask : Getter → List UInt8
  | .version => [0xf0]
  | .trafficClass => [0x0f, 0xf0]
  | .flowLabel => [0, 0x0f, 0xff, 0xff]
  | .payloadLength => wholeBytes 4 2
  | .nextHeader => wholeBytes 6 1
  | .hopLimit => wholeBytes 7 1
  | .sourceAddress => wholeBytes 8 16
  | .destinationAddress => wholeBytes 24 16

/-- An address is stored without its scope identifier. -/
def stored : Setter → FieldValue
  | .sourceAddress value _ | .destinationAddress value _ => .address (.v6 value 0)
  | s => value s

theorem version_bits (v x : UInt8) :
    (((v &&& 0x0f) <<< 4) ||| (x &&& (0x0f : UInt8))) &&& ~~~(0xf0 : UInt8) = x &&& ~~~(0xf0 : UInt8) := by
  refine byte_ext fun i hi => ?_
  interval_cases i <;> simp

theorem version_stored (x : UInt8) {v : UInt8} (h : v < 16) :
    ((((v &&& 0x0f) <<< 4) ||| (x &&& (0x0f : UInt8))) >>> 4) &&& (0x0f : UInt8) = v := by
  have hv : ∀ v : UInt8, v < 16 → v &&& (0x0f : UInt8) = v := forall_byte (by decide +kernel)
  rw [hv v h, ← hv v h]
  refine byte_ext fun i hi => ?_
  interval_cases i <;> simp

theorem trafficClass_bits (v x : UInt8) :
    ((x &&& (0xf0 : UInt8)) ||| ((v &&& 0xf0) >>> 4)) &&& ~~~(0x0f : UInt8) = x &&& ~~~(0x0f : UInt8) ∧
      ((x &&& (0x0f : UInt8)) ||| ((v &&& 0x0f) <<< 4)) &&& ~~~(0xf0 : UInt8) = x &&& ~~~(0xf0 : UInt8) := by
  constructor
  · refine byte_ext fun i hi => ?_
    interval_cases i <;> simp
  · refine byte_ext fun i hi => ?_
    interval_cases i <;> simp

theorem trafficClass_stored (v x y : UInt8) :
    ((((x &&& (0xf0 : UInt8)) ||| ((v &&& 0xf0) >>> 4)) &&& (0x0f : UInt8)) <<< 4) |||
      ((((y &&& (0x0f : UInt8)) ||| ((v &&& 0x0f) <<< 4)) >>> 4) &&& (0x0f : UInt8)) = v := by
  refine byte_ext fun i hi => ?_
  interval_cases i <;> simp

theorem flowLabel_bits (v : UInt32) (x : UInt8) :
    ((x &&& (0xf0 : UInt8)) ||| ((v &&& 0x000f0000) >>> 16).toUInt8) &&& ~~~(0x0f : UInt8) =
      x &&& ~~~(0x0f : UInt8) := by
  refine byte_ext fun i hi => ?_
  interval_cases i <;> simp

theorem flowLabel_stored {v : UInt32} (h : v < 0x100000) (x : UInt8) :
    ((((x &&& (0xf0 : UInt8)) ||| ((v &&& 0x000f0000) >>> 16).toUInt8).toUInt32 &&& 0x0f) <<< 16) |||
      (((v &&& 0x0000ff00) >>> 8).toUInt8.toUInt32 <<< 8) ||| (v &&& 0x000000ff).toUInt8.toUInt32 = v := by
  have hv : v &&& 0xfffff = v := by
    rw [← UInt32.toNat_inj, UInt32.toNat_and, show (0xfffff : UInt32).toNat = 2 ^ 20 - 1 from rfl,
      Nat.and_two_pow_sub_one_eq_mod]
    exact Nat.mod_eq_of_lt h
  rw [← UInt32.toBitVec_inj]
  refine BitVec.eq_of_getLsbD_eq fun i hi => ?_
  rw [← hv]
  simp only [UInt32.toBitVec_or, UInt32.toBitVec_and, UInt32.toBitVec_shiftLeft,
    UInt8.toBitVec_toUInt32, UInt32.toBitVec_toUInt8, UInt32.toBitVec_shiftRight, UInt8.toBitVec_or,
    UInt8.toBitVec_and]
  interval_cases i <;> simp

theorem reads_mask : ∀ g, Reads (mask g) (get g)
  | .version =>
    .bits (f := fun x => FieldValue.number ((x >>> 4) &&& (0x0f : UInt8)).toNat) 0 <|
      forall_byte (by decide +kernel)
  | .trafficClass => by
    have hhigh : Reads (mask .trafficClass) fun d : Bytes 40 => (d 0 &&& (0x0f : UInt8)) <<< 4 :=
      .bits (f := fun x => (x &&& (0x0f : UInt8)) <<< 4) 0 <| forall_byte (by decide +kernel)
    have hlow : Reads (mask .trafficClass) fun d : Bytes 40 => (d 1 >>> 4) &&& (0x0f : UInt8) :=
      .bits (f := fun x => (x >>> 4) &&& (0x0f : UInt8)) 1 <| forall_byte (by decide +kernel)
    exact hhigh.map₂ (fun x y => FieldValue.number (x ||| y).toNat) hlow
  | .flowLabel => by
    have hhigh : Reads (mask .flowLabel) fun d : Bytes 40 => (d 1).toUInt32 &&& 0x0f :=
      .bits (f := fun x => x.toUInt32 &&& 0x0f) 1 <| forall_byte (by decide +kernel)
    have hlow : Reads (mask .flowLabel) fun d : Bytes 40 =>
        ((d 1).toUInt32 &&& 0x0f) <<< 16 ||| ((d 2).toUInt32 <<< 8) :=
      hhigh.map₂ (fun (x : UInt32) (y : UInt8) => x <<< 16 ||| (y.toUInt32 <<< 8)) (.byte 2 rfl)
    exact hlow.map₂ (fun x y => FieldValue.number (x ||| y.toUInt32).toNat) (.byte 3 rfl)
  | .payloadLength => reads_wordField rfl rfl
  | .nextHeader => reads_byteField rfl
  | .hopLimit => reads_byteField rfl
  | .sourceAddress => reads_addressV6
  | .destinationAddress => reads_addressV6

theorem writes_mask : ∀ s, Admissible s → Writes (mask (target s)) (run s)
  | .version version, _ => .setByte 0 fun d => version_bits version (d 0)
  | .trafficClass v, _ => by
    have hhigh : Writes (mask .trafficClass) fun d : Bytes 40 =>
        setByte d 0 ((d 0 &&& (0xf0 : UInt8)) ||| ((v &&& 0xf0) >>> 4)) :=
      .setByte 0 fun d => (trafficClass_bits v (d 0)).1
    have hlow : Writes (mask .trafficClass) fun d : Bytes 40 =>
        setByte d 1 ((d 1 &&& (0x0f : UInt8)) ||| ((v &&& 0x0f) <<< 4)) :=
      .setByte 1 fun d => (trafficClass_bits v (d 1)).2
    exact hhigh.comp hlow
  | .flowLabel v, _ => by
    have hhigh : Writes (mask .flowLabel) fun d : Bytes 40 =>
        setByte d 1 ((d 1 &&& (0xf0 : UInt8)) ||| ((v &&& 0x000f0000) >>> 16).toUInt8) :=
      .setByte 1 fun d => flowLabel_bits v (d 1)
    have hmiddle : Writes (mask .flowLabel) fun d : Bytes 40 =>
        setByte d 2 ((v &&& 0x0000ff00) >>> 8).toUInt8 := .byte 2 (fun _ => _) rfl
    have hlow : Writes (mask .flowLabel) fun d : Bytes 40 => setByte d 3 (v &&& 0x000000ff).toUInt8 :=
      .byte 3 (fun _ => _) rfl
    exact (hhigh.comp hmiddle).comp hlow
  | .payloadLength v, _ => writes_encodeAt v rfl rfl
  | .nextHeader v, _ => .byte 6 (fun _ => v) rfl
  | .hopLimit v, _ => .byte 7 (fun _ => v) rfl
  | .sourceAddress _ _, _ => writes_memcpy _
  | .destinationAddress _ _, _ => writes_memcpy _

theorem get_run : ∀ s d, Admissible s → get (target s) (run s d) = stored s
  | .version version, d, h => by
    show FieldValue.number ((setByte d 0 _ 0 >>> 4) &&& (0x0f : UInt8)).toNat = .number version.toNat
    rw [setByte_self, version_stored (d 0) h]
  | .trafficClass v, d, _ => by
    unfold get target run stored value
    simp only
    rw [setByte_self, setByte_of_ne (show (0 : Fin 40) ≠ 1 by decide), setByte_self,
      trafficClass_stored]
  | .flowLabel v, d, h => by
    unfold get target run stored value
    simp only
    rw [setByte_self, setByte_of_ne (show (2 : Fin 40) ≠ 3 by decide), setByte_self,
      setByte_of_ne (show (1 : Fin 40) ≠ 3 by decide), setByte_of_ne (show (1 : Fin 40) ≠ 2 by decide),
      setByte_self, flowLabel_stored h]
  | .payloadLength v, d, _ => wordField_encodeAt d (by decide) v
  | .nextHeader v, d, _ => byteField_setByte d v
  | .hopLimit v, d, _ => byteField_setByte d v
  | .sourceAddress a _, d, _ => addressV6_memcpy d a
  | .destinationAddress a _, d, _ => addressV6_memcpy d a

def layout : HeaderLayout format where
  mask := mask
  writes := target
  stored := stored
  reads_mask := reads_mask
  writes_mask := writes_mask
  get_run := get_run
  disjoint := by
    intro g g' h
    cases g <;> cases g' <;> first | exact absurd rfl h | decide
  get_field := by
    rintro g g' rfl
    rfl

end IPv6Data

/-! ## All headers -/

inductive HeaderClass where
  | ipv4Header | ipv6Header | udpHeader | icmpHeader | traceServiceHeader

namespace HeaderClass

def format : HeaderClass → HeaderFormat
  | ipv4Header => IPv4Data.format
  | ipv6Header => IPv6Data.format
  | udpHeader => UDPData.format
  | icmpHeader => ICMPData.format
  | traceServiceHeader => TraceServiceData.format

end HeaderClass

/-- Both flags have the value that is set. -/
def IPv4Data.Undisturbed (d : Bytes 60) : IPv4Data.Setter → Prop
  | .moreFragments df | .dontFragment df =>
    IPv4Data.get .moreFragments d = .flag df ∧ IPv4Data.get .dontFragment d = .flag df
  | _ => True

/-- The address has no scope identifier. -/
def IPv6Data.Undisturbed : IPv6Data.Setter → Prop
  | .sourceAddress _ scopeID | .destinationAddress _ scopeID => scopeID = 0
  | _ => True

/-- What is lost by a setter is the same as what it sets. -/
def HeaderClass.Undisturbed : (h : HeaderClass) → Bytes h.format.size → h.format.Setter → Prop
  | .ipv4Header => IPv4Data.Undisturbed
  | .ipv6Header => fun _ => IPv6Data.Undisturbed
  | _ => fun _ _ => True

theorem IPv4Data.independent_undisturbed (d : Bytes 60) (s : IPv4Data.Setter)
    (hs : IPv4Data.format.Admissible s) :
    Independent IPv4Data.format d s ↔ IPv4Data.Undisturbed d s := by
  cases s with
  | moreFragments df => exact IPv4Data.layout.independent_iff_unchanged hs (fun h => by cases h) d
  | dontFragment df =>
    exact (IPv4Data.layout.independent_iff_unchanged hs (fun h => by cases h) d).trans and_comm
  | _ => exact iff_of_true ((IPv4Data.layout.independent_iff_stored hs rfl d).mpr rfl) trivial

theorem IPv6Data.independent_undisturbed (d : Bytes 40) (s : IPv6Data.Setter)
    (hs : IPv6Data.format.Admissible s) :
    Independent IPv6Data.format d s ↔ IPv6Data.Undisturbed s := by
  have hscope : ∀ (value : BitVec 128) (scopeID : UInt32),
      FieldValue.address (.v6 value 0) = .address (.v6 value scopeID) ↔ scopeID = 0 := by
    intro value scopeID
    simp [eq_comm]
  rw [IPv6Data.layout.independent_iff_stored hs rfl d]
  cases s with
  | sourceAddress value scopeID => exact hscope value scopeID
  | destinationAddress value scopeID => exact hscope value scopeID
  | _ => exact iff_of_true rfl trivial

/-- **Independence of the fields.** -/
theorem independent_iff (h : HeaderClass) (d : Bytes h.format.size) (s : h.format.Setter)
    (hs : h.format.Admissible s) : Independent h.format d s ↔ h.Undisturbed d s := by
  cases h with
  | ipv4Header => exact IPv4Data.independent_undisturbed d s hs
  | ipv6Header => exact IPv6Data.independent_undisturbed d s hs
  | udpHeader => exact iff_of_true ((UDPData.layout.independent_iff_stored hs rfl d).mpr rfl) trivial
  | icmpHeader => exact iff_of_true ((ICMPData.layout.independent_iff_stored hs rfl d).mpr rfl) trivial
  | traceServiceHeader =>
    exact iff_of_true ((TraceServiceData.layout.independent_iff_stored hs rfl d).mpr rfl) trivial

theorem independent_fragmentOffset :
    Independent IPv4Data.format (fun _ => 0xff) (.fragmentOffset 8191) :=
  (independent_iff .ipv4Header _ (.fragmentOffset 8191) (show (8191 : UInt16) < 8192 by decide)).mpr
    trivial

/-- The setter of one flag sets the other one. -/
theorem independent_moreFragments :
    ¬Independent IPv4Data.format (fun _ => 0) (.moreFragments true) := by
  intro h
  exact absurd (h.same .moreFragments rfl) (by decide)


end HiPerConTracer.Wire
