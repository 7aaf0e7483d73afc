import HiPerConTracer.Wire.UDPChecksum

/-!
# Reading headers (`operator>>` in `icmpheader.h`, `ipv4header.h`, `ipv6header.h`, `udpheader.h`,
`traceserviceheader.h`)

A stream is the rest of a message; when it has failed, nothing more is read from it.
-/

namespace HiPerConTracer.Wire

abbrev InputStream (α : Type) : Type := StateT (List UInt8) Option α

/-- `is.read(…, n)`. -/
def read (n : Nat) : InputStream (List UInt8) := fun s =>
  if n ≤ s.length then some (s.take n, s.drop n) else none

/-- Byte `i` of a header. -/
def byte (data : List UInt8) (i : Nat) : UInt8 := data.getD i 0

def decode (data : List UInt8) (a b : Nat) : UInt16 :=
  ((byte data a).toUInt16 <<< 8) + (byte data b).toUInt16

/-- The number in the bytes from `i` on. -/
def decodeBytes (data : List UInt8) (i n : Nat) : Nat :=
  ((data.drop i).take n).foldl (fun a b => 256 * a + b.toNat) 0

def ICMPHeader.read : InputStream ICMPHeader := do
  let data ← Wire.read 8
  return { type := byte data 0, code := byte data 1, checksum := decode data 2 3
           identifier := decode data 4 5, seqNumber := decode data 6 7 }

/-- The default size is read. -/
def TraceServiceHeader.read : InputStream TraceServiceHeader := do
  let data ← Wire.read minTraceServiceHeaderSize
  return { magicNumber := UInt32.ofNat (decodeBytes data 0 4), sendTTL := byte data 4
           round := byte data 5, checksumTweak := decode data 6 7
           sendTimeStamp := UInt64.ofNat (decodeBytes data 8 8), padding := []
           size_le := by decide }

/-- A length below 16 is not accepted. -/
def UDPHeader.read : InputStream UDPHeader := do
  let data ← Wire.read 8
  let header : UDPHeader := ⟨decode data 0 1, decode data 2 3, decode data 4 5, decode data 6 7⟩
  if header.length < 16 then failure
  return header

/-- The options are skipped. -/
def IPv4Header.read : InputStream IPv4Header := do
  let data ← Wire.read 20
  let header : IPv4Header :=
    { version := (byte data 0 >>> 4) &&& 0x0f, headerLength := (byte data 0 &&& 0x0f) * 4
      typeOfService := byte data 1, totalLength := decode data 2 3
      identification := decode data 4 5, fragmentOffset := decode data 6 7 &&& 0x1fff
      timeToLive := byte data 8, protocol := byte data 9, headerChecksum := decode data 10 11
      sourceAddress := UInt32.ofNat (decodeBytes data 12 4)
      destinationAddress := UInt32.ofNat (decodeBytes data 16 4) }
  if header.version ≠ 4 then failure
  if header.headerLength < 20 then failure
  let _ ← Wire.read (header.headerLength.toNat - 20)
  return header

def IPv6Header.read : InputStream IPv6Header := do
  let data ← Wire.read 40
  let header : IPv6Header :=
    { version := (byte data 0 >>> 4) &&& 0x0f
      trafficClass := ((byte data 0 &&& 0x0f) <<< 4) ||| ((byte data 1 >>> 4) &&& 0x0f)
      flowLabel := UInt32.ofNat (decodeBytes data 1 3 % 2 ^ 20), payloadLength := decode data 4 5
      nextHeader := byte data 6, hopLimit := byte data 7
      sourceAddress := BitVec.ofNat 128 (decodeBytes data 8 16)
      destinationAddress := BitVec.ofNat 128 (decodeBytes data 24 16) }
  if header.version ≠ 6 then failure
  return header

/-! ## What is read -/

namespace InputStream
variable {α β : Type}

/-- Everything that is read from a stream has property `P`. -/
def Ensures (m : InputStream α) (P : α → Prop) : Prop := ∀ s a s', m s = some (a, s') → P a

namespace Ensures
variable {P : α → Prop} {Q : β → Prop}

theorem pure {a : α} (h : P a) : Ensures (Pure.pure a) P := by
  intro s b s' hread
  cases hread
  exact h

theorem failure : Ensures (failure : InputStream α) P := by
  intro s a s' hread
  cases hread

theorem bind {m : InputStream α} {f : α → InputStream β} (h : ∀ a, Ensures (f a) Q) :
    Ensures (m >>= f) Q := by
  intro s b s' hread
  obtain ⟨⟨a, s₁⟩, -, hf⟩ := Option.bind_eq_some_iff.mp hread
  exact h a s₁ b s' hf

theorem ite {c : Prop} [Decidable c] {m m' : InputStream α} (hm : c → Ensures m P)
    (hm' : ¬ c → Ensures m' P) : Ensures (if c then m else m') P := by
  by_cases hc : c
  · rw [if_pos hc]
    exact hm hc
  · rw [if_neg hc]
    exact hm' hc

theorem run {m : InputStream α} (h : Ensures m P) {s : List UInt8} {a : α}
    (hrun : m.run' s = some a) : P a := by
  obtain ⟨⟨a', s'⟩, hread, rfl⟩ := Option.map_eq_some_iff.mp hrun
  exact h s a' s' hread

end Ensures

end InputStream

end HiPerConTracer.Wire
