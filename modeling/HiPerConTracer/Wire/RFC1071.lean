import HiPerConTracer.Wire.UDPChecksum

/-!
# The Internet checksum of any data (`internet16.cc`, `internet16.h`)

For data of up to 65535 bytes, the checksum is the complement of the one's complement sum of the words in
network byte order.  The 32-bit sum has no overflow, and is the same for pieces of the data:

    data.length ≤ 65535 →
      (finishInternet16 (computeInternet16 0 data)).toNat = 0xffff - onesComplementSum data
                                                                        (internet16_rfc1071)
-/

namespace HiPerConTracer.Wire

/-- Only the last piece may have a final byte of its own. -/
def EvenPieces (pieces : List (List UInt8)) : Prop := ∀ p ∈ pieces.dropLast, p.length % 2 = 0

theorem wordSum_lt {data : List UInt8} (h : data.length ≤ 65535) : wordSum data < 2 ^ 32 := by
  have hle := wordSum_le data
  have hwords : (data.length + 1) / 2 ≤ 32768 := by omega
  omega

theorem computeInternet16_zero {data : List UInt8} (h : data.length ≤ 65535) :
    (computeInternet16 0 data).toNat = wordSum data := by
  have hlt := wordSum_lt h
  rw [computeInternet16_toNat, show (0 : UInt32).toNat = 0 from rfl, Nat.zero_add,
    Nat.mod_eq_of_lt hlt]

/-- A piece of even length, and the data behind it. -/
theorem computeInternet16_append (sum : UInt32) {piece : List UInt8} (h : piece.length % 2 = 0)
    (data : List UInt8) :
    computeInternet16 (computeInternet16 sum piece) data = computeInternet16 sum (piece ++ data) := by
  apply UInt32.toNat_inj.mp
  simp only [computeInternet16_toNat, wordSum_append h]
  omega

theorem computeInternet16_pieces (sum : UInt32) {pieces : List (List UInt8)} (h : EvenPieces pieces) :
    pieces.foldl computeInternet16 sum = computeInternet16 sum pieces.flatten := by
  induction pieces generalizing sum with
  | nil => rfl
  | cons piece pieces ih =>
    rw [List.foldl_cons, List.flatten_cons]
    cases pieces with
    | nil => rw [List.foldl_nil, List.flatten_nil, List.append_nil]
    | cons next pieces =>
      unfold EvenPieces at h ih
      rw [List.dropLast_cons_cons, List.forall_mem_cons] at h
      rw [ih _ h.2, computeInternet16_append sum h.1]

/-- **RFC 1071.**  The checksum is the complement of the one's complement sum, the sum is the one of the
words without an overflow, also in pieces, and the checksum within the data verifies. -/
theorem internet16_rfc1071 (data : List UInt8) (h : data.length ≤ 65535) :
    (finishInternet16 (computeInternet16 0 data)).toNat = 0xffff - onesComplementSum data ∧
      (computeInternet16 0 data).toNat = wordSum data ∧
      (∀ pieces, pieces.flatten = data → EvenPieces pieces →
        pieces.foldl computeInternet16 0 = computeInternet16 0 data) ∧
      (∀ before rest, before.length % 2 = 0 → data = before ++ (encode 0 ++ rest) →
        onesComplementSum (before ++ (encode (finishInternet16 (computeInternet16 0 data)) ++ rest)) =
          0xffff) := by
  have hsum := computeInternet16_zero h
  refine ⟨?_, hsum, ?_, ?_⟩
  · rw [finishInternet16_toNat, hsum]
    exact OnesComplement.complement_eq_total (by decide) (networkWords_lt data) (wordSum_lt h)
      (wordSum_eq data) (sum_pos_iff data)
  · rintro pieces rfl hpieces
    exact computeInternet16_pieces 0 hpieces
  · rintro before rest heven rfl
    exact stored_verifies heven hsum

theorem internet16_rfc1071_example :
    (finishInternet16 (computeInternet16 0 [0x45, 0x00, 0x00])).toNat =
      0xffff - onesComplementSum [0x45, 0x00, 0x00] :=
  (internet16_rfc1071 [0x45, 0x00, 0x00] (by decide)).1

end HiPerConTracer.Wire
