import Mathlib.Data.Prod.Lex
import Mathlib.Order.Lex

/-!
# Addresses and destinations (`destinationinfo.cc`)

Addresses are those of `boost::asio::ip`, with their order: IPv4 before IPv6, then by value and
scope identifier.  Destinations are compared by address and traffic class.
-/

namespace HiPerConTracer.Net

inductive Address where
  | v4 (value : UInt32)
  | v6 (value : BitVec 128) (scopeID : UInt32)
deriving Repr

namespace Address

def key : Address → ℕ ×ₗ ℕ ×ₗ ℕ
  | v4 value => toLex (0, toLex (value.toNat, 0))
  | v6 value scopeID => toLex (1, toLex (value.toNat, scopeID.toNat))

theorem key_injective : Function.Injective key := by
  intro a b h
  cases a with
  | v4 value =>
    cases b with
    | v4 value' =>
      simp only [key, EmbeddingLike.apply_eq_iff_eq, Prod.mk.injEq, true_and, and_true,
        UInt32.toNat_inj] at h
      rw [h]
    | v6 value' scopeID' => simp [key] at h
  | v6 value scopeID =>
    cases b with
    | v4 value' => simp [key] at h
    | v6 value' scopeID' =>
      simp only [key, EmbeddingLike.apply_eq_iff_eq, Prod.mk.injEq, true_and, UInt32.toNat_inj,
        BitVec.toNat_inj] at h
      rw [h.1, h.2]

instance : LinearOrder Address := LinearOrder.lift' key key_injective

def isV6 : Address → Bool
  | v4 _ => false
  | v6 _ _ => true

def isUnspecified : Address → Bool
  | v4 value => value == 0
  | v6 value _ => value == 0

/-- `dropScopeID`. -/
def dropScopeID : Address → Address
  | v4 value => v4 value
  | v6 value _ => v6 value 0

theorem dropScopeID_dropScopeID (a : Address) : a.dropScopeID.dropScopeID = a.dropScopeID := by
  cases a <;> rfl

end Address

/-- `DestinationInfo`; the identifier takes part in no comparison and is left out. -/
structure DestinationInfo where
  address : Address
  trafficClass : UInt8
deriving Repr

namespace DestinationInfo

def key (d : DestinationInfo) : Address ×ₗ ℕ := toLex (d.address, d.trafficClass.toNat)

theorem key_injective : Function.Injective key := by
  intro a b h
  simp only [key, EmbeddingLike.apply_eq_iff_eq, Prod.mk.injEq, UInt8.toNat_inj] at h
  cases a
  cases b
  simp only [mk.injEq]
  exact h

instance : LinearOrder DestinationInfo := LinearOrder.lift' key key_injective

end DestinationInfo

end HiPerConTracer.Net
