/-!
# Hashes

**Hash.** The 256 bits that name a block or a transaction. Hashes are compared, looked up and
written; nothing is computed from them.
-/

namespace FeeMarket

/-- The 256 bits that name a block or a transaction. -/
structure Hash where
  bits : BitVec 256
deriving DecidableEq

namespace Hash

/-- The hash whose bits, read as a number, are `n`. -/
def ofNat (n : Nat) : Hash := ⟨BitVec.ofNat 256 n⟩

instance : Zero Hash := ⟨ofNat 0⟩

instance : Inhabited Hash := ⟨0⟩

end Hash

end FeeMarket
