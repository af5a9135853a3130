import EntityQuery.Numeric.Binary64

/-! Single-precision numbers, and the passage from them to doubles and back. -/

namespace EntityQuery.Numeric

structure Binary32 where
  bits : UInt32
  deriving DecidableEq, Repr

namespace Binary32

def signBit : Nat := 0x80000000

def isNegative (x : Binary32) : Bool :=
  signBit ≤ x.bits.toNat

def magnitude (x : Binary32) : Nat :=
  x.bits.toNat % signBit

def isNaN (x : Binary32) : Bool :=
  binary32.infinity < x.magnitude

def ofMagnitude (negative : Bool) (magnitude : Nat) : Binary32 :=
  ⟨UInt32.ofNat (magnitude + if negative then signBit else 0)⟩

def toBinary64 (x : Binary32) : Binary64 :=
  .ofMagnitude x.isNegative (binary32.convert binary64 x.magnitude)

end Binary32

namespace Binary64

def toBinary32 (x : Binary64) : Binary32 :=
  .ofMagnitude x.isNegative (binary64.convert binary32 x.magnitude)

end Binary64

end EntityQuery.Numeric
