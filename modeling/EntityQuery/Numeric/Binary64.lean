import EntityQuery.Numeric.Rounding

/-!
Double-precision numbers, held as their bits so that every operation on them is arithmetic on
whole numbers.
-/

namespace EntityQuery.Numeric

/-- A sign bit above a magnitude; magnitudes above that of infinity are not numbers. -/
structure Binary64 where
  bits : UInt64
  deriving DecidableEq, Repr

namespace Binary64

def signBit : Nat := 0x8000000000000000

def isNegative (x : Binary64) : Bool :=
  signBit ≤ x.bits.toNat

def magnitude (x : Binary64) : Nat :=
  x.bits.toNat % signBit

def isNaN (x : Binary64) : Bool :=
  binary64.infinity < x.magnitude

def isFinite (x : Binary64) : Bool :=
  x.magnitude < binary64.infinity

def ofMagnitude (negative : Bool) (magnitude : Nat) : Binary64 :=
  ⟨UInt64.ofNat (magnitude + if negative then signBit else 0)⟩

def zero : Binary64 := ofMagnitude false 0

def nan (negative : Bool) : Binary64 :=
  ofMagnitude negative 0x7FF8000000000000

def infinity (negative : Bool) : Binary64 :=
  ofMagnitude negative binary64.infinity

/-- The absolute value of a finite number, in units of `2 ^ (-1074)`. -/
def quanta (x : Binary64) : Nat :=
  binary64.quanta x.magnitude

def rank (x : Binary64) : Int :=
  if x.isNegative then -(x.magnitude : Int) else x.magnitude

/-- The place of a bit pattern in the total order: negative zero lies below zero, and the values
that are not numbers lie beyond the infinities. -/
def totalRank (x : Binary64) : Int :=
  if x.isNegative then -(x.magnitude : Int) - 1 else x.magnitude

def compare? (x y : Binary64) : Option Ordering :=
  if x.isNaN || y.isNaN then none else some (compare x.rank y.rank)

def totalCompare (x y : Binary64) : Ordering :=
  compare x.totalRank y.totalRank

def ofRatio (negative : Bool) (num den : Nat) : Binary64 :=
  ofMagnitude negative (binary64.round num den)

def ofInt (n : Int) : Binary64 :=
  ofRatio (n < 0) n.natAbs 1

def times (x y : Binary64) : Binary64 :=
  ofRatio false (x.quanta * y.quanta) (Nat.pow 2 (2 * binary64.quantum))

def dividedBy (x y : Binary64) : Binary64 :=
  ofRatio false x.quanta y.quanta

def neg (x : Binary64) : Binary64 :=
  ofMagnitude (!x.isNegative) x.magnitude

def integer? (x : Binary64) : Option Int :=
  if x.isFinite ∧ x.quanta % Nat.pow 2 binary64.quantum = 0 then
    let n : Int := (x.quanta / Nat.pow 2 binary64.quantum : Nat)
    some (if x.isNegative then -n else n)
  else none

end Binary64

end EntityQuery.Numeric
