import EntityQuery.Numeric.Written

/-! Numbers of three kinds, compared and converted across the kinds. -/

namespace EntityQuery

open EntityQuery.Numeric

inductive Number where
  | signed (n : Int64)
  | unsigned (n : UInt64)
  | float (x : Binary64)
  deriving DecidableEq, Repr

namespace Number

def toBinary64 : Number → Binary64
  | signed n => .ofInt n.toInt
  | unsigned n => .ofInt n.toNat
  | float x => x

/-- The signed integer of the same value. The double `2 ^ 63` passes for the greatest one. -/
def toInt64? : Number → Option Int64
  | signed n => some n
  | unsigned n => if (n.toNat : Int) ≤ Int64.maxValue.toInt then some (Int64.ofNat n.toNat) else none
  | float x => x.integer?.bind fun n =>
    if Int64.minValue.toInt ≤ n ∧ n ≤ Int64.maxValue.toInt + 1 then
      some (if n ≤ Int64.maxValue.toInt then Int64.ofInt n else Int64.maxValue)
    else none

/-- The unsigned integer of the same value. The double `2 ^ 64` passes for the greatest one. -/
def toUInt64? : Number → Option UInt64
  | signed n => if 0 ≤ n.toInt then some (UInt64.ofNat n.toInt.toNat) else none
  | unsigned n => some n
  | float x => x.integer?.bind fun n =>
    if 0 ≤ n ∧ n ≤ UInt64.size then
      some (UInt64.ofNat (if n < UInt64.size then n.toNat else UInt64.size - 1))
    else none

/-- Integers compare exactly. Where a double takes part, both sides are compared as doubles, and
what is not a number compares with nothing. -/
def compare? : Number → Number → Option Ordering
  | signed a, signed b => some (compare a.toInt b.toInt)
  | unsigned a, unsigned b => some (compare a.toNat b.toNat)
  | signed a, unsigned b => some (compare a.toInt (b.toNat : Int))
  | unsigned a, signed b => some (compare (a.toNat : Int) b.toInt)
  | a, b => a.toBinary64.compare? b.toBinary64

def same : Number → Number → Bool
  | signed a, signed b => a == b
  | unsigned a, unsigned b => a == b
  | float a, float b => a.compare? b == some .eq
  | _, _ => false

def display : Number → String
  | signed n => toString n.toInt
  | unsigned n => Nat.repr n.toNat
  | float x => x.display

end Number

end EntityQuery
