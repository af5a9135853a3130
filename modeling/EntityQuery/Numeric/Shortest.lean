import EntityQuery.Numeric.Binary64

/-!
The shortest decimal that reads back as a given double: the fewest digits for which some decimal
rounds to it, and of those decimals the nearest.
-/

namespace EntityQuery.Numeric

structure Decimal where
  digits : Nat
  exponent : Int
  deriving DecidableEq, Repr

inductive Tie where
  | up
  | even
  deriving DecidableEq, Repr

def decimalLength (n : Nat) : Nat :=
  (Nat.toDigits 10 n).length

namespace Binary64

/-- Every double is a whole multiple of `10 ^ (-decimalScale)` to more than seventeen digits. -/
def decimalScale : Nat := 360

/-- Whether a number, given in half quanta over `scale`, is nearer to this magnitude than to any
other. A number midway between two magnitudes goes to the even one. -/
def isNearest (magnitude halfQuanta scale : Nat) : Bool :=
  let value := binary64.quanta magnitude
  let low := (binary64.quanta (magnitude - 1) + value) * scale
  let high := (value + binary64.quanta (magnitude + 1)) * scale
  if magnitude % 2 = 0 then low ≤ halfQuanta && halfQuanta ≤ high
  else low < halfQuanta && halfQuanta < high

def decimal? (tie : Tie) (magnitude count : Nat) : Option Decimal :=
  let scale := Nat.pow 10 decimalScale
  let value := binary64.quanta magnitude * scale
  let places := decimalLength (value / Nat.pow 2 binary64.quantum) - count
  let step := Nat.pow 10 places * Nat.pow 2 binary64.quantum
  let below := value / step
  let readsBack (n : Nat) : Bool := isNearest magnitude (2 * n * step) scale
  let twice := 2 * (value % step)
  let preferBelow : Bool := twice < step || (twice == step && tie == .even && below % 2 == 0)
  let exponent : Int := (places : Int) - decimalScale
  if preferBelow && readsBack below then some ⟨below, exponent⟩
  else if readsBack (below + 1) then
    some (if below + 1 = Nat.pow 10 count then ⟨1, exponent + count⟩ else ⟨below + 1, exponent⟩)
  else if readsBack below then some ⟨below, exponent⟩
  else none

def shortest (tie : Tie) (magnitude : Nat) : Decimal :=
  if magnitude = 0 then ⟨0, 0⟩
  else ((List.range' 1 17).findSome? (decimal? tie magnitude)).getD ⟨0, 0⟩

end Binary64

end EntityQuery.Numeric
