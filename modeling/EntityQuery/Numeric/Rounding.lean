/-!
Rounding a ratio to a binary floating-point format. A format counts its non-negative numbers in
ascending order: code 0 is zero, each next code the next larger number, and the last code infinity.
-/

namespace EntityQuery.Numeric

def roundHalfEven (num den : Nat) : Nat :=
  let whole := num / den
  let twice := 2 * (num % den)
  if twice < den ∨ (twice = den ∧ whole % 2 = 0) then whole else whole + 1

/-- The numbers are whole multiples of `2 ^ (-quantum)` with at most `precision` significant bits. -/
structure BinaryFormat where
  precision : Nat
  quantum : Nat
  infinity : Nat
  deriving DecidableEq, Repr

def binary64 : BinaryFormat := ⟨53, 1074, 0x7FF0000000000000⟩

def binary32 : BinaryFormat := ⟨24, 149, 0x7F800000⟩

def BinaryFormat.binade (f : BinaryFormat) : Nat :=
  Nat.pow 2 (f.precision - 1)

/-- The code of the number nearest to `num / den`; a tie goes to the even code. -/
def BinaryFormat.round (f : BinaryFormat) (num den : Nat) : Nat :=
  let scaled := num * Nat.pow 2 f.quantum
  let bits := if scaled / den = 0 then 0 else (scaled / den).log2 + 1
  let shift := bits - f.precision
  let code := roundHalfEven scaled (den * Nat.pow 2 shift) + shift * f.binade
  if code < f.infinity then code else f.infinity

def BinaryFormat.quanta (f : BinaryFormat) (code : Nat) : Nat :=
  let exponent := code / f.binade
  if exponent = 0 then code else (code % f.binade + f.binade) * Nat.pow 2 (exponent - 1)

def BinaryFormat.quiet (f : BinaryFormat) (payload : Nat) : Nat :=
  if payload < f.binade / 2 then payload + f.binade / 2 else payload

/-- The code in another format of the number nearest to that of a code. What is not a number has a payload
beyond infinity, of which the highest bits are kept; the conversion makes it quiet. -/
def BinaryFormat.convert (f g : BinaryFormat) (code : Nat) : Nat :=
  if f.infinity < code then g.infinity + g.quiet ((code - f.infinity) * g.binade / f.binade)
  else if code < f.infinity then g.round (f.quanta code) (Nat.pow 2 f.quantum)
  else g.infinity

end EntityQuery.Numeric
