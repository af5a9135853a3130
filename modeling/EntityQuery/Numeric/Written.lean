import EntityQuery.Numeric.Shortest

/-! Writing doubles as text: in plain positional digits, and as JSON writes numbers. -/

namespace EntityQuery.Numeric

def zeros (n : Nat) : String :=
  String.ofList (List.replicate n '0')

def Decimal.positional (d : Decimal) : String :=
  let digits := Nat.repr d.digits
  if 0 ≤ d.exponent then digits ++ zeros d.exponent.toNat
  else
    let places := (-d.exponent).toNat
    let padded := (zeros (places + 1 - digits.length) ++ digits).toList
    let whole := padded.length - places
    String.ofList (padded.take whole) ++ "." ++ String.ofList (padded.drop whole)

namespace Binary64

def signText (x : Binary64) : String :=
  if x.isNegative then "-" else ""

def display (x : Binary64) : String :=
  if x.isNaN then "NaN"
  else if !x.isFinite then x.signText ++ "inf"
  else x.signText ++ (shortest .up x.magnitude).positional

def scientific (d : Decimal) : String :=
  let digits := (Nat.repr d.digits).toList
  let exponent := d.exponent + digits.length - 1
  let mark := if exponent < 0 then "e-" else "e+"
  let points := if digits.length ≤ 1 then "" else "."
  String.ofList (digits.take 1) ++ points ++ String.ofList (digits.drop 1) ++ mark
    ++ Nat.repr exponent.natAbs

/-- The shortest digits that read back, with a point or an exponent: the point lies within sixteen
places after the first digit or within five before it, else an exponent is written. -/
def json (x : Binary64) : String :=
  let d := shortest .even x.magnitude
  let point : Int := decimalLength d.digits + d.exponent
  x.signText ++
    if x.magnitude = 0 then "0.0"
    else if 0 ≤ d.exponent ∧ point ≤ 16 then d.positional ++ ".0"
    else if -5 < point ∧ point ≤ 16 then d.positional
    else scientific d

end Binary64

end EntityQuery.Numeric
