import EntityQuery.Numeric.Shortest

/-! Reading numbers from text. Digits are the ASCII ones. -/

namespace EntityQuery.Numeric

def isDigit (c : Char) : Bool :=
  '0' ≤ c && c ≤ '9'

def digitValue (c : Char) : Nat :=
  c.toNat - '0'.toNat

def ofDigits (s : List Char) : Nat :=
  s.foldl (fun n c => 10 * n + digitValue c) 0

def readNat? (s : List Char) : Option Nat :=
  if s ≠ [] ∧ s.all isDigit then some (ofDigits s) else none

def readSign : List Char → Bool × List Char
  | '-' :: rest => (true, rest)
  | '+' :: rest => (false, rest)
  | s => (false, s)

def readInt? (s : List Char) : Option Int :=
  let (negative, digits) := readSign s
  (readNat? digits).map fun n => if negative then -(n : Int) else n

def readInt64? (s : List Char) : Option Int64 :=
  (readInt? s).bind fun n =>
    if Int64.minValue.toInt ≤ n ∧ n ≤ Int64.maxValue.toInt then some (Int64.ofInt n) else none

def readUInt64? (s : List Char) : Option UInt64 :=
  let digits := match s with
    | '+' :: rest => rest
    | s => s
  (readNat? digits).bind fun n => if n < UInt64.size then some (UInt64.ofNat n) else none

def readExponent? : List Char → Option Int
  | [] => some 0
  | c :: rest => if c = 'e' ∨ c = 'E' then readInt? rest else none

def readDecimal? (s : List Char) : Option Decimal :=
  let whole := s.takeWhile isDigit
  let rest := s.dropWhile isDigit
  let (places, rest) := match rest with
    | '.' :: rest => (rest.takeWhile isDigit, rest.dropWhile isDigit)
    | rest => ([], rest)
  if whole ++ places = [] then none
  else (readExponent? rest).map fun e => ⟨ofDigits (whole ++ places), e - places.length⟩

/-- The double nearest to a decimal. The powers beyond the bounds leave the range of doubles. -/
def Binary64.ofDecimal (negative : Bool) (d : Decimal) : Binary64 :=
  let top : Int := decimalLength d.digits + d.exponent
  if d.digits = 0 ∨ top < -400 then ofMagnitude negative 0
  else if 400 < top then infinity negative
  else ofRatio negative (d.digits * Nat.pow 10 d.exponent.toNat) (Nat.pow 10 (-d.exponent).toNat)

/-- A double: a decimal, `inf`, `infinity` or `nan` in any case, after an optional sign. -/
def readBinary64? (s : List Char) : Option Binary64 :=
  let (negative, rest) := readSign s
  let word := String.ofList (rest.map Char.toLower)
  if word = "inf" ∨ word = "infinity" then some (.infinity negative)
  else if word = "nan" then some (.nan negative)
  else (readDecimal? rest).map (Binary64.ofDecimal negative)

end EntityQuery.Numeric
