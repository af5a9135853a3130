import EntityQuery.Json.Basic
import EntityQuery.Json.Outline
import EntityQuery.Numeric.Reading

/-!
JSON values from their text. Members are in the order of their keys, and of members with one key the
last one counts.
-/

namespace EntityQuery

open EntityQuery.Numeric

namespace Json

def leadingDigits (digits : List Char) : Nat × Nat :=
  digits.foldl (fun (n, left) c =>
    if left = 0 ∧ 10 * n + digitValue c < UInt64.size then (10 * n + digitValue c, 0)
    else (n, left + 1)) (0, 0)

def powerOfTen (n : Nat) : Binary64 :=
  .ofInt (Nat.pow 10 n)

/-- Multiplies by `10 ^ exponent`, rounding at every step. No power of ten beyond `10 ^ 308` is a
double, so that smaller numbers are reached in more than one step, and greater ones not at all. -/
def scaled? (x : Binary64) (exponent : Int) : Option Binary64 :=
  if 308 < exponent then if x.magnitude = 0 then some x else none
  else if 0 ≤ exponent then
    let y := x.times (powerOfTen exponent.toNat)
    if y.isFinite then some y else none
  else if -308 ≤ exponent then some (x.dividedBy (powerOfTen (-exponent).toNat))
  else if x.magnitude = 0 then some x
  else scaled? (x.dividedBy (powerOfTen 308)) (exponent + 308)
termination_by (-exponent).toNat

/-- The double of a number with a fraction or an exponent, or of a whole number beyond 64 bits: its
leading digits and the power of ten are rounded on their own, and then their product. -/
def float? (negative : Bool) (digits : List Char) (exponent : Int) : Option Number :=
  let (n, left) := leadingDigits digits
  (scaled? (.ofInt n) (exponent + left)).map fun x => .float (if negative then x.neg else x)

/-- A whole number of the first kind that holds it: signed, unsigned, or a double. There is no whole
number for a negative zero. -/
def wholeNumber? (negative : Bool) (digits : List Char) : Option Number :=
  let n := ofDigits digits
  if negative ∧ 0 < n ∧ -(n : Int) ≥ Int64.minValue.toInt then some (.signed (Int64.ofInt (-n)))
  else if negative ∧ n < UInt64.size then some (.float (Binary64.ofInt n).neg)
  else if !negative ∧ (n : Int) ≤ Int64.maxValue.toInt then some (.signed (Int64.ofNat n))
  else if !negative ∧ n < UInt64.size then some (.unsigned (UInt64.ofNat n))
  else float? negative digits 0

def numberOfLiteral? (literal : List Char) : Option Number :=
  let (negative, s) := readSign literal
  let whole := s.takeWhile isDigit
  match s.dropWhile isDigit with
  | [] => wholeNumber? negative whole
  | '.' :: rest =>
    let places := rest.takeWhile isDigit
    (readExponent? (rest.dropWhile isDigit)).bind fun e =>
      float? negative (whole ++ places) (e - places.length)
  | rest => (readExponent? rest).bind (float? negative whole)

def insertMember (key : String) (value : Json) : List (String × Json) → List (String × Json)
  | [] => [(key, value)]
  | (k, v) :: rest =>
    if key < k then (key, value) :: (k, v) :: rest
    else if key = k then (key, value) :: rest
    else (k, v) :: insertMember key value rest

mutual

def ofOutline? : JsonOutline → Option Json
  | .null => some .null
  | .bool b => some (.bool b)
  | .number literal => (numberOfLiteral? literal).map .number
  | .string s => s.map .string
  | .array items => (itemsOf? items).map .array
  | .object members => (membersOf? members).map fun members =>
      .object (members.foldl (fun sorted (key, value) => insertMember key value sorted) [])

def itemsOf? : List JsonOutline → Option (List Json)
  | [] => some []
  | item :: rest => do return (← ofOutline? item) :: (← itemsOf? rest)

def membersOf? : List (Option String × JsonOutline) → Option (List (String × Json))
  | [] => some []
  | (key, item) :: rest => do return (← key, ← ofOutline? item) :: (← membersOf? rest)

end

def ofText? (text : String) : Option Json :=
  (JsonOutline.ofText? text).bind ofOutline?

end Json

end EntityQuery
