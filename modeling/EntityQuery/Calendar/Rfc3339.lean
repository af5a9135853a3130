import EntityQuery.Calendar.Pattern

/-! Date-times in the form of RFC 3339, read as the time of Greenwich. -/

namespace EntityQuery.Calendar

open EntityQuery.Numeric

def afterChar? (c : Char) : List Char → Option (List Char)
  | [] => none
  | d :: rest => if d = c then some rest else none

def readFullDate? (s : List Char) : Option (Date × List Char) := do
  let (year, s) ← readExactDigits? 4 s
  let s ← afterChar? '-' s
  let (month, s) ← readExactDigits? 2 s
  let s ← afterChar? '-' s
  let (day, s) ← readExactDigits? 2 s
  return (← Date.ofParts? year month day, s)

def readFullTime? (s : List Char) : Option (TimeOfDay × List Char) := do
  let (hour, s) ← readExactDigits? 2 s
  let s ← afterChar? ':' s
  let (minute, s) ← readExactDigits? 2 s
  let s ← afterChar? ':' s
  let (second, s) ← readExactDigits? 2 s
  let (nano, s) ← match s with
    | '.' :: rest => readFraction? rest
    | s => some (0, s)
  return (← TimeOfDay.ofClock? hour minute second nano, s)

def readOffset? (s : List Char) : Option Int :=
  match s with
  | ['Z'] | ['z'] => some 0
  | s => do
    let (negative, s) ← readSign? s
    let (hours, s) ← readExactDigits? 2 s
    let s ← afterChar? ':' s
    let (minutes, s) ← readExactDigits? 2 s
    let total : Int := (60 * hours + minutes : Nat)
    if s = [] ∧ minutes < 60 ∧ total < 1440 then some (if negative then -total else total) else none

def DateTime.ofRfc3339? (text : String) : Option DateTime := do
  let (date, s) ← readFullDate? text.toList
  let s ← match s with
    | 'T' :: s | 't' :: s | ' ' :: s => some s
    | _ => none
  let (time, s) ← readFullTime? s
  DateTime.minusMinutes? ⟨date, time⟩ (← readOffset? s)

end EntityQuery.Calendar
