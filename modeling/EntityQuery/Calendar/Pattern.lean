import EntityQuery.Calendar.Parts
import EntityQuery.Numeric.Reading
import EntityQuery.Text.Blank

/-!
Reading dates and times by a pattern. A percent sign and a letter stand for a part of the date or
time, blanks for any number of blanks, and all else for itself.
-/

namespace EntityQuery.Calendar

open EntityQuery.Text EntityQuery.Numeric

/-! ### Numbers -/

inductive NumberField where
  | year | century | yearOfCentury | month | day | dayOfYear | weekdayFromSunday
  | weekdayFromMonday | quarter | weekFromSunday | weekFromMonday | isoYear | isoYearOfCentury
  | isoWeek | hour | hourOfHalf | minute | second | nano | timestamp
  deriving DecidableEq, Repr

namespace NumberField

def width? : NumberField → Option Nat
  | timestamp => none
  | nano => some 9
  | year | isoYear => some 4
  | dayOfYear => some 3
  | weekdayFromSunday | weekdayFromMonday | quarter => some 1
  | _ => some 2

def hasSign : NumberField → Bool
  | year | isoYear => true
  | _ => false

def range? : NumberField → Option (Int × Int)
  | year | isoYear | century | timestamp => none
  | yearOfCentury | isoYearOfCentury => some (0, 99)
  | month => some (1, 12)
  | day => some (1, 31)
  | dayOfYear => some (1, 366)
  | weekdayFromSunday => some (0, 6)
  | weekdayFromMonday => some (1, 7)
  | quarter => some (1, 4)
  | weekFromSunday | weekFromMonday => some (0, 53)
  | isoWeek => some (1, 53)
  | hour => some (0, 23)
  | hourOfHalf => some (1, 12)
  | minute => some (0, 59)
  | second => some (0, 60)
  | nano => some (0, 999999999)

def settles (value : Int) : NumberField → List (Part × Int)
  | year => [(.year, value)]
  | century => [(.century, value)]
  | yearOfCentury => [(.yearOfCentury, value)]
  | month => [(.month, value)]
  | day => [(.day, value)]
  | dayOfYear => [(.dayOfYear, value)]
  | weekdayFromSunday => [(.weekday, (value + 6) % 7)]
  | weekdayFromMonday => [(.weekday, value - 1)]
  | quarter => [(.quarter, value)]
  | weekFromSunday => [(.weekFromSunday, value)]
  | weekFromMonday => [(.weekFromMonday, value)]
  | isoYear => [(.isoYear, value)]
  | isoYearOfCentury => [(.isoYearOfCentury, value)]
  | isoWeek => [(.isoWeek, value)]
  | hour => [(.halfDay, value / 12), (.hourOfHalf, value % 12)]
  | hourOfHalf => [(.hourOfHalf, value % 12)]
  | minute => [(.minute, value)]
  | second => [(.second, value)]
  | nano => [(.nano, value)]
  | timestamp => [(.timestamp, value)]

end NumberField

def readDigits? (width : Nat) (s : List Char) : Option (Nat × List Char) :=
  let digits := (s.take width).takeWhile isDigit
  if digits = [] then none else some (ofDigits digits, s.drop digits.length)

def readExactDigits? (count : Nat) (s : List Char) : Option (Nat × List Char) :=
  let digits := s.take count
  if digits.length = count ∧ digits.all isDigit then some (ofDigits digits, s.drop count) else none

/-- The value of a number field. After a sign all the digits that follow are taken. -/
def NumberField.read? (field : NumberField) (s : List Char) : Option (Int × List Char) :=
  let s := dropBlanks s
  let signed := match field.hasSign, s with
    | true, '-' :: rest => some (true, rest)
    | true, '+' :: rest => some (false, rest)
    | _, _ => none
  match signed with
  | some (negative, rest) =>
    (readDigits? rest.length rest).map fun (n, rest) => (if negative then -(n : Int) else n, rest)
  | none => (readDigits? (field.width?.getD s.length) s).map fun (n, rest) => ((n : Int), rest)

def readFraction? (s : List Char) : Option (Nat × List Char) :=
  let digits := (s.takeWhile isDigit).take 9
  if digits = [] then none
  else some (ofDigits digits * Nat.pow 10 (9 - digits.length), s.dropWhile isDigit)

def readExactFraction? (count : Nat) (s : List Char) : Option (Nat × List Char) :=
  (readExactDigits? count s).map fun (n, rest) => (n * Nat.pow 10 (9 - count), rest)

/-! ### Names -/

def monthNames : List String :=
  ["january", "february", "march", "april", "may", "june", "july", "august", "september",
    "october", "november", "december"]

def weekdayNames : List String :=
  ["monday", "tuesday", "wednesday", "thursday", "friday", "saturday", "sunday"]

def afterWord? (word s : List Char) : Option (List Char) :=
  if (s.take word.length).map Char.toLower = word then some (s.drop word.length) else none

/-- The place in the list of the name that the text begins with, and what follows it. The first
three letters suffice; with `long`, the rest of the name is taken too where it is there. -/
def readName? (names : List String) (long : Bool) (s : List Char) : Option (Nat × List Char) :=
  names.zipIdx.findSome? fun (name, i) =>
    (afterWord? (name.toList.take 3) s).map fun rest =>
      (i, if long then (afterWord? (name.toList.drop 3) rest).getD rest else rest)

/-! ### Distances from Greenwich -/

/-- How a distance from Greenwich may be written: always with hours and minutes, or also as `Z` and
without the minutes at the end of the text, or also as `Z` and as `UTC`. -/
inductive OffsetForm where
  | full | short | named
  deriving DecidableEq, Repr

def OffsetForm.afterGreenwich? (form : OffsetForm) (s : List Char) : Option (List Char) :=
  match form with
  | full => none
  | short => afterWord? ['z'] s
  | named => afterWord? ['u', 't', 'c'] s <|> afterWord? ['z'] s

def readSign? : List Char → Option (Bool × List Char)
  | '+' :: rest => some (false, rest)
  | '-' :: rest | '−' :: rest => some (true, rest)
  | _ => none

def OffsetForm.read? (form : OffsetForm) (s : List Char) : Option (Int × List Char) :=
  match form.afterGreenwich? s with
  | some rest => some (0, rest)
  | none => do
    let (negative, s) ← readSign? s
    let (hours, s) ← readExactDigits? 2 s
    let s := s.dropWhile fun c => c == ':' || isBlank c
    let (minutes, s) ←
      if form = .short ∧ s = [] then some (0, s)
      else (readExactDigits? 2 s).filter fun (minutes, _) => minutes < 60
    let total : Int := (60 * hours + minutes : Nat)
    return (if negative then -total else total, s)

/-! ### Patterns -/

inductive PatternItem where
  | text (chars : List Char)
  | blanks
  | number (field : NumberField)
  | monthName (long : Bool)
  | weekdayName (long : Bool)
  | halfDay
  /-- A point and digits, or nothing. -/
  | fraction
  /-- A point and exactly `count` digits, or nothing. -/
  | pointFraction (count : Nat)
  /-- Exactly `count` digits. -/
  | bareFraction (count : Nat)
  /-- What stands between a date and a time. -/
  | timeMark
  /-- A word that is passed over. -/
  | zoneName
  | offset (form : OffsetForm)
  deriving DecidableEq, Repr

def PatternItem.read? (parts : Parts) (s : List Char) : PatternItem → Option (Parts × List Char)
  | text chars => if chars.isPrefixOf s then some (parts, s.drop chars.length) else none
  | blanks => some (parts, dropBlanks s)
  | number field => do
    let (value, rest) ← field.read? s
    let inRange := match field.range? with
      | some (low, high) => low ≤ value && value ≤ high
      | none => true
    let parts ← if inRange then parts.learnAll? (field.settles value) else none
    return (parts, rest)
  | monthName long => do
    let (i, rest) ← readName? monthNames long s
    return (← parts.learn? .month (i + 1), rest)
  | weekdayName long => do
    let (i, rest) ← readName? weekdayNames long s
    return (← parts.learn? .weekday i, rest)
  | halfDay => do
    let (half, rest) ← (afterWord? ['a', 'm'] s).map ((0 : Int), ·) <|>
      (afterWord? ['p', 'm'] s).map (1, ·)
    return (← parts.learn? .halfDay half, rest)
  | fraction =>
    match s with
    | '.' :: rest => do
      let (nano, rest) ← readFraction? rest
      return (← parts.learn? .nano nano, rest)
    | s => some (parts, s)
  | pointFraction count =>
    match s with
    | '.' :: rest => do
      let (nano, rest) ← readExactFraction? count rest
      return (← parts.learn? .nano nano, rest)
    | s => some (parts, s)
  | bareFraction count => do
    let (nano, rest) ← readExactFraction? count s
    return (← parts.learn? .nano nano, rest)
  | timeMark =>
    match s with
    | 'T' :: rest | 't' :: rest | ' ' :: rest => some (parts, rest)
    | _ => none
  | zoneName => some (parts, s.dropWhile fun c => !isBlank c)
  | offset form => do
    let (minutes, rest) ← form.read? (dropBlanks s)
    return (← parts.learn? .offset minutes, rest)

def itemsOfLetter? : Char → Option (List PatternItem)
  | 'Y' => some [.number .year]
  | 'C' => some [.number .century]
  | 'y' => some [.number .yearOfCentury]
  | 'm' => some [.number .month]
  | 'b' | 'h' => some [.monthName false]
  | 'B' => some [.monthName true]
  | 'd' | 'e' => some [.number .day]
  | 'j' => some [.number .dayOfYear]
  | 'a' => some [.weekdayName false]
  | 'A' => some [.weekdayName true]
  | 'w' => some [.number .weekdayFromSunday]
  | 'u' => some [.number .weekdayFromMonday]
  | 'q' => some [.number .quarter]
  | 'U' => some [.number .weekFromSunday]
  | 'W' => some [.number .weekFromMonday]
  | 'G' => some [.number .isoYear]
  | 'g' => some [.number .isoYearOfCentury]
  | 'V' => some [.number .isoWeek]
  | 'H' | 'k' => some [.number .hour]
  | 'I' | 'l' => some [.number .hourOfHalf]
  | 'p' | 'P' => some [.halfDay]
  | 'M' => some [.number .minute]
  | 'S' => some [.number .second]
  | 'f' => some [.number .nano]
  | 's' => some [.number .timestamp]
  | 'Z' => some [.zoneName]
  | 'z' => some [.offset .full]
  | 'D' | 'x' => some [.number .month, .text ['/'], .number .day, .text ['/'],
      .number .yearOfCentury]
  | 'F' => some [.number .year, .text ['-'], .number .month, .text ['-'], .number .day]
  | 'v' => some [.number .day, .text ['-'], .monthName false, .text ['-'], .number .year]
  | 'R' => some [.number .hour, .text [':'], .number .minute]
  | 'T' | 'X' => some [.number .hour, .text [':'], .number .minute, .text [':'], .number .second]
  | 'r' => some [.number .hourOfHalf, .text [':'], .number .minute, .text [':'], .number .second,
      .blanks, .halfDay]
  | 'c' => some [.weekdayName false, .blanks, .monthName false, .blanks, .number .day, .blanks,
      .number .hour, .text [':'], .number .minute, .text [':'], .number .second, .blanks,
      .number .year]
  | '+' => some [.number .year, .blanks, .text ['-'], .number .month, .blanks, .text ['-'],
      .number .day, .timeMark, .number .hour, .blanks, .text [':'], .number .minute, .blanks,
      .text [':'], .number .second, .fraction, .offset .named]
  | 't' | 'n' => some [.blanks]
  | '%' => some [.text ['%']]
  | _ => none

/-- The element of a letter that stands for a number. A mark before such a letter says how it is
padded when written; for reading it means nothing. -/
def numberOfLetter? (letter : Char) : Option PatternItem :=
  match itemsOfLetter? letter with
  | some [.number field] => some (.number field)
  | _ => none

def fractionDigits? : Char → Option Nat
  | '3' => some 3
  | '6' => some 6
  | '9' => some 9
  | _ => none

def patternItems? : List Char → Option (List PatternItem)
  | [] => some []
  | ['%'] => none
  | '%' :: '.' :: 'f' :: rest => (patternItems? rest).map (.fraction :: ·)
  | '%' :: '.' :: digit :: 'f' :: rest => do
    let count ← fractionDigits? digit
    return .pointFraction count :: (← patternItems? rest)
  | '%' :: '3' :: 'f' :: rest => (patternItems? rest).map (.bareFraction 3 :: ·)
  | '%' :: '6' :: 'f' :: rest => (patternItems? rest).map (.bareFraction 6 :: ·)
  | '%' :: '9' :: 'f' :: rest => (patternItems? rest).map (.bareFraction 9 :: ·)
  | '%' :: ':' :: 'z' :: rest | '%' :: ':' :: ':' :: 'z' :: rest
  | '%' :: ':' :: ':' :: ':' :: 'z' :: rest => (patternItems? rest).map (.offset .full :: ·)
  | '%' :: '#' :: 'z' :: rest => (patternItems? rest).map (.offset .short :: ·)
  | '%' :: '-' :: letter :: rest | '%' :: '_' :: letter :: rest | '%' :: '0' :: letter :: rest => do
    let item ← numberOfLetter? letter
    return item :: (← patternItems? rest)
  | '%' :: letter :: rest => do
    let items ← itemsOfLetter? letter
    return items ++ (← patternItems? rest)
  | c :: rest => (patternItems? rest).map ((if isBlank c then .blanks else .text [c]) :: ·)

def readPattern? (pattern text : String) : Option Parts := do
  let items ← patternItems? pattern.toList
  let (parts, rest) ← items.foldlM (fun (parts, rest) item => item.read? parts rest)
    (Parts.empty, text.toList)
  if rest = [] then some parts else none

def Date.ofPattern? (pattern text : String) : Option Date :=
  (readPattern? pattern text).bind fun parts => parts.date.toOption

def DateTime.ofPattern? (pattern text : String) : Option DateTime :=
  (readPattern? pattern text).bind Parts.dateTime?

end EntityQuery.Calendar
