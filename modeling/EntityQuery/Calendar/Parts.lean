import EntityQuery.Calendar.DateTime
import EntityQuery.Calendar.Week

/-!
What is known of a date and a time, part by part. Two parts that speak of the same thing must agree.
-/

namespace EntityQuery.Calendar

/-- What can be known of a date, a time and its zone. A weekday counts from 0 for Monday, `halfDay`
is 1 in the afternoon, and `hourOfHalf` counts from it. An `offset` is in minutes, a `timestamp` in
seconds since the start of 1970. -/
inductive Part where
  | year | century | yearOfCentury | month | day | dayOfYear | weekday | quarter
  | weekFromSunday | weekFromMonday | isoYear | isoYearOfCentury | isoWeek
  | halfDay | hourOfHalf | minute | second | nano | offset | timestamp
  deriving DecidableEq, Repr

abbrev Parts := Part → Option Int

inductive Unsettled where
  | incomplete | contradictory
  deriving DecidableEq, Repr

namespace Parts

def empty : Parts := fun _ => none

def learn? (parts : Parts) (part : Part) (value : Int) : Option Parts :=
  match parts part with
  | none => some fun p => if p = part then some value else parts p
  | some known => if known = value then some parts else none

def learnAll? (parts : Parts) (news : List (Part × Int)) : Option Parts :=
  news.foldlM (fun parts (part, value) => parts.learn? part value) parts

/-! ### Dates -/

/-- A year from what is known of it: the whole, its century and the year in the century. The last
alone means a year from 1970 to 2069. -/
def yearOf? : Option Int → Option Int → Option Int → Except Unsettled (Option Int)
  | year, none, none => .ok year
  | some year, century, short =>
    if 0 ≤ year ∧ year / 100 = century.getD (year / 100) ∧ year % 100 = short.getD (year % 100)
    then .ok (some year) else .error .contradictory
  | none, some century, some short => .ok (some (100 * century + short))
  | none, none, some short => .ok (some (short + if short < 70 then 2000 else 1900))
  | none, some _, none => .error .incomplete

/-- The value of a part for a date. Years before 0 have no century, and no part of a time or zone
has a value. -/
def ofDate (date : Date) : Part → Option Int
  | .year => some date.year
  | .century => if 0 ≤ date.year then some (date.year / 100) else none
  | .yearOfCentury => if 0 ≤ date.year then some (date.year % 100) else none
  | .month => some date.month
  | .day => some date.day
  | .dayOfYear => some date.dayOfYear
  | .weekday => some date.weekday
  | .quarter => some date.quarter
  | .weekFromSunday => some (date.weekFrom 6)
  | .weekFromMonday => some (date.weekFrom 0)
  | .isoYear => some date.isoYear
  | .isoYearOfCentury => if 0 ≤ date.isoYear then some (date.isoYear % 100) else none
  | .isoWeek => some date.isoWeek
  | _ => none

def dateParts : List Part :=
  [.year, .century, .yearOfCentury, .month, .day, .dayOfYear, .weekday, .quarter, .weekFromSunday,
    .weekFromMonday, .isoYear, .isoYearOfCentury, .isoWeek]

def agree (parts : Parts) (date : Date) : Bool :=
  dateParts.all fun part => parts part == none || parts part == ofDate date part

/-- The date that the parts give in the first of these ways for which they suffice: by month and
day, by the day of the year, by a week and its day. The outer `none` means that no way is open. -/
def candidate? (parts : Parts) (year isoYear : Option Int) : Option (Option Date) :=
  let byWeek (start : Nat) (week : Part) : Option (Option Date) := do
    return Date.ofWeekFrom? start (← year) (← parts week).toNat (← parts .weekday).toNat
  (do return Date.ofParts? (← year) (← parts .month).toNat (← parts .day).toNat) <|>
    (do return Date.ofDayOfYear? (← year) (← parts .dayOfYear).toNat) <|>
    byWeek 6 .weekFromSunday <|>
    byWeek 0 .weekFromMonday <|>
    (do return Date.ofIsoWeek? (← isoYear) (← parts .isoWeek).toNat (← parts .weekday).toNat)

def date (parts : Parts) : Except Unsettled Date := do
  let year ← yearOf? (parts .year) (parts .century) (parts .yearOfCentury)
  let isoYear ← yearOf? (parts .isoYear) none (parts .isoYearOfCentury)
  match parts.candidate? year isoYear with
  | none => .error .incomplete
  | some none => .error .contradictory
  | some (some date) => if parts.agree date then .ok date else .error .contradictory

/-! ### Times -/

/-- The time that the parts determine. Seconds may be missing, but then no fraction may be given. -/
def time (parts : Parts) : Except Unsettled TimeOfDay :=
  match parts .halfDay, parts .hourOfHalf, parts .minute, parts .second, parts .nano with
  | some half, some hour, some minute, second, nano =>
    if second = none ∧ nano ≠ none then .error .incomplete
    else
      match TimeOfDay.ofClock? (12 * half + hour).toNat minute.toNat (second.getD 0).toNat
          (nano.getD 0).toNat with
      | some time => .ok time
      | none => .error .contradictory
  | _, _, _, _, _ => .error .incomplete

/-- Learns year, day and time from a timestamp. A leap second has the timestamp of the second before
it or after it. -/
def learnTimestamp? (parts : Parts) (seconds : Int) : Option Parts := do
  let t ← DateTime.ofTimestamp? seconds
  let (t, second) ←
    if parts .second = some 60 then
      if t.time.second = 59 then some (t, 60)
      else if t.time.second = 0 then (DateTime.ofTimestamp? (seconds - 1)).map (·, 60)
      else none
    else some (t, t.time.second)
  parts.learnAll? [(.second, (second : Nat)), (.year, t.date.year), (.dayOfYear, t.date.dayOfYear),
    (.halfDay, (t.time.hour / 12 : Nat)), (.hourOfHalf, (t.time.hour % 12 : Nat)),
    (.minute, t.time.minute)]

def isAt (t : DateTime) (seconds : Int) : Bool :=
  seconds = t.timestamp || (nanosPerSecond ≤ t.time.nano && seconds = t.timestamp + 1)

def dateTime? (parts : Parts) : Option DateTime :=
  match parts.date, parts.time with
  | .ok date, .ok time =>
    if (parts .timestamp).all (isAt ⟨date, time⟩) then some ⟨date, time⟩ else none
  | .error .contradictory, _ | _, .error .contradictory => none
  | _, _ => do
    let parts ← parts.learnTimestamp? (← parts .timestamp)
    return ⟨← parts.date.toOption, ← parts.time.toOption⟩

end Parts

end EntityQuery.Calendar
