import EntityQuery.Calendar.Date

/-! Times of day, with leap seconds, and dates with a time. No zone is kept. -/

namespace EntityQuery.Calendar

def nanosPerSecond : Nat := 1000000000

/-- A leap second is a second with a whole second of nanoseconds more. A clock tells it from the second after it only
where it follows second 59. -/
structure TimeOfDay where
  hour : Nat
  minute : Nat
  second : Nat
  nano : Nat
  hour_lt : hour < 24
  minute_lt : minute < 60
  second_lt : second < 60
  nano_lt : nano < 2 * nanosPerSecond
  deriving DecidableEq, Repr

namespace TimeOfDay

def ofParts? (hour minute second nano : Nat) : Option TimeOfDay :=
  if h : hour < 24 ∧ minute < 60 ∧ second < 60 ∧ nano < 2 * nanosPerSecond ∧
      (nanosPerSecond ≤ nano → second = 59) then
    some ⟨hour, minute, second, nano, h.1, h.2.1, h.2.2.1, h.2.2.2.1⟩
  else none

def ofClock? (hour minute second nano : Nat) : Option TimeOfDay :=
  if second = 60 then ofParts? hour minute 59 (nanosPerSecond + nano)
  else if nano < nanosPerSecond then ofParts? hour minute second nano
  else none

def midnight : TimeOfDay :=
  ⟨0, 0, 0, 0, by decide, by decide, by decide, by decide⟩

def atMinute (t : TimeOfDay) (minute : Int) : TimeOfDay :=
  { t with
    hour := (minute % 1440).toNat / 60
    minute := (minute % 1440).toNat % 60
    hour_lt := by omega
    minute_lt := by omega }

/-- Times in the order of the day; a leap second comes after every fraction of second 59. -/
def compare (a b : TimeOfDay) : Ordering :=
  (Ord.compare a.hour b.hour).then ((Ord.compare a.minute b.minute).then
    ((Ord.compare a.second b.second).then (Ord.compare a.nano b.nano)))

def fractionText (nano : Nat) : String :=
  if nano = 0 then ""
  else if nano % 1000000 = 0 then "." ++ padded 3 (nano / 1000000)
  else if nano % 1000 = 0 then "." ++ padded 6 (nano / 1000)
  else "." ++ padded 9 nano

def display (t : TimeOfDay) : String :=
  padded 2 t.hour ++ ":" ++ padded 2 t.minute ++ ":"
    ++ padded 2 (t.second + t.nano / nanosPerSecond) ++ fractionText (t.nano % nanosPerSecond)

end TimeOfDay

structure DateTime where
  date : Date
  time : TimeOfDay
  deriving DecidableEq, Repr

namespace DateTime

def compare (a b : DateTime) : Ordering :=
  (a.date.compare b.date).then (a.time.compare b.time)

def display (t : DateTime) : String :=
  t.date.display ++ " " ++ t.time.display

def epochDay : Int := 719162

def timestamp (t : DateTime) : Int :=
  (t.date.number - epochDay) * 86400 + (3600 * t.time.hour + 60 * t.time.minute + t.time.second : Nat)

def ofTimestamp? (seconds : Int) : Option DateTime :=
  let clock := (seconds % 86400).toNat
  (Date.ofNumber? (epochDay + seconds / 86400)).bind fun date =>
    (TimeOfDay.ofParts? (clock / 3600) (clock / 60 % 60) (clock % 60) 0).map (DateTime.mk date)

def minusMinutes? (t : DateTime) (minutes : Int) : Option DateTime :=
  let total : Int := (60 * t.time.hour + t.time.minute : Nat) - minutes
  let date? :=
    if total < 0 then t.date.previous? else if 1440 ≤ total then t.date.next? else some t.date
  date?.map fun date => ⟨date, t.time.atMinute total⟩

end DateTime

def Date.midnight (d : Date) : DateTime :=
  ⟨d, .midnight⟩

end EntityQuery.Calendar
