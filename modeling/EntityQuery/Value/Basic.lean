import EntityQuery.Calendar.DateTime
import EntityQuery.Text.Lowercase
import EntityQuery.Value.Number

/-! The values that fields hold and that queries compare them with. -/

namespace EntityQuery

open EntityQuery.Calendar EntityQuery.Text

inductive Value where
  | null
  | bool (b : Bool)
  | char (c : Char)
  | number (n : Number)
  | string (s : String)
  | date (d : Date)
  | dateTime (t : DateTime)
  deriving DecidableEq, Repr

namespace Value

def isNull : Value → Bool
  | null => true
  | _ => false

def string? : Value → Option String
  | string s => some s
  | _ => none

def bool? : Value → Option Bool
  | bool b => some b
  | _ => none

def number? : Value → Option Number
  | number n => some n
  | _ => none

def kindName : Value → String
  | null => "null"
  | bool _ => "bool"
  | char _ => "char"
  | number _ => "number"
  | string _ => "string"
  | date _ => "date"
  | dateTime _ => "datetime"

def singleChar? (s : String) : Option Char :=
  match s.toList with
  | [c] => some c
  | _ => none

/-- The order of two values of one kind. A date is compared with a date-time at midnight, and a
character with a text of one character. Null compares with nothing. -/
def compare? : Value → Value → Option Ordering
  | bool a, bool b => some (compare a b)
  | char a, char b => some (compare a b)
  | number a, number b => a.compare? b
  | string a, string b => some (compare a b)
  | date a, date b => some (a.compare b)
  | dateTime a, dateTime b => some (a.compare b)
  | date a, dateTime b => some (a.midnight.compare b)
  | dateTime a, date b => some (a.compare b.midnight)
  | char a, string b => (singleChar? b).map (compare a)
  | string a, char b => (singleChar? a).map (compare · b)
  | _, _ => none

def equals : Value → Value → Bool
  | null, null => true
  | a, b => a.compare? b == some .eq

def same : Value → Value → Bool
  | number a, number b => a.same b
  | a, b => a == b

/-- A text or character in lower case; of a character, the first one of its lower case. -/
def foldCase : Value → Value
  | string s => string (lowercase s)
  | char c => char (foldChar c)
  | v => v

def display : Value → String
  | null => "null"
  | bool b => toString b
  | char c => "'" ++ String.singleton c ++ "'"
  | number n => n.display
  | string s => "\"" ++ s ++ "\""
  | date d => d.display
  | dateTime t => t.display

end Value

def insertNew (values : List Value) (v : Value) : List Value :=
  if values.any (v.same ·) then values else values ++ [v]

end EntityQuery
