import EntityQuery.Calendar.Rfc3339
import EntityQuery.Query.Config
import EntityQuery.Schema.Basic
import EntityQuery.Text.Blank
import EntityQuery.Value.Basic

/-!
Conversion of texts and values to the type that a field declares. The field decides, never the kind
of what is converted.
-/

namespace EntityQuery

open EntityQuery.Text EntityQuery.Numeric EntityQuery.Calendar

namespace Coercion

def dateFormats : List String :=
  ["%Y-%m-%d", "%Y/%m/%d", "%d.%m.%Y"]

def dateTimeFormats : List String :=
  ["%Y-%m-%dT%H:%M:%S%.f", "%Y-%m-%dT%H:%M:%S", "%Y-%m-%dT%H:%M",
    "%Y-%m-%d %H:%M:%S%.f", "%Y-%m-%d %H:%M:%S", "%Y-%m-%d %H:%M"]

def bareDate? (config : Config) (text : String) : Option Date :=
  (config.dateFormats ++ dateFormats).findSome? fun format => Date.ofPattern? format text

/-- A text that gives a date and a time: RFC 3339 first, then the configured formats, then the
built-in ones. -/
def fullDateTime? (config : Config) (text : String) : Option DateTime :=
  DateTime.ofRfc3339? text <|>
    (config.dateFormats ++ dateTimeFormats).findSome? fun format => DateTime.ofPattern? format text

def parseDate (config : Config) (text : String) : Except QueryError Date :=
  match bareDate? config text <|> (fullDateTime? config text).map (·.date) with
  | some d => .ok d
  | none => .error (.invalidDate text)

def parseDateTime (config : Config) (text : String) : Except QueryError DateTime :=
  match fullDateTime? config text <|> (bareDate? config text).map (·.midnight) with
  | some t => .ok t
  | none => .error (.invalidDate text)

def orNotConvertible {ε : Type} (text : String) (type : FieldType ε) :
    Option Value → Except QueryError Value
  | some v => .ok v
  | none => .error (.notConvertible text type.name)

def readBool? (s : String) : Option Bool :=
  if equalIgnoringAsciiCase s "true" then some true
  else if equalIgnoringAsciiCase s "false" then some false
  else none

/-- Converts a text to the type of a field. Blanks around it count for texts and characters only. -/
def ofText {ε : Type} (config : Config) (field : Field ε) (raw : String) :
    Except QueryError Value :=
  let trimmed := trim raw
  match field.type with
  | .string => .ok (.string raw)
  | .char => orNotConvertible raw field.type ((Value.singleChar? raw).map .char)
  | .bool => orNotConvertible raw field.type ((readBool? trimmed).map .bool)
  | .int => orNotConvertible raw field.type
      ((readInt64? trimmed.toList).map fun n => .number (.signed n))
  | .uint => orNotConvertible raw field.type
      ((readUInt64? trimmed.toList).map fun n => .number (.unsigned n))
  | .float => orNotConvertible raw field.type
      ((readBinary64? trimmed.toList).map fun x => .number (.float x))
  | .date => (parseDate config trimmed).map .date
  | .dateTime => (parseDateTime config trimmed).map .dateTime
  | .one _ | .many _ => orNotConvertible raw field.type none

/-- Converts a value to the type of a field. A text is read as by `ofText`, and numbers pass between
their kinds where they fit. -/
def ofValue {ε : Type} (config : Config) (field : Field ε) (v : Value) : Except QueryError Value :=
  let fail : Except QueryError Value := .error (.notConvertible v.display field.type.name)
  match field.type, v with
  | _, .null => if field.nullable then .ok .null else fail
  | _, .string s => ofText config field s
  | .string, .char c => .ok (.string (String.singleton c))
  | .string, .bool b => .ok (.string (toString b))
  | .string, .number n => .ok (.string n.display)
  | .char, .char c => .ok (.char c)
  | .bool, .bool b => .ok (.bool b)
  | .int, .number n =>
    match n.toInt64? with
    | some i => .ok (.number (.signed i))
    | none => fail
  | .uint, .number n =>
    match n.toUInt64? with
    | some i => .ok (.number (.unsigned i))
    | none => fail
  | .float, .number n => .ok (.number (.float n.toBinary64))
  | .date, .date d => .ok (.date d)
  | .date, .dateTime t => .ok (.date t.date)
  | .dateTime, .dateTime t => .ok (.dateTime t)
  | .dateTime, .date d => .ok (.dateTime d.midnight)
  | _, _ => fail

end Coercion

end EntityQuery
