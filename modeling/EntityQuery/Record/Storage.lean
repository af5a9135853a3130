import EntityQuery.Error
import EntityQuery.Numeric.Binary32
import EntityQuery.Schema.Basic
import EntityQuery.Value.Basic

/-!
How a record stores a scalar: the width of its numbers, and whether it may be absent. Values are encoded
from what is stored, and decoded to it.
-/

namespace EntityQuery

open EntityQuery.Numeric EntityQuery.Calendar

/-- The width of an integer; a word has 64 bits. -/
inductive IntegerWidth where
  | w8
  | w16
  | w32
  | w64
  | word
  deriving DecidableEq, Repr

namespace IntegerWidth

def bits : IntegerWidth → Nat
  | w8 => 8
  | w16 => 16
  | w32 => 32
  | w64 | word => 64

def size (w : IntegerWidth) : Nat :=
  Nat.pow 2 w.bits

def half (w : IntegerWidth) : Nat :=
  Nat.pow 2 (w.bits - 1)

def suffix : IntegerWidth → String
  | word => "size"
  | w => Nat.repr w.bits

end IntegerWidth

inductive Storage where
  | string
  | char
  | bool
  | signed (width : IntegerWidth)
  | unsigned (width : IntegerWidth)
  | single
  | double
  | date
  | dateTime
  | optional (inner : Storage)
  deriving DecidableEq, Repr

namespace Storage

def fieldType {ε : Type} : Storage → FieldType ε
  | string => .string
  | char => .char
  | bool => .bool
  | signed _ => .int
  | unsigned _ => .uint
  | single | double => .float
  | date => .date
  | dateTime => .dateTime
  | optional inner => inner.fieldType

def nullable : Storage → Bool
  | optional _ => true
  | _ => false

def mismatch {α : Type} (expected : String) (v : Value) : Except QueryError α :=
  .error (.wrongKind expected v.kindName)

@[reducible] def Content : Storage → Type
  | string => String
  | char => Char
  | bool => Bool
  | signed w | unsigned w => BitVec w.bits
  | single => Binary32
  | double => Binary64
  | date => Date
  | dateTime => DateTime
  | optional inner => Option inner.Content

def encode : (s : Storage) → s.Content → Value
  | string, (text : String) => .string text
  | char, (c : Char) => .char c
  | bool, (b : Bool) => .bool b
  | signed _, (n : BitVec _) => .number (.signed (Int64.ofInt n.toInt))
  | unsigned _, (n : BitVec _) => .number (.unsigned (UInt64.ofNat n.toNat))
  | single, (x : Binary32) => .number (.float x.toBinary64)
  | double, (x : Binary64) => .number (.float x)
  | date, (d : Date) => .date d
  | dateTime, (t : DateTime) => .dateTime t
  | optional _, none => .null
  | optional inner, some x => inner.encode x

/-- What is stored of a value. Nothing is converted but what the storage itself cannot tell apart, and the
precision of doubles stored in a single. -/
def decode : (s : Storage) → Value → Except QueryError s.Content
  | string, .string s => .ok s
  | string, .char c => .ok (String.singleton c)
  | string, v => mismatch "string" v
  | char, .char c => .ok c
  | char, .string s =>
    match Value.singleChar? s with
    | some c => .ok c
    | none => mismatch "char" (.string s)
  | char, v => mismatch "char" v
  | bool, .bool b => .ok b
  | bool, v => mismatch "bool" v
  | signed w, .number n =>
    match n.toInt64? with
    | some i =>
      if -(w.half : Int) ≤ i.toInt ∧ i.toInt < w.half then .ok (BitVec.ofInt w.bits i.toInt)
      else .error (.notConvertible n.display ("i" ++ w.suffix))
    | none => .error (.notConvertible n.display ("i" ++ w.suffix))
  | signed _, v => mismatch "int" v
  | unsigned w, .number n =>
    match n.toUInt64? with
    | some i =>
      if i.toNat < w.size then .ok (BitVec.ofNat w.bits i.toNat)
      else .error (.notConvertible n.display ("u" ++ w.suffix))
    | none => .error (.notConvertible n.display ("u" ++ w.suffix))
  | unsigned _, v => mismatch "uint" v
  | single, .number n => .ok n.toBinary64.toBinary32
  | single, v => mismatch "float" v
  | double, .number n => .ok n.toBinary64
  | double, v => mismatch "float" v
  | date, .date d => .ok d
  | date, .dateTime t => .ok t.date
  | date, v => mismatch "date" v
  | dateTime, .dateTime t => .ok t
  | dateTime, .date d => .ok d.midnight
  | dateTime, v => mismatch "datetime" v
  | optional _, .null => .ok none
  | optional inner, v => (inner.decode v).map some

def store (s : Storage) (v : Value) : Except QueryError Value :=
  (s.decode v).map s.encode

end Storage

end EntityQuery
