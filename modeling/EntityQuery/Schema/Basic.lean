import EntityQuery.Text.Split

/-! Entities, their fields, and the graph that the relations between entities form. -/

namespace EntityQuery

open EntityQuery.Text

inductive RelationKind where
  | one
  | many
  deriving DecidableEq, Repr

inductive FieldType (ε : Type) where
  | string
  | char
  | bool
  | int
  | uint
  | float
  | date
  | dateTime
  | one (target : ε)
  | many (target : ε)
  deriving DecidableEq, Repr

namespace FieldType

variable {ε : Type}

def name : FieldType ε → String
  | string => "string"
  | char => "char"
  | bool => "bool"
  | int => "int"
  | uint => "uint"
  | float => "float"
  | date => "date"
  | dateTime => "datetime"
  | one _ => "relation"
  | many _ => "collection"

def isString : FieldType ε → Bool
  | string => true
  | _ => false

def isNumeric : FieldType ε → Bool
  | int | uint | float => true
  | _ => false

def isTemporal : FieldType ε → Bool
  | date | dateTime => true
  | _ => false

def target? : FieldType ε → Option ε
  | one target | many target => some target
  | _ => none

def isRelation (t : FieldType ε) : Bool :=
  t.target?.isSome

def isCollection : FieldType ε → Bool
  | many _ => true
  | _ => false

end FieldType

structure Field (ε : Type) where
  name : String
  type : FieldType ε
  nullable : Bool
  deriving DecidableEq, Repr

/-- The description of one entity. The key names the field that identifies a record. -/
structure Schema (ε : Type) where
  name : String
  key : Option String
  fields : List (Field ε)

namespace Schema

variable {ε : Type}

/-- The field of a name: the one spelt so, else the first that differs in the case of ASCII letters
only. -/
def field? (s : Schema ε) (name : String) : Option (Field ε) :=
  s.fields.find? (·.name == name) <|>
    s.fields.find? fun f => equalIgnoringAsciiCase f.name name

def keyField? (s : Schema ε) : Option (Field ε) :=
  s.key.bind s.field?

end Schema

/-- The entities of an application, each with its schema. -/
class Catalog (ε : Type) where
  schema : ε → Schema ε

def entityName {ε : Type} [Catalog ε] (entity : ε) : String :=
  (Catalog.schema entity).name

def FieldType.describe {ε : Type} [Catalog ε] : FieldType ε → String
  | .one target => "One(" ++ entityName target ++ ")"
  | .many target => "Many(" ++ entityName target ++ ")"
  | t => t.name

end EntityQuery
