import EntityQuery.Attempt
import EntityQuery.Record.Storage

/-!
Records: the fields of one entity with what they hold. A relation holds its records in a container,
which decides whether a record can be dropped from it.
-/

namespace EntityQuery

mutual

inductive Record (ε : Type) where
  | mk (entity : ε) (cells : List (String × Cell ε))

/-- What lies in a field. A view shows a record that cannot be changed from here. -/
inductive Cell (ε : Type) where
  | scalar (storage : Storage) (content : storage.Content)
  | relation (kind : RelationKind) (container : Container ε)
  | view (target : Record ε)

inductive Container (ε : Type) where
  | single (record : Record ε)
  | list (records : List (Record ε))
  | absent
  | present (inner : Container ε)

end

variable {ε : Type}

namespace Container

def records : Container ε → List (Record ε)
  | single r => [r]
  | list rs => rs
  | absent => []
  | present inner => inner.records

def map (f : Record ε → Record ε) : Container ε → Container ε
  | single r => single (f r)
  | list rs => list (rs.map f)
  | absent => absent
  | present inner => present (inner.map f)

/-- Drops the records that `keep` rejects. A list loses just these; what is present becomes absent
as a whole; a single record stays. -/
def retain (keep : Record ε → Bool) : Container ε → Container ε
  | single r => single r
  | list rs => list (rs.filter keep)
  | absent => absent
  | present inner => if inner.records.all keep then present inner else absent

def attemptFirst? {α : Type} (f : Record ε → Attempt (Record ε) α) :
    Container ε → Option (Attempt (Container ε) α)
  | single r => some ((f r).within single)
  | list [] => none
  | list (r :: rs) => some ((f r).within fun r => list (r :: rs))
  | absent => none
  | present inner => (inner.attemptFirst? f).map (·.within present)

end Container

inductive Slot (ε : Type) where
  | value (v : Value)
  | one (record : Option (Record ε))
  | many (records : List (Record ε))
  | missing

namespace Slot

def toValue : Slot ε → Value
  | value v => v
  | _ => .null

def records : Slot ε → List (Record ε)
  | one r => r.toList
  | many rs => rs
  | _ => []

end Slot

namespace Record

def entity : Record ε → ε
  | mk e _ => e

def cells : Record ε → List (String × Cell ε)
  | mk _ cells => cells

def cell? (r : Record ε) (field : String) : Option (Cell ε) :=
  r.cells.lookup field

/-- Replaces the content of the first cell of a name. -/
def putCell (field : String) (cell : Cell ε) :
    List (String × Cell ε) → List (String × Cell ε)
  | [] => []
  | (name, old) :: rest =>
    if name == field then (name, cell) :: rest else (name, old) :: putCell field cell rest

def put (r : Record ε) (field : String) (cell : Cell ε) : Record ε :=
  mk r.entity (putCell field cell r.cells)

/-- Reads a field. A single relation shows the first record of its container. -/
def get (r : Record ε) (field : String) : Slot ε :=
  match r.cell? field with
  | some (.scalar storage content) => .value (storage.encode content)
  | some (.relation .one c) => .one c.records.head?
  | some (.relation .many c) => .many c.records
  | some (.view target) => .one (some target)
  | none => .missing

def set [Catalog ε] (r : Record ε) (field : String) (v : Value) : Except QueryError (Record ε) :=
  match r.cell? field with
  | some (.scalar storage _) => (storage.decode v).map fun content => r.put field (.scalar storage content)
  | some (.relation _ _) => .error (.invalidOperation "set" "relation")
  | _ => .error (.unresolvedPath (entityName r.entity) field field)

def mapRelated (r : Record ε) (field : String) (f : Record ε → Record ε) : Record ε :=
  match r.cell? field with
  | some (.relation kind c) => r.put field (.relation kind (c.map f))
  | _ => r

def retainRelated (r : Record ε) (field : String) (keep : Record ε → Bool) : Record ε :=
  match r.cell? field with
  | some (.relation kind c) => r.put field (.relation kind (c.retain keep))
  | _ => r

def attemptRelated {α : Type} (r : Record ε) (field : String)
    (f : Record ε → Attempt (Record ε) α) : Attempt (Record ε) α :=
  match r.cell? field with
  | some (.relation kind c) =>
    match c.attemptFirst? f with
    | some attempt => attempt.within fun c => r.put field (.relation kind c)
    | none => .failed (.wrongKind "relation" "null") r
  | _ => .failed (.wrongKind "relation" "null") r

end Record

end EntityQuery
