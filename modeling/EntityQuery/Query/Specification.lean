import EntityQuery.Query.OrderKey
import EntityQuery.Query.Predicate
import EntityQuery.Query.Update

/-!
Specifications: what one query or update asks of the records of an entity, gathered before anything
is run.
-/

namespace EntityQuery

structure QueryFlags where
  noTracking : Bool := false
  splitQuery : Bool := false
  deriving DecidableEq, Repr

/-- A relation to load. Related records that fail the filter are left out. -/
structure Include (ε : Type) where
  path : Path ε
  filter : Option (Node ε)

def Include.display {ε : Type} (i : Include ε) : String :=
  match i.filter with
  | some filter => i.path.text ++ " where " ++ filter.display
  | none => i.path.text

structure Row where
  columns : List (String × Value)
  deriving DecidableEq, Repr

def Row.get? (row : Row) (column : String) : Option Value :=
  row.columns.lookup column

structure Projection (ε : Type) where
  fields : List (String × Path ε) := []
  deriving DecidableEq, Repr

namespace Projection

variable {ε : Type}

def isEmpty (p : Projection ε) : Bool :=
  p.fields.isEmpty

def replace (column : String) (path : Path ε) :
    List (String × Path ε) → Option (List (String × Path ε))
  | [] => none
  | (name, old) :: rest =>
    if name = column then some ((name, path) :: rest)
    else (replace column path rest).map ((name, old) :: ·)

/-- Adds a column. A name that is there already keeps its place and takes the new path. -/
def push (p : Projection ε) (column : String) (path : Path ε) : Projection ε :=
  ⟨(replace column path p.fields).getD (p.fields ++ [(column, path)])⟩

def row (p : Projection ε) (r : Record ε) : Row :=
  ⟨p.fields.map fun (column, path) => (column, path.readFirst r)⟩

end Projection

/-- Sort keys are held in a list. The two single paths are used only while the list is empty. -/
structure Specification {ε : Type} (entity : ε) where
  criteria : Option (Predicate entity) := none
  primaryKey : Option Value := none
  includes : List (Include ε) := []
  order : List (OrderKey ε) := []
  ascendingPath : Option (Path ε) := none
  descendingPath : Option (Path ε) := none
  projection : Option (Projection ε) := none
  update : Option (UpdateAction entity) := none
  updateProperties : List (Path ε) := []
  flags : QueryFlags := {}

namespace Specification

variable {ε : Type} {entity : ε}

def empty : Specification entity := {}

def ofCriteria (ps : List (Predicate entity)) (connective : Connective) (flags : QueryFlags) :
    Specification entity :=
  { criteria := some (Predicate.combine connective ps), flags }

def ofKey (key : Value) (flags : QueryFlags) : Specification entity :=
  { primaryKey := some key, flags }

/-- The keys that are sorted by: the list, or else the single ascending path, or else the single
descending one. -/
def orderKeys (s : Specification entity) : List (OrderKey ε) :=
  match s.order, s.ascendingPath, s.descendingPath with
  | [], some path, _ => [⟨path, .ascending⟩]
  | [], none, some path => [⟨path, .descending⟩]
  | keys, _, _ => keys

def filter (s : Specification entity) (p : Predicate entity) : Specification entity :=
  { s with criteria := some ((s.criteria.map (·.and p)).getD p) }

def setCriteria (s : Specification entity) (p : Predicate entity) : Specification entity :=
  { s with criteria := some p }

def setPrimaryKey (s : Specification entity) (key : Value) : Specification entity :=
  { s with primaryKey := some key }

def setNoTracking (s : Specification entity) (on : Bool) : Specification entity :=
  { s with flags := { s.flags with noTracking := on } }

def setSplitQuery (s : Specification entity) (on : Bool) : Specification entity :=
  { s with flags := { s.flags with splitQuery := on } }

def setUpdate (s : Specification entity) (action : UpdateAction entity) : Specification entity :=
  { s with update := some action }

variable [Catalog ε]

def relationPath (entity : ε) (path : String) : Except QueryError (Path ε) := do
  let path ← Path.resolve entity path
  if path.type.isRelation then return path
  else throw (.invalidOperation "include" path.type.name)

def includeRelation (s : Specification entity) (path : String) :
    Except QueryError (Specification entity) := do
  let path ← relationPath entity path
  return { s with includes := s.includes ++ [⟨path, none⟩] }

/-- Loads a relation without the related records that fail a predicate. The relation must be able to
leave them out: a collection, or a single relation that may be unset. -/
def includeFiltered [DecidableEq ε] {related : ε} (s : Specification entity) (path : String)
    (p : Predicate related) : Except QueryError (Specification entity) := do
  let path ← relationPath entity path
  if !path.type.isCollection && !path.leaf.nullable then
    throw (.invalidOperation "include" "required relation")
  if path.type.target? ≠ some related then
    throw (.wrongEntity (entityName related) ((path.type.target?.map entityName).getD "none"))
  return { s with includes := s.includes ++ [⟨path, some p.node⟩] }

def thenInclude (s : Specification entity) (path : String) :
    Except QueryError (Specification entity) :=
  match s.includes.getLast? with
  | some last => s.includeRelation (last.path.text ++ "." ++ path)
  | none => s.includeRelation path

def orderBy (s : Specification entity) (path : String) (direction : Direction) :
    Except QueryError (Specification entity) := do
  return { s with order := [← OrderKey.resolve entity path direction] }

def thenBy (s : Specification entity) (path : String) (direction : Direction) :
    Except QueryError (Specification entity) := do
  return { s with order := s.order ++ [← OrderKey.resolve entity path direction] }

def setOrderPath (s : Specification entity) (path : String) (direction : Direction) :
    Except QueryError (Specification entity) := do
  let path ← Path.resolve entity path
  match direction with
  | .ascending => return { s with ascendingPath := some path }
  | .descending => return { s with descendingPath := some path }

def select (s : Specification entity) (column path : String) :
    Except QueryError (Specification entity) := do
  let path ← Path.resolve entity path
  if path.type.isRelation then throw (.invalidOperation "select" path.type.name)
  return { s with projection := some ((s.projection.getD {}).push column path) }

def updateProperty (s : Specification entity) (path : String) :
    Except QueryError (Specification entity) := do
  return { s with updateProperties := s.updateProperties ++ [← Path.resolve entity path] }

def updateFrom [DecidableEq ε] (s : Specification entity) (config : Config) (model : Record ε) :
    Except QueryError (Specification entity) := do
  return s.setUpdate (← UpdateAction.ofModel config s.updateProperties model)

end Specification

end EntityQuery
