import EntityQuery.Record.Basic
import EntityQuery.Text.Blank

/-!
Dotted paths through the entities. A path is resolved once against the schemas and then read,
written and pruned on any record of its root.
-/

namespace EntityQuery

open EntityQuery.Text

/-- A field of an entity reached from the root through relations. -/
structure Path (ε : Type) where
  root : ε
  relations : List (Field ε)
  leaf : Field ε
  deriving DecidableEq, Repr

namespace Path

variable {ε : Type}

def segments (p : Path ε) : List (Field ε) :=
  p.relations ++ [p.leaf]

def text (p : Path ε) : String :=
  joined "." (p.segments.map (·.name))

def type (p : Path ε) : FieldType ε :=
  p.leaf.type

/-- Whether a collection lies before the leaf, so that the path reaches many values. -/
def crossesCollection (p : Path ε) : Bool :=
  p.relations.any (·.type.isCollection)

def same [DecidableEq ε] (p q : Path ε) : Bool :=
  p.root = q.root && p.text == q.text

def describe [Catalog ε] (p : Path ε) : String :=
  entityName p.root ++ "." ++ p.text

/-! ### Resolution -/

/-- Follows names from an entity: the relations taken and the last field. Each name must be a field
of the entity reached, and only the last may be a scalar. -/
def follow [Catalog ε] (path : String) (entity : ε) :
    List String → Except QueryError (List (Field ε) × Field ε)
  | [] => .error (.unresolvedPath (entityName entity) path "")
  | name :: rest =>
    match (Catalog.schema entity).field? name with
    | none => .error (.unresolvedPath (entityName entity) path name)
    | some field =>
      match rest, field.type.target? with
      | [], _ => .ok ([], field)
      | next :: _, none => .error (.unresolvedPath (entityName entity) path next)
      | rest, some target =>
        (follow path target rest).map fun (relations, leaf) => (field :: relations, leaf)

def resolve [Catalog ε] (root : ε) (path : String) : Except QueryError (Path ε) :=
  (follow path root ((splitOn '.' path).map trim)).map fun (relations, leaf) =>
    ⟨root, relations, leaf⟩

/-! ### Reading -/

/-- The values at a field behind relations. An unset relation gives one null; a collection gives
what each of its records gives. -/
def readAlong (leaf : Field ε) : List (Field ε) → Record ε → List Value
  | [], r => [(r.get leaf.name).toValue]
  | field :: rest, r =>
    match r.get field.name with
    | .one none => [.null]
    | .one (some child) => readAlong leaf rest child
    | .many children => children.flatMap (readAlong leaf rest)
    | .value _ | .missing => [.null]

def read (p : Path ε) (r : Record ε) : List Value :=
  readAlong p.leaf p.relations r

def readFirst (p : Path ε) (r : Record ε) : Value :=
  (p.read r).headD .null

def recordsAlong : List (Field ε) → Record ε → List (Record ε)
  | [], r => [r]
  | field :: rest, r => (r.get field.name).records.flatMap (recordsAlong rest)

def records (p : Path ε) (r : Record ε) : List (Record ε) :=
  recordsAlong p.segments r

/-! ### Writing -/

/-- Writes a field behind relations, each of which must be a single one that is set. -/
def writeAlong [Catalog ε] (leaf : Field ε) (v : Value) :
    List (Field ε) → Record ε → Attempt (Record ε) Unit
  | [], r => .ofExcept r (r.set leaf.name v)
  | field :: rest, r =>
    if field.type.isCollection then .failed (.invalidOperation "set" "collection") r
    else r.attemptRelated field.name (writeAlong leaf v rest)

def write [Catalog ε] (p : Path ε) (r : Record ε) (v : Value) : Attempt (Record ε) Unit :=
  writeAlong p.leaf v p.relations r

def checkAlong : List (Field ε) → Record ε → Except QueryError Unit
  | [], _ => .ok ()
  | field :: rest, r =>
    if field.type.isCollection then .error (.invalidOperation "set" "collection")
    else
      match (r.get field.name).records with
      | [] => .error (.wrongKind "relation" "null")
      | child :: _ => checkAlong rest child

def checkReachable (p : Path ε) (r : Record ε) : Except QueryError Unit :=
  checkAlong p.relations r

/-! ### Pruning -/

def retainAlong (leaf : Field ε) (keep : Record ε → Bool) : List (Field ε) → Record ε → Record ε
  | [], r => r.retainRelated leaf.name keep
  | field :: rest, r => r.mapRelated field.name (retainAlong leaf keep rest)

def retain (p : Path ε) (keep : Record ε → Bool) (r : Record ε) : Record ε :=
  retainAlong p.leaf keep p.relations r

end Path

end EntityQuery
