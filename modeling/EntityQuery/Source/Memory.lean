import EntityQuery.Source.Request

/-! A source of records held in a list. It notes what is asked of it and runs it when told to. -/

namespace EntityQuery

structure MemorySource {ε : Type} (entity : ε) where
  items : List (Record ε)
  filter : Option (Node ε) := none
  key : Option Value := none
  includes : List (Include ε) := []
  projection : Option (Projection ε) := none
  order : List (OrderKey ε) := []
  noTracking : Bool := false
  splitQuery : Bool := false
  cancelled : Option Bool := none

namespace MemorySource

variable {ε : Type} {entity : ε}

def ofItems (items : List (Record ε)) : MemorySource entity :=
  { items }

def accept (source : MemorySource entity) : Request entity → MemorySource entity
  | .watch cancelled => { source with cancelled := some cancelled }
  | .noTracking => { source with noTracking := true }
  | .load relation => { source with includes := source.includes ++ [relation] }
  | .find key => { source with key := some key }
  | .filter p => { source with filter := some ((source.filter.map (·.and p.node)).getD p.node) }
  | .project p => { source with projection := some p }
  | .orderBy key => { source with order := [key] }
  | .thenBy key => { source with order := source.order ++ [key] }
  | .splitQuery => { source with splitQuery := true }

def apply (source : MemorySource entity) (s : Specification entity) (signal : Option Bool) :
    MemorySource entity :=
  (s.requests signal).foldl accept source

def matching (source : MemorySource entity) : List (Record ε) :=
  source.items.filter fun r => (source.filter.map (·.eval r)).getD true

/-- A record without the related records that the filters of the includes reject. The includes are
taken one after the other. -/
def prune (includes : List (Include ε)) (r : Record ε) : Record ε :=
  includes.foldl (fun r i =>
    match i.filter with
    | some filter => i.path.retain (fun related => filter.eval related) r
    | none => r) r

variable [Catalog ε]

def keyField (entity : ε) : Except QueryError (Field ε) :=
  let schema := Catalog.schema entity
  match schema.keyField? with
  | some field => .ok field
  | none => .error (.unresolvedPath schema.name "<key>" (schema.key.getD ""))

def hasKey (field : Field ε) (key : Value) (r : Record ε) : Bool :=
  (r.get field.name).toValue.equals key

/-- The items that are asked for: the first one of the key, or those that pass the filter, sorted. -/
def select (source : MemorySource entity) : Except QueryError (List (Record ε)) :=
  match source.key with
  | some key => (keyField entity).map fun field =>
      (source.items.find? (hasKey field key)).toList
  | none => .ok (OrderKey.sort source.order source.matching)

def fetch (source : MemorySource entity) : Except QueryError (List (Record ε)) :=
  if source.cancelled = some true then .error .cancelled
  else source.select.map (·.map (prune source.includes))

def scalarRow (r : Record ε) : Row :=
  ⟨((Catalog.schema r.entity).fields.filter (!·.type.isRelation)).map fun f =>
    (f.name, (r.get f.name).toValue)⟩

/-- Runs the query and makes a row of each result. A look-up by key is not projected. -/
def fetchRows (source : MemorySource entity) : Except QueryError (List Row) :=
  source.fetch.map (·.map fun r =>
    match source.projection, source.key with
    | some p, none => p.row r
    | _, _ => scalarRow r)

end MemorySource

namespace Specification

variable {ε : Type} {entity : ε} [Catalog ε]

def selects (s : Specification entity) (keyField : Option (Field ε)) (r : Record ε) : Bool :=
  match s.primaryKey, keyField with
  | some key, some field => MemorySource.hasKey field key r
  | _, _ => (s.criteria.map (·.holds r)).getD true

/-- The items with a mark on those that are to be updated, each of which is checked. A look-up by
key ends with its first hit. -/
def markSelected (action : UpdateAction entity) (selects : Record ε → Bool) (single : Bool) :
    List (Record ε) → Except QueryError (List (Record ε × Bool))
  | [] => .ok []
  | r :: rest =>
    if selects r then do
      action.check r
      if single then return (r, true) :: rest.map (·, false)
      else return (r, true) :: (← markSelected action selects single rest)
    else return (r, false) :: (← markSelected action selects single rest)

def markItems (s : Specification entity) (action : UpdateAction entity) (items : List (Record ε)) :
    Except QueryError (List (Record ε × Bool)) := do
  let field ← match s.primaryKey with
    | some _ => (MemorySource.keyField entity).map some
    | none => pure none
  markSelected action (s.selects field) field.isSome items

def applyToMarked (action : UpdateAction entity) :
    List (Record ε × Bool) → Attempt (List (Record ε)) Unit
  | [] => ⟨.ok (), []⟩
  | (r, false) :: rest => (applyToMarked action rest).within (r :: ·)
  | (r, true) :: rest =>
    let attempt := action.apply r
    match attempt.result with
    | .ok _ => (applyToMarked action rest).within (attempt.after :: ·)
    | .error e => .failed e (attempt.after :: rest.map (·.1))

/-- Applies the update to the items it selects: how many there are, and all items afterwards.
Nothing is written before every selected item is checked. -/
def executeUpdate (s : Specification entity) (items : List (Record ε)) :
    Attempt (List (Record ε)) Nat :=
  match s.update with
  | none => ⟨.ok 0, items⟩
  | some action =>
    match s.markItems action items with
    | .error e => .failed e items
    | .ok marked =>
      let attempt := applyToMarked action marked
      ⟨attempt.result.map fun _ => (marked.filter (·.2)).length, attempt.after⟩

end Specification

end EntityQuery
