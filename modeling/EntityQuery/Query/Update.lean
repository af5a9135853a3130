import EntityQuery.Json.Basic
import EntityQuery.Query.Coercion
import EntityQuery.Path.Basic

/-! Updates of records: lists of values to be written to paths. -/

namespace EntityQuery

open EntityQuery.Text

structure Setter (ε : Type) where
  path : Path ε
  value : Value
  deriving DecidableEq, Repr

namespace Setter

variable {ε : Type}

def display (s : Setter ε) : String :=
  s.path.text ++ " = " ++ s.value.display

/-- The record after the write. A value that does not fit its field is passed over. -/
def apply [Catalog ε] (r : Record ε) (s : Setter ε) : Record ε :=
  (s.path.write r s.value).after

end Setter

structure UpdateAction {ε : Type} (entity : ε) where
  setters : List (Setter ε) := []
  deriving DecidableEq, Repr

def Json.flattenUnder (parent : String) : List (String × Json) → List (String × Json)
  | [] => []
  | (key, .object members) :: rest =>
    flattenUnder (parent ++ key ++ ".") members ++ flattenUnder parent rest
  | (key, json) :: rest => (parent ++ key, json) :: flattenUnder parent rest

def Json.flatten (members : List (String × Json)) : List (String × Json) :=
  flattenUnder "" members

namespace UpdateAction

variable {ε : Type} {entity : ε}

def push (action : UpdateAction entity) (s : Setter ε) : UpdateAction entity :=
  ⟨action.setters ++ [s]⟩

def checkWritable (path : Path ε) : Except QueryError Unit :=
  if path.type.isRelation then .error (.invalidOperation "set" path.type.name)
  else if path.crossesCollection then .error (.invalidOperation "set" "collection")
  else .ok ()

def coerce (config : Config) (path : Path ε) (raw : Value) : Except QueryError Value :=
  match Coercion.ofValue config path.leaf raw with
  | .ok v => .ok v
  | .error e =>
    match config.coercionPolicy with
    | .strict => .error e
    | .degrade => .ok raw

def display (action : UpdateAction entity) : String :=
  "set " ++ joined ", " (action.setters.map (·.display))

def check (action : UpdateAction entity) (r : Record ε) : Except QueryError Unit :=
  action.setters.forM fun s => s.path.checkReachable r

/-- The setters for what a model holds at the selected paths. A null at a field that takes none
comes from an unset relation, and the path is passed over. -/
def ofModel [DecidableEq ε] [Catalog ε] (config : Config) (selectors : List (Path ε))
    (model : Record ε) : Except QueryError (UpdateAction entity) :=
  selectors.foldlM (fun action path => do
    if path.root ≠ entity then
      throw (.wrongEntity (entityName entity) (entityName path.root))
    checkWritable path
    let value := path.readFirst model
    if value.isNull && !path.leaf.nullable then return action
    else return action.push ⟨path, ← coerce config path value⟩) {}

variable [Catalog ε]

def set (action : UpdateAction entity) (path : String) (value : Value) :
    Except QueryError (UpdateAction entity) := do
  let path ← Path.resolve entity path
  checkWritable path
  let value ← Coercion.ofValue {} path.leaf value
  return action.push ⟨path, value⟩

def apply (action : UpdateAction entity) (r : Record ε) : Attempt (Record ε) Unit :=
  match action.check r with
  | .ok _ => ⟨.ok (), action.setters.foldl Setter.apply r⟩
  | .error e => .failed e r

/-- The setter for one flattened member, if it is to be kept. An array is no value of a field; under
the lenient policy it is passed over. -/
def setterOf? (entity : ε) (config : Config) (key : String) (json : Json) :
    Except QueryError (Option (Setter ε)) := do
  let path ← Path.resolve entity key
  checkWritable path
  match Value.ofJson? json with
  | .ok raw => return some ⟨path, ← coerce config path raw⟩
  | .error e =>
    match config.coercionPolicy with
    | .strict => throw e
    | .degrade => return none

def ofMembers (config : Config) (members : List (String × Json)) :
    Except QueryError (UpdateAction entity) := do
  let setters ← (Json.flatten members).mapM fun (key, json) => setterOf? entity config key json
  return ⟨setters.filterMap id⟩

def ofJson (config : Config) : Json → Except QueryError (UpdateAction entity)
  | .object members => ofMembers config members
  | json => .error (.notConvertible json.render "object")

end UpdateAction

end EntityQuery
