import EntityQuery.Path.Basic
import EntityQuery.Value.Order

/-! Sorting records by lists of keys. Each key settles only what those before it leave open. -/

namespace EntityQuery

structure OrderKey (ε : Type) where
  path : Path ε
  direction : Direction
  deriving DecidableEq, Repr

namespace OrderKey

variable {ε : Type}

def resolve [Catalog ε] (entity : ε) (path : String) (direction : Direction) :
    Except QueryError (OrderKey ε) :=
  (Path.resolve entity path).map (OrderKey.mk · direction)

def compare (key : OrderKey ε) (a b : Record ε) : Ordering :=
  key.direction.apply ((key.path.readFirst a).sortCompare (key.path.readFirst b))

def display (key : OrderKey ε) : String :=
  key.path.text ++ " " ++ key.direction.name

/-- The order by a list of keys: that of the first key which tells the records apart. -/
def compareBy (keys : List (OrderKey ε)) (a b : Record ε) : Ordering :=
  match keys with
  | [] => .eq
  | key :: rest => (key.compare a b).then (compareBy rest a b)

def sortOn {α : Type} (record : α → Record ε) (keys : List (OrderKey ε)) (items : List α) : List α :=
  items.mergeSort fun a b => (compareBy keys (record a) (record b)).isLE

def sort (keys : List (OrderKey ε)) (records : List (Record ε)) : List (Record ε) :=
  sortOn id keys records

end OrderKey

end EntityQuery
