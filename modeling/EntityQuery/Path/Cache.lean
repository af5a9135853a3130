import EntityQuery.Path.Basic

/-! A store of resolved paths under the entity and the text they were resolved from. -/

namespace EntityQuery

structure PathCache (ε : Type) where
  entries : List ((ε × String) × Path ε) := []

namespace PathCache

variable {ε : Type} [DecidableEq ε] [Catalog ε]

def empty : PathCache ε := {}

def size (cache : PathCache ε) : Nat :=
  cache.entries.length

def isEmpty (cache : PathCache ε) : Bool :=
  cache.size == 0

def clear (_ : PathCache ε) : PathCache ε := empty

def find? (cache : PathCache ε) (root : ε) (path : String) : Option (Path ε) :=
  cache.entries.lookup (root, path)

/-- Resolves a path and keeps it. What cannot be resolved is not kept. -/
def resolve (cache : PathCache ε) (root : ε) (path : String) :
    Except QueryError (Path ε) × PathCache ε :=
  match cache.find? root path with
  | some found => (.ok found, cache)
  | none =>
    match Path.resolve root path with
    | .ok resolved => (.ok resolved, ⟨((root, path), resolved) :: cache.entries⟩)
    | .error e => (.error e, cache)

end PathCache

end EntityQuery
