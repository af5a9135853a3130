import EntityQuery.Query.Node

/-! Predicates on the records of one entity, built from paths and values. -/

namespace EntityQuery

structure Predicate {ε : Type} (entity : ε) where
  node : Node ε

namespace Predicate

variable {ε : Type} {entity : ε}

def always : Predicate entity := ⟨.constant true⟩

def never : Predicate entity := ⟨.constant false⟩

def isAlways (p : Predicate entity) : Bool :=
  p.node.isTrue

def and (p q : Predicate entity) : Predicate entity :=
  ⟨p.node.and q.node⟩

def or (p q : Predicate entity) : Predicate entity :=
  ⟨p.node.or q.node⟩

def negate (p : Predicate entity) : Predicate entity :=
  ⟨p.node.negate⟩

def combine (connective : Connective) (ps : List (Predicate entity)) : Predicate entity :=
  ⟨Node.combine connective (ps.map (·.node))⟩

def butNone : List (Predicate entity) → Predicate entity
  | [] => always
  | first :: others => others.foldl (fun p q => p.and q.negate) first

def onlyIf (condition : Bool) (p : Predicate entity) : Predicate entity :=
  if condition then p else always

def holds (p : Predicate entity) (r : Record ε) : Bool :=
  p.node.eval r

def display (p : Predicate entity) : String :=
  p.node.display

def same [DecidableEq ε] (p q : Predicate entity) : Bool :=
  p.node.same q.node

variable [Catalog ε]

def compare (entity : ε) (path : String) (op : Comparison) (value : Value) :
    Except QueryError (Predicate entity) := do
  let path ← Path.resolve entity path
  let node ← Node.comparison {} path op value
  return ⟨node⟩

def isIn (entity : ε) (path : String) (values : List Value) :
    Except QueryError (Predicate entity) := do
  let path ← Path.resolve entity path
  let values ← values.mapM (Coercion.ofValue {} path.leaf)
  return ⟨.member path (values.foldl insertNew []) false⟩

end Predicate

end EntityQuery
