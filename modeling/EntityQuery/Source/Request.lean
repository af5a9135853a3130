import EntityQuery.Query.Specification

/-! The requests that a specification makes of a source of records, in their order. -/

namespace EntityQuery

inductive Request {ε : Type} (entity : ε) where
  /-- Watches for cancellation; the query may be called off already. -/
  | watch (cancelled : Bool)
  | noTracking
  | load (relation : Include ε)
  | find (key : Value)
  | filter (p : Predicate entity)
  | project (p : Projection ε)
  | orderBy (key : OrderKey ε)
  | thenBy (key : OrderKey ε)
  | splitQuery

namespace Specification

variable {ε : Type} {entity : ε}

def orderRequests (s : Specification entity) : List (Request entity) :=
  match s.orderKeys with
  | [] => []
  | key :: rest => .orderBy key :: rest.map .thenBy

def selectionRequests (s : Specification entity) : List (Request entity) :=
  match s.primaryKey with
  | some key => [.find key]
  | none =>
    s.criteria.toList.map .filter ++ s.projection.toList.map .project ++ s.orderRequests ++
      if s.flags.splitQuery then [.splitQuery] else []

def requests (s : Specification entity) (signal : Option Bool) : List (Request entity) :=
  signal.toList.map .watch ++ (if s.flags.noTracking then [.noTracking] else []) ++
    s.includes.map .load ++ s.selectionRequests

end Specification

end EntityQuery
