import EntityQuery.Proofs.Query.Ordering
import EntityQuery.Query.Specification

/-!
The specifications that callers can build, and what holds of all of them because each call keeps it.
-/

namespace EntityQuery

variable {ε : Type}

/-- A call that goes on with a specification. -/
inductive Specification.Call (entity : ε) where
  | filter (p : Predicate entity)
  | setCriteria (p : Predicate entity)
  | setPrimaryKey (key : Value)
  | setNoTracking (on : Bool)
  | setSplitQuery (on : Bool)
  | setUpdate (action : UpdateAction entity)
  | includeRelation (path : String)
  | includeFiltered (related : ε) (path : String) (p : Predicate related)
  | thenInclude (path : String)
  | orderBy (path : String) (direction : Direction)
  | thenBy (path : String) (direction : Direction)
  | setOrderPath (path : String) (direction : Direction)
  | select (column path : String)
  | updateProperty (path : String)
  | updateFrom (config : Config) (model : Record ε)

namespace Specification

def call [DecidableEq ε] [Catalog ε] {entity : ε} (s : Specification entity) :
    Call entity → Except QueryError (Specification entity)
  | .filter p => .ok (s.filter p)
  | .setCriteria p => .ok (s.setCriteria p)
  | .setPrimaryKey key => .ok (s.setPrimaryKey key)
  | .setNoTracking on => .ok (s.setNoTracking on)
  | .setSplitQuery on => .ok (s.setSplitQuery on)
  | .setUpdate action => .ok (s.setUpdate action)
  | .includeRelation path => s.includeRelation path
  | .includeFiltered _ path p => s.includeFiltered path p
  | .thenInclude path => s.thenInclude path
  | .orderBy path direction => s.orderBy path direction
  | .thenBy path direction => s.thenBy path direction
  | .setOrderPath path direction => s.setOrderPath path direction
  | .select column path => s.select column path
  | .updateProperty path => s.updateProperty path
  | .updateFrom config model => s.updateFrom config model

/-- The specifications that can be built. Predicates and updates may be any. -/
inductive Built [DecidableEq ε] [Catalog ε] {entity : ε} : Specification entity → Prop where
  | empty : Built empty
  | ofCriteria (ps : List (Predicate entity)) (connective : Connective) (flags : QueryFlags) :
      Built (ofCriteria ps connective flags)
  | ofKey (key : Value) (flags : QueryFlags) : Built (ofKey key flags)
  | call {s next : Specification entity} {c : Call entity} (built : Built s)
      (done : s.call c = .ok next) : Built next

/-! ### Includes -/

section Includes

variable [Catalog ε] {entity : ε} {s next : Specification entity} {path : String}

theorem relationPath_ok {p : Path ε} (found : relationPath entity path = .ok p) :
    Path.resolve entity path = .ok p ∧ p.type.isRelation = true := by
  obtain ⟨q, resolved, found⟩ := bind_ok found
  split at found
  · cases found
    exact ⟨resolved, ‹_›⟩
  · cases found

theorem includeRelation_ok (done : s.includeRelation path = .ok next) :
    ∃ p, relationPath entity path = .ok p ∧
      next = { s with includes := s.includes ++ [⟨p, none⟩] } := by
  obtain ⟨p, found, done⟩ := bind_ok done
  cases done
  exact ⟨p, found, rfl⟩

/-- A filtered include is accepted where the schema says that records can be dropped. -/
theorem includeFiltered_ok [DecidableEq ε] {related : ε} {q : Predicate related}
    (done : s.includeFiltered path q = .ok next) :
    ∃ p, relationPath entity path = .ok p ∧ (p.type.isCollection = true ∨ p.leaf.nullable = true) ∧
      p.type.target? = some related ∧
      next = { s with includes := s.includes ++ [⟨p, some q.node⟩] } := by
  obtain ⟨p, found, done⟩ := bind_ok done
  by_cases drops : p.type.isCollection = true ∨ p.leaf.nullable = true
  · have may : ¬((!p.type.isCollection && !p.leaf.nullable) = true) := by
      simpa [Classical.or_iff_not_imp_left] using drops
    rw [if_neg may] at done
    by_cases leads : p.type.target? = some related
    · rw [if_neg (not_not_intro leads)] at done
      cases done
      exact ⟨p, found, drops, leads, rfl⟩
    · rw [if_pos leads] at done
      cases done
  · have cannot : (!p.type.isCollection && !p.leaf.nullable) = true := by
      simpa using drops
    rw [if_pos cannot] at done
    cases done

theorem thenInclude_ok (done : s.thenInclude path = .ok next) :
    ∃ path, s.includeRelation path = .ok next := by
  unfold thenInclude at done
  split at done
  · exact ⟨_, done⟩
  · exact ⟨_, done⟩

/-- A call leaves the includes as they are or adds one at a path of the entity. -/
theorem call_includes [DecidableEq ε] {c : Call entity} (done : s.call c = .ok next) :
    next.includes = s.includes ∨
      ∃ text p filter, Path.resolve entity text = .ok p ∧ next.includes = s.includes ++ [⟨p, filter⟩] := by
  cases c
  case includeRelation path =>
    obtain ⟨p, found, rfl⟩ := includeRelation_ok done
    exact Or.inr ⟨path, p, none, (relationPath_ok found).1, rfl⟩
  case includeFiltered related path q =>
    obtain ⟨p, found, -, -, rfl⟩ := includeFiltered_ok done
    exact Or.inr ⟨path, p, some q.node, (relationPath_ok found).1, rfl⟩
  case thenInclude path =>
    obtain ⟨path, done⟩ := thenInclude_ok done
    obtain ⟨p, found, rfl⟩ := includeRelation_ok done
    exact Or.inr ⟨path, p, none, (relationPath_ok found).1, rfl⟩
  case setOrderPath path direction =>
    obtain ⟨_, -, done⟩ := bind_ok done
    cases direction <;> cases done <;> exact Or.inl rfl
  case select column path =>
    obtain ⟨_, -, done⟩ := bind_ok done
    split at done
    · cases done
    · cases done
      exact Or.inl rfl
  case updateProperty | updateFrom | orderBy | thenBy =>
    obtain ⟨_, -, done⟩ := bind_ok done
    cases done
    exact Or.inl rfl
  all_goals
    cases done
    exact Or.inl rfl

theorem Built.includes_reach [DecidableEq ε] (built : s.Built) :
    ∀ i ∈ s.includes, ∃ owner, i.path.Reaches entity owner := by
  induction built with
  | empty | ofCriteria | ofKey => exact nofun
  | call _ done ih =>
    rcases call_includes done with same | ⟨text, p, filter, resolved, more⟩
    · rw [same]
      exact ih
    · rw [more, List.forall_mem_append, List.forall_mem_singleton]
      exact ⟨ih, Path.resolve_reaches resolved⟩

end Includes

/-! ### Sort keys and columns -/

/-- Where a call puts a sort: in front of a new list, behind the list, or into the place of the single
path of a direction. -/
inductive SortPlace where
  | front
  | behind
  | alone
  deriving DecidableEq, Repr

/-- A sort that a call asks for. -/
structure SortCall where
  place : SortPlace
  path : String
  direction : Direction
  deriving DecidableEq, Repr

def Call.sort? {entity : ε} : Call entity → Option SortCall
  | .orderBy path direction => some ⟨.front, path, direction⟩
  | .thenBy path direction => some ⟨.behind, path, direction⟩
  | .setOrderPath path direction => some ⟨.alone, path, direction⟩
  | _ => none

def Call.column? {entity : ε} : Call entity → Option (String × String)
  | .select column path => some (column, path)
  | _ => none

section Calls

variable [Catalog ε] {entity : ε} {s next : Specification entity} {path column : String}
  {direction : Direction}

theorem orderBy_ok (done : s.orderBy path direction = .ok next) :
    ∃ key, OrderKey.resolve entity path direction = .ok key ∧ next = { s with order := [key] } := by
  obtain ⟨key, resolved, done⟩ := bind_ok done
  cases done
  exact ⟨key, resolved, rfl⟩

theorem thenBy_ok (done : s.thenBy path direction = .ok next) :
    ∃ key, OrderKey.resolve entity path direction = .ok key ∧
      next = { s with order := s.order ++ [key] } := by
  obtain ⟨key, resolved, done⟩ := bind_ok done
  cases done
  exact ⟨key, resolved, rfl⟩

theorem setOrderPath_ok (done : s.setOrderPath path direction = .ok next) :
    ∃ p, Path.resolve entity path = .ok p ∧
      (direction = .ascending ∧ next = { s with ascendingPath := some p } ∨
        direction = .descending ∧ next = { s with descendingPath := some p }) := by
  obtain ⟨p, resolved, done⟩ := bind_ok done
  cases direction with
  | ascending =>
    cases done
    exact ⟨p, resolved, Or.inl ⟨rfl, rfl⟩⟩
  | descending =>
    cases done
    exact ⟨p, resolved, Or.inr ⟨rfl, rfl⟩⟩

theorem select_ok (done : s.select column path = .ok next) :
    ∃ p, Path.resolve entity path = .ok p ∧
      next = { s with projection := some ((s.projection.getD {}).push column p) } := by
  obtain ⟨p, resolved, done⟩ := bind_ok done
  split at done
  · cases done
  · cases done
    exact ⟨p, resolved, rfl⟩

/-- Calls that ask for no sort leave all of them as they are, and so do calls that select no column with the
projection. -/
theorem call_keeps [DecidableEq ε] {c : Call entity} (done : s.call c = .ok next) :
    (c.sort? = none → next.order = s.order ∧ next.ascendingPath = s.ascendingPath ∧
      next.descendingPath = s.descendingPath) ∧
    (c.column? = none → next.projection = s.projection) := by
  cases c
  case filter | setCriteria | setPrimaryKey | setNoTracking | setSplitQuery | setUpdate =>
    cases done
    exact ⟨fun _ => ⟨rfl, rfl, rfl⟩, fun _ => rfl⟩
  case updateProperty | updateFrom =>
    obtain ⟨_, -, done⟩ := bind_ok done
    cases done
    exact ⟨fun _ => ⟨rfl, rfl, rfl⟩, fun _ => rfl⟩
  case includeRelation path =>
    obtain ⟨_, -, rfl⟩ := includeRelation_ok done
    exact ⟨fun _ => ⟨rfl, rfl, rfl⟩, fun _ => rfl⟩
  case includeFiltered related path p =>
    obtain ⟨_, -, -, -, rfl⟩ := includeFiltered_ok done
    exact ⟨fun _ => ⟨rfl, rfl, rfl⟩, fun _ => rfl⟩
  case thenInclude path =>
    obtain ⟨path, done⟩ := thenInclude_ok done
    obtain ⟨_, -, rfl⟩ := includeRelation_ok done
    exact ⟨fun _ => ⟨rfl, rfl, rfl⟩, fun _ => rfl⟩
  case orderBy path direction =>
    obtain ⟨_, -, rfl⟩ := orderBy_ok done
    exact ⟨nofun, fun _ => rfl⟩
  case thenBy path direction =>
    obtain ⟨_, -, rfl⟩ := thenBy_ok done
    exact ⟨nofun, fun _ => rfl⟩
  case setOrderPath path direction =>
    obtain ⟨_, -, ⟨-, rfl⟩ | ⟨-, rfl⟩⟩ := setOrderPath_ok done
    · exact ⟨nofun, fun _ => rfl⟩
    · exact ⟨nofun, fun _ => rfl⟩
  case select column path =>
    obtain ⟨_, -, rfl⟩ := select_ok done
    exact ⟨fun _ => ⟨rfl, rfl, rfl⟩, nofun⟩

end Calls

variable [LayoutCatalog ε] {entity : ε} {s next : Specification entity}

structure Sortable (s : Specification entity) : Prop where
  order : ∀ key ∈ s.order, key.On entity
  ascending : ∀ p ∈ s.ascendingPath, ∃ owner, p.Reaches entity owner
  descending : ∀ p ∈ s.descendingPath, ∃ owner, p.Reaches entity owner

theorem Sortable.of_frame (sortable : s.Sortable) (order : next.order = s.order)
    (ascending : next.ascendingPath = s.ascendingPath)
    (descending : next.descendingPath = s.descendingPath) : next.Sortable := by
  refine ⟨?_, ?_, ?_⟩
  · rw [order]
    exact sortable.order
  · rw [ascending]
    exact sortable.ascending
  · rw [descending]
    exact sortable.descending

theorem resolve_on {path : String} {direction : Direction} {key : OrderKey ε}
    (resolved : OrderKey.resolve entity path direction = .ok key) : key.On entity := by
  obtain ⟨p, found, rfl⟩ := map_ok resolved
  exact Path.resolve_reaches found

theorem call_sortable [DecidableEq ε] {c : Call entity} (sortable : s.Sortable)
    (done : s.call c = .ok next) : next.Sortable := by
  cases c
  case orderBy path direction =>
    obtain ⟨key, resolved, rfl⟩ := orderBy_ok done
    exact ⟨fun k member => List.mem_singleton.mp member ▸ resolve_on resolved, sortable.ascending,
      sortable.descending⟩
  case thenBy path direction =>
    obtain ⟨key, resolved, rfl⟩ := thenBy_ok done
    refine ⟨?_, sortable.ascending, sortable.descending⟩
    intro k member
    rcases List.mem_append.mp member with old | new
    · exact sortable.order k old
    · exact List.mem_singleton.mp new ▸ resolve_on resolved
  case setOrderPath path direction =>
    obtain ⟨p, resolved, ⟨rfl, rfl⟩ | ⟨rfl, rfl⟩⟩ := setOrderPath_ok done
    · exact ⟨sortable.order, fun q same => Option.some.inj same ▸ Path.resolve_reaches resolved,
        sortable.descending⟩
    · exact ⟨sortable.order, sortable.ascending,
        fun q same => Option.some.inj same ▸ Path.resolve_reaches resolved⟩
  all_goals
    obtain ⟨order, ascending, descending⟩ := (call_keeps done).1 rfl
    exact sortable.of_frame order ascending descending

theorem start_sortable (order : s.order = []) (ascending : s.ascendingPath = none)
    (descending : s.descendingPath = none) : s.Sortable :=
  ⟨by simp [order], by simp [ascending], by simp [descending]⟩

theorem Built.sortable [DecidableEq ε] (built : s.Built) : s.Sortable := by
  induction built with
  | empty | ofCriteria | ofKey => exact start_sortable rfl rfl rfl
  | call _ done ih => exact call_sortable ih done

theorem Sortable.orderKeys (sortable : s.Sortable) : ∀ key ∈ s.orderKeys, key.On entity := by
  unfold Specification.orderKeys
  intro key member
  split at member
  · rename_i ascending
    rw [List.mem_singleton.mp member]
    exact sortable.ascending _ ascending
  · rename_i descending
    rw [List.mem_singleton.mp member]
    exact sortable.descending _ descending
  · exact sortable.order key member

end Specification

end EntityQuery
