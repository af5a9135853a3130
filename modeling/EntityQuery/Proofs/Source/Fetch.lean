import EntityQuery.Proofs.Query.Construction
import EntityQuery.Proofs.Record.Library
import EntityQuery.Source.Memory

/-!
Fetching from a list of records. What a specification asks of the source comes down to one selection
of items, which is then pruned item by item.
-/

namespace EntityQuery

variable {ε : Type} {entity : ε}

/-! ### What the source has noted -/

namespace MemorySource

theorem foldl_accept_load (source : MemorySource entity) (includes : List (Include ε)) :
    (includes.map Request.load).foldl accept source =
      { source with includes := source.includes ++ includes } := by
  induction includes generalizing source with
  | nil => simp
  | cons first rest ih =>
    rw [List.map_cons, List.foldl_cons, ih]
    simp [accept]

theorem foldl_accept_thenBy (source : MemorySource entity) (keys : List (OrderKey ε)) :
    (keys.map Request.thenBy).foldl accept source = { source with order := source.order ++ keys } := by
  induction keys generalizing source with
  | nil => simp
  | cons first rest ih =>
    rw [List.map_cons, List.foldl_cons, ih]
    simp [accept]

theorem foldl_accept_order (source : MemorySource entity) (s : Specification entity)
    (fresh : source.order = []) :
    s.orderRequests.foldl accept source = { source with order := s.orderKeys } := by
  unfold Specification.orderRequests
  cases s.orderKeys with
  | nil => simp [← fresh]
  | cons key rest =>
    rw [List.foldl_cons, foldl_accept_thenBy]
    rfl

def prepared (items : List (Record ε)) (s : Specification entity) (signal : Option Bool) :
    MemorySource entity :=
  { items, includes := s.includes, noTracking := s.flags.noTracking, cancelled := signal }

theorem apply_ofItems (items : List (Record ε)) (s : Specification entity) (signal : Option Bool) :
    (ofItems items).apply s signal = s.selectionRequests.foldl accept (prepared items s signal) := by
  have watched : (signal.toList.map Request.watch).foldl accept (ofItems items) =
      ({ items, cancelled := signal } : MemorySource entity) := by
    cases signal <;> rfl
  have tracked : (if s.flags.noTracking then [Request.noTracking] else []).foldl accept
      ({ items, cancelled := signal } : MemorySource entity) =
      { items, noTracking := s.flags.noTracking, cancelled := signal } := by
    cases s.flags.noTracking <;> rfl
  unfold apply Specification.requests
  rw [List.foldl_append, List.foldl_append, List.foldl_append, watched, tracked, foldl_accept_load]
  rfl

theorem apply_of_key {s : Specification entity} {key : Value} (keyed : s.primaryKey = some key)
    (items : List (Record ε)) (signal : Option Bool) :
    (ofItems items).apply s signal = { prepared items s signal with key := some key } := by
  rw [apply_ofItems, Specification.selectionRequests, keyed]
  rfl

theorem apply_of_no_key {s : Specification entity} (keyless : s.primaryKey = none)
    (items : List (Record ε)) (signal : Option Bool) :
    (ofItems items).apply s signal =
      { prepared items s signal with
        filter := s.criteria.map (·.node)
        projection := s.projection
        order := s.orderKeys
        splitQuery := s.flags.splitQuery } := by
  rw [apply_ofItems, Specification.selectionRequests, keyless]
  have filtered : (s.criteria.toList.map Request.filter).foldl accept (prepared items s signal) =
      { prepared items s signal with filter := s.criteria.map (·.node) } := by
    cases s.criteria <;> rfl
  have projected : ∀ source : MemorySource entity, source.projection = none →
      (s.projection.toList.map Request.project).foldl accept source =
        { source with projection := s.projection } := by
    rintro ⟨⟩ fresh
    cases fresh
    cases s.projection <;> rfl
  have split : ∀ source : MemorySource entity, source.splitQuery = false →
      (if s.flags.splitQuery then [Request.splitQuery] else []).foldl accept source =
        { source with splitQuery := s.flags.splitQuery } := by
    rintro ⟨⟩ fresh
    cases fresh
    cases s.flags.splitQuery <;> rfl
  simp only [List.foldl_append]
  rw [filtered, projected _ rfl, foldl_accept_order _ _ rfl, split _ rfl]

theorem apply_with_includes {s : Specification entity} {items : List (Record ε)} {signal : Option Bool}
    (includes : List (Include ε)) :
    (ofItems items).apply { s with includes } signal = { (ofItems items).apply s signal with includes } := by
  rcases Option.eq_none_or_eq_some s.primaryKey with keyless | ⟨key, keyed⟩
  · rw [apply_of_no_key (s := { s with includes }) keyless, apply_of_no_key keyless]
    rfl
  · rw [apply_of_key (s := { s with includes }) keyed, apply_of_key keyed]
    rfl

/-! ### What is selected -/

theorem matching_of_criteria (source : MemorySource entity) (criteria : Option (Predicate entity))
    (noted : source.filter = criteria.map (·.node)) :
    source.matching = source.items.filter fun r => criteria.all (·.holds r) := by
  unfold matching
  rw [noted]
  cases criteria <;> rfl

variable [Catalog ε] {s : Specification entity} {items : List (Record ε)}

theorem fetch_of_no_key (keyless : s.primaryKey = none) :
    ((ofItems items).apply s none).fetch =
      .ok ((OrderKey.sort s.orderKeys (items.filter fun r => s.criteria.all (·.holds r))).map
        (prune s.includes)) := by
  rw [apply_of_no_key keyless]
  have selected := matching_of_criteria
    { prepared items s none with
      filter := s.criteria.map (·.node)
      projection := s.projection
      order := s.orderKeys
      splitQuery := s.flags.splitQuery } s.criteria rfl
  unfold fetch select
  rw [selected]
  rfl

/-- Where nothing is asked of the items, all are fetched in their order. -/
theorem fetch_all (keyless : s.primaryKey = none) (all : s.criteria = none) (unsorted : s.orderKeys = []) :
    ((ofItems items).apply s none).fetch = .ok (items.map (prune s.includes)) := by
  have every : (items.filter fun r => s.criteria.all (·.holds r)) = items := by
    rw [all]
    exact List.filter_eq_self.mpr fun _ _ => rfl
  rw [fetch_of_no_key keyless, every, unsorted, OrderKey.sort_nil]

theorem fetch_of_key {key : Value} (keyed : s.primaryKey = some key) :
    ((ofItems items).apply s none).fetch =
      (keyField entity).map fun field =>
        (items.find? (hasKey field key)).toList.map (prune s.includes) := by
  rw [apply_of_key keyed]
  unfold fetch select
  rw [if_neg (by simp [prepared])]
  cases keyField entity <;> rfl

def roots (source : MemorySource entity) : Except QueryError (List (Record ε)) :=
  if source.cancelled = some true then .error .cancelled else source.select

theorem fetch_eq (source : MemorySource entity) :
    source.fetch = source.roots.map (·.map (prune source.includes)) := by
  unfold fetch roots
  split <;> rfl

/-- The includes of a specification have no part in the choice of the items. -/
theorem fetch_with (s : Specification entity) (includes : List (Include ε)) (items : List (Record ε))
    (signal : Option Bool) :
    ((ofItems items).apply { s with includes } signal).fetch =
      ((ofItems items).apply s signal).roots.map (·.map (prune includes)) := by
  rw [apply_with_includes, fetch_eq]
  rfl

theorem keyField_of_some {field : Field ε} (found : (Catalog.schema entity).keyField? = some field) :
    keyField entity = .ok field := by
  simp only [keyField, found]

theorem keyField_of_none (missing : (Catalog.schema entity).keyField? = none) :
    keyField entity = .error
      (.unresolvedPath (entityName entity) "<key>" ((Catalog.schema entity).key.getD "")) := by
  simp only [keyField, missing, entityName]

end MemorySource

/-! ### The selection -/

section Selection

variable [DecidableEq ε] [LayoutCatalog ε] {s : Specification entity} {items : List (Record ε)}

/-- Without a key, all items that meet the criteria are fetched in a stable order by the sort keys.
With a key, the first item that has it is fetched, whatever else is asked, unless the entity has no
key field. Pruning comes last. -/
theorem fetch_selects_items (built : s.Built) (fits : ∀ r ∈ items, Record.Fits entity r) :
    (s.primaryKey = none → ∃ found,
      ((MemorySource.ofItems items).apply s none).fetch =
        .ok (found.map (MemorySource.prune s.includes)) ∧
      StablySorted (OrderKey.compareBy s.orderKeys)
        (items.filter fun r => s.criteria.all (·.holds r)) found) ∧
    ∀ key, s.primaryKey = some key →
      (∀ field, (Catalog.schema entity).keyField? = some field →
        ((MemorySource.ofItems items).apply s none).fetch =
          .ok ((items.find? fun r => (r.get field.name).toValue.equals key).toList.map
            (MemorySource.prune s.includes))) ∧
      ((∃ name path segment, ((MemorySource.ofItems items).apply s none).fetch =
          .error (.unresolvedPath name path segment)) ↔
        (Catalog.schema entity).keyField? = none) := by
  refine ⟨?_, ?_⟩
  · intro keyless
    have selected : ∀ r ∈ items.filter fun r => s.criteria.all (·.holds r), Record.Fits entity r :=
      fun r member => fits r (List.mem_filter.mp member).1
    exact ⟨_, MemorySource.fetch_of_no_key keyless,
      OrderKey.sort_stablySorted built.sortable.orderKeys selected⟩
  · intro key keyed
    rw [MemorySource.fetch_of_key keyed]
    refine ⟨?_, ?_⟩
    · intro field found
      rw [MemorySource.keyField_of_some found]
      rfl
    · cases found : (Catalog.schema entity).keyField? with
      | none =>
        rw [MemorySource.keyField_of_none found]
        exact ⟨fun _ => rfl, fun _ => ⟨_, _, _, rfl⟩⟩
      | some field =>
        rw [MemorySource.keyField_of_some found]
        exact ⟨nofun, nofun⟩

end Selection

namespace Library

def byRating : Specification author :=
  { order := [⟨⟨author, [], ⟨"rating", .float, false⟩⟩, .descending⟩] }

theorem byRating_built : byRating.Built :=
  .call (c := .orderBy "rating" .descending) .empty rfl

/-- Two authors share a rating and one has none. -/
def ratedAuthors : List (Record Library) :=
  [newAuthor 1 "Ann" (.ofInt 4) [], newAuthor 2 "Bob" (.nan true) [], newAuthor 3 "Cid" (.ofInt 4) []]

theorem ratedAuthors_fit : ∀ r ∈ ratedAuthors, Record.Fits author r := by
  intro r member
  simp only [ratedAuthors, List.mem_cons, List.not_mem_nil, or_false] at member
  rcases member with rfl | rfl | rfl <;> exact newAuthor_fits _ _ _ (by simp)

theorem fetch_byRating : byRating.Built ∧ (∀ r ∈ ratedAuthors, Record.Fits author r) ∧
    ∃ found, ((MemorySource.ofItems ratedAuthors).apply byRating none).fetch =
        .ok (found.map (MemorySource.prune [])) ∧
      StablySorted (OrderKey.compareBy byRating.orderKeys) ratedAuthors found :=
  ⟨byRating_built, ratedAuthors_fit, (fetch_selects_items byRating_built ratedAuthors_fit).1 rfl⟩

end Library

end EntityQuery
