import EntityQuery.Proofs.Source.Selection

/-!
Updating a list of records. The items that an update reaches are checked before the first write, so it
changes all of them or none, and they are the items that a fetch finds.
-/

namespace EntityQuery

variable {ε : Type} {entity : ε}

/-! ### Checks -/

theorem Path.checkAlong_error {relations : List (Field ε)} {r : Record ε} {e : QueryError}
    (failed : Path.checkAlong relations r = .error e) :
    e = .invalidOperation "set" "collection" ∨ e = .wrongKind "relation" "null" := by
  induction relations generalizing r with
  | nil => cases failed
  | cons field rest ih =>
    rw [checkAlong] at failed
    split at failed
    · cases failed
      exact Or.inl rfl
    · split at failed
      · cases failed
        exact Or.inr rfl
      · exact ih failed

namespace UpdateAction

variable {action : UpdateAction entity} {r : Record ε}

theorem check_error {e : QueryError} (failed : action.check r = .error e) :
    e = .invalidOperation "set" "collection" ∨ e = .wrongKind "relation" "null" := by
  obtain ⟨setters⟩ := action
  rw [check, List.forM_eq_forM] at failed
  induction setters with
  | nil => cases failed
  | cons setter rest ih =>
    rw [List.forM_cons] at failed
    cases checked : setter.path.checkReachable r with
    | error e' =>
      rw [checked] at failed
      cases failed
      exact Path.checkAlong_error checked
    | ok _ =>
      rw [checked] at failed
      exact ih failed

theorem apply_of_check [Catalog ε] (checked : action.check r = .ok ()) :
    (action.apply r).result = .ok () := by
  simp only [apply, checked]

end UpdateAction

/-! ### Writes -/

namespace Specification

section Writes

variable [Catalog ε] {s : Specification entity} {action : UpdateAction entity} {items : List (Record ε)}

theorem applyToMarked_of_checked {marked : List (Record ε × Bool)}
    (checked : ∀ m ∈ marked, m.2 = true → action.check m.1 = .ok ()) :
    applyToMarked action marked =
      ⟨.ok (), marked.map fun m => if m.2 then (action.apply m.1).after else m.1⟩ := by
  induction marked with
  | nil => rfl
  | cons m rest ih =>
    obtain ⟨r, chosen⟩ := m
    have tail := ih fun m member => checked m (List.mem_cons_of_mem _ member)
    cases chosen with
    | false =>
      rw [applyToMarked, tail]
      rfl
    | true =>
      have applied := UpdateAction.apply_of_check (checked (r, true) List.mem_cons_self rfl)
      rw [applyToMarked]
      simp only [applied]
      rw [tail]
      rfl

theorem executeUpdate_of_not_keyed (update : s.update = some action) (missing : ¬s.Keyed) :
    s.executeUpdate items = .failed
      (.unresolvedPath (entityName entity) "<key>" ((Catalog.schema entity).key.getD "")) items := by
  simp only [executeUpdate, update, markItems_of_not_keyed missing]

theorem executeUpdate_of_checked (update : s.update = some action) (keyed : s.Keyed)
    (checked : ∀ place ∈ s.places items, ∀ r ∈ items[place]?, action.check r = .ok ()) :
    s.executeUpdate items = ⟨.ok (s.places items).length, items.mapIdx fun place r =>
      if place ∈ s.places items then (action.apply r).after else r⟩ := by
  rcases markItems_of_keyed action items keyed with
    ⟨marked, done, marks⟩ | ⟨e, -, place, member, r, present, failed⟩
  · simp only [executeUpdate, update, done, applyToMarked_of_checked marks.checked]
    rw [marks.count, marks.map fun r => (action.apply r).after]
    rfl
  · rw [checked place member r present] at failed
    cases failed

theorem executeUpdate_of_not_checked (update : s.update = some action) (keyed : s.Keyed)
    (refused : ¬∀ place ∈ s.places items, ∀ r ∈ items[place]?, action.check r = .ok ()) :
    ∃ e, s.executeUpdate items = .failed e items ∧
      (e = .invalidOperation "set" "collection" ∨ e = .wrongKind "relation" "null") := by
  rcases markItems_of_keyed action items keyed with ⟨marked, -, marks⟩ | ⟨e, done, _, _, _, _, failed⟩
  · exact absurd marks.checked_items refused
  · exact ⟨e, by simp only [executeUpdate, update, done], UpdateAction.check_error failed⟩

/-- An update writes to all items that it reaches or leaves everything as it was. It writes if there
is a key field for its key and every item that it reaches passes the check. -/
theorem executeUpdate_all_or_nothing (update : s.update = some action) :
    (∀ e, (s.executeUpdate items).result = .error e → (s.executeUpdate items).after = items) ∧
    (∀ n, (s.executeUpdate items).result = .ok n → n = (s.places items).length ∧
      (∀ place ∈ s.places items, ∀ r ∈ items[place]?, (action.apply r).result = .ok ()) ∧
      (s.executeUpdate items).after = items.mapIdx fun place r =>
        if place ∈ s.places items then (action.apply r).after else r) ∧
    ((∃ n, (s.executeUpdate items).result = .ok n) ↔ s.Keyed ∧
      ∀ place ∈ s.places items, ∀ r ∈ items[place]?, action.check r = .ok ()) := by
  by_cases keyed : s.Keyed
  · by_cases checked : ∀ place ∈ s.places items, ∀ r ∈ items[place]?, action.check r = .ok ()
    · rw [executeUpdate_of_checked update keyed checked]
      refine ⟨nofun, ?_, fun _ => ⟨keyed, checked⟩, fun _ => ⟨_, rfl⟩⟩
      intro n counted
      cases counted
      exact ⟨rfl, fun place member r present =>
        UpdateAction.apply_of_check (checked place member r present), rfl⟩
    · obtain ⟨e, refused, -⟩ := executeUpdate_of_not_checked update keyed checked
      rw [refused]
      exact ⟨fun _ _ => rfl, nofun, nofun, fun may => absurd may.2 checked⟩
  · rw [executeUpdate_of_not_keyed update keyed]
    exact ⟨fun _ _ => rfl, nofun, nofun, fun may => absurd may.1 keyed⟩

end Writes

end Specification

namespace Library

def newName (name : String) : UpdateAction author :=
  ⟨[⟨⟨author, [], ⟨"name", .string, false⟩⟩, .string name⟩]⟩

/-- Renames the author of one key. -/
def rename (id : UInt64) (name : String) : Specification author :=
  { primaryKey := some (.number (.unsigned id)), update := some (newName name) }

theorem rename_second : ((rename 2 "Bo").executeUpdate ratedAuthors).result = .ok 1 ∧
    (rename 2 "Bo").places ratedAuthors = [1] ∧
    ((rename 2 "Bo").executeUpdate ratedAuthors).after = ratedAuthors.mapIdx fun place r =>
      if place ∈ (rename 2 "Bo").places ratedAuthors then ((newName "Bo").apply r).after else r :=
  ⟨rfl, rfl, ((Specification.executeUpdate_all_or_nothing rfl).2.1 1 rfl).2.2⟩

end Library

/-! ### Updates and fetches -/

namespace Specification

section Fetches

variable [Catalog ε] {s : Specification entity} {action : UpdateAction entity} {items : List (Record ε)}

theorem fetch_of_not_keyed (missing : ¬s.Keyed) : ((MemorySource.ofItems items).apply s none).fetch =
    .error (.unresolvedPath (entityName entity) "<key>" ((Catalog.schema entity).key.getD "")) := by
  obtain ⟨key, given, missing⟩ := key_of_not_keyed missing
  rw [MemorySource.fetch_of_key given, MemorySource.keyField_of_none missing]
  rfl

theorem fetch_of_keyed (items : List (Record ε)) (keyed : s.Keyed) : ∃ found : List (Record ε),
    ((MemorySource.ofItems items).apply s none).fetch =
        .ok (found.map (MemorySource.prune s.includes)) ∧
      found.Perm ((s.places items).filterMap (items[·]?)) := by
  unfold places
  cases given : s.primaryKey with
  | none =>
    have selected := getElem?_hits (fun r => s.criteria.all (·.holds r)) false items
    refine ⟨OrderKey.sort s.orderKeys (items.filter fun r => s.criteria.all (·.holds r)),
      MemorySource.fetch_of_no_key given, ?_⟩
    exact (List.mergeSort_perm _ _).trans (.of_eq selected.symm)
  | some key =>
    obtain ⟨field, found⟩ := Option.isSome_iff_exists.mp (keyed (by rw [given]; rfl))
    have selected := getElem?_hits (MemorySource.hasKey field key) true items
    refine ⟨(items.find? (MemorySource.hasKey field key)).toList, ?_, ?_⟩
    · rw [MemorySource.fetch_of_key given, MemorySource.keyField_of_some found]
      rfl
    · rw [found]
      exact .of_eq selected.symm

/-- The update and the fetch of a specification select the same items. A key without a key field is
the one path that either of them fails to resolve, and both fail with the same error. -/
theorem executeUpdate_selects_as_fetch (update : s.update = some action) :
    (∀ n, (s.executeUpdate items).result = .ok n → ∃ found : List (Record ε),
      ((MemorySource.ofItems items).apply s none).fetch =
          .ok (found.map (MemorySource.prune s.includes)) ∧
        found.length = n ∧ found.Perm ((s.places items).filterMap (items[·]?)) ∧
        (s.executeUpdate items).after = items.mapIdx fun place r =>
          if place ∈ s.places items then (action.apply r).after else r) ∧
    ∀ name path segment,
      (s.executeUpdate items).result = .error (.unresolvedPath name path segment) ↔
        ((MemorySource.ofItems items).apply s none).fetch =
          .error (.unresolvedPath name path segment) := by
  by_cases keyed : s.Keyed
  · obtain ⟨found, fetched, perm⟩ := fetch_of_keyed items keyed
    rw [fetched]
    by_cases checked : ∀ place ∈ s.places items, ∀ r ∈ items[place]?, action.check r = .ok ()
    · rw [executeUpdate_of_checked update keyed checked]
      refine ⟨?_, fun _ _ _ => ⟨nofun, nofun⟩⟩
      intro n counted
      cases counted
      exact ⟨found, rfl, perm.length_eq.trans length_getElem?_places, perm, rfl⟩
    · obtain ⟨e, refused, kind⟩ := executeUpdate_of_not_checked update keyed checked
      rw [refused]
      refine ⟨nofun, fun _ _ _ => ⟨?_, nofun⟩⟩
      intro unresolved
      cases unresolved
      rcases kind with kind | kind <;> cases kind
  · rw [executeUpdate_of_not_keyed update keyed, fetch_of_not_keyed keyed]
    refine ⟨nofun, fun _ _ _ => ⟨?_, ?_⟩⟩ <;>
    · intro same
      cases same
      rfl

end Fetches

end Specification

namespace Library

theorem fetch_of_rename : ∃ found : List (Record Library),
    ((MemorySource.ofItems ratedAuthors).apply (rename 2 "Bo") none).fetch =
        .ok (found.map (MemorySource.prune [])) ∧
      found.length = 1 ∧ found.Perm [newAuthor 2 "Bob" (.nan true) []] := by
  obtain ⟨found, fetched, counted, perm, -⟩ :=
    (Specification.executeUpdate_selects_as_fetch rfl).1 1
      (rfl : ((rename 2 "Bo").executeUpdate ratedAuthors).result = .ok 1)
  exact ⟨found, fetched, counted, perm⟩

end Library

end EntityQuery
