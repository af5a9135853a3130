import EntityQuery.Proofs.Source.Fetch
import Mathlib.Data.List.Basic

/-!
The choice of the items that an update reaches. All of them are checked while they are marked, so the
marks are set for every one or for none.
-/

namespace EntityQuery

variable {ε : Type} {entity : ε}

namespace Specification

/-! ### Hits -/

section Hits

variable {selects : Record ε → Bool} {single : Bool} {r : Record ε} {rest items : List (Record ε)}

def hits (selects : Record ε → Bool) (single : Bool) (items : List (Record ε)) : List Nat :=
  if single then (items.findIdx? selects).toList else items.findIdxs selects

theorem hits_cons_of_miss (miss : selects r = false) :
    hits selects single (r :: rest) = (hits selects single rest).map (· + 1) := by
  cases single with
  | true =>
    rw [hits, hits, if_pos rfl, if_pos rfl, List.findIdx?_cons, miss]
    cases rest.findIdx? selects <;> rfl
  | false =>
    rw [hits, hits, if_neg nofun, if_neg nofun, List.findIdxs_cons, miss, if_neg nofun,
      List.findIdxs_start]

theorem hits_cons_of_hit (hit : selects r = true) :
    hits selects single (r :: rest) =
      0 :: if single then [] else (hits selects single rest).map (· + 1) := by
  cases single with
  | true => simp [hits, List.findIdx?_cons, hit]
  | false =>
    rw [hits, hits, if_neg nofun, if_neg nofun, if_neg nofun, List.findIdxs_cons, hit, if_pos rfl,
      List.findIdxs_start]

theorem getElem?_hits (selects : Record ε → Bool) (single : Bool) (items : List (Record ε)) :
    (hits selects single items).filterMap (items[·]?) =
      if single then (items.find? selects).toList else items.filter selects := by
  induction items with
  | nil => cases single <;> rfl
  | cons r rest ih =>
    have shifted : ((hits selects single rest).map (· + 1)).filterMap ((r :: rest)[·]?) =
        (hits selects single rest).filterMap (rest[·]?) := by
      rw [List.filterMap_map]
      rfl
    cases hit : selects r with
    | true =>
      rw [hits_cons_of_hit hit, List.filterMap_cons, List.getElem?_cons_zero]
      cases single with
      | true => simp [hit]
      | false =>
        rw [if_neg nofun] at ih ⊢
        rw [if_neg nofun, shifted, ih, List.filter_cons_of_pos hit]
    | false =>
      rw [hits_cons_of_miss hit, shifted, ih, List.find?_cons_of_neg (by simp [hit]),
        List.filter_cons_of_neg (by simp [hit])]

theorem hits_inside (single : Bool) {place : Nat} (member : place ∈ hits selects single items) :
    place < items.length := by
  unfold hits at member
  split at member
  · exact (List.findIdx?_eq_some_iff_getElem.mp (Option.mem_toList.mp member)).1
  · exact (List.mem_findIdxs_iff_exists_getElem_pos.mp member).1

end Hits

/-! ### Marks -/

section Marks

variable {action : UpdateAction entity} {selects : Record ε → Bool} {single : Bool}
  {items : List (Record ε)} {marked : List (Record ε × Bool)}

/-- The items marked at certain places, where those with a mark pass the check. -/
structure Marks (action : UpdateAction entity) (items : List (Record ε)) (places : List Nat)
    (marked : List (Record ε × Bool)) : Prop where
  items : marked.map (·.1) = items
  places : marked.findIdxs (·.2) = places
  checked : ∀ m ∈ marked, m.2 = true → action.check m.1 = .ok ()

theorem Marks.skip {places : List Nat} (marks : Marks action items places marked) (r : Record ε) :
    Marks action (r :: items) (places.map (· + 1)) ((r, false) :: marked) := by
  refine ⟨by rw [List.map_cons, marks.items], ?_, ?_⟩
  · rw [List.findIdxs_cons, if_neg nofun, List.findIdxs_start, marks.places]
  · intro m member marked
    rcases List.mem_cons.mp member with rfl | member
    · cases marked
    · exact marks.checked m member marked

theorem Marks.mark {places : List Nat} {r : Record ε} (marks : Marks action items places marked)
    (checked : action.check r = .ok ()) :
    Marks action (r :: items) (0 :: places.map (· + 1)) ((r, true) :: marked) := by
  refine ⟨by rw [List.map_cons, marks.items], ?_, ?_⟩
  · rw [List.findIdxs_cons, if_pos rfl, List.findIdxs_start, marks.places]
  · intro m member marked
    rcases List.mem_cons.mp member with rfl | member
    · exact checked
    · exact marks.checked m member marked

theorem Marks.none (action : UpdateAction entity) (items : List (Record ε)) :
    Marks action items [] (items.map (·, false)) := by
  induction items with
  | nil => exact ⟨rfl, rfl, nofun⟩
  | cons r rest ih => exact ih.skip r

theorem Marks.map {places : List Nat} (marks : Marks action items places marked)
    (f : Record ε → Record ε) :
    (marked.map fun m => if m.2 then f m.1 else m.1) =
      items.mapIdx fun place r => if place ∈ places then f r else r := by
  obtain ⟨rfl, rfl, -⟩ := marks
  refine List.ext_getElem (by simp) ?_
  intro place inside _
  rw [List.length_map] at inside
  have marked : place ∈ marked.findIdxs (·.2) ↔ (marked[place].2 = true) :=
    List.mem_findIdxs_iff_pos_getElem inside
  simp only [List.getElem_map, List.getElem_mapIdx, marked]

theorem Marks.count {places : List Nat} (marks : Marks action items places marked) :
    (marked.filter (·.2)).length = places.length := by
  rw [← List.countP_eq_length_filter, ← List.length_findIdxs (s := 0), marks.places]

theorem Marks.checked_items {places : List Nat} (marks : Marks action items places marked) :
    ∀ place ∈ places, ∀ r ∈ items[place]?, action.check r = .ok () := by
  obtain ⟨rfl, rfl, checked⟩ := marks
  intro place member r present
  obtain ⟨inside, chosen⟩ := List.mem_findIdxs_iff_exists_getElem_pos.mp member
  rw [Option.mem_def, List.getElem?_map, List.getElem?_eq_getElem inside, Option.map_some,
    Option.some.injEq] at present
  exact present ▸ checked _ (List.getElem_mem inside) chosen

theorem markSelected_ok (done : markSelected action selects single items = .ok marked) :
    Marks action items (hits selects single items) marked := by
  -- A miss only moves the later places on; a hit adds place zero, and for a key it is the last one.
  induction items generalizing marked with
  | nil =>
    cases done
    cases single <;> exact ⟨rfl, rfl, nofun⟩
  | cons r rest ih =>
    rw [markSelected] at done
    cases hit : selects r with
    | false =>
      rw [hit, if_neg nofun] at done
      obtain ⟨tail, marked, done⟩ := bind_ok done
      cases done
      rw [hits_cons_of_miss hit]
      exact (ih marked).skip r
    | true =>
      rw [hit, if_pos rfl] at done
      obtain ⟨_, checked, done⟩ := bind_ok done
      rw [hits_cons_of_hit hit]
      cases single with
      | true =>
        cases done
        exact (Marks.none action rest).mark checked
      | false =>
        obtain ⟨tail, marked, done⟩ := bind_ok done
        cases done
        exact (ih marked).mark checked

/-- Marking fails only where a selected item does not pass the check. -/
theorem markSelected_error {e : QueryError}
    (failed : markSelected action selects single items = .error e) :
    ∃ place ∈ hits selects single items, ∃ r ∈ items[place]?, action.check r = .error e := by
  induction items with
  | nil => cases failed
  | cons r rest ih =>
    rw [markSelected] at failed
    cases hit : selects r with
    | false =>
      rw [hit, if_neg nofun] at failed
      rw [hits_cons_of_miss hit]
      rcases bind_error failed with tail | ⟨_, -, failed⟩
      · obtain ⟨place, member, found⟩ := ih tail
        exact ⟨place + 1, List.mem_map_of_mem member, found⟩
      · cases failed
    | true =>
      rw [hit, if_pos rfl] at failed
      rw [hits_cons_of_hit hit]
      rcases bind_error failed with checked | ⟨_, -, failed⟩
      · exact ⟨0, List.mem_cons_self, r, rfl, checked⟩
      · cases single with
        | true => cases failed
        | false =>
          rcases bind_error failed with tail | ⟨_, -, failed⟩
          · obtain ⟨place, member, found⟩ := ih tail
            exact ⟨place + 1, List.mem_cons_of_mem _ (List.mem_map_of_mem member), found⟩
          · cases failed

end Marks

/-! ### Places -/

section Places

variable [Catalog ε] {s : Specification entity} {action : UpdateAction entity} {items : List (Record ε)}

/-- The places of the items that an update reaches: the first item of the key, or else all items that
meet the criteria. -/
def places (s : Specification entity) (items : List (Record ε)) : List Nat :=
  match s.primaryKey with
  | some key => ((Catalog.schema entity).keyField?.bind fun field =>
      items.findIdx? fun r => (r.get field.name).toValue.equals key).toList
  | none => items.findIdxs fun r => s.criteria.all (·.holds r)

/-- Whether the entity has a key field if the specification gives a key. -/
def Keyed (s : Specification entity) : Prop :=
  s.primaryKey.isSome → (Catalog.schema entity).keyField?.isSome

theorem key_of_not_keyed (missing : ¬s.Keyed) :
    ∃ key, s.primaryKey = some key ∧ (Catalog.schema entity).keyField? = none := by
  rw [Keyed, Classical.not_imp, Option.not_isSome_iff_eq_none, Option.isSome_iff_exists] at missing
  obtain ⟨⟨key, given⟩, missing⟩ := missing
  exact ⟨key, given, missing⟩

theorem markItems_eq_markSelected (action : UpdateAction entity) (items : List (Record ε))
    (keyed : s.Keyed) : ∃ selects single,
      s.markItems action items = markSelected action selects single items ∧
        hits selects single items = s.places items := by
  unfold markItems places
  cases given : s.primaryKey with
  | none =>
    refine ⟨s.selects none, false, rfl, ?_⟩
    have same : s.selects none = fun r => s.criteria.all (·.holds r) := by
      funext r
      unfold selects
      cases s.criteria <;> rw [given] <;> rfl
    rw [same]
    rfl
  | some key =>
    obtain ⟨field, found⟩ := Option.isSome_iff_exists.mp (keyed (by rw [given]; rfl))
    refine ⟨s.selects (some field), true, ?_, ?_⟩
    · rw [MemorySource.keyField_of_some found]
      rfl
    · have same : s.selects (some field) = MemorySource.hasKey field key := by
        funext r
        unfold selects
        rw [given]
      rw [same, found]
      rfl

/-- Either all items that the update reaches are checked and marked, or one of them is refused. -/
theorem markItems_of_keyed (action : UpdateAction entity) (items : List (Record ε)) (keyed : s.Keyed) :
    (∃ marked, s.markItems action items = .ok marked ∧ Marks action items (s.places items) marked) ∨
      ∃ e, s.markItems action items = .error e ∧
        ∃ place ∈ s.places items, ∃ r ∈ items[place]?, action.check r = .error e := by
  obtain ⟨selects, single, marking, same⟩ := markItems_eq_markSelected action items keyed
  rw [marking, ← same]
  cases done : markSelected action selects single items with
  | ok marked => exact Or.inl ⟨marked, rfl, markSelected_ok done⟩
  | error e => exact Or.inr ⟨e, rfl, markSelected_error done⟩

theorem markItems_of_not_keyed (missing : ¬s.Keyed) : s.markItems action items = .error
    (.unresolvedPath (entityName entity) "<key>" ((Catalog.schema entity).key.getD "")) := by
  obtain ⟨key, given, missing⟩ := key_of_not_keyed missing
  unfold markItems
  rw [given, MemorySource.keyField_of_none missing]
  rfl

theorem length_getElem?_places :
    ((s.places items).filterMap (items[·]?)).length = (s.places items).length := by
  rw [List.filterMap_length_eq_length]
  intro place member
  rw [isSome_getElem?]
  unfold places at member
  split at member
  · cases found : (Catalog.schema entity).keyField? with
    | none => simp [found] at member
    | some field =>
      rw [found] at member
      exact hits_inside true member
  · exact hits_inside false member

end Places

end Specification

end EntityQuery
