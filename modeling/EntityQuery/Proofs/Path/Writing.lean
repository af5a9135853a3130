import EntityQuery.Proofs.Path.Resolution
import EntityQuery.Proofs.Record.Locations

/-!
Writing along a path. A path through single relations names one location of a record, and a write
assigns to it. No assignment changes which paths lead somewhere.
-/

namespace EntityQuery

variable {ε : Type}

/-! ### What a write leaves behind -/

namespace Record

variable {r : Record ε} {name : String}

theorem after_set [Catalog ε] (r : Record ε) (name : String) (v : Value) :
    (Attempt.ofExcept r (r.set name v)).after = r.adjust name (Cell.assign v) := by
  cases found : r.cell? name with
  | none =>
    rw [adjust_of_none found]
    simp only [set, found]
    rfl
  | some cell =>
    rw [adjust_of_some found]
    cases cell with
    | scalar storage old =>
      simp only [set, found, Cell.assign]
      cases storage.decode v with
      | ok x => rfl
      | error e => exact (put_self found).symm
    | _ =>
      simp only [set, found]
      exact (put_self found).symm

theorem after_attemptRelated {α : Type} (r : Record ε) (name : String)
    (f : Record ε → Attempt (Record ε) α) :
    (r.attemptRelated name f).after = r.adjust name (Cell.modify 0 fun q => (f q).after) := by
  cases found : r.cell? name with
  | none =>
    rw [adjust_of_none found]
    simp only [attemptRelated, found]
    rfl
  | some cell =>
    rw [adjust_of_some found]
    cases cell with
    | relation kind c =>
      simp only [attemptRelated, found, Container.attemptFirst?_eq, Cell.modify]
      cases given : c.records with
      | nil =>
        rw [Container.modify_of_records_nil given]
        exact (put_self found).symm
      | cons q rest => rfl
    | _ =>
      simp only [attemptRelated, found]
      exact (put_self found).symm

/-- What an assignment does to one field: nothing, or it assigns to it or inside of it. -/
theorem cell?_assign (r : Record ε) (l : Location) (v : Value) (name : String) :
    ∃ f, (r.assign l v).cell? name = (r.cell? name).map f ∧
      (f = id ∨ f = Cell.assign v ∨ ∃ i rest, f = Cell.modify i (·.assign rest v)) := by
  by_cases same : l.head = name
  · subst same
    cases l with
    | field name => exact ⟨_, cell?_adjust_same, Or.inr (Or.inl rfl)⟩
    | inside relation index rest => exact ⟨_, cell?_adjust_same, Or.inr (Or.inr ⟨index, rest, rfl⟩)⟩
  · refine ⟨id, ?_, Or.inl rfl⟩
    rw [Option.map_id_fun, id]
    cases l <;> exact cell?_adjust_other same

theorem head?_get_records (r : Record ε) (name : String) :
    (r.get name).records.head? = (r.cell? name).bind (·.records.head?) := by
  cases found : r.cell? name with
  | none => simp only [get, found, Slot.records, List.head?_nil, Option.bind_none]
  | some cell =>
    cases cell with
    | scalar => simp only [get, found]; rfl
    | relation kind c =>
      cases kind with
      | one => simp only [get, found, Slot.records, Option.bind_some, Cell.records, Option.head?_toList]
      | many => simp only [get, found]; rfl
    | view => simp only [get, found]; rfl

end Record

theorem head?_modify {α : Type} (f : α → α) (i : Nat) (as : List α) :
    (as.modify i f).head? = as.head?.map (if i = 0 then f else id) := by
  rw [List.head?_eq_getElem?, List.head?_eq_getElem?, List.getElem?_modify]
  cases as with
  | nil => rfl
  | cons a rest => cases i <;> rfl

namespace Path

/-! ### The location of a path -/

def locationAlong (leaf : Field ε) : List (Field ε) → Location
  | [] => .field leaf.name
  | field :: rest => .inside field.name 0 (locationAlong leaf rest)

def location (p : Path ε) : Location :=
  locationAlong p.leaf p.relations

/-- Whether something lies where the path leads to. -/
def ReachableOn (p : Path ε) (r : Record ε) : Prop :=
  (r.at? p.location).isSome

/-- A path that a value may be written to: it leads from the entity through single relations to a
scalar. -/
structure Writable [Catalog ε] (p : Path ε) (entity : ε) : Prop where
  reaches : ∃ owner, p.Reaches entity owner
  scalar : p.type.isRelation = false
  single : p.crossesCollection = false

variable {relations : List (Field ε)} {leaf : Field ε} {r : Record ε} {v : Value}

theorem single_of_cons {field : Field ε} {rest : List (Field ε)}
    (single : (field :: rest).any (·.type.isCollection) = false) :
    field.type.isCollection = false ∧ rest.any (·.type.isCollection) = false := by
  rw [List.any_cons, Bool.or_eq_false_iff] at single
  exact single

theorem after_writeAlong [Catalog ε] (single : relations.any (·.type.isCollection) = false) :
    (writeAlong leaf v relations r).after = r.assign (locationAlong leaf relations) v := by
  induction relations generalizing r with
  | nil => exact r.after_set leaf.name v
  | cons field rest ih =>
    obtain ⟨one, others⟩ := single_of_cons single
    rw [writeAlong, one, if_neg nofun, Record.after_attemptRelated]
    exact congrArg (r.adjust field.name) (congrArg (Cell.modify 0) (funext fun q => ih others))

theorem after_write [Catalog ε] {p : Path ε} (single : p.crossesCollection = false) :
    (p.write r v).after = r.assign p.location v :=
  after_writeAlong single

/-! ### Reachability -/

theorem checkAlong_cons (field : Field ε) (rest : List (Field ε)) (r : Record ε) :
    checkAlong (field :: rest) r =
      if field.type.isCollection then .error (.invalidOperation "set" "collection")
      else match (r.cell? field.name).bind (·.records.head?) with
        | none => .error (.wrongKind "relation" "null")
        | some child => checkAlong rest child := by
  rw [checkAlong, ← Record.head?_get_records]
  cases (r.get field.name).records <;> rfl

theorem checkAlong_assign (l : Location) (v : Value) :
    checkAlong relations (r.assign l v) = checkAlong relations r := by
  induction relations generalizing r l with
  | nil => rfl
  | cons field rest ih =>
    obtain ⟨f, read, kind⟩ := r.cell?_assign l v field.name
    rw [checkAlong_cons, checkAlong_cons, read]
    cases r.cell? field.name with
    | none => rfl
    | some cell =>
      rcases kind with rfl | rfl | ⟨i, inner, rfl⟩
      · rfl
      · cases cell <;> rfl
      · cases cell with
        | relation kind c =>
          simp only [Option.map_some, Cell.modify, Option.bind_some, Cell.records,
            Container.records_modify, head?_modify]
          cases c.records.head? with
          | none => rfl
          | some q =>
            cases i with
            | zero => simp only [Option.map_some, if_pos, ih]
            | succ i => rfl
        | _ => rfl

theorem checkAlong_error_of_single {e : QueryError} (single : relations.any (·.type.isCollection) = false)
    (failed : checkAlong relations r = .error e) : e = .wrongKind "relation" "null" := by
  induction relations generalizing r with
  | nil => cases failed
  | cons field rest ih =>
    obtain ⟨one, others⟩ := single_of_cons single
    rw [checkAlong_cons, one, if_neg nofun] at failed
    split at failed
    · cases failed
      rfl
    · exact ih others failed

/-! ### Single relations -/

/-- Whether the relations are stored as single ones as far as they are set. -/
def SingleAlong : List (Field ε) → Record ε → Prop
  | [], _ => True
  | field :: rest, r =>
    ∃ c, r.cell? field.name = some (.relation .one c) ∧ ∀ q ∈ c.records.head?, SingleAlong rest q

theorem singleAlong_assign (along : SingleAlong relations r) (l : Location) (v : Value) :
    SingleAlong relations (r.assign l v) := by
  induction relations generalizing r l with
  | nil => trivial
  | cons field rest ih =>
    obtain ⟨c, found, along⟩ := along
    obtain ⟨f, read, kind⟩ := r.cell?_assign l v field.name
    rw [found, Option.map_some] at read
    rcases kind with rfl | rfl | ⟨i, inner, rfl⟩
    · exact ⟨c, read, along⟩
    · exact ⟨c, read, along⟩
    · refine ⟨_, read, ?_⟩
      rw [Container.records_modify, head?_modify]
      intro q first
      obtain ⟨old, given, rfl⟩ := Option.map_eq_some_iff.mp first
      cases i with
      | zero => exact ih (along old given) inner
      | succ i => exact along old given

theorem readAlong_of_at? {storage : Storage} {x : storage.Content} (along : SingleAlong relations r)
    (found : r.at? (locationAlong leaf relations) = some (.scalar storage x)) :
    readAlong leaf relations r = [storage.encode x] := by
  induction relations generalizing r with
  | nil =>
    obtain ⟨cell, read, same⟩ := Option.map_eq_some_iff.mp found
    cases cell with
    | scalar used w =>
      cases same
      rw [readAlong]
      simp only [Record.get, read, Slot.toValue]
    | relation => cases same
    | view => cases same
  | cons field rest ih =>
    obtain ⟨c, read, along⟩ := along
    simp only [locationAlong, Record.at?, read] at found
    obtain ⟨q, first, found⟩ := Option.bind_eq_some_iff.mp found
    rw [← List.head?_eq_getElem?] at first
    rw [readAlong]
    simp only [Record.get, read, first]
    exact ih (along q first) found

/-! ### Paths of an entity -/

variable [LayoutCatalog ε] {entity owner : ε}

theorem singleAlong_of_fits (leads : Leads entity relations owner) (fits : Record.Fits entity r)
    (single : relations.any (·.type.isCollection) = false) : SingleAlong relations r := by
  induction leads generalizing r with
  | here entity => trivial
  | via found target _ ih =>
    obtain ⟨one, others⟩ := single_of_cons single
    obtain ⟨kind, type, c, -, described, -, read, -, related⟩ := fits.relation found target
    cases kind with
    | one => exact ⟨c, read, fun q first => ih (related q (List.mem_of_mem_head? first)) others⟩
    | many =>
      rw [described] at one
      cases one

/-- Behind relations that are set lies a scalar of the leaf's storage; behind others lies nothing. -/
theorem at?_of_fits (leads : Leads entity relations owner)
    (found : ∃ name, (Catalog.schema owner).field? name = some leaf) (plain : leaf.type.target? = none)
    (single : relations.any (·.type.isCollection) = false) (fits : Record.Fits entity r) :
    (∃ storage old, (LayoutCatalog.layout owner).fields.lookup leaf.name = some (.scalar storage) ∧
        r.at? (locationAlong leaf relations) = some (.scalar storage old) ∧
        checkAlong relations r = .ok ()) ∨
      r.at? (locationAlong leaf relations) = none ∧
        checkAlong relations r = .error (.wrongKind "relation" "null") := by
  induction leads generalizing r with
  | here entity =>
    obtain ⟨name, found⟩ := found
    obtain ⟨storage, old, laid, -, -, read⟩ := fits.scalar found plain
    refine Or.inl ⟨storage, old, laid, ?_, rfl⟩
    simp only [locationAlong, Record.at?, read, Option.map_some, Cell.bare]
  | via step target _ ih =>
    obtain ⟨one, others⟩ := single_of_cons single
    obtain ⟨kind, type, c, -, -, -, read, -, related⟩ := fits.relation step target
    rw [checkAlong_cons, one, if_neg Bool.false_ne_true]
    simp only [locationAlong, Record.at?, read, Option.bind_some, Cell.records,
      ← List.head?_eq_getElem?]
    cases first : c.records.head? with
    | none => exact Or.inr ⟨rfl, rfl⟩
    | some q => exact ih found others (related q (List.mem_of_mem_head? first))

theorem field_eq_of_name {name other : String} {f g : Field ε}
    (found : (Catalog.schema entity).field? name = some f)
    (also : (Catalog.schema entity).field? other = some g) (same : f.name = g.name) : f = g := by
  obtain ⟨backing, laid, described⟩ := Layout.lookup_of_field? found
  obtain ⟨backing', laid', described'⟩ := Layout.lookup_of_field? also
  rw [same, laid'] at laid
  cases laid
  rw [← described, ← described', same]

/-- Two paths of one entity with the same location are the same. -/
theorem locationAlong_injective {relations' : List (Field ε)} {leaf' : Field ε} {owner' : ε}
    (leads : Leads entity relations owner) (leads' : Leads entity relations' owner')
    (found : ∃ name, (Catalog.schema owner).field? name = some leaf)
    (found' : ∃ name, (Catalog.schema owner').field? name = some leaf')
    (same : locationAlong leaf relations = locationAlong leaf' relations') :
    relations = relations' ∧ leaf = leaf' := by
  induction leads generalizing relations' with
  | here entity =>
    cases leads' with
    | here =>
      obtain ⟨name, found⟩ := found
      obtain ⟨name', found'⟩ := found'
      exact ⟨rfl, field_eq_of_name found found' (Location.field.inj same)⟩
    | via => cases same
  | via step target _ ih =>
    cases leads' with
    | here => cases same
    | via step' target' rest' =>
      obtain ⟨level, -, rest⟩ := Location.inside.inj same
      cases field_eq_of_name step step' level
      rw [target] at target'
      cases target'
      obtain ⟨rfl, leaves⟩ := ih rest' found rest
      exact ⟨rfl, leaves⟩

namespace Writable

variable {p q : Path ε}

theorem location_injective (writable : p.Writable entity) (also : q.Writable entity)
    (same : p.location = q.location) : p = q := by
  obtain ⟨owner, reaches⟩ := writable.reaches
  obtain ⟨owner', reaches'⟩ := also.reaches
  obtain ⟨relations, leaf⟩ :=
    locationAlong_injective reaches.leads reaches'.leads reaches.leaf reaches'.leaf same
  cases p
  cases q
  cases relations
  cases leaf
  cases reaches.root.trans reaches'.root.symm
  rfl

theorem plain (writable : p.Writable entity) : p.leaf.type.target? = none :=
  Option.isNone_iff_eq_none.mp (Option.isSome_eq_false_iff.mp writable.scalar)

theorem laid (writable : p.Writable entity) :
    ∃ storage, (LayoutCatalog.layout p.owner).fields.lookup p.leaf.name = some (.scalar storage) := by
  obtain ⟨owner, reaches⟩ := writable.reaches
  obtain ⟨name, found⟩ := reaches.leaf
  obtain ⟨backing, laid, described⟩ := Layout.lookup_of_field? found
  rw [reaches.owner_eq]
  have plain := writable.plain
  rw [← described] at plain
  cases backing with
  | scalar storage => exact ⟨storage, laid⟩
  | relation => simp [Backing.field] at plain

theorem leaf_eq {storage : Storage} (writable : p.Writable entity)
    (laid : (LayoutCatalog.layout p.owner).fields.lookup p.leaf.name = some (.scalar storage)) :
    p.leaf = (Backing.scalar storage).field p.leaf.name := by
  obtain ⟨owner, reaches⟩ := writable.reaches
  obtain ⟨name, found⟩ := reaches.leaf
  obtain ⟨backing, also, described⟩ := Layout.lookup_of_field? found
  rw [reaches.owner_eq, also] at laid
  cases laid
  exact described.symm

theorem singleAlong (writable : p.Writable entity) (fits : Record.Fits entity r) :
    SingleAlong p.relations r := by
  obtain ⟨owner, reaches⟩ := writable.reaches
  exact singleAlong_of_fits reaches.leads fits writable.single

theorem at?_location (writable : p.Writable entity) (fits : Record.Fits entity r) :
    (∃ storage old, (LayoutCatalog.layout p.owner).fields.lookup p.leaf.name = some (.scalar storage) ∧
        r.at? p.location = some (.scalar storage old) ∧ p.checkReachable r = .ok ()) ∨
      r.at? p.location = none ∧ p.checkReachable r = .error (.wrongKind "relation" "null") := by
  obtain ⟨owner, reaches⟩ := writable.reaches
  rw [reaches.owner_eq]
  exact at?_of_fits reaches.leads reaches.leaf writable.plain writable.single fits

theorem checkReachable_iff (writable : p.Writable entity) (fits : Record.Fits entity r) :
    p.checkReachable r = .ok () ↔ p.ReachableOn r := by
  unfold ReachableOn
  rcases writable.at?_location fits with ⟨storage, old, -, found, passed⟩ | ⟨missing, failed⟩
  · rw [found, passed]
    exact ⟨fun _ => rfl, fun _ => rfl⟩
  · rw [missing, failed]
    exact ⟨nofun, nofun⟩

end Writable

end Path

end EntityQuery
