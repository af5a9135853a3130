import EntityQuery.Path.Basic
import EntityQuery.Proofs.Outcome
import EntityQuery.Proofs.Record.Conformance

/-!
Resolved paths walk the schemas: relation by relation from the root to the entity of the leaf. On
records that fit, a path reads only nulls and values of its type.
-/

namespace EntityQuery

variable {ε : Type}

/-- Relations that lead from one entity to another, each a field of the entity reached before it. -/
inductive Leads [Catalog ε] : ε → List (Field ε) → ε → Prop where
  | here (entity : ε) : Leads entity [] entity
  | via {entity next last : ε} {name : String} {field : Field ε} {relations : List (Field ε)}
      (found : (Catalog.schema entity).field? name = some field)
      (target : field.type.target? = some next) (rest : Leads next relations last) :
      Leads entity (field :: relations) last

/-- A path from one entity to a field of another. -/
structure Path.Reaches [Catalog ε] (p : Path ε) (entity owner : ε) : Prop where
  root : p.root = entity
  leads : Leads entity p.relations owner
  leaf : ∃ name, (Catalog.schema owner).field? name = some p.leaf

namespace Path

theorem follow_leads [Catalog ε] {path : String} {entity : ε} {names : List String}
    {relations : List (Field ε)} {leaf : Field ε}
    (walked : follow path entity names = .ok (relations, leaf)) :
    ∃ owner, Leads entity relations owner ∧
      ∃ name, (Catalog.schema owner).field? name = some leaf := by
  induction names generalizing entity relations with
  | nil => simp [follow] at walked
  | cons name rest ih =>
    rw [follow] at walked
    split at walked
    · cases walked
    · rename_i field found
      cases rest with
      | nil =>
        cases walked
        exact ⟨entity, .here entity, name, found⟩
      | cons second more =>
        cases target : field.type.target? with
        | none => simp [target] at walked
        | some next =>
          simp only [target] at walked
          obtain ⟨reached, tail, same⟩ := map_ok walked
          cases same
          obtain ⟨owner, leads, last⟩ := ih tail
          exact ⟨owner, .via found target leads, last⟩

theorem resolve_reaches [Catalog ε] {entity : ε} {text : String} {p : Path ε}
    (resolved : resolve entity text = .ok p) : ∃ owner, p.Reaches entity owner := by
  obtain ⟨reached, walked, same⟩ := map_ok resolved
  cases same
  obtain ⟨owner, leads, leaf⟩ := follow_leads walked
  exact ⟨owner, rfl, leads, leaf⟩

/-! ### Owners -/

def owner (p : Path ε) : ε :=
  p.relations.foldl (fun owner field => field.type.target?.getD owner) p.root

theorem owner_of_leads [Catalog ε] {entity owner : ε} {relations : List (Field ε)}
    (leads : Leads entity relations owner) :
    relations.foldl (fun owner field => field.type.target?.getD owner) entity = owner := by
  induction leads with
  | here entity => rfl
  | via found target rest ih => rw [List.foldl_cons, target, Option.getD_some, ih]

theorem Reaches.owner_eq [Catalog ε] {p : Path ε} {entity owner : ε} (reaches : p.Reaches entity owner) :
    p.owner = owner := by
  rw [Path.owner, reaches.root]
  exact owner_of_leads reaches.leads

theorem resolve_reaches_owner [Catalog ε] {entity : ε} {path : String} {p : Path ε}
    (resolved : resolve entity path = .ok p) : p.Reaches entity p.owner := by
  obtain ⟨owner, reaches⟩ := resolve_reaches resolved
  rwa [reaches.owner_eq]

/-! ### Reading -/

variable [LayoutCatalog ε] {entity owner : ε} {relations : List (Field ε)} {leaf : Field ε} {r : Record ε}

theorem leaf_shows (found : ∃ name, (Catalog.schema owner).field? name = some leaf)
    (fits : Record.Fits owner r) : leaf.type.Shows (r.get leaf.name).toValue := by
  obtain ⟨name, found⟩ := found
  cases target : leaf.type.target? with
  | none =>
    obtain ⟨v, read, shown⟩ := fits.get_scalar found target
    simpa only [read, Slot.toValue] using shown
  | some next =>
    rcases fits.get_relation found target with ⟨one, read, -⟩ | ⟨many, read, -⟩
    · exact Or.inl (by simp only [read, Slot.toValue])
    · exact Or.inl (by simp only [read, Slot.toValue])

theorem readAlong_shows (leads : Leads entity relations owner)
    (found : ∃ name, (Catalog.schema owner).field? name = some leaf) (fits : Record.Fits entity r) :
    ∀ v ∈ readAlong leaf relations r, leaf.type.Shows v := by
  induction leads generalizing r with
  | here entity =>
    intro v member
    rw [readAlong, List.mem_singleton] at member
    exact member ▸ leaf_shows found fits
  | via step target _ ih =>
    intro v member
    rw [readAlong] at member
    rcases fits.get_relation step target with ⟨one, read, related⟩ | ⟨many, read, related⟩
    · rw [read] at member
      cases one with
      | none => exact Or.inl (List.mem_singleton.mp member)
      | some child => exact ih found (related child rfl) v member
    · rw [read] at member
      obtain ⟨child, present, member⟩ := List.mem_flatMap.mp member
      exact ih found (related child present) v member

theorem readAlong_single (leads : Leads entity relations owner)
    (single : relations.any (·.type.isCollection) = false) (fits : Record.Fits entity r) :
    ∃ v, readAlong leaf relations r = [v] := by
  induction leads generalizing r with
  | here entity => exact ⟨_, rfl⟩
  | @via entity next last name field relations found target _ ih =>
    rw [List.any_cons, Bool.or_eq_false_iff] at single
    obtain ⟨one, single⟩ := single
    obtain ⟨kind, type, container, -, typed, -, lies, -, related⟩ := fits.relation found target
    rw [typed] at one
    cases kind with
    | many => cases one
    | one =>
      simp only [readAlong, Record.get, lies]
      cases first : container.records.head? with
      | none => exact ⟨_, rfl⟩
      | some child => exact ih single (related child (List.mem_of_mem_head? first))

theorem readFirst_shows {p : Path ε} (reaches : p.Reaches entity owner) (fits : Record.Fits entity r) :
    p.type.Shows (p.readFirst r) := by
  have shown := readAlong_shows reaches.leads reaches.leaf fits
  unfold readFirst read
  cases values : readAlong p.leaf p.relations r with
  | nil => exact Or.inl rfl
  | cons v rest => exact shown v (values ▸ List.mem_cons_self)

end Path

end EntityQuery
