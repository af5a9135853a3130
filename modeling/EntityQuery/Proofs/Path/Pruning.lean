import EntityQuery.Proofs.Path.Resolution
import EntityQuery.Proofs.Record.Relations
import Mathlib.Data.List.Basic

/-!
Pruning along a path. It drops records from the relation at the leaf of every record behind the other
relations and changes nothing else, so what is left is decided by the container at the leaf.
-/

namespace EntityQuery

variable {ε : Type}

namespace Path

theorem recordsAlong_append (relations rest : List (Field ε)) (r : Record ε) :
    recordsAlong (relations ++ rest) r = (recordsAlong relations r).flatMap (recordsAlong rest) := by
  induction relations generalizing r with
  | nil => simp [recordsAlong]
  | cons field others ih =>
    rw [List.cons_append, recordsAlong, recordsAlong, List.flatMap_assoc, funext ih]

theorem records_eq (p : Path ε) (r : Record ε) :
    p.records r = (recordsAlong p.relations r).flatMap fun o => (o.get p.leaf.name).records := by
  rw [records, segments, recordsAlong_append]
  simp [recordsAlong]

end Path

section Fitting

variable [LayoutCatalog ε] {entity owner : ε} {relations : List (Field ε)} {leaf : Field ε} {r : Record ε}
  {keep : Record ε → Bool}

theorem Record.Fits.records {name : String} {field : Field ε} {target : ε} (fits : Record.Fits entity r)
    (found : (Catalog.schema entity).field? name = some field) (leads : field.type.target? = some target) :
    ∀ q ∈ (r.get field.name).records, Record.Fits target q := by
  obtain ⟨kind, type, container, -, -, -, read, -, related⟩ := fits.relation found leads
  intro q member
  rw [Record.get_records read] at member
  exact related q (RelationKind.mem_of_shown member)

namespace Path

theorem recordsAlong_fits (leads : Leads entity relations owner) (fits : Record.Fits entity r) :
    ∀ o ∈ recordsAlong relations r, Record.Fits owner o := by
  induction leads generalizing r with
  | here entity =>
    intro o member
    rw [recordsAlong, List.mem_singleton] at member
    exact member ▸ fits
  | via found target _ ih =>
    intro o member
    rw [recordsAlong] at member
    obtain ⟨child, present, member⟩ := List.mem_flatMap.mp member
    exact ih (fits.records found target child present) o member

theorem recordsAlong_retainAlong (leads : Leads entity relations owner) (fits : Record.Fits entity r) :
    recordsAlong relations (retainAlong leaf keep relations r) =
      (recordsAlong relations r).map (·.retainRelated leaf.name keep) := by
  induction leads generalizing r with
  | here entity => rfl
  | via found target _ ih =>
    obtain ⟨kind, type, container, -, -, -, read, -, -⟩ := fits.relation found target
    rw [retainAlong, recordsAlong, recordsAlong, Record.get_mapRelated read, List.flatMap_map,
      List.map_flatMap]
    exact List.flatMap_congr fun child present => ih (fits.records found target child present)

/-! ### What is left -/

variable {p : Path ε} {target : ε}

/-- Whether the leaf is a collection that is stored as just one record, which always stays. -/
def PinsOne (p : Path ε) : Prop :=
  ∃ target, (LayoutCatalog.layout p.owner).fields.lookup p.leaf.name =
    some (.relation .many .single target)

theorem records_retain (reaches : p.Reaches entity owner) (fits : Record.Fits entity r) :
    p.records (p.retain keep r) = (recordsAlong p.relations r).flatMap fun o =>
      ((o.retainRelated p.leaf.name keep).get p.leaf.name).records := by
  rw [records_eq, retain, recordsAlong_retainAlong reaches.leads fits, List.flatMap_map]

/-- Every rejected record is dropped where the schema promises it, unless the leaf pins its record. -/
theorem records_retain_of_free (reaches : p.Reaches entity owner) (fits : Record.Fits entity r)
    (leads : p.type.target? = some target) (may : p.type.isCollection = true ∨ p.leaf.nullable = true)
    (free : ¬p.PinsOne) : ∀ q ∈ p.records (p.retain keep r), keep q = true := by
  intro q member
  rw [records_retain reaches fits] at member
  obtain ⟨o, present, member⟩ := List.mem_flatMap.mp member
  obtain ⟨name, found⟩ := reaches.leaf
  obtain ⟨kind, type, container, laid, described, optional, read, held, -⟩ :=
    (recordsAlong_fits reaches.leads fits o present).relation found leads
  -- A bare record is never nullable, so only a collection of it passes as able to drop records.
  have drops : type ≠ .single := by
    rintro rfl
    apply free
    refine ⟨target, ?_⟩
    rw [reaches.owner_eq, laid]
    rw [Path.type, described, optional] at may
    cases kind with
    | one => rcases may with many | null <;> contradiction
    | many => rfl
  rw [Record.get_retainRelated read] at member
  exact Container.retain_records held drops q (RelationKind.mem_of_shown member)

theorem records_retain_of_pinned (reaches : p.Reaches entity owner) (fits : Record.Fits entity r)
    (leads : p.type.target? = some target) (pinned : p.PinsOne) :
    p.records (p.retain keep r) = p.records r := by
  rw [records_retain reaches fits, records_eq]
  refine List.flatMap_congr fun o present => ?_
  obtain ⟨name, found⟩ := reaches.leaf
  obtain ⟨kind, type, container, laid, -, -, read, held, -⟩ :=
    (recordsAlong_fits reaches.leads fits o present).relation found leads
  obtain ⟨_, stored⟩ := pinned
  rw [reaches.owner_eq, laid] at stored
  cases stored
  rw [Record.get_retainRelated read, Record.get_records read, Container.retain_of_single held]

end Path

end Fitting

end EntityQuery
