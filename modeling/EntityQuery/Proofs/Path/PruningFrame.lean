import EntityQuery.Proofs.Path.Pruning
import EntityQuery.Proofs.Record.Library
import EntityQuery.Proofs.Record.Locations

/-!
The frame of a pruning. Where every record can be dropped on its own, pruning filters what the path reaches, and
all else stays: each record on the way keeps its place and all its other fields.
-/

namespace EntityQuery

variable {ε : Type}

/-! ### What a pruned record looks like -/

/-- Whether two records hold the same but for one field. -/
structure Record.SameBut (name : String) (r q : Record ε) : Prop where
  entity : q.entity = r.entity
  cells : ∀ other, other ≠ name → q.cell? other = r.cell? other

namespace Slot

def filter (keep : Record ε → Bool) : Slot ε → Slot ε
  | one r => one (r.filter keep)
  | many rs => many (rs.filter keep)
  | slot => slot

/-- Slots that show as many records, each of which corresponds to the one in its place. -/
inductive Matches (R : Record ε → Record ε → Prop) : Slot ε → Slot ε → Prop
  | unset : Matches R (one none) (one none)
  | one {r q : Record ε} (alike : R r q) : Matches R (.one (some r)) (.one (some q))
  | many {rs qs : List (Record ε)} (alike : List.Forall₂ R rs qs) : Matches R (.many rs) (.many qs)

theorem records_filter (keep : Record ε → Bool) (slot : Slot ε) :
    (slot.filter keep).records = slot.records.filter keep := by
  cases slot with
  | one r =>
    cases r with
    | none => rfl
    | some r => cases kept : keep r <;> simp [filter, records, kept]
  | _ => rfl

theorem Matches.records {R : Record ε → Record ε → Prop} {s t : Slot ε} (alike : Matches R s t) :
    List.Forall₂ R s.records t.records := by
  cases alike with
  | unset => exact .nil
  | one alike => exact .cons alike .nil
  | many alike => exact alike

end Slot

namespace Path

/-- Whether the second record is the first one with its leaf filtered behind relations. -/
def PrunedAlong (leaf : Field ε) (keep : Record ε → Bool) : List (Field ε) → Record ε → Record ε → Prop
  | [], r, q => r.SameBut leaf.name q ∧ q.get leaf.name = (r.get leaf.name).filter keep
  | field :: rest, r, q =>
    r.SameBut field.name q ∧ Slot.Matches (PrunedAlong leaf keep rest) (r.get field.name) (q.get field.name)

/-- Whether the second record differs from the first one only in that the records at the leaf are filtered. -/
def Pruned (p : Path ε) (keep : Record ε → Bool) (r q : Record ε) : Prop :=
  PrunedAlong p.leaf keep p.relations r q

variable {leaf : Field ε} {relations : List (Field ε)} {keep : Record ε → Bool}

theorem flatMap_eq_filter_of_forall₂ {R : Record ε → Record ε → Prop} {f : Record ε → List (Record ε)}
    {rs qs : List (Record ε)} (alike : List.Forall₂ R rs qs)
    (each : ∀ r q, R r q → f q = (f r).filter keep) : qs.flatMap f = (rs.flatMap f).filter keep := by
  induction alike with
  | nil => rfl
  | cons first _ ih => rw [List.flatMap_cons, List.flatMap_cons, List.filter_append, each _ _ first, ih]

theorem PrunedAlong.recordsAlong {r q : Record ε} (pruned : PrunedAlong leaf keep relations r q) :
    recordsAlong (relations ++ [leaf]) q = (recordsAlong (relations ++ [leaf]) r).filter keep := by
  induction relations generalizing r q with
  | nil =>
    obtain ⟨-, filtered⟩ := pruned
    have singles : ∀ r : Record ε, Path.recordsAlong [leaf] r = (r.get leaf.name).records :=
      fun r => List.flatMap_singleton' _
    rw [List.nil_append, singles, singles, filtered, Slot.records_filter]
  | cons field rest ih =>
    exact flatMap_eq_filter_of_forall₂ pruned.2.records fun r q => ih

end Path

/-! ### What pruning does -/

namespace Container

variable {type : ContainerType} {c : Container ε} {keep : Record ε → Bool}

theorem records_retain_of_list (held : ContainerType.list.Holds c) :
    (c.retain keep).records = c.records.filter keep := by
  cases c with
  | list rs => rfl
  | single => exact held.elim
  | absent => exact held.elim
  | present => exact held.elim

theorem head?_retain_of_optional (keep : Record ε → Bool) (held : (ContainerType.optional .single).Holds c) :
    (c.retain keep).records = c.records.filter keep ∧
      (c.retain keep).records.head? = c.records.head?.filter keep := by
  cases c with
  | absent => exact ⟨rfl, rfl⟩
  | single => exact held.elim
  | list => exact held.elim
  | present inner =>
    cases inner with
    | single r => cases kept : keep r <;> simp [retain, records, Option.filter, kept]
    | list => exact held.elim
    | absent => exact held.elim
    | present => exact held.elim

end Container

namespace Record

variable {r : Record ε} {name : String} {kind : RelationKind} {c : Container ε} {keep : Record ε → Bool}

theorem sameBut_put (r : Record ε) (name : String) (cell : Cell ε) : r.SameBut name (r.put name cell) :=
  ⟨rfl, fun _ different => cell?_put_other (Ne.symm different)⟩

theorem sameBut_mapRelated (r : Record ε) (name : String) (f : Record ε → Record ε) :
    r.SameBut name (r.mapRelated name f) := by
  unfold mapRelated
  split
  · exact sameBut_put r name _
  · exact ⟨rfl, fun _ _ => rfl⟩

theorem sameBut_retainRelated (r : Record ε) (name : String) (keep : Record ε → Bool) :
    r.SameBut name (r.retainRelated name keep) := by
  unfold retainRelated
  split
  · exact sameBut_put r name _
  · exact ⟨rfl, fun _ _ => rfl⟩

/-- A relation drops its records one by one if they lie in a list that is shown as a whole, or if there is one at
most that may be absent. -/
theorem get_retainRelated_filter {type : ContainerType} (found : r.cell? name = some (.relation kind c))
    (held : type.Holds c) (loose : kind = .many ∧ type = .list ∨ type = .optional .single) :
    (r.retainRelated name keep).get name = (r.get name).filter keep := by
  have after : (r.retainRelated name keep).cell? name = some (.relation kind (c.retain keep)) := by
    simp only [retainRelated, found]
    exact cell?_put_same found
  rcases loose with ⟨rfl, rfl⟩ | rfl
  · simp only [get, after, found, Slot.filter, Container.records_retain_of_list held]
  · obtain ⟨all, first⟩ := Container.head?_retain_of_optional keep held
    cases kind with
    | one => simp only [get, after, found, Slot.filter, first]
    | many => simp only [get, after, found, Slot.filter, all]

theorem get_mapRelated_matches {R : Record ε → Record ε → Prop} {f : Record ε → Record ε}
    (found : r.cell? name = some (.relation kind c)) (alike : ∀ q ∈ c.records, R q (f q)) :
    Slot.Matches R (r.get name) ((r.mapRelated name f).get name) := by
  have after : (r.mapRelated name f).cell? name = some (.relation kind (c.map f)) := by
    simp only [mapRelated, found]
    exact cell?_put_same found
  cases kind with
  | one =>
    simp only [get, after, found, Container.records_map, List.head?_map]
    cases first : c.records.head? with
    | none => exact .unset
    | some q => exact .one (alike q (List.mem_of_mem_head? first))
  | many =>
    simp only [get, after, found, Container.records_map]
    exact .many (List.forall₂_map_right_iff.mpr (List.forall₂_same.mpr alike))

end Record

namespace Path

variable [LayoutCatalog ε] {entity owner target : ε} {kind : RelationKind} {type : ContainerType}
  {leaf : Field ε} {relations : List (Field ε)} {keep : Record ε → Bool} {r : Record ε}

theorem retainAlong_pruned (leads : Leads entity relations owner)
    (found : ∃ name, (Catalog.schema owner).field? name = some leaf)
    (laid : (LayoutCatalog.layout owner).fields.lookup leaf.name = some (.relation kind type target))
    (loose : kind = .many ∧ type = .list ∨ type = .optional .single) (fits : Record.Fits entity r) :
    PrunedAlong leaf keep relations r (retainAlong leaf keep relations r) := by
  induction leads generalizing r with
  | here entity =>
    obtain ⟨name, found⟩ := found
    obtain ⟨c, lies, held⟩ := fits.relation_of_laid found laid
    exact ⟨Record.sameBut_retainRelated r _ keep, Record.get_retainRelated_filter lies held loose⟩
  | via step target _ ih =>
    obtain ⟨kind, type, c, -, -, -, lies, -, related⟩ := fits.relation step target
    refine ⟨Record.sameBut_mapRelated r _ _, Record.get_mapRelated_matches lies ?_⟩
    exact fun q present => ih found laid (related q present)

/-- Pruning at a collection in a list, or at a relation to one record that may be absent, keeps just the records
that pass, in their order, and changes nothing else on the way to them. -/
theorem retain_filters_only {p : Path ε} (reaches : p.Reaches entity owner)
    (laid : (LayoutCatalog.layout owner).fields.lookup p.leaf.name = some (.relation kind type target))
    (loose : kind = .many ∧ type = .list ∨ type = .optional .single) (keep : Record ε → Bool)
    (fits : Record.Fits entity r) :
    p.records (p.retain keep r) = (p.records r).filter keep ∧ p.Pruned keep r (p.retain keep r) := by
  have pruned : p.Pruned keep r (p.retain keep r) :=
    retainAlong_pruned reaches.leads reaches.leaf laid loose fits
  exact ⟨pruned.recordsAlong, pruned⟩

end Path

namespace Library

/-- The books by those who wrote the books of an author. -/
def booksOfCoauthors : Path Library :=
  ⟨author, [⟨"books", .many book, false⟩, ⟨"author", .one author, true⟩], ⟨"books", .many book, false⟩⟩

/-- Ann's books, one of them written with Bob, who has two of his own. -/
def annWithBob : Record Library :=
  newAuthor 1 "Ann" (.ofInt 4)
    [newBook "Emma" 120, newBookBy "Dune" 412 (newAuthor 2 "Bob" (.ofInt 4) [newBook "Ada" 99, newBook "Ulysses" 730])]

theorem annWithBob_fits : Record.Fits author annWithBob := by
  have pair : ∀ {a b : Record Library}, Record.Fits book a → Record.Fits book b →
      ∀ q ∈ [a, b], Record.Fits book q :=
    fun first second => List.forall_mem_cons.mpr ⟨first, List.forall_mem_singleton.mpr second⟩
  have bob := newAuthor_fits 2 "Bob" (.ofInt 4) (pair (newBook_fits "Ada" 99) (newBook_fits "Ulysses" 730))
  exact newAuthor_fits _ _ _ (pair (newBook_fits _ _) (newBookBy_fits _ _ bob))

/-- Bob's short book is gone; Ann's short one lies on the way and stays. -/
theorem books_of_coauthors_filtered :
    let long := fun b : Record Library => decide ((b.get "title").toValue ≠ .string "Ada")
    Record.Fits author annWithBob ∧
    booksOfCoauthors.records annWithBob = [newBook "Ada" 99, newBook "Ulysses" 730] ∧
    booksOfCoauthors.records (booksOfCoauthors.retain long annWithBob) = [newBook "Ulysses" 730] ∧
    booksOfCoauthors.Pruned long annWithBob (booksOfCoauthors.retain long annWithBob) ∧
    ((booksOfCoauthors.retain long annWithBob).get "books").records.length = 2 := by
  intro long
  have reaches : booksOfCoauthors.Reaches author author :=
    Path.resolve_reaches_owner (show Path.resolve author "books.author.books" = .ok booksOfCoauthors from rfl)
  obtain ⟨filtered, pruned⟩ :=
    Path.retain_filters_only reaches rfl (Or.inl ⟨rfl, rfl⟩) long annWithBob_fits
  exact ⟨annWithBob_fits, rfl, filtered, pruned, rfl⟩

end Library

end EntityQuery
