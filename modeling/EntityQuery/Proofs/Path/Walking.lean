import EntityQuery.Proofs.Path.Resolution
import EntityQuery.Proofs.Record.Library
import Mathlib.Data.List.Chain

/-!
The walk behind a resolved path. Every part of the text names a field of the entity that the parts before it
lead to. Where a part cannot be followed, the path is rejected with that part and that entity.
-/

namespace EntityQuery

open EntityQuery.Text

variable {ε : Type}

/-! ### Names of fields -/

namespace Schema

/-- The field that a name stands for: the first one spelt so or, if none is, the first one that is spelt so
apart from the case of ASCII letters. -/
inductive Names (s : Schema ε) (name : String) (field : Field ε) : Prop where
  | spelt {before after : List (Field ε)} (lies : s.fields = before ++ field :: after)
      (same : field.name = name) (first : ∀ other ∈ before, other.name ≠ name) : Names s name field
  | inAnyCase {before after : List (Field ε)} (lies : s.fields = before ++ field :: after)
      (unspelt : ∀ other ∈ s.fields, other.name ≠ name)
      (same : equalIgnoringAsciiCase field.name name = true)
      (first : ∀ other ∈ before, equalIgnoringAsciiCase other.name name = false) : Names s name field

variable {s : Schema ε} {name : String} {field : Field ε}

theorem Names.mem (named : s.Names name field) : field ∈ s.fields := by
  cases named with
  | spelt lies | inAnyCase lies => exact lies ▸ List.mem_append_right _ List.mem_cons_self

theorem field?_eq_some_iff : s.field? name = some field ↔ s.Names name field := by
  rw [field?, Option.orElse_eq_orElse, Option.orElse_eq_or, Option.or_eq_some_iff,
    List.find?_eq_some_iff_append, List.find?_eq_some_iff_append, List.find?_eq_none]
  constructor
  · rintro (⟨same, before, after, lies, first⟩ | ⟨unspelt, same, before, after, lies, first⟩)
    · refine .spelt lies (beq_iff_eq.mp same) fun other member => ?_
      simpa using first other member
    · refine .inAnyCase lies (fun other member => ?_) same fun other member => ?_
      · simpa using unspelt other member
      · simpa using first other member
  · intro named
    cases named with
    | spelt lies same first =>
      refine Or.inl ⟨beq_iff_eq.mpr same, _, _, lies, fun other member => ?_⟩
      simpa using first other member
    | inAnyCase lies unspelt same first =>
      refine Or.inr ⟨fun other member => ?_, same, _, _, lies, fun other member => ?_⟩
      · simpa using unspelt other member
      · simpa using first other member

theorem field?_eq_none_iff :
    s.field? name = none ↔ ∀ other ∈ s.fields, equalIgnoringAsciiCase other.name name = false := by
  rw [field?, Option.orElse_eq_orElse, Option.orElse_eq_or, Option.or_eq_none_iff, List.find?_eq_none,
    List.find?_eq_none]
  constructor
  · rintro ⟨-, missing⟩ other member
    simpa using missing other member
  · intro missing
    refine ⟨fun other member same => ?_, fun other member => by simp [missing other member]⟩
    have folded := missing other member
    rw [beq_iff_eq.mp same, equalIgnoringAsciiCase, beq_self_eq_true] at folded
    cases folded

end Schema

namespace Path

/-! ### Walks -/

def parts (path : String) : List String :=
  (splitOn '.' path).map trim

theorem parts_ne_nil (path : String) : parts path ≠ [] := by
  simp [parts, splitOn, pieces_ne_nil]

variable [Catalog ε] {root entity next last owner : ε} {names : List String} {name part path : String}
  {relations : List (Field ε)} {leaf field : Field ε}

/-- Names that lead from one entity to another, each of them that of a relation. -/
inductive Walks : ε → List String → List (Field ε) → ε → Prop where
  | here (entity : ε) : Walks entity [] [] entity
  | via {entity next last : ε} {name : String} {field : Field ε} {names : List String}
      {relations : List (Field ε)} (named : (Catalog.schema entity).Names name field)
      (target : field.type.target? = some next) (rest : Walks next names relations last) :
      Walks entity (name :: names) (field :: relations) last

/-- All parts but the last lead through relations to an entity, and the last one names a field of it. -/
inductive Arrives (root : ε) : List String → List (Field ε) → Field ε → Prop where
  | intro {earlier : List String} {last : String} {relations : List (Field ε)} {owner : ε} {leaf : Field ε}
      (walked : Walks root earlier relations owner) (named : (Catalog.schema owner).Names last leaf) :
      Arrives root (earlier ++ [last]) relations leaf

/-- The first part that cannot be followed, and the entity that the parts before it lead to: no field there has
that name in any case, or it comes after the name of a scalar. -/
inductive Stops (root : ε) : List String → ε → String → Prop where
  | unnamed {earlier rest : List String} {part : String} {relations : List (Field ε)} {entity : ε}
      (walked : Walks root earlier relations entity)
      (missing : ∀ f ∈ (Catalog.schema entity).fields, equalIgnoringAsciiCase f.name part = false) :
      Stops root (earlier ++ part :: rest) entity part
  | scalar {earlier rest : List String} {name part : String} {relations : List (Field ε)} {entity : ε}
      {field : Field ε} (walked : Walks root earlier relations entity)
      (named : (Catalog.schema entity).Names name field) (plain : field.type.target? = none) :
      Stops root (earlier ++ name :: part :: rest) entity part

/-! ### One part -/

theorem follow_of_named (named : (Catalog.schema entity).Names name leaf) (path : String) :
    follow path entity [name] = .ok ([], leaf) := by
  rw [follow, Schema.field?_eq_some_iff.mpr named]

theorem follow_of_relation {rest : List String} (named : (Catalog.schema entity).Names name field)
    (target : field.type.target? = some next) (more : rest ≠ []) (path : String) :
    follow path entity (name :: rest) =
      (follow path next rest).map fun (relations, leaf) => (field :: relations, leaf) := by
  rw [follow, Schema.field?_eq_some_iff.mpr named]
  cases rest with
  | nil => contradiction
  | cons part rest => simp only [target]

theorem follow_of_scalar (named : (Catalog.schema entity).Names name field)
    (plain : field.type.target? = none) (path part : String) (rest : List String) :
    follow path entity (name :: part :: rest) =
      .error (.unresolvedPath (entityName entity) path part) := by
  rw [follow, Schema.field?_eq_some_iff.mpr named]
  simp only [plain]

theorem follow_of_unnamed
    (missing : ∀ f ∈ (Catalog.schema entity).fields, equalIgnoringAsciiCase f.name part = false)
    (path : String) (rest : List String) :
    follow path entity (part :: rest) = .error (.unresolvedPath (entityName entity) path part) := by
  rw [follow, Schema.field?_eq_none_iff.mpr missing]

/-! ### All parts -/

theorem Walks.follow_append (walked : Walks entity names relations owner) (path part : String)
    (rest : List String) :
    follow path entity (names ++ part :: rest) =
      (follow path owner (part :: rest)).map fun (more, leaf) => (relations ++ more, leaf) := by
  induction walked with
  | here entity =>
    rw [List.nil_append]
    rcases follow path entity (part :: rest) with _ | ⟨more, leaf⟩ <;> rfl
  | @via entity next last name field names relations named target _ ih =>
    rw [List.cons_append, follow_of_relation named target (by simp), ih]
    rcases follow path last (part :: rest) with _ | ⟨more, leaf⟩ <;> rfl

theorem Arrives.follow_eq (arrives : Arrives root names relations leaf) (path : String) :
    follow path root names = .ok (relations, leaf) := by
  obtain ⟨walked, named⟩ := arrives
  rw [walked.follow_append, follow_of_named named]
  simp [Except.map]

theorem Stops.follow_eq (stops : Stops root names entity part) (path : String) :
    follow path root names = .error (.unresolvedPath (entityName entity) path part) := by
  cases stops with
  | unnamed walked missing =>
    rw [walked.follow_append, follow_of_unnamed missing]
    rfl
  | scalar walked named plain =>
    rw [walked.follow_append, follow_of_scalar named plain]
    rfl

theorem Arrives.via (named : (Catalog.schema root).Names name field)
    (target : field.type.target? = some next) (arrives : Arrives next names relations leaf) :
    Arrives root (name :: names) (field :: relations) leaf := by
  obtain ⟨walked, last⟩ := arrives
  exact .intro (walked.via named target) last

theorem Stops.via (named : (Catalog.schema root).Names name field)
    (target : field.type.target? = some next) (stops : Stops next names entity part) :
    Stops root (name :: names) entity part := by
  cases stops with
  | unnamed walked missing => exact .unnamed (walked.via named target) missing
  | scalar walked last plain => exact .scalar (walked.via named target) last plain

theorem arrives_or_stops (root : ε) (some : names ≠ []) :
    (∃ relations leaf, Arrives root names relations leaf) ∨ ∃ entity part, Stops root names entity part := by
  induction names generalizing root with
  | nil => contradiction
  | cons name rest ih =>
    cases found : (Catalog.schema root).field? name with
    | none => exact Or.inr ⟨root, name, .unnamed (.here root) (Schema.field?_eq_none_iff.mp found)⟩
    | some field =>
      have named := Schema.field?_eq_some_iff.mp found
      -- the last name may be that of any field, one with more behind it has to be that of a relation
      cases rest with
      | nil => exact Or.inl ⟨[], field, .intro (.here root) named⟩
      | cons part rest =>
        cases target : field.type.target? with
        | none => exact Or.inr ⟨root, part, .scalar (.here root) named target⟩
        | some next =>
          rcases ih next (by simp) with ⟨relations, leaf, arrives⟩ | ⟨entity, stopped, stops⟩
          · exact Or.inl ⟨_, leaf, arrives.via named target⟩
          · exact Or.inr ⟨entity, stopped, stops.via named target⟩

theorem follow_ok_iff (some : names ≠ []) :
    follow path root names = .ok (relations, leaf) ↔ Arrives root names relations leaf := by
  refine ⟨fun walked => ?_, fun arrives => arrives.follow_eq path⟩
  rcases arrives_or_stops root some with ⟨_, _, arrives⟩ | ⟨_, _, stops⟩
  · cases walked.symm.trans (arrives.follow_eq path)
    exact arrives
  · cases walked.symm.trans (stops.follow_eq path)

theorem follow_error_iff {e : QueryError} (some : names ≠ []) :
    follow path root names = .error e ↔ ∃ entity part, Stops root names entity part ∧
      e = .unresolvedPath (entityName entity) path part := by
  constructor
  · intro failed
    rcases arrives_or_stops root some with ⟨_, _, arrives⟩ | ⟨entity, part, stops⟩
    · cases failed.symm.trans (arrives.follow_eq path)
    · exact ⟨entity, part, stops, Except.error.inj (failed.symm.trans (stops.follow_eq path))⟩
  · rintro ⟨entity, part, stops, rfl⟩
    exact stops.follow_eq path

/-! ### Segments -/

/-- The second field is one of the entity that the first one leads to. -/
def LeadsTo (f g : Field ε) : Prop :=
  ∃ target, f.type.target? = some target ∧ g ∈ (Catalog.schema target).fields

theorem Walks.linked (walked : Walks entity names relations owner)
    (member : leaf ∈ (Catalog.schema owner).fields) :
    (∀ f ∈ (relations ++ [leaf]).head?, f ∈ (Catalog.schema entity).fields) ∧
      (relations ++ [leaf]).IsChain LeadsTo := by
  induction walked with
  | here entity => exact ⟨fun f head => Option.some.inj head ▸ member, .singleton leaf⟩
  | @via entity next _ _ field _ relations named target _ ih =>
    obtain ⟨first, linked⟩ := ih member
    refine ⟨fun f head => Option.some.inj head ▸ named.mem, ?_⟩
    exact linked.cons fun g head => ⟨next, target, first g head⟩

theorem Walks.isRelation (walked : Walks entity names relations owner) :
    ∀ f ∈ relations, f.type.isRelation = true := by
  induction walked with
  | here => exact nofun
  | via _ target _ ih =>
    refine List.forall_mem_cons.mpr ⟨?_, ih⟩
    rw [FieldType.isRelation, target]
    rfl

theorem resolve_ok_iff {p : Path ε} :
    resolve root path = .ok p ↔ p.root = root ∧ Arrives root (parts path) p.relations p.leaf := by
  constructor
  · intro resolved
    obtain ⟨⟨relations, leaf⟩, walked, rfl⟩ := map_ok resolved
    exact ⟨rfl, (follow_ok_iff (parts_ne_nil path)).mp walked⟩
  · rintro ⟨rfl, arrives⟩
    exact congrArg (Except.map _) (arrives.follow_eq path)

theorem resolve_error_iff {e : QueryError} :
    resolve root path = .error e ↔ ∃ entity part, Stops root (parts path) entity part ∧
      e = .unresolvedPath (entityName entity) path part := by
  refine Iff.trans ?_ (follow_error_iff (parts_ne_nil path))
  change Except.map _ (follow path root (parts path)) = _ ↔ _
  cases follow path root (parts path) <;> simp [Except.map]

/-- A path is accepted if its parts walk the schemas, and its fields are the ones that they name, linked from
the root on. Otherwise it is rejected with the first part that cannot be followed and the entity reached before
it. -/
theorem resolve_walks (root : ε) (path : String) :
    (∀ p : Path ε, resolve root path = .ok p ↔
      p.root = root ∧ Arrives root (parts path) p.relations p.leaf) ∧
    (∀ p : Path ε, resolve root path = .ok p → p.segments ≠ [] ∧
      (∀ f ∈ p.segments.head?, f ∈ (Catalog.schema root).fields) ∧ p.segments.IsChain LeadsTo ∧
      ∀ f ∈ p.segments.dropLast, f.type.isRelation = true) ∧
    ∀ e, resolve root path = .error e ↔ ∃ entity part, Stops root (parts path) entity part ∧
      e = .unresolvedPath (entityName entity) path part := by
  refine ⟨fun p => resolve_ok_iff, fun p resolved => ?_, fun e => resolve_error_iff⟩
  obtain ⟨-, arrives⟩ := resolve_ok_iff.mp resolved
  obtain ⟨root', relations, leaf⟩ := p
  generalize parts path = names at arrives
  obtain ⟨walked, named⟩ := arrives
  obtain ⟨first, linked⟩ := walked.linked named.mem
  refine ⟨by simp [segments], first, linked, ?_⟩
  rw [segments, List.dropLast_concat]
  exact walked.isRelation

end Path

namespace Library

/-- A name has no parts, and between two dots there is no name. -/
theorem names_of_writers_walked :
    (∃ p, Path.resolve book "AUTHOR . name" = .ok p ∧
      Path.Arrives book ["AUTHOR", "name"] p.relations p.leaf ∧ p.segments.IsChain Path.LeadsTo) ∧
    Path.resolve book "author.name.length" =
      .error (.unresolvedPath "Author" "author.name.length" "length") ∧
    Path.resolve book "author..name" = .error (.unresolvedPath "Author" "author..name" "") := by
  have walked : Path.Walks book ["author"] [authorOfBook] author :=
    .via (Schema.field?_eq_some_iff.mp rfl) rfl (.here author)
  have stops : Path.Stops book (["author"] ++ "name" :: ["length"]) author "length" :=
    .scalar walked (Schema.field?_eq_some_iff.mp (show _ = some nameOfAuthor.leaf from rfl)) rfl
  have missing : Path.Stops book (["author"] ++ "" :: ["name"]) author "" :=
    .unnamed walked (Schema.field?_eq_none_iff.mp rfl)
  obtain ⟨accepted, linked, -⟩ := Path.resolve_walks book "AUTHOR . name"
  have resolved : Path.resolve book "AUTHOR . name" = .ok nameOfAuthor := rfl
  obtain ⟨-, arrives⟩ := (accepted nameOfAuthor).mp resolved
  obtain ⟨-, -, rejected⟩ := Path.resolve_walks book "author.name.length"
  obtain ⟨-, -, refused⟩ := Path.resolve_walks book "author..name"
  refine ⟨⟨nameOfAuthor, resolved, arrives, (linked _ resolved).2.2.1⟩, ?_, ?_⟩
  · exact (rejected _).mpr ⟨author, "length", stops, rfl⟩
  · exact (refused _).mpr ⟨author, "", missing, rfl⟩

end Library

end EntityQuery
