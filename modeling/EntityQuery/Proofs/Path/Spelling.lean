import EntityQuery.Proofs.Path.Walking
import EntityQuery.Proofs.Text.Split

/-!
The spelling of resolved paths. However a path was written, it is spelt as the schemas spell its fields. That
text leads to the same path again, so it tells a path from all others of its root.
-/

namespace EntityQuery

open EntityQuery.Text

variable {ε : Type}

/-- The name can stand between the dots of a path as it is. -/
structure Field.Spellable (f : Field ε) : Prop where
  undotted : '.' ∉ f.name.toList
  trimmed : trim f.name = f.name

theorem Schema.Names.own {s : Schema ε} {name : String} {field : Field ε} (named : s.Names name field) :
    s.Names field.name field := by
  cases named with
  | spelt lies same first => exact .spelt lies rfl (same ▸ first)
  | inAnyCase lies _ same first =>
    -- a field before it that is spelt like it would have been found for the name
    refine .spelt lies rfl fun other member equal => ?_
    have folded := first other member
    rw [equal, same] at folded
    cases folded

namespace Path

variable [Catalog ε] {root entity owner : ε} {names : List String} {relations : List (Field ε)} {leaf : Field ε}

theorem Walks.own (walked : Walks entity names relations owner) :
    Walks entity (relations.map (·.name)) relations owner := by
  induction walked with
  | here entity => exact .here entity
  | via named target _ ih => exact .via named.own target ih

theorem Arrives.own (arrives : Arrives root names relations leaf) :
    Arrives root ((relations ++ [leaf]).map (·.name)) relations leaf := by
  obtain ⟨walked, named⟩ := arrives
  rw [List.map_append]
  exact .intro walked.own named.own

theorem Walks.mem_schema (walked : Walks entity names relations owner) :
    ∀ f ∈ relations, ∃ entity : ε, f ∈ (Catalog.schema entity).fields := by
  induction walked with
  | here => exact nofun
  | via named _ _ ih => exact List.forall_mem_cons.mpr ⟨⟨_, named.mem⟩, ih⟩

theorem Arrives.mem_schema (arrives : Arrives root names relations leaf) :
    ∀ f ∈ relations ++ [leaf], ∃ entity : ε, f ∈ (Catalog.schema entity).fields := by
  obtain ⟨walked, named⟩ := arrives
  intro f member
  rcases List.mem_append.mp member with member | member
  · exact walked.mem_schema f member
  · exact ⟨_, List.mem_singleton.mp member ▸ named.mem⟩

omit [Catalog ε] in
theorem parts_text {p : Path ε} (spellable : ∀ f ∈ p.segments, f.Spellable) :
    parts p.text = p.segments.map (·.name) := by
  have nonempty : p.segments.map (·.name) ≠ [] := by simp [segments]
  have undotted : ∀ name ∈ p.segments.map (·.name), '.' ∉ name.toList := by
    simpa only [List.forall_mem_map] using fun f member => (spellable f member).undotted
  have cut : splitOn '.' p.text = p.segments.map (·.name) := splitOn_joined nonempty undotted
  rw [parts, cut, List.map_map]
  exact List.map_congr_left fun f member => (spellable f member).trimmed

/-- The spelling of a resolved path resolves to it, and two paths of one root are spelt in the same way only if
they go through the same fields. -/
theorem resolve_text [DecidableEq ε]
    (spellable : ∀ entity : ε, ∀ f ∈ (Catalog.schema entity).fields, f.Spellable) (root : ε) :
    (∀ path (p : Path ε), resolve root path = .ok p → resolve root p.text = .ok p) ∧
    ∀ path other (p q : Path ε), resolve root path = .ok p → resolve root other = .ok q →
      (p.same q = true ↔ p.segments = q.segments) := by
  have respelt : ∀ path (p : Path ε), resolve root path = .ok p → resolve root p.text = .ok p := by
    intro path p resolved
    obtain ⟨rooted, arrives⟩ := resolve_ok_iff.mp resolved
    have plain : ∀ f ∈ p.segments, f.Spellable := by
      intro f member
      obtain ⟨entity, listed⟩ := arrives.mem_schema f member
      exact spellable entity f listed
    refine resolve_ok_iff.mpr ⟨rooted, ?_⟩
    rw [parts_text plain]
    exact arrives.own
  refine ⟨respelt, fun path other p q resolved also => ?_⟩
  have rooted : p.root = q.root := (resolve_ok_iff.mp resolved).1.trans (resolve_ok_iff.mp also).1.symm
  rw [same, Bool.and_eq_true, decide_eq_true_eq, beq_iff_eq]
  constructor
  · rintro ⟨-, spelt⟩
    have again := respelt path p resolved
    rw [spelt, respelt other q also] at again
    cases again
    rfl
  · intro through
    exact ⟨rooted, by rw [text, text, through]⟩

end Path

namespace Library

theorem fields_spellable : ∀ entity : Library, ∀ f ∈ (Catalog.schema entity).fields, f.Spellable := by
  have checked : ∀ entity ∈ [author, book, shelf], ∀ f ∈ (Catalog.schema entity).fields,
      '.' ∉ f.name.toList ∧ trim f.name = f.name := by decide
  intro entity f member
  obtain ⟨undotted, trimmed⟩ := checked entity (by cases entity <;> decide) f member
  exact ⟨undotted, trimmed⟩

theorem name_of_writer_spelt :
    Path.resolve book " Author.NAME" = .ok nameOfAuthor ∧ nameOfAuthor.text = "author.name" ∧
    Path.resolve book "author.name" = .ok nameOfAuthor ∧
    ∀ q, Path.resolve book "author . Name" = .ok q →
      (nameOfAuthor.same q = true ↔ nameOfAuthor.segments = q.segments) := by
  have resolved : Path.resolve book " Author.NAME" = .ok nameOfAuthor := rfl
  obtain ⟨respelt, told⟩ := Path.resolve_text fields_spellable book
  exact ⟨resolved, rfl, respelt _ _ resolved, fun q also => told _ _ _ q resolved also⟩

end Library

end EntityQuery
