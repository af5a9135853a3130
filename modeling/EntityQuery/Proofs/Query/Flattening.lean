import EntityQuery.Proofs.Json.Leaves
import EntityQuery.Proofs.Query.Update

/-!
Nested objects of values and flat ones. The members of a flat object come in the order of its keys, which
is not the order in which a nested one is flattened. The update is the same for both, unless it has two
values for one path.
-/

namespace EntityQuery

variable {ε : Type} {entity : ε}

namespace UpdateAction

section Order

variable {action : UpdateAction entity}

theorem ofMembers_perm [Catalog ε] {config : Config} {members others : List (String × Json)}
    (perm : (Json.flatten others).Perm (Json.flatten members)) (done : ofMembers config members = .ok action) :
    ∃ reordered : UpdateAction entity,
      ofMembers config others = .ok reordered ∧ reordered.setters.Perm action.setters := by
  obtain ⟨setters, read, done⟩ := bind_ok done
  cases done
  obtain ⟨reordered, run, same⟩ := mapM_perm perm read
  refine ⟨⟨reordered.filterMap id⟩, ?_, same.filterMap id⟩
  unfold ofMembers
  rw [run]
  rfl

theorem ofMembers_built_perm [Catalog ε] {config : Config} {members others : List (String × Json)}
    (perm : (Json.flatten others).Perm (Json.flatten members)) :
    (∃ action : UpdateAction entity, ofMembers config others = .ok action) ↔
      ∃ action : UpdateAction entity, ofMembers config members = .ok action := by
  constructor
  · rintro ⟨action, done⟩
    obtain ⟨reordered, done, -⟩ := ofMembers_perm perm.symm done
    exact ⟨reordered, done⟩
  · rintro ⟨action, done⟩
    obtain ⟨reordered, done, -⟩ := ofMembers_perm perm done
    exact ⟨reordered, done⟩

end Order

/-- The flat object with the flattened entries of an object names the same leaves, each once. An update
can be built from both objects or from neither, with the same setters in some order, and if these are for
different paths, the two updates do the same. -/
theorem ofMembers_flattened [LayoutCatalog ε] (entity : ε) (config : Config)
    (members : List (String × Json)) (distinct : ((Json.flatten members).map (·.1)).Nodup) :
    ((Json.flattened members).Pairwise (·.1 < ·.1) ∧
      (Json.flattened members).Perm (Json.flatten members)) ∧
    ((Json.flatten (Json.flattened members)).Perm (Json.flatten members) ∧
      Json.NamesLeaves members (Json.flatten (Json.flattened members))) ∧
    ((∃ action : UpdateAction entity, ofMembers config members = .ok action) ↔
      ∃ flat : UpdateAction entity, ofMembers config (Json.flattened members) = .ok flat) ∧
    ∀ action flat : UpdateAction entity, ofMembers config members = .ok action →
      ofMembers config (Json.flattened members) = .ok flat →
        flat.setters.Perm action.setters ∧
          ((action.setters.map (·.path)).Nodup → ∀ r, flat.apply r = action.apply r) := by
  have listed := Json.flattened_perm distinct
  have perm : (Json.flatten (Json.flattened members)).Perm (Json.flatten members) := by
    rw [Json.flatten_flattened distinct]
    exact listed
  refine ⟨⟨Json.flattened_sorted members, listed⟩, ⟨perm, Json.namesLeaves_of_perm distinct perm⟩,
    (ofMembers_built_perm perm).symm, ?_⟩
  intro action flat done flatDone
  obtain ⟨reordered, run, same⟩ := ofMembers_perm perm done
  cases flatDone.symm.trans run
  have writable : action.Writable := ofJson_writable (show ofJson config (.object members) = _ from done)
  exact ⟨same, fun different r => apply_perm writable different same r⟩

end UpdateAction

namespace Library

open UpdateAction

def nameEntry : String × Json :=
  ("author.name", .string "Bo")

def ratingEntry : String × Json :=
  ("author .rating", .number (.float (.ofInt 5)))

/-- The blank in the second key comes before the dot that the first one has when it is flat. -/
def newRating : List (String × Json) :=
  [("author", .object [("name", .string "Bo"), ("notes", .object [])]), ratingEntry]

def ratingOfAuthor : Path Library :=
  ⟨book, [authorOfBook], ⟨"rating", .float, false⟩⟩

theorem newRating_flat_or_nested :
    ((Json.flatten newRating).map (·.1)).Nodup ∧
    ∃ action flat : UpdateAction book,
      ofMembers {} newRating = .ok action ∧ ofMembers {} (Json.flattened newRating) = .ok flat ∧
      action.setters.map (·.path) = [nameOfAuthor, ratingOfAuthor] ∧
      flat.setters.map (·.path) = [ratingOfAuthor, nameOfAuthor] ∧
      flat.apply bookOfAnn = action.apply bookOfAnn ∧ (action.apply bookOfAnn).result = .ok () := by
  have nested : Json.flatten newRating = [nameEntry, ratingEntry] := by
    simp [newRating, nameEntry, ratingEntry, Json.flatten, Json.flattenUnder]
  have sorted : Json.flattened newRating = [ratingEntry, nameEntry] := by
    rw [Json.flattened, nested]
    rfl
  have distinct : ((Json.flatten newRating).map (·.1)).Nodup := by
    rw [nested]
    decide
  have done : ofMembers {} newRating =
      .ok (⟨[⟨nameOfAuthor, .string "Bo"⟩, ⟨ratingOfAuthor, best⟩]⟩ : UpdateAction book) := by
    unfold ofMembers
    rw [nested]
    rfl
  have flatDone : ofMembers {} (Json.flattened newRating) =
      .ok (⟨[⟨ratingOfAuthor, best⟩, ⟨nameOfAuthor, .string "Bo"⟩]⟩ : UpdateAction book) := by
    unfold ofMembers
    rw [Json.flatten_flattened distinct, sorted]
    rfl
  obtain ⟨-, -, -, same⟩ := ofMembers_flattened book {} newRating distinct
  exact ⟨distinct, _, _, done, flatDone, rfl, rfl, (same _ _ done flatDone).2 (by decide) bookOfAnn, rfl⟩

end Library

end EntityQuery
