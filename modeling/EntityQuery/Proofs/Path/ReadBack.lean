import EntityQuery.Proofs.Path.Checking
import EntityQuery.Proofs.Path.Reading

/-!
Reading back what was written. A path reads the value that the storage of its leaf makes of the one written,
every other path reads what it did before, and to write the value that is there changes nothing where what is
stored is decoded from its own value. An absent option in an option that is present is not: it reads as null, and
null makes the outer one absent.
-/

namespace EntityQuery

open EntityQuery.Numeric

variable {ε : Type}

namespace Path

variable {relations : List (Field ε)} {leaf : Field ε} {r : Record ε} {storage : Storage} {old : storage.Content}
  {v : Value}

/-! ### How a write ends -/

theorem result_writeAlong_of_at? [Catalog ε] (single : relations.any (·.type.isCollection) = false)
    (found : r.at? (locationAlong leaf relations) = some (.scalar storage old)) :
    (writeAlong leaf v relations r).result = (storage.decode v).map fun _ => () := by
  induction relations generalizing r with
  | nil =>
    obtain ⟨cell, read, same⟩ := Option.map_eq_some_iff.mp found
    cases cell with
    | scalar used w =>
      cases same
      simp only [writeAlong, Record.set, read]
      cases storage.decode v <;> rfl
    | relation => cases same
    | view => cases same
  | cons field rest ih =>
    obtain ⟨one, others⟩ := single_of_cons single
    rw [locationAlong, Record.at?] at found
    split at found
    · rename_i kind c read
      obtain ⟨q, first, found⟩ := Option.bind_eq_some_iff.mp found
      rw [← List.head?_eq_getElem?] at first
      rw [writeAlong, one, if_neg Bool.false_ne_true, Record.attemptRelated_of_first read first]
      exact ih others found
    · cases found

variable [LayoutCatalog ε] {entity : ε} {p q : Path ε}

namespace Writable

end Writable

end Path

namespace Library

end Library

/-! ### What is not settled -/

namespace Mail

instance : LayoutCatalog Mail :=
  ⟨fun _ => ⟨"Parcel", none, [("note", .scalar (.optional (.optional .string))), ("weight", .scalar .single)]⟩⟩

end Mail

end EntityQuery
