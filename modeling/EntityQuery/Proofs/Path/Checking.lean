import EntityQuery.Proofs.Path.Writing
import EntityQuery.Proofs.Query.Update

/-!
The check before a write. It walks the records by reading them, and the write walks them by changing them. Both
take the same record at every relation and stop at the same one with the same error, so that after the check only
the field itself can refuse the value.
-/

namespace EntityQuery

variable {ε : Type}

theorem head?_flatMap_of_head? {α β : Type} {f : α → List β} {as : List α} {a : α} {b : β}
    (first : as.head? = some a) (found : (f a).head? = some b) : (as.flatMap f).head? = some b := by
  obtain ⟨rest, rfl⟩ := List.head?_eq_some_iff.mp first
  rw [List.flatMap_cons, List.head?_append, found, Option.some_or]

theorem exists_mem_zip_of_mem {α β : Type} {as : List α} {bs : List β} {b : β}
    (lengths : bs.length = as.length) (member : b ∈ bs) : ∃ a, (a, b) ∈ as.zip bs := by
  rw [← List.map_snd_zip (Nat.le_of_eq lengths), List.mem_map] at member
  obtain ⟨⟨a, _⟩, member, rfl⟩ := member
  exact ⟨a, member⟩

variable [LayoutCatalog ε] {entity : ε}

/-! ### One relation -/

namespace Record

variable {r q : Record ε} {name : String} {others : List (Record ε)}

/-- Whatever lies in a record that fits is stored as its layout says, under any name that finds it. -/
theorem Fits.stored_as {cell : Cell ε} (fits : Fits entity r) (found : r.cell? name = some cell) :
    ∃ backing : Backing ε, backing.Holds cell ∧
      ∀ target, backing.target? = some target → ∀ q ∈ cell.records, Fits target q := by
  cases fits with
  | mk names stored related =>
    have lengths := congrArg List.length names
    rw [List.length_map, List.length_map] at lengths
    obtain ⟨before, rest, split, -⟩ := List.lookup_eq_some_iff.mp found
    have member := List.mem_append_right before (List.mem_cons_self (a := (name, cell)) (l := rest))
    obtain ⟨field, zipped⟩ := exists_mem_zip_of_mem lengths (split ▸ member)
    exact ⟨field.2, stored _ _ zipped, related _ _ zipped⟩

theorem Fits.first_related (fits : Fits entity r) (first : (r.get name).records.head? = some q) :
    ∃ kind c target, r.cell? name = some (.relation kind c) ∧ c.records.head? = some q ∧ Fits target q := by
  rw [head?_get_records] at first
  obtain ⟨cell, found, first⟩ := Option.bind_eq_some_iff.mp first
  obtain ⟨backing, held, related⟩ := fits.stored_as found
  cases cell with
  | scalar => cases first
  | view => cases backing <;> exact held.elim
  | relation kind c =>
    cases backing with
    | scalar => exact held.elim
    | relation _ _ target =>
      exact ⟨kind, c, target, found, first, related target rfl q (List.mem_of_mem_head? first)⟩

variable {α : Type} {f : Record ε → Attempt (Record ε) α}

omit [LayoutCatalog ε] in
theorem attemptRelated_of_unset (unset : (r.get name).records.head? = none) :
    r.attemptRelated name f = .failed (.wrongKind "relation" "null") r := by
  rw [head?_get_records] at unset
  unfold attemptRelated
  cases found : r.cell? name with
  | none => rfl
  | some cell =>
    rw [found, Option.bind_some] at unset
    cases cell with
    | relation kind c =>
      simp only [Container.attemptFirst?_eq, show c.records.head? = none from unset, Option.map_none]
    | _ => rfl

omit [LayoutCatalog ε] in
theorem attemptRelated_of_first {kind : RelationKind} {c : Container ε}
    (found : r.cell? name = some (.relation kind c)) (first : c.records.head? = some q) :
    r.attemptRelated name f =
      ⟨(f q).result, r.put name (.relation kind (c.modify 0 fun q => (f q).after))⟩ := by
  simp only [attemptRelated, found, Container.attemptFirst?_eq, first, Option.map_some]
  rfl

end Record

/-! ### A path -/

namespace Path

variable {relations : List (Field ε)} {leaf : Field ε} {r : Record ε} {v : Value} {e : QueryError}

theorem result_writeAlong_of_check_error (fits : Record.Fits entity r)
    (failed : checkAlong relations r = .error e) : (writeAlong leaf v relations r).result = .error e := by
  induction relations generalizing entity r with
  | nil => cases failed
  | cons field rest ih =>
    rw [checkAlong] at failed
    rw [writeAlong]
    split at failed
    · rename_i collection
      rw [if_pos collection]
      exact failed
    · rename_i single
      rw [if_neg single]
      split at failed
      · rename_i unset
        rw [Record.attemptRelated_of_unset (by rw [unset]; rfl)]
        exact failed
      · rename_i child _ shown
        obtain ⟨kind, c, target, found, first, fit⟩ := fits.first_related (q := child) (by rw [shown]; rfl)
        rw [Record.attemptRelated_of_first found first]
        exact ih fit failed

theorem after_writeAlong_of_error (fits : Record.Fits entity r)
    (failed : (writeAlong leaf v relations r).result = .error e) :
    (writeAlong leaf v relations r).after = r := by
  induction relations generalizing entity r with
  | nil =>
    rw [writeAlong] at failed ⊢
    cases stored : r.set leaf.name v with
    | error => rfl
    | ok after =>
      rw [stored] at failed
      cases failed
  | cons field rest ih =>
    rw [writeAlong] at failed ⊢
    split
    · rfl
    · rename_i single
      rw [if_neg single] at failed
      cases shown : (r.get field.name).records.head? with
      | none => rw [Record.attemptRelated_of_unset shown]; rfl
      | some child =>
        obtain ⟨kind, c, target, found, first, fit⟩ := fits.first_related shown
        rw [Record.attemptRelated_of_first found first] at failed ⊢
        have same : c.modify 0 (fun q => (writeAlong leaf v rest q).after) = c := by
          refine Container.modify_of_fixed fun q also => ?_
          rw [← List.head?_eq_getElem?, first] at also
          cases also
          exact ih fit failed
        dsimp only
        rw [same, Record.put_self found]

/-- After its check a write ends as the one to the field of the record that is reached, which is what is found
there afterwards. -/
theorem writeAlong_of_check (leaf : Field ε) (v : Value) (fits : Record.Fits entity r)
    (passed : checkAlong relations r = .ok ()) :
    ∃ o, (recordsAlong relations r).head? = some o ∧
      (writeAlong leaf v relations r).result = (o.set leaf.name v).map (fun _ => ()) ∧
      ∀ o', o.set leaf.name v = .ok o' →
        (recordsAlong relations (writeAlong leaf v relations r).after).head? = some o' := by
  induction relations generalizing entity r with
  | nil =>
    refine ⟨r, rfl, ?_, ?_⟩
    · rw [writeAlong]
      cases r.set leaf.name v <;> rfl
    · intro o' stored
      rw [writeAlong, stored]
      rfl
  | cons field rest ih =>
    rw [checkAlong] at passed
    split at passed
    · cases passed
    rename_i single
    split at passed
    · cases passed
    rename_i child others shown
    have first : (r.get field.name).records.head? = some child := by rw [shown]; rfl
    obtain ⟨kind, c, target, found, lies, fit⟩ := fits.first_related first
    obtain ⟨o, reached, result, after⟩ := ih fit passed
    rw [writeAlong, if_neg single, Record.attemptRelated_of_first found lies]
    refine ⟨o, head?_flatMap_of_head? first reached, result, ?_⟩
    intro o' stored
    refine head?_flatMap_of_head? (a := (writeAlong leaf v rest child).after) ?_ (after o' stored)
    rw [Record.head?_get_records, Record.cell?_put_same found, Option.bind_some, Cell.records,
      Container.records_modify, head?_modify, lies]
    rfl

theorem recordsAlong_of_check {owner : ε} (leads : Leads entity relations owner)
    (fits : Record.Fits entity r) (passed : checkAlong relations r = .ok ()) :
    ∃ o, recordsAlong relations r = [o] := by
  induction leads generalizing r with
  | here entity => exact ⟨r, rfl⟩
  | @via _ _ _ _ field rest step target _ ih =>
    obtain ⟨kind, type, c, -, described, -, lies, -, related⟩ := fits.relation step target
    rw [checkAlong] at passed
    split at passed
    · cases passed
    rename_i single
    split at passed
    · cases passed
    rename_i child others shown
    have first : c.records.head? = some child := by
      have head := Record.head?_get_records r field.name
      rw [shown, lies] at head
      exact head.symm
    obtain ⟨o, reached⟩ := ih (related child (List.mem_of_mem_head? first)) passed
    have alone : (r.get field.name).records = [child] := by
      cases kind with
      | one => simp only [Record.get, lies, first]; rfl
      | many =>
        rw [described] at single
        exact absurd rfl single
    exact ⟨o, by rw [recordsAlong, alone, List.flatMap_singleton, reached]⟩

/-- A write fails as its check does. After a check that is passed it ends as the field of the record that is
reached takes or refuses the value, and the record that the field then belongs to is found there. A write that
fails changes nothing. -/
theorem write_as_checked (p : Path ε) (v : Value) (fits : Record.Fits entity r) :
    (∀ e, p.checkReachable r = .error e → (p.write r v).result = .error e) ∧
    (p.checkReachable r = .ok () → ∃ o, (recordsAlong p.relations r).head? = some o ∧
      (∀ owner, p.Reaches entity owner → recordsAlong p.relations r = [o]) ∧
      (p.write r v).result = (o.set p.leaf.name v).map (fun _ => ()) ∧
      ∀ o', o.set p.leaf.name v = .ok o' →
        (recordsAlong p.relations (p.write r v).after).head? = some o') ∧
    ∀ e, (p.write r v).result = .error e → (p.write r v).after = r := by
  refine ⟨fun e failed => result_writeAlong_of_check_error fits failed, ?_,
    fun e failed => after_writeAlong_of_error fits failed⟩
  intro passed
  obtain ⟨o, reached, result, after⟩ := writeAlong_of_check p.leaf v fits passed
  refine ⟨o, reached, ?_, result, after⟩
  intro owner reaches
  obtain ⟨only, found⟩ := recordsAlong_of_check reaches.leads fits passed
  rw [found] at reached ⊢
  cases reached
  rfl

end Path

namespace Library

/-- The name of the author is written where there is an author and the value is a text. -/
theorem names_of_authors_as_checked :
    Record.Fits book bookOfAnn ∧ nameOfAuthor.checkReachable bookOfAnn = .ok () ∧
    (∃ o, Path.recordsAlong nameOfAuthor.relations bookOfAnn = [o] ∧
      o.get "name" = .value (.string "Ann") ∧
      (nameOfAuthor.write bookOfAnn (.string "Bo")).result = (o.set "name" (.string "Bo")).map fun _ => ()) ∧
    (nameOfAuthor.write bookOfAnn (.bool true)).after = bookOfAnn ∧
    Record.Fits book (newBook "Dune" 412) ∧
    (nameOfAuthor.write (newBook "Dune" 412) (.string "Bo")).result = .error (.wrongKind "relation" "null") := by
  have reaches : nameOfAuthor.Reaches book author :=
    Path.resolve_reaches_owner (show Path.resolve book "author.name" = .ok nameOfAuthor from rfl)
  have unknown := newBook_fits "Dune" 412
  obtain ⟨-, written, unchanged⟩ := Path.write_as_checked nameOfAuthor (.string "Bo") bookOfAnn_fits
  obtain ⟨o, -, only, result, -⟩ := written rfl
  have alone := only author reaches
  refine ⟨bookOfAnn_fits, rfl, ⟨o, alone, ?_, result⟩, ?_, unknown, ?_⟩
  · cases alone
    rfl
  · exact (Path.write_as_checked nameOfAuthor (.bool true) bookOfAnn_fits).2.2 _ rfl
  · exact (Path.write_as_checked nameOfAuthor (.string "Bo") unknown).1 _ rfl

end Library

end EntityQuery
