import EntityQuery.Proofs.Query.Update

/-!
Where the setters of an update lead. Each of them ends at a scalar behind single relations, so a check can
fail only because one of these relations is not set.
-/

namespace EntityQuery

variable {ε : Type} {entity : ε}

namespace Path

/-- Every one of the relations shows a record, in which the next one is looked up. -/
inductive AllSet : List (Field ε) → Record ε → Prop where
  | leaf (r : Record ε) : AllSet [] r
  | via {field : Field ε} {relations : List (Field ε)} {r child : Record ε}
      (shown : r.get field.name = .one (some child)) (rest : AllSet relations child) :
      AllSet (field :: relations) r

theorem one_of_single [Catalog ε] {relations : List (Field ε)} {owner : ε}
    (leads : Leads entity relations owner) (single : relations.any (·.type.isCollection) = false) :
    ∀ field ∈ relations, ∃ target, field.type = .one target := by
  induction leads with
  | here => exact nofun
  | @via _ next _ _ field _ _ target _ ih =>
    obtain ⟨one, others⟩ := single_of_cons single
    refine List.forall_mem_cons.mpr ⟨⟨next, ?_⟩, ih others⟩
    cases typed : field.type <;> rw [typed] at one target <;> cases target
    · rfl
    · cases one

variable [LayoutCatalog ε] {relations : List (Field ε)} {owner : ε} {r : Record ε}

theorem checkAlong_ok_iff (leads : Leads entity relations owner)
    (single : relations.any (·.type.isCollection) = false) (fits : Record.Fits entity r) :
    checkAlong relations r = .ok () ↔ AllSet relations r := by
  induction leads generalizing r with
  | here => exact ⟨fun _ => .leaf r, fun _ => rfl⟩
  | @via _ _ _ _ field rest found target _ ih =>
    obtain ⟨one, others⟩ := single_of_cons single
    obtain ⟨kind, type, c, -, described, -, lies, -, related⟩ := fits.relation found target
    cases kind with
    | many =>
      rw [described] at one
      cases one
    | one =>
      have shown : r.get field.name = .one c.records.head? := by simp only [Record.get, lies]
      rw [checkAlong, one, if_neg Bool.false_ne_true, shown]
      cases first : c.records.head? with
      | none =>
        rw [first] at shown
        constructor
        · intro passed
          cases passed
        · intro set
          cases set with
          | via also => cases shown.symm.trans also
      | some child =>
        rw [first] at shown
        have tail := ih others (related child (List.mem_of_mem_head? first))
        refine tail.trans ⟨.via shown, fun set => ?_⟩
        cases set with
        | via also rest =>
          cases shown.symm.trans also
          exact rest

end Path

namespace UpdateAction

variable [LayoutCatalog ε] {action : UpdateAction entity}

theorem check_ok_iff_allSet (writable : action.Writable) {r : Record ε} (fits : Record.Fits entity r) :
    action.check r = .ok () ↔ ∀ s ∈ action.setters, Path.AllSet s.path.relations r := by
  refine forM_ok_iff.trans (forall₂_congr fun s member => ?_)
  obtain ⟨owner, reaches⟩ := (writable s member).reaches
  exact Path.checkAlong_ok_iff reaches.leads (writable s member).single fits

/-- The setters of every update that can be built lead from its entity through single relations to a
scalar. So its check on a record ends well exactly if all these relations are set, and fails with no other
error than that of a relation that is not. -/
theorem built_reaches_scalars [DecidableEq ε] (built : action.Built) :
    (∀ s ∈ action.setters, s.path.root = entity ∧ s.path.type.isRelation = false ∧
      ∀ field ∈ s.path.relations, ∃ target, field.type = .one target) ∧
    ∀ r, Record.Fits entity r →
      (∀ e, action.check r = .error e → e = .wrongKind "relation" "null") ∧
      (action.check r = .ok () ↔ ∀ s ∈ action.setters, Path.AllSet s.path.relations r) := by
  have writable := built.writable
  refine ⟨fun s member => ?_, fun r fits => ⟨fun e failed => ?_, check_ok_iff_allSet writable fits⟩⟩
  · obtain ⟨⟨owner, reaches⟩, scalar, single⟩ := writable s member
    exact ⟨reaches.root, scalar, Path.one_of_single reaches.leads single⟩
  · rcases check_cases writable r with ⟨passed, -⟩ | ⟨unset, -⟩
    · rw [passed] at failed
      cases failed
    · exact (Except.error.inj (unset.symm.trans failed)).symm

end UpdateAction

namespace Library

/-- Corrections of the author can be made where the author is known. -/
theorem corrections_need_author : corrections.Built ∧
    Record.Fits book bookOfAnn ∧ corrections.check bookOfAnn = .ok () ∧
    Record.Fits book (newBook "Dune" 412) ∧
    corrections.check (newBook "Dune" 412) = .error (.wrongKind "relation" "null") ∧
    (∀ s ∈ corrections.setters, ∀ field ∈ s.path.relations, ∃ target, field.type = .one target) ∧
    (∀ s ∈ corrections.setters, Path.AllSet s.path.relations bookOfAnn) ∧
    ¬∀ s ∈ corrections.setters, Path.AllSet s.path.relations (newBook "Dune" 412) := by
  have unknown := newBook_fits "Dune" 412
  obtain ⟨leads, checks⟩ := UpdateAction.built_reaches_scalars corrections_built
  have failed : corrections.check (newBook "Dune" 412) = .error (.wrongKind "relation" "null") := rfl
  refine ⟨corrections_built, bookOfAnn_fits, rfl, unknown, failed, fun s member => (leads s member).2.2,
    (checks _ bookOfAnn_fits).2.mp rfl, fun set => ?_⟩
  rw [(checks _ unknown).2.mpr set] at failed
  cases failed

end Library

end EntityQuery
