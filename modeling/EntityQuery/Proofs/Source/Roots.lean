import EntityQuery.Proofs.Record.Locations
import EntityQuery.Proofs.Source.Fetch

/-!
Includes and the records that are returned. What two queries return that differ in their includes only is the
same record by record, as far as the scalars of the records themselves go: pruning comes after all choices
and reaches nothing but relations.
-/

namespace EntityQuery

variable {ε : Type}

/-! ### Scalars of a record -/

namespace Record

/-- Whether two records show the same scalars under the same names. -/
def SameScalars (r q : Record ε) : Prop :=
  ∀ name v, r.get name = .value v ↔ q.get name = .value v

theorem SameScalars.refl (r : Record ε) : r.SameScalars r :=
  fun _ _ => Iff.rfl

theorem SameScalars.symm {r q : Record ε} (same : r.SameScalars q) : q.SameScalars r :=
  fun name v => (same name v).symm

theorem SameScalars.trans {r q t : Record ε} (same : r.SameScalars q) (also : q.SameScalars t) :
    r.SameScalars t :=
  fun name v => (same name v).trans (also name v)

theorem SameScalars.toValue_get {r q : Record ε} (same : r.SameScalars q) (name : String) :
    (r.get name).toValue = (q.get name).toValue := by
  cases shown : r.get name with
  | value v => rw [(same name v).mp shown]
  | _ =>
    cases also : q.get name with
    | value v => cases shown.symm.trans ((same name v).mpr also)
    | _ => rfl

variable {r : Record ε} {name : String} {kind : RelationKind} {c : Container ε}

theorem get_ne_value (found : r.cell? name = some (.relation kind c)) (v : Value) :
    r.get name ≠ .value v := by
  unfold get
  rw [found]
  cases kind <;> exact nofun

theorem sameScalars_put (found : r.cell? name = some (.relation kind c)) (c' : Container ε) :
    (r.put name (.relation kind c')).SameScalars r := by
  intro other v
  by_cases same : name = other
  · subst same
    have there : (r.put name (.relation kind c')).cell? name = some (.relation kind c') :=
      cell?_put_same found
    have after := get_ne_value there v
    exact ⟨fun shown => absurd shown after, fun shown => absurd shown (get_ne_value found v)⟩
  · rw [get, cell?_put_other same, ← get]

theorem sameScalars_mapRelated (name : String) (f : Record ε → Record ε) (r : Record ε) :
    (r.mapRelated name f).SameScalars r := by
  unfold mapRelated
  split
  · rename_i found
    exact sameScalars_put found _
  · exact .refl r

theorem sameScalars_retainRelated (name : String) (keep : Record ε → Bool) (r : Record ε) :
    (r.retainRelated name keep).SameScalars r := by
  unfold retainRelated
  split
  · rename_i found
    exact sameScalars_put found _
  · exact .refl r

end Record

theorem Path.sameScalars_retain (p : Path ε) (keep : Record ε → Bool) (r : Record ε) :
    (p.retain keep r).SameScalars r := by
  unfold retain
  cases p.relations with
  | nil => exact Record.sameScalars_retainRelated _ _ r
  | cons field rest => exact Record.sameScalars_mapRelated _ _ r

/-! ### Returned records -/

namespace MemorySource

theorem sameScalars_prune (includes : List (Include ε)) (r : Record ε) : (prune includes r).SameScalars r := by
  induction includes generalizing r with
  | nil => exact .refl r
  | cons first rest ih =>
    refine (ih _).trans ?_
    beta_reduce
    split
    · exact first.path.sameScalars_retain _ r
    · exact .refl r

variable {entity : ε} [Catalog ε]

/-- Two queries that differ in their includes fail alike, or they return as many records in one order, each
with the scalars of its counterpart. -/
theorem fetch_same_roots (s : Specification entity) (includes : List (Include ε)) (items : List (Record ε))
    (signal : Option Bool) :
    (∃ e, ((ofItems items).apply s signal).fetch = .error e ∧
        ((ofItems items).apply { s with includes } signal).fetch = .error e) ∨
      ∃ found found', ((ofItems items).apply s signal).fetch = .ok found ∧
        ((ofItems items).apply { s with includes } signal).fetch = .ok found' ∧
        List.Forall₂ Record.SameScalars found found' := by
  have first := fetch_with s s.includes items signal
  have second := fetch_with s includes items signal
  cases chosen : ((ofItems items).apply s signal).roots with
  | error e =>
    rw [chosen] at first second
    exact Or.inl ⟨e, first, second⟩
  | ok found =>
    rw [chosen] at first second
    refine Or.inr ⟨_, _, first, second, ?_⟩
    rw [List.forall₂_map_left_iff, List.forall₂_map_right_iff, List.forall₂_same]
    intro r _
    exact (sameScalars_prune s.includes r).trans (sameScalars_prune includes r).symm

end MemorySource

end EntityQuery
