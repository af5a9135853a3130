import EntityQuery.Proofs.Record.Conformance

/-!
Relations of a record after a change of the records that they hold. What can be dropped from a
relation is up to the sort of its container.
-/

namespace EntityQuery

variable {ε : Type}

/-! ### Containers -/

namespace Container

variable {type : ContainerType} {c : Container ε} {keep : Record ε → Bool}

theorem records_map (f : Record ε → Record ε) (c : Container ε) :
    (c.map f).records = c.records.map f := by
  fun_induction Container.map f c with
  | case1 | case2 | case3 => rfl
  | case4 inner ih => exact ih

/-- A list and an optional container keep no rejected record. -/
theorem retain_records (held : type.Holds c) (drops : type ≠ .single) :
    ∀ r ∈ (c.retain keep).records, keep r = true := by
  intro r member
  cases c with
  | single q =>
    cases type with
    | single => exact absurd rfl drops
    | list => exact held.elim
    | optional inner => exact held.elim
  | list rs => exact (List.mem_filter.mp member).2
  | absent => cases member
  | present inner =>
    rw [retain] at member
    split at member
    · rename_i all
      exact List.all_eq_true.mp all r member
    · cases member

theorem retain_of_single (held : ContainerType.single.Holds c) : c.retain keep = c := by
  cases c with
  | single r => rfl
  | list => exact held.elim
  | absent => exact held.elim
  | present => exact held.elim

end Container

/-! ### Cells -/

/-- What a relation shows of the records that it holds. -/
def RelationKind.shown : RelationKind → List (Record ε) → List (Record ε)
  | one, records => records.head?.toList
  | many, records => records

theorem RelationKind.shown_map (kind : RelationKind) (f : Record ε → Record ε) (records : List (Record ε)) :
    kind.shown (records.map f) = (kind.shown records).map f := by
  cases kind with
  | one => cases records <;> rfl
  | many => rfl

theorem RelationKind.mem_of_shown {kind : RelationKind} {q : Record ε} {records : List (Record ε)}
    (member : q ∈ kind.shown records) : q ∈ records := by
  cases kind with
  | one => exact List.mem_of_mem_head? (Option.mem_toList.mp member)
  | many => exact member

namespace Record

variable {r : Record ε} {name other : String} {cell old : Cell ε}

theorem lookup_putCell_same {cells : List (String × Cell ε)} (found : cells.lookup name = some old) :
    (putCell name cell cells).lookup name = some cell := by
  induction cells with
  | nil => cases found
  | cons first rest ih =>
    obtain ⟨first, content⟩ := first
    rw [putCell]
    cases same : first == name with
    | true =>
      rw [if_pos rfl, List.lookup_cons, beq_iff_eq.mp same, beq_self_eq_true]
    | false =>
      have different : (name == first) = false := by
        rw [beq_eq_false_iff_ne] at same ⊢
        exact Ne.symm same
      rw [List.lookup_cons, different] at found
      rw [if_neg nofun, List.lookup_cons, different]
      exact ih found

theorem cell?_put_same (found : r.cell? name = some old) : (r.put name cell).cell? name = some cell :=
  lookup_putCell_same found

variable {kind : RelationKind} {c : Container ε} {f : Record ε → Record ε} {keep : Record ε → Bool}

theorem get_records (found : r.cell? name = some (.relation kind c)) :
    (r.get name).records = kind.shown c.records := by
  cases kind <;> simp only [get, found] <;> rfl

theorem get_mapRelated (found : r.cell? name = some (.relation kind c)) :
    ((r.mapRelated name f).get name).records = (r.get name).records.map f := by
  rw [get_records found, ← kind.shown_map, ← Container.records_map]
  simp only [mapRelated, found]
  exact get_records (cell?_put_same found)

theorem get_retainRelated (found : r.cell? name = some (.relation kind c)) :
    ((r.retainRelated name keep).get name).records = kind.shown (c.retain keep).records := by
  simp only [retainRelated, found]
  exact get_records (cell?_put_same found)

end Record

end EntityQuery
