import EntityQuery.Proofs.Path.Writing

/-!
What a path reads. It reads only nulls and values that the storage of its leaf gives back, and an
assignment at another path makes no difference to it.
-/

namespace EntityQuery

variable {ε : Type}

/-! ### Fields after an assignment -/

namespace Record

variable {r : Record ε} {l : Location} {name : String} {v : Value}

theorem get_assign_other (different : l.head ≠ name) : (r.assign l v).get name = r.get name := by
  have same : (r.assign l v).cell? name = r.cell? name := by
    cases l <;> exact cell?_adjust_other different
  unfold get
  rw [same]

theorem get_assign_inside {c : Container ε} (lies : r.cell? name = some (.relation .one c))
    (rest : Location) (v : Value) :
    (r.assign (.inside name 0 rest) v).get name = .one (c.records.head?.map (·.assign rest v)) := by
  have changed : (r.assign (.inside name 0 rest) v).cell? name =
      some (.relation .one (c.modify 0 (·.assign rest v))) := by
    rw [assign, adjustAt, cell?_adjust_same, lies]
    rfl
  simp only [get, changed, Container.records_modify, head?_modify, if_pos]

end Record

namespace Path

variable [LayoutCatalog ε] {entity owner owner' : ε} {relations relations' : List (Field ε)}
  {leaf leaf' : Field ε} {r : Record ε}

/-! ### Stored values -/

theorem readAlong_holds {storage : Storage} (leads : Leads entity relations owner)
    (found : ∃ name, (Catalog.schema owner).field? name = some leaf) (plain : leaf.type.target? = none)
    (laid : (LayoutCatalog.layout owner).fields.lookup leaf.name = some (.scalar storage))
    (fits : Record.Fits entity r) : ∀ v ∈ readAlong leaf relations r, v = .null ∨ storage.Holds v := by
  induction leads generalizing r with
  | here entity =>
    obtain ⟨name, found⟩ := found
    obtain ⟨used, x, also, -, -, lies⟩ := fits.scalar found plain
    rw [laid] at also
    cases also
    intro v member
    rw [readAlong, List.mem_singleton] at member
    simp only [Record.get, lies, Slot.toValue] at member
    exact Or.inr ⟨x, member.symm⟩
  | via step target _ ih =>
    intro v member
    rw [readAlong] at member
    rcases fits.get_relation step target with ⟨one, read, related⟩ | ⟨many, read, related⟩
    · rw [read] at member
      cases one with
      | none => exact Or.inl (List.mem_singleton.mp member)
      | some child => exact ih found laid (related child rfl) v member
    · rw [read] at member
      obtain ⟨child, present, member⟩ := List.mem_flatMap.mp member
      exact ih found laid (related child present) v member

/-! ### Reading elsewhere -/

omit [LayoutCatalog ε] in
theorem readAlong_of_get {r' : Record ε}
    (same : r.get (relations.headD leaf).name = r'.get (relations.headD leaf).name) :
    readAlong leaf relations r = readAlong leaf relations r' := by
  cases relations with
  | nil => exact congrArg (fun slot => [slot.toValue]) same
  | cons field rest =>
    simp only [readAlong]
    rw [show r.get field.name = r'.get field.name from same]

theorem head_found (leads : Leads entity relations owner)
    (found : ∃ name, (Catalog.schema owner).field? name = some leaf) :
    ∃ name, (Catalog.schema entity).field? name = some (relations.headD leaf) := by
  cases leads with
  | here => exact found
  | via step => exact ⟨_, step⟩

/-- Two paths part at some field. Up to it they read the same records, the one path to write into them and
the other one to read from them, and from there on they have nothing in common. -/
theorem readAlong_assign_other (leads : Leads entity relations owner)
    (found : ∃ name, (Catalog.schema owner).field? name = some leaf) (plain : leaf.type.target? = none)
    (leads' : Leads entity relations' owner')
    (found' : ∃ name, (Catalog.schema owner').field? name = some leaf')
    (different : ¬(relations = relations' ∧ leaf = leaf')) (along : SingleAlong relations r) (v : Value) :
    readAlong leaf' relations' (r.assign (locationAlong leaf relations) v) =
      readAlong leaf' relations' r := by
  induction leads generalizing relations' r with
  | here entity =>
    refine readAlong_of_get (Record.get_assign_other fun same => ?_)
    obtain ⟨name, found⟩ := found
    obtain ⟨name', met⟩ := head_found leads' found'
    have equal := field_eq_of_name found met same
    cases leads' with
    | here => exact different ⟨rfl, equal⟩
    | via step target =>
      rw [equal, List.headD_cons, target] at plain
      cases plain
  | @via entity next last name field rest step target _ ih =>
    obtain ⟨c, lies, along⟩ := along
    by_cases same : field.name = (relations'.headD leaf').name
    · obtain ⟨name', met⟩ := head_found leads' found'
      have equal := field_eq_of_name step met same
      have shown : r.get field.name = .one c.records.head? := by simp only [Record.get, lies]
      have after := Record.get_assign_inside lies (locationAlong leaf rest) v
      cases leads' with
      | here =>
        have here : leaf'.name = field.name := same.symm
        simp only [readAlong, locationAlong, here, after, shown, Slot.toValue]
      | via step' target' leads' =>
        rw [List.headD_cons] at equal
        cases equal
        rw [target] at target'
        cases target'
        simp only [readAlong, locationAlong, after, shown]
        cases first : c.records.head? with
        | none => rfl
        | some child =>
          refine ih found leads' (fun equal => different ?_) (along child first)
          exact ⟨congrArg (field :: ·) equal.1, equal.2⟩
    · exact readAlong_of_get (Record.get_assign_other same)

namespace Writable

variable {p q : Path ε}

theorem read_eq (writable : p.Writable entity) (fits : Record.Fits entity r) :
    p.read r = [p.readFirst r] := by
  obtain ⟨owner, reaches⟩ := writable.reaches
  obtain ⟨v, read⟩ := readAlong_single reaches.leads writable.single fits
  have same : p.read r = [v] := read
  rw [readFirst, same]
  rfl

theorem readFirst_holds {storage : Storage} (writable : p.Writable entity) (fits : Record.Fits entity r)
    (laid : (LayoutCatalog.layout p.owner).fields.lookup p.leaf.name = some (.scalar storage)) :
    p.readFirst r = .null ∨ storage.Holds (p.readFirst r) := by
  obtain ⟨owner, reaches⟩ := writable.reaches
  rw [reaches.owner_eq] at laid
  have read : p.readFirst r ∈ p.read r := by
    rw [writable.read_eq fits]
    exact List.mem_singleton_self _
  exact readAlong_holds reaches.leads reaches.leaf writable.plain laid fits _ read

theorem read_assign_other (writable : p.Writable entity) (also : q.Reaches entity owner)
    (different : p ≠ q) (along : SingleAlong p.relations r) (v : Value) :
    q.read (r.assign p.location v) = q.read r := by
  obtain ⟨_, reaches⟩ := writable.reaches
  refine readAlong_assign_other reaches.leads reaches.leaf writable.plain also.leads also.leaf
    (fun equal => different ?_) along v
  obtain ⟨root, relations, leaf⟩ := p
  obtain ⟨root', relations', leaf'⟩ := q
  obtain ⟨rfl, rfl⟩ := equal
  cases reaches.root.trans also.root.symm
  rfl

end Writable

end Path

end EntityQuery
