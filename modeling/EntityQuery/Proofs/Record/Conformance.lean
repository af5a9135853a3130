import EntityQuery.Proofs.Record.Contents
import EntityQuery.Record.Conformance

/-! Records that fit an entity: what lies under the name of a field, and what is read there. -/

namespace EntityQuery

variable {ε : Type}

/-! ### Values of a type -/

/-- The values of a type. Null is a value of no type. -/
def FieldType.Admits (v : Value) : FieldType ε → Prop
  | .string => ∃ s, v = .string s
  | .char => ∃ c, v = .char c
  | .bool => ∃ b, v = .bool b
  | .int => ∃ n, v = .number (.signed n)
  | .uint => ∃ n, v = .number (.unsigned n)
  | .float => ∃ x, v = .number (.float x)
  | .date => ∃ d, v = .date d
  | .dateTime => ∃ t, v = .dateTime t
  | .one _ | .many _ => False

theorem FieldType.not_admits_null (type : FieldType ε) : ¬type.Admits .null := by
  intro admitted
  cases type
  case one | many => exact admitted.elim
  all_goals
    obtain ⟨_, same⟩ := admitted
    cases same

/-- What a path that ends in a field of this type may read. -/
def FieldType.Shows (type : FieldType ε) (v : Value) : Prop :=
  v = .null ∨ type.Admits v

/-- The values that a storage can give back. -/
def Storage.Holds (storage : Storage) (v : Value) : Prop :=
  ∃ x, storage.encode x = v

theorem Storage.shows_encode (storage : Storage) (x : storage.Content) :
    (storage.fieldType : FieldType ε).Shows (storage.encode x) := by
  induction storage with
  | optional inner ih =>
    cases x with
    | none => exact Or.inl rfl
    | some content => exact ih content
  | _ => exact Or.inr ⟨_, rfl⟩

theorem Storage.Holds.shows {storage : Storage} {v : Value} (held : storage.Holds v) :
    (storage.fieldType : FieldType ε).Shows v := by
  obtain ⟨x, rfl⟩ := held
  exact storage.shows_encode x

theorem Storage.store_of_holds {storage : Storage} {v : Value} (held : storage.Holds v) :
    storage.store v = .ok v := by
  obtain ⟨x, rfl⟩ := held
  exact storage.store_encode x

@[simp] theorem Storage.target?_fieldType (storage : Storage) :
    (storage.fieldType : FieldType ε).target? = none := by
  induction storage with
  | optional inner ih => exact ih
  | _ => rfl

@[simp] theorem RelationKind.target?_fieldType (kind : RelationKind) (target : ε) :
    (kind.fieldType target).target? = some target := by
  cases kind <;> rfl

/-! ### Fields by name -/

@[simp] theorem Backing.name_field (name : String) (backing : Backing ε) :
    (backing.field name).name = name := by
  cases backing <;> rfl

theorem lookup_of_find? {fields : List (String × Backing ε)} {field : Field ε} (spelt : String → Bool)
    (found : (fields.map fun (name, backing) => backing.field name).find? (spelt ·.name) = some field) :
    ∃ backing, fields.lookup field.name = some backing ∧ backing.field field.name = field := by
  induction fields with
  | nil => simp at found
  | cons first rest ih =>
    obtain ⟨name, backing⟩ := first
    rw [List.map_cons, List.find?_cons] at found
    simp only [Backing.name_field] at found
    cases hit : spelt name with
    | true =>
      simp only [hit, Option.some.injEq] at found
      subst found
      exact ⟨backing, by simp, by simp⟩
    | false =>
      rw [hit] at found
      have spells := List.find?_some found
      have other : (field.name == name) = false := by
        rw [beq_eq_false_iff_ne]
        intro same
        rw [same, hit] at spells
        exact Bool.false_ne_true spells
      rw [List.lookup_cons, other]
      exact ih found

/-- A field that a schema finds is the one that the layout has under the field's own name. -/
theorem Layout.lookup_of_field? {layout : Layout ε} {name : String} {field : Field ε}
    (found : layout.schema.field? name = some field) :
    ∃ backing, layout.fields.lookup field.name = some backing ∧ backing.field field.name = field := by
  rw [Schema.field?, Option.orElse_eq_orElse, Option.orElse_eq_or, Option.or_eq_some_iff] at found
  rcases found with same | ⟨-, folded⟩
  · exact lookup_of_find? (· == name) same
  · exact lookup_of_find? (Text.equalIgnoringAsciiCase · name) folded

theorem lookup_zip {β γ : Type} {fields : List (String × β)} {cells : List (String × γ)} {name : String}
    {b : β} (names : cells.map (·.1) = fields.map (·.1)) (found : fields.lookup name = some b) :
    ∃ c, cells.lookup name = some c ∧ ((name, b), (name, c)) ∈ fields.zip cells := by
  induction fields generalizing cells with
  | nil => simp at found
  | cons field rest ih =>
    cases cells with
    | nil => simp at names
    | cons cell cells =>
      obtain ⟨first, b'⟩ := field
      obtain ⟨_, c⟩ := cell
      simp only [List.map_cons, List.cons.injEq] at names
      obtain ⟨rfl, names⟩ := names
      rw [List.lookup_cons] at found
      split at found
      · rename_i same
        have equal := beq_iff_eq.mp same
        subst equal
        rw [Option.some.injEq] at found
        subst found
        exact ⟨c, by simp, by simp⟩
      · rename_i other
        obtain ⟨c', read, member⟩ := ih names found
        exact ⟨c', by rw [List.lookup_cons, other]; exact read, List.mem_cons_of_mem _ member⟩

/-! ### What a field holds -/

namespace Record.Fits

variable [LayoutCatalog ε] {entity target : ε} {r : Record ε} {name : String} {field : Field ε}

theorem of_zip {cells : List (String × Cell ε)}
    (names : cells.map (·.1) = (LayoutCatalog.layout entity).fields.map (·.1))
    (held : ∀ field cell, (field, cell) ∈ (LayoutCatalog.layout entity).fields.zip cells →
      field.2.Holds cell.2 ∧
        ∀ target, field.2.target? = some target → ∀ q ∈ cell.2.records, Record.Fits target q) :
    Record.Fits entity (.mk entity cells) :=
  ⟨names, fun field cell member => (held field cell member).1,
    fun field cell member => (held field cell member).2⟩

theorem cell (fits : Record.Fits entity r) (found : (Catalog.schema entity).field? name = some field) :
    ∃ backing cell, (LayoutCatalog.layout entity).fields.lookup field.name = some backing ∧
      backing.field field.name = field ∧ r.cell? field.name = some cell ∧ backing.Holds cell ∧
      ∀ target, backing.target? = some target → ∀ q ∈ cell.records, Record.Fits target q := by
  obtain ⟨backing, laid, described⟩ := Layout.lookup_of_field? found
  cases fits with
  | mk names stored related =>
    obtain ⟨cell, read, member⟩ := lookup_zip names laid
    exact ⟨backing, cell, laid, described, read, stored _ _ member, related _ _ member⟩

theorem scalar (fits : Record.Fits entity r) (found : (Catalog.schema entity).field? name = some field)
    (plain : field.type.target? = none) :
    ∃ storage x, (LayoutCatalog.layout entity).fields.lookup field.name = some (.scalar storage) ∧
      field.type = storage.fieldType ∧ field.nullable = storage.nullable ∧
      r.cell? field.name = some (.scalar storage x) := by
  obtain ⟨backing, cell, laid, described, read, held, -⟩ := fits.cell found
  rw [← described] at plain ⊢
  cases backing with
  | scalar storage =>
    cases cell with
    | scalar _ x =>
      cases held
      rw [← described] at laid read
      exact ⟨storage, x, by simpa using laid, rfl, rfl, by simpa using read⟩
    | relation => exact held.elim
    | view => exact held.elim
  | relation => simp [Backing.field] at plain

theorem relation (fits : Record.Fits entity r)
    (found : (Catalog.schema entity).field? name = some field) (leads : field.type.target? = some target) :
    ∃ kind type container, (LayoutCatalog.layout entity).fields.lookup field.name =
        some (.relation kind type target) ∧
      field.type = kind.fieldType target ∧ field.nullable = type.isOptional ∧
      r.cell? field.name = some (.relation kind container) ∧ type.Holds container ∧
      ∀ q ∈ container.records, Record.Fits target q := by
  obtain ⟨backing, cell, laid, described, read, held, related⟩ := fits.cell found
  rw [← described] at leads ⊢
  cases backing with
  | scalar => simp [Backing.field] at leads
  | relation kind type end_ =>
    simp only [Backing.field, RelationKind.target?_fieldType, Option.some.injEq] at leads
    subst leads
    cases cell with
    | scalar => exact held.elim
    | relation used container =>
      obtain ⟨rfl, held⟩ := held
      exact ⟨used, type, container, by simpa [Backing.field] using laid, rfl, rfl,
        by simpa [Backing.field] using read, held, related _ rfl⟩
    | view => exact held.elim

theorem relation_of_laid {kind : RelationKind} {type : ContainerType} (fits : Record.Fits entity r)
    (found : (Catalog.schema entity).field? name = some field)
    (laid : (LayoutCatalog.layout entity).fields.lookup field.name = some (.relation kind type target)) :
    ∃ c, r.cell? field.name = some (.relation kind c) ∧ type.Holds c := by
  obtain ⟨backing, cell, also, -, lies, held, -⟩ := fits.cell found
  rw [laid] at also
  cases also
  cases cell with
  | relation used c =>
    obtain ⟨rfl, held⟩ := held
    exact ⟨c, lies, held⟩
  | _ => exact held.elim

/-! ### What is read there -/

theorem get_scalar (fits : Record.Fits entity r)
    (found : (Catalog.schema entity).field? name = some field) (plain : field.type.target? = none) :
    ∃ v, r.get field.name = .value v ∧ field.type.Shows v := by
  obtain ⟨storage, x, -, type, -, read⟩ := fits.scalar found plain
  exact ⟨storage.encode x, by simp only [Record.get, read], type ▸ storage.shows_encode x⟩

theorem get_relation (fits : Record.Fits entity r)
    (found : (Catalog.schema entity).field? name = some field) (leads : field.type.target? = some target) :
    (∃ one, r.get field.name = .one one ∧ ∀ q ∈ one, Record.Fits target q) ∨
      ∃ many, r.get field.name = .many many ∧ ∀ q ∈ many, Record.Fits target q := by
  obtain ⟨kind, type, container, -, -, -, read, -, related⟩ := fits.relation found leads
  cases kind with
  | one =>
    refine Or.inl ⟨container.records.head?, by simp only [Record.get, read], ?_⟩
    intro q first
    exact related q (List.mem_of_mem_head? first)
  | many => exact Or.inr ⟨container.records, by simp only [Record.get, read], related⟩

end Record.Fits

end EntityQuery
