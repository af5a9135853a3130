import EntityQuery.Proofs.Outcome
import EntityQuery.Proofs.Record.Conformance
import EntityQuery.Query.Coercion

/-!
Conversion of texts and values to the type of a field. What comes out is of that type or null, and is
converted to itself; and whatever a storage takes can be converted to the type of its fields.
-/

namespace EntityQuery

variable {ε : Type}

namespace Coercion

variable {config : Config} {field : Field ε} {text : String} {v : Value}

theorem orNotConvertible_ok {type : FieldType ε} {found : Option Value}
    (done : orNotConvertible text type found = .ok v) : found = some v := by
  cases found with
  | none => cases done
  | some w => exact congrArg some (Except.ok.inj done)

theorem ofText_admits (read : ofText config field text = .ok v) : field.type.Admits v := by
  obtain ⟨name, type, nullable⟩ := field
  cases type <;> simp only [ofText] at read
  case string =>
    cases read
    exact ⟨text, rfl⟩
  case char | bool | int | uint | float =>
    obtain ⟨found, -, rfl⟩ := Option.map_eq_some_iff.mp (orNotConvertible_ok read)
    exact ⟨found, rfl⟩
  case date | dateTime =>
    obtain ⟨found, -, rfl⟩ := map_ok read
    exact ⟨found, rfl⟩
  case one | many => cases read

theorem ofValue_of_admits (config : Config) (admitted : field.type.Admits v) :
    ofValue config field v = .ok v := by
  obtain ⟨name, type, nullable⟩ := field
  cases type
  case one | many => exact admitted.elim
  all_goals
    obtain ⟨w, rfl⟩ := admitted
    rfl

theorem ofValue_string (config : Config) (field : Field ε) (text : String) :
    ofValue config field (.string text) = ofText config field text := by
  obtain ⟨name, type, nullable⟩ := field
  cases type <;> rfl

theorem ofValue_of_nullable (config : Config) (nullable : field.nullable = true) :
    ofValue config field .null = .ok .null := by
  obtain ⟨name, type, nullable'⟩ := field
  cases nullable
  cases type <;> rfl

theorem ofValue_null_ok {w : Value} (converted : ofValue config field .null = .ok w) :
    field.nullable = true ∧ w = .null := by
  obtain ⟨name, type, nullable⟩ := field
  cases type <;> cases nullable <;> cases converted <;> exact ⟨rfl, rfl⟩

theorem ofValue_admits {v w : Value} (given : v ≠ .null) (converted : ofValue config field v = .ok w) :
    field.type.Admits w := by
  obtain ⟨name, type, nullable⟩ := field
  cases v
  case null => exact absurd rfl given
  case string text =>
    rw [ofValue_string] at converted
    exact ofText_admits converted
  case number n =>
    cases type
    case int | uint =>
      simp only [ofValue] at converted
      split at converted <;> cases converted
      exact ⟨_, rfl⟩
    all_goals cases converted
    all_goals exact ⟨_, rfl⟩
  all_goals
    cases type <;> cases converted
    all_goals exact ⟨_, rfl⟩

end Coercion

/-! ### Converting again -/

/-- What a field may hold: a value of its type, or null where it may be absent. -/
def Field.Takes (field : Field ε) (v : Value) : Prop :=
  field.type.Admits v ∨ field.nullable = true ∧ v = .null

namespace Coercion

theorem ofValue_takes {config : Config} {field : Field ε} {v w : Value}
    (converted : ofValue config field v = .ok w) : field.Takes w := by
  by_cases null : v = .null
  · subst null
    exact Or.inr (ofValue_null_ok converted)
  · exact Or.inl (ofValue_admits null converted)

/-- A value is converted to one of the field's type, or is null and stays so. -/
theorem ofValue_shows {config : Config} {field : Field ε} {v w : Value}
    (converted : ofValue config field v = .ok w) : field.type.Shows w := by
  rcases ofValue_takes converted with admitted | ⟨-, null⟩
  · exact Or.inr admitted
  · exact Or.inl null

theorem ofValue_of_takes {field : Field ε} {w : Value} (config : Config) (taken : field.Takes w) :
    ofValue config field w = .ok w := by
  rcases taken with admitted | ⟨nullable, rfl⟩
  · exact ofValue_of_admits config admitted
  · exact ofValue_of_nullable config nullable

theorem ofValue_ofValue {config : Config} {field : Field ε} {v w : Value}
    (converted : ofValue config field v = .ok w) : ofValue config field w = .ok w :=
  ofValue_of_takes config (ofValue_takes converted)

/-- Conversion gives just the values that the field may hold, and what came out of it is converted to itself,
under any configuration. What a text was read as, the text is also converted to where it is given as a value. -/
theorem converted_once (config : Config) (field : Field ε) :
    (∀ w, (∃ v, ofValue config field v = .ok w) ↔ field.Takes w) ∧
    (∀ v w, ofValue config field v = .ok w → ∀ later, ofValue later field w = .ok w) ∧
    ∀ text w, ofText config field text = .ok w →
      ofValue config field w = .ok w ∧ ofValue config field (.string text) = .ok w := by
  refine ⟨fun w => ⟨?_, fun taken => ⟨w, ofValue_of_takes config taken⟩⟩, ?_, ?_⟩
  · rintro ⟨v, converted⟩
    exact ofValue_takes converted
  · intro v w converted later
    exact ofValue_of_takes later (ofValue_takes converted)
  · intro text w read
    have given : ofValue config field (.string text) = .ok w := (ofValue_string config field text).trans read
    exact ⟨ofValue_ofValue given, given⟩

/-- A double becomes an integer once, and a text with a time becomes a date. -/
theorem converted_once_of_double :
    let size : Field Unit := ⟨"size", .int, true⟩
    let day : Field Unit := ⟨"day", .date, false⟩
    ∃ d, ofValue {} size (.number (.float (.ofInt (-7)))) = .ok (.number (.signed (-7))) ∧
      (∀ later, ofValue later size (.number (.signed (-7))) = .ok (.number (.signed (-7)))) ∧
      size.Takes .null ∧ ¬day.Takes .null ∧
      ofText {} day " 2024-03-05T10:30:00 " = .ok (.date d) ∧ ofValue {} day (.date d) = .ok (.date d) ∧
      ofValue {} day (.string " 2024-03-05T10:30:00 ") = .ok (.date d) := by
  intro size day
  have narrowed : ofValue {} size (.number (.float (.ofInt (-7)))) = .ok (.number (.signed (-7))) := by
    decide +kernel
  have read : ofText {} day " 2024-03-05T10:30:00 " =
      .ok (.date ⟨2024, 3, 5, by decide, by decide, by decide, by decide, by decide, by decide⟩) := by
    decide +kernel
  obtain ⟨ranges, settled, -⟩ := converted_once {} size
  obtain ⟨ranges', -, texts⟩ := converted_once {} day
  have bare : ¬day.Takes .null := by
    rintro (⟨d, same⟩ | ⟨nullable, -⟩)
    · cases same
    · cases nullable
  exact ⟨_, narrowed, settled _ _ narrowed, (ranges .null).mp ⟨.null, rfl⟩, bare, read, texts _ _ read⟩

end Coercion

/-! ### Storages -/

/-- The conversion of a value other than null depends on the type alone. -/
theorem Coercion.ofValue_of_type {config : Config} {f g : Field ε} {v : Value} (same : f.type = g.type)
    (given : v ≠ .null) : ofValue config f v = ofValue config g v := by
  obtain ⟨name, type, nullable⟩ := f
  obtain ⟨name', type', nullable'⟩ := g
  cases same
  cases v
  case null => exact absurd rfl given
  all_goals cases type <;> rfl

/-- A value that a storage takes can be converted to the type of its fields. -/
theorem Storage.converted_of_decode {storage : Storage} {v : Value} {x : storage.Content}
    (taken : storage.decode v = .ok x) (config : Config) (name : String) :
    ∃ w, Coercion.ofValue config ((Backing.scalar storage : Backing ε).field name) v = .ok w := by
  induction storage with
  | optional inner ih =>
    by_cases null : v = .null
    · subst null
      exact ⟨.null, Coercion.ofValue_of_nullable config rfl⟩
    · rw [decode_optional null] at taken
      obtain ⟨content, inside, -⟩ := map_ok taken
      obtain ⟨w, converted⟩ := ih inside
      refine ⟨w, Eq.trans (Coercion.ofValue_of_type ?_ null) converted⟩
      rfl
  | char =>
    cases v with
    | char c => exact ⟨_, rfl⟩
    | string s =>
      rw [Coercion.ofValue_string]
      simp only [decode] at taken
      split at taken
      · rename_i c single
        exact ⟨.char c, by simp only [Backing.field, fieldType, Coercion.ofText, single]; rfl⟩
      · cases taken
    | _ => cases taken
  | signed width =>
    cases v with
    | number n =>
      simp only [decode] at taken
      split at taken
      · rename_i i whole
        exact ⟨.number (.signed i), by simp only [Backing.field, fieldType, Coercion.ofValue, whole]⟩
      · cases taken
    | _ => cases taken
  | unsigned width =>
    cases v with
    | number n =>
      simp only [decode] at taken
      split at taken
      · rename_i i whole
        exact ⟨.number (.unsigned i), by simp only [Backing.field, fieldType, Coercion.ofValue, whole]⟩
      · cases taken
    | _ => cases taken
  | _ =>
    cases v <;> cases taken
    all_goals exact ⟨_, rfl⟩

theorem Coercion.ofValue_of_holds {storage : Storage} {v : Value} (held : storage.Holds v)
    (config : Config) (name : String) :
    ofValue config ((Backing.scalar storage : Backing ε).field name) v = .ok v := by
  rcases (held.shows : (storage.fieldType : FieldType ε).Shows v) with rfl | admitted
  · cases storage with
    | optional inner => exact ofValue_of_nullable config rfl
    | _ =>
      obtain ⟨x, null⟩ := held
      exact absurd null (Storage.encode_ne_null rfl x)
  · exact ofValue_of_admits config admitted

theorem Storage.decode_of_not_converted {storage : Storage} {v : Value} {config : Config} {name : String}
    {e : QueryError}
    (failed : Coercion.ofValue config ((Backing.scalar storage : Backing ε).field name) v = .error e) :
    ∃ e, storage.decode v = .error e := by
  cases taken : storage.decode v with
  | error e => exact ⟨e, rfl⟩
  | ok x =>
    obtain ⟨_, converted⟩ := Storage.converted_of_decode (ε := ε) taken config name
    rw [failed] at converted
    cases converted

end EntityQuery
