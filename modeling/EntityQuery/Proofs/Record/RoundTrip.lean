import EntityQuery.Proofs.Record.Conformance

/-!
Storing and reading back. What a storage holds is encoded as a value that is decoded to it again; and of the
values of its type a storage takes all but integers beyond its width, and shows them as they were.
-/

namespace EntityQuery

open EntityQuery.Numeric

namespace Storage

/-! ### From contents to values and back -/

/-- Whether an option is stored directly in an option. Null does not say which of them is absent. -/
def nests : Storage → Bool
  | optional inner => inner.nullable
  | _ => false

/-- Contents that mean the same: what is no number in single precision may become another that is none. -/
def Alike : (s : Storage) → s.Content → s.Content → Prop
  | single, (x : Binary32), (y : Binary32) => x = y ∨ x.isNaN = true ∧ y.isNaN = true
  | optional inner, some x, some y => inner.Alike x y
  | _, x, y => x = y

/-- Where no option is nested in another one, storing what is read changes nothing but what is no number. -/
theorem alike_settle {s : Storage} (flat : s.nests = false) (x : s.Content) : s.Alike x (s.settle x) := by
  induction s with
  | optional inner ih =>
    cases x with
    | none => rfl
    | some content =>
      have flat' : inner.nests = false ∧ inner.nullable = false := by
        cases inner with
        | optional => cases flat
        | _ => exact ⟨rfl, rfl⟩
      rw [settle, if_neg (mt Value.isNull_iff.mp (encode_ne_null flat'.2 content))]
      exact ih flat'.1 content
  | single =>
    cases number : Binary32.isNaN x with
    | false => exact Or.inl (Binary32.toBinary32_toBinary64 number).symm
    | true =>
      have kept : (Binary32.toBinary64 x).toBinary32.isNaN = true := by
        rw [Binary64.isNaN_toBinary32, Binary32.isNaN_toBinary64, number]
      exact Or.inr ⟨number, kept⟩
  | _ => rfl

theorem decode_encode_iff (s : Storage) :
    (∀ x, ∃ y, s.decode (s.encode x) = .ok y ∧ s.Alike x y) ↔ s.nests = false := by
  refine ⟨fun back => ?_, fun flat x => ⟨_, s.decode_encode x, alike_settle flat x⟩⟩
  cases s with
  | optional inner =>
    cases inner with
    | optional inner =>
      -- What is absent inside is encoded as null, which is decoded as absent outside.
      obtain ⟨y, decoded, same⟩ := back (some none)
      cases decoded
      cases same
    | _ => rfl
  | _ => rfl

/-! ### From values of the type to contents and back -/

/-- An integer that is beyond a width of less than 64 bits. -/
inductive OutOfRange : Storage → Value → Prop where
  | signed {w : IntegerWidth} {n : Int64} (narrow : w.bits < 64)
      (beyond : ¬(-(w.half : Int) ≤ n.toInt ∧ n.toInt < w.half)) :
      OutOfRange (.signed w) (.number (.signed n))
  | unsigned {w : IntegerWidth} {n : UInt64} (narrow : w.bits < 64) (beyond : w.size ≤ n.toNat) :
      OutOfRange (.unsigned w) (.number (.unsigned n))
  | optional {inner : Storage} {v : Value} (inside : OutOfRange inner v) : OutOfRange (.optional inner) v

/-- What is read where a value was stored: in single precision the nearest number, and else the value. -/
def Keeps : Storage → Value → Value → Prop
  | single, .number (.float x), v => ∃ y, Binary32.Nearest x y ∧ v = .number (.float y.toBinary64)
  | optional inner, w, v => inner.Keeps w v
  | _, w, v => v = w

/-- Either the value is stored as it is, or it is an integer out of range. -/
def Stores (s : Storage) (v : Value) : Prop :=
  (∃ x, s.decode v = .ok x ∧ s.Keeps v (s.encode x)) ∧ ¬s.OutOfRange v ∨
    (∃ e, s.decode v = .error e) ∧ s.OutOfRange v

theorem stores_signed (w : IntegerWidth) (n : Int64) : (signed w).Stores (.number (.signed n)) := by
  by_cases fits : -(w.half : Int) ≤ n.toInt ∧ n.toInt < w.half
  · refine Or.inl ⟨⟨_, decode_signed rfl fits.1 fits.2, ?_⟩, ?_⟩
    · exact congrArg (fun n => Value.number (.signed n)) (IntegerWidth.widened_narrowed fits.1 fits.2)
    · rintro (⟨-, beyond⟩)
      exact beyond fits
  · have narrow : w.bits < 64 := by
      refine Nat.not_le.mp fun wide => fits ?_
      have low := n.le_toInt
      have high := n.toInt_lt
      rw [IntegerWidth.half_of_wide wide]
      omega
    refine Or.inr ⟨⟨.notConvertible (Number.signed n).display ("i" ++ w.suffix), ?_⟩, .signed narrow fits⟩
    simp only [decode, Number.toInt64?, fits]
    rfl

theorem stores_unsigned (w : IntegerWidth) (n : UInt64) : (unsigned w).Stores (.number (.unsigned n)) := by
  by_cases fits : n.toNat < w.size
  · refine Or.inl ⟨⟨_, decode_unsigned rfl fits, ?_⟩, ?_⟩
    · exact congrArg (fun n => Value.number (.unsigned n)) (IntegerWidth.widened_narrowed_unsigned fits)
    · rintro (_ | ⟨-, beyond⟩)
      exact Nat.not_lt.mpr beyond fits
  · have narrow : w.bits < 64 := by
      refine Nat.not_le.mp fun wide => fits ?_
      rw [IntegerWidth.size_of_wide wide]
      exact n.toNat_lt
    refine Or.inr ⟨⟨.notConvertible (Number.unsigned n).display ("u" ++ w.suffix), ?_⟩,
      .unsigned narrow (Nat.not_lt.mp fits)⟩
    simp only [decode, Number.toUInt64?, fits]
    rfl

theorem keeps_null (s : Storage) : s.Keeps .null .null := by
  induction s with
  | optional inner ih => exact ih
  | _ => rfl

theorem not_outOfRange_null (s : Storage) : ¬s.OutOfRange .null := by
  induction s with
  | optional inner ih =>
    rintro (_ | _ | inside)
    exact ih inside
  | _ => exact nofun

theorem stores_null {s : Storage} (nullable : s.nullable = true) : s.Stores .null := by
  cases s with
  | optional inner => exact Or.inl ⟨⟨none, rfl, keeps_null inner⟩, not_outOfRange_null _⟩
  | _ => cases nullable

variable {ε : Type}

theorem stores_of_admits {s : Storage} {v : Value} (admitted : (s.fieldType : FieldType ε).Admits v) :
    s.Stores v := by
  induction s with
  | optional inner ih =>
    have given : v ≠ .null := by
      rintro rfl
      exact FieldType.not_admits_null _ admitted
    rcases ih admitted with ⟨⟨x, decoded, kept⟩, inRange⟩ | ⟨⟨e, refused⟩, outside⟩
    · refine Or.inl ⟨⟨some x, by rw [decode_optional given, decoded]; rfl, kept⟩, ?_⟩
      rintro (_ | _ | outside)
      exact inRange outside
    · exact Or.inr ⟨⟨e, by rw [decode_optional given, refused]; rfl⟩, .optional outside⟩
  | signed w =>
    obtain ⟨n, rfl⟩ := admitted
    exact stores_signed w n
  | unsigned w =>
    obtain ⟨n, rfl⟩ := admitted
    exact stores_unsigned w n
  | single =>
    obtain ⟨x, rfl⟩ := admitted
    exact Or.inl ⟨⟨x.toBinary32, rfl, x.toBinary32, Binary32.nearest_toBinary32 x, rfl⟩, nofun⟩
  | _ =>
    obtain ⟨x, rfl⟩ := admitted
    exact Or.inl ⟨⟨x, rfl, rfl⟩, nofun⟩

namespace Stores

variable {s : Storage} {v : Value}

theorem decodes_iff (stores : s.Stores v) : (∃ x, s.decode v = .ok x) ↔ ¬s.OutOfRange v := by
  rcases stores with ⟨⟨x, decoded, -⟩, inRange⟩ | ⟨⟨e, refused⟩, outside⟩
  · exact iff_of_true ⟨x, decoded⟩ inRange
  · refine iff_of_false ?_ (not_not_intro outside)
    rintro ⟨x, decoded⟩
    cases refused.symm.trans decoded

theorem refuses_iff (stores : s.Stores v) : (∃ e, s.decode v = .error e) ↔ s.OutOfRange v := by
  rcases stores with ⟨⟨x, decoded, -⟩, inRange⟩ | ⟨⟨e, refused⟩, outside⟩
  · rw [decoded]
    exact iff_of_false nofun inRange
  · rw [refused]
    exact iff_of_true ⟨e, rfl⟩ outside

theorem keeps (stores : s.Stores v) {x : s.Content} (decoded : s.decode v = .ok x) :
    s.Keeps v (s.encode x) := by
  rcases stores with ⟨⟨y, found, kept⟩, -⟩ | ⟨⟨e, refused⟩, -⟩
  · cases decoded.symm.trans found
    exact kept
  · cases refused.symm.trans decoded

end Stores

end Storage

end EntityQuery
