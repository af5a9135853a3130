import EntityQuery.Proofs.Numeric.Single
import EntityQuery.Proofs.Outcome
import EntityQuery.Record.Storage

/-!
What a storage makes of a value. An integer that fits a width is read back from the bits of that width as it
was, and whatever the bits are, they are read as an integer that fits. To store the value that is read settles
what is stored: from then on it is decoded from its own value.
-/

namespace EntityQuery

open EntityQuery.Numeric

/-! ### Integers of a width -/

namespace IntegerWidth

variable {w : IntegerWidth}

theorem bits_pos (w : IntegerWidth) : 0 < w.bits := by
  cases w <;> decide

theorem half_le (w : IntegerWidth) : (w.half : Int) ≤ 0x8000000000000000 := by
  cases w <;> decide

theorem size_le (w : IntegerWidth) : w.size ≤ UInt64.size := by
  cases w <;> decide

theorem fits_iff {n : Int} : -(w.half : Int) ≤ n ∧ n < w.half ↔ (BitVec.ofInt w.bits n).toInt = n := by
  have power : (w.half : Int) = 2 ^ (w.bits - 1) := Int.natCast_pow 2 (w.bits - 1)
  rw [power]
  constructor
  · rintro ⟨low, high⟩
    exact BitVec.toInt_ofInt_eq_self w.bits_pos low high
  · intro same
    rw [← same]
    exact ⟨BitVec.le_toInt _, BitVec.toInt_lt⟩

theorem half_of_wide (wide : 64 ≤ w.bits) : (w.half : Int) = 0x8000000000000000 := by
  cases w <;> first | rfl | exact absurd wide (by decide)

theorem size_of_wide (wide : 64 ≤ w.bits) : w.size = UInt64.size := by
  cases w <;> first | rfl | exact absurd wide (by decide)

theorem toInt_bounds (n : BitVec w.bits) : -(w.half : Int) ≤ n.toInt ∧ n.toInt < w.half :=
  fits_iff.mpr (by rw [BitVec.ofInt_toInt])

theorem toInt_widened (n : BitVec w.bits) : (Int64.ofInt n.toInt).toInt = n.toInt := by
  have bounds := toInt_bounds n
  have narrow := w.half_le
  exact Int64.toInt_ofInt_of_le (by omega) (by omega)

theorem toNat_widened (n : BitVec w.bits) : (UInt64.ofNat n.toNat).toNat = n.toNat :=
  UInt64.toNat_ofNat_of_lt' (Nat.lt_of_lt_of_le n.isLt w.size_le)

theorem widened_narrowed {i : Int64} (low : -(w.half : Int) ≤ i.toInt) (high : i.toInt < w.half) :
    Int64.ofInt (BitVec.ofInt w.bits i.toInt).toInt = i := by
  rw [fits_iff.mp ⟨low, high⟩, Int64.ofInt_toInt]

theorem widened_narrowed_unsigned {i : UInt64} (fits : i.toNat < w.size) :
    UInt64.ofNat (BitVec.ofNat w.bits i.toNat).toNat = i := by
  have whole : (BitVec.ofNat w.bits i.toNat).toNat = i.toNat := Nat.mod_eq_of_lt fits
  rw [whole, UInt64.ofNat_toNat]

end IntegerWidth

/-! ### Values -/

theorem Value.isNull_iff {v : Value} : v.isNull = true ↔ v = .null := by
  cases v <;> simp [isNull]

namespace Storage

variable {inner : Storage} {w : IntegerWidth} {n : Number} {v : Value}

theorem decode_optional (given : v ≠ .null) : (optional inner).decode v = (inner.decode v).map some := by
  cases v <;> first | rfl | exact absurd rfl given

theorem decode_signed {i : Int64} (whole : n.toInt64? = some i) (low : -(w.half : Int) ≤ i.toInt)
    (high : i.toInt < w.half) : (signed w).decode (.number n) = .ok (BitVec.ofInt w.bits i.toInt) := by
  simp only [decode, whole, low, high, and_self, if_true]

theorem decode_unsigned {i : UInt64} (whole : n.toUInt64? = some i) (fits : i.toNat < w.size) :
    (unsigned w).decode (.number n) = .ok (BitVec.ofNat w.bits i.toNat) := by
  simp only [decode, whole, fits, if_true]

/-! ### Values that are read and stored again -/

/-- What is stored when the value that is read is stored again. In an option of options null stands for every
option that is absent, and the outermost one is taken. -/
def settle : (s : Storage) → s.Content → s.Content
  | single, (x : Binary32) => x.toBinary64.toBinary32
  | optional inner, some x => if (inner.encode x).isNull then none else some (inner.settle x)
  | _, x => x

/-- Contents that are decoded from their own values: no option around what reads as null, and no signalling
number of single precision. -/
def Settled : (s : Storage) → s.Content → Prop
  | single, (x : Binary32) => x.isSignalling = false
  | optional inner, some x => inner.encode x ≠ .null ∧ inner.Settled x
  | _, _ => True

theorem encode_ne_null {s : Storage} (present : s.nullable = false) (x : s.Content) : s.encode x ≠ .null := by
  cases s with
  | optional inner => cases present
  | _ => exact nofun

theorem decode_encode (s : Storage) (x : s.Content) : s.decode (s.encode x) = .ok (s.settle x) := by
  induction s with
  | optional inner ih =>
    cases x with
    | none => rfl
    | some content =>
      rw [encode, settle]
      by_cases null : inner.encode content = .null
      · rw [null]
        rfl
      · rw [decode_optional null, ih, if_neg (mt Value.isNull_iff.mp null)]
        rfl
  | signed w =>
    have bounds := IntegerWidth.toInt_bounds x
    rw [← IntegerWidth.toInt_widened x] at bounds
    rw [encode, decode_signed rfl bounds.1 bounds.2, IntegerWidth.toInt_widened, BitVec.ofInt_toInt]
    rfl
  | unsigned w =>
    have fits : (UInt64.ofNat (BitVec.toNat x)).toNat < w.size := by
      rw [IntegerWidth.toNat_widened]
      exact BitVec.isLt x
    rw [encode, decode_unsigned rfl fits, IntegerWidth.toNat_widened, BitVec.ofNat_toNat, BitVec.setWidth_eq]
    rfl
  | _ => rfl

theorem encode_settle (s : Storage) (x : s.Content) : s.encode (s.settle x) = s.encode x := by
  induction s with
  | optional inner ih =>
    cases x with
    | none => rfl
    | some content =>
      rw [settle]
      split
      · rename_i null
        exact (Value.isNull_iff.mp null).symm
      · exact ih content
  | single => exact congrArg (fun x => Value.number (.float x)) (Binary32.toBinary64_toBinary32_toBinary64 x)
  | _ => rfl

theorem store_encode (s : Storage) (x : s.Content) : s.store (s.encode x) = .ok (s.encode x) := by
  rw [store, decode_encode, Except.map, encode_settle]

end Storage

end EntityQuery
