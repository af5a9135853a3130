import EntityQuery.Proofs.Numeric.Rounding
import EntityQuery.Value.Number
import Mathlib.Algebra.Field.Rat
import Mathlib.Algebra.GroupWithZero.Units.Basic
import Mathlib.Data.Rat.Cast.Defs
import Mathlib.Tactic.NormNum

/-!
Numbers taken as 64-bit integers. The conversion gives the integer that the number is, and nothing where it
is none, except for one double each: `2 ^ 63` and `2 ^ 64` lie just beyond the integers and pass for the
greatest of them.
-/

namespace EntityQuery

open EntityQuery.Numeric

/-! ### Whole doubles -/

namespace Numeric.Binary64

def signedQuanta (x : Binary64) : Int :=
  if x.isNegative then -(x.quanta : Int) else x.quanta

def value? (x : Binary64) : Option ℚ :=
  if x.isFinite then some (x.signedQuanta / (2 ^ binary64.quantum : Nat)) else none

theorem div_eq_intCast_iff {d : Nat} (positive : 0 < d) (z n : Int) : (z : ℚ) / d = n ↔ z = n * d := by
  rw [div_eq_iff (Nat.cast_ne_zero.mpr (Nat.ne_of_gt positive)), ← Int.cast_inj (α := ℚ)]
  push_cast
  exact Iff.rfl

theorem natCast_eq_mul_iff {a d : Nat} (positive : 0 < d) (n : Int) :
    (a : Int) = n * d ↔ a % d = 0 ∧ ((a / d : Nat) : Int) = n := by
  have nonzero : (d : Int) ≠ 0 := Int.natCast_ne_zero.mpr (Nat.ne_of_gt positive)
  rw [← Nat.dvd_iff_mod_eq_zero, ← Int.natCast_dvd_natCast, Int.natCast_ediv]
  constructor
  · intro whole
    have divides : (d : Int) ∣ a := whole ▸ Int.dvd_mul_left n d
    exact ⟨divides, (Int.ediv_eq_iff_eq_mul_left nonzero divides).mpr whole⟩
  · rintro ⟨divides, quotient⟩
    exact (Int.ediv_eq_iff_eq_mul_left nonzero divides).mp quotient

theorem signedQuanta_eq_mul_iff (x : Binary64) {d : Nat} (positive : 0 < d) (n : Int) :
    x.signedQuanta = n * d ↔ x.quanta % d = 0 ∧
      (if x.isNegative then -((x.quanta / d : Nat) : Int) else (x.quanta / d : Nat)) = n := by
  unfold signedQuanta
  cases x.isNegative with
  | false => exact natCast_eq_mul_iff positive n
  | true =>
    have turned := natCast_eq_mul_iff (a := x.quanta) positive (-n)
    rw [Int.neg_mul, Int.eq_neg_comm, eq_comm, Int.eq_neg_comm (a := ((x.quanta / d : Nat) : Int)),
      eq_comm (a := n)] at turned
    exact turned

theorem integer?_eq_some_iff {x : Binary64} {n : Int} :
    x.integer? = some n ↔ x.value? = some (n : ℚ) := by
  have positive : 0 < 2 ^ binary64.quantum := Nat.two_pow_pos _
  unfold integer? value?
  rw [← Nat.pow_eq] at positive ⊢
  -- No step below may compute this power.
  generalize Nat.pow 2 binary64.quantum = d at positive ⊢
  cases x.isFinite with
  | false => simp
  | true =>
    rw [if_pos rfl, Option.some.injEq, div_eq_intCast_iff positive, signedQuanta_eq_mul_iff x positive]
    simp

end Numeric.Binary64

/-! ### Conversions -/

namespace Number

def value? : Number → Option ℚ
  | signed n => some n.toInt
  | unsigned n => some n.toNat
  | float x => x.value?

/-- Whether a number is a double of this value. -/
def IsDouble (n : Number) (v : ℚ) : Prop :=
  ∃ x, n = .float x ∧ x.value? = some v

theorem ofInt_eq_iff {n : Int} (low : -2 ^ 63 ≤ n) (high : n < 2 ^ 63) (i : Int64) :
    Int64.ofInt n = i ↔ n = i.toInt := by
  rw [← Int64.toInt_inj, Int64.toInt_ofInt_of_le low high]

theorem ofNat_eq_iff {n : Nat} (high : n < UInt64.size) (i : UInt64) :
    UInt64.ofNat n = i ↔ n = i.toNat := by
  rw [← UInt64.toNat_inj, UInt64.toNat_ofNat_of_lt' high]

theorem toInt64?_float {x : Binary64} {i : Int64} :
    (float x).toInt64? = some i ↔
      x.integer? = some i.toInt ∨ x.integer? = some (2 ^ 63) ∧ i = Int64.maxValue := by
  have low := i.le_toInt
  have high := i.toInt_lt
  have least : Int64.minValue.toInt = -2 ^ 63 := rfl
  have greatest : Int64.maxValue.toInt = 2 ^ 63 - 1 := rfl
  rw [toInt64?, least, greatest]
  cases x.integer? with
  | none => simp
  | some n =>
    simp only [Option.bind_some, Option.some.injEq]
    split
    · split
      · rw [Option.some.injEq, ofInt_eq_iff (by omega) (by omega)]
        omega
      · have top : n = 2 ^ 63 := by omega
        have apart : n ≠ i.toInt := by omega
        rw [Option.some.injEq, or_iff_right apart, and_iff_right top, eq_comm]
    · have apart : n ≠ i.toInt := by omega
      have beyond : n ≠ 2 ^ 63 := by omega
      rw [or_iff_right apart]
      exact iff_of_false (Option.some_ne_none i).symm fun same => beyond same.1

theorem toUInt64?_float {x : Binary64} {i : UInt64} :
    (float x).toUInt64? = some i ↔
      x.integer? = some (i.toNat : Int) ∨
        x.integer? = some (2 ^ 64) ∧ i = UInt64.ofNat (UInt64.size - 1) := by
  have high := i.toNat_lt
  have size : UInt64.size = 2 ^ 64 := rfl
  rw [toUInt64?]
  cases x.integer? with
  | none => simp
  | some n =>
    simp only [Option.bind_some, Option.some.injEq]
    split
    · split
      · rw [Option.some.injEq, ofNat_eq_iff (by omega)]
        omega
      · have top : n = 2 ^ 64 := by omega
        have apart : n ≠ i.toNat := by omega
        rw [Option.some.injEq, or_iff_right apart, and_iff_right top, eq_comm]
    · have apart : n ≠ i.toNat := by omega
      have beyond : n ≠ 2 ^ 64 := by omega
      rw [or_iff_right apart]
      exact iff_of_false (Option.some_ne_none i).symm fun same => beyond same.1

theorem toInt64?_unsigned {m : UInt64} {i : Int64} :
    (unsigned m).toInt64? = some i ↔ (m.toNat : Int) = i.toInt := by
  have high := i.toInt_lt
  have greatest : Int64.maxValue.toInt = 2 ^ 63 - 1 := rfl
  rw [toInt64?, greatest]
  split
  · rw [Option.some.injEq, ← Int64.ofInt_eq_ofNat, ofInt_eq_iff (by omega) (by omega)]
  · exact iff_of_false (Option.some_ne_none i).symm (by omega)

theorem toUInt64?_signed {m : Int64} {i : UInt64} :
    (signed m).toUInt64? = some i ↔ m.toInt = i.toNat := by
  have high := m.toInt_lt
  have size : UInt64.size = 2 ^ 64 := rfl
  rw [toUInt64?]
  split
  · rw [Option.some.injEq, ofNat_eq_iff (by omega)]
    omega
  · exact iff_of_false (Option.some_ne_none i).symm (by omega)

theorem not_isDouble_signed {m : Int64} {v : ℚ} : ¬(signed m).IsDouble v := by
  rintro ⟨x, same, -⟩
  cases same

theorem not_isDouble_unsigned {m : UInt64} {v : ℚ} : ¬(unsigned m).IsDouble v := by
  rintro ⟨x, same, -⟩
  cases same

theorem isDouble_float {x : Binary64} {v : ℚ} : (float x).IsDouble v ↔ x.value? = some v := by
  constructor
  · rintro ⟨_, same, value⟩
    cases same
    exact value
  · exact fun value => ⟨x, rfl, value⟩

/-- A number is taken as the integer that it is, or else it is the double that passes for the greatest
one. -/
theorem toInt64?_eq_some_iff {n : Number} {i : Int64} :
    n.toInt64? = some i ↔ n.value? = some (i.toInt : ℚ) ∨ n.IsDouble (2 ^ 63) ∧ i = Int64.maxValue := by
  cases n with
  | signed m => simp [toInt64?, value?, not_isDouble_signed, Int64.toInt_inj]
  | unsigned m =>
    rw [toInt64?_unsigned, value?, Option.some.injEq, ← Int.cast_inj (α := ℚ), Int.cast_natCast]
    simp [not_isDouble_unsigned]
  | float x =>
    rw [toInt64?_float, Binary64.integer?_eq_some_iff, Binary64.integer?_eq_some_iff, isDouble_float]
    push_cast
    exact Iff.rfl

theorem toUInt64?_eq_some_iff {n : Number} {i : UInt64} :
    n.toUInt64? = some i ↔
      n.value? = some (i.toNat : ℚ) ∨ n.IsDouble (2 ^ 64) ∧ i = UInt64.ofNat (UInt64.size - 1) := by
  cases n with
  | signed m =>
    rw [toUInt64?_signed, value?, Option.some.injEq, ← Int.cast_inj (α := ℚ), Int.cast_natCast]
    simp [not_isDouble_signed]
  | unsigned m => simp [toUInt64?, value?, not_isDouble_unsigned, UInt64.toNat_inj]
  | float x =>
    rw [toUInt64?_float, Binary64.integer?_eq_some_iff, Binary64.integer?_eq_some_iff, isDouble_float]
    push_cast
    exact Iff.rfl

theorem value?_of_isDouble {n : Number} {v : ℚ} (double : n.IsDouble v) : n.value? = some v := by
  obtain ⟨x, rfl, value⟩ := double
  exact value

/-- A conversion with one value too many is exact unless it meets that value. -/
theorem exact_iff_not_beyond {α : Type} {converted : Option α} {Is : α → Prop} {Beyond : Prop} {top : α}
    (decides : ∀ i, converted = some i ↔ Is i ∨ Beyond ∧ i = top) (apart : Beyond → ¬Is top) :
    (∀ i, converted = some i ↔ Is i) ↔ ¬Beyond := by
  constructor
  · intro agree beyond
    have passed := (decides top).mpr (Or.inr ⟨beyond, rfl⟩)
    exact apart beyond ((agree top).mp passed)
  · intro within i
    rw [decides i, or_iff_left fun beyond => within beyond.1]

/-- A number is converted to the integer that it is and to none where it is none, except for the double just
beyond the greatest integer, which is converted to that one. -/
theorem exact_unless_just_beyond (n : Number) :
    ((∀ i : Int64, n.toInt64? = some i ↔ n.value? = some (i.toInt : ℚ)) ↔ ¬n.IsDouble (2 ^ 63)) ∧
      (n.IsDouble (2 ^ 63) → n.toInt64? = some Int64.maxValue) ∧
      ((∀ i : UInt64, n.toUInt64? = some i ↔ n.value? = some (i.toNat : ℚ)) ↔ ¬n.IsDouble (2 ^ 64)) ∧
      (n.IsDouble (2 ^ 64) → n.toUInt64? = some (UInt64.ofNat (UInt64.size - 1))) := by
  refine ⟨?_, fun beyond => toInt64?_eq_some_iff.mpr (Or.inr ⟨beyond, rfl⟩), ?_,
    fun beyond => toUInt64?_eq_some_iff.mpr (Or.inr ⟨beyond, rfl⟩)⟩
  · refine exact_iff_not_beyond (fun i => toInt64?_eq_some_iff) fun beyond greatest => ?_
    have same := Option.some.inj ((value?_of_isDouble beyond).symm.trans greatest)
    have top : Int64.maxValue.toInt = 2 ^ 63 - 1 := rfl
    rw [top] at same
    norm_num at same
  · refine exact_iff_not_beyond (fun i => toUInt64?_eq_some_iff) fun beyond greatest => ?_
    have same := Option.some.inj ((value?_of_isDouble beyond).symm.trans greatest)
    have top : (UInt64.ofNat (UInt64.size - 1)).toNat = 2 ^ 64 - 1 := rfl
    rw [top] at same
    norm_num at same

/-- The double `2 ^ 63` is no signed integer and is converted to the greatest of them. -/
theorem two_pow_63_converted :
    (float (.ofInt (2 ^ 63))).value? = some (2 ^ 63) ∧
      (∀ i : Int64, (float (.ofInt (2 ^ 63))).value? ≠ some (i.toInt : ℚ)) ∧
      (float (.ofInt (2 ^ 63))).toInt64? = some Int64.maxValue := by
  have whole : (Binary64.ofInt (2 ^ 63)).integer? = some (2 ^ 63) := by decide +kernel
  have value : (float (.ofInt (2 ^ 63))).value? = some (2 ^ 63) := by
    have exactly := Binary64.integer?_eq_some_iff.mp whole
    push_cast at exactly
    exact exactly
  refine ⟨value, fun i same => ?_, toInt64?_float.mpr (Or.inr ⟨whole, rfl⟩)⟩
  have level := Option.some.inj (value.symm.trans same)
  have high := i.toInt_lt
  have equal : (2 ^ 63 : Int) = i.toInt := by exact_mod_cast level
  omega

end Number

end EntityQuery
