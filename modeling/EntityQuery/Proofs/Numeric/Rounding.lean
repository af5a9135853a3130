import EntityQuery.Numeric.Binary64
import Mathlib.Algebra.Group.Nat.Defs

/-!
Rounding keeps order: of two numbers the larger one never rounds to the smaller code. Whole numbers
therefore keep their order when they are taken as doubles, though some of them become one.
-/

namespace EntityQuery.Numeric

/-! ### Halves to even -/

theorem div_le_roundHalfEven (num den : Nat) : num / den ≤ roundHalfEven num den := by
  unfold roundHalfEven
  dsimp only
  split <;> omega

theorem roundHalfEven_le (num den : Nat) : roundHalfEven num den ≤ num / den + 1 := by
  unfold roundHalfEven
  dsimp only
  split <;> omega

theorem roundHalfEven_mono {a b : Nat} (below : a ≤ b) (den : Nat) :
    roundHalfEven a den ≤ roundHalfEven b den := by
  have lower := roundHalfEven_le a den
  have upper := div_le_roundHalfEven b den
  have quotients := Nat.div_le_div_right (c := den) below
  rcases Nat.lt_or_eq_of_le quotients with apart | same
  · omega
  · -- With one quotient the remainders decide, and they are in order.
    have whole := Nat.div_add_mod a den
    have whole' := Nat.div_add_mod b den
    rw [same] at whole
    have remainders : a % den ≤ b % den := by omega
    unfold roundHalfEven
    rw [same]
    dsimp only
    split <;> split <;> omega

/-! ### Codes -/

def bitLength (n : Nat) : Nat :=
  if n = 0 then 0 else n.log2 + 1

theorem bitLength_le_iff {n k : Nat} : bitLength n ≤ k ↔ n < 2 ^ k := by
  unfold bitLength
  split
  · rename_i zero
    subst zero
    exact ⟨fun _ => Nat.two_pow_pos k, fun _ => Nat.zero_le k⟩
  · rename_i nonzero
    rw [Nat.succ_le_iff, Nat.log2_lt nonzero]

theorem bitLength_mono {a b : Nat} (below : a ≤ b) : bitLength a ≤ bitLength b :=
  bitLength_le_iff.mpr (Nat.lt_of_le_of_lt below (bitLength_le_iff.mp (Nat.le_refl _)))

namespace BinaryFormat

variable (f : BinaryFormat)

def excess (n : Nat) : Nat :=
  bitLength n - f.precision

theorem excess_mono {a b : Nat} (below : a ≤ b) : f.excess a ≤ f.excess b :=
  Nat.sub_le_sub_right (bitLength_mono below) _

/-- The code of a number before it is cut off at infinity. -/
def uncut (num den : Nat) : Nat :=
  let scaled := num * Nat.pow 2 f.quantum
  let shift := f.excess (scaled / den)
  roundHalfEven scaled (den * Nat.pow 2 shift) + shift * f.binade

theorem round_eq_min (num den : Nat) : f.round num den = min (f.uncut num den) f.infinity := by
  change (if f.uncut num den < f.infinity then f.uncut num den else f.infinity) = _
  split <;> omega

theorem round_le_infinity (num den : Nat) : f.round num den ≤ f.infinity := by
  rw [round_eq_min]
  exact Nat.min_le_right _ _

theorem quotient_lt (scaled den : Nat) :
    scaled / (den * 2 ^ f.excess (scaled / den)) < 2 ^ f.precision := by
  have short : scaled / den < 2 ^ (f.excess (scaled / den) + f.precision) :=
    bitLength_le_iff.mp (by unfold excess; omega)
  rw [← Nat.div_div_eq_div_mul]
  exact Nat.div_lt_of_lt_mul (by rwa [← Nat.pow_add])

theorem significand_le (scaled den : Nat) :
    roundHalfEven scaled (den * 2 ^ f.excess (scaled / den)) ≤ 2 ^ f.precision :=
  Nat.le_trans (roundHalfEven_le _ _) (f.quotient_lt scaled den)

variable {f}

theorem binade_le_quotient {scaled den : Nat} (precise : 0 < f.precision)
    (long : 0 < f.excess (scaled / den)) :
    f.binade ≤ scaled / (den * 2 ^ f.excess (scaled / den)) := by
  have digits : ¬bitLength (scaled / den) ≤ (f.precision - 1) + f.excess (scaled / den) := by
    unfold excess at long ⊢
    omega
  rw [bitLength_le_iff, Nat.not_lt, Nat.pow_add] at digits
  rw [← Nat.div_div_eq_div_mul]
  exact (Nat.le_div_iff_mul_le (Nat.two_pow_pos _)).mpr digits

theorem binade_le_significand {scaled den : Nat} (precise : 0 < f.precision)
    (long : 0 < f.excess (scaled / den)) :
    f.binade ≤ roundHalfEven scaled (den * 2 ^ f.excess (scaled / den)) :=
  Nat.le_trans (binade_le_quotient precise long) (div_le_roundHalfEven _ _)

theorem two_pow_precision (precise : 0 < f.precision) : 2 ^ f.precision = 2 * f.binade := by
  have split : f.precision = (f.precision - 1) + 1 := by omega
  rw [split, Nat.pow_succ, Nat.mul_comm]
  rfl

theorem uncut_mono (precise : 0 < f.precision) {a b : Nat} (below : a ≤ b) (den : Nat) :
    f.uncut a den ≤ f.uncut b den := by
  unfold uncut
  dsimp only [Nat.pow_eq]
  have scaled : a * 2 ^ f.quantum ≤ b * 2 ^ f.quantum := Nat.mul_le_mul_right _ below
  generalize a * 2 ^ f.quantum = a at *
  generalize b * 2 ^ f.quantum = b at *
  have shifts := f.excess_mono (Nat.div_le_div_right (c := den) scaled)
  rcases Nat.lt_or_eq_of_le shifts with apart | same
  · -- A longer number starts at least one binade above the place where the shorter one ends.
    have ends := f.significand_le a den
    have longer : 0 < f.excess (b / den) := by omega
    have starts := binade_le_significand precise longer
    have binades : f.excess (a / den) * f.binade + f.binade ≤ f.excess (b / den) * f.binade := by
      rw [← Nat.succ_mul]
      exact Nat.mul_le_mul_right _ apart
    rw [two_pow_precision precise] at ends
    omega
  · rw [same]
    exact Nat.add_le_add_right (roundHalfEven_mono scaled _) _

theorem round_mono (precise : 0 < f.precision) {a b : Nat} (below : a ≤ b) (den : Nat) :
    f.round a den ≤ f.round b den := by
  rw [round_eq_min, round_eq_min]
  have codes := uncut_mono precise below den
  omega

end BinaryFormat

/-! ### Whole numbers as doubles -/

namespace Binary64

theorem isNegative_ofMagnitude {magnitude : Nat} (fits : magnitude < signBit) (negative : Bool) :
    (ofMagnitude negative magnitude).isNegative = negative := by
  unfold isNegative ofMagnitude
  unfold signBit at *
  cases negative <;> simp <;> omega

theorem magnitude_ofMagnitude {magnitude : Nat} (fits : magnitude < signBit) (negative : Bool) :
    (ofMagnitude negative magnitude).magnitude = magnitude := by
  unfold Binary64.magnitude ofMagnitude
  unfold signBit at *
  cases negative <;> simp <;> omega

theorem round_lt_signBit (num den : Nat) : binary64.round num den < signBit :=
  Nat.lt_of_le_of_lt (binary64.round_le_infinity num den) (by decide)

theorem isNaN_ofInt (n : Int) : (ofInt n).isNaN = false := by
  unfold isNaN ofInt ofRatio
  rw [magnitude_ofMagnitude (round_lt_signBit _ _)]
  exact decide_eq_false (Nat.not_lt.mpr (binary64.round_le_infinity _ _))

theorem rank_ofInt (n : Int) :
    (ofInt n).rank = if n < 0 then -(binary64.round n.natAbs 1 : Int) else binary64.round n.natAbs 1 := by
  unfold rank ofInt ofRatio
  rw [isNegative_ofMagnitude (round_lt_signBit _ _), magnitude_ofMagnitude (round_lt_signBit _ _)]
  simp only [decide_eq_true_eq]

theorem rank_ofInt_mono {m n : Int} (below : m ≤ n) : (ofInt m).rank ≤ (ofInt n).rank := by
  rw [rank_ofInt, rank_ofInt]
  have precise : 0 < binary64.precision := by decide
  split <;> split
  · have codes := BinaryFormat.round_mono precise (show n.natAbs ≤ m.natAbs by omega) 1
    omega
  · omega
  · omega
  · have codes := BinaryFormat.round_mono precise (show m.natAbs ≤ n.natAbs by omega) 1
    omega

end Binary64

end EntityQuery.Numeric
