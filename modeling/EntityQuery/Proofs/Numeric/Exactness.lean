import EntityQuery.Proofs.Numeric.Rounding
import Mathlib.Order.Monotone.Basic

/-!
Rounding what needs none. The codes of a format count its numbers upward, and a number that the format has is
its own rounding. So a double whose value is a whole number is the one that the whole number is taken as, and a
finer format has all the numbers of another.
-/

namespace EntityQuery.Numeric

theorem roundHalfEven_mul (n : Nat) {den : Nat} (positive : 0 < den) : roundHalfEven (n * den) den = n := by
  unfold roundHalfEven
  dsimp only
  rw [Nat.mul_div_cancel n positive, Nat.mul_mod_left, if_pos (Or.inl positive)]

namespace BinaryFormat

variable {f : BinaryFormat}

theorem binade_pos (f : BinaryFormat) : 0 < f.binade :=
  Nat.two_pow_pos _

theorem scale_pos (f : BinaryFormat) : 0 < Nat.pow 2 f.quantum :=
  Nat.two_pow_pos _

/-! ### The numbers of the codes -/

def doublings (f : BinaryFormat) (code : Nat) : Nat :=
  code / f.binade - 1

def significand (f : BinaryFormat) (code : Nat) : Nat :=
  code - f.doublings code * f.binade

theorem significand_add (f : BinaryFormat) (code : Nat) :
    f.significand code + f.doublings code * f.binade = code :=
  Nat.sub_add_cancel (Nat.le_trans (Nat.mul_le_mul_right _ (Nat.sub_le _ 1)) (Nat.div_mul_le_self code f.binade))

theorem significand_of_doublings {code : Nat} (doubled : 0 < code / f.binade) :
    f.significand code = code % f.binade + f.binade := by
  have whole := Nat.div_add_mod' code f.binade
  have once : code / f.binade = f.doublings code + 1 := by
    unfold doublings
    omega
  rw [once, Nat.succ_mul] at whole
  unfold significand
  omega

theorem quanta_eq (f : BinaryFormat) (code : Nat) :
    f.quanta code = f.significand code * 2 ^ f.doublings code := by
  unfold quanta
  dsimp only
  split
  · rename_i small
    have never : f.doublings code = 0 := by
      unfold doublings
      omega
    rw [significand, never, Nat.zero_mul, Nat.sub_zero, Nat.pow_zero, Nat.mul_one]
  · rename_i doubled
    rw [significand_of_doublings (Nat.pos_of_ne_zero doubled)]
    rfl

/-- The significand fills the precision but where the spacing is still the least. -/
theorem significand_bounds (f : BinaryFormat) (code : Nat) :
    f.significand code < 2 * f.binade ∧ (f.doublings code = 0 ∨ f.binade ≤ f.significand code) := by
  rcases Nat.eq_zero_or_pos (code / f.binade) with small | doubled
  · have below : code < f.binade := (Nat.div_eq_zero_iff_lt f.binade_pos).mp small
    have never : f.doublings code = 0 := by
      unfold doublings
      omega
    rw [significand, never]
    omega
  · rw [significand_of_doublings doubled]
    have rest := Nat.mod_lt code f.binade_pos
    omega

/-- What the code of a rounded significand stands for, also where rounding has led to the next binade. -/
theorem quanta_add_mul {r e : Nat} (full : e = 0 ∨ f.binade ≤ r) (short : r ≤ 2 * f.binade) :
    f.quanta (r + e * f.binade) = r * 2 ^ e := by
  have positive := f.binade_pos
  have counted : (r + e * f.binade) / f.binade = r / f.binade + e := Nat.add_mul_div_right r e positive
  rcases Nat.lt_or_eq_of_le short with within | rfl
  · have once : r / f.binade ≤ 1 := Nat.le_of_lt_succ ((Nat.div_lt_iff_lt_mul positive).mpr within)
    have doubled : f.doublings (r + e * f.binade) = e := by
      unfold doublings
      rw [counted]
      rcases full with rfl | filled
      · omega
      · have some := (Nat.one_le_div_iff positive).mpr filled
        omega
    rw [quanta_eq, significand, doubled, Nat.add_sub_cancel]
  · have doubled : f.doublings (2 * f.binade + e * f.binade) = e + 1 := by
      unfold doublings
      rw [counted, Nat.mul_div_cancel 2 positive]
      omega
    have half : 2 * f.binade + e * f.binade - (e + 1) * f.binade = f.binade := by
      rw [Nat.add_mul e 1, Nat.one_mul]
      omega
    rw [quanta_eq, significand, doubled, half, Nat.pow_succ]
    ac_rfl

theorem quanta_succ (f : BinaryFormat) (code : Nat) :
    f.quanta (code + 1) = f.quanta code + 2 ^ f.doublings code := by
  obtain ⟨short, full⟩ := f.significand_bounds code
  have next : code + 1 = (f.significand code + 1) + f.doublings code * f.binade := by
    have sum := f.significand_add code
    omega
  rw [next, quanta_add_mul (full.imp_right Nat.le_succ_of_le) short, Nat.succ_mul, ← quanta_eq]

/-- The codes count the numbers upward. -/
theorem quanta_strictMono (f : BinaryFormat) : StrictMono f.quanta :=
  strictMono_nat_of_lt_succ fun code => by
    have spacing := Nat.two_pow_pos (f.doublings code)
    rw [quanta_succ]
    omega

/-! ### Numbers that the format has -/

theorem quanta_uncut (precise : 0 < f.precision) (num den : Nat) :
    let scaled := num * 2 ^ f.quantum
    let unit := 2 ^ f.excess (scaled / den)
    f.quanta (f.uncut num den) = roundHalfEven scaled (den * unit) * unit := by
  intro scaled unit
  refine quanta_add_mul ?_ ?_
  · exact (Nat.eq_zero_or_pos _).imp_right fun long => binade_le_significand precise long
  · exact two_pow_precision precise ▸ f.significand_le scaled den

/-- Nothing is lost of digits that do not exceed the precision. -/
theorem quanta_uncut_of_digits (precise : 0 < f.precision) {num den digits shift : Nat} (positive : 0 < den)
    (short : digits < 2 ^ f.precision) (exactly : num * 2 ^ f.quantum = digits * 2 ^ shift * den) :
    f.quanta (f.uncut num den) = digits * 2 ^ shift := by
  have length : bitLength (digits * 2 ^ shift) ≤ f.precision + shift := by
    rw [bitLength_le_iff, Nat.pow_add]
    exact Nat.mul_lt_mul_of_pos_right short (Nat.two_pow_pos shift)
  have cut : f.excess (digits * 2 ^ shift) ≤ shift := by
    unfold excess
    omega
  have whole : digits * 2 ^ shift =
      digits * 2 ^ (shift - f.excess (digits * 2 ^ shift)) * 2 ^ f.excess (digits * 2 ^ shift) := by
    rw [Nat.mul_assoc, ← Nat.pow_add, Nat.sub_add_cancel cut]
  have coded := quanta_uncut precise num den
  dsimp only at coded
  rw [exactly, Nat.mul_div_cancel _ positive] at coded
  generalize f.excess (digits * 2 ^ shift) = e at coded whole
  rw [coded]
  have divided : digits * 2 ^ shift * den = digits * 2 ^ (shift - e) * (den * 2 ^ e) := by
    rw [whole]
    ac_rfl
  rw [divided, roundHalfEven_mul _ (Nat.mul_pos positive (Nat.two_pow_pos e)), ← whole]

theorem round_quanta (precise : 0 < f.precision) {num den code : Nat} (positive : 0 < den)
    (exactly : num * Nat.pow 2 f.quantum = f.quanta code * den) (finite : code < f.infinity) :
    f.round num den = code := by
  have short : f.significand code < 2 ^ f.precision :=
    two_pow_precision precise ▸ (f.significand_bounds code).1
  have coded : f.uncut num den = code := by
    rw [quanta_eq] at exactly
    have same := quanta_uncut_of_digits precise positive short exactly
    rw [← quanta_eq] at same
    exact f.quanta_strictMono.injective same
  rw [round_eq_min, coded]
  omega

/-! ### A format within another -/

/-- A format that has all the numbers of another. -/
structure Refines (g f : BinaryFormat) : Prop where
  precise : 0 < f.precision
  precision_le : f.precision ≤ g.precision
  quantum_le : f.quantum ≤ g.quantum
  infinity_le : f.quanta f.infinity * 2 ^ (g.quantum - f.quantum) ≤ g.quanta g.infinity

namespace Refines

variable {g : BinaryFormat} {code : Nat}

theorem quanta_round (refined : g.Refines f) (finite : code < f.infinity) :
    g.round (f.quanta code) (Nat.pow 2 f.quantum) < g.infinity ∧
      g.quanta (g.round (f.quanta code) (Nat.pow 2 f.quantum)) * Nat.pow 2 f.quantum =
        f.quanta code * Nat.pow 2 g.quantum := by
  have scale : Nat.pow 2 g.quantum = 2 ^ (g.quantum - f.quantum) * Nat.pow 2 f.quantum := by
    have sum : g.quantum = g.quantum - f.quantum + f.quantum := (Nat.sub_add_cancel refined.quantum_le).symm
    exact (congrArg (Nat.pow 2) sum).trans (Nat.pow_add 2 _ _)
  have bounded := Nat.mul_lt_mul_of_pos_right (f.quanta_strictMono finite)
    (Nat.two_pow_pos (g.quantum - f.quantum))
  have below := Nat.lt_of_lt_of_le bounded refined.infinity_le
  have short : f.significand code < 2 ^ g.precision :=
    calc f.significand code
      _ < 2 ^ f.precision := two_pow_precision refined.precise ▸ (f.significand_bounds code).1
      _ ≤ 2 ^ g.precision := Nat.pow_le_pow_right Nat.two_pos refined.precision_le
  have exactly : f.quanta code * Nat.pow 2 g.quantum =
      f.significand code * 2 ^ (f.doublings code + (g.quantum - f.quantum)) * Nat.pow 2 f.quantum := by
    rw [quanta_eq, scale, Nat.pow_add]
    ac_rfl
  have precise := Nat.lt_of_lt_of_le refined.precise refined.precision_le
  have coded := quanta_uncut_of_digits precise f.scale_pos short exactly
  rw [Nat.pow_add, ← Nat.mul_assoc, ← quanta_eq] at coded
  have within : g.uncut (f.quanta code) (Nat.pow 2 f.quantum) < g.infinity :=
    g.quanta_strictMono.lt_iff_lt.mp (coded ▸ below)
  rw [round_eq_min, Nat.min_eq_left (Nat.le_of_lt within)]
  refine ⟨within, ?_⟩
  rw [coded, scale, Nat.mul_assoc]

theorem round_quanta_round (refined : g.Refines f) (finite : code < f.infinity) :
    f.round (g.quanta (g.round (f.quanta code) (Nat.pow 2 f.quantum))) (Nat.pow 2 g.quantum) = code :=
  round_quanta refined.precise g.scale_pos (refined.quanta_round finite).2 finite

end Refines

end BinaryFormat

theorem binary64_refines_binary32 : binary64.Refines binary32 :=
  ⟨by decide, by decide, by decide, by decide +kernel⟩

namespace Binary64

variable {x : Binary64} {n : Int}

theorem natAbs_of_integer (whole : x.integer? = some n) :
    x.isFinite = true ∧ n.natAbs * Nat.pow 2 binary64.quantum = x.quanta ∧ (n < 0 → x.isNegative = true) ∧
      (x.isNegative = true → n ≤ 0) := by
  unfold integer? at whole
  -- No step below may compute this power.
  generalize Nat.pow 2 binary64.quantum = d at whole ⊢
  split at whole
  · rename_i finite
    have product := Nat.div_mul_cancel (Nat.dvd_of_mod_eq_zero finite.2)
    refine ⟨finite.1, ?_⟩
    rw [← product]
    generalize x.quanta / d = q at whole ⊢
    cases sign : x.isNegative <;> simp only [sign, Option.some.injEq] at whole <;> subst whole <;> simp
  · cases whole

theorem rank_ofInt_of_integer (whole : x.integer? = some n) : (ofInt n).rank = x.rank := by
  obtain ⟨finite, exactly, below, above⟩ := natAbs_of_integer whole
  have code : binary64.round n.natAbs 1 = x.magnitude :=
    BinaryFormat.round_quanta (by decide) Nat.one_pos (exactly.trans (Nat.mul_one _).symm)
      (of_decide_eq_true finite)
  rw [rank_ofInt, code, rank]
  cases sign : x.isNegative with
  | true =>
    rcases Int.lt_or_eq_of_le (above sign) with negative | rfl
    · rw [if_pos negative, if_pos rfl]
    · -- Of the two zeros the integer is taken as the positive one, and both have one place.
      have zero : x.magnitude = 0 := code.symm.trans (by decide +kernel)
      rw [zero]
      rfl
  | false =>
    have positive : ¬n < 0 := fun negative => Bool.false_ne_true (sign.symm.trans (below negative))
    rw [if_neg positive, if_neg nofun]

/-- A double that is a whole number compares as equal to what this number rounds to. -/
theorem compare?_ofInt_of_integer (whole : x.integer? = some n) : (ofInt n).compare? x = some .eq := by
  have finite : x.magnitude < binary64.infinity := of_decide_eq_true (natAbs_of_integer whole).1
  have number : x.isNaN = false := decide_eq_false (Nat.lt_asymm finite)
  rw [compare?, isNaN_ofInt, number, rank_ofInt_of_integer whole, Int.compare_eq_eq.mpr rfl]
  rfl

end Binary64

end EntityQuery.Numeric
