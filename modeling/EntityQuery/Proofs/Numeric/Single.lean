import EntityQuery.Numeric.Binary32
import EntityQuery.Proofs.Numeric.Nearest

/-!
Single precision against doubles. Every number of single precision is a double, from which it is read back;
and what is stored of a double in single precision is the nearest number.
-/

namespace EntityQuery.Numeric

/-! ### Codes of one format in another -/

namespace BinaryFormat

variable {f g : BinaryFormat} {code : Nat}

theorem convert_of_finite (finite : code < f.infinity) :
    f.convert g code = g.round (f.quanta code) (Nat.pow 2 f.quantum) := by
  rw [convert, if_neg (Nat.lt_asymm finite), if_pos finite]

theorem convert_infinity (f g : BinaryFormat) : f.convert g f.infinity = g.infinity := by
  rw [convert, if_neg (Nat.lt_irrefl _), if_neg (Nat.lt_irrefl _)]

theorem convert_le_infinity (g : BinaryFormat) (number : code ≤ f.infinity) : f.convert g code ≤ g.infinity := by
  rcases Nat.lt_or_eq_of_le number with finite | rfl
  · exact convert_of_finite finite ▸ g.round_le_infinity _ _
  · exact Nat.le_of_eq (convert_infinity f g)

theorem convert_beyond (precise : 1 < g.precision) (beyond : f.infinity < code)
    (fits : code < f.infinity + f.binade) :
    g.infinity < f.convert g code ∧ f.convert g code < g.infinity + g.binade := by
  have kept : (code - f.infinity) * g.binade / f.binade < g.binade :=
    (Nat.div_lt_iff_lt_mul f.binade_pos).mpr <| by
      rw [Nat.mul_comm]
      exact Nat.mul_lt_mul_of_pos_left (by omega) g.binade_pos
  have halved : 0 < g.binade / 2 :=
    Nat.div_pos (Nat.le_self_pow (by omega) 2) Nat.two_pos
  rw [convert, if_pos beyond]
  generalize (code - f.infinity) * g.binade / f.binade = payload at kept
  unfold quiet
  split <;> omega

theorem convert_lt (precise : 1 < g.precision) (fits : code < f.infinity + f.binade) :
    f.convert g code < g.infinity + g.binade := by
  rcases Nat.lt_or_ge f.infinity code with beyond | number
  · exact (convert_beyond precise beyond fits).2
  · exact Nat.lt_of_le_of_lt (convert_le_infinity g number) (Nat.lt_add_of_pos_right g.binade_pos)

theorem infinity_lt_convert_iff (precise : 1 < g.precision) (fits : code < f.infinity + f.binade) :
    g.infinity < f.convert g code ↔ f.infinity < code := by
  refine ⟨fun beyond => ?_, fun beyond => (convert_beyond precise beyond fits).1⟩
  exact Nat.not_le.mp fun number => Nat.not_le.mpr beyond (convert_le_infinity g number)

/-- A number comes back from a finer format. -/
theorem convert_convert (refined : g.Refines f) (number : code ≤ f.infinity) :
    g.convert f (f.convert g code) = code := by
  rcases Nat.lt_or_eq_of_le number with finite | rfl
  · rw [convert_of_finite finite, convert_of_finite (refined.quanta_round finite).1]
    exact refined.round_quanta_round finite
  · rw [convert_infinity, convert_infinity]

theorem half_le_quiet (f : BinaryFormat) (payload : Nat) : f.binade / 2 ≤ f.quiet payload := by
  unfold quiet
  split <;> omega

theorem quiet_of_le {payload : Nat} (loud : f.binade / 2 ≤ payload) : f.quiet payload = payload :=
  if_neg (Nat.not_lt.mpr loud)

/-- A payload of single precision lies in the highest bits of that of the double. -/
theorem convert_binary64_beyond (beyond : binary32.infinity < code) :
    binary32.convert binary64 code =
      binary64.infinity + 0x20000000 * binary32.quiet (code - binary32.infinity) := by
  have small : binary32.binade = 0x800000 := rfl
  have large : binary64.binade = 0x10000000000000 := rfl
  rw [convert, if_pos beyond, quiet, quiet, small, large]
  split <;> split <;> omega

/-- What is no number comes back from a double with its payload made quiet. -/
theorem convert_convert_beyond (beyond : binary32.infinity < code) :
    binary64.convert binary32 (binary32.convert binary64 code) =
      binary32.infinity + binary32.quiet (code - binary32.infinity) := by
  have loud := binary32.half_le_quiet (code - binary32.infinity)
  have small : binary32.binade = 0x800000 := rfl
  have large : binary64.binade = 0x10000000000000 := rfl
  rw [convert_binary64_beyond beyond]
  generalize binary32.quiet (code - binary32.infinity) = payload at loud
  have kept : (binary64.infinity + 0x20000000 * payload - binary64.infinity) * binary32.binade / binary64.binade =
      payload := by
    rw [small, large]
    omega
  have past : binary64.infinity < binary64.infinity + 0x20000000 * payload := by
    rw [small] at loud
    omega
  rw [convert, if_pos past, kept, quiet_of_le loud]

end BinaryFormat

/-! ### Doubles and numbers of single precision -/

namespace Binary32

theorem magnitude_lt (x : Binary32) : x.magnitude < binary32.infinity + binary32.binade :=
  Nat.mod_lt _ (by decide)

theorem isNegative_ofMagnitude {magnitude : Nat} (fits : magnitude < binary32.infinity + binary32.binade)
    (negative : Bool) : (ofMagnitude negative magnitude).isNegative = negative := by
  change magnitude < 0x80000000 at fits
  unfold isNegative ofMagnitude signBit
  cases negative <;> simp <;> omega

theorem magnitude_ofMagnitude {magnitude : Nat} (fits : magnitude < binary32.infinity + binary32.binade)
    (negative : Bool) : (ofMagnitude negative magnitude).magnitude = magnitude := by
  change magnitude < 0x80000000 at fits
  unfold Binary32.magnitude ofMagnitude signBit
  cases negative <;> simp <;> omega

theorem ofMagnitude_magnitude (x : Binary32) : ofMagnitude x.isNegative x.magnitude = x := by
  obtain ⟨bits⟩ := x
  have bound := bits.toNat_lt
  have sum : bits.toNat % signBit + (if decide (signBit ≤ bits.toNat) = true then signBit else 0) =
      bits.toNat := by
    unfold signBit
    simp only [decide_eq_true_eq]
    split <;> omega
  exact congrArg Binary32.mk ((congrArg UInt32.ofNat sum).trans UInt32.ofNat_toNat)

theorem convert_magnitude_lt (x : Binary32) : binary32.convert binary64 x.magnitude < Binary64.signBit :=
  BinaryFormat.convert_lt (by decide) x.magnitude_lt

theorem magnitude_toBinary64 (x : Binary32) :
    x.toBinary64.magnitude = binary32.convert binary64 x.magnitude :=
  Binary64.magnitude_ofMagnitude x.convert_magnitude_lt _

theorem isNegative_toBinary64 (x : Binary32) : x.toBinary64.isNegative = x.isNegative :=
  Binary64.isNegative_ofMagnitude x.convert_magnitude_lt _

theorem isNaN_toBinary64 (x : Binary32) : x.toBinary64.isNaN = x.isNaN := by
  unfold Binary64.isNaN isNaN
  rw [magnitude_toBinary64]
  exact decide_eq_decide.mpr (BinaryFormat.infinity_lt_convert_iff (by decide) x.magnitude_lt)

end Binary32

namespace Binary64

theorem magnitude_lt (x : Binary64) : x.magnitude < binary64.infinity + binary64.binade :=
  Nat.mod_lt _ (by decide)

theorem convert_magnitude_lt (x : Binary64) :
    binary64.convert binary32 x.magnitude < binary32.infinity + binary32.binade :=
  BinaryFormat.convert_lt (by decide) x.magnitude_lt

theorem magnitude_toBinary32 (x : Binary64) :
    x.toBinary32.magnitude = binary64.convert binary32 x.magnitude :=
  Binary32.magnitude_ofMagnitude x.convert_magnitude_lt _

theorem isNegative_toBinary32 (x : Binary64) : x.toBinary32.isNegative = x.isNegative :=
  Binary32.isNegative_ofMagnitude x.convert_magnitude_lt _

theorem isNaN_toBinary32 (x : Binary64) : x.toBinary32.isNaN = x.isNaN := by
  unfold Binary32.isNaN isNaN
  rw [magnitude_toBinary32]
  exact decide_eq_decide.mpr (BinaryFormat.infinity_lt_convert_iff (by decide) x.magnitude_lt)

end Binary64

namespace Binary32

theorem magnitude_toBinary32_toBinary64 (x : Binary32) :
    x.toBinary64.toBinary32.magnitude = binary64.convert binary32 (binary32.convert binary64 x.magnitude) := by
  rw [Binary64.magnitude_toBinary32, magnitude_toBinary64]

theorem isNegative_toBinary32_toBinary64 (x : Binary32) : x.toBinary64.toBinary32.isNegative = x.isNegative := by
  rw [Binary64.isNegative_toBinary32, isNegative_toBinary64]

theorem eq_of_magnitude_eq {x y : Binary32} (signs : x.isNegative = y.isNegative)
    (magnitudes : x.magnitude = y.magnitude) : x = y := by
  rw [← x.ofMagnitude_magnitude, ← y.ofMagnitude_magnitude, signs, magnitudes]

/-- What is no number and has a payload that no conversion leaves as it is. -/
def isSignalling (x : Binary32) : Bool :=
  x.isNaN && decide (x.magnitude < binary32.infinity + binary32.binade / 2)

/-- All but the signalling numbers of single precision are read back from their doubles. -/
theorem toBinary32_toBinary64_eq_self_iff (x : Binary32) :
    x.toBinary64.toBinary32 = x ↔ x.isSignalling = false := by
  have magnitudes : x.toBinary64.toBinary32 = x ↔
      binary64.convert binary32 (binary32.convert binary64 x.magnitude) = x.magnitude := by
    rw [← magnitude_toBinary32_toBinary64]
    exact ⟨congrArg magnitude, eq_of_magnitude_eq (isNegative_toBinary32_toBinary64 x)⟩
  rw [magnitudes, isSignalling]
  cases number : x.isNaN with
  | false =>
    have below := Nat.not_lt.mp (of_decide_eq_false number)
    exact iff_of_true (BinaryFormat.convert_convert binary64_refines_binary32 below) rfl
  | true =>
    have beyond : binary32.infinity < x.magnitude := of_decide_eq_true number
    rw [BinaryFormat.convert_convert_beyond beyond, Bool.true_and, decide_eq_false_iff_not]
    unfold BinaryFormat.quiet
    split <;> omega

theorem toBinary32_toBinary64 {x : Binary32} (number : x.isNaN = false) : x.toBinary64.toBinary32 = x := by
  rw [toBinary32_toBinary64_eq_self_iff, isSignalling, number, Bool.false_and]

theorem toBinary64_toBinary32_toBinary64 (x : Binary32) : x.toBinary64.toBinary32.toBinary64 = x.toBinary64 := by
  have magnitudes : binary32.convert binary64 x.toBinary64.toBinary32.magnitude =
      binary32.convert binary64 x.magnitude := by
    rw [magnitude_toBinary32_toBinary64]
    rcases Nat.lt_or_ge binary32.infinity x.magnitude with beyond | number
    · have loud := binary32.half_le_quiet (x.magnitude - binary32.infinity)
      have positive : 0 < binary32.binade / 2 := by decide
      rw [BinaryFormat.convert_convert_beyond beyond, BinaryFormat.convert_binary64_beyond (by omega),
        BinaryFormat.convert_binary64_beyond beyond, Nat.add_sub_cancel_left, BinaryFormat.quiet_of_le loud]
    · rw [BinaryFormat.convert_convert binary64_refines_binary32 number]
  exact congrArg₂ Binary64.ofMagnitude (isNegative_toBinary32_toBinary64 x) magnitudes

/-- What single precision has for a double: the nearest number, with infinity as the next after the greatest,
and something that is no number for what is none. -/
structure Nearest (x : Binary64) (y : Binary32) : Prop where
  isNaN : y.isNaN = x.isNaN
  sign : x.isNaN = false → y.isNegative = x.isNegative
  finite : x.isFinite = true → binary32.Nearest x.quanta (Nat.pow 2 binary64.quantum) y.magnitude
  infinite : x.magnitude = binary64.infinity → y.magnitude = binary32.infinity

theorem nearest_toBinary32 (x : Binary64) : Nearest x x.toBinary32 where
  isNaN := x.isNaN_toBinary32
  sign _ := x.isNegative_toBinary32
  finite finite := by
    rw [Binary64.magnitude_toBinary32, BinaryFormat.convert_of_finite (of_decide_eq_true finite)]
    exact BinaryFormat.round_nearest (by decide) _ binary64.scale_pos
  infinite infinite := by
    rw [Binary64.magnitude_toBinary32, infinite, BinaryFormat.convert_infinity]

end Binary32

end EntityQuery.Numeric
