import EntityQuery.Proofs.Numeric.Exactness

/-!
What rounding comes to. No number of the format is nearer than the one that is rounded to, and of two equally
near ones it has the even code. Infinity takes part as the number that would come next.
-/

namespace EntityQuery.Numeric

theorem roundHalfEven_cases (num den : Nat) :
    roundHalfEven num den = num / den ∧
        (2 * (num % den) < den ∨ 2 * (num % den) = den ∧ num / den % 2 = 0) ∨
      roundHalfEven num den = num / den + 1 ∧
        (den < 2 * (num % den) ∨ 2 * (num % den) = den ∧ num / den % 2 = 1) := by
  unfold roundHalfEven
  dsimp only
  split
  · rename_i down
    exact Or.inl ⟨rfl, down⟩
  · refine Or.inr ⟨rfl, ?_⟩
    omega

namespace BinaryFormat

variable {f : BinaryFormat} {num den code other : Nat}

/-- How far `num / den` lies from the number of a code, in units of `2 ^ (-quantum) / den`. -/
def distance (f : BinaryFormat) (num den code : Nat) : Nat :=
  ((num * Nat.pow 2 f.quantum : Nat) - (f.quanta code * den : Nat) : Int).natAbs

/-- The code of the number nearest to `num / den`, of two equally near ones the even one. -/
structure Nearest (f : BinaryFormat) (num den code : Nat) : Prop where
  le_infinity : code ≤ f.infinity
  nearest : ∀ other ≤ f.infinity, f.distance num den code ≤ f.distance num den other
  even : ∀ other ≤ f.infinity, other ≠ code →
    f.distance num den other = f.distance num den code → code % 2 = 0

theorem mul_quanta_lt (positive : 0 < den) {a b : Nat} (below : a < b) :
    f.quanta a * den < f.quanta b * den :=
  Nat.mul_lt_mul_of_pos_right (f.quanta_strictMono below) positive

theorem add_binades_mod_two (precise : 1 < f.precision) (r e : Nat) : (r + e * f.binade) % 2 = r % 2 := by
  have half : f.binade = 2 * 2 ^ (f.precision - 2) := by
    rw [← Nat.pow_succ']
    exact congrArg (2 ^ ·) (show f.precision - 1 = f.precision - 2 + 1 by omega)
  rw [half, Nat.mul_left_comm, Nat.add_mul_mod_self_left]

theorem uncut_cases (precise : 1 < f.precision) (num : Nat) (positive : 0 < den) :
    ∃ low rest spacing, rest < spacing ∧ num * 2 ^ f.quantum = f.quanta low * den + rest ∧
      f.quanta (low + 1) * den = f.quanta low * den + spacing ∧
      (f.uncut num den = low ∧ (2 * rest < spacing ∨ 2 * rest = spacing ∧ low % 2 = 0) ∨
        f.uncut num den = low + 1 ∧ (spacing < 2 * rest ∨ 2 * rest = spacing ∧ low % 2 = 1)) := by
  have precise' : 0 < f.precision := Nat.lt_of_succ_lt precise
  unfold uncut
  dsimp only [Nat.pow_eq]
  generalize num * 2 ^ f.quantum = scaled
  have short := two_pow_precision precise' ▸ f.quotient_lt scaled den
  have full := (Nat.eq_zero_or_pos (f.excess (scaled / den))).imp_right (binade_le_quotient precise')
  have rounded := roundHalfEven_cases scaled (den * 2 ^ f.excess (scaled / den))
  generalize f.excess (scaled / den) = e at short full rounded ⊢
  have unit : 0 < den * 2 ^ e := Nat.mul_pos positive (Nat.two_pow_pos e)
  have whole := Nat.div_add_mod' scaled (den * 2 ^ e)
  have rest := Nat.mod_lt scaled unit
  generalize scaled / (den * 2 ^ e) = quotient at short full rounded whole
  generalize scaled % (den * 2 ^ e) = remainder at rounded whole rest
  have low : f.quanta (quotient + e * f.binade) * den = quotient * (den * 2 ^ e) := by
    rw [quanta_add_mul full (Nat.le_of_lt short)]
    ac_rfl
  have high : f.quanta (quotient + e * f.binade + 1) * den = quotient * (den * 2 ^ e) + den * 2 ^ e := by
    rw [Nat.add_right_comm, quanta_add_mul (full.imp_right Nat.le_succ_of_le) short, Nat.succ_mul,
      Nat.add_mul]
    ac_rfl
  refine ⟨quotient + e * f.binade, remainder, den * 2 ^ e, rest, ?_, ?_, ?_⟩
  · rw [low, whole]
  · rw [low, high]
  · rw [add_binades_mod_two precise]
    rcases rounded with ⟨down, near⟩ | ⟨up, near⟩
    · exact Or.inl ⟨by rw [down], near⟩
    · exact Or.inr ⟨by rw [up, Nat.add_right_comm], near⟩

theorem uncut_nearest (precise : 1 < f.precision) (num : Nat) (positive : 0 < den) (other : Nat) :
    f.distance num den (f.uncut num den) ≤ f.distance num den other ∧
      (other ≠ f.uncut num den → f.distance num den other = f.distance num den (f.uncut num den) →
        f.uncut num den % 2 = 0) := by
  obtain ⟨low, rest, spacing, small, above, next, rounded⟩ := uncut_cases precise num positive
  have lower : other < low → f.quanta other * den < f.quanta low * den := f.mul_quanta_lt positive
  have higher : low + 1 < other → f.quanta (low + 1) * den < f.quanta other * den := f.mul_quanta_lt positive
  have place : other < low ∨ other = low ∨ other = low + 1 ∨ low + 1 < other := by omega
  unfold distance
  dsimp only [Nat.pow_eq]
  rw [above]
  rcases rounded with ⟨coded, near⟩ | ⟨coded, near⟩ <;> rw [coded]
  all_goals
    rcases place with lt | rfl | rfl | gt
    · have := lower lt
      omega
    · omega
    · omega
    · have := higher gt
      omega

theorem round_nearest (precise : 1 < f.precision) (num : Nat) (positive : 0 < den) :
    f.Nearest num den (f.round num den) := by
  have found := f.uncut_nearest precise num positive
  have capped := f.round_eq_min num den
  rcases Nat.lt_or_ge f.infinity (f.uncut num den) with overflown | within
  · rw [Nat.min_eq_right (Nat.le_of_lt overflown)] at capped
    -- What is nearer to a number beyond infinity than to infinity is nearer to infinity than to all below.
    have beyond := (found f.infinity).1
    have gap := f.mul_quanta_lt positive overflown
    have nearer : ∀ other < f.infinity, f.distance num den f.infinity < f.distance num den other := by
      intro other below
      have gap' := f.mul_quanta_lt positive below
      unfold distance at *
      omega
    rw [capped]
    refine ⟨Nat.le_refl _, fun other bounded => ?_, fun other bounded apart same => ?_⟩
    · rcases Nat.lt_or_eq_of_le bounded with below | rfl
      · exact Nat.le_of_lt (nearer other below)
      · exact Nat.le_refl _
    · exact absurd same (Nat.ne_of_gt (nearer other (Nat.lt_of_le_of_ne bounded apart)))
  · rw [Nat.min_eq_left within] at capped
    rw [capped]
    exact ⟨within, fun other _ => (found other).1, fun other _ apart same => (found other).2 apart same⟩

end BinaryFormat

end EntityQuery.Numeric
