import EntityQuery.Proofs.Numeric.Rounding
import EntityQuery.Proofs.Value.SortOrder

/-!
Where the order of values is transitive. Integers are compared with each other exactly, but with a
double as the doubles that they round to. Two integers that round to one double are therefore level
with it and not with each other, and in no other way does transitivity fail.
-/

namespace EntityQuery

open EntityQuery.Calendar EntityQuery.Numeric Std

/-! ### Numbers -/

theorem compare_natCast (a b : Nat) : compare a b = compare (a : Int) (b : Int) := by
  rcases Nat.lt_trichotomy a b with below | same | above
  · rw [Nat.compare_eq_lt.mpr below, Int.compare_eq_lt.mpr (by omega)]
  · rw [Nat.compare_eq_eq.mpr same, Int.compare_eq_eq.mpr (by omega)]
  · rw [Nat.compare_eq_gt.mpr above, Int.compare_eq_gt.mpr (by omega)]

namespace Number

/-- The whole number that an integer holds. A double is no integer, whatever it holds. -/
def integer? : Number → Option Int
  | signed n => some n.toInt
  | unsigned n => some n.toNat
  | float _ => none

/-- The place of a number, rounded to a double, among all doubles. -/
def place (n : Number) : Int :=
  n.toBinary64.sortRank

variable {m n : Number} {i j : Int}

theorem toBinary64_of_integer (holds : n.integer? = some i) : n.toBinary64 = .ofInt i := by
  cases n with
  | signed n =>
    cases holds
    rfl
  | unsigned n =>
    cases holds
    rfl
  | float x => cases holds

theorem compare?_integers (left : m.integer? = some i) (right : n.integer? = some j) :
    m.compare? n = some (compare i j) := by
  cases m <;> cases left <;> cases n <;> cases right
  case unsigned.refl.unsigned.refl a b => exact congrArg some (compare_natCast a.toNat b.toNat)
  all_goals rfl

theorem compare?_double (holds : m.integer? = some i) (x : Binary64) :
    m.compare? (float x) = (Binary64.ofInt i).compare? x := by
  rw [← toBinary64_of_integer holds]
  cases m <;> rfl

theorem place_of_integer (holds : n.integer? = some i) : n.place = (Binary64.ofInt i).rank := by
  rw [place, toBinary64_of_integer holds, Binary64.sortRank, Binary64.isNaN_ofInt, if_neg nofun]

theorem place_mono (left : m.integer? = some i) (right : n.integer? = some j) (below : i ≤ j) :
    m.place ≤ n.place := by
  rw [place_of_integer left, place_of_integer right]
  exact Binary64.rank_ofInt_mono below

end Number

theorem Numeric.Binary64.compare?_of_sortRank {i : Int} {x : Binary64}
    (level : (ofInt i).rank = x.sortRank) : (ofInt i).compare? x = some .eq := by
  have near := rank_bounds (isNaN_ofInt i)
  unfold sortRank at level
  cases nan : x.isNaN with
  | true =>
    have far := totalRank_of_isNaN nan
    rw [nan, if_pos rfl] at level
    omega
  | false =>
    rw [nan, if_neg nofun] at level
    rw [compare?, isNaN_ofInt, nan, level, Int.compare_eq_eq.mpr rfl]
    rfl

namespace Value

/-! ### Two numbers -/

section Numbers

variable {m n : Number} {i j : Int}

theorem sortCompare_integers (left : m.integer? = some i) (right : n.integer? = some j) :
    (number m).sortCompare (number n) = compare i j := by
  rw [sortCompare, Number.compare?_integers left right, Option.getD_some]

theorem sortCompare_doubles (double : m.integer? = none ∨ n.integer? = none) :
    (number m).sortCompare (number n) = compare m.place n.place := by
  cases m <;> cases n
  case float.signed | float.unsigned | float.float | signed.float | unsigned.float =>
    exact Binary64.compare_sortRank _ _
  all_goals rcases double with absurd | absurd <;> cases absurd

theorem place_le_of_sortCompare (below : ((number m).sortCompare (number n)).isLE = true) :
    m.place ≤ n.place := by
  cases left : m.integer? with
  | none =>
    rw [sortCompare_doubles (Or.inl left)] at below
    exact Int.isLE_compare.mp below
  | some i =>
    cases right : n.integer? with
    | none =>
      rw [sortCompare_doubles (Or.inr right)] at below
      exact Int.isLE_compare.mp below
    | some j =>
      rw [sortCompare_integers left right] at below
      exact Number.place_mono left right (Int.isLE_compare.mp below)

end Numbers

/-! ### Three numbers -/

/-- A double between two integers that both round to it, the greater of them first. -/
inductive Blurred : Value → Value → Value → Prop where
  | mk {m n : Number} {i j : Int} {x : Binary64} (first : m.integer? = some i)
      (last : n.integer? = some j) (descending : j < i)
      (firstRounds : (Binary64.ofInt i).compare? x = some .eq)
      (lastRounds : (Binary64.ofInt j).compare? x = some .eq) :
      Blurred (number m) (number (.float x)) (number n)

theorem sortCompare_of_rounds {n : Number} {i : Int} {x : Binary64} (holds : n.integer? = some i)
    (rounds : (Binary64.ofInt i).compare? x = some .eq) :
    (number n).sortCompare (number (.float x)) = .eq := by
  rw [sortCompare, Number.compare?_double holds, rounds, Option.getD_some]

theorem Blurred.sortCompare {a b c : Value} (blurred : Blurred a b c) :
    a.sortCompare b = .eq ∧ b.sortCompare c = .eq ∧ a.sortCompare c = .gt := by
  obtain ⟨first, last, descending, firstRounds, lastRounds⟩ := blurred
  refine ⟨sortCompare_of_rounds first firstRounds, ?_, ?_⟩
  · rw [sortCompare_swap, sortCompare_of_rounds last lastRounds]
    rfl
  · rw [sortCompare_integers first last]
    exact Int.compare_eq_gt.mpr descending

theorem sortCompare_trans_of_numbers {a b c : Number}
    (hab : ((number a).sortCompare (number b)).isLE = true)
    (hbc : ((number b).sortCompare (number c)).isLE = true) :
    ((number a).sortCompare (number c)).isLE = true ∨ Blurred (number a) (number b) (number c) := by
  have before := place_le_of_sortCompare hab
  have after := place_le_of_sortCompare hbc
  cases first : a.integer? with
  | none =>
    rw [sortCompare_doubles (Or.inl first), Int.isLE_compare]
    exact Or.inl (Int.le_trans before after)
  | some i =>
    cases last : c.integer? with
    | none =>
      rw [sortCompare_doubles (Or.inr last), Int.isLE_compare]
      exact Or.inl (Int.le_trans before after)
    | some j =>
      rw [sortCompare_integers first last, Int.isLE_compare]
      rcases Int.lt_or_le j i with descending | ascending
      · right
        have below := Number.place_mono last first (Int.le_of_lt descending)
        cases b with
        | signed b =>
          rw [sortCompare_integers first rfl, Int.isLE_compare] at hab
          rw [sortCompare_integers rfl last, Int.isLE_compare] at hbc
          omega
        | unsigned b =>
          rw [sortCompare_integers first rfl, Int.isLE_compare] at hab
          rw [sortCompare_integers rfl last, Int.isLE_compare] at hbc
          omega
        | float x =>
          -- All three places are one: the double lies between the integers in both directions.
          have between : (Number.float x).place = x.sortRank := rfl
          refine ⟨first, last, descending, ?_, ?_⟩
          · apply Binary64.compare?_of_sortRank
            rw [← Number.place_of_integer first]
            omega
          · apply Binary64.compare?_of_sortRank
            rw [← Number.place_of_integer last]
            omega
      · exact Or.inl ascending

/-! ### Three values -/

/-- The date-time that a date or date-time is compared as. -/
def moment? : Value → Option DateTime
  | date d => some d.midnight
  | dateTime t => some t
  | _ => none

theorem compare_midnight (d e : Date) : d.midnight.compare e.midnight = d.compare e := by
  have same : TimeOfDay.midnight.compare .midnight = .eq := rfl
  rw [DateTime.compare, Date.midnight, Date.midnight, same, Ordering.then_eq]

theorem sortCompare_of_moments {a b : Value} {s t : DateTime} (left : a.moment? = some s)
    (right : b.moment? = some t) : a.sortCompare b = s.compare t := by
  cases a <;> cases left <;> cases b <;> cases right
  case date.refl.date.refl d e => exact (compare_midnight d e).symm
  all_goals rfl

theorem kindRank_le_of_sortCompare {a b : Value} (below : (a.sortCompare b).isLE = true) :
    a.kindRank ≤ b.kindRank := by
  rw [sortCompare_eq] at below
  split at below
  · omega
  · exact Nat.isLE_compare.mp below

theorem sortCompare_of_kindRank_lt {a b : Value} (lower : a.kindRank < b.kindRank) :
    (a.sortCompare b).isLE = true := by
  rw [sortCompare_eq, if_neg (Nat.ne_of_lt lower)]
  exact Nat.isLE_compare.mpr (Nat.le_of_lt lower)

/-- The values that share the kind of a value. -/
def SharesKind : Value → Value → Prop
  | null, v => v = null
  | bool _, v => ∃ b, v = bool b
  | char _, v => ∃ c, v = char c
  | number _, v => ∃ n, v = number n
  | string _, v => ∃ s, v = string s
  | date _, v | dateTime _, v => ∃ t, v.moment? = some t

theorem sharesKind_of_kindRank {a b : Value} (same : a.kindRank = b.kindRank) : a.SharesKind b := by
  cases a <;> cases b <;> cases same
  case null.null.refl => exact rfl
  all_goals exact ⟨_, rfl⟩

theorem sortCompare_trans_or_blurred {a b c : Value} (hab : (a.sortCompare b).isLE = true)
    (hbc : (b.sortCompare c).isLE = true) : (a.sortCompare c).isLE = true ∨ Blurred a b c := by
  have before := kindRank_le_of_sortCompare hab
  have after := kindRank_le_of_sortCompare hbc
  rcases Nat.lt_or_eq_of_le (Nat.le_trans before after) with apart | same
  · exact Or.inl (sortCompare_of_kindRank_lt apart)
  have second : a.SharesKind b := sharesKind_of_kindRank (by omega)
  have third : a.SharesKind c := sharesKind_of_kindRank same
  cases a
  case null =>
    cases third
    exact Or.inl rfl
  case date | dateTime =>
    obtain ⟨t, second⟩ := second
    obtain ⟨u, third⟩ := third
    rw [sortCompare_of_moments rfl second] at hab
    rw [sortCompare_of_moments second third] at hbc
    rw [sortCompare_of_moments rfl third]
    exact Or.inl ((inferInstance : TransCmp DateTime.compare).isLE_trans hab hbc)
  all_goals
    obtain ⟨b, rfl⟩ := second
    obtain ⟨c, rfl⟩ := third
  case number => exact sortCompare_trans_of_numbers hab hbc
  case bool => exact Or.inl (TransOrd.isLE_trans (α := Bool) hab hbc)
  case char => exact Or.inl (TransOrd.isLE_trans (α := Char) hab hbc)
  case string => exact Or.inl (TransOrd.isLE_trans (α := String) hab hbc)

theorem sortCompare_self (a : Value) : a.sortCompare a = .eq := by
  have reversed := sortCompare_swap a a
  cases same : a.sortCompare a with
  | eq => rfl
  | lt | gt =>
    rw [same] at reversed
    cases reversed

/-- The order of values is reflexive and reversed the other way round, and it is transitive but where
a double blurs two integers. -/
theorem sortCompare_preorder_unless_blurred (a b c : Value) :
    a.sortCompare a = .eq ∧ a.sortCompare b = (b.sortCompare a).swap ∧
    ((a.sortCompare b ≠ .gt → b.sortCompare c ≠ .gt → a.sortCompare c ≠ .gt) ↔ ¬Blurred a b c) := by
  refine ⟨sortCompare_self a, sortCompare_swap a b, ?_⟩
  simp only [← Ordering.isLE_iff_ne_gt]
  constructor
  · intro transitive blurred
    obtain ⟨first, second, third⟩ := blurred.sortCompare
    have below := transitive (by rw [first]; rfl) (by rw [second]; rfl)
    rw [third] at below
    cases below
  · intro sharp hab hbc
    exact (sortCompare_trans_or_blurred hab hbc).resolve_right sharp

/-- The double `2 ^ 53` is level with the integer of its value and with the next one, which are not
level with each other. -/
theorem sortCompare_not_transitive :
    ¬∀ a b c : Value, a.sortCompare b ≠ .gt → b.sortCompare c ≠ .gt → a.sortCompare c ≠ .gt := by
  intro transitive
  have blurred : Blurred (number (.signed 9007199254740993)) (number (.float (.ofInt 9007199254740992)))
      (number (.signed 9007199254740992)) :=
    ⟨rfl, rfl, by decide, by decide +kernel, by decide +kernel⟩
  obtain ⟨first, second, third⟩ := blurred.sortCompare
  exact transitive _ _ _ (by rw [first]; nofun) (by rw [second]; nofun) third

end Value

end EntityQuery
