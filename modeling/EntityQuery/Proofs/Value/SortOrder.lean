import EntityQuery.Proofs.Record.Conformance
import EntityQuery.Value.Order

/-!
The order of values for sorting. Between any two values it is the reverse of itself the other way
round; among the values of one type and null it is transitive.
-/

namespace EntityQuery

open EntityQuery.Calendar EntityQuery.Numeric Std

theorem transCmp_comap {α β : Type} (cmp : β → β → Ordering) [TransCmp cmp] (f : α → β) :
    TransCmp fun a b => cmp (f a) (f b) where
  eq_swap := OrientedCmp.eq_swap
  isLE_trans := TransCmp.isLE_trans

/-! ### Dates -/

instance : TransCmp Date.compare :=
  inferInstanceAs (TransCmp (compareLex (compareOn Date.year)
    (compareLex (compareOn Date.month) (compareOn Date.day))))

instance : TransCmp TimeOfDay.compare :=
  inferInstanceAs (TransCmp (compareLex (compareOn TimeOfDay.hour)
    (compareLex (compareOn TimeOfDay.minute)
      (compareLex (compareOn TimeOfDay.second) (compareOn TimeOfDay.nano)))))

instance : TransCmp DateTime.compare :=
  have : TransCmp fun a b : DateTime => a.date.compare b.date := transCmp_comap Date.compare DateTime.date
  have : TransCmp fun a b : DateTime => a.time.compare b.time := transCmp_comap TimeOfDay.compare DateTime.time
  inferInstanceAs (TransCmp (compareLex (fun a b : DateTime => a.date.compare b.date)
    (fun a b : DateTime => a.time.compare b.time)))

/-! ### Doubles -/

namespace Numeric.Binary64

def sortRank (x : Binary64) : Int :=
  if x.isNaN then x.totalRank else x.rank

theorem rank_bounds {x : Binary64} (number : x.isNaN = false) :
    -(binary64.infinity : Int) ≤ x.rank ∧ x.rank ≤ binary64.infinity := by
  simp only [isNaN, decide_eq_false_iff_not, Nat.not_lt] at number
  unfold rank
  split <;> omega

theorem totalRank_bounds {x : Binary64} (number : x.isNaN = false) :
    -(binary64.infinity : Int) - 1 ≤ x.totalRank ∧ x.totalRank ≤ binary64.infinity := by
  simp only [isNaN, decide_eq_false_iff_not, Nat.not_lt] at number
  unfold totalRank
  split <;> omega

/-- What is not a number lies beyond the infinities on either side. -/
theorem totalRank_of_isNaN {x : Binary64} (nan : x.isNaN = true) :
    x.totalRank < -(binary64.infinity : Int) - 1 ∨ binary64.infinity < x.totalRank := by
  simp only [isNaN, decide_eq_true_eq] at nan
  unfold totalRank
  split <;> omega

theorem compare_eq_of_lt_iff {a b c d : Int} (lt : a < b ↔ c < d) (gt : b < a ↔ d < c) :
    compare a b = compare c d := by
  rcases Int.lt_trichotomy a b with below | same | above
  · rw [Int.compare_eq_lt.mpr below, Int.compare_eq_lt.mpr (lt.mp below)]
  · have level : c = d := by omega
    rw [Int.compare_eq_eq.mpr same, Int.compare_eq_eq.mpr level]
  · rw [Int.compare_eq_gt.mpr above, Int.compare_eq_gt.mpr (gt.mp above)]

theorem compare_sortRank (x y : Binary64) :
    (x.compare? y).getD (x.totalCompare y) = compare x.sortRank y.sortRank := by
  unfold compare? totalCompare sortRank
  cases hx : x.isNaN <;> cases hy : y.isNaN <;> simp only [Bool.or_false, Bool.or_true, if_true,
    Bool.false_eq_true, if_false, Option.getD_some, Option.getD_none]
  case false.true =>
    have far := totalRank_of_isNaN hy
    have near := rank_bounds hx
    have total := totalRank_bounds hx
    exact compare_eq_of_lt_iff (by omega) (by omega)
  case true.false =>
    have far := totalRank_of_isNaN hx
    have near := rank_bounds hy
    have total := totalRank_bounds hy
    exact compare_eq_of_lt_iff (by omega) (by omega)

theorem compare?_swap (x y : Binary64) : x.compare? y = (y.compare? x).map Ordering.swap := by
  unfold compare?
  rw [Bool.or_comm]
  split
  · rfl
  · rw [Option.map_some, ← OrientedOrd.eq_swap]

end Numeric.Binary64

/-! ### All values -/

theorem Number.compare?_swap (a b : Number) : a.compare? b = (b.compare? a).map Ordering.swap := by
  cases a <;> cases b <;> simp only [Number.compare?, Option.map_some, Option.some.injEq]
  all_goals first
    | exact OrientedOrd.eq_swap
    | exact Binary64.compare?_swap _ _

namespace Value

theorem compare?_swap (a b : Value) : a.compare? b = (b.compare? a).map Ordering.swap := by
  cases a <;> cases b <;> simp only [compare?, Option.map_none, Option.map_some, Option.map_map,
    Option.some.injEq]
  case number.number => exact Number.compare?_swap _ _
  case char.string c s => exact congrArg (Option.map · _) (funext fun d => OrientedOrd.eq_swap)
  case string.char s c => exact congrArg (Option.map · _) (funext fun d => OrientedOrd.eq_swap)
  all_goals first
    | exact OrientedOrd.eq_swap
    | exact (inferInstance : OrientedCmp Date.compare).eq_swap
    | exact (inferInstance : OrientedCmp DateTime.compare).eq_swap

/-- The order of two values of one kind that do not compare. -/
def breakTie : Value → Value → Ordering
  | number x, number y => x.toBinary64.totalCompare y.toBinary64
  | _, _ => .eq

theorem breakTie_swap (a b : Value) : a.breakTie b = (b.breakTie a).swap := by
  cases a <;> cases b
  case number.number x y => exact OrientedOrd.eq_swap
  all_goals rfl

theorem sortCompare_eq (a b : Value) :
    a.sortCompare b = if a.kindRank = b.kindRank then (a.compare? b).getD (a.breakTie b)
      else compare a.kindRank b.kindRank := by
  cases a <;> cases b <;> rfl

theorem sortCompare_swap (a b : Value) : a.sortCompare b = (b.sortCompare a).swap := by
  rw [sortCompare_eq a b, sortCompare_eq b a, compare?_swap a b, breakTie_swap a b]
  split
  · rename_i same
    rw [if_pos same.symm]
    cases b.compare? a <;> rfl
  · rename_i different
    rw [if_neg (Ne.symm different)]
    exact OrientedOrd.eq_swap

/-! ### Values of one type -/

theorem sortCompare_null (a : Value) : (a.sortCompare .null).isLE = true := by
  cases a <;> rfl

theorem eq_null_of_sortCompare {a : Value} (above : (Value.null.sortCompare a).isLE = true) :
    a = .null := by
  cases a <;> first | rfl | cases above

variable {ε : Type} {type : FieldType ε} {a b c : Value}

theorem sortCompare_trans_of_admits (ha : type.Admits a) (hb : type.Admits b) (hc : type.Admits c)
    (hab : (a.sortCompare b).isLE = true) (hbc : (b.sortCompare c).isLE = true) :
    (a.sortCompare c).isLE = true := by
  cases type
  case one | many => exact ha.elim
  all_goals
    obtain ⟨a, rfl⟩ := ha
    obtain ⟨b, rfl⟩ := hb
    obtain ⟨c, rfl⟩ := hc
  case string => exact TransOrd.isLE_trans (α := String) hab hbc
  case char => exact TransOrd.isLE_trans (α := Char) hab hbc
  case bool => exact TransOrd.isLE_trans (α := Bool) hab hbc
  case int => exact TransOrd.isLE_trans (α := Int) hab hbc
  case uint => exact TransOrd.isLE_trans (α := Nat) hab hbc
  case date => exact (inferInstance : TransCmp Date.compare).isLE_trans hab hbc
  case dateTime => exact (inferInstance : TransCmp DateTime.compare).isLE_trans hab hbc
  case float =>
    simp only [sortCompare, Number.compare?, Number.toBinary64, Binary64.compare_sortRank] at hab hbc ⊢
    exact TransOrd.isLE_trans hab hbc

theorem sortCompare_trans (ha : type.Shows a) (hb : type.Shows b) (hc : type.Shows c)
    (hab : (a.sortCompare b).isLE = true) (hbc : (b.sortCompare c).isLE = true) :
    (a.sortCompare c).isLE = true := by
  rcases hc with rfl | hc
  · exact sortCompare_null a
  · rcases hb with rfl | hb
    · rw [eq_null_of_sortCompare hbc]
      exact sortCompare_null a
    · rcases ha with rfl | ha
      · rw [eq_null_of_sortCompare hab] at hbc
        exact hbc
      · exact sortCompare_trans_of_admits ha hb hc hab hbc

/-- The values that a path of one type may read are in a total preorder. -/
instance sortCompare_transCmp (type : FieldType ε) :
    TransCmp fun a b : { v : Value // type.Shows v } => a.1.sortCompare b.1 where
  eq_swap := sortCompare_swap _ _
  isLE_trans {a b c} := sortCompare_trans a.2 b.2 c.2

end Value

end EntityQuery
