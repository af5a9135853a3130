import EntityQuery.Proofs.Query.SingleValue

/-!
Comparisons of two values of any kinds, one way and the other. Main statement: the comparisons agree with one
another, and each of them with its reverse.
-/

namespace EntityQuery

/-! ### Order and equality -/

namespace Value

variable {v w : Value}

def IsNaN (v : Value) : Prop :=
  ∃ x, v = number (.float x) ∧ x.isNaN = true

theorem placed_iff : v.Placed ↔ v ≠ null ∧ ¬v.IsNaN := by
  simp only [Placed, IsNaN, not_exists, not_and, Bool.not_eq_true]

theorem equals_iff : v.equals w = true ↔ v = null ∧ w = null ∨ v.compare? w = some .eq := by
  cases v with
  | null =>
    rw [compare?_null]
    cases w <;> simp [equals, compare?_null]
  | _ => simp [equals]

theorem equals_comm (v w : Value) : v.equals w = w.equals v := by
  rw [← Bool.coe_iff_coe, equals_iff, equals_iff, compare?_swap v w, and_comm]
  cases w.compare? v with
  | none => simp
  | some o => cases o <;> simp

theorem compare?_self (placed : v.Placed) : v.compare? v = some .eq := by
  have compares : (v.compare? v).isSome := by
    cases v with
    | null => exact absurd rfl placed.1
    | number n =>
      cases n with
      | float x =>
        change (x.compare? x).isSome
        rw [Numeric.Binary64.compare?, placed.2 x rfl]
        rfl
      | _ => rfl
    | _ => rfl
  obtain ⟨o, compares⟩ := Option.isSome_iff_exists.mp compares
  have reversed := compare?_swap v v
  rw [compares] at reversed ⊢
  cases o with
  | eq => rfl
  | lt | gt => cases reversed

theorem equals_self_iff : v.equals v = true ↔ ¬v.IsNaN := by
  rw [equals_iff, and_self]
  constructor
  · rintro (null | level) ⟨x, rfl, nan⟩
    · cases null
    · rw [compare?_of_isNaN nan] at level
      cases level
  · intro number
    by_cases null : v = .null
    · exact Or.inl null
    · exact Or.inr (compare?_self (placed_iff.mpr ⟨null, number⟩))

end Value

/-! ### Comparisons -/

namespace Comparison

variable {op : Comparison} {v w : Value}

/-- The comparison that holds of two values where this one holds of them the other way round. -/
def converse : Comparison → Comparison
  | gt => lt
  | gte => lte
  | lt => gt
  | lte => gte
  | op => op

theorem isTextual_converse (op : Comparison) : op.converse.isTextual = op.isTextual := by
  cases op <;> rfl

theorem holdsOn_converse (op : Comparison) (o : Ordering) : op.converse.holdsOn o.swap = op.holdsOn o := by
  cases op <;> cases o <;> rfl

theorem eval_converse (plain : op.isTextual = false) (v w : Value) : op.eval v w = op.converse.eval w v := by
  have turned := Value.compare?_swap w v
  cases compares : v.compare? w with
  | some o =>
    rw [compares] at turned
    rw [eval_of_compares plain compares, eval_of_compares ((isTextual_converse op).trans plain) turned,
      holdsOn_converse]
  | none =>
    have apart : ¬(v.compare? w).isSome := by simp [compares]
    have apart' : ¬(w.compare? v).isSome := by simp [turned, compares]
    cases op with
    | eq => exact Value.equals_comm v w
    | ne => exact congrArg (! ·) (Value.equals_comm v w)
    | eqIgnoringCase | contains | containsIgnoringCase => cases plain
    | _ => rw [eval_of_not_compares rfl apart, eval_of_not_compares rfl apart']

theorem eval_eq_iff_of_not_compares (apart : ¬(v.compare? w).isSome) :
    eq.eval v w = true ↔ v = .null ∧ w = .null := by
  refine Value.equals_iff.trans (or_iff_left fun level => apart ?_)
  rw [level]
  rfl

theorem countP_eval_le_one (v w : Value) : [lt, eq, gt].countP (·.eval v w) ≤ 1 := by
  by_cases compares : (v.compare? w).isSome
  · exact Nat.le_of_eq (eval_trichotomy compares).1
  · have below : lt.eval v w = false := eval_of_not_compares rfl compares
    have above : gt.eval v w = false := eval_of_not_compares rfl compares
    have alone : [lt, eq, gt].countP (·.eval v w) = [eq].countP (·.eval v w) := by
      simp only [List.countP_cons, List.countP_nil, below, above, Bool.false_eq_true, if_false, Nat.add_zero]
    rw [alone]
    exact List.countP_le_length

theorem gte_iff_gt_or_eq :
    gte.eval v w = true ↔ gt.eval v w = true ∨ eq.eval v w = true ∧ v ≠ .null ∧ w ≠ .null := by
  cases compares : v.compare? w with
  | some o =>
    have placed := Value.placed_of_compares (Option.isSome_iff_exists.mpr ⟨o, compares⟩)
    have turned : (w.compare? v).isSome := by simp [Value.compare?_swap w v, compares]
    rw [and_iff_left ⟨placed.1, (Value.placed_of_compares turned).1⟩, eval_of_compares rfl compares,
      eval_of_compares rfl compares, eval_of_compares rfl compares]
    cases o <;> decide
  | none =>
    have apart : ¬(v.compare? w).isSome := by simp [compares]
    rw [eval_of_not_compares rfl apart, eval_of_not_compares rfl apart, eval_eq_iff_of_not_compares apart]
    simp only [Bool.false_eq_true, false_or, false_iff]
    exact fun both => both.2.1 both.1.1

/-- The order of two values is the reverse of their order the other way round. Equality holds both ways or not at all,
and of every value with itself but what is not a number; inequality is its negation. At most one of below, equal and
above holds. Below is above the other way round, with equality or without, and above or equal means what it says
except that null is not above or equal to null. -/
theorem eval_coherent (a b : Value) :
    a.compare? b = (b.compare? a).map Ordering.swap ∧
    (a.equals b = b.equals a ∧ (a.equals a = true ↔ ¬a.IsNaN)) ∧
    eq.eval a b = a.equals b ∧ ne.eval a b = !eq.eval a b ∧
    [lt, eq, gt].countP (·.eval a b) ≤ 1 ∧
    (lt.eval a b = gt.eval b a ∧ lte.eval a b = gte.eval b a) ∧
    (gte.eval a b = true ↔ gt.eval a b = true ∨ eq.eval a b = true ∧ a ≠ .null ∧ b ≠ .null) := by
  refine ⟨Value.compare?_swap a b, ⟨Value.equals_comm a b, Value.equals_self_iff⟩, rfl, rfl,
    countP_eval_le_one a b, ⟨?_, ?_⟩, gte_iff_gt_or_eq⟩
  · exact eval_converse (rfl : lt.isTextual = false) a b
  · exact eval_converse (rfl : lte.isTextual = false) a b

end Comparison

end EntityQuery
