import EntityQuery.Proofs.Query.Condition
import EntityQuery.Proofs.Record.Library

/-!
Membership in a list against equality with each of its values. A value is kept once, which makes no difference,
so a list holds where some of its values is equal. What the two accept differs in null alone: equality takes it
on every scalar and on no relation, membership wherever the field is nullable.
-/

namespace EntityQuery

open EntityQuery.Numeric

variable {ε : Type}

/-! ### Values that are the same -/

theorem Numeric.Binary64.compare?_of_level {x y : Binary64} (level : x.compare? y = some .eq)
    (z : Binary64) : z.compare? x = z.compare? y := by
  unfold compare? at level
  split at level
  · cases level
  · rename_i numbers
    have ranks : x.rank = y.rank := Int.compare_eq_eq.mp (Option.some.inj level)
    simp only [Bool.or_eq_true, not_or, Bool.not_eq_true] at numbers
    rw [compare?, compare?, numbers.1, numbers.2, ranks]

theorem Number.compare?_of_same {m n : Number} (same : m.same n = true) (a : Number) :
    a.compare? m = a.compare? n := by
  cases m <;> cases n
  case signed.signed | unsigned.unsigned => rw [eq_of_beq same]
  case float.float x y =>
    have level : x.compare? y = some .eq := eq_of_beq same
    cases a <;> exact Binary64.compare?_of_level level _
  all_goals cases same

theorem Value.equals_of_same {v w : Value} (same : v.same w = true) (a : Value) :
    a.equals v = a.equals w := by
  cases v
  case number m =>
    cases w
    case number n =>
      cases a
      case number a =>
        change (a.compare? m == some .eq) = (a.compare? n == some .eq)
        rw [Number.compare?_of_same same]
      all_goals rfl
    all_goals cases eq_of_beq same
  all_goals rw [eq_of_beq same]

/-! ### Values that are kept once -/

theorem any_insertNew {f : Value → Bool} {v : Value} (respects : ∀ w, v.same w = true → f v = f w)
    (kept : List Value) : (insertNew kept v).any f = (kept.any f || f v) := by
  unfold insertNew
  split
  · rename_i there
    obtain ⟨w, member, same⟩ := List.any_eq_true.mp there
    cases passes : f v with
    | false => rw [Bool.or_false]
    | true =>
      rw [Bool.or_true]
      exact List.any_eq_true.mpr ⟨w, member, respects w same ▸ passes⟩
  · rw [List.any_append, List.any_cons, List.any_nil, Bool.or_false]

theorem any_foldl_insertNew {f : Value → Bool} {values : List Value}
    (respects : ∀ v ∈ values, ∀ w, v.same w = true → f v = f w) (kept : List Value) :
    (values.foldl insertNew kept).any f = (kept.any f || values.any f) := by
  induction values generalizing kept with
  | nil => simp
  | cons v rest ih =>
    rw [List.forall_mem_cons] at respects
    rw [List.foldl_cons, ih respects.2, any_insertNew respects.1, List.any_cons, Bool.or_assoc]

theorem any_any_comm {α β : Type} (f : α → β → Bool) (as : List α) (bs : List β) :
    (as.any fun a => bs.any fun b => f a b) = bs.any fun b => as.any fun a => f a b := by
  rw [Bool.eq_iff_iff]
  simp only [List.any_eq_true]
  constructor
  · rintro ⟨a, left, b, right, passes⟩
    exact ⟨b, right, a, left, passes⟩
  · rintro ⟨b, right, a, left, passes⟩
    exact ⟨a, left, b, right, passes⟩

/-- A list asks of each of its values whether one that the path reaches equals it. -/
theorem Node.eval_member_kept (p : Path ε) (values : List Value) (ignoreCase : Bool) (r : Record ε) :
    (Node.member p (values.foldl insertNew []) ignoreCase).eval r =
      values.any fun v => (p.read r).any fun a => (if ignoreCase then a.foldCase else a).equals v := by
  rw [Node.eval, ← any_any_comm]
  refine congrArg (p.read r).any (funext fun a => ?_)
  exact any_foldl_insertNew (fun _ _ _ same => Value.equals_of_same same _) []

/-! ### What is accepted -/

theorem Comparison.supports_eq (type : FieldType ε) : Comparison.eq.supports type = !type.isRelation := by
  cases type <;> rfl

theorem Coercion.ofValue_null_ok_iff {config : Config} {field : Field ε} :
    (∃ w, ofValue config field .null = .ok w) ↔ field.nullable = true := by
  constructor
  · rintro ⟨w, converted⟩
    exact (ofValue_null_ok converted).1
  · exact fun nullable => ⟨.null, ofValue_of_nullable config nullable⟩

theorem Coercion.null_of_relation {config : Config} {field : Field ε} {v w : Value}
    (relation : field.type.isRelation = true) (converted : ofValue config field v = .ok w) : v = .null := by
  by_contra given
  have admitted := ofValue_admits given converted
  cases type : field.type
  case one | many =>
    rw [type] at admitted
    exact admitted
  all_goals
    rw [type] at relation
    cases relation

namespace Predicate

/-- The lists that one of the two accepts on account of null: membership takes nulls on a relation that is
nullable, and equality takes null on a scalar that is not. -/
inductive NullDecides (p : Path ε) (values : List Value) : Prop where
  | onRelation (relation : p.type.isRelation = true) (nullable : p.leaf.nullable = true)
      (nulls : ∀ v ∈ values, v = .null) : NullDecides p values
  | onScalar (scalar : p.type.isRelation = false) (required : p.leaf.nullable = false)
      (null : .null ∈ values) (others : ∀ v ∈ values, v ≠ .null → ∃ w, Coercion.ofValue {} p.leaf v = .ok w) :
      NullDecides p values

variable [Catalog ε] {entity : ε} {text : String} {p : Path ε} {v w : Value} {values : List Value}

theorem eq_of_relation (resolved : Path.resolve entity text = .ok p) (relation : p.type.isRelation = true)
    (v : Value) : compare entity text .eq v = .error (.invalidOperation "eq" p.type.name) := by
  have cannot : Comparison.eq.supports p.type = false := by rw [Comparison.supports_eq, relation, Bool.not_true]
  rw [Condition.compare_of_resolve resolved, Node.comparison_of_not_supported cannot]
  rfl

theorem eq_null_of_scalar (resolved : Path.resolve entity text = .ok p) (scalar : p.type.isRelation = false) :
    compare entity text .eq .null = .ok ⟨.compare p .eq .null⟩ := by
  have may : Comparison.eq.supports p.type = true := by rw [Comparison.supports_eq, scalar, Bool.not_false]
  rw [Condition.compare_of_resolve resolved, Node.comparison, may]
  rfl

theorem eq_of_scalar (resolved : Path.resolve entity text = .ok p) (scalar : p.type.isRelation = false)
    (given : v ≠ .null) : compare entity text .eq v =
      (Coercion.ofValue {} p.leaf v).map fun w => ⟨.compare p .eq w⟩ := by
  have may : Comparison.eq.supports p.type = true := by rw [Comparison.supports_eq, scalar, Bool.not_false]
  rw [Condition.compare_of_resolve resolved, Node.comparison_of_ne_null may given]
  cases Coercion.ofValue {} p.leaf v <;> rfl

theorem isIn_of_resolve (resolved : Path.resolve entity text = .ok p) (values : List Value) :
    isIn entity text values = (values.mapM (Coercion.ofValue {} p.leaf)).map fun values =>
      ⟨.member p (values.foldl insertNew []) false⟩ := by
  rw [isIn, resolved]
  rfl

theorem eq_of_converted {q : Predicate entity} (resolved : Path.resolve entity text = .ok p)
    (converted : Coercion.ofValue {} p.leaf v = .ok w) (built : compare entity text .eq v = .ok q) :
    q = ⟨.compare p .eq w⟩ := by
  obtain ⟨w', rfl, made⟩ := (Condition.compare_ok_iff resolved).mp built
  obtain ⟨-, _, ⟨rfl⟩, converted' | ⟨-, rfl, rfl⟩⟩ := Node.comparison_ok_iff.mp made
  · rw [Except.ok.inj (converted.symm.trans converted')]
  · rw [(Coercion.ofValue_null_ok converted).2]

theorem eq_ok_iff (resolved : Path.resolve entity text = .ok p) (scalar : p.type.isRelation = false) :
    (∃ q, compare entity text .eq v = .ok q) ↔ v = .null ∨ ∃ w, Coercion.ofValue {} p.leaf v = .ok w := by
  by_cases null : v = .null
  · subst null
    exact iff_of_true ⟨_, eq_null_of_scalar resolved scalar⟩ (Or.inl rfl)
  · rw [eq_of_scalar resolved scalar null, map_succeeds_iff, or_iff_right null]

theorem isIn_ok_iff (resolved : Path.resolve entity text = .ok p) :
    (∃ q, isIn entity text values = .ok q) ↔ ∀ v ∈ values, ∃ w, Coercion.ofValue {} p.leaf v = .ok w := by
  rw [isIn_of_resolve resolved, map_succeeds_iff, mapM_succeeds_iff]

/-! ### Where null decides -/

theorem isIn_of_relation (resolved : Path.resolve entity text = .ok p) (relation : p.type.isRelation = true)
    (some : values ≠ []) : (∃ q, isIn entity text values = .ok q) ↔ NullDecides p values := by
  rw [isIn_ok_iff resolved]
  constructor
  · intro converted
    have nulls : ∀ v ∈ values, v = .null := by
      intro v member
      obtain ⟨w, converted⟩ := converted v member
      exact Coercion.null_of_relation relation converted
    obtain ⟨v, member⟩ := List.exists_mem_of_ne_nil values some
    obtain ⟨w, converted⟩ := converted v member
    rw [nulls v member] at converted
    exact .onRelation relation (Coercion.ofValue_null_ok converted).1 nulls
  · intro decides
    cases decides with
    | onRelation _ nullable nulls =>
      intro v member
      rw [nulls v member]
      exact Coercion.ofValue_null_ok_iff.mpr nullable
    | onScalar scalar => cases relation.symm.trans scalar

theorem each_eq_of_isIn (resolved : Path.resolve entity text = .ok p) (scalar : p.type.isRelation = false)
    (accepted : ∃ q, isIn entity text values = .ok q) : ∀ v ∈ values, ∃ q, compare entity text .eq v = .ok q := by
  intro v member
  exact (eq_ok_iff resolved scalar).mpr (Or.inr ((isIn_ok_iff resolved).mp accepted v member))

theorem NullDecides.each_eq (decides : NullDecides p values) (resolved : Path.resolve entity text = .ok p)
    (scalar : p.type.isRelation = false) : ∀ v ∈ values, ∃ q, compare entity text .eq v = .ok q := by
  cases decides with
  | onRelation relation => cases relation.symm.trans scalar
  | onScalar _ _ _ others =>
    intro v member
    exact (eq_ok_iff resolved scalar).mpr (or_iff_not_imp_left.mpr (others v member))

theorem isIn_refused_of_scalar (resolved : Path.resolve entity text = .ok p) (scalar : p.type.isRelation = false)
    (each : ∀ v ∈ values, ∃ q, compare entity text .eq v = .ok q) :
    (¬ ∃ q, isIn entity text values = .ok q) ↔ NullDecides p values := by
  simp only [eq_ok_iff resolved scalar] at each
  rw [isIn_ok_iff resolved]
  constructor
  · intro refused
    simp only [not_forall] at refused
    obtain ⟨v, member, failed⟩ := refused
    have null : v = .null := (each v member).resolve_right failed
    -- equality took the value that failed, so it is null and the field is not nullable
    subst null
    refine .onScalar scalar ?_ member fun v member given => (each v member).resolve_left given
    rw [← Bool.not_eq_true]
    exact fun nullable => failed (Coercion.ofValue_null_ok_iff.mpr nullable)
  · intro decides accepted
    cases decides with
    | onRelation relation => cases relation.symm.trans scalar
    | onScalar _ required null =>
      have nullable := Coercion.ofValue_null_ok_iff.mp (accepted .null null)
      cases required.symm.trans nullable

/-- Membership and equality with each value accept the same lists, unless null decides. On every record
membership then holds exactly where equality with some of the values does. -/
theorem isIn_iff_eq (resolved : Path.resolve entity text = .ok p) (some : values ≠ []) :
    (((∃ q, isIn entity text values = .ok q) ↔ ∀ v ∈ values, ∃ q, compare entity text .eq v = .ok q) ↔
      ¬ NullDecides p values) ∧
    ∀ (whole : Predicate entity) (single : Value → Predicate entity), isIn entity text values = .ok whole →
      (∀ v ∈ values, compare entity text .eq v = .ok (single v)) →
      ∀ r, whole.holds r = values.any fun v => (single v).holds r := by
  constructor
  · cases relation : p.type.isRelation with
    | true =>
      have none : ¬ ∀ v ∈ values, ∃ q, compare entity text .eq v = .ok q := by
        intro each
        obtain ⟨v, member⟩ := List.exists_mem_of_ne_nil values some
        obtain ⟨q, built⟩ := each v member
        cases (eq_of_relation resolved relation v).symm.trans built
      rw [iff_false_right none, isIn_of_relation resolved relation some]
    | false =>
      by_cases each : ∀ v ∈ values, ∃ q, compare entity text .eq v = .ok q
      · rw [iff_true_right each]
        exact (not_iff_comm.mp (isIn_refused_of_scalar resolved relation each)).symm
      · -- equality with some value is refused, for which the list is refused as well
        refine iff_of_true (iff_of_false ?_ each) fun decides => each (decides.each_eq resolved relation)
        exact fun accepted => each (each_eq_of_isIn resolved relation accepted)
  · intro whole single built each r
    rw [isIn_of_resolve resolved] at built
    obtain ⟨ws, converted, rfl⟩ := map_ok built
    refine (Node.eval_member_kept p ws false r).trans (any_of_mapM (fun v member w converted => ?_) converted)
    rw [eq_of_converted resolved converted (each v member)]
    rfl

end Predicate

namespace Library

def annOrB : List Value :=
  [.string "Ann", .char 'B', .string "Ann"]

def byAnnOrB : Predicate book :=
  ⟨.member nameOfAuthor [.string "Ann", .string "B"] false⟩

/-- A name of one letter may be given as a character, and a name may be given twice. -/
theorem books_by_ann_or_b :
    Path.resolve book "author.name" = .ok nameOfAuthor ∧
    Predicate.isIn book "author.name" annOrB = .ok byAnnOrB ∧ ¬ Predicate.NullDecides nameOfAuthor annOrB ∧
    byAnnOrB.holds (newBookBy "Emma" 120 (newAuthor 1 "B" (.ofInt 4) [])) = true := by
  have resolved : Path.resolve book "author.name" = .ok nameOfAuthor := rfl
  have nonempty : annOrB ≠ [] := nofun
  have accepted : Predicate.isIn book "author.name" annOrB = .ok byAnnOrB := rfl
  let single (v : Value) : Predicate book :=
    (Predicate.compare book "author.name" .eq v).toOption.getD .never
  have each : ∀ v ∈ annOrB, Predicate.compare book "author.name" .eq v = .ok (single v) := by
    simp only [annOrB, List.forall_mem_cons]
    exact ⟨rfl, rfl, rfl, List.forall_mem_nil _⟩
  have found : (single (.char 'B')).holds (newBookBy "Emma" 120 (newAuthor 1 "B" (.ofInt 4) [])) = true := rfl
  obtain ⟨agree, holds⟩ := Predicate.isIn_iff_eq resolved nonempty
  refine ⟨resolved, accepted, ?_, ?_⟩
  · exact agree.mp (iff_of_true ⟨_, accepted⟩ fun v member => ⟨_, each v member⟩)
  · rw [holds byAnnOrB single accepted each]
    exact List.any_eq_true.mpr ⟨.char 'B', by decide, found⟩

/-- The first book has no author, so that the name is null. The second one has an author, who reads as null. -/
theorem null_among_authors :
    (∃ q : Predicate book, Predicate.compare book "author.name" .eq .null = .ok q ∧
      q.holds (newBook "Emma" 120) = true) ∧
    Predicate.isIn book "author.name" [.null] = .error (.notConvertible "null" "string") ∧
    (∃ q : Predicate book, Predicate.isIn book "author" [.null] = .ok q ∧
      q.holds (newBookBy "Dune" 412 (newAuthor 1 "Ann" (.ofInt 4) [])) = true) ∧
    Predicate.compare book "author" .eq .null = .error (.invalidOperation "eq" "relation") :=
  ⟨⟨_, rfl, rfl⟩, rfl, ⟨_, rfl, rfl⟩, rfl⟩

end Library

end EntityQuery
