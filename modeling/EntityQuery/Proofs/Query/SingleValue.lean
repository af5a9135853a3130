import EntityQuery.Proofs.Query.Range

/-!
Comparisons on a path that crosses no collection. Such a path reaches one value of a record, so that what holds of the
comparisons of two values holds of the conditions: inequality is the negation of equality, and of two values that have
a place in their type one is below the other, level with it or above it.
-/

namespace EntityQuery

variable {ε : Type}

/-! ### Two values -/

namespace Value

theorem compare?_isSome_iff {type : FieldType ε} {v w : Value} (left : type.Shows v) (right : type.Shows w) :
    (v.compare? w).isSome ↔ v.Placed ∧ w.Placed := by
  constructor
  · intro compares
    have turned : (w.compare? v).isSome := by rwa [compare?_swap, Option.isSome_map]
    exact ⟨placed_of_compares compares, placed_of_compares turned⟩
  · rintro ⟨placed, placed'⟩
    exact compare?_isSome_of_placed (left.resolve_left placed.1) (right.resolve_left placed'.1) placed placed'

end Value

namespace Comparison

variable {op op' : Comparison} {v w : Value}

/-- Of two values that compare the first is below the other, level with it or above it, and no two of these. -/
theorem eval_trichotomy (compares : (v.compare? w).isSome) :
    [lt, eq, gt].countP (·.eval v w) = 1 ∧ gte.eval v w = !lt.eval v w ∧ lte.eval v w = !gt.eval v w := by
  obtain ⟨o, compares⟩ := Option.isSome_iff_exists.mp compares
  have each : ∀ op : Comparison, op.isTextual = false → op.eval v w = op.holdsOn o :=
    fun op plain => eval_of_compares plain compares
  simp only [List.countP_cons, List.countP_nil, each lt rfl, each eq rfl, each gt rfl, each gte rfl, each lte rfl]
  cases o <;> decide

theorem eval_of_not_compares (ordering : op.isOrdering = true) (apart : ¬(v.compare? w).isSome) :
    op.eval v w = false :=
  Bool.eq_false_iff.mpr fun holds => apart (compares_of_eval ordering holds)

theorem supports_of_ordering {type : FieldType ε} (ordering : op.isOrdering = true)
    (suits : op.supports type = true) (plain : op'.isTextual = false) : op'.supports type = true := by
  cases type
  case one | many => cases suits
  case string => rfl
  case bool =>
    rw [supports, ordering] at suits
    cases suits
  all_goals exact congrArg (! ·) plain

end Comparison

/-! ### One value against a literal -/

namespace Node

variable {config : Config} {path : Path ε} {op op' : Comparison} {v w : Value}

theorem comparison_eq_iff_ne :
    comparison config path .eq v = .ok (compare path .eq w) ↔
      comparison config path .ne v = .ok (compare path .ne w) := by
  have alike : Comparison.eq.supports path.type = Comparison.ne.supports path.type := by
    cases path.type <;> rfl
  simp only [comparison_ok_iff, alike, compare.injEq, true_and, exists_eq_left', true_or, or_true]

/-- A value that one ordering accepts is converted, and the other orderings and equality take it so as well. -/
theorem comparison_of_ordering {node : Node ε} (ordering : op.isOrdering = true)
    (built : comparison config path op v = .ok node) :
    ∃ w, Coercion.ofValue config path.leaf v = .ok w ∧
      ∀ op', op'.isTextual = false → comparison config path op' v = .ok (compare path op' w) := by
  obtain ⟨suits, w, -, converted | ⟨rfl | rfl, -⟩⟩ := comparison_ok_iff.mp built
  · refine ⟨w, converted, fun op' plain => ?_⟩
    exact comparison_ok_iff.mpr
      ⟨Comparison.supports_of_ordering ordering suits plain, w, rfl, Or.inl converted⟩
  all_goals cases ordering

end Node

namespace Predicate

section Single

variable {entity : ε} {p : Path ε} {r : Record ε} {a : Value}

theorem holds_of_read (read : p.read r = [a]) (op : Comparison) (w : Value) :
    (⟨.compare p op w⟩ : Predicate entity).holds r = op.eval a w := by
  rw [holds, Node.eval, read, List.any_cons, List.any_nil, Bool.or_false]

/-- A path that crosses no collection reads one value of every record of its entity. Inequality then
accepts what equality accepts and is its negation. A value that some ordering accepts is converted to
one literal for all of them and for equality. If that and the value read have a place in their type,
just one of below, level and above holds, and the other two orderings are negations; if not, no ordering
holds. -/
theorem compare_of_single [LayoutCatalog ε] {text : String} (resolved : Path.resolve entity text = .ok p)
    (single : p.crossesCollection = false) (fits : Record.Fits entity r) :
    ∃ a, p.read r = [a] ∧ ∀ v,
      ((∃ q, compare entity text .ne v = .ok q) ↔ ∃ q, compare entity text .eq v = .ok q) ∧
      (∀ equal unequal, compare entity text .eq v = .ok equal → compare entity text .ne v = .ok unequal →
        unequal.holds r = !equal.holds r) ∧
      ∀ op accepted, op.isOrdering = true → compare entity text op v = .ok accepted →
        ∃ (w : Value) (q : Comparison → Predicate entity), Coercion.ofValue {} p.leaf v = .ok w ∧
          (∀ op, op.isTextual = false → compare entity text op v = .ok (q op)) ∧
          (a.Placed ∧ w.Placed →
            [.lt, .eq, .gt].countP (fun op => (q op).holds r) = 1 ∧
              (q .gte).holds r = !(q .lt).holds r ∧ (q .lte).holds r = !(q .gt).holds r) ∧
          (¬(a.Placed ∧ w.Placed) → ∀ op, op.isOrdering = true → (q op).holds r = false) := by
  obtain ⟨owner, reaches⟩ := Path.resolve_reaches resolved
  obtain ⟨a, read⟩ := Path.readAlong_single reaches.leads single fits
  have shown : p.type.Shows a :=
    Path.readAlong_shows reaches.leads reaches.leaf fits a (read ▸ List.mem_cons_self)
  refine ⟨a, read, fun v => ⟨?_, ?_, ?_⟩⟩
  · simp only [Condition.compare_ok_iff resolved]
    constructor
    · rintro ⟨_, w, rfl, built⟩
      exact ⟨_, w, rfl, Node.comparison_eq_iff_ne.mpr built⟩
    · rintro ⟨_, w, rfl, built⟩
      exact ⟨_, w, rfl, Node.comparison_eq_iff_ne.mp built⟩
  · intro equal unequal level other
    obtain ⟨w, rfl, built⟩ := (Condition.compare_ok_iff resolved).mp level
    obtain ⟨w', rfl, built'⟩ := (Condition.compare_ok_iff resolved).mp other
    cases (Node.comparison_eq_iff_ne.mp built).symm.trans built'
    rw [holds_of_read read, holds_of_read read]
    rfl
  · intro op accepted ordering built
    obtain ⟨_, -, built⟩ := (Condition.compare_ok_iff resolved).mp built
    obtain ⟨w, converted, built⟩ := Node.comparison_of_ordering ordering built
    have compares := Value.compare?_isSome_iff shown (Coercion.ofValue_shows converted)
    refine ⟨w, fun op => ⟨.compare p op w⟩, converted, ?_, ?_, ?_⟩
    · exact fun op plain => (Condition.compare_ok_iff resolved).mpr ⟨w, rfl, built op plain⟩
    · intro placed
      simp only [holds_of_read read]
      exact Comparison.eval_trichotomy (compares.mpr placed)
    · intro apart op ordering
      rw [holds_of_read read]
      exact Comparison.eval_of_not_compares ordering fun found => apart (compares.mp found)

end Single

end Predicate

namespace Library

def emmaByAnn : Record Library :=
  newBookBy "Emma" 120 (newAuthor 1 "Ann" (.ofInt 4) [])

def authorToBob (op : Comparison) : Predicate book :=
  ⟨.compare nameOfAuthor op (.string "Bob")⟩

/-- Ann comes before Bob. Where the author is not known, no name is before, level with or after his. -/
theorem author_before_bob :
    Path.resolve book "author.name" = .ok nameOfAuthor ∧ nameOfAuthor.crossesCollection = false ∧
    Record.Fits book emmaByAnn ∧ Record.Fits book (newBook "Emma" 120) ∧
    (∀ op, Predicate.compare book "author.name" op (.string "Bob") = .ok (authorToBob op)) ∧
    (authorToBob .lte).holds emmaByAnn = true ∧ (authorToBob .lte).holds (newBook "Emma" 120) = false := by
  have resolved : Path.resolve book "author.name" = .ok nameOfAuthor := rfl
  have known : Record.Fits book emmaByAnn := newBookBy_fits _ _ (newAuthor_fits _ _ _ nofun)
  have unknown : Record.Fits book (newBook "Emma" 120) := newBook_fits _ _
  have compared : ∀ op, Predicate.compare book "author.name" op (.string "Bob") = .ok (authorToBob op) := by
    intro op
    cases op <;> rfl
  refine ⟨resolved, rfl, known, unknown, compared, ?_, ?_⟩
  · obtain ⟨a, read, ranks⟩ := Predicate.compare_of_single resolved rfl known
    obtain ⟨w, q, converted, built, ranked, -⟩ := (ranks (.string "Bob")).2.2 .lt _ rfl (compared .lt)
    cases read
    cases converted
    obtain ⟨-, -, above⟩ := ranked ⟨⟨nofun, nofun⟩, nofun, nofun⟩
    rw [Except.ok.inj ((compared .lte).symm.trans (built .lte rfl)), above,
      ← Except.ok.inj ((compared .gt).symm.trans (built .gt rfl))]
    rfl
  · obtain ⟨a, read, ranks⟩ := Predicate.compare_of_single resolved rfl unknown
    obtain ⟨w, q, -, built, -, unranked⟩ := (ranks (.string "Bob")).2.2 .lt _ rfl (compared .lt)
    cases read
    rw [Except.ok.inj ((compared .lte).symm.trans (built .lte rfl))]
    exact unranked (fun placed => placed.1.1 rfl) .lte rfl

end Library

end EntityQuery
