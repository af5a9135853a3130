import EntityQuery.Proofs.Path.Resolution
import EntityQuery.Proofs.Query.Condition
import EntityQuery.Proofs.Query.Joining
import EntityQuery.Proofs.Value.SortOrder

/-!
Ranges. A range is the conjunction of two bounds, and each of them asks for some value that the path
reaches. So a path that reaches several values can satisfy a range between them.
-/

namespace EntityQuery

variable {ε : Type}

/-! ### Bounds -/

theorem Comparison.eval_iff_of_isOrdering {op : Comparison} (ordering : op.isOrdering = true)
    {v w : Value} : op.eval v w = true ↔ ∃ o, v.compare? w = some o ∧ op.holdsOn o = true := by
  have opened : op.eval v w = ((v.compare? w).map op.holdsOn).getD false := by
    cases op <;> first | rfl | cases ordering
  rw [opened]
  cases v.compare? w <;> simp

theorem Comparison.compares_of_eval {op : Comparison} (ordering : op.isOrdering = true) {v w : Value}
    (holds : op.eval v w = true) : (v.compare? w).isSome := by
  obtain ⟨o, compares, -⟩ := (eval_iff_of_isOrdering ordering).mp holds
  rw [compares]
  rfl

namespace Value

theorem compare?_null (w : Value) : null.compare? w = none := by
  cases w <;> rfl

theorem equals_of_compares {v w : Value} {o : Ordering} (compares : v.compare? w = some o) :
    v.equals w = (o == .eq) := by
  have opened : v.equals w = (v.compare? w == some .eq) := by
    cases v with
    | null => cases (compare?_null w).symm.trans compares
    | _ => rfl
  rw [opened, compares]
  cases o <;> rfl

theorem compare?_of_isNaN {x : Numeric.Binary64} (nan : x.isNaN = true) (w : Value) :
    (number (.float x)).compare? w = none := by
  have apart : ∀ y : Numeric.Binary64, x.compare? y = none := fun y => by
    rw [Numeric.Binary64.compare?, nan, Bool.true_or, if_pos rfl]
  cases w with
  | number n => cases n <;> exact apart _
  | _ => rfl

/-- A value that has a place among those of its type: null has none, nor has what is no number. -/
def Placed (v : Value) : Prop :=
  v ≠ null ∧ ∀ x, v = number (.float x) → x.isNaN = false

theorem placed_of_compares {v w : Value} (compares : (v.compare? w).isSome) : v.Placed := by
  constructor
  · rintro rfl
    rw [compare?_null] at compares
    cases compares
  · rintro x rfl
    cases nan : x.isNaN with
    | false => rfl
    | true =>
      rw [compare?_of_isNaN nan] at compares
      cases compares

/-- Values of one type compare where they have a place in it. -/
theorem compare?_isSome_of_placed {type : FieldType ε} {v w : Value} (left : type.Admits v)
    (right : type.Admits w) (placed : v.Placed) (placed' : w.Placed) : (v.compare? w).isSome := by
  cases type
  case one | many => exact left.elim
  all_goals
    obtain ⟨x, rfl⟩ := left
    obtain ⟨y, rfl⟩ := right
  case float =>
    change (x.compare? y).isSome
    rw [Numeric.Binary64.compare?, placed.2 x rfl, placed'.2 y rfl]
    rfl
  all_goals rfl

/-- Values of one type compare, unless one of them compares with nothing at all. -/
theorem compare?_isSome_of_admits {type : FieldType ε} {v w a b : Value} (left : type.Admits v)
    (right : type.Admits w) (compares : (v.compare? a).isSome) (compared : (b.compare? w).isSome) :
    (v.compare? w).isSome := by
  have turned : (w.compare? b).isSome := by rwa [compare?_swap, Option.isSome_map]
  exact compare?_isSome_of_placed left right (placed_of_compares compares) (placed_of_compares turned)

end Value

/-- The order of two values that compare decides every comparison that is not for texts only. -/
theorem Comparison.eval_of_compares {op : Comparison} {v w : Value} {o : Ordering} (plain : op.isTextual = false)
    (compares : v.compare? w = some o) : op.eval v w = op.holdsOn o := by
  cases op
  case eq | ne => simp only [eval, holdsOn, Value.equals_of_compares compares, bne]
  case eqIgnoringCase | contains | containsIgnoringCase => cases plain
  all_goals exact congrArg (fun found => (Option.map _ found).getD false) compares

theorem Comparison.eval_beyond {v w : Value} (compares : (v.compare? w).isSome) :
    (lte.eval v w = true ∨ gt.eval v w = true) ∧ (gte.eval v w = true ∨ lt.eval v w = true) := by
  obtain ⟨o, compares⟩ := Option.isSome_iff_exists.mp compares
  rw [eval_of_compares rfl compares, eval_of_compares rfl compares, eval_of_compares rfl compares,
    eval_of_compares rfl compares]
  cases o <;> decide

theorem Comparison.placed_of_eval {op : Comparison} (ordering : op.isOrdering = true) {v w : Value}
    (holds : op.eval v w = true) : v.Placed :=
  Value.placed_of_compares (compares_of_eval ordering holds)

theorem Comparison.ne_null_of_eval {op : Comparison} (ordering : op.isOrdering = true) {v w : Value}
    (holds : op.eval v w = true) : v ≠ .null :=
  (placed_of_eval ordering holds).1

theorem Comparison.isNaN_of_eval {op : Comparison} (ordering : op.isOrdering = true)
    {x : Numeric.Binary64} {w : Value} (holds : op.eval (.number (.float x)) w = true) :
    x.isNaN = false :=
  (placed_of_eval ordering holds).2 x rfl

/-- A value that lies inside both bounds. -/
def Within (lower upper v : Value) : Prop :=
  Comparison.gte.eval v lower = true ∧ Comparison.lte.eval v upper = true

/-- One value reaches the lower bound and another one keeps to the upper bound, but none does both. -/
structure Straddles (lower upper : Value) (values : List Value) : Prop where
  reaching : ∃ v ∈ values, Comparison.gte.eval v lower = true
  keeping : ∃ v ∈ values, Comparison.lte.eval v upper = true
  apart : ∀ v ∈ values, ¬Within lower upper v

namespace Straddles

variable {lower upper : Value} {values : List Value}

/-- The two bounds together ask for a value inside unless they are straddled. -/
theorem bounded_iff :
    (((∃ v ∈ values, Comparison.gte.eval v lower = true) ∧
        ∃ v ∈ values, Comparison.lte.eval v upper = true) ↔ ∃ v ∈ values, Within lower upper v) ↔
      ¬Straddles lower upper values := by
  constructor
  · intro inside straddles
    obtain ⟨v, read, within⟩ := inside.mp ⟨straddles.reaching, straddles.keeping⟩
    exact straddles.apart v read within
  · intro settled
    constructor
    · rintro ⟨reaching, keeping⟩
      by_contra outside
      exact settled ⟨reaching, keeping, fun v read within => outside ⟨v, read, within⟩⟩
    · rintro ⟨v, read, reaching, keeping⟩
      exact ⟨⟨v, read, reaching⟩, v, read, keeping⟩

theorem not_single (v : Value) : ¬Straddles lower upper [v] := by
  rintro ⟨⟨w, first, reaching⟩, ⟨u, second, keeping⟩, apart⟩
  rw [List.mem_singleton] at first second
  subst first second
  exact apart _ List.mem_cons_self ⟨reaching, keeping⟩

theorem beyond {type : FieldType ε} (straddles : Straddles lower upper values)
    (least : type.Admits lower) (most : type.Admits upper) (shown : ∀ v ∈ values, type.Shows v) :
    (∃ v ∈ values, Comparison.gt.eval v upper = true) ∧
      ∃ v ∈ values, Comparison.lt.eval v lower = true := by
  obtain ⟨⟨v, first, reaching⟩, ⟨w, second, keeping⟩, apart⟩ := straddles
  have left := (shown v first).resolve_left (Comparison.ne_null_of_eval rfl reaching)
  have right := (shown w second).resolve_left (Comparison.ne_null_of_eval rfl keeping)
  have below := Comparison.compares_of_eval rfl reaching
  have above := Comparison.compares_of_eval rfl keeping
  constructor
  · have compares := Value.compare?_isSome_of_admits left most below above
    exact ⟨v, first, (Comparison.eval_beyond compares).1.resolve_left fun keeps =>
      apart v first ⟨reaching, keeps⟩⟩
  · have compares := Value.compare?_isSome_of_admits right least above below
    exact ⟨w, second, (Comparison.eval_beyond compares).2.resolve_left fun reaches =>
      apart w second ⟨reaches, keeping⟩⟩

end Straddles

/-- On a path that crosses no collection nothing is straddled. -/
theorem not_straddles_of_single [LayoutCatalog ε] {entity : ε} {path : String} {p : Path ε}
    {r : Record ε} (resolved : Path.resolve entity path = .ok p) (single : p.crossesCollection = false)
    (fits : Record.Fits entity r) (lower upper : Value) : ¬Straddles lower upper (p.read r) := by
  obtain ⟨owner, reaches⟩ := Path.resolve_reaches resolved
  obtain ⟨v, read⟩ := Path.readAlong_single reaches.leads single fits
  rw [Path.read, read]
  exact Straddles.not_single v

/-! ### Ranges in text -/

theorem Token.supports_bounds {type : FieldType ε} (suits : range.supports type = true) :
    Comparison.gte.supports type = true ∧ Comparison.lte.supports type = true := by
  cases type <;> first | exact ⟨rfl, rfl⟩ | cases suits

namespace Condition

variable {config : Config} {p : Path ε} {operand : String}

theorem build_range_of_bounds {least most : String} (suits : Token.range.supports p.type = true)
    (cut : items config p false operand = [least, most]) :
    build config p .range operand =
      (Coercion.ofText config p.leaf least).bind fun lower =>
        (Coercion.ofText config p.leaf most).map fun upper =>
          (Node.compare p .gte lower).and (.compare p .lte upper) := by
  have ordered := Token.supports_bounds suits
  rw [build, cut]
  cases first : Coercion.ofText config p.leaf least with
  | error e => simp only [bind, Except.bind, first]
  | ok lower =>
    cases second : Coercion.ofText config p.leaf most with
    | error e => simp only [bind, Except.bind, first, second, Except.map]
    | ok upper =>
      simp only [bind, Except.bind, first, second, Node.comparison_of_admits ordered.1 (Coercion.ofText_admits first),
        Node.comparison_of_admits ordered.2 (Coercion.ofText_admits second)]
      rfl

theorem build_range_of_not_two (count : (items config p false operand).length ≠ 2) :
    build config p .range operand = .error (.malformedRange (items config p false operand).length) := by
  rw [build]
  split
  · rename_i cut
    rw [cut] at count
    exact absurd rfl count
  · rfl

theorem build_range_ok {node : Node ε} (suits : Token.range.supports p.type = true)
    (built : build config p .range operand = .ok node) :
    ∃ least most lower upper, items config p false operand = [least, most] ∧
      Coercion.ofText config p.leaf least = .ok lower ∧
      Coercion.ofText config p.leaf most = .ok upper ∧
      node = (Node.compare p .gte lower).and (.compare p .lte upper) := by
  by_cases count : (items config p false operand).length = 2
  · obtain ⟨least, most, cut⟩ := List.length_eq_two.mp count
    rw [build_range_of_bounds suits cut] at built
    obtain ⟨lower, first, built⟩ := bind_ok built
    obtain ⟨upper, second, rfl⟩ := map_ok built
    exact ⟨least, most, lower, upper, cut, first, second, rfl⟩
  · cases (build_range_of_not_two count).symm.trans built

theorem holds_bounds (entity : ε) (p : Path ε) (lower upper : Value) (r : Record ε) :
    (⟨(Node.compare p .gte lower).and (.compare p .lte upper)⟩ : Predicate entity).holds r = true ↔
      (∃ v ∈ p.read r, Comparison.gte.eval v lower = true) ∧
        ∃ v ∈ p.read r, Comparison.lte.eval v upper = true := by
  rw [Predicate.holds, Node.eval_and, Bool.and_eq_true, Node.eval, Node.eval, List.any_eq_true,
    List.any_eq_true]

/-- A range holds where some value reaches the lower bound and some value keeps to the upper one.
This is to say that some value lies inside, unless the values straddle the range. These lie on both
sides of it then, and a path that crosses no collection reaches no such values. -/
theorem parse_range_unless_straddled [LayoutCatalog ε] {entity : ε} {path : String} {operand : String}
    {fallback : Option (Predicate entity)} {q : Predicate entity}
    (resolved : Path.resolve entity path = .ok p) (suits : Token.range.supports p.type = true)
    (parsed : parse config entity path ("range:" ++ operand) fallback = .ok q) :
    ∃ least most lower upper, items config p false operand = [least, most] ∧
      Coercion.ofText config p.leaf least = .ok lower ∧
      Coercion.ofText config p.leaf most = .ok upper ∧
      (∀ v, Within lower upper v → v ≠ .null ∧ ∀ x, v = .number (.float x) → x.isNaN = false) ∧
      ∀ r,
        (q.holds r = true ↔
          (∃ v ∈ p.read r, Comparison.gte.eval v lower = true) ∧
            ∃ v ∈ p.read r, Comparison.lte.eval v upper = true) ∧
        ((q.holds r = true ↔ ∃ v ∈ p.read r, Within lower upper v) ↔
          ¬Straddles lower upper (p.read r)) ∧
        (Record.Fits entity r →
          (p.crossesCollection = false → ¬Straddles lower upper (p.read r)) ∧
          (Straddles lower upper (p.read r) →
            (∃ v ∈ p.read r, Comparison.gt.eval v upper = true) ∧
              ∃ v ∈ p.read r, Comparison.lt.eval v lower = true)) := by
  have range := parse_of_token resolved config .range operand fallback
  rw [suits, if_pos rfl] at range
  obtain ⟨node, built, rfl⟩ := map_ok (range.symm.trans parsed)
  obtain ⟨least, most, lower, upper, cut, first, second, rfl⟩ := build_range_ok suits built
  refine ⟨least, most, lower, upper, cut, first, second, ?_, fun r => ?_⟩
  · intro v inside
    refine ⟨Comparison.ne_null_of_eval rfl inside.1, ?_⟩
    rintro x rfl
    exact Comparison.isNaN_of_eval rfl inside.1
  have decides := holds_bounds entity p lower upper r
  refine ⟨decides, ?_, fun fits => ⟨?_, ?_⟩⟩
  · rw [decides]
    exact Straddles.bounded_iff
  · exact fun single => not_straddles_of_single resolved single fits lower upper
  · intro straddles
    obtain ⟨owner, reaches⟩ := Path.resolve_reaches resolved
    exact straddles.beyond (Coercion.ofText_admits first) (Coercion.ofText_admits second)
      (Path.readAlong_shows reaches.leads reaches.leaf fits)

end Condition

namespace Library

open Condition

def pagesOfBooks : Path Library :=
  ⟨author, [⟨"books", .many book, false⟩], ⟨"pages", .uint, false⟩⟩

def pages (n : UInt64) : Value :=
  .number (.unsigned n)

def writesMidSized : Predicate author :=
  ⟨.all [.compare pagesOfBooks .gte (pages 200), .compare pagesOfBooks .lte (pages 300)]⟩

def ann (books : List (Record Library)) : Record Library :=
  newAuthor 1 "Ann" (.ofInt 4) books

/-- A short book and a long one pass for one in between. -/
theorem books_around_range :
    Record.Fits author (ann [newBook "Emma" 120, newBook "Dune" 412]) ∧
    Path.resolve author "books.pages" = .ok pagesOfBooks ∧
    parse {} author "books.pages" "range:200,300" none = .ok writesMidSized ∧
    writesMidSized.holds (ann [newBook "Emma" 120, newBook "Dune" 412]) = true ∧
    ¬∃ v ∈ pagesOfBooks.read (ann [newBook "Emma" 120, newBook "Dune" 412]),
      Within (pages 200) (pages 300) v := by
  have fits : Record.Fits author (ann [newBook "Emma" 120, newBook "Dune" 412]) := by
    refine newAuthor_fits _ _ _ ?_
    simp only [List.forall_mem_cons]
    exact ⟨newBook_fits _ _, newBook_fits _ _, nofun⟩
  refine ⟨fits, rfl, rfl, rfl, ?_⟩
  rintro ⟨v, read, reaching, keeping⟩
  change v ∈ [pages 120, pages 412] at read
  simp only [List.mem_cons, List.not_mem_nil, or_false] at read
  rcases read with rfl | rfl
  · cases reaching
  · cases keeping

theorem book_inside_range :
    Path.resolve author "books.pages" = .ok pagesOfBooks ∧
    Token.range.supports pagesOfBooks.type = true ∧
    parse {} author "books.pages" "range:200,300" none = .ok writesMidSized ∧
    writesMidSized.holds (ann [newBook "Emma" 120, newBook "Ubik" 250]) = true := by
  have parsed : parse {} author "books.pages" ("range:" ++ "200,300") none = .ok writesMidSized := rfl
  obtain ⟨least, most, lower, upper, cut, first, second, -, decides⟩ :=
    parse_range_unless_straddled (p := pagesOfBooks) rfl rfl parsed
  cases (rfl : items {} pagesOfBooks false "200,300" = ["200", "300"]).symm.trans cut
  cases first
  cases second
  obtain ⟨-, inside, -⟩ := decides (ann [newBook "Emma" 120, newBook "Ubik" 250])
  have read : pages 250 ∈ pagesOfBooks.read (ann [newBook "Emma" 120, newBook "Ubik" 250]) :=
    List.mem_cons_of_mem _ List.mem_cons_self
  have within : Within (pages 200) (pages 300) (pages 250) := ⟨rfl, rfl⟩
  have settled : ¬Straddles (pages 200) (pages 300)
      (pagesOfBooks.read (ann [newBook "Emma" 120, newBook "Ubik" 250])) :=
    fun straddles => straddles.apart _ read within
  exact ⟨rfl, rfl, parsed, (inside.mpr settled).mpr ⟨_, read, within⟩⟩

end Library

end EntityQuery
