import EntityQuery.Proofs.Query.NormalForm

/-!
Predicates are well typed. Every leaf of one that can be built suits the path that it is on, and a
record that fits the entity shows on that path null or values of the same type. So evaluation never
meets two values of different kinds, and how these would compare plays no part in what it gives.
-/

namespace EntityQuery

open EntityQuery.Text

variable {ε : Type}

/-! ### Values of one kind -/

/-- Values of the same kind, numbers also of the same kind of number. -/
inductive Value.Alike : Value → Value → Prop where
  | bool (a b : Bool) : Alike (bool a) (bool b)
  | char (a b : Char) : Alike (char a) (char b)
  | signed (a b : Int64) : Alike (number (.signed a)) (number (.signed b))
  | unsigned (a b : UInt64) : Alike (number (.unsigned a)) (number (.unsigned b))
  | float (a b : Numeric.Binary64) : Alike (number (.float a)) (number (.float b))
  | string (a b : String) : Alike (string a) (string b)
  | date (a b : Calendar.Date) : Alike (date a) (date b)
  | dateTime (a b : Calendar.DateTime) : Alike (dateTime a) (dateTime b)

theorem FieldType.Admits.alike {type : FieldType ε} {v w : Value} (left : type.Admits v)
    (right : type.Admits w) : v.Alike w := by
  cases type
  case one | many => exact left.elim
  all_goals
    obtain ⟨a, rfl⟩ := left
    obtain ⟨b, rfl⟩ := right
    constructor

theorem FieldType.Shows.alike {type : FieldType ε} {v w : Value} (left : type.Shows v)
    (right : type.Shows w) (leftGiven : v ≠ .null) (rightGiven : w ≠ .null) : v.Alike w :=
  (left.resolve_left leftGiven).alike (right.resolve_left rightGiven)

theorem FieldType.shows_foldCase {v : Value} (shown : (string : FieldType ε).Shows v) :
    (string : FieldType ε).Shows v.foldCase := by
  rcases shown with rfl | ⟨s, rfl⟩
  · exact Or.inl rfl
  · exact Or.inr ⟨lowercase s, rfl⟩

namespace Node

/-! ### Typed trees -/

/-- Every leaf suits the path that it is on. -/
inductive WellTyped [Catalog ε] (entity : ε) : Node ε → Prop where
  | constant (b : Bool) : WellTyped entity (constant b)
  | leaf {a : Node ε} (leaf : a.Leaf entity) : WellTyped entity a
  | all {children : List (Node ε)} (typed : ∀ c ∈ children, WellTyped entity c) :
      WellTyped entity (all children)
  | any {children : List (Node ε)} (typed : ∀ c ∈ children, WellTyped entity c) :
      WellTyped entity (any children)
  | not {child : Node ε} (typed : WellTyped entity child) : WellTyped entity (not child)

section Trees

variable [Catalog ε] {entity : ε} {k : Connective}

theorem WellTyped.group {children : List (Node ε)} (typed : ∀ c ∈ children, c.WellTyped entity) :
    (Node.group k children).WellTyped entity := by
  cases k
  · exact .all typed
  · exact .any typed

theorem WellTyped.of_mem_all {children : List (Node ε)} (typed : (Node.all children).WellTyped entity) :
    ∀ c ∈ children, c.WellTyped entity := by
  cases typed with
  | leaf leaf => cases leaf
  | all typed => exact typed

theorem WellTyped.of_mem_any {children : List (Node ε)} (typed : (Node.any children).WellTyped entity) :
    ∀ c ∈ children, c.WellTyped entity := by
  cases typed with
  | leaf leaf => cases leaf
  | any typed => exact typed

theorem WellTyped.of_not {child : Node ε} (typed : (Node.not child).WellTyped entity) :
    child.WellTyped entity := by
  cases typed with
  | leaf leaf => cases leaf
  | not typed => exact typed

theorem WellTyped.of_mem_parts {a c : Node ε} (typed : a.WellTyped entity) (member : c ∈ a.parts k) :
    c.WellTyped entity := by
  unfold parts at member
  split at member
  · cases member
  · exact typed.of_mem_all c member
  · exact typed.of_mem_any c member
  · rw [List.mem_singleton.mp member]
    exact typed

theorem WellTyped.ofParts {children : List (Node ε)} (typed : ∀ c ∈ children, c.WellTyped entity) :
    (Node.ofParts k children).WellTyped entity := by
  match children with
  | [] => exact .constant true
  | [a] => exact typed a List.mem_cons_self
  | a :: b :: rest => exact .group typed

theorem WellTyped.join {a b : Node ε} (leftNormal : a.Normal) (rightNormal : b.Normal)
    (left : a.WellTyped entity) (right : b.WellTyped entity) :
    (Node.join k a b).WellTyped entity := by
  rw [leftNormal.join_eq rightNormal]
  refine .ofParts fun c member => ?_
  rcases List.mem_append.mp member with member | member
  · exact left.of_mem_parts member
  · exact right.of_mem_parts member

theorem WellTyped.negate {a : Node ε} (typed : a.WellTyped entity) : a.negate.WellTyped entity := by
  unfold Node.negate
  split
  · exact .constant _
  · exact typed.of_not
  · exact .not typed

theorem Joined.wellTyped {a : Node ε} (joined : a.Joined entity) : a.WellTyped entity := by
  induction joined with
  | constant b => exact .constant b
  | leaf leaf => exact .leaf leaf
  | and left right leftTyped rightTyped =>
    exact WellTyped.join (k := .and) left.normal right.normal leftTyped rightTyped
  | or left right leftTyped rightTyped =>
    exact WellTyped.join (k := .or) left.normal right.normal leftTyped rightTyped
  | negate _ typed => exact typed.negate

end Trees

/-! ### Comparisons that are made -/

/-- The pairs of values that evaluation may compare, and how. -/
inductive Compares (r : Record ε) : Node ε → Comparison → Value → Value → Prop where
  | compare {path : Path ε} {op : Comparison} {v value : Value} (read : v ∈ path.read r) :
      Compares r (compare path op value) op v value
  | member {path : Path ε} {values : List Value} {ignoreCase : Bool} {v w : Value}
      (read : v ∈ path.read r) (listed : w ∈ values) :
      Compares r (member path values ignoreCase) .eq (if ignoreCase then v.foldCase else v) w
  | all {children : List (Node ε)} {c : Node ε} {op : Comparison} {v w : Value}
      (child : c ∈ children) (compares : Compares r c op v w) : Compares r (all children) op v w
  | any {children : List (Node ε)} {c : Node ε} {op : Comparison} {v w : Value}
      (child : c ∈ children) (compares : Compares r c op v w) : Compares r (any children) op v w
  | not {child : Node ε} {op : Comparison} {v w : Value} (compares : Compares r child op v w) :
      Compares r (not child) op v w

mutual

/-- Evaluation by another test of two values. -/
def evalBy (test : Comparison → Value → Value → Bool) (r : Record ε) : Node ε → Bool
  | constant b => b
  | compare path op value => (path.read r).any (test op · value)
  | member path values ignoreCase =>
    (path.read r).any fun v => values.any (test .eq (if ignoreCase then v.foldCase else v) ·)
  | all children => evalAllBy test r children
  | any children => evalAnyBy test r children
  | not child => !child.evalBy test r

def evalAllBy (test : Comparison → Value → Value → Bool) (r : Record ε) : List (Node ε) → Bool
  | [] => true
  | child :: rest => child.evalBy test r && evalAllBy test r rest

def evalAnyBy (test : Comparison → Value → Value → Bool) (r : Record ε) : List (Node ε) → Bool
  | [] => false
  | child :: rest => child.evalBy test r || evalAnyBy test r rest

end

section Evaluation

variable {test : Comparison → Value → Value → Bool} {r : Record ε}

theorem any_congr_of_mem {α : Type} {values : List α} {f g : α → Bool}
    (agree : ∀ v ∈ values, f v = g v) : values.any f = values.any g := by
  induction values with
  | nil => rfl
  | cons v rest ih =>
    rw [List.forall_mem_cons] at agree
    rw [List.any_cons, List.any_cons, agree.1, ih agree.2]

mutual

theorem evalBy_of_agrees : ∀ a : Node ε,
    (∀ op v w, a.Compares r op v w → test op v w = op.eval v w) → a.evalBy test r = a.eval r
  | .constant b, _ => rfl
  | .compare path op value, agrees => by
    rw [evalBy, eval]
    exact any_congr_of_mem fun v read => agrees _ _ _ (.compare read)
  | .member path values ignoreCase, agrees => by
    rw [evalBy, eval]
    refine any_congr_of_mem fun v read => any_congr_of_mem fun w listed => ?_
    exact agrees _ _ _ (.member read listed)
  | .all children, agrees => by
    rw [evalBy, eval]
    exact evalAllBy_of_agrees children fun c child _ _ _ compares => agrees _ _ _ (.all child compares)
  | .any children, agrees => by
    rw [evalBy, eval]
    exact evalAnyBy_of_agrees children fun c child _ _ _ compares => agrees _ _ _ (.any child compares)
  | .not child, agrees => by
    rw [evalBy, eval, evalBy_of_agrees child fun _ _ _ compares => agrees _ _ _ (.not compares)]

theorem evalAllBy_of_agrees : ∀ children : List (Node ε),
    (∀ c ∈ children, ∀ op v w, c.Compares r op v w → test op v w = op.eval v w) →
      evalAllBy test r children = evalAll r children
  | [], _ => rfl
  | child :: rest, agrees => by
    rw [List.forall_mem_cons] at agrees
    rw [evalAllBy, evalAll, evalBy_of_agrees child agrees.1, evalAllBy_of_agrees rest agrees.2]

theorem evalAnyBy_of_agrees : ∀ children : List (Node ε),
    (∀ c ∈ children, ∀ op v w, c.Compares r op v w → test op v w = op.eval v w) →
      evalAnyBy test r children = evalAny r children
  | [], _ => rfl
  | child :: rest, agrees => by
    rw [List.forall_mem_cons] at agrees
    rw [evalAnyBy, evalAny, evalBy_of_agrees child agrees.1, evalAnyBy_of_agrees rest agrees.2]

end

end Evaluation

/-- A typed tree compares, on a record of its entity, only null and values of one kind. -/
theorem WellTyped.compares_alike [LayoutCatalog ε] {entity : ε} {r : Record ε} {a : Node ε}
    {op : Comparison} {v w : Value} (typed : a.WellTyped entity) (fits : Record.Fits entity r)
    (compares : a.Compares r op v w) (left : v ≠ .null) (right : w ≠ .null) : v.Alike w := by
  induction compares with
  | compare read =>
    cases typed with
    | leaf leaf =>
      obtain ⟨⟨owner, reaches⟩, -, typed⟩ := leaf
      have shown := Path.readAlong_shows reaches.leads reaches.leaf fits _ read
      exact shown.alike typed left right
  | @member path values ignoreCase v w read listed =>
    cases typed with
    | leaf leaf =>
      obtain _ | ⟨⟨owner, reaches⟩, typed, folded⟩ := leaf
      have shown := Path.readAlong_shows reaches.leads reaches.leaf fits _ read
      refine (?_ : path.type.Shows _).alike (typed w listed) left right
      cases ignoreCase with
      | false => exact shown
      | true =>
        obtain ⟨textual, -⟩ := folded rfl
        change path.type.Shows v at shown
        rw [textual] at shown ⊢
        exact FieldType.shows_foldCase shown
  | all child _ ih => exact ih (typed.of_mem_all _ child) left right
  | any child _ ih => exact ih (typed.of_mem_any _ child) left right
  | not _ ih => exact ih typed.of_not left right

end Node

/-- Every predicate that can be built is well typed. On a record of its entity it compares only null
and values of one kind, so any test that agrees on these would decide the same. -/
theorem Predicate.built_wellTyped [LayoutCatalog ε] {entity : ε} {p : Predicate entity}
    (built : p.Built) :
    p.node.WellTyped entity ∧ ∀ r, Record.Fits entity r →
      (∀ op v w, p.node.Compares r op v w → v ≠ .null → w ≠ .null → v.Alike w) ∧
      ∀ test : Comparison → Value → Value → Bool,
        (∀ op v w, (v ≠ .null → w ≠ .null → v.Alike w) → test op v w = op.eval v w) →
        p.node.evalBy test r = p.holds r := by
  have typed := built.joined.wellTyped
  refine ⟨typed, fun r fits => ?_⟩
  have alike : ∀ op v w, p.node.Compares r op v w → v ≠ .null → w ≠ .null → v.Alike w :=
    fun _ _ _ compares => typed.compares_alike fits compares
  exact ⟨alike, fun test agrees =>
    Node.evalBy_of_agrees p.node fun op v w compares => agrees op v w (alike op v w compares)⟩

namespace Library

/-- A test by which no double is equal to an integer, nor on either side of one. -/
def apartFromIntegers (op : Comparison) : Value → Value → Bool
  | .number (.float _), .number (.signed _) | .number (.float _), .number (.unsigned _) => false
  | v, w => op.eval v w

def wellRated : Predicate book :=
  ⟨.compare ⟨book, [⟨"author", .one author, true⟩], ⟨"rating", .float, false⟩⟩ .gte
    (.number (.float (.ofInt 3)))⟩

/-- An integer that a rating is to be compared with was converted to a double. -/
theorem wellRated_wellTyped :
    wellRated.Built ∧ wellRated.node.WellTyped book ∧
    Record.Fits book (newBookBy "Emma" 120 (newAuthor 1 "Jane" (.ofInt 4) [])) ∧
    wellRated.node.evalBy apartFromIntegers (newBookBy "Emma" 120 (newAuthor 1 "Jane" (.ofInt 4) [])) =
      true := by
  have compared : Predicate.compare book "author.rating" .gte (.number (.signed 3)) = .ok wellRated := rfl
  have built : wellRated.Built := .compare compared
  have fits : Record.Fits book (newBookBy "Emma" 120 (newAuthor 1 "Jane" (.ofInt 4) [])) :=
    newBookBy_fits _ _ (newAuthor_fits _ _ _ (by simp))
  obtain ⟨typed, evaluated⟩ := Predicate.built_wellTyped built
  obtain ⟨-, decided⟩ := evaluated _ fits
  refine ⟨built, typed, fits, (decided apartFromIntegers ?_).trans ?_⟩
  · intro op v w alike
    unfold apartFromIntegers
    split
    · exact nomatch alike nofun nofun
    · exact nomatch alike nofun nofun
    · rfl
  · decide +kernel

end Library

end EntityQuery
