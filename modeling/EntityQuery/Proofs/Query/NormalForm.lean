import EntityQuery.Proofs.Query.Building
import EntityQuery.Proofs.Query.Joining

/-!
The normal form of trees. Joined trees are spliced into one list of children, where "no constraint"
has no place, and a second negation is never stacked on a first. On trees of this form both ways of
joining are the appending of lists of children, which is where their laws come from.
-/

namespace EntityQuery

variable {ε : Type} {k : Connective}

namespace Node

def group : Connective → List (Node ε) → Node ε
  | .and => all
  | .or => any

def IsPart (k : Connective) (child : Node ε) : Prop :=
  child ≠ constant true ∧ ∀ children, child ≠ group k children

/-- Lists of children have two members or more, that constrain something and are not joined likewise.
What is negated is neither decided nor a negation. -/
inductive Normal : Node ε → Prop where
  | constant (b : Bool) : Normal (constant b)
  | compare (path : Path ε) (op : Comparison) (value : Value) : Normal (compare path op value)
  | member (path : Path ε) (values : List Value) (ignoreCase : Bool) :
      Normal (member path values ignoreCase)
  | all {children : List (Node ε)} (several : 2 ≤ children.length)
      (normal : ∀ c ∈ children, Normal c) (parts : ∀ c ∈ children, c.IsPart .and) :
      Normal (all children)
  | any {children : List (Node ε)} (several : 2 ≤ children.length)
      (normal : ∀ c ∈ children, Normal c) (parts : ∀ c ∈ children, c.IsPart .or) :
      Normal (any children)
  | not {child : Node ε} (normal : Normal child) (undecided : ∀ b, child ≠ constant b)
      (single : ∀ c, child ≠ not c) : Normal (not child)

theorem Normal.group {children : List (Node ε)} (several : 2 ≤ children.length)
    (ready : ∀ c ∈ children, c.Normal ∧ c.IsPart k) : (Node.group k children).Normal := by
  cases k
  · exact .all several (fun c member => (ready c member).1) fun c member => (ready c member).2
  · exact .any several (fun c member => (ready c member).1) fun c member => (ready c member).2

/-- A normal tree constrains nothing, is joined so, or can be among the children. -/
theorem Normal.cases_on_part {a : Node ε} (normal : a.Normal) (k : Connective) :
    a = .constant true ∨ a.IsPart k ∨
      ∃ children, a = Node.group k children ∧ 2 ≤ children.length ∧
        ∀ c ∈ children, c.Normal ∧ c.IsPart k := by
  cases normal with
  | constant b =>
    cases b
    · exact Or.inr (Or.inl ⟨nofun, fun _ same => by cases k <;> cases same⟩)
    · exact Or.inl rfl
  | @all children several normal parts =>
    cases k
    · exact Or.inr (Or.inr ⟨children, rfl, several, fun c member => ⟨normal c member, parts c member⟩⟩)
    · exact Or.inr (Or.inl ⟨nofun, fun _ same => by cases same⟩)
  | @any children several normal parts =>
    cases k
    · exact Or.inr (Or.inl ⟨nofun, fun _ same => by cases same⟩)
    · exact Or.inr (Or.inr ⟨children, rfl, several, fun c member => ⟨normal c member, parts c member⟩⟩)
  | compare | member | not => exact Or.inr (Or.inl ⟨nofun, fun _ same => by cases k <;> cases same⟩)

/-! ### Trees as lists of parts -/

def parts : Connective → Node ε → List (Node ε)
  | _, .constant true => []
  | .and, .all children => children
  | .or, .any children => children
  | _, a => [a]

def ofParts (k : Connective) : List (Node ε) → Node ε
  | [] => .constant true
  | [a] => a
  | children => group k children

@[simp]
theorem parts_true : parts k (.constant true : Node ε) = [] := by
  cases k <;> rfl

@[simp]
theorem parts_group (children : List (Node ε)) : parts k (group k children) = children := by
  cases k <;> rfl

theorem parts_of_isPart {a : Node ε} (part : a.IsPart k) : parts k a = [a] := by
  obtain ⟨bound, flat⟩ := part
  unfold parts
  split
  · exact absurd rfl bound
  · exact absurd rfl (flat _)
  · exact absurd rfl (flat _)
  · rfl

theorem ofParts_of_several {children : List (Node ε)} (several : 2 ≤ children.length) :
    ofParts k children = group k children := by
  match children, several with
  | _ :: _ :: _, _ => rfl

theorem parts_ofParts {children : List (Node ε)} (parts : ∀ c ∈ children, c.IsPart k) :
    Node.parts k (ofParts k children) = children := by
  match children with
  | [] => exact parts_true
  | [a] => exact parts_of_isPart (parts a List.mem_cons_self)
  | a :: b :: rest => exact parts_group _

theorem Normal.ofParts {children : List (Node ε)} (ready : ∀ c ∈ children, c.Normal ∧ c.IsPart k) :
    (Node.ofParts k children).Normal := by
  match children with
  | [] => exact .constant true
  | [a] => exact (ready a List.mem_cons_self).1
  | a :: b :: rest => exact .group (by simp) ready

theorem Normal.ofParts_parts {a : Node ε} (normal : a.Normal) :
    Node.ofParts k (a.parts k) = a := by
  rcases normal.cases_on_part k with rfl | part | ⟨children, rfl, several, -⟩
  · rw [parts_true]
    rfl
  · rw [parts_of_isPart part]
    rfl
  · rw [parts_group, ofParts_of_several several]

theorem Normal.of_mem_parts {a c : Node ε} (normal : a.Normal) (member : c ∈ a.parts k) :
    c.Normal ∧ c.IsPart k := by
  rcases normal.cases_on_part k with rfl | part | ⟨children, rfl, -, ready⟩
  · rw [parts_true] at member
    cases member
  · rw [parts_of_isPart part, List.mem_singleton] at member
    exact ⟨member ▸ normal, member ▸ part⟩
  · rw [parts_group] at member
    exact ready c member

/-! ### Joining and negating -/

@[simp]
theorem true_join (a : Node ε) : join k (.constant true) a = a := by
  cases k <;> rfl

@[simp]
theorem join_true (a : Node ε) : join k a (.constant true) = a := by
  cases k <;> cases a <;> try rfl
  all_goals
    rename_i b
    cases b <;> rfl

theorem join_groups (as bs : List (Node ε)) :
    join k (group k as) (group k bs) = group k (as ++ bs) := by
  cases k <;> rfl

theorem join_group_part {b : Node ε} (as : List (Node ε)) (part : b.IsPart k) :
    join k (group k as) b = group k (as ++ [b]) := by
  obtain ⟨bound, flat⟩ := part
  cases k
  all_goals
    cases b
    case constant b => cases b <;> first | rfl | exact absurd rfl bound
    all_goals first | rfl | exact absurd rfl (flat _)

theorem join_part_group {a : Node ε} (bs : List (Node ε)) (part : a.IsPart k) :
    join k a (group k bs) = group k (a :: bs) := by
  obtain ⟨bound, flat⟩ := part
  cases k
  all_goals
    cases a
    case constant b => cases b <;> first | rfl | exact absurd rfl bound
    all_goals first | rfl | exact absurd rfl (flat _)

theorem join_parts {a b : Node ε} (left : a.IsPart k) (right : b.IsPart k) :
    join k a b = group k [a, b] := by
  obtain ⟨leftBound, leftFlat⟩ := left
  obtain ⟨rightBound, rightFlat⟩ := right
  cases k
  · change a.and b = all [a, b]
    unfold Node.and
    split
    · exact absurd rfl leftBound
    · exact absurd rfl rightBound
    · exact absurd rfl (leftFlat _)
    · exact absurd rfl (leftFlat _)
    · exact absurd rfl (rightFlat _)
    · rfl
  · change a.or b = any [a, b]
    unfold Node.or
    split
    · exact absurd rfl leftBound
    · exact absurd rfl rightBound
    · exact absurd rfl (leftFlat _)
    · exact absurd rfl (leftFlat _)
    · exact absurd rfl (rightFlat _)
    · rfl

/-- On normal trees joining appends the lists of parts. -/
theorem Normal.join_eq {a b : Node ε} (left : a.Normal) (right : b.Normal) :
    join k a b = Node.ofParts k (a.parts k ++ b.parts k) := by
  rcases left.cases_on_part k with rfl | leftPart | ⟨as, rfl, leftSeveral, -⟩
  · rw [true_join, parts_true, List.nil_append, right.ofParts_parts]
  all_goals rcases right.cases_on_part k with rfl | rightPart | ⟨bs, rfl, rightSeveral, -⟩
  · rw [join_true, parts_true, List.append_nil, left.ofParts_parts]
  · rw [join_parts leftPart rightPart, parts_of_isPart leftPart, parts_of_isPart rightPart]
    rfl
  · rw [join_part_group bs leftPart, parts_of_isPart leftPart, parts_group, ofParts_of_several]
    · rfl
    · simp; omega
  · rw [join_true, parts_true, List.append_nil, left.ofParts_parts]
  · rw [join_group_part as rightPart, parts_of_isPart rightPart, parts_group, ofParts_of_several]
    simp; omega
  · rw [join_groups, parts_group, parts_group, ofParts_of_several]
    simp; omega

theorem Normal.join {a b : Node ε} (left : a.Normal) (right : b.Normal) :
    (Node.join k a b).Normal := by
  rw [left.join_eq right]
  refine .ofParts fun c member => ?_
  rcases List.mem_append.mp member with member | member
  · exact left.of_mem_parts member
  · exact right.of_mem_parts member

theorem Normal.parts_join {a b : Node ε} (left : a.Normal) (right : b.Normal) :
    (Node.join k a b).parts k = a.parts k ++ b.parts k := by
  rw [left.join_eq right]
  refine parts_ofParts fun c member => ?_
  rcases List.mem_append.mp member with member | member
  · exact (left.of_mem_parts member).2
  · exact (right.of_mem_parts member).2

theorem Normal.join_assoc {a b c : Node ε} (first : a.Normal) (second : b.Normal)
    (third : c.Normal) :
    Node.join k (Node.join k a b) c = Node.join k a (Node.join k b c) := by
  rw [(first.join second).join_eq third, first.join_eq (second.join third),
    first.parts_join second, second.parts_join third, List.append_assoc]

theorem Normal.negate {a : Node ε} (normal : a.Normal) : a.negate.Normal := by
  cases normal with
  | constant b => exact .constant !b
  | compare path op value => exact .not (.compare path op value) nofun nofun
  | member path values ignoreCase => exact .not (.member path values ignoreCase) nofun nofun
  | all several normal parts => exact .not (.all several normal parts) nofun nofun
  | any several normal parts => exact .not (.any several normal parts) nofun nofun
  | not normal => exact normal

theorem Normal.negate_negate {a : Node ε} (normal : a.Normal) : a.negate.negate = a := by
  cases normal with
  | constant b => rw [Node.negate, Node.negate, Bool.not_not]
  | @not child normal undecided single =>
    -- the child is what a negation leaves, and wrapping it again is all that a second one does
    change child.negate = .not child
    cases child
    case constant b => exact absurd rfl (undecided b)
    case not c => exact absurd rfl (single c)
    all_goals rfl
  | _ => rfl

/-! ### Joined trees -/

theorem Leaf.normal [Catalog ε] {entity : ε} {a : Node ε} (leaf : a.Leaf entity) : a.Normal := by
  cases leaf with
  | compare => exact .compare _ _ _
  | member => exact .member _ _ _

theorem Joined.normal [Catalog ε] {entity : ε} {a : Node ε} (joined : a.Joined entity) :
    a.Normal := by
  induction joined with
  | constant b => exact .constant b
  | leaf leaf => exact leaf.normal
  | and _ _ left right => exact left.join (k := .and) right
  | or _ _ left right => exact left.join (k := .or) right
  | negate _ normal => exact normal.negate

end Node

/-- Every predicate that can be built has a tree in normal form. On such trees a second negation
cancels the first, and conjunction and disjunction are associative, with "no constraint" as their
identity. -/
theorem Predicate.built_normal [Catalog ε] (entity : ε) :
    (∀ p : Predicate entity, p.Built → p.node.Normal) ∧
      ∀ a b c : Node ε, a.Normal → b.Normal → c.Normal →
        a.negate.negate = a ∧
        (Node.constant true).and a = a ∧ a.and (.constant true) = a ∧
        (a.and b).and c = a.and (b.and c) ∧
        (Node.constant true).or a = a ∧ a.or (.constant true) = a ∧
        (a.or b).or c = a.or (b.or c) := by
  refine ⟨fun p built => built.joined.normal, fun a b c first second third => ?_⟩
  exact ⟨first.negate_negate,
    Node.true_join (k := .and) a, Node.join_true (k := .and) a,
    Node.Normal.join_assoc (k := .and) first second third,
    Node.true_join (k := .or) a, Node.join_true (k := .or) a,
    Node.Normal.join_assoc (k := .or) first second third⟩

namespace Library

def pageCount : Path Library :=
  ⟨book, [], ⟨"pages", .uint, false⟩⟩

def sized (least most : UInt64) : Predicate book :=
  ⟨.all [.compare pageCount .gte (.number (.unsigned least)),
    .compare pageCount .lte (.number (.unsigned most))]⟩

/-- A range that is read from text is spliced into the conjunction around it. -/
theorem sized_dune_normal :
    (sized 100 300).Built ∧ (titled "Dune").Built ∧
    ((titled "Dune").and (sized 100 300)).node =
      .all [(titled "Dune").node, .compare pageCount .gte (.number (.unsigned 100)),
        .compare pageCount .lte (.number (.unsigned 300))] ∧
    ((titled "Dune").and (sized 100 300)).negate.node.Normal ∧
    (sized 100 300).node.negate.negate = (sized 100 300).node ∧
    (((titled "Dune").node.or (sized 100 300).node.negate).or (titled "Dune").node =
      (titled "Dune").node.or ((sized 100 300).node.negate.or (titled "Dune").node)) := by
  have parsed : Condition.parse {} book "pages" "range:100,300" none = .ok (sized 100 300) := rfl
  have compared : Predicate.compare book "title" .eq (.string "Dune") = .ok (titled "Dune") := rfl
  have ranged : (sized 100 300).Built := .parse (by nofun) parsed
  have dune : (titled "Dune").Built := .compare compared
  obtain ⟨normal, laws⟩ := Predicate.built_normal book
  have outside := (normal _ ranged).negate
  obtain ⟨twice, -⟩ := laws _ _ _ (normal _ ranged) (normal _ ranged) (normal _ ranged)
  obtain ⟨-, -, -, -, -, -, regrouped⟩ := laws _ _ _ (normal _ dune) outside (normal _ dune)
  exact ⟨ranged, dune, rfl, normal _ (.negate (.and dune ranged)), twice, regrouped⟩

end Library

end EntityQuery
