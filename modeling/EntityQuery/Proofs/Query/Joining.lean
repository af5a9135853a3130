import EntityQuery.Proofs.Record.Library
import EntityQuery.Query.Predicate
import Mathlib.Data.List.Basic

/-!
What joined predicates mean. The trees are spliced, flipped and left out while they are joined, and
still hold of the records that the joined predicates decide on, in whatever order and grouping.

A disjunction leaves out what constrains nothing, so whether it holds does not follow from which of
its parts hold. It follows from two facts about each part that both carry over as conjunctions:
whether it constrains nothing, and whether it leaves the disjunction idle.
-/

namespace EntityQuery

/-! ### Lists and groupings -/

/-- A list of two or more items in the brackets of binary calls, or one item alone. -/
inductive Grouping (α : Type) where
  | item (a : α)
  | pair (left right : Grouping α)

namespace Grouping

variable {α : Type}

def items : Grouping α → List α
  | item a => [a]
  | pair left right => left.items ++ right.items

def joined (op : α → α → α) : Grouping α → α
  | item a => a
  | pair left right => op (left.joined op) (right.joined op)

/-- A test that splits at every call is passed by the whole if by all items. -/
theorem test_joined {op : α → α → α} (test : α → Bool)
    (splits : ∀ a b, test (op a b) = (test a && test b)) (grouping : Grouping α) :
    test (grouping.joined op) = grouping.items.all test := by
  induction grouping with
  | item a => simp [joined, items]
  | pair left right leftIh rightIh => rw [joined, splits, leftIh, rightIh, items, List.all_append]

end Grouping

theorem test_foldl {α : Type} {op : α → α → α} (test : α → Bool)
    (splits : ∀ a b, test (op a b) = (test a && test b)) (start : α) (items : List α) :
    test (items.foldl op start) = (test start && items.all test) := by
  induction items generalizing start with
  | nil => simp
  | cons a rest ih => rw [List.foldl_cons, ih, splits, List.all_cons, Bool.and_assoc]

variable {ε : Type}

/-! ### Trees -/

namespace Node

theorem evalAll_eq (r : Record ε) (children : List (Node ε)) :
    evalAll r children = children.all (·.eval r) := by
  induction children with
  | nil => rfl
  | cons child rest ih => rw [evalAll, ih, List.all_cons]

theorem evalAny_eq (r : Record ε) (children : List (Node ε)) :
    evalAny r children = children.any (·.eval r) := by
  induction children with
  | nil => rfl
  | cons child rest ih => rw [evalAny, ih, List.any_cons]

theorem isTrue_iff {a : Node ε} : a.isTrue = true ↔ a = constant true := by
  cases a with
  | constant b => cases b <;> simp [isTrue]
  | _ => simp [isTrue]

theorem eval_and (a b : Node ε) (r : Record ε) : (a.and b).eval r = (a.eval r && b.eval r) := by
  -- One side constrains nothing, or the two are spliced in one of four ways.
  fun_cases Node.and a b
  case case1 | case2 => simp [eval]
  case case3 | case4 | case5 | case6 => simp [eval, evalAll_eq]

theorem eval_negate (a : Node ε) (r : Record ε) : a.negate.eval r = !a.eval r := by
  fun_cases Node.negate a
  case case1 => rfl
  case case2 => simp [eval]
  case case3 => rfl

theorem or_of_left {a b : Node ε} (free : a.isTrue = true) : a.or b = b := by
  rw [isTrue_iff.mp free, Node.or]

theorem or_of_right {a b : Node ε} (free : b.isTrue = true) : a.or b = a := by
  obtain rfl := isTrue_iff.mp free
  cases a with
  | constant b => cases b <;> rfl
  | _ => rfl

theorem or_of_both {a b : Node ε} (left : a.isTrue = false) (right : b.isTrue = false) :
    (a.or b).isTrue = false ∧ ∀ r, (a.or b).eval r = (a.eval r || b.eval r) := by
  fun_cases Node.or a b
  case case1 => exact absurd left nofun
  case case2 => exact absurd right nofun
  case case3 | case4 | case5 | case6 => exact ⟨rfl, fun r => by simp [eval, evalAny_eq]⟩

end Node

/-! ### Predicates -/

namespace Predicate

variable {entity : ε}

def join : Connective → Predicate entity → Predicate entity → Predicate entity
  | .and => and
  | .or => or

theorem holds_of_isAlways {p : Predicate entity} (free : p.isAlways = true) (r : Record ε) :
    p.holds r = true := by
  rw [holds, Node.isTrue_iff.mp free, Node.eval]

theorem holds_and (p q : Predicate entity) (r : Record ε) :
    (p.and q).holds r = (p.holds r && q.holds r) :=
  Node.eval_and p.node q.node r

theorem holds_negate (p : Predicate entity) (r : Record ε) : p.negate.holds r = !p.holds r :=
  Node.eval_negate p.node r

theorem holds_or (p q : Predicate entity) (r : Record ε) :
    (p.or q).holds r =
      if p.isAlways then q.holds r else if q.isAlways then p.holds r else p.holds r || q.holds r := by
  split_ifs with left right
  · rw [holds, or, Node.or_of_left left, holds]
  · rw [holds, or, Node.or_of_right right, holds]
  · exact (Node.or_of_both (Bool.not_eq_true _ ▸ left) (Bool.not_eq_true _ ▸ right)).2 r

theorem isAlways_or (p q : Predicate entity) : (p.or q).isAlways = (p.isAlways && q.isAlways) := by
  cases left : p.isAlways with
  | true => rw [isAlways, or, Node.or_of_left left, Bool.true_and, isAlways]
  | false =>
    cases right : q.isAlways with
    | true => rw [isAlways, or, Node.or_of_right right, ← isAlways, left, Bool.false_and]
    | false => exact (Node.or_of_both left right).1

/-- The predicate constrains nothing or fails, so that it alone makes no disjunction hold. -/
def isIdle (r : Record ε) (p : Predicate entity) : Bool :=
  p.isAlways || !p.holds r

theorem holds_eq (p : Predicate entity) (r : Record ε) : p.holds r = (p.isAlways || !p.isIdle r) := by
  cases free : p.isAlways with
  | true => rw [holds_of_isAlways free, Bool.true_or]
  | false => simp [isIdle, free]

theorem isIdle_or (p q : Predicate entity) (r : Record ε) :
    (p.or q).isIdle r = (p.isIdle r && q.isIdle r) := by
  rw [isIdle, isIdle, isIdle, isAlways_or, holds_or]
  cases p.isAlways <;> cases q.isAlways <;> simp

/-! ### Lists of predicates -/

theorem combine_eq (connective : Connective) (ps : List (Predicate entity)) :
    combine connective ps = ps.foldl (join connective) always := by
  rw [combine, Node.combine, List.foldl_map]
  refine (List.foldl_hom Predicate.mk ?_).symm
  intro node p
  cases connective <;> rfl

theorem holds_combine_and (ps : List (Predicate entity)) (r : Record ε) :
    (combine .and ps).holds r = ps.all (·.holds r) := by
  rw [combine_eq, join, test_foldl (holds · r) (fun p q => holds_and p q r)]
  exact Bool.true_and _

theorem isAlways_combine_or (ps : List (Predicate entity)) :
    (combine .or ps).isAlways = ps.all (·.isAlways) := by
  rw [combine_eq, join, test_foldl isAlways isAlways_or]
  exact Bool.true_and _

theorem isIdle_combine_or (ps : List (Predicate entity)) (r : Record ε) :
    (combine .or ps).isIdle r = ps.all (·.isIdle r) := by
  rw [combine_eq, join, test_foldl (isIdle r) (fun p q => isIdle_or p q r)]
  exact Bool.true_and _

theorem holds_combine_or (ps : List (Predicate entity)) (r : Record ε) :
    (combine .or ps).holds r =
      if ps.all (·.isAlways) then true else (ps.filter (!·.isAlways)).any (·.holds r) := by
  rw [holds_eq, isAlways_combine_or, isIdle_combine_or, List.not_all_eq_any_not, List.any_filter]
  cases ps.all (·.isAlways) <;> simp [isIdle]

theorem holds_butNone (p : Predicate entity) (ps : List (Predicate entity)) (r : Record ε) :
    (butNone (p :: ps)).holds r = (p.holds r && ps.all (!·.holds r)) := by
  rw [butNone]
  induction ps generalizing p with
  | nil => simp
  | cons q rest ih => rw [List.foldl_cons, ih, holds_and, holds_negate, List.all_cons, Bool.and_assoc]

theorem holds_onlyIf (condition : Bool) (p : Predicate entity) (r : Record ε) :
    (onlyIf condition p).holds r = (!condition || p.holds r) := by
  cases condition <;> rfl

theorem holds_combine_perm {ps qs : List (Predicate entity)} (connective : Connective)
    (same : qs.Perm ps) (r : Record ε) :
    (combine connective qs).holds r = (combine connective ps).holds r := by
  cases connective with
  | and => rw [holds_combine_and, holds_combine_and, same.all_eq]
  | or => rw [holds_combine_or, holds_combine_or, same.all_eq, (same.filter _).any_eq]

/-- Brackets come to the same as the combination, which starts from a predicate that asks nothing. -/
theorem holds_grouping (connective : Connective) (grouping : Grouping (Predicate entity))
    (r : Record ε) :
    (grouping.joined (join connective)).holds r = (combine connective grouping.items).holds r := by
  cases connective with
  | and =>
    rw [holds_combine_and]
    exact grouping.test_joined (holds · r) fun p q => holds_and p q r
  | or =>
    -- `holds` itself does not split at an `or`, but both tests that decide it do.
    have free : (grouping.joined or).isAlways = grouping.items.all isAlways :=
      grouping.test_joined isAlways isAlways_or
    have idle : (grouping.joined or).isIdle r = grouping.items.all (isIdle r) :=
      grouping.test_joined (isIdle r) fun p q => isIdle_or p q r
    rw [join, holds_eq, holds_eq (combine .or _), isAlways_combine_or, isIdle_combine_or, free, idle]

/-- Joining is conjunction, negation and disjunction, but for what constrains nothing: a disjunction
leaves it out. Neither order nor brackets change what a list comes to. -/
theorem holds_joined (p q : Predicate entity) (ps : List (Predicate entity)) (condition : Bool)
    (r : Record ε) :
    (p.and q).holds r = (p.holds r && q.holds r) ∧
    p.negate.holds r = (!p.holds r) ∧
    (p.or q).holds r =
      (if p.isAlways then q.holds r else if q.isAlways then p.holds r
        else p.holds r || q.holds r) ∧
    (combine .and ps).holds r = ps.all (·.holds r) ∧
    (combine .or ps).holds r =
      (if ps.all (·.isAlways) then true else (ps.filter (!·.isAlways)).any (·.holds r)) ∧
    (butNone ([] : List (Predicate entity))).holds r = true ∧
    (butNone (p :: ps)).holds r = (p.holds r && ps.all (!·.holds r)) ∧
    (onlyIf condition p).holds r = (!condition || p.holds r) ∧
    ∀ connective,
      (∀ qs : List (Predicate entity), qs.Perm ps →
        (combine connective qs).holds r = (combine connective ps).holds r) ∧
      ∀ grouping : Grouping (Predicate entity), grouping.items.Perm ps →
        (grouping.joined (join connective)).holds r = (combine connective ps).holds r := by
  refine ⟨holds_and p q r, holds_negate p r, holds_or p q r, holds_combine_and ps r,
    holds_combine_or ps r, rfl, holds_butNone p ps r, holds_onlyIf condition p r, ?_⟩
  intro connective
  refine ⟨fun qs same => holds_combine_perm connective same r, ?_⟩
  intro grouping same
  rw [holds_grouping, holds_combine_perm connective same]

end Predicate

namespace Library

open Predicate

def titled (title : String) : Predicate book :=
  ⟨.compare ⟨book, [], ⟨"title", .string, false⟩⟩ .eq (.string title)⟩

def wishes : List (Predicate book) :=
  [never, titled "Dune", always]

def bracketed : Grouping (Predicate book) :=
  .pair (.item always) (.pair (.item (titled "Dune")) (.item never))

/-- What constrains nothing is left out of the disjunction wherever it stands. -/
theorem wishes_in_any_order : wishes.reverse.Perm wishes ∧ bracketed.items.Perm wishes ∧
    (combine .or wishes).holds (newBook "Emma" 120) = false ∧
    (combine .or wishes.reverse).holds (newBook "Emma" 120) = false ∧
    (bracketed.joined (join .or)).holds (newBook "Emma" 120) = false := by
  have reversed : wishes.reverse.Perm wishes := wishes.reverse_perm
  have fails : (combine .or wishes).holds (newBook "Emma" 120) = false := rfl
  obtain ⟨-, -, -, -, -, -, -, -, joins⟩ :=
    holds_joined (titled "Dune") never wishes true (newBook "Emma" 120)
  obtain ⟨inOrder, inBrackets⟩ := joins .or
  exact ⟨reversed, reversed, fails, (inOrder _ reversed).trans fails,
    (inBrackets bracketed reversed).trans fails⟩

end Library

end EntityQuery
