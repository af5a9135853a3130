import EntityQuery.Path.Basic
import EntityQuery.Query.Coercion
import EntityQuery.Schema.Comparison

/-!
Trees of tests on a record, and how they are joined. The tree that always holds stands for "no
constraint": it is left out of conjunctions and of disjunctions alike.
-/

namespace EntityQuery

open EntityQuery.Text

inductive Connective where
  | and
  | or
  deriving DecidableEq, Repr

inductive Node (ε : Type) where
  | constant (b : Bool)
  /-- Some value that the path reaches compares so with the given one. -/
  | compare (path : Path ε) (op : Comparison) (value : Value)
  /-- Some value that the path reaches is among those given, after folding its case if asked. -/
  | member (path : Path ε) (values : List Value) (ignoreCase : Bool)
  | all (children : List (Node ε))
  | any (children : List (Node ε))
  | not (child : Node ε)

namespace Node

variable {ε : Type}

def isTrue : Node ε → Bool
  | constant b => b
  | _ => false

/-! ### Joining -/

def and : Node ε → Node ε → Node ε
  | constant true, b => b
  | a, constant true => a
  | all as, all bs => all (as ++ bs)
  | all as, b => all (as ++ [b])
  | a, all bs => all (a :: bs)
  | a, b => all [a, b]

def or : Node ε → Node ε → Node ε
  | constant true, b => b
  | a, constant true => a
  | any as, any bs => any (as ++ bs)
  | any as, b => any (as ++ [b])
  | a, any bs => any (a :: bs)
  | a, b => any [a, b]

def negate : Node ε → Node ε
  | constant b => constant !b
  | not child => child
  | a => not a

def join : Connective → Node ε → Node ε → Node ε
  | .and => and
  | .or => or

def combine (connective : Connective) (nodes : List (Node ε)) : Node ε :=
  nodes.foldl (join connective) (constant true)

/-! ### Evaluation -/

def isMember (values : List Value) (ignoreCase : Bool) (actual : Value) : Bool :=
  values.any ((if ignoreCase then actual.foldCase else actual).equals ·)

mutual

def eval (r : Record ε) : Node ε → Bool
  | constant b => b
  | compare path op value => (path.read r).any (op.eval · value)
  | member path values ignoreCase => (path.read r).any (isMember values ignoreCase)
  | all children => evalAll r children
  | any children => evalAny r children
  | not child => !child.eval r

def evalAll (r : Record ε) : List (Node ε) → Bool
  | [] => true
  | child :: rest => child.eval r && evalAll r rest

def evalAny (r : Record ε) : List (Node ε) → Bool
  | [] => false
  | child :: rest => child.eval r || evalAny r rest

end

/-! ### Leaves -/

/-- A comparison with a value converted to the type of the path. Null is taken as it is for equality
and inequality, since a path through an unset relation reads as null. -/
def comparison (config : Config) (path : Path ε) (op : Comparison) (value : Value) :
    Except QueryError (Node ε) :=
  if !op.supports path.type then .error (.invalidOperation op.name path.type.name)
  else if value = .null ∧ (op = .eq ∨ op = .ne) then .ok (compare path op .null)
  else (Coercion.ofValue config path.leaf value).map (compare path op)

/-! ### Equality and text -/

def sameValues : List Value → List Value → Bool
  | [], [] => true
  | a :: as, b :: bs => a.same b && sameValues as bs
  | _, _ => false

mutual

/-- Equality of the trees, with `Path.same` and `Value.same` at the leaves. -/
def same [DecidableEq ε] : Node ε → Node ε → Bool
  | constant a, constant b => a == b
  | compare p o v, compare q o' w => p.same q && o == o' && v.same w
  | member p vs c, member q ws c' => p.same q && sameValues vs ws && c == c'
  | all as, all bs => sameAll as bs
  | any as, any bs => sameAll as bs
  | not a, not b => a.same b
  | _, _ => false

def sameAll [DecidableEq ε] : List (Node ε) → List (Node ε) → Bool
  | [], [] => true
  | a :: as, b :: bs => a.same b && sameAll as bs
  | _, _ => false

end

mutual

def display : Node ε → String
  | constant b => toString b
  | compare path op value => path.text ++ " " ++ op.name ++ " " ++ value.display
  | member path values ignoreCase =>
    path.text ++ (if ignoreCase then " inci [" else " in [") ++
      joined ", " (values.map (·.display)) ++ "]"
  | all children => "(" ++ joined " and " (displayAll children) ++ ")"
  | any children => "(" ++ joined " or " (displayAll children) ++ ")"
  | not child => "not " ++ child.display

def displayAll : List (Node ε) → List String
  | [] => []
  | child :: rest => child.display :: displayAll rest

end

end Node

end EntityQuery
