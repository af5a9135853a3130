import EntityQuery.Schema.Basic

/-! The types of struct fields, as far as it matters which containers they are made of. -/

namespace EntityQuery.Derive

/-- A type that is named by a path has a last name and arguments, some of which are types. -/
inductive TypeExpr where
  | named (text name : String) (arguments : List (Option TypeExpr))
  | other (text : String)

namespace TypeExpr

def text : TypeExpr → String
  | named text _ _ => text
  | other text => text

/-- The type without any spaces, even where they stand in a literal. -/
def display (t : TypeExpr) : String :=
  String.ofList (t.text.toList.filter (· != ' '))

def inside? (container : String) : TypeExpr → Option TypeExpr
  | named _ name (some inner :: _) => if name = container then some inner else none
  | _ => none

def isOption (t : TypeExpr) : Bool :=
  (t.inside? "Option").isSome

/-- The relation that a type stands for: a list leads to many records and a box to one, under at
most one option. -/
def relation? (t : TypeExpr) : Option RelationKind :=
  let t := (t.inside? "Option").getD t
  if (t.inside? "Vec").isSome then some .many
  else if (t.inside? "Box").isSome then some .one
  else none

def innermost : TypeExpr → TypeExpr
  | named text name (some inner :: rest) =>
    if ["Option", "Box", "Vec"].contains name then innermost inner
    else named text name (some inner :: rest)
  | t => t

end TypeExpr

end EntityQuery.Derive
