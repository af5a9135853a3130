import EntityQuery.Query.Predicate
import EntityQuery.Query.Token

/-!
Conditions written as text: a word, a colon and an operand. A text of another form is a plain value.
-/

namespace EntityQuery

open EntityQuery.Text

namespace Condition

def isLetter (c : Char) : Bool :=
  c.isAlpha

def split? (raw : String) : Option (String × String) :=
  let word := raw.toList.takeWhile isLetter
  match raw.toList.dropWhile isLetter with
  | ':' :: operand => if word = [] then none else some (String.ofList word, String.ofList operand)
  | _ => none

variable {ε : Type}

/-- The items of a list operand. Those for a path that is no text are trimmed; empty items count
only for texts that are matched whole. -/
def items (config : Config) (path : Path ε) (parts : Bool) (operand : String) : List String :=
  let textual := path.type.isString
  ((splitOn config.listSeparator operand).map fun item => if textual then item else trim item).filter
    fun item => (textual && !parts) || item != ""

def anyOf : List (Node ε) → Node ε
  | [] => .constant false
  | first :: rest => rest.foldl Node.or first

def listNode (config : Config) (path : Path ε) (operand : String) :
    ListMatch → Except QueryError (Node ε)
  | .whole => do
    let values ← (items config path false operand).mapM (Coercion.ofText config path.leaf)
    return .member path (values.foldl insertNew []) false
  | .wholeIgnoringCase =>
    let values := (items config path false operand).map fun item => Value.string (lowercase item)
    .ok (.member path (values.foldl insertNew []) true)
  | .part =>
    let needles := (items config path true operand).map Value.string
    .ok (anyOf ((needles.foldl insertNew []).map (.compare path .contains)))
  | .partIgnoringCase =>
    let needles := (items config path true operand).map fun item => Value.string (lowercase item)
    .ok (anyOf ((needles.foldl insertNew []).map (.compare path .containsIgnoringCase)))

def literal (config : Config) (path : Path ε) (op : Comparison) (raw : String) :
    Except QueryError (Node ε) := do
  let value ← Coercion.ofText config path.leaf raw
  Node.comparison config path op value

def build (config : Config) (path : Path ε) (token : Token) (operand : String) :
    Except QueryError (Node ε) :=
  match token with
  | .compare op => literal config path op operand
  | .range =>
    match items config path false operand with
    | [lower, upper] => do
      let lower ← Coercion.ofText config path.leaf lower
      let upper ← Coercion.ofText config path.leaf upper
      let lower ← Node.comparison config path .gte lower
      let upper ← Node.comparison config path .lte upper
      return lower.and upper
    | bounds => .error (.malformedRange bounds.length)
  | .list how negated => do
    let node ← listNode config path operand how
    return if negated then node.negate else node

def orElse {entity : ε} (fallback : Option (Predicate entity))
    (attempt : Except QueryError (Node ε)) : Except QueryError (Predicate entity) :=
  match fallback with
  | some p => .ok p
  | none => attempt.map Predicate.mk

variable [Catalog ε]

/-- Reads a condition on a path. The fallback stands in for a plain value, which otherwise is to be
equalled, for an unknown word and for a token that does not suit the path. -/
def parse (config : Config) (entity : ε) (path raw : String)
    (fallback : Option (Predicate entity)) : Except QueryError (Predicate entity) := do
  let path ← Path.resolve entity path
  match split? raw with
  | none => orElse fallback (literal config path .eq raw)
  | some (word, operand) =>
    match Token.ofName? word with
    | none => orElse fallback (.error (.unknownOperator word raw))
    | some token =>
      if token.supports path.type then (build config path token operand).map Predicate.mk
      else orElse fallback (.error (.invalidOperation token.name path.type.name))

def parseOr (config : Config) (entity : ε) (path raw : String) (op : Comparison) :
    Except QueryError (Predicate entity) :=
  match split? raw with
  | some _ => parse config entity path raw none
  | none => do
    let path ← Path.resolve entity path
    let node ← literal config path op raw
    return ⟨node⟩

end Condition

end EntityQuery
