import EntityQuery.Schema.Basic
import EntityQuery.Value.Basic

/-! The comparisons of a field's value with a given one. -/

namespace EntityQuery

open EntityQuery.Text

inductive Comparison where
  | eq
  | ne
  | gt
  | gte
  | lt
  | lte
  | eqIgnoringCase
  | contains
  | containsIgnoringCase
  deriving DecidableEq, Repr

namespace Comparison

def all : List Comparison :=
  [eq, ne, gt, gte, lt, lte, eqIgnoringCase, contains, containsIgnoringCase]

def name : Comparison → String
  | eq => "eq"
  | ne => "ne"
  | gt => "gt"
  | gte => "gte"
  | lt => "lt"
  | lte => "lte"
  | eqIgnoringCase => "eqci"
  | contains => "like"
  | containsIgnoringCase => "likeci"

def isOrdering : Comparison → Bool
  | gt | gte | lt | lte => true
  | _ => false

def isTextual : Comparison → Bool
  | eqIgnoringCase | contains | containsIgnoringCase => true
  | _ => false

def supports {ε : Type} (op : Comparison) : FieldType ε → Bool
  | .one _ | .many _ => false
  | .string => true
  | .bool => !op.isOrdering && !op.isTextual
  | _ => !op.isTextual

def holdsOn : Comparison → Ordering → Bool
  | eq, o | eqIgnoringCase, o => o == .eq
  | ne, o => o != .eq
  | gt, o => o == .gt
  | gte, o => o != .lt
  | lt, o => o == .lt
  | lte, o => o != .gt
  | contains, _ | containsIgnoringCase, _ => false

/-- Compares a value with an expected one. The ordering comparisons fail on values that do not
compare. -/
def eval (op : Comparison) (actual expected : Value) : Bool :=
  match op with
  | eq => actual.equals expected
  | ne => !actual.equals expected
  | eqIgnoringCase => actual.foldCase.equals expected.foldCase
  | contains =>
    match actual, expected with
    | .string a, .string e => Text.contains a e
    | _, _ => false
  | containsIgnoringCase =>
    match actual, expected with
    | .string a, .string e => Text.contains (lowercase a) (lowercase e)
    | _, _ => false
  | op => ((actual.compare? expected).map op.holdsOn).getD false

end Comparison

end EntityQuery
