import EntityQuery.Schema.Comparison

/-! The words that a condition may begin with. -/

namespace EntityQuery

inductive ListMatch where
  | whole
  | wholeIgnoringCase
  | part
  | partIgnoringCase
  deriving DecidableEq, Repr

/-- A comparison, a range, or a list of which some item, or with `negated` no item, matches. -/
inductive Token where
  | compare (op : Comparison)
  | range
  | list (how : ListMatch) (negated : Bool)
  deriving DecidableEq, Repr

namespace Token

def all : List Token :=
  [.compare .lt, .compare .lte, .compare .gt, .compare .gte, .compare .eq, .compare .ne,
    .compare .eqIgnoringCase, .compare .contains, .compare .containsIgnoringCase, .range,
    .list .whole false, .list .whole true,
    .list .wholeIgnoringCase false, .list .wholeIgnoringCase true,
    .list .part false, .list .part true,
    .list .partIgnoringCase false, .list .partIgnoringCase true]

def ListMatch.name : ListMatch → String
  | .whole => "in"
  | .wholeIgnoringCase => "inci"
  | .part => "inlike"
  | .partIgnoringCase => "inlikeci"

def name : Token → String
  | compare op => op.name
  | range => "range"
  | list how negated => (if negated then "n" else "") ++ ListMatch.name how

def ofName? (word : String) : Option Token :=
  let lower := String.ofList (word.toList.map Char.toLower)
  all.find? (·.name == lower)

def isTextual : Token → Bool
  | compare op => op.isTextual
  | range => false
  | list how _ => how != .whole

def supports {ε : Type} (token : Token) : FieldType ε → Bool
  | .one _ | .many _ => false
  | .string => true
  | .bool =>
    match token with
    | compare .eq | compare .ne | list .whole _ => true
    | _ => false
  | _ => !token.isTextual

end Token

end EntityQuery
