import EntityQuery.Value.Basic

/-! The order in which values are sorted. Unlike comparison it places every pair. -/

namespace EntityQuery

namespace Value

def kindRank : Value → Nat
  | bool _ => 0
  | char _ => 1
  | number _ => 2
  | string _ => 3
  | date _ | dateTime _ => 4
  | null => 5

/-- Values of one kind by comparison, numbers that do not compare by the total order of doubles,
and values of two kinds by the kind. -/
def sortCompare : Value → Value → Ordering
  | number x, number y => (x.compare? y).getD (x.toBinary64.totalCompare y.toBinary64)
  | a, b => if a.kindRank = b.kindRank then (a.compare? b).getD .eq
    else compare a.kindRank b.kindRank

end Value

inductive Direction where
  | ascending
  | descending
  deriving DecidableEq, Repr

namespace Direction

def all : List Direction := [ascending, descending]

def isAscending : Direction → Bool
  | ascending => true
  | descending => false

def isDescending (d : Direction) : Bool :=
  !d.isAscending

def apply : Direction → Ordering → Ordering
  | ascending, o => o
  | descending, o => o.swap

def name : Direction → String
  | ascending => "asc"
  | descending => "desc"

end Direction

end EntityQuery
