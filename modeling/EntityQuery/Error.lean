/-! The causes for which building or running a query fails, and the wording of each. -/

namespace EntityQuery

inductive QueryError where
  /-- A path names something that the entity reached does not have. -/
  | unresolvedPath (entity path segment : String)
  /-- A condition begins with a word that is no operator. -/
  | unknownOperator (token condition : String)
  /-- An operation does not suit what it is applied to. -/
  | invalidOperation (operation subject : String)
  /-- A value cannot be converted to a type. -/
  | notConvertible (value target : String)
  /-- A text is no date. -/
  | invalidDate (text : String)
  /-- A range is not given by two bounds. -/
  | malformedRange (bounds : Nat)
  /-- A filter or selector belongs to another entity than the path. -/
  | wrongEntity (expected actual : String)
  /-- A value is of another kind than the field. -/
  | wrongKind (expected actual : String)
  /-- The caller has called the query off. -/
  | cancelled
  /-- A configuration cannot be read. -/
  | invalidConfiguration
  deriving DecidableEq, Repr

namespace QueryError

def message : QueryError → String
  | unresolvedPath entity path segment =>
    "cannot resolve '" ++ path ++ "' on " ++ entity ++ ": no field '" ++ segment ++ "'"
  | unknownOperator token condition =>
    "unsupported operator '" ++ token ++ "' in '" ++ condition ++ "'"
  | invalidOperation operation subject =>
    "operator '" ++ operation ++ "' is not valid for " ++ subject ++ " values"
  | notConvertible value target => "cannot convert '" ++ value ++ "' to " ++ target
  | invalidDate text => "invalid date format for value: " ++ text
  | malformedRange bounds =>
    "malformed operand for 'range': expected 2 bounds, got " ++ Nat.repr bounds
  | wrongEntity expected actual => "expected entity " ++ expected ++ ", path reaches " ++ actual
  | wrongKind expected actual =>
    "type mismatch: field expects " ++ expected ++ ", got " ++ actual
  | cancelled => "query was cancelled"
  | invalidConfiguration => "invalid configuration"

end QueryError

end EntityQuery
