import EntityQuery.Derive.Path

/-! Types as they are written. -/

namespace EntityQuery.Derive

namespace Grammar

open Reader

def missingType {α : Type} : Reader α :=
  expectedOneOf [quoted "for", "parentheses", quoted "fn", quoted "unsafe", quoted "extern",
    "identifier", quoted "::", quoted "<", quoted "dyn", "square brackets", quoted "*", quoted "&",
    quoted "!", quoted "impl", quoted "_", "lifetime"]

def missingBound {α : Type} : Reader α :=
  expectedOneOf ["identifier", quoted "fn", quoted "unsafe", quoted "extern", quoted "super",
    quoted "self", quoted "Self", quoted "crate"]

/-! ### Bounds -/

def moreBounds (g : Grammar) : Nat → Reader Nat
  | 0 => return 0
  | count + 1 => do
    if ← mark? "+" then
      discard (g.bound false false)
      return (← moreBounds g count) + 1
    else return 0

def trailingBounds (g : Grammar) : Reader Unit := do
  if ← mark? "+" then
    if ← seesBound false then discard (boundsOf g true false (← limit))

def objectBounds (g : Grammar) (plus : Bool) : Reader TypeForm := do
  let (bounds, trailing) ← boundsOf g plus false (← limit)
  if bounds.contains .named then return .bounds (trailing || bounds.length ≠ 1)
  else throw "at least one trait is required for an object type"

/-! ### Functions -/

def seesVariadic : Reader Bool := do
  return (← seesMark "...") ||
    ((← seesName) || (← seesWord "_")) && (← seesMark ":" 1) && (← seesMark "..." 2)

def variadic : Reader Unit := do
  if !(← seesMark "...") then
    discard anyWord
    mark ":"
  mark "..."
  discard (mark? ",")

/-- An argument of a function type, perhaps with a name. The first one may be `self`; behind `mut` it
is printed as it is written. -/
def functionArgument (g : Grammar) (first : Bool) : Reader Unit := do
  g.attributes
  keeping (do
    let isMutable := first && (← seesWord "mut") && (← seesWord "self" 1)
    if isMutable then word "mut"
    let isSelf := first && (← seesWord "self")
    let isNamed := ((← seesName) || (← seesWord "_") || isSelf) && (← seesMark ":" 1) &&
      !(← seesMark "::" 1)
    if isNamed then
      discard anyWord
      mark ":"
      discard (g.type true)
    else if isMutable then word "self"
    else discard (g.type true)
    return ((), isMutable))

def functionArguments (g : Grammar) (first : Bool) : Nat → Reader Unit
  | 0 => pure ()
  | count + 1 => do
    if ← seesEnd then return
    g.attributes
    if ← seesVariadic then variadic
    else
      g.functionArgument first
      if ← seesEnd then return
      mark ","
      functionArguments g false count

def functionType (g : Grammar) : Reader Unit := do
  discard (word? "unsafe")
  if ← word? "extern" then
    match (← get).tokens with
    | .literal _ (.text _) :: _ => discard literal
    | _ => pure ()
  word "fn"
  group '(' (do functionArguments g true (← limit))
  discard g.returned?

/-! ### Types -/

inductive Enclosed where
  | tuple
  | lifetimes
  | optionalBound
  | type (form : TypeForm)
  deriving DecidableEq

def tupleRest (g : Grammar) : Reader Unit := do
  mark ","
  discard (commaList (g.type true))

def enclosed (g : Grammar) : Reader Enclosed := do
  if ← seesEnd then return .tuple
  if ← seesLifetime then
    discard (g.objectBounds true)
    return .lifetimes
  if ← seesMark "?" then
    discard (g.namedBound false)
    return .optionalBound
  let (_, form) ← g.type true
  if ← seesMark "," then
    g.tupleRest
    return .tuple
  return .type form

def parenthesisType (g : Grammar) (plus : Bool) : Reader TypeForm := do
  let inside ← group '(' g.enclosed
  let joins ← seesMark "+"
  match inside with
  | .tuple => return .other
  | .lifetimes => return .inParentheses
  | .optionalBound => return .bounds ((← moreBounds g (← limit)) ≠ 0)
  | .type form =>
    if plus && joins && (form == .path true || form == .path false || form == .bounds false) then
      return .bounds ((← moreBounds g (← limit)) ≠ 0)
    else return .inParentheses

def namedType (g : Grammar) (plus bound : Bool) : Reader (TypeExpr × TypeForm) := do
  let (text, qualified, path) ← noted g.typePath
  let arguments := match path.arguments with
    | .angles arguments => arguments
    | _ => []
  let type : TypeExpr := .named text path.name arguments
  if qualified then return (type, .qualifiedPath)
  let calls := (← seesMark "!") && !(← seesMark "!=") && path.simple
  if calls then
    mark "!"
    anyGroup
    return (.other text, .other)
  let joins ← seesMark "+"
  if bound || plus && joins then
    if plus then g.trailingBounds
    return (.other text, .bounds (plus && joins))
  else
    let plain := match path.arguments with
      | .parentheses => false
      | _ => path.plain
    return (type, .path plain)

def unnamedType (g : Grammar) (plus : Bool) : Reader TypeForm := do
  if ← seesWord "dyn" then
    keeping (do
      word "dyn"
      let isPointer ← mark? "*"
      discard (g.objectBounds plus)
      return (.other, isPointer))
  else if ← seesGroup '[' then
    group '[' (do
      discard (g.type true)
      if ← mark? ";" then discard (g.expression true))
    return .other
  else if ← mark? "*" then
    if !(← word? "const") && !(← word? "mut") then expectedOneOf [quoted "const", quoted "mut"]
    discard (g.type false)
    return .other
  else if ← mark? "&" then
    discard lifetime?
    discard (word? "mut")
    discard (g.type false)
    return .other
  else if (← seesMark "!") && !(← seesMark "=") then
    mark "!"
    return .other
  else if ← word? "impl" then
    let (bounds, _) ← boundsOf g plus true (← limit)
    if bounds.contains .named then return .other
    else throw "at least one trait must be specified"
  else if ← word? "_" then return .other
  else if ← seesLifetime then g.objectBounds true
  else missingType

def seesTypePath : Reader Bool := do
  return (← seesName) || (← seesWord "super") || (← seesWord "self") || (← seesWord "Self") ||
    (← seesWord "crate") || (← seesMark "::") || (← seesMark "<")

def seesFunctionType : Reader Bool := do
  return (← seesWord "fn") || (← seesWord "unsafe") || (← seesWord "extern")

/-- A type; with `plus` it may be several bounds. -/
def typeOf (g : Grammar) (plus : Bool) : Reader (TypeExpr × TypeForm) := do
  let (text, type?, form) ← noted (do
    let bound ← g.binder?
    if bound then
      let path := (← seesTypePath) && !(← seesMark "::") && !(← seesMark "<")
      if !path && !(← seesFunctionType) then missingBound
    if ← seesGroup '(' then return (none, ← g.parenthesisType plus)
    else if ← seesFunctionType then
      g.functionType
      return (none, TypeForm.other)
    else if ← seesTypePath then
      let (type, form) ← g.namedType plus bound
      return (some type, form)
    else return (none, ← g.unnamedType plus))
  match type?, form with
  | some type, .path _ | some type, .qualifiedPath => return (type, form)
  | _, form => return (.other text, form)

end Grammar

end EntityQuery.Derive
