import EntityQuery.Derive.Grammar

/-!
Paths of names, with arguments in angles or parentheses, and the bounds that are made of them. What
stands in angles is printed with the lifetimes first.
-/

namespace EntityQuery.Derive

inductive NameArguments where
  | none
  | angles (arguments : List (Option TypeExpr))
  | parentheses

/-- A path as far as its last name. A plain path is one name alone, and no name of a simple path has
arguments. -/
structure PathReading where
  name : String
  arguments : NameArguments
  plain : Bool
  simple : Bool

structure AngleItem (α : Type) where
  text : String
  isLifetime : Bool
  value : α
  comma : Bool

namespace Grammar

open Reader

/-! ### Angles -/

def angleItems {α : Type} (item : Reader (Bool × α)) : Nat → Reader (List (AngleItem α))
  | 0 => return []
  | count + 1 => do
    if ← seesMark ">" then return []
    let (text, isLifetime, value) ← captured item
    if ← seesMark ">" then return [⟨text, isLifetime, value, false⟩]
    discard (captured (mark ","))
    return ⟨text, isLifetime, value, true⟩ :: (← angleItems item count)

def printedItems {α : Type} (items : List (AngleItem α)) : String :=
  let ordered := items.filter (·.isLifetime) ++ items.filter (!·.isLifetime)
  (ordered.foldl (fun (text, separated) a =>
    (text ++ (if separated then "" else ",") ++ a.text ++ (if a.comma then "," else ""), a.comma))
    ("", true)).1

def inAngles {α : Type} (item : Reader (Bool × α)) : Reader (List α) := do
  mark "<"
  let items ← angleItems item (← limit)
  print (printedItems items)
  mark ">"
  return items.map (·.value)

/-! ### Arguments -/

def constantArgument (g : Grammar) : Reader Unit := do
  if ← seesLiteral then discard literal
  else if ← seesName then discard name
  else if ← seesGroup '\x7b' then g.attributedBlock
  else if ← seesEnd then throw "unexpected end of input"
  else throw "unexpected token"

def argumentBounds (g : Grammar) : Nat → Reader Unit
  | 0 => pure ()
  | count + 1 => do
    if (← seesMark ",") || (← seesMark ">") then return
    discard (g.bound false true)
    if ← mark? "+" then argumentBounds g count

/-- An argument: whether it is a lifetime, and the type that it is, if it is one. -/
def argument (g : Grammar) : Reader (Bool × Option TypeExpr) := do
  if (← seesLifetime) && !(← seesMark "+" 1) then
    lifetime
    return (true, none)
  else if (← seesLiteral) || (← seesGroup '\x7b') then
    g.constantArgument
    return (false, none)
  else
    let (type, form) ← g.type true
    if form ≠ .path true then return (false, some type)
    else if ← mark? "=" then
      if (← seesLiteral) || (← seesGroup '\x7b') then g.constantArgument
      else discard (g.type true)
      return (false, none)
    else if ← mark? ":" then
      argumentBounds g (← limit)
      return (false, none)
    else return (false, some type)

def angleArguments (g : Grammar) : Reader (List (Option TypeExpr)) :=
  inAngles g.argument

def returned? (g : Grammar) : Reader (Option TypeForm) := do
  if ← mark? "->" then return some (← g.type false).2 else return none

def parenthesisArguments (g : Grammar) : Reader (Option TypeForm) := do
  discard (group '(' (commaList (g.type true)))
  g.returned?

/-! ### Paths -/

/-- A part of a path. In an expression, angles need colons before them. -/
def pathPart (g : Grammar) (inExpression : Bool) : Reader (String × NameArguments) := do
  if (← seesWord "super") || (← seesWord "self") || (← seesWord "crate") || (← seesWord "try") then
    return (← anyWord, .none)
  let name ← if ← seesWord "Self" then anyWord else name
  let angles := (← seesMark "<") && !(← seesMark "<=") && !(← seesMark "<<=")
  if !inExpression && angles || (← seesMark "::") && (← seesMark "<" 2) then
    discard (mark? "::")
    return (name, .angles (← g.angleArguments))
  else return (name, .none)

def extendPath (path : PathReading) (part : String × NameArguments) : PathReading :=
  let bare := match part.2 with
    | .none => true
    | _ => false
  { name := part.1, arguments := part.2, plain := false, simple := path.simple && bare }

def pathRest (g : Grammar) (inExpression : Bool) (path : PathReading) : Nat → Reader PathReading
  | 0 => return path
  | count + 1 => do
    if (← seesMark "::") && !(← seesGroup '(' 2) then
      mark "::"
      pathRest g inExpression (extendPath path (← g.pathPart inExpression)) count
    else return path

def path (g : Grammar) (inExpression : Bool) : Reader PathReading := do
  let rooted ← mark? "::"
  let (name, arguments) ← g.pathPart inExpression
  let simple := match arguments with
    | .none => true
    | _ => false
  pathRest g inExpression ⟨name, arguments, !rooted, simple⟩ (← limit)

def memberPath (g : Grammar) (inExpression : Bool) (path : PathReading) : Nat → Reader PathReading
  | 0 => return path
  | count + 1 => do
    let path := extendPath path (← g.pathPart inExpression)
    if ← mark? "::" then memberPath g inExpression path count else return path

/-- A path, or a member of a type in angles: whether it is the latter. -/
def qualifiedPath (g : Grammar) (inExpression : Bool) : Reader (Bool × PathReading) := do
  if ← mark? "<" then
    discard (g.type true)
    if ← word? "as" then discard (g.path false)
    mark ">"
    mark "::"
    return (true, ← memberPath g inExpression ⟨"", .none, false, true⟩ (← limit))
  else return (false, ← g.path inExpression)

def seesParentheses : Reader Bool := do
  return (← seesGroup '(') || (← seesMark "::") && (← seesGroup '(' 2)

def callArguments (g : Grammar) : Reader (Option TypeForm) := do
  discard (captured (mark? "::"))
  g.parenthesisArguments

def pathCalls (g : Grammar) (path : PathReading) : Nat → Reader PathReading
  | 0 => return path
  | count + 1 => do
    match path.arguments with
    | .none =>
      if ← seesParentheses then
        let result ← g.callArguments
        let path := { path with arguments := .parentheses, simple := false }
        let path ← if result.all (· == .inParentheses) then pathRest g false path (← limit)
          else pure path
        pathCalls g path count
      else return path
    | _ => return path

def typePath (g : Grammar) : Reader (Bool × PathReading) := do
  let (qualified, path) ← g.qualifiedPath false
  return (qualified, ← pathCalls g path (← limit))

/-! ### Parameters and bounds -/

def lifetimeBounds : Nat → Reader Unit
  | 0 => pure ()
  | count + 1 => do
    if (← seesMark ",") || (← seesMark ">") then return
    lifetime
    if ← mark? "+" then lifetimeBounds count

def parameterBounds (g : Grammar) : Nat → Reader Unit
  | 0 => pure ()
  | count + 1 => do
    if (← seesMark ",") || (← seesMark ">") || (← seesMark "=") then return
    discard (g.bound false true)
    if ← mark? "+" then parameterBounds g count

/-- Bounds behind a colon: whether it is there. A colon without bounds is not printed. -/
def bounds? (bounds : Nat → Reader Unit) : Reader Bool := do
  if ← seesMark ":" then
    let (text, _) ← captured (do
      mark ":"
      bounds (← limit))
    if text ≠ ":" then print text
    return true
  else return false

def lifetimeParameter : Reader Unit := do
  lifetime
  discard (bounds? lifetimeBounds)

def typeParameter (g : Grammar) : Reader Unit := do
  discard name
  discard (bounds? g.parameterBounds)
  if ← mark? "=" then discard (g.type true)

def constantParameter (g : Grammar) : Reader Unit := do
  word "const"
  discard name
  mark ":"
  discard (g.type true)
  if ← mark? "=" then g.constantArgument

def binder? (g : Grammar) : Reader Bool := do
  if !(← word? "for") then return false
  mark "<"
  discard (separated "," (do
    g.attributes
    if ← seesName then g.typeParameter
    else if ← seesLifetime then lifetimeParameter
    else if ← seesWord "const" then g.constantParameter
    else expectedOneOf ["identifier", "lifetime", quoted "const"]) (seesMark ">") (← limit))
  mark ">"
  return true

/-- What a bound with a name says: whether it is for constants too. -/
def namedBound (g : Grammar) (constant : Bool) : Reader Bool := do
  let bound ← g.binder?
  let isConditional ← seesGroup '['
  let isConstant ← if isConditional then pure true else seesWord "const"
  if isConditional then group '[' (word "const") else discard (word? "const")
  if isConstant && !constant then
    throw (quoted (if isConditional then "[const]" else "const") ++ " is not allowed here")
  let optional ← mark? "?"
  let bound ← if optional && !bound then g.binder? else pure bound
  let path ← g.path false
  match path.arguments with
  | .none => if ← seesParentheses then discard g.callArguments
  | _ => pure ()
  if optional && bound then
    throw (quoted "for<...>" ++ " binder not allowed with " ++ quoted "?" ++
      " trait polarity modifier")
  return isConstant

def captures : Reader Unit := do
  word "use"
  discard (inAngles (do
    let isLifetime ← lifetime?
    if !isLifetime then
      if (← seesName) || (← seesWord "Self") then discard anyWord
      else expectedOneOf ["lifetime", "identifier", quoted ">"]
    if !(← seesMark ",") && !(← seesMark ">") then expectedOneOf [quoted ",", quoted ">"]
    return (isLifetime, ())))

def boundOf (g : Grammar) (capture constant : Bool) : Reader BoundForm := do
  if ← lifetime? then return .lifetime
  else if ← seesWord "use" then
    captures
    if capture then return .capture
    else throw (quoted "use<...>" ++ " precise capturing syntax is not allowed here")
  else
    keeping (do
      let isConstant ←
        if ← seesGroup '(' then group '(' (g.namedBound constant) else g.namedBound constant
      return (.named, isConstant))

def seesBound (constant : Bool) : Reader Bool := do
  return (← sees SourceToken.startsAnyWord) || (← seesMark "::") || (← seesMark "?") ||
    (← seesLifetime) || (← seesGroup '(') || constant && (← seesGroup '[')

/-- Bounds with a plus between them, and perhaps one at the end: whether it is there. With `special`
captures and bounds for constants are allowed. -/
def boundsOf (g : Grammar) (plus special : Bool) : Nat → Reader (List BoundForm × Bool)
  | 0 => return ([], false)
  | count + 1 => do
    let first ← g.bound special special
    if !plus then return ([first], false)
    if !(← mark? "+") then return ([first], false)
    if !(← seesBound special) then return ([first], true)
    let (rest, trailing) ← boundsOf g plus special count
    return (first :: rest, trailing)

end Grammar

end EntityQuery.Derive
