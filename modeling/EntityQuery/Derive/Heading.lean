import EntityQuery.Derive.Path

/-! What stands at the head of declarations: who may see them, their parameters and conditions. -/

namespace EntityQuery.Derive

namespace Grammar

open Reader

/-! ### Names -/

def seesPathName : Reader Bool := do
  return (← seesName) || (← seesWord "super") || (← seesWord "self") || (← seesWord "Self") ||
    (← seesWord "crate")

def pathNames : Nat → Reader (List String)
  | 0 => return []
  | count + 1 => do
    if !(← mark? "::") then return []
    if !(← seesPathName) then complain ("expected path segment after " ++ quoted "::")
    return (← anyWord) :: (← pathNames count)

/-- The names of a path without arguments. A path that starts at the root has an empty first name. -/
def simplePath : Reader (List String) := do
  let root := if ← mark? "::" then [""] else []
  let first ← if ← seesPathName then anyWord else name
  return root ++ first :: (← pathNames (← limit))

def nameOrNone : Reader Unit := do
  if ← seesWord "_" then discard anyWord else discard name

/-! ### Who may see it -/

def visibility? : Reader Bool := do
  if !(← word? "pub") then return false
  match (← get).tokens with
  | .group '(' [.word place] :: _ =>
    if ["crate", "self", "super"].contains place then take 1
  | .group '(' (.word "in" :: _) :: _ =>
    group '(' (do
      word "in"
      discard simplePath)
  | _ => pure ()
  return true

/-! ### Parameters -/

/-- A parameter: whether it is a lifetime. -/
def parameter (g : Grammar) : Reader Bool := do
  g.attributes
  let isLifetime ← seesLifetime
  if isLifetime then lifetimeParameter
  else if ← seesName then g.typeParameter
  else if ← seesWord "const" then g.constantParameter
  else if !(← word? "_") then expectedOneOf ["lifetime", "identifier", quoted "const"]
  return isLifetime

/-- Parameters in angles: whether there are any. Without any the angles are not printed. -/
def parameters? (g : Grammar) : Reader Bool := do
  if !(← seesMark "<") then return false
  let (text, parameters) ← captured (inAngles (do return (← g.parameter, ())))
  if !parameters.isEmpty then print text
  return !parameters.isEmpty

/-! ### Conditions -/

def seesConditionsEnd : Reader Bool := do
  return (← seesEnd) || (← seesGroup '\x7b') || (← seesMark ",") || (← seesMark ";") ||
    (← seesMark ":") && !(← seesMark "::") || (← seesMark "=")

def conditionBounds (bound : Reader Unit) : Nat → Reader Unit
  | 0 => pure ()
  | count + 1 => do
    if ← seesConditionsEnd then return
    bound
    if ← mark? "+" then conditionBounds bound count

def condition (g : Grammar) : Reader Unit := do
  if (← seesLifetime) && (← seesMark ":" 1) then
    lifetime
    mark ":"
    conditionBounds lifetime (← limit)
  else
    discard g.binder?
    discard (g.type true)
    mark ":"
    conditionBounds (do discard (g.bound false true)) (← limit)

def conditionList (g : Grammar) : Nat → Reader Unit
  | 0 => pure ()
  | count + 1 => do
    if ← seesConditionsEnd then return
    g.condition
    if ← mark? "," then conditionList g count

def conditions? (g : Grammar) : Reader Bool := do
  if !(← seesWord "where") then return false
  let (text, _) ← captured (do
    word "where"
    conditionList g (← limit))
  if text ≠ "where" then print text
  return true

def boundsUpTo (g : Grammar) (stop : Reader Bool) (constant : Bool) : Nat → Reader Unit
  | 0 => pure ()
  | count + 1 => do
    if ← stop then return
    discard (g.bound false constant)
    if ← stop then return
    mark "+"
    boundsUpTo g stop constant count

end Grammar

end EntityQuery.Derive
