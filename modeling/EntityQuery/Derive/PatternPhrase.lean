import EntityQuery.Derive.Literal
import EntityQuery.Derive.Path

/-! Patterns, which name the parts of values. -/

namespace EntityQuery.Derive

namespace Grammar

open Reader

/-! ### Members -/

def indexOfLiteral (text : String) : Reader Nat := do
  let (value, suffix) := wholeNumberParts text.toList
  if suffix ≠ [] then throw "expected unsuffixed integer"
  if UInt32.size ≤ value then throw "number too large to fit in target type"
  return value

/-- A member by its name or index: whether it has a name. An index is printed in base ten. -/
def memberName : Reader Bool := do
  match (← get).tokens with
  | .word _ :: _ =>
    if !(← seesName) then complain "expected identifier or integer"
    discard name
    return true
  | .literal text .integer :: _ =>
    let index ← indexOfLiteral text
    discard (captured (take 1))
    print (toString index)
    return false
  | .mark '-' _ :: .literal text .integer :: _ =>
    discard (indexOfLiteral text)
    throw "invalid digit found in string"
  | _ => complain "expected identifier or integer"

/-! ### Alternatives and ranges -/

def seesAlternative : Reader Bool := do
  return (← seesMark "|") && !(← seesMark "||") && !(← seesMark "|=")

def alternatives (g : Grammar) : Reader Unit := do
  loopWhile seesAlternative do
    mark "|"
    g.pattern

def patternWithAlternatives (g : Grammar) : Reader Unit := do
  if ← seesAlternative then mark "|"
  g.pattern
  g.alternatives

def seesOpenBound : Reader Bool := do
  return (← seesEnd) || (← seesMark "|") || (← seesMark "=") ||
    (← seesMark ":") && !(← seesMark "::") || (← seesMark ",") || (← seesMark ";") ||
    (← seesWord "if")

/-- The bound of a range, if there is one: whether it is there. -/
def rangeBound (g : Grammar) : Reader Bool := do
  if ← seesOpenBound then return false
  if ← seesLiteral then discard literal
  else if (← seesName) || (← seesMark "::") || (← seesMark "<") || (← seesWord "self") ||
      (← seesWord "Self") || (← seesWord "super") || (← seesWord "crate") then
    discard (g.qualifiedPath true)
  else if ← word? "const" then g.attributedBlock
  else expectedOneOf ["literal", "identifier", quoted "::", quoted "<", quoted "self",
    quoted "Self", quoted "super", quoted "crate", quoted "const"]
  return true

/-- The dots of a range: whether it needs an upper bound. Three dots are printed as two that do. -/
def rangeDots : Reader Bool := do
  if ← seesMark "..=" then
    mark "..="
    return true
  else if ← seesMark "..." then
    discard (captured (mark "..."))
    print "..="
    return true
  else
    mark ".."
    return false

def patternRange (g : Grammar) : Reader Unit := do
  let closed ← rangeDots
  if !(← g.rangeBound) && closed then complain "expected range upper bound"

/-! ### Patterns -/

def fieldPattern (g : Grammar) : Reader Unit := do
  let marked := (← word? "box") || (← word? "ref") || (← word? "mut")
  if marked then
    discard (word? "ref")
    discard (word? "mut")
    discard name
  else
    let named ← memberName
    if !named || (← seesMark ":") then
      mark ":"
      g.patternWithAlternatives

def fieldPatterns (g : Grammar) : Nat → Reader Unit
  | 0 => pure ()
  | count + 1 => do
    if ← seesEnd then return
    g.attributes
    if ← mark? ".." then return
    g.fieldPattern
    if ← seesEnd then return
    mark ","
    fieldPatterns g count

def pathPattern (g : Grammar) : Reader Unit := do
  let (qualified, path) ← g.qualifiedPath true
  if !qualified && (← seesMark "!") && !(← seesMark "!=") && path.simple then
    mark "!"
    anyGroup
  else if ← seesGroup '\x7b' then group '\x7b' (do fieldPatterns g (← limit))
  else if ← seesGroup '(' then discard (group '(' (commaList g.patternWithAlternatives))
  else if ← seesMark ".." then g.patternRange

def namePattern (g : Grammar) : Reader Unit := do
  discard (word? "ref")
  discard (word? "mut")
  if ← seesWord "self" then discard anyWord else discard name
  if ← mark? "@" then g.pattern

def missingPattern {α : Type} : Reader α :=
  expectedOneOf ["identifier", quoted "::", quoted "<", quoted "_", "literal", quoted "const",
    quoted "ref", quoted "mut", quoted "&", "parentheses", "square brackets", quoted "..",
    quoted "const"]

def seesPathPattern : Reader Bool := do
  let goesOn := (← seesMark "::" 1) || (← seesMark "!" 1) || (← seesGroup '\x7b' 1) ||
    (← seesGroup '(' 1) || (← seesMark ".." 1)
  return (← seesName) && goesOn || (← seesWord "self") && (← seesMark "::" 1) ||
    (← seesMark "::") || (← seesMark "<") || (← seesWord "Self") || (← seesWord "super") ||
    (← seesWord "crate")

def patternOf (g : Grammar) : Reader Unit := do
  if ← seesPathPattern then g.pathPattern
  else if ← word? "_" then pure ()
  else if ← seesWord "box" then
    asWritten (do
      word "box"
      g.pattern)
  else if (← seesMark "-") || (← seesLiteral) || (← seesWord "const") then
    discard g.rangeBound
    if ← seesMark ".." then g.patternRange
  else if (← seesWord "ref") || (← seesWord "mut") || (← seesWord "self") || (← seesName) then
    g.namePattern
  else if ← mark? "&" then
    discard (word? "mut")
    g.pattern
  else if ← seesGroup '(' then discard (group '(' (commaList g.patternWithAlternatives))
  else if ← seesGroup '[' then discard (group '[' (commaList g.patternWithAlternatives))
  else if (← seesMark "..") && !(← seesMark "...") then
    g.patternRange
  else missingPattern

end Grammar

end EntityQuery.Derive
