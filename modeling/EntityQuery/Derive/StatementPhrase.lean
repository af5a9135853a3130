import EntityQuery.Derive.DeclarationPhrase

/-! Statements: bindings, expressions and declarations. -/

namespace EntityQuery.Derive

namespace SourceToken

def afterNames? : List SourceToken → Option (List SourceToken)
  | .word text :: rest =>
    if !keywords.contains text || ["super", "self", "Self", "crate"].contains text then
      match rest with
      | .mark ':' true :: .mark ':' _ :: more => afterNames? more
      | rest => some rest
    else none
  | _ => none

def afterCall? (tokens : List SourceToken) : Option (List SourceToken) := do
  let tokens := if startsMark "::" tokens then tokens.drop 2 else tokens
  match ← afterNames? tokens with
  | .mark '!' _ :: rest => some rest
  | _ => none

end SourceToken

namespace Grammar

open Reader

def seesDeclaration : Reader Bool := do
  let plain ← seesAnyOf ["pub", "extern", "use", "fn", "mod", "type", "struct", "enum", "trait",
    "impl", "macro"] 0
  let functionBehind (skip : Nat) := seesAnyOf ["unsafe", "extern", "fn"] skip
  let closureBehind := (← seesGroup '\x7b' 1) || (← seesAnyOf ["static", "move"] 1) ||
    (← seesMark "|" 1) || (← seesWord "async" 1) && !(← functionBehind 2)
  return plain || (← seesWord "crate") && !(← seesMark "::" 1) ||
    (← seesWord "static") && ((← seesWord "mut" 1) || (← seesName 1)) ||
    (← seesWord "const") && !closureBehind ||
    (← seesWord "unsafe") && !(← seesGroup '\x7b' 1) ||
    (← seesWord "async") && (← functionBehind 1) || (← seesWord "union") && (← seesName 1) ||
    (← seesWord "auto") && (← seesWord "trait" 1) ||
    (← seesWord "default") && (← seesAnyOf ["unsafe", "impl"] 1)

def bracedCallLength? (tokens : List SourceToken) : Option Nat := do
  let rest ← SourceToken.afterCall? tokens
  let after := rest.drop 1
  let goesOn := SourceToken.startsMark "." after && !SourceToken.startsMark ".." after ||
    SourceToken.startsMark "?" after
  if SourceToken.startsGroup '\x7b' rest && !goesOn then some (tokens.length - after.length)
  else none

def startsNamedCall (tokens : List SourceToken) : Bool :=
  match SourceToken.afterCall? tokens with
  | some rest => SourceToken.startsName rest || SourceToken.startsWord "try" rest
  | none => false

def endsWithBraces {α : Type} (reader : Reader α) : Reader Bool := do
  let before := (← get).tokens
  discard reader
  let count := before.length - (← get).tokens.length
  return SourceToken.startsGroup '\x7b' (before.drop (count - 1))

def localBinding (g : Grammar) : Reader Unit := do
  word "let"
  g.pattern
  if ← mark? ":" then discard (g.type true)
  if ← mark? "=" then
    let closed ← endsWithBraces (g.expression true)
    if !closed then
      if ← word? "else" then g.block
  mark ";"

/-- A statement: whether another one can follow it at once, and whether it is printed as it is
written. -/
def statement (g : Grammar) : Reader (Bool × Bool) := do
  let (attributes, _) ← captured g.attributes
  let tokens := (← get).tokens
  match bracedCallLength? tokens with
  | some length =>
    print attributes
    take length
    discard (mark? ";")
    return (true, false)
  | none =>
    if ← seesWord "let" then
      print attributes
      g.localBinding
      return (true, false)
    else if startsNamedCall tokens || (← seesDeclaration) then
      print attributes
      return (true, ← g.declarationBody)
    else
      let form ← behindAttributes attributes g.statementExpression
      return ((← mark? ";") || form == .block || form == .bracedCall, false)

def statementList (g : Grammar) : Nat → Reader Unit
  | 0 => pure ()
  | count + 1 => do
    if ← mark? ";" then statementList g count
    else if !(← seesEnd) then
      let complete ← keeping g.statement
      if !(← seesEnd) then
        if !complete then complain ("unexpected token, expected " ++ quoted ";")
        statementList g count

def statementsOf (g : Grammar) : Reader Unit := do
  statementList g (← limit)

end Grammar

end EntityQuery.Derive
