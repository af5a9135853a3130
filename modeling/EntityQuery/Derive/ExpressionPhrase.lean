import EntityQuery.Derive.PatternPhrase
import EntityQuery.Text.Split

/-! Expressions, from operands and operators up. -/

namespace EntityQuery.Derive

open EntityQuery.Text

def Precedence.exceeds (a b : Precedence) : Bool :=
  b.ctorIdx < a.ctorIdx

def binaryOperators : List (String × Precedence) :=
  [("+=", .assignment), ("-=", .assignment), ("*=", .assignment), ("/=", .assignment),
    ("%=", .assignment), ("^=", .assignment), ("&=", .assignment), ("|=", .assignment),
    ("<<=", .assignment), (">>=", .assignment), ("&&", .and), ("||", .or), ("<<", .shift),
    (">>", .shift), ("==", .comparison), ("<=", .comparison), ("!=", .comparison),
    (">=", .comparison), ("+", .addition), ("-", .addition), ("*", .product), ("/", .product),
    ("%", .product), ("^", .bitXor), ("&", .bitAnd), ("|", .bitOr), ("<", .comparison),
    (">", .comparison)]

def binaryOperator? (tokens : List SourceToken) : Option (String × Precedence) :=
  binaryOperators.find? fun (marks, _) => SourceToken.startsMark marks tokens

namespace Grammar

open Reader

/-! ### Operators -/

def seesAssignment : Reader Bool := do
  return (← seesMark "=") && !(← seesMark "=>")

def nextPrecedence : Reader Precedence := do
  match binaryOperator? (← get).tokens with
  | some (_, precedence) => return precedence
  | none =>
    if ← seesAssignment then return .assignment
    else if ← seesMark ".." then return .range
    else if ← seesWord "as" then return .cast
    else return .any

/-- Lets the operators that bind tighter take an operand, as long as they take anything. -/
def extendOperand (g : Grammar) (structs : Bool) (precedence : Precedence)
    (operand : ExpressionForm) : Nat → Reader ExpressionForm
  | 0 => return operand
  | count + 1 => do
    let next ← nextPrecedence
    if next.exceeds precedence || next == .assignment && precedence == .assignment then
      let before := (← get).tokens.length
      let operand ← g.operation structs next operand
      if (← get).tokens.length = before then return operand
      extendOperand g structs precedence operand count
    else return operand

def rightOperand (g : Grammar) (structs : Bool) (precedence : Precedence) : Reader Unit := do
  discard (extendOperand g structs precedence (← g.operand structs) (← limit))

/-- The dots between the bounds of a range: whether the upper bound may be missing. -/
def expressionDots : Reader Bool := do
  if ← seesMark "..=" then
    mark "..="
    return false
  else if (← seesMark "..") && !(← seesMark "...") then
    mark ".."
    return true
  else expectedOneOf [quoted "..", quoted "..="]

def seesRangeEnd (structs : Bool) : Reader Bool := do
  let marks := [",", ";", "?", "=>", "=", "+", "/", "%", "^", ">", "<=", "!=", "-=", "*=", "&=",
    "|=", "<<="]
  return (← seesEnd) || (← sees fun tokens => marks.any (SourceToken.startsMark · tokens)) ||
    (← seesMark ".") && !(← seesMark "..") || !structs && (← seesGroup '\x7b') || (← seesWord "as")

def rangeFromDots (g : Grammar) (structs : Bool) : Reader Unit := do
  let opens ← expressionDots
  if opens && (← seesRangeEnd structs) then return
  g.rightOperand structs .range

def checkCast : Reader Unit := do
  let what? ←
    if (← seesMark ".") && !(← seesMark "..") then
      if ← seesWord "await" 1 then pure (some (quoted ".await"))
      else if (← seesName 1) && ((← seesGroup '(' 2) || (← seesMark "::" 2)) then
        pure (some "a method call")
      else pure (some "a field access")
    else if ← seesMark "?" then pure (some (quoted "?"))
    else if ← seesGroup '[' then pure (some "indexing")
    else if ← seesGroup '(' then pure (some "a function call")
    else pure none
  match what? with
  | some what => complain ("casts cannot be followed by " ++ what)
  | none => pure ()

/-- Operators that bind at least as tightly as `base`, with their operands on the right. A range is
no left operand, and comparisons do not follow one another. -/
def operations (g : Grammar) (structs : Bool) (base : Precedence) (left : ExpressionForm) :
    Nat → Reader ExpressionForm
  | 0 => return left
  | count + 1 => do
    if left = .range then return left
    match binaryOperator? (← get).tokens with
    | some (marks, precedence) =>
      if base.exceeds precedence then return left
      if precedence = .comparison ∧ left = .comparison then
        complain "comparison operators cannot be chained"
      mark marks
      g.rightOperand structs precedence
      let form := if precedence = .comparison then ExpressionForm.comparison else .other
      operations g structs base form count
    | none =>
      if !base.exceeds .assignment && (← seesAssignment) then
        mark "="
        g.rightOperand structs .assignment
        operations g structs base .other count
      else if !base.exceeds .range && (← seesMark "..") then
        g.rangeFromDots structs
        operations g structs base .range count
      else if !base.exceeds .cast && (← seesWord "as") then
        word "as"
        discard (g.type false)
        checkCast
        operations g structs base .other count
      else return left

def operationOf (g : Grammar) (structs : Bool) (base : Precedence) (left : ExpressionForm) :
    Reader ExpressionForm := do
  operations g structs base left (← limit)

def expressionOf (g : Grammar) (structs : Bool) : Reader ExpressionForm := do
  operationOf g structs .any (← g.operand structs)

/-! ### Members -/

/-- The indices of members that look like a number with a point: whether the last one is still to
come. -/
def memberIndices (text : String) : Reader Bool := do
  let parts := pieces '.' text.toList
  let trailing := parts.getLast? == some []
  let indices ← (if trailing then parts.dropLast else parts).mapM fun part => do
    if (afterDecimal? part).isSome then throw "expected integer literal"
    indexOfLiteral (String.ofList part)
  print (".".intercalate (indices.map toString))
  if trailing then print "."
  return trailing

def callList (g : Grammar) : Reader Unit := do
  discard (group '(' (commaList (g.expression true)))

def namedMember (g : Grammar) : Reader Unit := do
  if ← memberName then
    let generic ← seesMark "::"
    if generic then
      mark "::"
      discard g.angleArguments
    if generic || (← seesGroup '(') then g.callList

def member (g : Grammar) : Reader Unit := do
  let last ← match (← get).tokens with
    | .literal text .decimal :: _ =>
      discard (captured (take 1))
      memberIndices text
    | _ => pure true
  if last then
    if !(← word? "await") then g.namedMember

def trailers (g : Grammar) (form : ExpressionForm) : Nat → Reader ExpressionForm
  | 0 => return form
  | count + 1 => do
    if ← seesGroup '(' then
      g.callList
      trailers g .other count
    else if (← seesMark ".") && !(← seesMark "..") && form != .range then
      mark "."
      g.member
      trailers g .other count
    else if ← seesGroup '[' then
      discard (group '[' (g.expression true))
      trailers g .other count
    else if (← seesMark "?") && form != .range then
      mark "?"
      trailers g .other count
    else return form

def trailersOfBlock (g : Grammar) : Reader ExpressionForm := do
  if (← seesMark ".") && !(← seesMark "..") || (← seesMark "?") then trailers g .block (← limit)
  else return .block

/-! ### Operands -/

def seesExpression : Reader Bool := do
  let startsWith (marks : String) (longer : List String) : Reader Bool :=
    sees fun tokens => SourceToken.startsMark marks tokens &&
      !longer.any (SourceToken.startsMark · tokens)
  return (← sees SourceToken.startsAnyWord) && !(← seesWord "as") || (← seesGroup '(') ||
    (← seesGroup '[') || (← seesGroup '\x7b') || (← seesLiteral) || (← startsWith "!" ["!="]) ||
    (← startsWith "-" ["-=", "->"]) || (← startsWith "*" ["*="]) || (← startsWith "|" ["|="]) ||
    (← startsWith "&" ["&="]) || (← seesMark "..") || (← startsWith "<" ["<=", "<<="]) ||
    (← seesMark "::") || (← seesLifetime) || (← seesMark "#")

def optionalExpression (g : Grammar) : Reader Unit := do
  if ← seesExpression then discard (g.expression true)

def fieldValue (g : Grammar) : Reader Unit := do
  g.attributes
  let named ← memberName
  if !named || (← seesMark ":") then
    mark ":"
    discard (g.expression true)

def fieldValues (g : Grammar) : Nat → Reader Unit
  | 0 => pure ()
  | count + 1 => do
    if ← seesEnd then return
    if ← mark? ".." then
      if !(← seesEnd) then discard (g.expression true)
      return
    g.fieldValue
    if ← seesEnd then return
    mark ","
    fieldValues g count

def pathExpression (g : Grammar) (structs : Bool) : Reader ExpressionForm := do
  let (qualified, path) ← g.qualifiedPath true
  if !qualified && (← seesMark "!") && !(← seesMark "!=") && path.simple then
    mark "!"
    let braced ← seesGroup '\x7b'
    anyGroup
    return if braced then .bracedCall else .other
  else
    if structs && (← seesGroup '\x7b') then group '\x7b' (do fieldValues g (← limit))
    return .other

/-- An argument of a closure. The attributes of a boxed one without a type are not printed. -/
def closureArgument (g : Grammar) : Reader Unit := do
  let (attributes, _) ← captured g.attributes
  let boxed ← seesWord "box"
  let (pattern, _) ← captured g.pattern
  if !boxed || (← seesMark ":") then print attributes
  print pattern
  if ← mark? ":" then discard (g.type true)

def closure (g : Grammar) (structs : Bool) : Reader Unit := do
  discard g.binder?
  for keyword in ["const", "static", "async", "move"] do
    discard (word? keyword)
  mark "|"
  discard (separated "," g.closureArgument (seesMark "|") (← limit))
  mark "|"
  if ← mark? "->" then
    discard (g.type true)
    g.block
  else discard (g.expression structs)

/-- Whether angles hold parameters, and not a type with a member. -/
def seesParameters (skip : Nat) : Reader Bool := do
  let named := (← seesLifetime (skip + 1)) || (← seesName (skip + 1))
  let ended := (← seesMark ">" (skip + 2)) || (← seesMark "," (skip + 2)) ||
    (← seesMark "=" (skip + 2)) || (← seesMark ":" (skip + 2)) && !(← seesMark "::" (skip + 2))
  return (← seesMark "<" skip) && ((← seesMark ">" (skip + 1)) || (← seesMark "#" (skip + 1)) ||
    (← seesWord "const" (skip + 1)) || named && ended)

def seesClosure : Reader Bool := do
  return (← seesMark "|") || (← seesWord "move") || (← seesWord "for") && (← seesParameters 1) ||
    (← seesWord "const") && !(← seesGroup '\x7b' 1) || (← seesWord "static") ||
    (← seesWord "async") && ((← seesMark "|" 1) || (← seesWord "move" 1))

def listInParentheses (g : Grammar) : Reader Unit := do
  if ← seesEnd then return
  discard (g.expression true)
  if !(← seesEnd) then
    mark ","
    discard (commaList (g.expression true))

def listInBrackets (g : Grammar) : Reader Unit := do
  if ← seesEnd then return
  discard (g.expression true)
  if ← seesEnd then return
  else if ← mark? "," then discard (commaList (g.expression true))
  else if ← mark? ";" then discard (g.expression true)
  else complain ("expected " ++ quoted "," ++ " or " ++ quoted ";")

def breakRest (g : Grammar) (structs : Bool) : Reader Unit := do
  if (← seesLifetime) && (← seesMark ":" 1) then
    discard (g.expression true)
    throw "parentheses required"
  discard lifetime?
  if (← seesExpression) && (structs || !(← seesGroup '\x7b')) then discard (g.expression true)

def binding (g : Grammar) (structs : Bool) : Reader Unit := do
  g.patternWithAlternatives
  mark "="
  discard (g.operation structs .comparison (← g.operand structs))

def branches (g : Grammar) : Nat → Reader Unit
  | 0 => pure ()
  | count + 1 => do
    discard (g.expression false)
    g.block
    if ← word? "else" then
      if ← word? "if" then branches g count
      else if ← seesGroup '\x7b' then g.block
      else expectedOneOf [quoted "if", "curly braces"]

def loop? (g : Grammar) : Reader Bool := do
  if ← word? "while" then
    discard (g.expression false)
    g.attributedBlock
    return true
  else if ← word? "for" then
    g.patternWithAlternatives
    word "in"
    discard (g.expression false)
    g.attributedBlock
    return true
  else if ← word? "loop" then
    g.attributedBlock
    return true
  else return false

def labeled (g : Grammar) : Reader Unit := do
  lifetime
  mark ":"
  if !(← g.loop?) then
    if ← seesGroup '\x7b' then g.attributedBlock
    else complain "expected loop or block expression"

def choice (g : Grammar) : Reader Unit := do
  g.attributes
  g.patternWithAlternatives
  if ← word? "if" then discard (g.expression true)
  mark "=>"
  let form ← g.statementExpression
  if form == .block || (← seesEnd) then discard (mark? ",") else mark ","

def choices (g : Grammar) : Reader Unit :=
  loopWhile (do return !(← seesEnd)) g.choice

def blockExpression? (g : Grammar) : Reader Bool := do
  if ← word? "if" then branches g (← limit)
  else if ← word? "match" then
    discard (g.expression false)
    group '\x7b' (do
      g.innerAttributes
      g.choices)
  else if (← seesWord "try") && (← seesGroup '\x7b' 1) then
    word "try"
    g.block
  else if (← word? "unsafe") || (← word? "const") || (← seesGroup '\x7b') then g.attributedBlock
  else if ← seesLifetime then g.labeled
  else return ← g.loop?
  return true

def keywordExpression? (g : Grammar) (structs : Bool) : Reader Bool := do
  if ← word? "break" then g.breakRest structs
  else if ← word? "continue" then discard lifetime?
  else if ← word? "return" then g.optionalExpression
  else if ← seesWord "become" then
    asWritten (do
      word "become"
      discard (g.expression true))
  else if ← word? "let" then g.binding structs
  else if ← word? "yield" then g.optionalExpression
  else return false
  return true

def seesPathExpression : Reader Bool := do
  return (← seesName) || (← seesMark "::") || (← seesMark "<") || (← seesWord "self") ||
    (← seesWord "Self") || (← seesWord "super") || (← seesWord "crate") ||
    (← seesWord "try") && ((← seesMark "!" 1) || (← seesMark "::" 1))

def atom (g : Grammar) (structs : Bool) : Reader ExpressionForm := do
  if ← seesLiteral then
    match ← literal with
    | .text value => return .text value
    | _ => return .other
  else if (← seesWord "async") && ((← seesGroup '\x7b' 1) ||
      (← seesWord "move" 1) && (← seesGroup '\x7b' 2)) then
    word "async"
    discard (word? "move")
    g.block
  else if ← seesClosure then g.closure structs
  else if (← seesWord "builtin") && (← seesMark "#" 1) then
    word "builtin"
    mark "#"
    discard name
    if ← seesGroup '(' then anyGroup else complain "expected parentheses"
  else if ← seesPathExpression then return ← g.pathExpression structs
  else if ← seesGroup '(' then group '(' g.listInParentheses
  else if ← seesGroup '[' then group '[' g.listInBrackets
  else if ← g.blockExpression? then return .block
  else if ← seesMark ".." then
    g.rangeFromDots structs
    return .range
  else if ← word? "_" then pure ()
  else if !(← g.keywordExpression? structs) then complain "expected an expression"
  return .other

def operandOf (g : Grammar) (structs : Bool) : Reader ExpressionForm := do
  let marked ← seesMark "#"
  g.attributes
  if ← mark? "&" then
    if (← seesWord "raw") && ((← seesWord "mut" 1) || (← seesWord "const" 1)) then
      word "raw"
      if !(← word? "mut") then word "const"
    else discard (word? "mut")
    discard (g.operand structs)
    return .other
  else if (← seesMark "*") || (← seesMark "!") || (← seesMark "-") then
    take 1
    discard (g.operand structs)
    return .other
  else
    let form ← trailers g (← g.atom structs) (← limit)
    if marked && form == .range then
      throw ("attributes are not allowed on range expressions starting with " ++ quoted "..")
    return form

def seesKeptOperand : Reader Bool :=
  sees fun tokens =>
    match tokens with
    | .word "become" :: _ => true
    | .word "builtin" :: .mark '#' _ :: .word _ :: .group '(' _ :: rest =>
      !SourceToken.startsGroup '(' rest && !SourceToken.startsGroup '[' rest &&
        !SourceToken.startsMark "?" rest &&
        (SourceToken.startsMark ".." rest || !SourceToken.startsMark "." rest)
    | _ => false

/-- Reads an expression behind attributes. A range gets parentheses behind them, and in front of an
operand that is kept as it is written they are not printed. -/
def behindAttributes (attributes : String) (expression : Reader ExpressionForm) :
    Reader ExpressionForm := do
  let kept ← seesKeptOperand
  let (text, form) ← captured expression
  print (
    if attributes.isEmpty then text
    else if form == .range then attributes ++ "(" ++ text ++ ")"
    else if kept then text
    else attributes ++ text)
  return form

/-- An expression where a statement may stand. Behind a block it goes on with a point or a question
mark only. -/
def statementExpressionOf (g : Grammar) : Reader ExpressionForm := do
  let (attributes, _) ← captured g.attributes
  let first ← behindAttributes attributes (do
    let isBlock ← if ← seesClosure then pure false else g.blockExpression?
    if isBlock then g.trailersOfBlock else operandOf g true)
  if first == .block then return .block else operationOf g true .any first

end Grammar

end EntityQuery.Derive
