import EntityQuery.Derive.ExpressionPhrase
import EntityQuery.Derive.Heading

/-!
Declarations: functions, values, types, modules and what can stand in them. Most are printed in a
canonical form. Readers that may have to print one as it is written tell so by `true`.
-/

namespace EntityQuery.Derive

inductive Shape where
  | named
  | tuple
  | unit
  | enumeration
  | union
  deriving DecidableEq, Repr

namespace SourceToken

def dropWord (word : String) (tokens : List SourceToken) : List SourceToken :=
  if startsWord word tokens then tokens.drop 1 else tokens

def startsFunction (safe : Bool) (tokens : List SourceToken) : Bool :=
  let tokens := dropWord "async" (dropWord "const" tokens)
  let tokens :=
    if safe && startsWord "safe" tokens then tokens.drop 1 else dropWord "unsafe" tokens
  startsWord "fn" (match tokens with
    | .word "extern" :: .literal _ (.text _) :: rest => rest
    | .word "extern" :: rest => rest
    | rest => rest)

end SourceToken

namespace Grammar

open Reader

def seesAnyOf (words : List String) (skip : Nat) : Reader Bool :=
  sees (fun tokens => words.any (SourceToken.startsWord · tokens)) skip

/-- Reads, and prints the tokens as they were written where the reader says so. -/
def keepingUnit (reader : Reader Bool) : Reader Unit :=
  keeping (do return ((), ← reader))

def items (g : Grammar) (item : Reader Unit) : Reader Unit :=
  group '\x7b' (do
    g.innerAttributes
    loopWhile (do return !(← seesEnd)) item)

/-! ### Functions -/

def receiver (g : Grammar) : Reader Unit := do
  let borrowed ← mark? "&"
  if borrowed then discard lifetime?
  discard (word? "mut")
  word "self"
  if !borrowed then
    if ← mark? ":" then discard (g.type true)

def receiver? (g : Grammar) : Reader Bool :=
  tryCatch (do
    g.receiver
    return true) fun _ => return false

def variadicEnd : Reader Unit := do
  if !(← seesEnd) then mark ","

/-- The parameters of a function. Those of a method begin with the receiver. One without a name is
printed with a low line for it. -/
def functionParameters (g : Grammar) (first received : Bool) : Nat → Reader Unit
  | 0 => pure ()
  | count + 1 => do
    if ← seesEnd then return
    g.attributes
    if ← mark? "..." then
      variadicEnd
      return
    let isReceiver ← g.receiver?
    if isReceiver then
      if received then throw "unexpected second method receiver"
      if !first then throw "unexpected method receiver"
    else if (← seesName) && (← seesMark "<" 1) then
      print "_:"
      discard (g.type true)
    else
      g.pattern
      mark ":"
      if ← mark? "..." then
        variadicEnd
        return
      discard (g.type true)
    if ← seesEnd then return
    mark ","
    functionParameters g false (received || isReceiver) count

def interface? : Reader Unit := do
  if ← word? "extern" then
    match (← get).tokens with
    | .literal _ (.text _) :: _ => discard literal
    | _ => pure ()

/-- All of a function but its body: whether it is said to be safe. -/
def functionHead (g : Grammar) (safe : Bool) : Reader Bool := do
  discard (word? "const")
  discard (word? "async")
  let isUnsafe ← word? "unsafe"
  let isSafe ← if safe && !isUnsafe then word? "safe" else pure false
  interface?
  word "fn"
  discard name
  discard g.parameters?
  group '(' (do functionParameters g true false (← limit))
  if ← mark? "->" then discard (g.type true)
  discard g.conditions?
  return isSafe

def function (g : Grammar) : Reader Bool := do
  discard (g.functionHead false)
  if ← mark? ";" then return true
  g.attributedBlock
  return false

/-! ### Values and names of types -/

/-- A constant. With parameters or conditions, and where it `needsValue` without one, it is printed as
it is written. -/
def constant (g : Grammar) (needsValue : Bool) : Reader Bool := do
  word "const"
  if (← seesName) || (← seesWord "_") then discard anyWord
  else expectedOneOf ["identifier", quoted "_"]
  let hasAngles ← seesMark "<"
  discard g.parameters?
  mark ":"
  discard (g.type true)
  let hasValue ← mark? "="
  if hasValue then discard (g.expression true)
  let conditional ← g.conditions?
  mark ";"
  return hasAngles || conditional || needsValue && !hasValue

def globalVariable (g : Grammar) : Reader Bool := do
  word "static"
  discard (word? "mut")
  discard name
  if ← mark? "=" then
    discard (g.expression true)
    mark ";"
    return true
  mark ":"
  discard (g.type true)
  if ← mark? ";" then return true
  mark "="
  discard (g.expression true)
  mark ";"
  return false

/-- A name for a type: whether a colon and a type follow it. Conditions may stand before or after the
type. -/
def typeName (g : Grammar) (conditionsBefore conditionsAfter : Bool) : Reader (Bool × Bool) := do
  word "type"
  discard name
  discard g.parameters?
  let stop := do return (← seesWord "where") || (← seesMark "=") || (← seesMark ";")
  let hasColon ← bounds? (g.boundsUpTo stop true)
  let conditional ← if conditionsBefore then g.conditions? else pure false
  let hasType ← mark? "="
  if hasType then discard (g.type true)
  if conditionsAfter && !conditional then discard g.conditions?
  mark ";"
  return (hasColon, hasType)

def definedType (g : Grammar) (conditionsBefore conditionsAfter : Bool) : Reader Bool := do
  let (hasColon, hasType) ← g.typeName conditionsBefore conditionsAfter
  return hasColon || !hasType

/-! ### Types -/

/-- A field with a name, down to a depth. Where a low line stands for the name, fields may stand for
the type; they are printed as they are written. -/
def fieldUpTo (g : Grammar) : Nat → Reader (String × TypeExpr)
  | 0 => complain "unexpected token"
  | depth + 1 => do
    discard visibility?
    let unnamed ← seesWord "_"
    let name ← if unnamed then anyWord else name
    mark ":"
    if unnamed && ((← seesWord "struct") || (← seesWord "union") && (← seesGroup '{' 1)) then
      let (text, _) ← noted (asWritten (do
        discard anyWord
        discard (group '{' (commaList (do
          g.attributes
          fieldUpTo g depth)))))
      return (name, .other text)
    else return (name, (← g.type true).1)

def fieldWithName (g : Grammar) : Reader (String × TypeExpr) := do
  fieldUpTo g (SourceToken.countAll (← get).tokens + 1)

def namedField (g : Grammar) : Reader Unit := do
  g.attributes
  discard g.fieldWithName

def unnamedField (g : Grammar) : Reader Unit := do
  g.attributes
  discard visibility?
  discard (g.type true)

def structBody {α : Type} (g : Grammar) (field : Reader α) : Reader (Shape × List α) := do
  let conditional ← g.conditions?
  if !conditional && (← seesGroup '(') then
    discard (group '(' (commaList g.unnamedField))
    let conditional ← g.conditions?
    if !(← mark? ";") then
      expectedOneOf (if conditional then [quoted ";"] else [quoted "where", quoted ";"])
    return (.tuple, [])
  else if ← seesGroup '\x7b' then return (.named, ← group '\x7b' (commaList field))
  else if ← mark? ";" then return (.unit, [])
  else expectedOneOf (if conditional then ["curly braces", quoted ";"]
    else [quoted "where", "parentheses", "curly braces", quoted ";"])

/-- A case of an enumeration. Who may see it is not printed. -/
def enumerationCase (g : Grammar) : Reader Unit := do
  g.attributes
  discard (captured visibility?)
  discard name
  if ← seesGroup '\x7b' then discard (group '\x7b' (commaList g.namedField))
  else if ← seesGroup '(' then discard (group '(' (commaList g.unnamedField))
  if ← mark? "=" then discard (g.expression true)

def enumerationBody (g : Grammar) : Reader Unit := do
  discard g.conditions?
  discard (group '\x7b' (commaList g.enumerationCase))

def unionBody (g : Grammar) : Reader Unit := do
  discard g.conditions?
  discard (group '\x7b' (commaList g.namedField))

def named (g : Grammar) (keyword : String) : Reader Unit := do
  word keyword
  discard name
  discard g.parameters?

/-! ### Calls -/

def seesPathStart : Reader Bool := do
  return (← seesName) || (← seesWord "self") || (← seesWord "super") || (← seesWord "crate") ||
    (← seesMark "::")

def pathStarts : List String :=
  ["identifier", quoted "self", quoted "super", quoted "crate", quoted "::"]

def declaringCall (g : Grammar) (mayName : Bool) : Reader Unit := do
  g.attributes
  discard simplePath
  mark "!"
  if mayName && ((← seesName) || (← seesWord "try")) then discard anyWord
  let braced ← seesGroup '\x7b'
  anyGroup
  if !braced then mark ";"

/-! ### Imports and modules -/

def importTree : Nat → Bool → Reader Unit
  | 0, _ => pure ()
  | count + 1, root => do
    if (← seesName) || (← seesAnyOf ["self", "super", "crate", "try"] 0) then
      discard anyWord
      if ← mark? "::" then importTree count false
      else if ← word? "as" then
        if (← seesName) || (← seesWord "_") then discard anyWord
        else complain "expected identifier or underscore"
    else if ← seesMark "*" then mark "*"
    else if ← seesGroup '\x7b' then
      discard (group '\x7b' (commaList (do
        let rooted ← if root then mark? "::" else pure false
        importTree count (root && !rooted))))
    else expectedOneOf ["identifier", quoted "self", quoted "super", quoted "crate", quoted "try",
      quoted "*", "curly braces"]

def importItem : Reader Unit := do
  word "use"
  let rooted ← mark? "::"
  importTree (SourceToken.countAll (← get).tokens + 1) !rooted
  mark ";"

def libraryImport : Reader Unit := do
  word "extern"
  word "crate"
  if ← seesWord "self" then discard anyWord else discard name
  if ← word? "as" then nameOrNone
  mark ";"

def moduleItem (g : Grammar) : Reader Unit := do
  discard (word? "unsafe")
  word "mod"
  if ← seesWord "try" then discard anyWord else discard name
  if ← mark? ";" then return
  else if ← seesGroup '\x7b' then g.items g.declaration
  else expectedOneOf [quoted ";", "curly braces"]

/-! ### Foreign code -/

def foreignFunction (g : Grammar) : Reader Bool := do
  let isSafe ← g.functionHead true
  let hasBody ← seesGroup '\x7b'
  if hasBody then g.attributedBlock else mark ";"
  return isSafe || hasBody

def foreignVariable (g : Grammar) : Reader Bool := do
  let marked ← if ← word? "unsafe" then pure true else word? "safe"
  word "static"
  discard (word? "mut")
  discard name
  mark ":"
  discard (g.type true)
  let hasValue ← mark? "="
  if hasValue then discard (g.expression true)
  mark ";"
  return marked || hasValue

/-- A declaration of something foreign. What only a declaration of one's own can say makes it be
printed as it is written. -/
def foreignItem (g : Grammar) : Reader Bool := do
  g.attributes
  let visible ← visibility?
  if ← sees (SourceToken.startsFunction true) then g.foreignFunction
  else if (← seesWord "static") || (← seesAnyOf ["unsafe", "safe"] 0) && (← seesWord "static" 1) then
    g.foreignVariable
  else if ← seesWord "type" then
    let (hasColon, hasType) ← g.typeName true true
    return hasColon || hasType
  else if !visible && (← seesPathStart) then
    g.declaringCall false
    return false
  else expectedOneOf ([quoted "fn", quoted "static", quoted "type"] ++
    if visible then [] else pathStarts)

def foreignItems (g : Grammar) (visible : Bool) : Reader Unit := do
  if visible then throw ("expected " ++ quoted "extern")
  discard (word? "unsafe")
  interface?
  g.items (keepingUnit g.foreignItem)

def externalItem (g : Grammar) (visible : Bool) : Reader Unit := do
  match (← get).tokens.drop 1 with
  | .word "crate" :: _ => libraryImport
  | .group '\x7b' _ :: _ | .literal _ (.text _) :: .group '\x7b' _ :: _ => g.foreignItems visible
  | .literal _ (.text _) :: _ =>
    take 2
    expectedOneOf ["curly braces"]
  | _ =>
    take 1
    expectedOneOf [quoted "crate", "curly braces", "string literal"]

/-! ### Traits -/

def traitFunction (g : Grammar) : Reader Unit := do
  discard (g.functionHead false)
  if ← seesGroup '\x7b' then g.attributedBlock
  else if !(← mark? ";") then expectedOneOf ["curly braces", quoted ";"]

def traitConstant (g : Grammar) : Reader Bool := do
  if (← seesName 1) || (← seesWord "_" 1) then g.constant false
  else if ← seesAnyOf ["async", "unsafe", "extern", "fn"] 1 then g.functionHead false
  else
    take 1
    expectedOneOf ["identifier", quoted "_", quoted "async", quoted "unsafe", quoted "extern",
      quoted "fn"]

def traitItem (g : Grammar) : Reader Bool := do
  g.attributes
  let visible ← visibility?
  let marked ← word? "default"
  if ← sees (SourceToken.startsFunction false) then
    g.traitFunction
    return visible || marked
  else if ← seesWord "const" then
    let kept ← g.traitConstant
    return kept || visible || marked
  else if ← seesWord "type" then
    discard (g.typeName false true)
    return visible || marked
  else if !visible && !marked && (← seesPathStart) then
    g.declaringCall false
    return false
  else expectedOneOf ([quoted "fn", quoted "const", quoted "type"] ++
    if visible || marked then [] else pathStarts)

def traitBody (g : Grammar) : Reader Unit := do
  discard (bounds? (g.boundsUpTo (do return (← seesWord "where") || (← seesGroup '\x7b')) true))
  discard g.conditions?
  g.items (keepingUnit g.traitItem)

def traitOrAlias (g : Grammar) : Reader Unit := do
  g.named "trait"
  if (← seesGroup '\x7b') || (← seesMark ":") || (← seesWord "where") then g.traitBody
  else if ← mark? "=" then
    g.boundsUpTo (do return (← seesWord "where") || (← seesMark ";")) false (← limit)
    discard g.conditions?
    mark ";"
  else expectedOneOf ["curly braces", quoted ":", quoted "where", quoted "="]

def trait (g : Grammar) : Reader Unit := do
  discard (word? "unsafe")
  discard (word? "auto")
  g.named "trait"
  g.traitBody

/-! ### Implementations -/

def implementationItem (g : Grammar) : Reader Bool := do
  g.attributes
  let visible ← visibility?
  let hasDefault ← seesWord "default"
  let marked := hasDefault && !(← seesMark "!" 1)
  if marked then word "default"
  if ← sees (SourceToken.startsFunction false) then g.function
  else if ← seesWord "const" then g.constant true
  else if ← seesWord "type" then g.definedType false true
  else if !visible && !marked && (← seesPathStart) then
    g.declaringCall false
    return false
  else expectedOneOf ((if hasDefault then [] else [quoted "default"]) ++
    [quoted "fn", quoted "const", quoted "type"] ++ if visible || marked then [] else pathStarts)

/-- What an implementation is of: whether it is of something else than a path for a type. -/
def implemented (g : Grammar) : Reader Bool :=
  keeping (do
    let negative := (← seesMark "!") && !(← seesGroup '\x7b' 1)
    if negative then mark "!"
    let (_, form) ← g.type true
    let hasSubject ← seesWord "for"
    let isPath := form == .path true || form == .path false
    return (hasSubject && !isPath, negative && !hasSubject))

/-- An implementation of a trait, or of methods of a type. For constants, or with a word for who may
see it, it is printed as it is written. -/
def implementation (g : Grammar) (visible : Bool) : Reader Bool := do
  discard (word? "default")
  discard (word? "unsafe")
  word "impl"
  if ← seesParameters 0 then discard g.parameters?
  let isConstant := (← seesWord "const") || (← seesMark "?") && (← seesWord "const" 1)
  if isConstant then
    discard (mark? "?")
    word "const"
  let isOdd ← g.implemented
  if ← word? "for" then discard (g.type true)
  discard g.conditions?
  g.items (keepingUnit g.implementationItem)
  return visible || isConstant || isOdd

/-! ### All declarations -/

def callMeaning : Reader Unit := do
  word "macro"
  discard name
  let parameters ← seesGroup '('
  if parameters then take 1
  if ← seesGroup '\x7b' then take 1
  else expectedOneOf (if parameters then ["curly braces"] else ["parentheses", "curly braces"])

def unsafeItem (g : Grammar) (visible : Bool) : Reader Bool := do
  let isAuto ← seesWord "auto" 1
  if (← seesWord "trait" 1) || isAuto && (← seesWord "trait" 2) then
    g.trait
    return false
  else if ← seesWord "impl" 1 then g.implementation visible
  else if ← seesWord "extern" 1 then
    g.foreignItems visible
    return false
  else if ← seesWord "mod" 1 then
    g.moduleItem
    return false
  else
    take 1
    expectedOneOf ([quoted "trait"] ++ (if isAuto then [] else [quoted "auto"]) ++
      [quoted "impl", quoted "extern", quoted "mod"])

def declarationStarts : List String :=
  ["fn", "extern", "use", "static", "const", "unsafe", "mod", "type", "struct", "enum", "union",
    "trait", "auto", "impl", "default", "macro"].map quoted

/-- A declaration that is always printed in the canonical form: whether there is one. -/
def canonicalDeclaration? (g : Grammar) (visible : Bool) : Reader Bool := do
  if ← seesWord "extern" then g.externalItem visible
  else if ← seesWord "use" then importItem
  else if ← seesWord "mod" then g.moduleItem
  else if ← seesWord "struct" then
    g.named "struct"
    discard (g.structBody g.namedField)
  else if ← seesWord "enum" then
    g.named "enum"
    g.enumerationBody
  else if (← seesWord "union") && (← seesName 1) then
    g.named "union"
    g.unionBody
  else if ← seesWord "trait" then g.traitOrAlias
  else if (← seesWord "auto") && (← seesWord "trait" 1) then g.trait
  else return false
  return true

def declarationBody (g : Grammar) : Reader Bool := do
  let visible ← visibility?
  if ← sees (SourceToken.startsFunction false) then g.function
  else if ← seesWord "static" then g.globalVariable
  else if ← seesWord "const" then g.constant true
  else if ← seesWord "unsafe" then g.unsafeItem visible
  else if ← seesWord "type" then g.definedType true false
  else if ← g.canonicalDeclaration? visible then return false
  else if (← seesWord "impl") || (← seesWord "default") && !(← seesMark "!" 1) then
    g.implementation visible
  else if ← seesWord "macro" then
    callMeaning
    return true
  else if !visible && (← seesPathStart) then
    g.declaringCall true
    return false
  else expectedOneOf (declarationStarts ++ if visible then [] else pathStarts)

def declarationOf (g : Grammar) : Reader Unit :=
  keepingUnit (do
    g.attributes
    g.declarationBody)

end Grammar

end EntityQuery.Derive
