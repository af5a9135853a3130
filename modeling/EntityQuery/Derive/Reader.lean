import EntityQuery.Derive.Token

/-!
Reading tokens one after the other. A reader takes tokens, writes them down in the form in which
they are printed again, and fails with a complaint.
-/

namespace EntityQuery.Derive

/-- The tokens still to be read in the innermost brackets, what has been printed, and the first
complaint about tokens that were left over in brackets. -/
structure Reading where
  tokens : List SourceToken
  printed : String := ""
  leftover : Option String := none

abbrev Reader := StateT Reading (Except String)

namespace Reader

/-! ### Looking ahead -/

def sees (test : List SourceToken → Bool) (skip : Nat := 0) : Reader Bool :=
  return test ((← get).tokens.drop skip)

def seesEnd : Reader Bool := sees List.isEmpty

def seesMark (marks : String) (skip : Nat := 0) : Reader Bool :=
  sees (SourceToken.startsMark marks) skip

def seesWord (word : String) (skip : Nat := 0) : Reader Bool :=
  sees (SourceToken.startsWord word) skip

def seesName (skip : Nat := 0) : Reader Bool := sees SourceToken.startsName skip

def seesLifetime (skip : Nat := 0) : Reader Bool := sees SourceToken.startsLifetime skip

def seesLiteral : Reader Bool := sees SourceToken.startsLiteral

def seesGroup (opening : Char) (skip : Nat := 0) : Reader Bool :=
  sees (SourceToken.startsGroup opening) skip

/-- How many readings one after the other the tokens in the innermost brackets can need. -/
def limit : Reader Nat :=
  return (← get).tokens.length + 1

/-! ### Complaints -/

def complain {α : Type} (what : String) : Reader α := do
  if (← get).tokens.isEmpty then throw ("unexpected end of input, " ++ what) else throw what

def quoted (text : String) : String :=
  "\x60" ++ text ++ "\x60"

def expectedOneOf {α : Type} : List String → Reader α
  | [a] => complain ("expected " ++ a)
  | [a, b] => complain ("expected " ++ a ++ " or " ++ b)
  | all => complain ("expected one of: " ++ ", ".intercalate all)

/-! ### Single tokens -/

def take (count : Nat) : Reader Unit :=
  modify fun r =>
    { r with
      tokens := r.tokens.drop count
      printed := r.printed ++ SourceToken.renderAll (r.tokens.take count) }

def print (text : String) : Reader Unit :=
  modify fun r => { r with printed := r.printed ++ text }

/-- Reads marks that are joined. A longer mark that begins with them is taken apart. -/
def mark (marks : String) : Reader Unit := do
  if ← seesMark marks then take marks.length
  else throw ("expected " ++ quoted marks)

def word (text : String) : Reader Unit := do
  if ← seesWord text then take 1 else complain ("expected " ++ quoted text)

def mark? (marks : String) : Reader Bool := do
  let found ← seesMark marks
  if found then take marks.length
  return found

def word? (text : String) : Reader Bool := do
  let found ← seesWord text
  if found then take 1
  return found

def anyWord : Reader String := do
  match (← get).tokens with
  | .word text :: _ =>
    take 1
    return text
  | _ => complain "expected identifier"

def name : Reader String := do
  match (← get).tokens with
  | .word text :: _ =>
    if SourceToken.keywords.contains text then
      complain ("expected identifier, found keyword " ++ quoted text)
    else
      take 1
      return text
  | _ => complain "expected identifier"

def lifetime : Reader Unit := do
  if ← seesLifetime then take 1 else complain "expected lifetime"

def lifetime? : Reader Bool := do
  let found ← seesLifetime
  if found then take 1
  return found

def literal : Reader LiteralSort := do
  match (← get).tokens with
  | .literal _ sort :: _ =>
    take 1
    return sort
  | _ =>
    if ← seesLiteral then
      take (if ← seesMark "-" then 2 else 1)
      return .other
    else complain "expected literal"

/-! ### Groups -/

def bracketName : Char → String
  | '(' => "parentheses"
  | '[' => "square brackets"
  | _ => "curly braces"

/-- Reads a group by a reader of what is in it. Tokens that it leaves are complained about only when
all else has been read. -/
def group {α : Type} (opening : Char) (content : Reader α) : Reader α := do
  let r ← get
  match r.tokens with
  | .group c inner :: rest =>
    if c ≠ opening then complain ("expected " ++ bracketName opening)
    let start := r.printed ++ String.singleton opening
    let (a, after) ← content.run { r with tokens := inner, printed := start }
    let closing := String.singleton (SourceToken.closing opening)
    let left := if after.tokens.isEmpty then none
      else some ("unexpected token, expected " ++ quoted closing)
    set { after with
      tokens := rest
      printed := after.printed ++ closing
      leftover := after.leftover <|> left }
    return a
  | _ => complain ("expected " ++ bracketName opening)

def anyGroup : Reader Unit := do
  match (← get).tokens with
  | .group _ _ :: _ => take 1
  | _ => complain "expected delimiter"

/-! ### Sequences -/

def repeatWhile (more : Reader Bool) (step : Reader Unit) : Nat → Reader Unit
  | 0 => pure ()
  | count + 1 => do
    if ← more then
      step
      repeatWhile more step count

def loopWhile (more : Reader Bool) (step : Reader Unit) : Reader Unit := do
  repeatWhile more step (← limit)

def separated {α : Type} (separator : String) (item : Reader α) (stop : Reader Bool) :
    Nat → Reader (List α)
  | 0 => return []
  | count + 1 => do
    if ← stop then return []
    let first ← item
    if ← stop then return [first]
    mark separator
    return first :: (← separated separator item stop count)

def commaList {α : Type} (item : Reader α) : Reader (List α) := do
  separated "," item (seesEnd) (← limit)

def captured {α : Type} (reader : Reader α) : Reader (String × α) := do
  let before := (← get).printed
  modify fun r => { r with printed := "" }
  let a ← reader
  let text := (← get).printed
  modify fun r => { r with printed := before }
  return (text, a)

def noted {α : Type} (reader : Reader α) : Reader (String × α) := do
  let (text, a) ← captured reader
  print text
  return (text, a)

def keeping {α : Type} (reader : Reader (α × Bool)) : Reader α := do
  let before := (← get).tokens
  let (text, a, kept) ← captured reader
  let count := before.length - (← get).tokens.length
  print (if kept then SourceToken.renderAll (before.take count) else text)
  return a

def asWritten (reader : Reader Unit) : Reader Unit :=
  keeping (do
    reader
    return ((), true))

def readAll {α : Type} (reader : Reader α) (tokens : List SourceToken) : Except String α := do
  let (a, after) ← reader.run { tokens }
  match after.leftover with
  | some complaint => throw complaint
  | none => if after.tokens.isEmpty then return a else throw "unexpected token"

end Reader

end EntityQuery.Derive
