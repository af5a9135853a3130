import EntityQuery.Derive.Literal
import EntityQuery.Text.Blank

/-!
The tokens of a text. Comments count as blanks, but a comment that documents what follows it stands
for an attribute.
-/

namespace EntityQuery.Derive

open EntityQuery.Text

/-! ### Comments -/

/-- Blanks between tokens. The marks of direction are blanks here. -/
def isSourceBlank (c : Char) : Bool :=
  isBlank c || c == '\u200e' || c == '\u200f'

def splitLine : List Char → List Char × List Char
  | [] => ([], [])
  | '\r' :: '\n' :: rest => ([], '\n' :: rest)
  | c :: rest =>
    if c = '\n' then ([], c :: rest)
    else
      let (line, after) := splitLine rest
      (c :: line, after)

/-- A comment in blocks after its opening mark, where `depth` comments are open inside of it: the
characters up to its end, and what follows it. -/
def readBlock? : Nat → List Char → Option (List Char × List Char)
  | _, [] => none
  | depth, '/' :: '*' :: rest =>
    (readBlock? (depth + 1) rest).map fun (more, after) => ('/' :: '*' :: more, after)
  | 0, '*' :: '/' :: rest => some ([], rest)
  | depth + 1, '*' :: '/' :: rest =>
    (readBlock? depth rest).map fun (more, after) => ('*' :: '/' :: more, after)
  | depth, c :: rest => (readBlock? depth rest).map fun (more, after) => (c :: more, after)

def afterComment? (s : List Char) : Option (List Char) :=
  match s with
  | '/' :: '/' :: '!' :: _ => none
  | '/' :: '/' :: '/' :: '/' :: rest => some (splitLine rest).2
  | '/' :: '/' :: '/' :: _ => none
  | '/' :: '/' :: rest => some (splitLine rest).2
  | '/' :: '*' :: '*' :: '/' :: rest => some rest
  | '/' :: '*' :: '!' :: _ => none
  | '/' :: '*' :: '*' :: '*' :: _ => (readBlock? 0 (s.drop 2)).map (·.2)
  | '/' :: '*' :: '*' :: _ => none
  | '/' :: '*' :: rest => (readBlock? 0 rest).map (·.2)
  | _ => none

def skipToToken : Nat → List Char → List Char
  | 0, s => s
  | fuel + 1, s =>
    match s.dropWhile isSourceBlank with
    | '/' :: rest =>
      match afterComment? ('/' :: rest) with
      | some after => skipToToken fuel after
      | none => '/' :: rest
    | s => s

def linesEndWell : List Char → Bool
  | [] => true
  | '\r' :: rest => rest.head? == some '\n' && linesEndWell rest
  | _ :: rest => linesEndWell rest

def escaped : List Char → String
  | [] => ""
  | c :: rest =>
    let written :=
      if c = '\n' then "\\n"
      else if c = '\r' then "\\r"
      else if c = '\t' then "\\t"
      else if c = '"' ∨ c = '\\' then "\\" ++ String.singleton c
      else if c.toNat = 0 then
        if (rest.head?.map fun d => '0' ≤ d && d ≤ '7').getD false then "\\x00" else "\\0"
      else if c.toNat < 0x20 ∨ c.toNat = 0x7F then
        "\\u\x7b" ++ String.ofList (Nat.toDigits 16 c.toNat) ++ "\x7d"
      else String.singleton c
    written ++ escaped rest

def documentation (inner : Bool) (text : List Char) : List SourceToken :=
  let literal := .literal ("\"" ++ escaped text ++ "\"") (.text (String.ofList text))
  .mark '#' false :: (if inner then [.mark '!' false] else []) ++
    [.group '[' [.word "doc", .mark '=' false, literal]]

def readDocumentation? (s : List Char) : Option (List SourceToken × List Char) := do
  let (inner, text, after) ← match s with
    | '/' :: '/' :: '!' :: rest =>
      let (text, after) := splitLine rest
      some (true, text, after)
    | '/' :: '/' :: '/' :: rest =>
      let (text, after) := splitLine rest
      if rest.head? = some '/' then none else some (false, text, after)
    | '/' :: '*' :: '!' :: rest => (readBlock? 0 rest).map (true, ·)
    | '/' :: '*' :: '*' :: rest =>
      if rest.head? = some '*' then none else (readBlock? 0 rest).map (false, ·)
    | _ => none
  if linesEndWell text then some (documentation inner text, after) else none

/-! ### Words and marks -/

def between (before after : List Char) : String :=
  String.ofList (before.take (before.length - after.length))

/-- What follows a word. After `r#` a keyword is an identifier too, if it is none that leads a
path. -/
def afterWord? (s : List Char) : Option (List Char) :=
  match s with
  | 'r' :: '#' :: rest =>
    (afterIdentifier? rest).filter fun after =>
      !(["_", "super", "self", "Self", "crate"].contains (between rest after))
  | s => afterIdentifier? s

def startsQuoted (s : List Char) : Bool :=
  ["r\"", "r#\"", "r##", "b\"", "b'", "br\"", "br#", "c\"", "cr\"", "cr#"].any fun start =>
    start.toList.isPrefixOf s

def isMark (c : Char) : Bool :=
  "~!@#$%^&*-=+|;:,<.>/?'".toList.contains c

def startsWithMark : List Char → Bool
  | '/' :: c :: _ => c ≠ '/' && c ≠ '*'
  | c :: _ => isMark c
  | [] => false

/-- A lifetime or a single mark. A lifetime ends before a quote and before a hash mark. -/
def readMark? (s : List Char) : Option (SourceToken × List Char) :=
  match s with
  | '\'' :: rest => do
    let after ← afterWord? rest
    let isRaw : Bool := ['r', '#'].isPrefixOf rest
    if after.head? = some '\'' ∨ after.head? = some '#' ∧ !isRaw then none
    else some (.lifetime (between s after), after)
  | c :: rest =>
    if startsWithMark s then some (.mark c (startsWithMark rest), rest) else none
  | [] => none

def readLeaf? (s : List Char) : Option (SourceToken × List Char) :=
  ((readLiteral? s).map fun (sort, after) => (.literal (between s after) sort, after)) <|>
    readMark? s <|>
    (if startsQuoted s then none
    else (afterWord? s).map fun after => (.word (between s after), after))

/-! ### Tokens -/

def readTokens? : Nat → List Char → Option (List SourceToken × List Char)
  | 0, _ => none
  | fuel + 1, s =>
    let s := skipToToken s.length s
    match readDocumentation? s with
    | some (tokens, rest) =>
      (readTokens? fuel rest).map fun (more, rest) => (tokens ++ more, rest)
    | none =>
      match s with
      | [] => some ([], [])
      | c :: rest =>
        if c = ')' ∨ c = ']' ∨ c = '\x7d' then some ([], s)
        else if c = '(' ∨ c = '[' ∨ c = '\x7b' then do
          let (inner, rest) ← readTokens? fuel rest
          if rest.head? ≠ some (SourceToken.closing c) then none
          let (more, rest) ← readTokens? fuel (rest.drop 1)
          return (.group c inner :: more, rest)
        else do
          let (token, rest) ← readLeaf? s
          let (more, rest) ← readTokens? fuel rest
          return (token :: more, rest)

def SourceToken.ofText? (text : String) : Option (List SourceToken) :=
  match readTokens? (text.length + 1) text.toList with
  | some (tokens, []) => some tokens
  | _ => none

end EntityQuery.Derive
