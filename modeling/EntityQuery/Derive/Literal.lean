import EntityQuery.Derive.Token
import EntityQuery.Numeric.Reading
import EntityQuery.Text.Identifier

/-!
Literals: numbers, characters and texts. A text may be raw, and texts and characters may be of
bytes. Each reader gives what follows the literal, and a reader of texts the value too.
-/

namespace EntityQuery.Derive

open EntityQuery.Text EntityQuery.Numeric

/-! ### Words -/

def afterIdentifier? : List Char → Option (List Char)
  | c :: rest => if isIdentifierStart c then some (rest.dropWhile isIdentifierContinue) else none
  | [] => none

def afterSuffix (s : List Char) : List Char :=
  (afterIdentifier? s).getD s

/-! ### Escapes -/

inductive QuotedSort where
  | characters | bytes | terminated
  deriving DecidableEq, Repr

def QuotedSort.admits (sort : QuotedSort) (c : Char) : Bool :=
  match sort with
  | characters => true
  | bytes => c.toNat < 0x80
  | terminated => c.toNat ≠ 0

def QuotedSort.admitsByte (sort : QuotedSort) (n : Nat) : Bool :=
  match sort with
  | characters => n < 0x80
  | bytes => true
  | terminated => n ≠ 0

def hexDigit? (c : Char) : Option Nat :=
  if isDigit c then some (digitValue c)
  else if 'a' ≤ c.toLower ∧ c.toLower ≤ 'f' then some (c.toLower.toNat - 'a'.toNat + 10)
  else none

/-- The character of a number in braces, after the opening one: `count` digits of base sixteen have
been read and are worth `n`. At most six are allowed, and low lines may stand after the first. -/
def readBraced? (count n : Nat) : List Char → Option (Char × List Char)
  | [] => none
  | c :: rest =>
    if 0 < count ∧ c = '_' then readBraced? count n rest
    else if 0 < count ∧ c = '\x7d' then
      if n.isValidChar then some (Char.ofNat n, rest) else none
    else if count = 6 then none
    else (hexDigit? c).bind fun digit => readBraced? (count + 1) (16 * n + digit) rest

def readEscape? (sort : QuotedSort) : List Char → Option (Char × List Char)
  | 'n' :: rest => some ('\n', rest)
  | 'r' :: rest => some ('\r', rest)
  | 't' :: rest => some ('\t', rest)
  | '\\' :: rest => some ('\\', rest)
  | '\'' :: rest => some ('\'', rest)
  | '"' :: rest => some ('"', rest)
  | '0' :: rest => if sort = .terminated then none else some (Char.ofNat 0, rest)
  | 'x' :: a :: b :: rest => do
    let n := 16 * (← hexDigit? a) + (← hexDigit? b)
    if sort.admitsByte n then some (Char.ofNat n, rest) else none
  | 'u' :: '\x7b' :: rest =>
    if sort = .bytes then none
    else (readBraced? 0 0 rest).filter fun (c, _) => sort ≠ .terminated || c.toNat ≠ 0
  | _ => none

/-- What follows the blanks after the end of a line. The text must go on, and a carriage return must
end a line. -/
def skipIndent? : List Char → Option (List Char)
  | [] => none
  | '\r' :: '\n' :: rest => skipIndent? rest
  | c :: rest =>
    if c = ' ' ∨ c = '\t' ∨ c = '\n' then skipIndent? rest
    else if c = '\r' then none
    else some (c :: rest)

/-! ### Texts and characters -/

/-- The characters of a text after its opening quote. A backslash at the end of a line passes over
the indent of the next one. -/
def readCooked? (sort : QuotedSort) : Nat → List Char → Option (List Char × List Char)
  | 0, _ | _, [] => none
  | _, '"' :: rest => some ([], rest)
  | fuel + 1, '\r' :: '\n' :: rest =>
    (readCooked? sort fuel rest).map fun (more, after) => ('\n' :: more, after)
  | fuel + 1, '\\' :: '\n' :: rest | fuel + 1, '\\' :: '\r' :: '\n' :: rest => do
    readCooked? sort fuel (← skipIndent? rest)
  | fuel + 1, '\\' :: rest => do
    let (c, rest) ← readEscape? sort rest
    let (more, after) ← readCooked? sort fuel rest
    return (c :: more, after)
  | fuel + 1, c :: rest =>
    if c = '\r' ∨ !sort.admits c then none
    else (readCooked? sort fuel rest).map fun (more, after) => (c :: more, after)

def readUntil? (sort : QuotedSort) (ending : List Char) : List Char → Option (List Char × List Char)
  | [] => none
  | c :: rest =>
    if ending.isPrefixOf (c :: rest) then some ([], (c :: rest).drop ending.length)
    else if c = '\r' ∧ rest.head? ≠ some '\n' ∨ !sort.admits c then none
    else (readUntil? sort ending rest).map fun (more, after) => (c :: more, after)

/-- A raw text after its `r`: at most 255 hash marks, a quote, and the same in reverse at the end. -/
def readRaw? (sort : QuotedSort) (s : List Char) : Option (List Char × List Char) :=
  let hashes := s.takeWhile (· == '#')
  match s.drop hashes.length with
  | '"' :: rest => if hashes.length ≤ 255 then readUntil? sort ('"' :: hashes) rest else none
  | _ => none

def afterCharacter? (sort : QuotedSort) (s : List Char) : Option (List Char) := do
  let rest ← match s with
    | '\\' :: rest => (readEscape? sort rest).map (·.2)
    | c :: rest => if sort.admits c then some rest else none
    | [] => none
  match rest with
  | '\'' :: rest => some rest
  | _ => none

/-! ### Numbers -/

def wordEnds (s : List Char) : Bool :=
  !(s.head?.map isIdentifierContinue).getD false

def afterExponent? (s : List Char) : Option (List Char) :=
  let s := s.dropWhile (· == '_')
  let s := match s with
    | '+' :: rest | '-' :: rest => rest
    | s => s
  let digits := s.takeWhile fun c => isDigit c || c == '_'
  let rest := s.drop digits.length
  if digits.any isDigit then some rest else none

/-- What follows a number with a point or an exponent. After a point neither another one nor a word
may follow, and an `e` without an exponent is a suffix. -/
def afterDecimal? (s : List Char) : Option (List Char) := do
  let isPart (c : Char) : Bool := isDigit c || c == '_'
  let isExponent (c : Char) : Bool := c == 'e' || c == 'E'
  if !(s.head?.map isDigit).getD false then none
  let rest := s.dropWhile isPart
  let rest ← match rest with
    | '.' :: rest =>
      if (rest.head?.map fun c => c == '.' || isIdentifierStart c).getD false then none
      else
        let rest := rest.dropWhile isPart
        match rest with
        | c :: more => some (if isExponent c then (afterExponent? more).getD rest else rest)
        | [] => some []
    | c :: more => if isExponent c then afterExponent? more else none
    | [] => none
  let rest := afterSuffix rest
  if wordEnds rest then some rest else none

def afterDigits? (s : List Char) : Option (List Char) :=
  let (base, s) := match s with
    | '0' :: 'x' :: rest => (16, rest)
    | '0' :: 'o' :: rest => (8, rest)
    | '0' :: 'b' :: rest => (2, rest)
    | s => (10, s)
  let digits := s.takeWhile fun c => c == '_' || isDigit c || base == 16 && (hexDigit? c).isSome
  if digits.any fun c => isDigit c && base ≤ digitValue c then none
  else if digits.all (· == '_') || base == 10 && digits.head? == some '_' then none
  else some (s.drop digits.length)

def afterInteger? (s : List Char) : Option (List Char) := do
  let rest := afterSuffix (← afterDigits? s)
  if wordEnds rest then some rest else none

def wholeNumberParts (s : List Char) : Nat × List Char :=
  let (base, s) := match s with
    | '0' :: 'x' :: rest => (16, rest)
    | '0' :: 'o' :: rest => (8, rest)
    | '0' :: 'b' :: rest => (2, rest)
    | s => (10, s)
  let isPart (c : Char) : Bool :=
    c == '_' || isDigit c || base == 16 && (hexDigit? c).isSome
  let digits := (s.takeWhile isPart).filterMap hexDigit?
  (digits.foldl (fun n digit => base * n + digit) 0, s.dropWhile isPart)

/-! ### Literals -/

def readText? (s : List Char) : Option (QuotedSort × List Char × List Char) :=
  let cooked (sort : QuotedSort) (rest : List Char) :=
    (readCooked? sort (rest.length + 1) rest).map (sort, ·)
  let raw (sort : QuotedSort) (rest : List Char) := (readRaw? sort rest).map (sort, ·)
  match s with
  | '"' :: rest => cooked .characters rest
  | 'b' :: '"' :: rest => cooked .bytes rest
  | 'c' :: '"' :: rest => cooked .terminated rest
  | 'r' :: rest => raw .characters rest
  | 'b' :: 'r' :: rest => raw .bytes rest
  | 'c' :: 'r' :: rest => raw .terminated rest
  | _ => none

def readLiteral? (s : List Char) : Option (LiteralSort × List Char) :=
  let text := (readText? s).map fun (sort, value, rest) =>
    (if sort = .characters then LiteralSort.text (String.ofList value) else .other,
      afterSuffix rest)
  let character := match s with
    | 'b' :: '\'' :: rest => afterCharacter? .bytes rest
    | '\'' :: rest => afterCharacter? .characters rest
    | _ => none
  text <|> (character.map (.other, afterSuffix ·)) <|> ((afterDecimal? s).map (.decimal, ·)) <|>
    ((afterInteger? s).map (.integer, ·))

end EntityQuery.Derive
