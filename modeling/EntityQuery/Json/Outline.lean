/-!
JSON text read as far as its shape: a number is the text that writes it, members keep their order
and may repeat a key, and a text whose escapes make no characters is passed over.
-/

namespace EntityQuery

inductive JsonOutline where
  | null
  | bool (b : Bool)
  | number (literal : List Char)
  | string (s : Option String)
  | array (items : List JsonOutline)
  | object (members : List (Option String × JsonOutline))

namespace JsonOutline

def isJsonBlank (c : Char) : Bool :=
  c == ' ' || c == '\n' || c == '\t' || c == '\r'

def skipBlanks (s : List Char) : List Char :=
  s.dropWhile isJsonBlank

def hexValue? (c : Char) : Option Nat :=
  if '0' ≤ c ∧ c ≤ '9' then some (c.toNat - '0'.toNat)
  else if 'a' ≤ c ∧ c ≤ 'f' then some (c.toNat - 'a'.toNat + 10)
  else if 'A' ≤ c ∧ c ≤ 'F' then some (c.toNat - 'A'.toNat + 10)
  else none

def readHex4? : List Char → Option (Nat × List Char)
  | a :: b :: c :: d :: rest => do
    let a ← hexValue? a
    let b ← hexValue? b
    let c ← hexValue? c
    let d ← hexValue? d
    return (((a * 16 + b) * 16 + c) * 16 + d, rest)
  | _ => none

def escapeOf? : Char → Option Char
  | '"' => some '"'
  | '\\' => some '\\'
  | '/' => some '/'
  | 'b' => some '\x08'
  | 'f' => some '\x0c'
  | 'n' => some '\n'
  | 'r' => some '\r'
  | 't' => some '\t'
  | _ => none

inductive TextUnit where
  | char (c : Char)
  | code (n : Nat)

def readUnits? : Nat → List Char → Option (List TextUnit × List Char)
  | 0, _ => none
  | _, [] => none
  | _, '"' :: rest => some ([], rest)
  | fuel + 1, '\\' :: 'u' :: rest => do
    let (n, rest) ← readHex4? rest
    let (units, rest) ← readUnits? fuel rest
    return (.code n :: units, rest)
  | fuel + 1, '\\' :: c :: rest => do
    let c ← escapeOf? c
    let (units, rest) ← readUnits? fuel rest
    return (.char c :: units, rest)
  | fuel + 1, c :: rest =>
    if c.toNat < 0x20 ∨ c = '\\' then none
    else (readUnits? fuel rest).map fun (units, rest) => (.char c :: units, rest)

/-- The characters of the units. Two surrogates make one character; one alone makes none. -/
def charsOfUnits? : List TextUnit → Option (List Char)
  | [] => some []
  | .char c :: rest => (charsOfUnits? rest).map (c :: ·)
  | .code n :: rest =>
    if 0xDC00 ≤ n ∧ n < 0xE000 then none
    else if 0xD800 ≤ n ∧ n < 0xDC00 then
      match rest with
      | .code m :: rest =>
        if 0xDC00 ≤ m ∧ m < 0xE000 then
          (charsOfUnits? rest).map
            (Char.ofNat (0x10000 + (n - 0xD800) * 0x400 + (m - 0xDC00)) :: ·)
        else none
      | _ => none
    else (charsOfUnits? rest).map (Char.ofNat n :: ·)

def readText? (s : List Char) : Option (Option String × List Char) :=
  (readUnits? (s.length + 1) s).map fun (units, rest) =>
    ((charsOfUnits? units).map String.ofList, rest)

def skipDigits? (s : List Char) : Option (List Char) :=
  match s with
  | c :: rest => if c.isDigit then some (rest.dropWhile Char.isDigit) else none
  | [] => none

/-- What follows a number. A zero at the front stands alone. -/
def skipNumber? (s : List Char) : Option (List Char) := do
  let s := match s with
    | '-' :: rest => rest
    | s => s
  let s ← match s with
    | '0' :: rest => if (rest.head?.map Char.isDigit).getD false then none else some rest
    | s => skipDigits? s
  let s ← match s with
    | '.' :: rest => skipDigits? rest
    | s => some s
  match s with
  | 'e' :: '+' :: rest | 'e' :: '-' :: rest | 'E' :: '+' :: rest | 'E' :: '-' :: rest =>
    skipDigits? rest
  | 'e' :: rest | 'E' :: rest => skipDigits? rest
  | s => some s

mutual

def readValue? : Nat → List Char → Option (JsonOutline × List Char)
  | 0, _ => none
  | fuel + 1, s =>
    match skipBlanks s with
    | 'n' :: 'u' :: 'l' :: 'l' :: rest => some (.null, rest)
    | 't' :: 'r' :: 'u' :: 'e' :: rest => some (.bool true, rest)
    | 'f' :: 'a' :: 'l' :: 's' :: 'e' :: rest => some (.bool false, rest)
    | '"' :: rest => (readText? rest).map fun (text, rest) => (.string text, rest)
    | '[' :: rest =>
      match skipBlanks rest with
      | ']' :: rest => some (.array [], rest)
      | rest => (readItems? fuel rest).map fun (items, rest) => (.array items, rest)
    | '\x7b' :: rest =>
      match skipBlanks rest with
      | '\x7d' :: rest => some (.object [], rest)
      | rest => (readMembers? fuel rest).map fun (members, rest) => (.object members, rest)
    | s => (skipNumber? s).map fun rest => (.number (s.take (s.length - rest.length)), rest)

def readItems? : Nat → List Char → Option (List JsonOutline × List Char)
  | 0, _ => none
  | fuel + 1, s => do
    let (item, rest) ← readValue? fuel s
    match skipBlanks rest with
    | ']' :: rest => some ([item], rest)
    | ',' :: rest => (readItems? fuel rest).map fun (items, rest) => (item :: items, rest)
    | _ => none

def readMembers? : Nat → List Char → Option (List (Option String × JsonOutline) × List Char)
  | 0, _ => none
  | fuel + 1, s =>
    match skipBlanks s with
    | '"' :: rest => do
      let (key, rest) ← readText? rest
      match skipBlanks rest with
      | ':' :: rest => do
        let (item, rest) ← readValue? fuel rest
        match skipBlanks rest with
        | '\x7d' :: rest => some ([(key, item)], rest)
        | ',' :: rest =>
          (readMembers? fuel rest).map fun (members, rest) => ((key, item) :: members, rest)
        | _ => none
      | _ => none
    | _ => none

end

def ofText? (text : String) : Option JsonOutline :=
  match readValue? (2 * text.length + 2) text.toList with
  | some (value, rest) => if skipBlanks rest = [] then some value else none
  | none => none

end JsonOutline

end EntityQuery
