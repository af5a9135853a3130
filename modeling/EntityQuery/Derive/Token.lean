/-! The tokens of struct declarations: words, lifetimes, literals, marks, and groups in brackets. -/

namespace EntityQuery.Derive

/-- What a literal stands for, as far as it matters: a text has a value. -/
inductive LiteralSort where
  | text (value : String)
  | integer
  | decimal
  | other
  deriving DecidableEq, Repr

/-- A word is an identifier or a keyword. A mark is joined if another mark follows it at once. -/
inductive SourceToken where
  | word (text : String)
  | lifetime (text : String)
  | literal (text : String) (sort : LiteralSort)
  | mark (c : Char) (joined : Bool)
  | group (opening : Char) (inner : List SourceToken)

namespace SourceToken

def closing : Char → Char
  | '(' => ')'
  | '[' => ']'
  | _ => '\x7d'

mutual

def render : SourceToken → String
  | word text | lifetime text | literal text _ => text
  | mark c _ => String.singleton c
  | group opening inner =>
    String.singleton opening ++ renderAll inner ++ String.singleton (closing opening)

def renderAll : List SourceToken → String
  | [] => ""
  | token :: rest => token.render ++ renderAll rest

end

mutual

def count : SourceToken → Nat
  | group _ inner => countAll inner + 1
  | _ => 1

def countAll : List SourceToken → Nat
  | [] => 0
  | token :: rest => token.count + countAll rest

end

def startsWord (word : String) : List SourceToken → Bool
  | .word text :: _ => text == word
  | _ => false

def startsAnyWord : List SourceToken → Bool
  | .word _ :: _ => true
  | _ => false

def startsLifetime : List SourceToken → Bool
  | .lifetime _ :: _ => true
  | _ => false

def startsGroup (opening : Char) : List SourceToken → Bool
  | .group c _ :: _ => c == opening
  | _ => false

/-- Whether these marks come first, joined to one another. A longer mark may go on after them. -/
def startsMarks : List Char → List SourceToken → Bool
  | [], _ => true
  | [c], .mark d _ :: _ => c == d
  | c :: more, .mark d joined :: rest => c == d && joined && startsMarks more rest
  | _, _ => false

def startsMark (marks : String) (tokens : List SourceToken) : Bool :=
  startsMarks marks.toList tokens

/-- Whether a literal comes first: `true`, `false` and numbers with a minus are literals too. -/
def startsLiteral : List SourceToken → Bool
  | .literal .. :: _ => true
  | .word "true" :: _ | .word "false" :: _ => true
  | .mark '-' _ :: .literal _ .integer :: _ | .mark '-' _ :: .literal _ .decimal :: _ => true
  | _ => false

def keywords : List String :=
  ["_", "abstract", "as", "async", "await", "become", "box", "break", "const", "continue", "crate",
    "do", "dyn", "else", "enum", "extern", "false", "final", "fn", "for", "if", "impl", "in", "let",
    "loop", "macro", "match", "mod", "move", "mut", "override", "priv", "pub", "ref", "return",
    "Self", "self", "static", "struct", "super", "trait", "true", "try", "type", "typeof", "unsafe",
    "unsized", "use", "virtual", "where", "while", "yield"]

def startsName : List SourceToken → Bool
  | .word text :: _ => !keywords.contains text
  | _ => false

end SourceToken

end EntityQuery.Derive
