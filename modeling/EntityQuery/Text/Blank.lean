import EntityQuery.Text.CodePoints

/-! The blanks of Unicode and the removal of them at both ends of a text. -/

namespace EntityQuery.Text

/-- The property White_Space. -/
def blanks : List Run := [
  ⟨0x09, 0x0D, 1⟩, ⟨0x20, 0x20, 1⟩, ⟨0x85, 0x85, 1⟩, ⟨0xA0, 0xA0, 1⟩, ⟨0x1680, 0x1680, 1⟩,
  ⟨0x2000, 0x200A, 1⟩, ⟨0x2028, 0x2029, 1⟩, ⟨0x202F, 0x202F, 1⟩, ⟨0x205F, 0x205F, 1⟩,
  ⟨0x3000, 0x3000, 1⟩]

def isBlank (c : Char) : Bool :=
  inRuns blanks c

def dropBlanks (s : List Char) : List Char :=
  s.dropWhile isBlank

def trimChars (s : List Char) : List Char :=
  (dropBlanks (dropBlanks s).reverse).reverse

def trim (s : String) : String :=
  String.ofList (trimChars s.toList)

end EntityQuery.Text
