import EntityQuery.Derive.Attribute
import EntityQuery.Derive.SourceText

/-! Declarations of structs, and how they are read from their text. -/

namespace EntityQuery.Derive

structure FieldDeclaration where
  name : String
  type : TypeExpr
  attributes : List Attribute

structure StructDeclaration where
  name : String
  hasParameters : Bool
  shape : Shape
  attributes : List Attribute
  fields : List FieldDeclaration

namespace Grammar

open Reader

def fieldDeclaration (g : Grammar) : Reader FieldDeclaration := do
  let attributes ← attributeList g (← limit)
  let (name, type) ← g.fieldWithName
  return { name, type, attributes }

/-- The declaration of a struct, or of another type, whose fields do not matter. -/
def structDeclaration (g : Grammar) : Reader StructDeclaration := do
  let attributes ← attributeList g (← limit)
  discard visibility?
  let shape? ←
    if ← word? "struct" then pure none
    else if ← word? "enum" then pure (some Shape.enumeration)
    else if ← word? "union" then pure (some .union)
    else expectedOneOf [quoted "struct", quoted "enum", quoted "union"]
  let name ← name
  let hasParameters ← g.parameters?
  let (shape, fields) ← match shape? with
    | none => g.structBody g.fieldDeclaration
    | some shape => do
      if shape = .enumeration then g.enumerationBody else g.unionBody
      pure (shape, [])
  return { name, hasParameters, shape, attributes, fields }

end Grammar

def StructDeclaration.ofText (text : String) : Except DeriveError StructDeclaration :=
  match SourceToken.ofText? text with
  | none => .error (.malformed "cannot parse string into token stream")
  | some tokens =>
    match Reader.readAll (Grammar.ofTokens tokens).structDeclaration tokens with
    | .ok declaration => .ok declaration
    | .error complaint => .error (.malformed complaint)

end EntityQuery.Derive
