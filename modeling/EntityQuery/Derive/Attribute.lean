import EntityQuery.Derive.StatementPhrase
import EntityQuery.Derive.TypePhrase

/-! The attributes of structs and of their fields that say how an entity is derived from them. -/

namespace EntityQuery.Derive

inductive DeriveError where
  | generic
  | unnamedFields
  | notStruct
  | unknownEntityOption
  | unknownFieldOption
  /-- An option that takes a text was given something else. -/
  | notText (option : String)
  | oneAndMany
  | skipConflict
  | relationKey
  | secondKey
  /-- An attribute is not written as attributes are. -/
  | malformed (complaint : String)
  /-- The constant for a path name is no identifier. -/
  | invalidConstant (name : String)
  deriving DecidableEq, Repr

namespace DeriveError

def message : DeriveError → String
  | generic => "Entity cannot be derived for generic structs"
  | unnamedFields => "Entity can only be derived for structs with named fields"
  | notStruct => "Entity can only be derived for structs"
  | unknownEntityOption => "unknown entity attribute. Expected: name = \"...\""
  | unknownFieldOption =>
    "unknown entity attribute. Expected: key, one, many, skip, or rename = \"...\""
  | notText option => option ++ " must be a string literal"
  | oneAndMany => "one and many are mutually exclusive"
  | skipConflict => "skip cannot be combined with key, one or many"
  | relationKey => "a relation cannot be the key"
  | secondKey => "only one field can be the key"
  | malformed complaint => complaint
  | invalidConstant name => "\"" ++ name ++ "\" is not a valid Ident"

end DeriveError

/-- What follows the name of an option: nothing, a value that may be a text, or a list. -/
inductive OptionForm where
  | bare
  | assigned (text : Option String)
  | applied
  deriving DecidableEq, Repr

structure AttributeOption where
  path : List String
  form : OptionForm
  deriving DecidableEq, Repr

structure Attribute where
  head : AttributeOption
  arguments : List SourceToken

namespace Grammar

open Reader

def optionPath : Reader (List String) := do
  if ← seesWord "unsafe" then return [← anyWord] else simplePath

def optionValue (g : Grammar) : Reader (Option String) := do
  let length := if ← seesMark "-" then 2 else 1
  let form ←
    if (← seesLiteral) && (← sees List.isEmpty length) then
      match ← literal with
      | .text value => pure (ExpressionForm.text value)
      | _ => pure .other
    else if (← seesMark "#") && (← seesGroup '[' 1) then
      complain "unexpected attribute inside of attribute"
    else g.expression true
  match form with
  | .text value => return some value
  | _ => return none

def attributeOption (g : Grammar) : Reader (AttributeOption × List SourceToken) := do
  let path ← optionPath
  match (← get).tokens with
  | .group _ inner :: _ =>
    anyGroup
    return (⟨path, .applied⟩, inner)
  | _ =>
    if (← seesMark "=") && !(← seesMark "==") && !(← seesMark "=>") then
      mark "="
      return (⟨path, .assigned (← g.optionValue)⟩, [])
    else return (⟨path, .bare⟩, [])

def attributeList (g : Grammar) : Nat → Reader (List Attribute)
  | 0 => return []
  | count + 1 => do
    if !(← mark? "#") then return []
    let (head, arguments) ← group '[' g.attributeOption
    return ⟨head, arguments⟩ :: (← attributeList g count)

def innerAttributeList (g : Grammar) : Nat → Reader Unit
  | 0 => pure ()
  | count + 1 => do
    if (← seesMark "#") && (← seesMark "!" 1) then
      mark "#"
      mark "!"
      discard (group '[' g.attributeOption)
      innerAttributeList g count

def next (g : Grammar) : Grammar where
  attributes := do discard (attributeList g (← limit))
  innerAttributes := do innerAttributeList g (← limit)
  type := g.typeOf
  bound := g.boundOf
  pattern := g.patternOf
  expression := g.expressionOf
  operand := g.operandOf
  operation := g.operationOf
  statementExpression := g.statementExpressionOf
  statements := g.statementsOf
  declaration := g.declarationOf

def upTo : Nat → Grammar
  | 0 => .empty
  | depth + 1 => (upTo depth).next

/-- The phrases that tokens can make up. No token opens more than four levels. -/
def ofTokens (tokens : List SourceToken) : Grammar :=
  upTo (4 * SourceToken.countAll tokens + 4)

end Grammar

namespace Attribute

/-- Options with commas between them, and perhaps one at the end. Brackets stand only in options that
are refused for what they are, so that what is left over in them needs no complaint. -/
def readOptions (tokens : List SourceToken) : Except DeriveError (List AttributeOption) :=
  let option := (Grammar.ofTokens tokens).attributeOption
  match (Reader.commaList option).run { tokens } with
  | .ok (options, _) => .ok (options.map (·.1))
  | .error complaint => .error (.malformed complaint)

/-- The options in the first attribute named `entity`. Others are passed over. -/
def entityOptions (attributes : List Attribute) : Except DeriveError (List AttributeOption) :=
  match attributes.find? (·.head.path == ["entity"]) with
  | none => .ok []
  | some a =>
    match a.head.form with
    | .bare => .error (.malformed "expected attribute arguments in parentheses: #[entity(...)]")
    | .assigned _ => .error (.malformed "expected parentheses: #[entity(...)]")
    | .applied => readOptions a.arguments

end Attribute

def entityNameOf (options : List AttributeOption) : Except DeriveError (Option String) :=
  options.foldlM (fun _ o =>
    match o with
    | ⟨["name"], .assigned (some name)⟩ => .ok (some name)
    | ⟨["name"], .assigned none⟩ => .error (.notText "name")
    | _ => .error .unknownEntityOption) none

structure FieldOptions where
  key : Bool := false
  relation : Option RelationKind := none
  skip : Bool := false
  rename : Option String := none
  deriving DecidableEq, Repr

namespace FieldOptions

/-- Takes one option. Where an option comes twice the later one counts, but a relation cannot be of
both kinds. -/
def accept (options : FieldOptions) (o : AttributeOption) : Except DeriveError FieldOptions :=
  let setRelation (kind : RelationKind) : Except DeriveError FieldOptions :=
    if options.relation.all (· == kind) then .ok { options with relation := some kind }
    else .error .oneAndMany
  match o with
  | ⟨["key"], .bare⟩ => .ok { options with key := true }
  | ⟨["skip"], .bare⟩ => .ok { options with skip := true }
  | ⟨["one"], .bare⟩ => setRelation .one
  | ⟨["many"], .bare⟩ => setRelation .many
  | ⟨["rename"], .assigned (some name)⟩ => .ok { options with rename := some name }
  | ⟨["rename"], .assigned none⟩ => .error (.notText "rename")
  | _ => .error .unknownFieldOption

def check (options : FieldOptions) : Except DeriveError FieldOptions :=
  if options.skip && (options.key || options.relation.isSome) then .error .skipConflict
  else if options.key && options.relation.isSome then .error .relationKey
  else .ok options

def ofList (options : List AttributeOption) : Except DeriveError FieldOptions := do
  check (← options.foldlM accept {})

def ofAttributes (attributes : List Attribute) : Except DeriveError FieldOptions := do
  ofList (← Attribute.entityOptions attributes)

end FieldOptions

end EntityQuery.Derive
