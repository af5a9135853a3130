import EntityQuery.Derive.Declaration

/-!
Entities derived from struct declarations: the schema, a constant for the name of each field, and the cases of each
operation on records. The fields of the struct fill these lists one after the other.
-/

namespace EntityQuery.Derive

open EntityQuery.Text

/-- What the schema says of a field. A scalar leaves it to its type whether it may be null. -/
inductive FieldRole where
  | scalar (type : TypeExpr)
  | relation (kind : RelationKind) (target : TypeExpr) (nullable : Bool)

structure Descriptor where
  pathName : String
  role : FieldRole

structure Constant where
  name : String
  pathName : String

/-- What an operation on records does in a case, and with which field of the struct. -/
inductive Body where
  | value (field : String)
  | related (kind : RelationKind) (field : String)
  | missing
  | assign (field : String)
  | refuse
  | unknown
  | reach (field : String)
  | retain (field : String)
  | nothing
  deriving DecidableEq, Repr

structure Arm where
  pattern : String
  body : Body
  deriving DecidableEq, Repr

structure Expansion where
  name : String
  key : Option String := none
  descriptors : List Descriptor := []
  constants : List Constant := []
  getArms : List Arm := []
  setArms : List Arm := []
  relatedNames : List String := []
  relatedMutArms : List Arm := []
  retainArms : List Arm := []

/-- A name in upper case with low lines between its words. A word ends before an upper-case letter
that follows something else than one, and at a low line or hyphen. -/
def screamingSnake (s : List Char) : List Char :=
  go false s
where
  go (afterLower : Bool) : List Char → List Char
    | [] => []
    | c :: rest =>
      if isUppercase c then (if afterLower then ['_', c] else [c]) ++ go false rest
      else if c = '_' ∨ c = '-' then '_' :: go false rest
      else c.toUpper :: go true rest

def constantName (pathName : String) : Except DeriveError String :=
  let constant := screamingSnake pathName.toList
  if isIdentifier constant then .ok (String.ofList constant)
  else .error (.invalidConstant (String.ofList constant))

namespace Expansion

def markKey (e : Expansion) (isKey : Bool) (pathName : String) : Except DeriveError Expansion :=
  if isKey then
    if e.key.isSome then .error .secondKey else .ok { e with key := some pathName }
  else .ok e

def addConstant (e : Expansion) (pathName : String) : Except DeriveError Expansion := do
  let name ← constantName pathName
  return { e with constants := e.constants ++ [⟨name, pathName⟩] }

def addScalar (e : Expansion) (pathName : String) (f : FieldDeclaration) : Expansion :=
  { e with
    descriptors := e.descriptors ++ [⟨pathName, .scalar f.type⟩]
    getArms := e.getArms ++ [⟨pathName, .value f.name⟩]
    setArms := e.setArms ++ [⟨pathName, .assign f.name⟩] }

def addRelation (e : Expansion) (kind : RelationKind) (pathName : String) (f : FieldDeclaration) : Expansion :=
  { e with
    descriptors := e.descriptors ++ [⟨pathName, .relation kind f.type.innermost f.type.isOption⟩]
    getArms := e.getArms ++ [⟨pathName, .related kind f.name⟩]
    relatedMutArms := e.relatedMutArms ++ [⟨pathName, .reach f.name⟩]
    retainArms := e.retainArms ++ [⟨pathName, .retain f.name⟩]
    relatedNames := e.relatedNames ++ [pathName] }

def place (e : Expansion) (options : FieldOptions) (pathName : String) (f : FieldDeclaration) :
    Except DeriveError Expansion :=
  match options.relation <|> f.type.relation? with
  | none => .ok (e.addScalar pathName f)
  | some kind => if options.key then .error .relationKey else .ok (e.addRelation kind pathName f)

def addField (e : Expansion) (f : FieldDeclaration) : Except DeriveError Expansion := do
  let options ← FieldOptions.ofAttributes f.attributes
  if options.skip then return e
  let pathName := options.rename.getD f.name
  let e ← e.markKey options.key pathName
  let e ← e.addConstant pathName
  e.place options pathName f

/-! ### The cases of an operation, with the one for all other names -/

def getCases (e : Expansion) : List Arm :=
  e.getArms ++ [⟨"_", .missing⟩]

def setCases (e : Expansion) : List Arm :=
  e.setArms ++ (if e.relatedNames.isEmpty then [] else [⟨joined "|" e.relatedNames, .refuse⟩]) ++
    [⟨"other", .unknown⟩]

def relatedMutCases (e : Expansion) : List Arm :=
  e.relatedMutArms ++ [⟨"_", .nothing⟩]

def retainCases (e : Expansion) : List Arm :=
  e.retainArms ++ [⟨"_", .nothing⟩]

end Expansion

def StructDeclaration.expand (d : StructDeclaration) : Except DeriveError Expansion := do
  if d.hasParameters then throw .generic
  match d.shape with
  | .named => pure ()
  | .tuple | .unit => throw .unnamedFields
  | .enumeration | .union => throw .notStruct
  let name ← entityNameOf (← Attribute.entityOptions d.attributes)
  d.fields.foldlM Expansion.addField { name := name.getD d.name }

end EntityQuery.Derive
