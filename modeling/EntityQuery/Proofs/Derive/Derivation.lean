import EntityQuery.Proofs.Derive.Expansion

/-!
What is derived from a struct. Main statement: the parts of a derived entity agree with one another and with
the fields of the struct, and structs are refused for known causes only.
-/

namespace EntityQuery.Derive

open AttributeOption EntityQuery.Text

structure Descriptor.Describes (g : Descriptor) (f : FieldDeclaration) : Prop where
  pathName : g.pathName = f.pathName
  relation : ∀ kind target nullable, g.role = .relation kind target nullable ↔
    f.LeadsTo kind ∧ f.type.Unwraps target ∧
      (nullable = true ↔ ∃ inner, f.type.Holds "Option" inner)
  scalar : ∀ type, g.role = .scalar type ↔ ¬f.IsRelation ∧ type = f.type

/-- The case reads the field, the value of a scalar or the records of a relation. -/
structure Arm.Reads (a : Arm) (f : FieldDeclaration) : Prop where
  pattern : a.pattern = f.pathName
  relation : ∀ kind field, a.body = .related kind field ↔ f.LeadsTo kind ∧ field = f.name
  scalar : ∀ field, a.body = .value field ↔ ¬f.IsRelation ∧ field = f.name

namespace FieldDeclaration

variable {f : FieldDeclaration}

theorem describes_descriptor (formed : f.Formed) : f.descriptor.Describes f := by
  refine ⟨rfl, ?_, ?_⟩
  · intro kind target nullable
    rw [← relation?_eq_some_iff formed.2.oneKind, TypeExpr.unwraps_iff, ← TypeExpr.isOption_iff, descriptor]
    cases f.relation? with
    | none => simp
    | some found => cases f.type.isOption <;> cases nullable <;> simp [eq_comm]
  · intro type
    rw [← relation?_eq_none_iff, descriptor]
    cases f.relation? with
    | none => simp [eq_comm]
    | some found => simp

theorem reads_reading (formed : f.Formed) : f.reading.Reads f := by
  refine ⟨rfl, ?_, ?_⟩
  · intro kind field
    rw [← relation?_eq_some_iff formed.2.oneKind, reading]
    cases f.relation? with
    | none => simp
    | some found => simp [eq_comm]
  · intro field
    rw [← relation?_eq_none_iff, reading]
    cases f.relation? with
    | none => simp [eq_comm]
    | some found => simp

end FieldDeclaration

namespace StructDeclaration

variable {d : StructDeclaration} {e : Expansion}

/-- At most one attribute named `entity` stands before the struct, and before each field. -/
structure SingleAttributes (d : StructDeclaration) : Prop where
  own : Attribute.Single d.attributes
  fields : ∀ f ∈ d.fields, Attribute.Single f.attributes

def options (d : StructDeclaration) : List AttributeOption :=
  Attribute.written d.attributes

/-- The name of the entity: the one its options give it, or else that of the struct. -/
def entityName (d : StructDeclaration) : String :=
  (lastOf (textFor? "name") d.options).getD d.name

/-- The attribute of the struct can be read and does nothing but name the entity. -/
def Formed (d : StructDeclaration) : Prop :=
  (∀ a ∈ d.attributes, a.isEntity = true → a.Readable) ∧
    ∀ o ∈ d.options, ∃ text, o = assignment "name" text

def kept (d : StructDeclaration) : List FieldDeclaration :=
  d.fields.filter (!·.isSkipped)

def keys (d : StructDeclaration) : List FieldDeclaration :=
  d.fields.filter (·.isKey)

def scalars (d : StructDeclaration) : List FieldDeclaration :=
  d.kept.filter (¬·.IsRelation)

def relations (d : StructDeclaration) : List FieldDeclaration :=
  d.kept.filter (·.IsRelation)

def refusal (d : StructDeclaration) : List Arm :=
  if d.relations = [] then [] else [⟨joined "|" (d.relations.map (·.pathName)), .refuse⟩]

/-- The entity has the fields of the struct that are not skipped, in their order: in the schema, among the constants
and in the cases of reading. The cases of writing are those of the scalars and one that refuses the relations, which
alone have cases in reaching and in dropping related records. -/
structure Derives (d : StructDeclaration) (e : Expansion) : Prop where
  name : e.name = d.entityName
  descriptors : List.Forall₂ Descriptor.Describes e.descriptors d.kept
  constants : e.constants = d.kept.map fun f => ⟨String.ofList f.constant, f.pathName⟩
  get : ∃ arms, e.getCases = arms ++ [⟨"_", .missing⟩] ∧ List.Forall₂ Arm.Reads arms d.kept
  set : e.setCases = (d.scalars.map fun f => ⟨f.pathName, .assign f.name⟩) ++ d.refusal ++ [⟨"other", .unknown⟩]
  relatedMut : e.relatedMutCases = (d.relations.map fun f => ⟨f.pathName, .reach f.name⟩) ++ [⟨"_", .nothing⟩]
  retain : e.retainCases = (d.relations.map fun f => ⟨f.pathName, .retain f.name⟩) ++ [⟨"_", .nothing⟩]
  key : (∃ f, d.keys = [f] ∧ f ∈ d.kept ∧ ¬f.IsRelation ∧ e.key = some f.pathName) ∨
    d.keys = [] ∧ e.key = none

inductive Refused (d : StructDeclaration) : Prop
  | generic (parameters : d.hasParameters = true)
  | notStruct (other : d.shape = .enumeration ∨ d.shape = .union)
  | unnamedFields (unnamed : d.shape = .tuple ∨ d.shape = .unit)
  | ownAttribute (illFormed : ¬d.Formed)
  | fieldAttribute (f : FieldDeclaration) (member : f ∈ d.fields) (illFormed : ¬f.Formed)
  | secondKey (more : 2 ≤ d.keys.length)
  | relationKey (f : FieldDeclaration) (member : f ∈ d.fields) (key : f.isKey = true)
      (related : f.IsRelation)

/-! ### The derived entity -/

theorem named_iff (single : Attribute.Single d.attributes) {name : Option String} :
    (Attribute.entityOptions d.attributes >>= entityNameOf) = .ok name ↔
      d.Formed ∧ name = lastOf (textFor? "name") d.options := by
  constructor
  · intro done
    obtain ⟨options, read, named⟩ := bind_ok done
    obtain ⟨readable, rfl⟩ := (Attribute.entityOptions_ok_iff single).mp read
    obtain ⟨names, rfl⟩ := entityNameOf_ok_iff.mp named
    exact ⟨⟨readable, names⟩, rfl⟩
  · rintro ⟨⟨readable, names⟩, rfl⟩
    rw [(Attribute.entityOptions_ok_iff single).mpr ⟨readable, rfl⟩]
    exact entityNameOf_ok_iff.mpr ⟨names, rfl⟩

theorem expand_of_named (parameters : d.hasParameters = false) (shape : d.shape = .named) :
    d.expand = (Attribute.entityOptions d.attributes >>= entityNameOf) >>= fun name =>
      d.fields.foldlM Expansion.addField { name := name.getD d.name } := by
  unfold expand
  rw [parameters, shape]
  cases Attribute.entityOptions d.attributes <;> rfl

theorem parameters_of_expand_ok (done : d.expand = .ok e) : d.hasParameters = false := by
  unfold expand at done
  cases parameters : d.hasParameters with
  | false => rfl
  | true =>
    rw [parameters] at done
    cases done

theorem shape_of_expand_ok (done : d.expand = .ok e) : d.shape = .named := by
  have parameters := parameters_of_expand_ok done
  unfold expand at done
  rw [parameters] at done
  cases shape : d.shape with
  | named => rfl
  | _ =>
    rw [shape] at done
    cases done

/-- A struct is taken if its attribute is well-formed, each field can be derived, and at most one is the
key. -/
theorem expand_ok_iff (single : d.SingleAttributes) :
    d.expand = .ok e ↔
      d.hasParameters = false ∧ d.shape = .named ∧ d.Formed ∧ (∀ f ∈ d.fields, f.Derivable) ∧
        d.keys.length ≤ 1 ∧ e = .ofFields d.entityName d.fields := by
  constructor
  · intro done
    have parameters := parameters_of_expand_ok done
    have shape := shape_of_expand_ok done
    rw [expand_of_named parameters shape] at done
    obtain ⟨name, named, run⟩ := bind_ok done
    obtain ⟨formed, rfl⟩ := (named_iff single.own).mp named
    exact ⟨parameters, shape, formed, (Expansion.foldlM_addField_ok_iff single.fields).mp run⟩
  · rintro ⟨parameters, shape, formed, taken⟩
    rw [expand_of_named parameters shape, (named_iff single.own).mpr ⟨formed, rfl⟩]
    exact (Expansion.foldlM_addField_ok_iff single.fields).mpr taken

/-! ### Its parts -/

theorem setCases_ofFields (name : String) :
    (Expansion.ofFields name d.fields).setCases =
      d.scalars.map (·.assigning) ++ d.refusal ++ [⟨"other", .unknown⟩] := by
  have names : (Expansion.ofFields name d.fields).relatedNames = d.relations.map (·.pathName) := rfl
  unfold Expansion.setCases refusal
  rw [names, List.isEmpty_map]
  cases d.relations <;> rfl

theorem key_ofFields (name : String) (derivable : ∀ f ∈ d.fields, f.Derivable)
    (oneKey : d.keys.length ≤ 1) :
    (∃ f, d.keys = [f] ∧ f ∈ d.kept ∧ ¬f.IsRelation ∧
      (Expansion.ofFields name d.fields).key = some f.pathName) ∨
    d.keys = [] ∧ (Expansion.ofFields name d.fields).key = none := by
  have first : d.fields.find? (·.isKey) = d.keys.head? := List.head?_filter.symm
  unfold Expansion.ofFields
  dsimp only
  rw [first]
  match keys : d.keys with
  | [] => exact Or.inr ⟨rfl, rfl⟩
  | [f] =>
    have marked : f ∈ d.keys := by simp [keys]
    obtain ⟨member, key⟩ := List.mem_filter.mp marked
    have kept : f.isSkipped ≠ true := by
      intro skipped
      rw [FieldDeclaration.not_isKey_of_isSkipped (derivable f member).formed skipped] at key
      cases key
    refine Or.inl ⟨f, rfl, ?_, (derivable f member).keyed key, rfl⟩
    exact List.mem_filter.mpr ⟨member, by simpa using kept⟩
  | _ :: _ :: _ =>
    rw [keys] at oneKey
    simp at oneKey

theorem derives_ofFields (derivable : ∀ f ∈ d.fields, f.Derivable) (oneKey : d.keys.length ≤ 1) :
    d.Derives (.ofFields d.entityName d.fields) where
  name := rfl
  descriptors := by
    change List.Forall₂ Descriptor.Describes (d.kept.map (·.descriptor)) d.kept
    rw [List.forall₂_map_left_iff, List.forall₂_same]
    exact fun f member => FieldDeclaration.describes_descriptor (derivable f (List.mem_filter.mp member).1).formed
  constants := rfl
  get := by
    refine ⟨d.kept.map (·.reading), rfl, ?_⟩
    rw [List.forall₂_map_left_iff, List.forall₂_same]
    exact fun f member => FieldDeclaration.reads_reading (derivable f (List.mem_filter.mp member).1).formed
  set := setCases_ofFields _
  relatedMut := rfl
  retain := rfl
  key := key_ofFields _ derivable oneKey

/-! ### Refusals -/

theorem refused_of_error (single : d.SingleAttributes)
    (constants : ∀ f ∈ d.fields, f.Formed → f.isSkipped = false → isIdentifier f.constant = true)
    {error : DeriveError} (failed : d.expand = .error error) : d.Refused := by
  -- a struct that no cause stands against is taken
  by_contra accepted
  have taken : d.expand = .ok (.ofFields d.entityName d.fields) := by
    rw [expand_ok_iff single]
    refine ⟨?_, ?_, ?_, ?_, ?_, rfl⟩
    · exact Bool.eq_false_iff.mpr fun parameters => accepted (.generic parameters)
    · cases shape : d.shape with
      | named => rfl
      | tuple => exact absurd (.unnamedFields (Or.inl shape)) accepted
      | unit => exact absurd (.unnamedFields (Or.inr shape)) accepted
      | enumeration => exact absurd (.notStruct (Or.inl shape)) accepted
      | union => exact absurd (.notStruct (Or.inr shape)) accepted
    · exact Classical.not_not.mp fun illFormed => accepted (.ownAttribute illFormed)
    · intro f member
      have formed : f.Formed :=
        Classical.not_not.mp fun illFormed => accepted (.fieldAttribute f member illFormed)
      exact ⟨formed, constants f member formed, fun key related =>
        accepted (.relationKey f member key related)⟩
    · exact Nat.le_of_not_lt fun more => accepted (.secondKey more)
  rw [taken] at failed
  cases failed

theorem not_refused_of_ok (single : d.SingleAttributes) (done : d.expand = .ok e) : ¬d.Refused := by
  obtain ⟨parameters, shape, formed, derivable, oneKey, -⟩ := (expand_ok_iff single).mp done
  intro refused
  cases refused with
  | generic generic =>
    rw [parameters] at generic
    cases generic
  | notStruct other =>
    rw [shape] at other
    exact other.elim nofun nofun
  | unnamedFields unnamed =>
    rw [shape] at unnamed
    exact unnamed.elim nofun nofun
  | ownAttribute illFormed => exact illFormed formed
  | fieldAttribute f member illFormed => exact illFormed (derivable f member).formed
  | secondKey more => omega
  | relationKey f member key related => exact (derivable f member).keyed key related

/-- An entity that is derived has what its struct declares, and structs are refused for the known causes
only. -/
theorem expand_derives_or_refused (single : d.SingleAttributes) :
    (∀ e, d.expand = .ok e → d.Derives e) ∧
      ((∀ f ∈ d.fields, f.Formed → f.isSkipped = false → isIdentifier f.constant = true) →
        ((∃ error, d.expand = .error error) ↔ d.Refused)) := by
  constructor
  · intro e done
    obtain ⟨-, -, -, derivable, oneKey, rfl⟩ := (expand_ok_iff single).mp done
    exact derives_ofFields derivable oneKey
  · intro constants
    constructor
    · rintro ⟨error, failed⟩
      exact refused_of_error single constants failed
    · intro refused
      cases done : d.expand with
      | error error => exact ⟨error, rfl⟩
      | ok e => exact absurd refused (not_refused_of_ok single done)

/-- A struct with a key, a relation under another name, another one by its type alone, and a field that is
left out. -/
def book : StructDeclaration where
  name := "Book"
  hasParameters := false
  shape := .named
  attributes := []
  fields :=
    [⟨"isbn", .named "String" "String" [], [entity [.word "key"]]⟩,
      ⟨"author", .named "Option<Box<Author>>" "Option" [some (.named "Box<Author>" "Box" [some author])],
        [entity [.word "one", .mark ',' false, .word "rename", .mark '=' false,
          .literal "\"Writer\"" (.text "Writer")]]⟩,
      ⟨"reviews", .named "Vec<Review>" "Vec" [some (.named "Review" "Review" [])], []⟩,
      ⟨"cache", .named "Vec<u8>" "Vec" [some (.named "u8" "u8" [])], [entity [.word "skip"]]⟩]
where
  entity (arguments : List SourceToken) : Attribute := ⟨⟨["entity"], .applied⟩, arguments⟩
  author : TypeExpr := .named "Author" "Author" []

theorem book_derives :
    book.SingleAttributes ∧ (∃ e, book.expand = .ok e ∧ book.Derives e) ∧ ¬book.Refused := by
  have single : book.SingleAttributes := ⟨by decide, by decide⟩
  have constants : ∀ f ∈ book.fields, isIdentifier f.constant = true := by decide
  have done : book.expand = .ok (.ofFields "Book" book.fields) := by rfl
  obtain ⟨derives, refuses⟩ := expand_derives_or_refused single
  refine ⟨single, ⟨_, done, derives _ done⟩, fun refused => ?_⟩
  obtain ⟨error, failed⟩ := (refuses fun f member _ _ => constants f member).mpr refused
  rw [done] at failed
  cases failed

end StructDeclaration

end EntityQuery.Derive
