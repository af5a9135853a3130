import EntityQuery.Record.Basic

/-!
Layouts: entities whose schema follows from the way their records are stored. Every scalar lies in a
storage and every relation in a container, and both decide what the schema says of the field.
-/

namespace EntityQuery

inductive ContainerType where
  | single
  | list
  | optional (inner : ContainerType)
  deriving DecidableEq, Repr

def ContainerType.isOptional : ContainerType → Bool
  | optional _ => true
  | _ => false

inductive Backing (ε : Type) where
  | scalar (storage : Storage)
  | relation (kind : RelationKind) (container : ContainerType) (target : ε)
  deriving DecidableEq, Repr

structure Layout (ε : Type) where
  name : String
  key : Option String
  fields : List (String × Backing ε)

variable {ε : Type}

def RelationKind.fieldType (kind : RelationKind) (target : ε) : FieldType ε :=
  match kind with
  | .one => .one target
  | .many => .many target

def Backing.field (name : String) : Backing ε → Field ε
  | scalar storage => ⟨name, storage.fieldType, storage.nullable⟩
  | relation kind container target => ⟨name, kind.fieldType target, container.isOptional⟩

def Layout.schema (layout : Layout ε) : Schema ε :=
  ⟨layout.name, layout.key, layout.fields.map fun (name, backing) => backing.field name⟩

end EntityQuery
