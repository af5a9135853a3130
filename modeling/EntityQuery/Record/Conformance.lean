import EntityQuery.Record.Layout

/-!
What the layouts of entities promise of their records: every field is there in its place, a scalar
lies in its storage, and a relation holds records that fit its target.
-/

namespace EntityQuery

variable {ε : Type}

def ContainerType.Holds : ContainerType → Container ε → Prop
  | single, .single _ => True
  | list, .list _ => True
  | optional _, .absent => True
  | optional inner, .present c => inner.Holds c
  | _, _ => False

namespace Backing

def target? : Backing ε → Option ε
  | scalar _ => none
  | relation _ _ target => some target

/-- The cells that are stored so, whatever records they hold. -/
def Holds : Backing ε → Cell ε → Prop
  | scalar storage, .scalar used _ => used = storage
  | relation kind container _, .relation used c => used = kind ∧ container.Holds c
  | _, _ => False

end Backing

def Cell.records : Cell ε → List (Record ε)
  | scalar _ _ => []
  | relation _ c => c.records
  | view target => [target]

class LayoutCatalog (ε : Type) where
  layout : ε → Layout ε

instance [LayoutCatalog ε] : Catalog ε :=
  ⟨fun entity => (LayoutCatalog.layout entity).schema⟩

/-- A record fits an entity if its cells are those of the layout in their order, each holds what is
stored so, and the related records fit the entities that the relations lead to. -/
inductive Record.Fits [LayoutCatalog ε] : ε → Record ε → Prop
  | mk {entity : ε} {cells : List (String × Cell ε)}
      (names : cells.map (·.1) = (LayoutCatalog.layout entity).fields.map (·.1))
      (stored : ∀ field cell, (field, cell) ∈ (LayoutCatalog.layout entity).fields.zip cells →
        field.2.Holds cell.2)
      (related : ∀ field cell, (field, cell) ∈ (LayoutCatalog.layout entity).fields.zip cells →
        ∀ target, field.2.target? = some target → ∀ r ∈ cell.2.records, Record.Fits target r) :
      Record.Fits entity (.mk entity cells)

end EntityQuery
