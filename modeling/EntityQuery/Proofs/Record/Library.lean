import EntityQuery.Path.Basic
import EntityQuery.Proofs.Record.Conformance

/-! A small application to show results on: authors with their books, and shelves that show one. -/

namespace EntityQuery

open EntityQuery.Numeric

inductive Library where
  | author
  | book
  | shelf
  deriving DecidableEq, Repr

namespace Library

/-- A shelf has no key, and the one book that it shows cannot be taken off. -/
def layout : Library → Layout Library
  | author => ⟨"Author", some "id", [("id", .scalar (.unsigned .w64)), ("name", .scalar .string),
      ("rating", .scalar .double), ("books", .relation .many .list book)]⟩
  | book => ⟨"Book", some "title", [("title", .scalar .string), ("pages", .scalar (.unsigned .w64)),
      ("author", .relation .one (.optional .single) author)]⟩
  | shelf => ⟨"Shelf", none, [("label", .scalar .string), ("shown", .relation .many .single book)]⟩

instance : LayoutCatalog Library := ⟨layout⟩

def authorOfBook : Field Library :=
  ⟨"author", .one author, true⟩

def nameOfAuthor : Path Library :=
  ⟨book, [authorOfBook], ⟨"name", .string, false⟩⟩

def newAuthor (id : UInt64) (name : String) (rating : Binary64) (books : List (Record Library)) :
    Record Library :=
  .mk author [("id", .scalar (.unsigned .w64) id.toBitVec),
    ("name", .scalar .string name), ("rating", .scalar .double rating),
    ("books", .relation .many (.list books))]

/-- A book whose author is not known. -/
def newBook (title : String) (pages : UInt64) : Record Library :=
  .mk book [("title", .scalar .string title),
    ("pages", .scalar (.unsigned .w64) pages.toBitVec), ("author", .relation .one .absent)]

def newBookBy (title : String) (pages : UInt64) (writer : Record Library) : Record Library :=
  .mk book [("title", .scalar .string title),
    ("pages", .scalar (.unsigned .w64) pages.toBitVec),
    ("author", .relation .one (.present (.single writer)))]

def newShelf (label : String) (shown : Record Library) : Record Library :=
  .mk shelf [("label", .scalar .string label), ("shown", .relation .many (.single shown))]

theorem newBook_fits (title : String) (pages : UInt64) : Record.Fits book (newBook title pages) := by
  refine .of_zip rfl ?_
  intro field cell member
  simp only [LayoutCatalog.layout, layout, List.zip_cons_cons, List.zip_nil_left, List.mem_cons,
    List.not_mem_nil, or_false, Prod.mk.injEq] at member
  rcases member with ⟨rfl, rfl⟩ | ⟨rfl, rfl⟩ | ⟨rfl, rfl⟩
  · exact ⟨rfl, nofun⟩
  · exact ⟨rfl, nofun⟩
  · exact ⟨⟨rfl, trivial⟩, fun _ _ _ present => nomatch present⟩

theorem newBookBy_fits {writer : Record Library} (title : String) (pages : UInt64)
    (fit : Record.Fits author writer) : Record.Fits book (newBookBy title pages writer) := by
  refine .of_zip rfl ?_
  intro field cell member
  simp only [LayoutCatalog.layout, layout, List.zip_cons_cons, List.zip_nil_left, List.mem_cons,
    List.not_mem_nil, or_false, Prod.mk.injEq] at member
  rcases member with ⟨rfl, rfl⟩ | ⟨rfl, rfl⟩ | ⟨rfl, rfl⟩
  · exact ⟨rfl, nofun⟩
  · exact ⟨rfl, nofun⟩
  · refine ⟨⟨rfl, trivial⟩, ?_⟩
    intro target leads q present
    cases leads
    rw [List.mem_singleton.mp present]
    exact fit

theorem newAuthor_fits {books : List (Record Library)} (id : UInt64) (name : String)
    (rating : Binary64) (fit : ∀ b ∈ books, Record.Fits book b) :
    Record.Fits author (newAuthor id name rating books) := by
  refine .of_zip rfl ?_
  intro field cell member
  simp only [LayoutCatalog.layout, layout, List.zip_cons_cons, List.zip_nil_left, List.mem_cons,
    List.not_mem_nil, or_false, Prod.mk.injEq] at member
  rcases member with ⟨rfl, rfl⟩ | ⟨rfl, rfl⟩ | ⟨rfl, rfl⟩ | ⟨rfl, rfl⟩
  · exact ⟨rfl, nofun⟩
  · exact ⟨rfl, nofun⟩
  · exact ⟨rfl, nofun⟩
  · refine ⟨⟨rfl, trivial⟩, ?_⟩
    intro target leads q present
    cases leads
    exact fit q present

theorem newShelf_fits {shown : Record Library} (label : String) (fit : Record.Fits book shown) :
    Record.Fits shelf (newShelf label shown) := by
  refine .of_zip rfl ?_
  intro field cell member
  simp only [LayoutCatalog.layout, layout, List.zip_cons_cons, List.zip_nil_left, List.mem_cons,
    List.not_mem_nil, or_false, Prod.mk.injEq] at member
  rcases member with ⟨rfl, rfl⟩ | ⟨rfl, rfl⟩
  · exact ⟨rfl, nofun⟩
  · refine ⟨⟨rfl, trivial⟩, ?_⟩
    intro target leads q present
    cases leads
    rw [List.mem_singleton.mp present]
    exact fit

end Library

end EntityQuery
