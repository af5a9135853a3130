import EntityQuery.Proofs.Path.Pruning
import EntityQuery.Proofs.Source.Fetch

/-!
Fetching with a filtered include. No related record that the filter rejects is left, except in a
collection that is stored as just one record: the schema promises that it can drop records, and its
container cannot.
-/

namespace EntityQuery

variable {ε : Type} {entity : ε}

namespace MemorySource

theorem map_prune_nil (found : List (Record ε)) : found.map (prune []) = found :=
  List.map_id found

variable [Catalog ε] {s : Specification entity} {items : List (Record ε)}

theorem fetch_with_includes (plain : s.includes = []) (includes : List (Include ε)) :
    ((ofItems items).apply { s with includes } none).fetch =
      (((ofItems items).apply s none).fetch).map (·.map (prune includes)) := by
  have bare := fetch_with s s.includes items none
  rw [fetch_with, bare, plain]
  cases ((ofItems items).apply s none).roots with
  | error e => rfl
  | ok found => simp only [Except.map, map_prune_nil]

theorem fetch_subset (plain : s.includes = []) {found : List (Record ε)}
    (fetched : ((ofItems items).apply s none).fetch = .ok found) : ∀ r ∈ found, r ∈ items := by
  intro r member
  rcases Option.eq_none_or_eq_some s.primaryKey with given | ⟨key, given⟩
  · rw [fetch_of_no_key given, plain, map_prune_nil] at fetched
    cases fetched
    exact (List.mem_filter.mp ((List.mergeSort_perm _ _).mem_iff.mp member)).1
  · rw [fetch_of_key given, plain] at fetched
    obtain ⟨field, -, rfl⟩ := map_ok fetched
    rw [map_prune_nil, Option.mem_toList] at member
    exact List.mem_of_find?_eq_some member

end MemorySource

section Includes

variable [DecidableEq ε] [LayoutCatalog ε] {related : ε} {base s : Specification entity} {text : String}
  {p : Predicate related} {path : Path ε} {items plain : List (Record ε)}

/-- The filter of the one include holds of all related records that are left, exactly if the path
does not pin its record or nothing was to be dropped. -/
theorem fetch_includeFiltered (fresh : base.includes = [])
    (accepted : base.includeFiltered text p = .ok s) (resolved : Path.resolve entity text = .ok path)
    (fits : ∀ r ∈ items, Record.Fits entity r)
    (fetched : ((MemorySource.ofItems items).apply base none).fetch = .ok plain) :
    ∃ result, ((MemorySource.ofItems items).apply s none).fetch = .ok result ∧
      result.length = plain.length ∧
      ((∀ r ∈ result, ∀ q ∈ path.records r, p.holds q = true) ↔
        (path.PinsOne → ∀ r ∈ plain, ∀ q ∈ path.records r, p.holds q = true)) := by
  obtain ⟨_, found, may, leads, rfl⟩ := Specification.includeFiltered_ok accepted
  cases resolved.symm.trans (Specification.relationPath_ok found).1
  obtain ⟨owner, reaches⟩ := Path.resolve_reaches resolved
  have given : ∀ r ∈ plain, Record.Fits entity r :=
    fun r member => fits r (MemorySource.fetch_subset fresh fetched r member)
  refine ⟨plain.map (path.retain p.holds), ?_, List.length_map _, ?_⟩
  · rw [MemorySource.fetch_with_includes fresh, fetched, fresh]
    rfl
  · by_cases pinned : path.PinsOne
    · have kept : ∀ r ∈ plain, path.records (path.retain p.holds r) = path.records r :=
        fun r member => Path.records_retain_of_pinned reaches (given r member) leads pinned
      rw [List.forall_mem_map]
      exact ⟨fun all _ r member => kept r member ▸ all r member,
        fun all r member => kept r member ▸ all pinned r member⟩
    · refine ⟨fun _ may => absurd may pinned, fun _ => ?_⟩
      rw [List.forall_mem_map]
      exact fun r member => Path.records_retain_of_free reaches (given r member) leads may pinned

end Includes

namespace Library

def longBooks : Predicate book :=
  ⟨.compare ⟨book, [], ⟨"pages", .uint, false⟩⟩ .gte (.number (.unsigned 300))⟩

def shelves : List (Record Library) :=
  [newShelf "new" (newBook "Emma" 120)]

def shownOnShelf : Path Library :=
  ⟨shelf, [], ⟨"shown", .many book, false⟩⟩

def withLongBookShown : Specification shelf :=
  { includes := [⟨shownOnShelf, some longBooks.node⟩] }

theorem shelves_fit : ∀ r ∈ shelves, Record.Fits shelf r :=
  fun _ member => List.mem_singleton.mp member ▸ newShelf_fits _ (newBook_fits _ _)

/-- A short book on a shelf is fetched with it although the include asks for long ones. -/
theorem short_book_stays : (∀ r ∈ shelves, Record.Fits shelf r) ∧
    Path.resolve shelf "shown" = .ok shownOnShelf ∧ ∃ s result,
      (Specification.empty : Specification shelf).includeFiltered "shown" longBooks = .ok s ∧
      ((MemorySource.ofItems shelves).apply s none).fetch = .ok result ∧
      ∃ r ∈ result, ∃ q ∈ shownOnShelf.records r, longBooks.holds q = false := by
  refine ⟨shelves_fit, rfl, withLongBookShown, shelves, rfl, ?_, newShelf "new" (newBook "Emma" 120), ?_,
    newBook "Emma" 120, ?_, rfl⟩
  · exact MemorySource.fetch_all rfl rfl rfl
  · exact List.mem_singleton.mpr rfl
  · exact List.mem_singleton.mpr rfl

def authors : List (Record Library) :=
  [newAuthor 1 "Ann" (.ofInt 4) [newBook "Dune" 412, newBook "Emma" 120]]

def booksOfAuthor : Path Library :=
  ⟨author, [], ⟨"books", .many book, false⟩⟩

def withLongBooks : Specification author :=
  { includes := [⟨booksOfAuthor, some longBooks.node⟩] }

theorem authors_fit : ∀ r ∈ authors, Record.Fits author r := by
  intro r member
  rw [List.mem_singleton.mp member]
  refine newAuthor_fits _ _ _ fun b present => ?_
  rcases List.mem_cons.mp present with rfl | present
  · exact newBook_fits _ _
  · rw [List.mem_singleton.mp present]
    exact newBook_fits _ _

theorem long_books_left : ∃ result,
    ((MemorySource.ofItems authors).apply withLongBooks none).fetch = .ok result ∧
      ∀ r ∈ result, ∀ q ∈ booksOfAuthor.records r, longBooks.holds q = true := by
  have accepted : Specification.empty.includeFiltered "books" longBooks = .ok withLongBooks := rfl
  have resolved : Path.resolve author "books" = .ok booksOfAuthor := rfl
  have fetched : ((MemorySource.ofItems authors).apply (Specification.empty : Specification author)
      none).fetch = .ok authors := MemorySource.fetch_all rfl rfl rfl
  obtain ⟨result, found, -, left⟩ := fetch_includeFiltered rfl accepted resolved authors_fit fetched
  refine ⟨result, found, left.mpr fun pinned => ?_⟩
  obtain ⟨_, stored⟩ := pinned
  cases stored

end Library

end EntityQuery
