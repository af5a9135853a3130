import EntityQuery.Proofs.Path.Interference
import EntityQuery.Proofs.Query.Update
import EntityQuery.Proofs.Source.Includes

/-!
Two filtered includes. Their order makes no difference, unless the one drops something from the records that the
other one decides on and thereby changes what it decides.
-/

namespace EntityQuery

variable {ε : Type} {entity : ε}

namespace MemorySource

variable {p q : Path ε} {f g : Node ε} {before between rest : List (Include ε)}

theorem prune_append (includes more : List (Include ε)) (r : Record ε) :
    prune (includes ++ more) r = prune more (prune includes r) :=
  List.foldl_append

theorem prune_of_plain {includes : List (Include ε)} (plain : ∀ i ∈ includes, i.filter = none)
    (r : Record ε) : prune includes r = r := by
  induction includes with
  | nil => rfl
  | cons first rest ih =>
    obtain ⟨here, later⟩ := List.forall_mem_cons.mp plain
    unfold prune
    rw [List.foldl_cons, here]
    exact ih later

theorem prune_pair (plain : ∀ i ∈ before ++ between ++ rest, i.filter = none) (r : Record ε) :
    prune (before ++ ⟨p, some f⟩ :: (between ++ ⟨q, some g⟩ :: rest)) r =
      q.retain g.eval (p.retain f.eval r) := by
  rw [List.forall_mem_append, List.forall_mem_append] at plain
  obtain ⟨⟨first, middle⟩, last⟩ := plain
  have one : ∀ (path : Path ε) (filter : Node ε) (more : List (Include ε)) (r : Record ε),
      prune (⟨path, some filter⟩ :: more) r = prune more (path.retain filter.eval r) := fun _ _ _ _ => rfl
  rw [prune_append, prune_of_plain first, one, prune_append, prune_of_plain middle, one, prune_of_plain last]

variable [DecidableEq ε] [LayoutCatalog ε] {s : Specification entity}

/-- Two filtered includes can be swapped exactly if, on all returned items, neither changes what the other one
decides. -/
theorem fetch_swapped_iff (items : List (Record ε)) (signal : Option Bool) (built : s.Built)
    (filtered : s.includes = before ++ ⟨p, some f⟩ :: (between ++ ⟨q, some g⟩ :: rest))
    (plain : ∀ i ∈ before ++ between ++ rest, i.filter = none) :
    ((ofItems items).apply
        { s with includes := before ++ ⟨q, some g⟩ :: (between ++ ⟨p, some f⟩ :: rest) } signal).fetch =
        ((ofItems items).apply s signal).fetch ↔
      ∀ found, ((ofItems items).apply s signal).roots = .ok found →
        ∀ r ∈ found, ¬q.Sways g.eval p f.eval r ∧ ¬p.Sways f.eval q g.eval r := by
  have reach := built.includes_reach
  obtain ⟨owner, reaches⟩ := reach ⟨p, some f⟩ (by simp [filtered])
  obtain ⟨owner', reaches'⟩ := reach ⟨q, some g⟩ (by simp [filtered])
  have given := fetch_with s s.includes items signal
  rw [fetch_with, given, filtered]
  cases chosen : ((ofItems items).apply s signal).roots with
  | error e => exact ⟨fun _ _ impossible => (nomatch impossible), fun _ => rfl⟩
  | ok found =>
    have alike : ∀ r, prune (before ++ ⟨q, some g⟩ :: (between ++ ⟨p, some f⟩ :: rest)) r =
          prune (before ++ ⟨p, some f⟩ :: (between ++ ⟨q, some g⟩ :: rest)) r ↔
        ¬q.Sways g.eval p f.eval r ∧ ¬p.Sways f.eval q g.eval r := by
      intro r
      rw [prune_pair plain, prune_pair plain]
      exact Path.retain_comm_iff reaches reaches'
    rw [Except.map, Except.map, Except.ok.injEq, List.map_inj_left]
    simp only [alike, Except.ok.injEq, forall_eq']

end MemorySource

namespace Library

def writersOfBooks : Path Library :=
  ⟨author, [⟨"books", .many book, false⟩], authorOfBook⟩

def byBob : Predicate book :=
  ⟨.compare nameOfAuthor .eq (.string "Bob")⟩

def notBob : Predicate author :=
  ⟨.compare nameOf .ne (.string "Bob")⟩

/-- The books that pass, and of their writers those who are not Bob. -/
def booksWithWriters (p : Predicate book) : Specification author :=
  { includes := [⟨booksOfAuthor, some p.node⟩, ⟨writersOfBooks, some notBob.node⟩] }

theorem booksWithWriters_built (p : Predicate book) : (booksWithWriters p).Built :=
  .call (c := .includeFiltered author "books.author" notBob)
    (.call (c := .includeFiltered book "books" p) .empty rfl) rfl

def bookWithWriter : List (Record Library) :=
  [newAuthor 1 "Ann" (.ofInt 4) [newBookBy "Dune" 412 (newAuthor 2 "Bob" (.ofInt 4) [])]]

/-- Ann's books by Bob are left out where the include of the writers has left him out before. -/
theorem writers_dropped_first : (booksWithWriters byBob).Built ∧
    (booksWithWriters byBob).includes =
      [⟨booksOfAuthor, some byBob.node⟩, ⟨writersOfBooks, some notBob.node⟩] ∧
    ((MemorySource.ofItems bookWithWriter).apply (booksWithWriters byBob) none).fetch =
      .ok [newAuthor 1 "Ann" (.ofInt 4) [newBook "Dune" 412]] ∧
    ((MemorySource.ofItems bookWithWriter).apply
        { booksWithWriters byBob with
          includes := [⟨writersOfBooks, some notBob.node⟩, ⟨booksOfAuthor, some byBob.node⟩] } none).fetch =
      .ok [newAuthor 1 "Ann" (.ofInt 4) []] ∧
    newAuthor 1 "Ann" (.ofInt 4) [newBook "Dune" 412] ≠ newAuthor 1 "Ann" (.ofInt 4) [] := by
  refine ⟨booksWithWriters_built byBob, rfl, ?_, ?_, ?_⟩
  · exact MemorySource.fetch_all rfl rfl rfl
  · exact MemorySource.fetch_all rfl rfl rfl
  · intro same
    cases same

theorem long_books_either_way : (booksWithWriters longBooks).Built ∧
    ((MemorySource.ofItems bookWithWriter).apply
        { booksWithWriters longBooks with
          includes := [⟨writersOfBooks, some notBob.node⟩, ⟨booksOfAuthor, some longBooks.node⟩] } none).fetch =
      ((MemorySource.ofItems bookWithWriter).apply (booksWithWriters longBooks) none).fetch := by
  have built := booksWithWriters_built longBooks
  have filtered : (booksWithWriters longBooks).includes = [] ++ ⟨booksOfAuthor, some longBooks.node⟩ ::
      ([] ++ ⟨writersOfBooks, some notBob.node⟩ :: []) := rfl
  refine ⟨built, (MemorySource.fetch_swapped_iff bookWithWriter none built filtered nofun).mpr ?_⟩
  have whole : ((MemorySource.ofItems bookWithWriter).apply (booksWithWriters longBooks) none).roots =
      .ok bookWithWriter := congrArg Except.ok (OrderKey.sort_nil bookWithWriter)
  intro found chosen r member
  cases chosen.symm.trans whole
  cases List.mem_singleton.mp member
  refine ⟨?_, ?_⟩
  · rintro ⟨mid, inside, c, reached, sways⟩
    cases inside
    cases List.mem_singleton.mp reached
    exact sways rfl
  · rintro ⟨mid, inside, -⟩
    cases inside

end Library

end EntityQuery
