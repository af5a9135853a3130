import EntityQuery.Proofs.Path.Resolution
import EntityQuery.Proofs.Record.Library
import EntityQuery.Proofs.Value.SortOrder
import EntityQuery.Query.OrderKey

/-!
Sorting records of one entity. Sort keys put them in a total preorder, so that sorting by keys is a
stable sort. A further key only settles what the keys before it leave open.
-/

namespace EntityQuery

open Std

/-! ### Stable sorting -/

/-- A list in the order of a comparison, where what compares as equal keeps the order it came in. -/
structure StablySorted {α : Type} (cmp : α → α → Ordering) (input output : List α) : Prop where
  perm : output.Perm input
  sorted : output.Pairwise fun a b => (cmp a b).isLE = true
  stable : ∀ x ∈ input, output.filter (cmp x · == .eq) = input.filter (cmp x · == .eq)

theorem mergeSort_stablySorted {α : Type} (cmp : α → α → Ordering) [TransCmp cmp] (l : List α) :
    StablySorted cmp l (l.mergeSort fun a b => (cmp a b).isLE) := by
  have trans : ∀ a b c, (cmp a b).isLE = true → (cmp b c).isLE = true → (cmp a c).isLE = true :=
    fun _ _ _ => TransCmp.isLE_trans
  have total : ∀ a b, ((cmp a b).isLE || (cmp b a).isLE) = true := by
    intro a b
    have swapped : cmp b a = (cmp a b).swap := OrientedCmp.eq_swap
    rw [swapped]
    cases cmp a b <;> rfl
  have perm := List.mergeSort_perm l fun a b => (cmp a b).isLE
  refine ⟨perm, List.pairwise_mergeSort trans total l, ?_⟩
  intro x _
  -- What compares as equal to `x` is sorted already, so it stays a sublist of the output.
  have tied : (l.filter (cmp x · == .eq)).Pairwise fun a b => (cmp a b).isLE = true := by
    apply List.pairwise_of_forall_mem_list
    intro a ha b hb
    have below := beq_iff_eq.mp (List.mem_filter.mp ha).2
    have above := beq_iff_eq.mp (List.mem_filter.mp hb).2
    exact TransCmp.isLE_trans (by rw [OrientedCmp.eq_comm.mp below]; rfl) (by rw [above]; rfl)
  have kept := List.sublist_mergeSort trans total tied List.filter_sublist
  have inside : (l.filter (cmp x · == .eq)).Sublist
      ((l.mergeSort fun a b => (cmp a b).isLE).filter (cmp x · == .eq)) := by
    simpa only [List.filter_filter, Bool.and_self] using kept.filter (cmp x · == .eq)
  exact (inside.eq_of_length (perm.filter _).length_eq.symm).symm

theorem StablySorted.map {α β : Type} {cmp : α → α → Ordering} {input output : List α} (f : α → β)
    (cmp' : β → β → Ordering) (same : ∀ a b, cmp a b = cmp' (f a) (f b))
    (sorted : StablySorted cmp input output) : StablySorted cmp' (input.map f) (output.map f) := by
  refine ⟨sorted.perm.map f, ?_, ?_⟩
  · rw [List.pairwise_map]
    simpa only [same] using sorted.sorted
  · intro x member
    obtain ⟨a, present, rfl⟩ := List.mem_map.mp member
    have ties := sorted.stable a present
    simp only [same] at ties
    rw [List.filter_map, List.filter_map]
    exact congrArg (List.map f) ties

namespace OrderKey

variable {ε : Type}

theorem sort_nil (records : List (Record ε)) : sort [] records = records :=
  List.mergeSort_of_pairwise (List.pairwise_of_forall fun _ _ => rfl)

/-- The keys that come later settle what those before them leave open. -/
theorem compareBy_append (keys more : List (OrderKey ε)) (a b : Record ε) :
    compareBy (keys ++ more) a b = (compareBy keys a b).then (compareBy more a b) := by
  induction keys with
  | nil => rfl
  | cons key rest ih => rw [List.cons_append, compareBy, compareBy, ih, Ordering.then_assoc]

variable [LayoutCatalog ε] {entity : ε}

/-- A key whose path starts at an entity. -/
def On (entity : ε) (key : OrderKey ε) : Prop :=
  ∃ owner, key.path.Reaches entity owner

/-! ### The order of records -/

theorem compare_transCmp {key : OrderKey ε} (on : key.On entity) :
    TransCmp fun a b : { r : Record ε // Record.Fits entity r } => key.compare a.1 b.1 := by
  obtain ⟨owner, reaches⟩ := on
  have reads := transCmp_comap (fun a b => a.1.sortCompare b.1)
    fun r : { r : Record ε // Record.Fits entity r } =>
      (⟨key.path.readFirst r.1, Path.readFirst_shows reaches r.2⟩ : { v // key.path.type.Shows v })
  unfold compare
  cases key.direction with
  | ascending => exact reads
  | descending =>
    simp only [Direction.apply, ← Value.sortCompare_swap]
    exact TransCmp.opposite

theorem compareBy_transCmp {keys : List (OrderKey ε)} (on : ∀ key ∈ keys, key.On entity) :
    TransCmp fun a b : { r : Record ε // Record.Fits entity r } => compareBy keys a.1 b.1 := by
  induction keys with
  | nil => exact { eq_swap := rfl, isLE_trans := fun _ _ => rfl }
  | cons key rest ih =>
    have first := compare_transCmp (on key List.mem_cons_self)
    have others := ih fun k member => on k (List.mem_cons_of_mem _ member)
    exact inferInstanceAs (TransCmp (compareLex
      (fun a b : { r : Record ε // Record.Fits entity r } => key.compare a.1 b.1)
      (fun a b : { r : Record ε // Record.Fits entity r } => compareBy rest a.1 b.1)))

/-- Records of one entity are in a total preorder by any keys on it. One key more reverses nothing
and splits ties only. -/
theorem compareBy_preorder_refined {keys : List (OrderKey ε)} (on : ∀ key ∈ keys, key.On entity)
    {a b c : Record ε} (ha : Record.Fits entity a) (hb : Record.Fits entity b)
    (hc : Record.Fits entity c) (key : OrderKey ε) :
    compareBy keys a a = .eq ∧
    compareBy keys a b = (compareBy keys b a).swap ∧
    (compareBy keys a b ≠ .gt → compareBy keys b c ≠ .gt → compareBy keys a c ≠ .gt) ∧
    (compareBy keys a b ≠ .gt ∨ compareBy keys b a ≠ .gt) ∧
    (compareBy keys a b ≠ .eq → compareBy (keys ++ [key]) a b = compareBy keys a b) ∧
    (compareBy keys a b = .eq → compareBy (keys ++ [key]) a b = key.compare a b) := by
  have ordered := compareBy_transCmp on
  have reflexive : ReflCmp fun a b : { r : Record ε // Record.Fits entity r } =>
      compareBy keys a.1 b.1 := inferInstance
  have reversed : compareBy keys a b = (compareBy keys b a).swap :=
    ordered.eq_swap (a := ⟨a, ha⟩) (b := ⟨b, hb⟩)
  have append : compareBy (keys ++ [key]) a b = (compareBy keys a b).then (key.compare a b) := by
    rw [compareBy_append, compareBy, compareBy, Ordering.then_eq]
  refine ⟨reflexive.compare_self (a := ⟨a, ha⟩), reversed, ?_, ?_, ?_, ?_⟩
  · simp only [← Ordering.isLE_iff_ne_gt]
    exact ordered.isLE_trans (a := ⟨a, ha⟩) (b := ⟨b, hb⟩) (c := ⟨c, hc⟩)
  · rw [reversed]
    cases compareBy keys b a
    case gt => exact Or.inl nofun
    all_goals exact Or.inr nofun
  · intro apart
    rw [append]
    cases order : compareBy keys a b
    case eq => exact absurd order apart
    all_goals rfl
  · intro level
    rw [append, level]
    rfl

theorem sort_stablySorted {keys : List (OrderKey ε)} {records : List (Record ε)}
    (on : ∀ key ∈ keys, key.On entity) (fits : ∀ r ∈ records, Record.Fits entity r) :
    StablySorted (compareBy keys) records (sort keys records) := by
  have := compareBy_transCmp on
  have sorted := mergeSort_stablySorted
    (fun a b : { r : Record ε // Record.Fits entity r } => compareBy keys a.1 b.1)
    (records.attachWith _ fits)
  have plain := sorted.map Subtype.val (compareBy keys) fun _ _ => rfl
  rwa [List.map_mergeSort (s := fun a b => (compareBy keys a b).isLE) fun _ _ _ _ => rfl,
    List.attachWith_map_subtype_val] at plain

end OrderKey

namespace Library

def byFirstTitle : OrderKey Library :=
  ⟨⟨author, [⟨"books", .many book, false⟩], ⟨"title", .string, false⟩⟩, .ascending⟩

def bestRated : OrderKey Library :=
  ⟨⟨author, [], ⟨"rating", .float, false⟩⟩, .descending⟩

/-- Two authors without books are level by title; that one has no rating settles their order. -/
theorem authors_without_books : byFirstTitle.On author ∧
    Record.Fits author (newAuthor 1 "Ann" (.ofInt 4) []) ∧
    Record.Fits author (newAuthor 2 "Bob" (.nan false) []) ∧
    OrderKey.compareBy [byFirstTitle] (newAuthor 1 "Ann" (.ofInt 4) [])
      (newAuthor 2 "Bob" (.nan false) []) = .eq ∧
    OrderKey.compareBy [byFirstTitle, bestRated] (newAuthor 1 "Ann" (.ofInt 4) [])
      (newAuthor 2 "Bob" (.nan false) []) = .gt := by
  have resolved : Path.resolve author "books.title" = .ok byFirstTitle.path := rfl
  have on : byFirstTitle.On author := Path.resolve_reaches resolved
  have ann : Record.Fits author (newAuthor 1 "Ann" (.ofInt 4) []) := newAuthor_fits _ _ _ (by simp)
  have bob : Record.Fits author (newAuthor 2 "Bob" (.nan false) []) := newAuthor_fits _ _ _ (by simp)
  have level : OrderKey.compareBy [byFirstTitle] (newAuthor 1 "Ann" (.ofInt 4) [])
      (newAuthor 2 "Bob" (.nan false) []) = .eq := rfl
  obtain ⟨-, -, -, -, -, tied⟩ := OrderKey.compareBy_preorder_refined
    (fun key member => List.mem_singleton.mp member ▸ on) ann bob ann bestRated
  refine ⟨on, ann, bob, level, (tied level).trans ?_⟩
  decide +kernel

end Library

end EntityQuery
