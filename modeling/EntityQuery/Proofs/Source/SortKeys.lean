import EntityQuery.Proofs.Source.Fetch
import Mathlib.Data.List.DropRight

/-!
What a source is asked to sort by after any calls on a specification. A list of keys lasts until a call
starts another one, and a single path is sorted by only where no key is listed.
-/

namespace EntityQuery

variable {ε : Type} {entity : ε}

namespace Specification

/-! ### What the calls ask for -/

namespace SortCall

def isListed (sort : SortCall) : Bool :=
  sort.place != .alone

def isFirst (sort : SortCall) : Bool :=
  sort.place == .front

def isAlone (direction : Direction) (sort : SortCall) : Bool :=
  sort.place == .alone && sort.direction == direction

/-- The last sort that starts a list and those put behind it afterwards. Where none starts one, all that
are put behind. -/
def lastList (sorts : List SortCall) : List SortCall :=
  let listed := sorts.filter isListed
  (listed.rdropWhile (!·.isFirst)).getLast?.toList ++ listed.rtakeWhile (!·.isFirst)

/-- The last single path of a direction. -/
def lastAlone (direction : Direction) (sorts : List SortCall) : Option SortCall :=
  (sorts.filter (isAlone direction)).getLast?

/-- What sorts come to: the last list, or else the last single path, ascending before descending. -/
def effective (sorts : List SortCall) : List SortCall :=
  match lastList sorts with
  | [] => ((lastAlone .ascending sorts).or (lastAlone .descending sorts)).toList
  | list => list

def resolve [Catalog ε] (entity : ε) (sort : SortCall) : Except QueryError (OrderKey ε) :=
  OrderKey.resolve entity sort.path sort.direction

variable {sorts : List SortCall} {path : String} {direction : Direction}

theorem lastList_append_first {sort : SortCall} (first : sort.isFirst = true) :
    lastList (sorts ++ [sort]) = [sort] := by
  have listed : sort.isListed = true := by
    simp_all [isFirst, isListed]
  have kept : (sorts ++ [sort]).filter isListed = sorts.filter isListed ++ [sort] := by
    simp [listed]
  unfold lastList
  simp only [kept]
  rw [List.rdropWhile_concat_neg _ _ _ (by simp [first]), List.rtakeWhile_concat_neg _ _ _ (by simp [first]),
    List.getLast?_concat]
  rfl

theorem lastList_append_behind {sort : SortCall} (listed : sort.isListed = true)
    (behind : sort.isFirst = false) : lastList (sorts ++ [sort]) = lastList sorts ++ [sort] := by
  have kept : (sorts ++ [sort]).filter isListed = sorts.filter isListed ++ [sort] := by
    simp [listed]
  unfold lastList
  simp only [kept]
  rw [List.rdropWhile_concat_pos _ _ _ (by simp [behind]), List.rtakeWhile_concat_pos _ _ _ (by simp [behind]),
    List.append_assoc]

theorem lastList_append_alone {sort : SortCall} (alone : sort.isListed = false) :
    lastList (sorts ++ [sort]) = lastList sorts := by
  have kept : (sorts ++ [sort]).filter isListed = sorts.filter isListed := by
    simp [alone]
  unfold lastList
  simp only [kept]

theorem lastAlone_append {sort : SortCall} :
    lastAlone direction (sorts ++ [sort]) =
      if sort.isAlone direction then some sort else lastAlone direction sorts := by
  unfold lastAlone
  rw [List.filter_append]
  by_cases alone : sort.isAlone direction = true
  · simp [alone]
  · simp [alone]

theorem lastAlone_append_listed {sort : SortCall} (listed : sort.isListed = true) :
    lastAlone direction (sorts ++ [sort]) = lastAlone direction sorts := by
  have other : ¬sort.isAlone direction = true := by
    simp_all [isListed, isAlone]
  rw [lastAlone_append, if_neg other]

end SortCall

open SortCall

/-! ### What is kept of them -/

def singlePath (s : Specification entity) : Direction → Option (Path ε)
  | .ascending => s.ascendingPath
  | .descending => s.descendingPath

theorem orderKeys_eq (s : Specification entity) :
    s.orderKeys = match s.order with
      | [] => (((s.singlePath .ascending).map (OrderKey.mk · .ascending)).or
          ((s.singlePath .descending).map (OrderKey.mk · .descending))).toList
      | keys => keys := by
  unfold orderKeys singlePath
  cases s.order <;> cases s.ascendingPath <;> cases s.descendingPath <;> rfl

variable [Catalog ε] {s next : Specification entity} {sorts : List SortCall}

/-- A specification holds the keys of the last list, and the last single path of each direction. -/
structure KeepsSorts (sorts : List SortCall) (s : Specification entity) : Prop where
  list : (lastList sorts).mapM (resolve entity) = .ok s.order
  single : ∀ direction, (lastAlone direction sorts).toList.mapM (resolve entity) =
    .ok ((s.singlePath direction).map (OrderKey.mk · direction)).toList

theorem keepsSorts_nil (unsorted : s.orderKeys = []) : KeepsSorts [] s := by
  have empty : s.order = [] ∧ ∀ direction, s.singlePath direction = none := by
    rw [orderKeys_eq] at unsorted
    cases order : s.order with
    | cons key rest => simp [order] at unsorted
    | nil =>
      rw [order] at unsorted
      cases ascending : s.singlePath .ascending <;> cases descending : s.singlePath .descending <;>
        simp [ascending, descending] at unsorted
      refine ⟨rfl, fun direction => ?_⟩
      cases direction
      · exact ascending
      · exact descending
  refine ⟨?_, fun direction => ?_⟩
  · rw [empty.1]
    rfl
  · rw [empty.2]
    rfl

theorem KeepsSorts.first {path : String} {direction : Direction} (keeps : KeepsSorts sorts s)
    (done : s.orderBy path direction = .ok next) :
    KeepsSorts (sorts ++ [⟨.front, path, direction⟩]) next := by
  obtain ⟨key, resolved, rfl⟩ := orderBy_ok done
  refine ⟨?_, fun d => ?_⟩
  · rw [lastList_append_first rfl, List.mapM_cons, List.mapM_nil, resolve, resolved]
    rfl
  · rw [lastAlone_append_listed rfl]
    exact keeps.single d

theorem KeepsSorts.behind {path : String} {direction : Direction} (keeps : KeepsSorts sorts s)
    (done : s.thenBy path direction = .ok next) :
    KeepsSorts (sorts ++ [⟨.behind, path, direction⟩]) next := by
  obtain ⟨key, resolved, rfl⟩ := thenBy_ok done
  refine ⟨?_, fun d => ?_⟩
  · rw [lastList_append_behind rfl rfl, List.mapM_append, keeps.list, List.mapM_cons, List.mapM_nil,
      resolve, resolved]
    rfl
  · rw [lastAlone_append_listed rfl]
    exact keeps.single d

theorem KeepsSorts.alone {path : String} {direction : Direction} (keeps : KeepsSorts sorts s)
    (done : s.setOrderPath path direction = .ok next) :
    KeepsSorts (sorts ++ [⟨.alone, path, direction⟩]) next := by
  obtain ⟨p, resolved, set⟩ := setOrderPath_ok done
  have key : resolve entity ⟨.alone, path, direction⟩ = .ok ⟨p, direction⟩ :=
    congrArg (Except.map (OrderKey.mk · direction)) resolved
  have order : next.order = s.order := by
    rcases set with ⟨-, rfl⟩ | ⟨-, rfl⟩ <;> rfl
  have single : ∀ d, next.singlePath d = if d = direction then some p else s.singlePath d := by
    intro d
    rcases set with ⟨rfl, rfl⟩ | ⟨rfl, rfl⟩ <;> cases d <;> rfl
  refine ⟨?_, fun d => ?_⟩
  · rw [lastList_append_alone rfl, order]
    exact keeps.list
  · rw [lastAlone_append, single]
    by_cases own : d = direction
    · subst own
      rw [if_pos (by simp [isAlone]), if_pos rfl, Option.toList_some, List.mapM_cons, List.mapM_nil, key]
      rfl
    · rw [if_neg (by simp [isAlone, Ne.symm own]), if_neg own]
      exact keeps.single d

theorem KeepsSorts.other [DecidableEq ε] {c : Call entity} (keeps : KeepsSorts sorts s)
    (done : s.call c = .ok next) (other : c.sort? = none) : KeepsSorts sorts next := by
  obtain ⟨order, ascending, descending⟩ := (call_keeps done).1 other
  have single : ∀ d, next.singlePath d = s.singlePath d := by
    intro d
    cases d
    · exact ascending
    · exact descending
  refine ⟨?_, fun d => ?_⟩
  · rw [order]
    exact keeps.list
  · rw [single]
    exact keeps.single d

theorem KeepsSorts.call [DecidableEq ε] {c : Call entity} (keeps : KeepsSorts sorts s)
    (done : s.call c = .ok next) : KeepsSorts (sorts ++ c.sort?.toList) next := by
  cases c
  case orderBy path direction => exact keeps.first done
  case thenBy path direction => exact keeps.behind done
  case setOrderPath path direction => exact keeps.alone done
  all_goals simpa [Call.sort?] using keeps.other done rfl

theorem keepsSorts_of_calls [DecidableEq ε] {start : Specification entity} {calls : List (Call entity)}
    (unsorted : start.orderKeys = []) (done : calls.foldlM Specification.call start = .ok s) :
    KeepsSorts (calls.filterMap Call.sort?) s :=
  foldlM_noted KeepsSorts (keepsSorts_nil unsorted)
    (fun _ _ _ _ keeps step => keeps.call step) done

theorem mapM_toList_or {α β : Type} {f : α → Except QueryError β} {x y : Option α} {x' y' : Option β}
    (first : x.toList.mapM f = .ok x'.toList) (second : y.toList.mapM f = .ok y'.toList) :
    (x.or y).toList.mapM f = .ok (x'.or y').toList := by
  have length := (mapM_ok_iff.mp first).length_eq
  cases x <;> cases x' <;> simp at length
  · exact second
  · exact first

theorem KeepsSorts.orderKeys (keeps : KeepsSorts sorts s) :
    (effective sorts).mapM (resolve entity) = .ok s.orderKeys := by
  have list := keeps.list
  have length := (mapM_ok_iff.mp list).length_eq
  rw [orderKeys_eq]
  unfold effective
  cases listed : lastList sorts with
  | nil =>
    rw [listed, List.length_nil] at length
    rw [List.eq_nil_of_length_eq_zero length.symm]
    exact mapM_toList_or (keeps.single .ascending) (keeps.single .descending)
  | cons sort rest =>
    rw [listed] at list length
    cases order : s.order with
    | nil => simp [order] at length
    | cons key keys => rw [list, order]

end Specification

/-- A source sorts by the last list of keys, or else by a single path, as the calls on the specification ask
for them. -/
theorem MemorySource.order_of_calls [DecidableEq ε] [Catalog ε] {start s : Specification entity}
    {calls : List (Specification.Call entity)} (unsorted : start.orderKeys = [])
    (done : calls.foldlM Specification.call start = .ok s) (keyless : s.primaryKey = none)
    (items : List (Record ε)) (signal : Option Bool) :
    (Specification.SortCall.effective (calls.filterMap Specification.Call.sort?)).mapM
        (Specification.SortCall.resolve entity) =
      .ok ((ofItems items).apply s signal).order := by
  rw [apply_of_no_key keyless]
  exact (Specification.keepsSorts_of_calls unsorted done).orderKeys

namespace Library

def ratingKey : OrderKey Library :=
  ⟨⟨author, [], ⟨"rating", .float, false⟩⟩, .descending⟩

def nameKey : OrderKey Library :=
  ⟨⟨author, [], ⟨"name", .string, false⟩⟩, .ascending⟩

/-- The key by `id` is listed too early, and the single path is not needed. -/
def sortingCalls : List (Specification.Call author) :=
  [.thenBy "id" .ascending, .setOrderPath "id" .descending, .orderBy "rating" .descending,
    .setNoTracking true, .thenBy "name" .ascending]

def sortedAnew : Specification author :=
  { order := [ratingKey, nameKey], descendingPath := some ⟨author, [], ⟨"id", .uint, false⟩⟩,
    flags := { noTracking := true } }

theorem sortedAnew_order :
    sortingCalls.foldlM Specification.call Specification.empty = .ok sortedAnew ∧
      ((MemorySource.ofItems ratedAuthors).apply sortedAnew none).order = [ratingKey, nameKey] := by
  have done : sortingCalls.foldlM Specification.call Specification.empty = .ok sortedAnew := rfl
  have sorts := MemorySource.order_of_calls rfl done rfl ratedAuthors none
  exact ⟨done, (Except.ok.inj sorts).symm⟩

end Library

end EntityQuery
