import EntityQuery.Path.Cache
import Mathlib.Data.Finset.Card
import Mathlib.Data.List.DropRight

/-!
Resolving through a store of paths. Whatever was resolved and cleared before, a path is resolved as it is
without the store, and the store holds one path for each entity and text that were resolved since it was
last cleared.
-/

namespace EntityQuery

namespace PathCache

variable {ε : Type}

/-! ### Calls -/

inductive Call (ε : Type) where
  | resolve (root : ε) (path : String)
  | clear
  deriving DecidableEq, Repr

namespace Call

variable [Catalog ε]

/-- What a call gives where nothing is stored. -/
def answer? : Call ε → Option (Except QueryError (Path ε))
  | resolve root path => some (Path.resolve root path)
  | clear => none

def resolved? : Call ε → Option (ε × String)
  | resolve root path => (Path.resolve root path).toOption.map fun _ => (root, path)
  | clear => none

end Call

variable [DecidableEq ε] [Catalog ε]

def perform (cache : PathCache ε) : Call ε → Option (Except QueryError (Path ε)) × PathCache ε
  | .resolve root path => (some (cache.resolve root path).1, (cache.resolve root path).2)
  | .clear => (none, cache.clear)

/-- The store after some calls on an empty one. -/
def after (calls : List (Call ε)) : PathCache ε :=
  calls.foldl (fun cache call => (cache.perform call).2) empty

/-- The entities with the texts that were resolved since the last clearing. -/
def resolvedSince (calls : List (Call ε)) : Finset (ε × String) :=
  ((calls.rtakeWhile (· ≠ .clear)).filterMap Call.resolved?).toFinset

section Resolved

variable {calls : List (Call ε)} {root : ε} {path : String}

theorem resolvedSince_clear : resolvedSince (calls ++ [.clear]) = ∅ := by
  rw [resolvedSince, List.rtakeWhile_concat, if_neg (by simp)]
  rfl

theorem resolvedSince_of_ok {p : Path ε} (resolved : Path.resolve root path = .ok p) :
    resolvedSince (calls ++ [.resolve root path]) = insert (root, path) (resolvedSince calls) := by
  have kept : (Call.resolve root path).resolved? = some (root, path) := by
    rw [Call.resolved?, resolved]
    rfl
  rw [resolvedSince, List.rtakeWhile_concat, if_pos (by simp), List.filterMap_append,
    List.filterMap_cons_some kept, List.filterMap_nil, List.toFinset_append, Finset.union_comm]
  rfl

theorem resolvedSince_of_error {e : QueryError} (failed : Path.resolve root path = .error e) :
    resolvedSince (calls ++ [.resolve root path]) = resolvedSince calls := by
  have passed : (Call.resolve root path).resolved? = none := by
    rw [Call.resolved?, failed]
    rfl
  rw [resolvedSince, List.rtakeWhile_concat, if_pos (by simp), List.filterMap_append,
    List.filterMap_cons_none passed, List.filterMap_nil, List.append_nil]
  rfl

end Resolved

/-! ### What a store holds -/

/-- A store holds the paths of some texts, each of them once and as it is resolved. -/
structure Holds (cache : PathCache ε) (keys : Finset (ε × String)) : Prop where
  resolved : ∀ entry ∈ cache.entries, Path.resolve entry.1.1 entry.1.2 = .ok entry.2
  distinct : (cache.entries.map (·.1)).Nodup
  keys : (cache.entries.map (·.1)).toFinset = keys

namespace Holds

variable {cache : PathCache ε} {keys : Finset (ε × String)} {root : ε} {path : String}

theorem empty : Holds (.empty : PathCache ε) ∅ :=
  ⟨nofun, List.nodup_nil, rfl⟩

theorem size (holds : cache.Holds keys) : cache.size = keys.card := by
  rw [← holds.keys, List.toFinset_card_of_nodup holds.distinct, List.length_map]
  rfl

theorem resolve_of_find? {p : Path ε} (holds : cache.Holds keys) (found : cache.find? root path = some p) :
    Path.resolve root path = .ok p := by
  obtain ⟨before, rest, split, -⟩ := List.lookup_eq_some_iff.mp found
  exact holds.resolved ((root, path), p) (split ▸ List.mem_append_right _ List.mem_cons_self)

theorem mem_of_find? {p : Path ε} (holds : cache.Holds keys) (found : cache.find? root path = some p) :
    (root, path) ∈ keys := by
  obtain ⟨before, rest, split, -⟩ := List.lookup_eq_some_iff.mp found
  rw [← holds.keys, List.mem_toFinset, split]
  simp

theorem not_mem_of_find? (holds : cache.Holds keys) (missing : cache.find? root path = none) :
    (root, path) ∉ keys := by
  rw [← holds.keys, List.mem_toFinset, List.mem_map]
  rintro ⟨entry, member, same⟩
  have other := List.lookup_eq_none_iff.mp missing entry member
  rw [same, bne_self_eq_false] at other
  cases other

theorem resolve_ok {p : Path ε} (holds : cache.Holds keys) (resolved : Path.resolve root path = .ok p) :
    (cache.resolve root path).1 = .ok p ∧
      (cache.resolve root path).2.Holds (insert (root, path) keys) := by
  unfold PathCache.resolve
  -- A stored path is the one that would be resolved, and any other one is new to the store.
  cases found : cache.find? root path with
  | some q =>
    have same := (holds.resolve_of_find? found).symm.trans resolved
    rw [Finset.insert_eq_of_mem (holds.mem_of_find? found)]
    exact ⟨same, holds⟩
  | none =>
    have fresh := holds.not_mem_of_find? found
    simp only [resolved]
    refine ⟨trivial, ?_, ?_, ?_⟩
    · exact List.forall_mem_cons.mpr ⟨resolved, holds.resolved⟩
    · rw [← holds.keys, List.mem_toFinset] at fresh
      exact List.nodup_cons.mpr ⟨fresh, holds.distinct⟩
    · rw [List.map_cons, List.toFinset_cons, holds.keys]

theorem resolve_error {e : QueryError} (holds : cache.Holds keys)
    (failed : Path.resolve root path = .error e) : cache.resolve root path = (.error e, cache) := by
  have missing : cache.find? root path = none := by
    by_contra present
    obtain ⟨p, found⟩ := Option.ne_none_iff_exists'.mp present
    cases failed.symm.trans (holds.resolve_of_find? found)
  simp only [PathCache.resolve, missing, failed]

theorem perform {calls : List (Call ε)} (holds : cache.Holds (resolvedSince calls)) (call : Call ε) :
    (cache.perform call).2.Holds (resolvedSince (calls ++ [call])) := by
  cases call with
  | clear =>
    rw [resolvedSince_clear]
    exact .empty
  | resolve root path =>
    cases result : Path.resolve root path with
    | ok p =>
      rw [resolvedSince_of_ok result]
      exact (holds.resolve_ok result).2
    | error e =>
      rw [resolvedSince_of_error result]
      exact (congrArg Prod.snd (holds.resolve_error result)) ▸ holds

end Holds

theorem after_holds (calls : List (Call ε)) : (after calls).Holds (resolvedSince calls) := by
  induction calls using List.reverseRecOn with
  | nil => exact .empty
  | append_singleton calls call ih =>
    rw [after, List.foldl_append]
    exact ih.perform call

/-- Whatever was called before, a call gives what it gives without the store, a failed one leaves the store
as it was, and the store is as large as the set of what was resolved since the last clearing. -/
theorem perform_after (calls : List (Call ε)) (call : Call ε) :
    ((after calls).perform call).1 = call.answer? ∧
      (∀ root path e, call = .resolve root path → Path.resolve root path = .error e →
        ((after calls).perform call).2 = after calls) ∧
      ((after calls).perform call).2.size = (resolvedSince (calls ++ [call])).card := by
  have holds := after_holds calls
  refine ⟨?_, ?_, (holds.perform call).size⟩
  · cases call with
    | clear => rfl
    | resolve root path =>
      refine congrArg some ?_
      cases result : Path.resolve root path with
      | ok p => exact (holds.resolve_ok result).1
      | error e => exact congrArg Prod.fst (holds.resolve_error result)
  · rintro root path e rfl failed
    exact congrArg Prod.snd (holds.resolve_error failed)

end PathCache

end EntityQuery
