import EntityQuery.Json.Reading
import EntityQuery.Query.Update
import Mathlib.Data.List.Nodup
import Mathlib.Data.List.Perm.Basic

/-!
The leaves of nested objects. Flattening lists each of them once, under the keys that lead to it, and the
order in which it does so depends on how the objects are nested.
-/

namespace EntityQuery

open EntityQuery.Text

namespace Json

/-! ### Leaves -/

/-- The value that some keys lead to, one inside of the other, if it is no object. -/
inductive LeafAt : List (String × Json) → List String → Json → Prop where
  | here {members : List (String × Json)} {key : String} {value : Json} (member : (key, value) ∈ members)
      (leaf : ∀ inner, value ≠ .object inner) : LeafAt members [key] value
  | inside {members inner : List (String × Json)} {key : String} {path : List String} {value : Json}
      (member : (key, .object inner) ∈ members) (leaf : LeafAt inner path value) :
      LeafAt members (key :: path) value

def leaves : List (String × Json) → List (List String × Json)
  | [] => []
  | (key, .object members) :: rest =>
    (leaves members).map (fun (path, value) => (key :: path, value)) ++ leaves rest
  | (key, value) :: rest => ([key], value) :: leaves rest

section Leaves

variable {members inner rest : List (String × Json)} {key : String} {path : List String} {value other : Json}

theorem LeafAt.path_ne_nil (leaf : LeafAt members path value) : path ≠ [] := by
  cases leaf <;> exact nofun

theorem LeafAt.not_object (leaf : LeafAt members path value) : ∀ inner, value ≠ .object inner := by
  induction leaf with
  | here _ leaf => exact leaf
  | inside _ _ ih => exact ih

theorem leafAt_cons_object : LeafAt ((key, .object inner) :: rest) path value ↔
    (∃ tail, LeafAt inner tail value ∧ key :: tail = path) ∨ LeafAt rest path value := by
  constructor
  · intro leaf
    cases leaf with
    | here member plain =>
      rcases List.mem_cons.mp member with same | member
      · cases same
        exact absurd rfl (plain inner)
      · exact Or.inr (.here member plain)
    | inside member leaf =>
      rcases List.mem_cons.mp member with same | member
      · cases same
        exact Or.inl ⟨_, leaf, rfl⟩
      · exact Or.inr (.inside member leaf)
  · rintro (⟨tail, leaf, rfl⟩ | leaf)
    · exact .inside List.mem_cons_self leaf
    · cases leaf with
      | here member plain => exact .here (List.mem_cons_of_mem _ member) plain
      | inside member leaf => exact .inside (List.mem_cons_of_mem _ member) leaf

theorem leafAt_cons_plain (plain : ∀ inner, other ≠ .object inner) :
    LeafAt ((key, other) :: rest) path value ↔ ([key] = path ∧ other = value) ∨ LeafAt rest path value := by
  constructor
  · intro leaf
    cases leaf with
    | here member leaf =>
      rcases List.mem_cons.mp member with same | member
      · cases same
        exact Or.inl ⟨rfl, rfl⟩
      · exact Or.inr (.here member leaf)
    | inside member leaf =>
      rcases List.mem_cons.mp member with same | member
      · cases same
        exact absurd rfl (plain _)
      · exact Or.inr (.inside member leaf)
  · rintro (⟨rfl, rfl⟩ | leaf)
    · exact .here List.mem_cons_self plain
    · cases leaf with
      | here member leaf => exact .here (List.mem_cons_of_mem _ member) leaf
      | inside member leaf => exact .inside (List.mem_cons_of_mem _ member) leaf

theorem mem_leaves : (path, value) ∈ leaves members ↔ LeafAt members path value := by
  fun_induction leaves members generalizing path with
  | case1 =>
    refine ⟨nofun, fun leaf => ?_⟩
    cases leaf with
    | here member => cases member
    | inside member => cases member
  | case2 key inner rest ihInner ihRest =>
    rw [leafAt_cons_object, List.mem_append, ihRest, List.mem_map]
    refine or_congr_left ⟨?_, ?_⟩
    · rintro ⟨⟨tail, w⟩, member, same⟩
      cases same
      exact ⟨tail, ihInner.mp member, rfl⟩
    · rintro ⟨tail, leaf, rfl⟩
      exact ⟨(tail, value), ihInner.mpr leaf, rfl⟩
  | case3 key other rest plain ih =>
    rw [leafAt_cons_plain plain, List.mem_cons, ih, Prod.mk.injEq, eq_comm (a := path),
      eq_comm (a := value)]

end Leaves

/-! ### Flattening -/

section Flatten

variable {members entries : List (String × Json)}

theorem joined_cons {key : String} {path : List String} (more : path ≠ []) :
    joined "." (key :: path) = key ++ "." ++ joined "." path := by
  cases path with
  | nil => exact absurd rfl more
  | cons next rest => exact String.intercalate_cons_cons

theorem flattenUnder_eq (parent : String) (members : List (String × Json)) :
    flattenUnder parent members =
      (leaves members).map fun (path, value) => (parent ++ joined "." path, value) := by
  fun_induction flattenUnder parent members with
  | case1 => simp only [leaves, List.map_nil]
  | case2 parent key inner rest ihInner ihRest =>
    rw [ihInner, ihRest, leaves, List.map_append, List.map_map]
    refine congrArg (· ++ _) (List.map_congr_left fun (path, value) member => ?_)
    have more := (mem_leaves.mp member).path_ne_nil
    simp only [Function.comp_apply, joined_cons more, String.append_assoc]
  | case3 parent key value rest plain ih =>
    rw [ih, leaves, List.map_cons]
    · simp [joined]
    · exact plain

theorem flatten_eq (members : List (String × Json)) :
    flatten members = (leaves members).map fun (path, value) => (joined "." path, value) := by
  rw [flatten, flattenUnder_eq]
  simp only [String.empty_append]

theorem not_object_of_mem_flatten {entry : String × Json} (member : entry ∈ flatten members) :
    ∀ inner, entry.2 ≠ .object inner := by
  rw [flatten_eq] at member
  obtain ⟨⟨path, value⟩, leaf, rfl⟩ := List.mem_map.mp member
  exact (mem_leaves.mp leaf).not_object

theorem flatten_of_flat (flat : ∀ entry ∈ entries, ∀ inner, entry.2 ≠ .object inner) :
    flatten entries = entries := by
  have listed : leaves entries = entries.map fun entry => ([entry.1], entry.2) := by
    induction entries with
    | nil => simp only [leaves, List.map_nil]
    | cons entry rest ih =>
      rw [List.forall_mem_cons] at flat
      rw [leaves, ih flat.2, List.map_cons]
      exact flat.1
  rw [flatten_eq, listed, List.map_map]
  simp [Function.comp_def, joined]

/-- The entries name each leaf once, by the joined keys that lead to it, and name nothing else. -/
structure NamesLeaves (members entries : List (String × Json)) : Prop where
  named : ∀ path value, LeafAt members path value →
    entries.filter (·.1 = joined "." path) = [(joined "." path, value)]
  others : ∀ entry ∈ entries, ∃! path, LeafAt members path entry.2 ∧ joined "." path = entry.1

theorem filter_of_distinct {entry : String × Json} (distinct : (entries.map (·.1)).Nodup)
    (member : entry ∈ entries) : entries.filter (·.1 = entry.1) = [entry] := by
  induction entries with
  | nil => cases member
  | cons first rest ih =>
    rw [List.map_cons, List.nodup_cons] at distinct
    rw [List.filter_cons]
    rcases List.mem_cons.mp member with rfl | member
    · rw [if_pos (decide_eq_true rfl), List.filter_eq_nil_iff.mpr]
      intro other present same
      exact distinct.1 (of_decide_eq_true same ▸ List.mem_map_of_mem present)
    · rw [if_neg, ih distinct.2 member]
      intro same
      exact distinct.1 (of_decide_eq_true same ▸ List.mem_map_of_mem member)

theorem namesLeaves_of_perm (distinct : ((flatten members).map (·.1)).Nodup)
    (perm : entries.Perm (flatten members)) : NamesLeaves members entries := by
  have joins : ∀ {path value}, LeafAt members path value → (joined "." path, value) ∈ flatten members := by
    intro path value leaf
    rw [flatten_eq]
    exact List.mem_map.mpr ⟨_, mem_leaves.mpr leaf, rfl⟩
  refine ⟨fun path value leaf => ?_, fun entry member => ?_⟩
  · exact filter_of_distinct ((perm.map _).nodup_iff.mpr distinct) (perm.mem_iff.mpr (joins leaf))
  · have listed := perm.mem_iff.mp member
    rw [flatten_eq] at distinct listed
    rw [List.map_map] at distinct
    obtain ⟨⟨path, value⟩, leaf, rfl⟩ := List.mem_map.mp listed
    refine ⟨path, ⟨mem_leaves.mp leaf, rfl⟩, ?_⟩
    rintro other ⟨also, same⟩
    exact congrArg Prod.fst (List.inj_on_of_nodup_map distinct (mem_leaves.mpr also) leaf same)

end Flatten

/-! ### Flat objects -/

/-- The flat object with the flattened entries of an object, in the order of their keys. -/
def flattened (members : List (String × Json)) : List (String × Json) :=
  (flatten members).foldl (fun sorted (key, value) => insertMember key value sorted) []

section Flat

variable {members entries : List (String × Json)} {key : String} {value : Json}

theorem insertMember_perm (fresh : key ∉ members.map (·.1)) :
    (insertMember key value members).Perm ((key, value) :: members) := by
  induction members with
  | nil => rfl
  | cons first rest ih =>
    rw [List.map_cons, List.mem_cons, not_or] at fresh
    rw [insertMember, if_neg fresh.1]
    split
    · rfl
    · exact ((ih fresh.2).cons first).trans (.swap ..)

theorem key_of_mem_insertMember {entry : String × Json} (member : entry ∈ insertMember key value members) :
    entry.1 = key ∨ entry ∈ members := by
  fun_induction insertMember key value members with
  | case1 => exact Or.inl (congrArg Prod.fst (List.mem_singleton.mp member))
  | case2 => exact (List.mem_cons.mp member).imp_left (congrArg Prod.fst)
  | case3 =>
    rcases List.mem_cons.mp member with rfl | old
    · exact Or.inl rfl
    · exact Or.inr (List.mem_cons_of_mem _ old)
  | case4 k v rest less other ih =>
    rcases List.mem_cons.mp member with rfl | member
    · exact Or.inr List.mem_cons_self
    · exact (ih member).imp_right (List.mem_cons_of_mem _)

theorem insertMember_sorted (sorted : members.Pairwise (·.1 < ·.1)) :
    (insertMember key value members).Pairwise (·.1 < ·.1) := by
  fun_induction insertMember key value members with
  | case1 => exact List.pairwise_singleton _ _
  | case2 k v rest less =>
    refine List.pairwise_cons.mpr ⟨List.forall_mem_cons.mpr ⟨less, fun entry member => ?_⟩, sorted⟩
    exact String.lt_trans less ((List.pairwise_cons.mp sorted).1 entry member)
  | case3 v rest less => exact List.pairwise_cons.mpr (List.pairwise_cons.mp sorted)
  | case4 k v rest less other ih =>
    have above : k < key := String.not_le.mp fun below =>
      other (String.le_antisymm below (String.not_lt.mp less))
    rw [List.pairwise_cons] at sorted
    refine List.pairwise_cons.mpr ⟨fun entry member => ?_, ih sorted.2⟩
    rcases key_of_mem_insertMember member with same | member
    · exact same ▸ above
    · exact sorted.1 entry member

theorem foldl_insertMember_perm (distinct : ((members ++ entries).map (·.1)).Nodup) :
    (entries.foldl (fun sorted (key, value) => insertMember key value sorted) members).Perm
      (members ++ entries) := by
  induction entries generalizing members with
  | nil => rw [List.append_nil, List.foldl_nil]
  | cons entry rest ih =>
    have moved : (members ++ entry :: rest).Perm (entry :: members ++ rest) := List.perm_middle
    rw [(moved.map _).nodup_iff] at distinct
    have inserted : (insertMember entry.1 entry.2 members).Perm (entry :: members) := by
      refine insertMember_perm fun member => ?_
      rw [List.cons_append, List.map_cons, List.nodup_cons, List.map_append] at distinct
      exact distinct.1 (List.mem_append_left _ member)
    rw [List.foldl_cons]
    refine (ih ?_).trans ((inserted.append_right rest).trans moved.symm)
    exact (((inserted.append_right rest).map _).nodup_iff).mpr distinct

theorem flattened_perm (distinct : ((flatten members).map (·.1)).Nodup) :
    (flattened members).Perm (flatten members) :=
  foldl_insertMember_perm distinct

theorem flattened_sorted (members : List (String × Json)) :
    (flattened members).Pairwise (·.1 < ·.1) := by
  refine List.foldlRecOn (flatten members) _ .nil ?_
  intro sorted order entry _
  exact insertMember_sorted order

theorem flatten_flattened (distinct : ((flatten members).map (·.1)).Nodup) :
    flatten (flattened members) = flattened members :=
  flatten_of_flat fun _ member => not_object_of_mem_flatten ((flattened_perm distinct).mem_iff.mp member)

end Flat

end Json

end EntityQuery
