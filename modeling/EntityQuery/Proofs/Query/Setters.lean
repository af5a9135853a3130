import EntityQuery.Proofs.Path.Writing
import EntityQuery.Query.Update
import Mathlib.Data.List.Induction
import Mathlib.Data.List.Nodup

/-!
The setters of updates. Callers can build only updates whose paths are writable, so that each setter
assigns to one location and a run of setters is a run of assignments.
-/

namespace EntityQuery

variable {ε : Type} {entity : ε}

namespace UpdateAction

/-! ### Updates that can be built -/

/-- The updates that can be built. The selected paths are any that were resolved before. -/
inductive Built [DecidableEq ε] [Catalog ε] : UpdateAction entity → Prop where
  | empty : Built {}
  | set {action next : UpdateAction entity} {path : String} {value : Value} (built : Built action)
      (done : action.set path value = .ok next) : Built next
  | ofModel {config : Config} {selectors : List (Path ε)} {model : Record ε}
      {action : UpdateAction entity}
      (resolved : ∀ p ∈ selectors, ∃ root text, Path.resolve root text = .ok p)
      (done : ofModel config selectors model = .ok action) : Built action
  | ofJson {config : Config} {json : Json} {action : UpdateAction entity}
      (done : ofJson config json = .ok action) : Built action

def Writable [Catalog ε] (action : UpdateAction entity) : Prop :=
  ∀ s ∈ action.setters, s.path.Writable entity

section Built

variable {action next : UpdateAction entity} {p : Path ε}

theorem checkWritable_ok (passed : checkWritable p = .ok ()) :
    p.type.isRelation = false ∧ p.crossesCollection = false := by
  unfold checkWritable at passed
  split at passed
  · cases passed
  · rename_i scalar
    split at passed
    · cases passed
    · rename_i single
      exact ⟨Bool.eq_false_iff.mpr scalar, Bool.eq_false_iff.mpr single⟩

variable [Catalog ε]

theorem writable_of_resolve {text : String} (resolved : Path.resolve entity text = .ok p)
    (passed : checkWritable p = .ok ()) : p.Writable entity :=
  ⟨Path.resolve_reaches resolved, (checkWritable_ok passed).1, (checkWritable_ok passed).2⟩

theorem Writable.push {s : Setter ε} (writable : action.Writable) (may : s.path.Writable entity) :
    (action.push s).Writable := by
  intro t member
  rcases List.mem_append.mp member with old | new
  · exact writable t old
  · exact List.mem_singleton.mp new ▸ may

theorem set_writable {path : String} {value : Value} (writable : action.Writable)
    (done : action.set path value = .ok next) : next.Writable := by
  obtain ⟨p, resolved, done⟩ := bind_ok done
  obtain ⟨_, passed, done⟩ := bind_ok done
  obtain ⟨v, -, done⟩ := bind_ok done
  cases done
  exact writable.push (writable_of_resolve resolved passed)

theorem ofModel_writable [DecidableEq ε] {config : Config} {selectors : List (Path ε)}
    {model : Record ε} (resolved : ∀ p ∈ selectors, ∃ root text, Path.resolve root text = .ok p)
    (done : ofModel config selectors model = .ok action) : action.Writable := by
  have fresh : ({} : UpdateAction entity).Writable := fun _ member => nomatch member
  refine foldlM_keeps fresh ?_ done
  intro p member before after writable done
  split at done
  · cases done
  · rename_i rooted
    obtain ⟨_, passed, done⟩ := bind_ok done
    dsimp only at done
    split at done
    · cases done
      exact writable
    · obtain ⟨v, -, done⟩ := bind_ok done
      cases done
      obtain ⟨root, text, found⟩ := resolved p member
      obtain ⟨owner, reaches⟩ := Path.resolve_reaches found
      have same : root = entity := reaches.root.symm.trans (not_not.mp rooted)
      exact writable.push (writable_of_resolve (same ▸ found) passed)

theorem setterOf?_writable {config : Config} {key : String} {json : Json} {s : Setter ε}
    (done : setterOf? entity config key json = .ok (some s)) : s.path.Writable entity := by
  obtain ⟨p, resolved, done⟩ := bind_ok done
  obtain ⟨_, passed, done⟩ := bind_ok done
  split at done
  · obtain ⟨v, -, done⟩ := bind_ok done
    cases done
    exact writable_of_resolve resolved passed
  · split at done <;> cases done

theorem ofJson_writable {config : Config} {json : Json} (done : ofJson config json = .ok action) :
    action.Writable := by
  cases json
  case object members =>
    obtain ⟨setters, read, done⟩ := bind_ok done
    cases done
    intro s member
    obtain ⟨found, present, same⟩ := List.mem_filterMap.mp member
    obtain ⟨⟨key, json⟩, -, read⟩ := mapM_ok read found present
    cases same
    exact setterOf?_writable read
  all_goals cases done

theorem Built.writable [DecidableEq ε] (built : action.Built) : action.Writable := by
  induction built with
  | empty => exact fun _ member => nomatch member
  | set _ done ih => exact set_writable ih done
  | ofModel resolved done => exact ofModel_writable resolved done
  | ofJson done => exact ofJson_writable done

end Built

end UpdateAction

/-! ### Runs of setters -/

namespace Setter

variable {r : Record ε} {s t : Setter ε} {setters : List (Setter ε)}

theorem apply_eq_assign [Catalog ε] (writable : s.path.Writable entity) :
    apply r s = r.assign s.path.location s.value :=
  Path.after_write writable.single

section Runs

variable [Catalog ε] (writable : ∀ s ∈ setters, s.path.Writable entity)

include writable

theorem checkAlong_foldl_apply (relations : List (Field ε)) (r : Record ε) :
    Path.checkAlong relations (setters.foldl apply r) = Path.checkAlong relations r := by
  induction setters generalizing r with
  | nil => rfl
  | cons s rest ih =>
    rw [List.foldl_cons, ih fun t member => writable t (List.mem_cons_of_mem _ member),
      apply_eq_assign (writable s List.mem_cons_self), Path.checkAlong_assign]

theorem singleAlong_foldl_apply {relations : List (Field ε)} (along : Path.SingleAlong relations r) :
    Path.SingleAlong relations (setters.foldl apply r) := by
  induction setters generalizing r with
  | nil => exact along
  | cons s rest ih =>
    rw [List.foldl_cons, apply_eq_assign (writable s List.mem_cons_self)]
    exact ih (fun t member => writable t (List.mem_cons_of_mem _ member))
      (Path.singleAlong_assign along _ _)

theorem at?_foldl_apply_other {l : Location} (unnamed : ∀ s ∈ setters, s.path.location ≠ l)
    (r : Record ε) : (setters.foldl apply r).at? l = r.at? l := by
  induction setters generalizing r with
  | nil => rfl
  | cons s rest ih =>
    rw [List.foldl_cons, ih (fun t member => writable t (List.mem_cons_of_mem _ member))
        fun t member => unnamed t (List.mem_cons_of_mem _ member),
      apply_eq_assign (writable s List.mem_cons_self),
      Record.at?_assign_other (unnamed s List.mem_cons_self)]

theorem apply_foldl_apply (last : s.path.Writable entity) (r : Record ε) :
    apply (setters.foldl apply (apply r s)) s = apply (setters.foldl apply r) s := by
  induction setters generalizing r with
  | nil =>
    simp only [List.foldl_nil, apply_eq_assign last]
    exact Record.assign_assign_self _ _
  | cons t rest ih =>
    have tail := ih fun t member => writable t (List.mem_cons_of_mem _ member)
    have first := writable t List.mem_cons_self
    calc apply (rest.foldl apply (apply (apply r s) t)) s
        = apply (rest.foldl apply (apply (apply (apply r s) t) s)) s := (tail _).symm
      _ = apply (rest.foldl apply (apply (apply r t) s)) s := by
          simp only [apply_eq_assign last, apply_eq_assign first, Record.assign_assign_assign]
      _ = apply (rest.foldl apply (apply r t)) s := tail _

theorem foldl_apply_foldl_apply (r : Record ε) :
    setters.foldl apply (setters.foldl apply r) = setters.foldl apply r := by
  induction setters using List.reverseRecOn generalizing r with
  | nil => rfl
  | append_singleton before s ih =>
    have first : ∀ t ∈ before, t.path.Writable entity :=
      fun t member => writable t (List.mem_append_left _ member)
    have last := writable s (List.mem_append_right _ (List.mem_singleton.mpr rfl))
    simp only [List.foldl_append, List.foldl_cons, List.foldl_nil]
    rw [apply_foldl_apply first last, ih first]

end Runs

section Entities

variable [LayoutCatalog ε] (writable : ∀ s ∈ setters, s.path.Writable entity)

include writable

theorem foldl_apply_perm {permuted : List (Setter ε)} (distinct : (setters.map (·.path)).Nodup)
    (perm : permuted.Perm setters) (r : Record ε) : permuted.foldl apply r = setters.foldl apply r := by
  refine (perm.symm.foldl_eq' ?_ r).symm
  intro s first t second r
  by_cases same : s = t
  · rw [same]
  · have apart : s.path.location ≠ t.path.location := fun level =>
      same (List.inj_on_of_nodup_map distinct first second
        ((writable s first).location_injective (writable t second) level))
    rw [apply_eq_assign (writable s first), apply_eq_assign (writable t second),
      apply_eq_assign (writable t second), apply_eq_assign (writable s first),
      Record.assign_comm apart]

end Entities

end Setter

end EntityQuery
