import EntityQuery.Proofs.Record.Relations
import Mathlib.Data.List.Basic

/-!
Locations in a record, and values assigned to the scalars at them. An assignment changes nothing at any
other location, two at different locations commute, and of several at one location the last one counts
whose value the storage takes.
-/

namespace EntityQuery

variable {ε : Type}

/-! ### Cells by name -/

namespace Record

section Put

variable {r : Record ε} {name other : String} {cell old : Cell ε}

theorem lookup_putCell_other (different : name ≠ other) (cells : List (String × Cell ε)) :
    (putCell name cell cells).lookup other = cells.lookup other := by
  induction cells with
  | nil => rfl
  | cons first rest ih =>
    obtain ⟨first, content⟩ := first
    rw [putCell]
    split
    · rename_i same
      have away : (other == first) = false := by
        rw [beq_eq_false_iff_ne, beq_iff_eq.mp same]
        exact Ne.symm different
      rw [List.lookup_cons, List.lookup_cons, away]
    · rw [List.lookup_cons, List.lookup_cons, ih]

theorem cell?_put_other (different : name ≠ other) : (r.put name cell).cell? other = r.cell? other :=
  lookup_putCell_other different r.cells

theorem putCell_putCell (name : String) (old cell : Cell ε) (cells : List (String × Cell ε)) :
    putCell name cell (putCell name old cells) = putCell name cell cells := by
  induction cells with
  | nil => rfl
  | cons first rest ih =>
    obtain ⟨first, content⟩ := first
    cases same : first == name <;> simp [putCell, same, ih]

theorem putCell_comm (different : name ≠ other) (cell old : Cell ε) (cells : List (String × Cell ε)) :
    putCell name cell (putCell other old cells) = putCell other old (putCell name cell cells) := by
  induction cells with
  | nil => rfl
  | cons first rest ih =>
    obtain ⟨first, content⟩ := first
    cases here : first == name <;> cases there : first == other
    case true.true => exact absurd ((beq_iff_eq.mp here).symm.trans (beq_iff_eq.mp there)) different
    all_goals simp [putCell, here, there, ih]

theorem putCell_self {cells : List (String × Cell ε)} (found : cells.lookup name = some cell) :
    putCell name cell cells = cells := by
  induction cells with
  | nil => rfl
  | cons first rest ih =>
    obtain ⟨first, content⟩ := first
    rw [List.lookup_cons] at found
    cases same : first == name with
    | true =>
      rw [beq_iff_eq.mp same, beq_self_eq_true] at found
      simp [putCell, same, Option.some.inj found]
    | false =>
      have away : (name == first) = false := by
        rw [beq_eq_false_iff_ne] at same ⊢
        exact Ne.symm same
      rw [away] at found
      simp [putCell, same, ih found]

theorem put_self (found : r.cell? name = some cell) : r.put name cell = r := by
  cases r
  exact congrArg _ (putCell_self found)

end Put

def adjust (r : Record ε) (name : String) (f : Cell ε → Cell ε) : Record ε :=
  match r.cell? name with
  | some cell => r.put name (f cell)
  | none => r

section Adjust

variable {r : Record ε} {name other : String} {f g : Cell ε → Cell ε}

theorem adjust_of_some {cell : Cell ε} (found : r.cell? name = some cell) :
    r.adjust name f = r.put name (f cell) := by
  simp only [adjust, found]

theorem adjust_of_none (missing : r.cell? name = none) : r.adjust name f = r := by
  simp only [adjust, missing]

@[simp] theorem entity_adjust : (r.adjust name f).entity = r.entity := by
  unfold adjust
  split <;> rfl

theorem cell?_adjust_same : (r.adjust name f).cell? name = (r.cell? name).map f := by
  cases found : r.cell? name with
  | none => rw [adjust_of_none found, found, Option.map_none]
  | some cell => rw [adjust_of_some found, cell?_put_same found, Option.map_some]

theorem cell?_adjust_other (different : name ≠ other) : (r.adjust name f).cell? other = r.cell? other := by
  cases found : r.cell? name with
  | none => rw [adjust_of_none found]
  | some cell => rw [adjust_of_some found, cell?_put_other different]

theorem adjust_adjust : (r.adjust name f).adjust name g = r.adjust name (g ∘ f) := by
  cases found : r.cell? name with
  | none => rw [adjust_of_none found, adjust_of_none found, adjust_of_none found]
  | some cell =>
    rw [adjust_of_some found, adjust_of_some found, adjust_of_some (cell?_put_same found)]
    exact congrArg _ (putCell_putCell name (f cell) (g (f cell)) r.cells)

theorem adjust_comm (different : name ≠ other) :
    (r.adjust name f).adjust other g = (r.adjust other g).adjust name f := by
  have here : (r.adjust other g).cell? name = r.cell? name := cell?_adjust_other (Ne.symm different)
  have there : (r.adjust name f).cell? other = r.cell? other := cell?_adjust_other different
  cases found : r.cell? name with
  | none => rw [adjust_of_none found, adjust_of_none (here.trans found)]
  | some cell =>
    rw [adjust_of_some (here.trans found)]
    cases also : r.cell? other with
    | none => rw [adjust_of_none also, adjust_of_none (there.trans also), adjust_of_some found]
    | some cell' =>
      rw [adjust_of_some also, adjust_of_some (there.trans also), adjust_of_some found]
      exact congrArg _ (putCell_comm (Ne.symm different) (g cell') (f cell) r.cells)

end Adjust

end Record

/-! ### Records in containers -/

namespace Container

def modify (i : Nat) (f : Record ε → Record ε) : Container ε → Container ε
  | single r => single (if i = 0 then f r else r)
  | list rs => list (rs.modify i f)
  | absent => absent
  | present inner => present (inner.modify i f)

theorem records_modify (i : Nat) (f : Record ε → Record ε) (c : Container ε) :
    (c.modify i f).records = c.records.modify i f := by
  fun_induction modify i f c with
  | case1 => cases i <;> simp [records]
  | case2 => rfl
  | case3 => cases i <;> rfl
  | case4 inner ih => exact ih

theorem modify_modify (i : Nat) (f g : Record ε → Record ε) (c : Container ε) :
    (c.modify i f).modify i g = c.modify i (g ∘ f) := by
  fun_induction modify i f c with
  | case1 => cases i <;> rfl
  | case2 rs => exact congrArg list (List.modify_modify_eq f g i rs)
  | case3 => rfl
  | case4 inner ih => exact congrArg present ih

theorem modify_comm {i j : Nat} (different : i ≠ j) (f g : Record ε → Record ε) (c : Container ε) :
    (c.modify i f).modify j g = (c.modify j g).modify i f := by
  fun_induction modify i f c with
  | case1 r =>
    cases i with
    | zero =>
      have away : ¬j = 0 := Ne.symm different
      simp [modify, away]
    | succ i => simp [modify]
  | case2 rs => exact congrArg list (List.modify_modify_ne f g rs different)
  | case3 => rfl
  | case4 inner ih => exact congrArg present ih

theorem modify_of_fixed {i : Nat} {f : Record ε → Record ε} {c : Container ε}
    (fixed : ∀ r ∈ c.records[i]?, f r = r) : c.modify i f = c := by
  fun_induction modify i f c with
  | case1 r =>
    cases i with
    | zero => exact congrArg single (fixed r rfl)
    | succ i => rfl
  | case2 rs =>
    refine congrArg list (List.ext_getElem? fun j => ?_)
    rw [List.getElem?_modify]
    cases found : rs[j]? with
    | none => rfl
    | some r =>
      simp only [Option.map_eq_map, Option.map_some]
      split
      · rename_i here
        subst here
        rw [fixed r found]
      · rfl
  | case3 => rfl
  | case4 inner ih => exact congrArg present (ih fixed)

theorem modify_of_records_nil {c : Container ε} (empty : c.records = []) (i : Nat)
    (f : Record ε → Record ε) : c.modify i f = c :=
  modify_of_fixed (by simp [empty])

theorem map_modify {g f : Record ε → Record ε} (kept : ∀ r, g (f r) = g r) (i : Nat) (c : Container ε) :
    (c.modify i f).map g = c.map g := by
  fun_induction modify i f c with
  | case1 r =>
    refine congrArg single ?_
    split
    · exact kept r
    · rfl
  | case2 rs =>
    refine congrArg list (List.ext_getElem? fun j => ?_)
    rw [List.getElem?_map, List.getElem?_map, List.getElem?_modify]
    cases rs[j]? with
    | none => rfl
    | some r =>
      simp only [Option.map_eq_map, Option.map_some]
      split
      · rw [kept]
      · rfl
  | case3 => rfl
  | case4 inner ih => exact congrArg present ih

theorem attemptFirst?_eq {α : Type} (f : Record ε → Attempt (Record ε) α) (c : Container ε) :
    c.attemptFirst? f =
      c.records.head?.map fun r => ⟨(f r).result, c.modify 0 fun r => (f r).after⟩ := by
  fun_induction attemptFirst? f c with
  | case1 | case2 | case3 | case4 => rfl
  | case5 inner ih =>
    rw [ih]
    cases found : inner.records.head? <;> simp [records, found, Attempt.within, modify]

end Container

/-! ### Cells -/

def Record.bare (r : Record ε) : Record ε :=
  .mk r.entity []

namespace Cell

/-- The cell without what the records of a relation hold, which can be changed apart from it. -/
def bare : Cell ε → Cell ε
  | relation kind c => relation kind (c.map Record.bare)
  | cell => cell

def modify (i : Nat) (f : Record ε → Record ε) : Cell ε → Cell ε
  | relation kind c => relation kind (c.modify i f)
  | cell => cell

/-- Gives a scalar the value, if its storage takes it. -/
def assign (v : Value) : Cell ε → Cell ε
  | scalar storage old => scalar storage ((storage.decode v).toOption.getD old)
  | cell => cell

variable {cell : Cell ε} {f g : Record ε → Record ε} {v w : Value}

theorem bare_modify (kept : ∀ r, (f r).bare = r.bare) (i : Nat) : (cell.modify i f).bare = cell.bare := by
  cases cell with
  | relation kind c => exact congrArg (relation kind) (Container.map_modify kept i c)
  | _ => rfl

theorem bare_assign : (cell.assign v).bare = cell.bare.assign v := by
  cases cell <;> rfl

theorem modify_modify (i : Nat) (f g : Record ε → Record ε) (cell : Cell ε) :
    (cell.modify i f).modify i g = cell.modify i (g ∘ f) := by
  cases cell with
  | relation kind c => exact congrArg (relation kind) (c.modify_modify i f g)
  | _ => rfl

theorem modify_comm {i j : Nat} (different : i ≠ j) (f g : Record ε → Record ε) (cell : Cell ε) :
    (cell.modify i f).modify j g = (cell.modify j g).modify i f := by
  cases cell with
  | relation kind c => exact congrArg (relation kind) (c.modify_comm different f g)
  | _ => rfl

theorem assign_modify (i : Nat) (f : Record ε → Record ε) (v : Value) (cell : Cell ε) :
    (cell.modify i f).assign v = (cell.assign v).modify i f := by
  cases cell <;> rfl

theorem assign_assign_self (v : Value) (cell : Cell ε) : (cell.assign v).assign v = cell.assign v := by
  cases cell with
  | scalar storage old =>
    simp only [assign]
    cases storage.decode v <;> rfl
  | _ => rfl

/-- An assignment between two of one value makes no difference to the last of them. -/
theorem assign_assign_assign (v w : Value) (cell : Cell ε) :
    ((cell.assign v).assign w).assign v = (cell.assign w).assign v := by
  cases cell with
  | scalar storage old =>
    simp only [assign]
    cases storage.decode v <;> rfl
  | _ => rfl

end Cell

/-! ### Locations -/

/-- A field of a record, or a location in one of the records that a relation holds. -/
inductive Location where
  | field (name : String)
  | inside (relation : String) (index : Nat) (rest : Location)
  deriving DecidableEq, Repr

def Location.head : Location → String
  | field name => name
  | inside relation _ _ => relation

namespace Record

def at? : Location → Record ε → Option (Cell ε)
  | .field name, r => (r.cell? name).map Cell.bare
  | .inside relation index rest, r =>
    match r.cell? relation with
    | some (.relation _ c) => c.records[index]?.bind (at? rest)
    | _ => none

def adjustAt : Location → (Cell ε → Cell ε) → Record ε → Record ε
  | .field name, f, r => r.adjust name f
  | .inside relation index rest, f, r => r.adjust relation (Cell.modify index (adjustAt rest f))

def assign (r : Record ε) (l : Location) (v : Value) : Record ε :=
  adjustAt l (Cell.assign v) r

section Locations

variable {r : Record ε} {l l' : Location} {f g : Cell ε → Cell ε} {v : Value}

@[simp] theorem bare_adjustAt : (adjustAt l f r).bare = r.bare := by
  cases l with
  | field name => simp [bare, adjustAt]
  | inside relation index rest => simp [bare, adjustAt]

theorem adjustAt_adjustAt : adjustAt l g (adjustAt l f r) = adjustAt l (g ∘ f) r := by
  induction l generalizing r with
  | field name => exact adjust_adjust
  | inside relation index rest ih =>
    simp only [adjustAt, adjust_adjust]
    refine congrArg _ (funext fun cell => ?_)
    rw [Function.comp_apply, Cell.modify_modify]
    exact congrArg (cell.modify index) (funext fun q => ih)

theorem adjustAt_comm_of_head (different : l.head ≠ l'.head) :
    adjustAt l' g (adjustAt l f r) = adjustAt l f (adjustAt l' g r) := by
  cases l <;> cases l' <;> exact adjust_comm different

/-- Assignments at two locations can be made in either order. -/
theorem assign_comm (different : l ≠ l') (v w : Value) :
    (r.assign l v).assign l' w = (r.assign l' w).assign l v := by
  unfold assign
  induction l generalizing l' r with
  | field name =>
    cases l' with
    | field other => exact adjustAt_comm_of_head fun same => different (congrArg Location.field same)
    | inside relation index rest =>
      by_cases same : name = relation
      · subst same
        simp only [adjustAt, adjust_adjust]
        exact congrArg _ (funext fun cell => (Cell.assign_modify index _ v cell).symm)
      · exact adjustAt_comm_of_head same
  | inside relation index rest ih =>
    cases l' with
    | field name =>
      by_cases same : relation = name
      · subst same
        simp only [adjustAt, adjust_adjust]
        exact congrArg _ (funext fun cell => Cell.assign_modify index _ w cell)
      · exact adjustAt_comm_of_head same
    | inside relation' index' rest' =>
      by_cases same : relation = relation'
      · subst same
        simp only [adjustAt, adjust_adjust]
        refine congrArg _ (funext fun cell => ?_)
        by_cases level : index = index'
        · subst level
          have apart : rest ≠ rest' := fun equal => different (congrArg (Location.inside relation index) equal)
          simp only [Function.comp_apply, Cell.modify_modify]
          exact congrArg (cell.modify index) (funext fun q => ih apart)
        · exact Cell.modify_comm level _ _ cell
      · exact adjustAt_comm_of_head same

theorem assign_assign_self (l : Location) (v : Value) : (r.assign l v).assign l v = r.assign l v := by
  unfold assign
  rw [adjustAt_adjustAt]
  exact congrArg (adjustAt l · r) (funext (Cell.assign_assign_self v))

theorem assign_assign_assign (l l' : Location) (v w : Value) :
    ((r.assign l v).assign l' w).assign l v = (r.assign l' w).assign l v := by
  by_cases same : l = l'
  · subst same
    unfold assign
    rw [adjustAt_adjustAt, adjustAt_adjustAt, adjustAt_adjustAt]
    exact congrArg (adjustAt l · r) (funext (Cell.assign_assign_assign v w))
  · rw [assign_comm same, assign_assign_self]

/-- An assignment that leaves the scalar at its location as it is changes nothing. -/
theorem assign_of_kept {storage : Storage} {old : storage.Content} (found : r.at? l = some (.scalar storage old))
    (kept : (storage.decode v).toOption.getD old = old) : r.assign l v = r := by
  unfold assign
  induction l generalizing r with
  | field name =>
    obtain ⟨cell, read, same⟩ := Option.map_eq_some_iff.mp found
    cases cell with
    | scalar used w =>
      cases same
      have kept : Cell.assign v (.scalar storage old : Cell ε) = .scalar storage old := by
        rw [Cell.assign, kept]
      rw [adjustAt, adjust_of_some read, kept, put_self read]
    | relation => cases same
    | view => cases same
  | inside relation index rest ih =>
    rw [at?] at found
    split at found
    · rename_i kind c read
      obtain ⟨q, present, found⟩ := Option.bind_eq_some_iff.mp found
      have fixed : c.modify index (adjustAt rest (Cell.assign v)) = c := by
        refine Container.modify_of_fixed fun q' also => ?_
        rw [Option.mem_def, present] at also
        cases also
        exact ih found
      rw [adjustAt, adjust_of_some read, Cell.modify, fixed, put_self read]
    · cases found

theorem assign_of_refused {storage : Storage} {old : storage.Content} {e : QueryError}
    (found : r.at? l = some (.scalar storage old)) (refused : storage.decode v = .error e) :
    r.assign l v = r := by
  refine assign_of_kept found ?_
  rw [refused]
  rfl

/-! ### What lies where after an assignment -/

theorem at?_adjust_other {name : String} (different : name ≠ l.head) :
    at? l (r.adjust name f) = at? l r := by
  have same : (r.adjust name f).cell? l.head = r.cell? l.head := cell?_adjust_other different
  cases l <;> simp only [at?, Location.head] at same ⊢ <;> rw [same]

theorem at?_assign_of_head (different : l.head ≠ l'.head) : at? l' (r.assign l v) = at? l' r := by
  cases l <;> exact at?_adjust_other different

theorem at?_assign_same (l : Location) (v : Value) : at? l (r.assign l v) = (at? l r).map (Cell.assign v) := by
  unfold assign
  induction l generalizing r with
  | field name =>
    rw [adjustAt, at?, at?, cell?_adjust_same, Option.map_map, Option.map_map]
    exact congrArg (Option.map · _) (funext fun cell => Cell.bare_assign)
  | inside relation index rest ih =>
    rw [adjustAt, at?, at?, cell?_adjust_same]
    cases r.cell? relation with
    | none => rfl
    | some cell =>
      cases cell with
      | relation kind c =>
        simp only [Option.map_some, Cell.modify, Container.records_modify, List.getElem?_modify]
        cases c.records[index]? with
        | none => rfl
        | some q => simpa using ih
      | _ => rfl

theorem at?_assign_other (different : l ≠ l') : at? l' (r.assign l v) = at? l' r := by
  induction l generalizing l' r with
  | field name =>
    cases l' with
    | field other => exact at?_assign_of_head fun same => different (congrArg Location.field same)
    | inside relation index rest =>
      by_cases same : name = relation
      · subst same
        rw [assign, adjustAt, at?, at?, cell?_adjust_same]
        cases r.cell? name with
        | none => rfl
        | some cell => cases cell <;> rfl
      · exact at?_assign_of_head same
  | inside relation index rest ih =>
    cases l' with
    | field name =>
      by_cases same : relation = name
      · subst same
        rw [assign, adjustAt, at?, at?, cell?_adjust_same, Option.map_map]
        exact congrArg (Option.map · _) (funext fun cell =>
          Cell.bare_modify (fun q => bare_adjustAt) index)
      · exact at?_assign_of_head same
    | inside relation' index' rest' =>
      by_cases same : relation = relation'
      · subst same
        rw [assign, adjustAt, at?, at?, cell?_adjust_same]
        cases r.cell? relation with
        | none => rfl
        | some cell =>
          cases cell with
          | relation kind c =>
            simp only [Option.map_some, Cell.modify, Container.records_modify, List.getElem?_modify]
            cases c.records[index']? with
            | none => rfl
            | some q =>
              by_cases level : index = index'
              · subst level
                have apart : rest ≠ rest' :=
                  fun equal => different (congrArg (Location.inside relation index) equal)
                simpa [assign] using ih apart
              · simp [level]
          | _ => rfl
      · exact at?_assign_of_head same

end Locations

end Record

end EntityQuery
