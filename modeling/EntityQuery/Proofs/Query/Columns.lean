import EntityQuery.Proofs.Query.Construction
import EntityQuery.Proofs.Record.Library

/-!
The columns of rows after any calls on a specification. Each name stands once, where it was selected first,
and has the path that it was selected with last.
-/

namespace EntityQuery

variable {ε : Type} {entity : ε}

/-! ### Columns and their paths -/

namespace Projection

variable {p : Projection ε} {column : String} {path : Path ε}

def columns (p : Projection ε) : List String :=
  p.fields.map (·.1)

def path? (p : Projection ε) (column : String) : Option (Path ε) :=
  p.fields.lookup column

theorem replace_of_mem (path : Path ε) {fields : List (String × Path ε)} (member : column ∈ fields.map (·.1)) :
    ∃ replaced, replace column path fields = some replaced ∧ replaced.map (·.1) = fields.map (·.1) ∧
      ∀ name, replaced.lookup name = if name = column then some path else fields.lookup name := by
  induction fields with
  | nil => cases member
  | cons field rest ih =>
    obtain ⟨first, old⟩ := field
    by_cases same : first = column
    · subst same
      refine ⟨(first, path) :: rest, by simp [replace], rfl, fun name => ?_⟩
      by_cases own : name = first
      · simp [own]
      · have other : (name == first) = false := by simpa using own
        simp [List.lookup_cons, other, own]
    · have later : column ∈ rest.map (·.1) := by
        simpa [Ne.symm same] using member
      obtain ⟨replaced, found, names, looked⟩ := ih later
      refine ⟨(first, old) :: replaced, by simp [replace, same, found], by simp [names], fun name => ?_⟩
      by_cases own : name = first
      · subst own
        simp [same]
      · have other : (name == first) = false := by simpa using own
        simp [List.lookup_cons, other, looked]

theorem replace_of_not_mem {fields : List (String × Path ε)} (missing : column ∉ fields.map (·.1)) :
    replace column path fields = none := by
  induction fields with
  | nil => rfl
  | cons field rest ih =>
    obtain ⟨first, old⟩ := field
    simp only [List.map_cons, List.mem_cons, not_or] at missing
    simp [replace, Ne.symm missing.1, ih missing.2]

theorem lookup_of_not_mem {α : Type} {fields : List (String × α)} (missing : column ∉ fields.map (·.1)) :
    fields.lookup column = none := by
  rw [List.lookup_eq_none_iff]
  intro field member
  have other : column ≠ field.1 := by
    rintro rfl
    exact missing (List.mem_map_of_mem member)
  simpa using other

theorem push_of_mem (path : Path ε) (member : column ∈ p.columns) :
    (p.push column path).columns = p.columns ∧
      ∀ name, (p.push column path).path? name = if name = column then some path else p.path? name := by
  obtain ⟨replaced, found, names, looked⟩ := replace_of_mem path member
  have pushed : p.push column path = ⟨replaced⟩ := by
    rw [push, found]
    rfl
  rw [pushed]
  exact ⟨names, looked⟩

theorem push_of_not_mem (path : Path ε) (missing : column ∉ p.columns) :
    (p.push column path).columns = p.columns ++ [column] ∧
      ∀ name, (p.push column path).path? name = if name = column then some path else p.path? name := by
  have pushed : p.push column path = ⟨p.fields ++ [(column, path)]⟩ := by
    rw [push, replace_of_not_mem missing]
    rfl
  rw [pushed]
  refine ⟨List.map_append, fun name => ?_⟩
  unfold path?
  dsimp only
  rw [List.lookup_append]
  by_cases own : name = column
  · subst own
    rw [lookup_of_not_mem missing, if_pos rfl]
    simp
  · have other : (name == column) = false := by simpa using own
    rw [if_neg own, List.lookup_cons, other]
    simp

theorem path?_push (p : Projection ε) (column : String) (path : Path ε) (name : String) :
    (p.push column path).path? name = if name = column then some path else p.path? name := by
  by_cases member : column ∈ p.columns
  · exact (push_of_mem path member).2 name
  · exact (push_of_not_mem path member).2 name

/-- A row has the columns of its projection, each with the first value of its path. -/
theorem get?_row (p : Projection ε) (r : Record ε) (column : String) :
    (p.row r).get? column = (p.path? column).map (·.readFirst r) := by
  unfold Row.get? row path?
  dsimp only
  induction p.fields with
  | nil => rfl
  | cons field rest ih =>
    obtain ⟨first, path⟩ := field
    rw [List.map_cons, List.lookup_cons, List.lookup_cons, ih]
    cases column == first <;> rfl

end Projection

/-! ### Selections -/

namespace Specification

variable [Catalog ε] {s next : Specification entity} {selected : List (String × String)}

/-- A projection holds selections: each name once, in the order of the first selections, with the path of its
last one. -/
structure Projects (entity : ε) (selected : List (String × String)) (p : Projection ε) : Prop where
  columns : p.columns = (selected.map (·.1)).eraseDups
  nodup : p.columns.Nodup
  path? : ∀ column, Option.Rel (fun text path => Path.resolve entity text = .ok path)
    (selected.reverse.lookup column) (p.path? column)

theorem lookup_last {before after : List (String × String)} {column text : String}
    (later : column ∉ after.map (·.1)) :
    (before ++ (column, text) :: after).reverse.lookup column = some text := by
  have unnamed : column ∉ after.reverse.map (·.1) := by
    simpa using later
  rw [List.reverse_append, List.reverse_cons, List.append_assoc, List.lookup_append,
    Projection.lookup_of_not_mem unnamed]
  simp

theorem projects_nil : Projects entity [] ({} : Projection ε) :=
  ⟨rfl, List.nodup_nil, fun _ => .none⟩

theorem Projects.push {p : Projection ε} {column text : String} {path : Path ε}
    (projects : Projects entity selected p) (resolved : Path.resolve entity text = .ok path) :
    Projects entity (selected ++ [(column, text)]) (p.push column path) := by
  have names : (selected ++ [(column, text)]).map (·.1) = selected.map (·.1) ++ [column] := by
    simp
  have among : column ∈ p.columns ↔ column ∈ selected.map (·.1) := by
    rw [projects.columns, List.mem_eraseDups]
  have paths : ∀ name, Option.Rel (fun text path => Path.resolve entity text = .ok path)
      ((selected ++ [(column, text)]).reverse.lookup name) ((p.push column path).path? name) := by
    intro name
    rw [Projection.path?_push, List.reverse_append, List.reverse_singleton, List.singleton_append,
      List.lookup_cons]
    by_cases own : name = column
    · subst own
      rw [if_pos rfl, beq_self_eq_true]
      exact .some resolved
    · have other : (name == column) = false := by simpa using own
      rw [if_neg own, other]
      exact projects.path? name
  by_cases member : column ∈ p.columns
  · have kept := (Projection.push_of_mem path member).1
    have old : [column].removeAll (selected.map (·.1)) = [] := by
      simp [List.removeAll, among.mp member]
    refine ⟨?_, kept ▸ projects.nodup, paths⟩
    rw [kept, names, List.eraseDups_append, old, projects.columns]
    simp
  · have added := (Projection.push_of_not_mem path member).1
    have new : [column].removeAll (selected.map (·.1)) = [column] := by
      simp [List.removeAll, mt among.mpr member]
    refine ⟨?_, ?_, paths⟩
    · rw [added, names, List.eraseDups_append, new, projects.columns]
      rfl
    · rw [added, List.nodup_append]
      refine ⟨projects.nodup, by simp, ?_⟩
      rintro name present other new rfl
      exact member (List.mem_singleton.mp new ▸ present)

theorem Projects.call [DecidableEq ε] {c : Call entity} (projects : Projects entity selected (s.projection.getD {}))
    (done : s.call c = .ok next) :
    Projects entity (selected ++ c.column?.toList) (next.projection.getD {}) := by
  cases c
  case select column text =>
    obtain ⟨path, resolved, rfl⟩ := select_ok done
    exact projects.push resolved
  all_goals
    have same := (call_keeps done).2 rfl
    rw [same]
    simpa [Call.column?] using projects

theorem projects_of_calls [DecidableEq ε] {start : Specification entity} {calls : List (Call entity)}
    (unprojected : start.projection = none) (done : calls.foldlM Specification.call start = .ok s) :
    Projects entity (calls.filterMap Call.column?) (s.projection.getD {}) := by
  have begins : Projects entity [] (start.projection.getD {}) := by
    rw [unprojected]
    exact projects_nil
  exact foldlM_noted (fun selected (s : Specification entity) =>
    Projects entity selected (s.projection.getD {})) begins (fun _ _ _ _ projects step => projects.call step) done

end Specification

/-- The columns of a projection are the names that were selected, each once and in the order of their first
selections. In the row of any record a column has the first value at the path of its last selection, null
where the path reaches none. Other names have no value. -/
theorem Projection.columns_of_calls [DecidableEq ε] [Catalog ε] {start s : Specification entity}
    {calls : List (Specification.Call entity)} (unprojected : start.projection = none)
    (done : calls.foldlM Specification.call start = .ok s) :
    let selected := calls.filterMap Specification.Call.column?
    let p := s.projection.getD {}
    p.fields.map (·.1) = (selected.map (·.1)).eraseDups ∧ (p.fields.map (·.1)).Nodup ∧
      ∀ r column,
        (column ∉ selected.map (·.1) → (p.row r).get? column = none) ∧
        ∀ before text after, selected = before ++ (column, text) :: after → column ∉ after.map (·.1) →
          ∃ path, Path.resolve entity text = .ok path ∧
            (p.row r).get? column = some ((path.read r).headD .null) := by
  intro selected p
  have projects : Specification.Projects entity selected p := Specification.projects_of_calls unprojected done
  refine ⟨projects.columns, projects.nodup, fun r column => ⟨fun missing => ?_, ?_⟩⟩
  · have unnamed : column ∉ selected.reverse.map (·.1) := by
      simpa using missing
    have held := projects.path? column
    rw [lookup_of_not_mem unnamed] at held
    rw [get?_row]
    cases found : p.path? column with
    | none => rfl
    | some path => rw [found] at held; cases held
  · intro before text after cut later
    have held := projects.path? column
    rw [cut, Specification.lookup_last later] at held
    rw [get?_row]
    cases found : p.path? column with
    | none => rw [found] at held; cases held
    | some path =>
      rw [found] at held
      cases held with
      | some resolved => exact ⟨path, resolved, rfl⟩

namespace Library

/-- The name is selected twice and stays the first column. -/
def columnCalls : List (Specification.Call book) :=
  [.select "by" "title", .select "length" "pages", .setSplitQuery true, .select "by" "author.name"]

def bookColumns : Specification book :=
  { projection := some ⟨[("by", nameOfAuthor), ("length", ⟨book, [], ⟨"pages", .uint, false⟩⟩)]⟩,
    flags := { splitQuery := true } }

theorem row_of_bookColumns :
    columnCalls.foldlM Specification.call Specification.empty = .ok bookColumns ∧
      ∃ p, bookColumns.projection = some p ∧ p.fields.map (·.1) = ["by", "length"] ∧
        (p.row (newBook "Dune" 412)).get? "by" = some .null := by
  have done : columnCalls.foldlM Specification.call Specification.empty = .ok bookColumns := rfl
  obtain ⟨columns, -, rows⟩ := Projection.columns_of_calls rfl done
  obtain ⟨path, resolved, read⟩ := (rows (newBook "Dune" 412) "by").2
    [("by", "title"), ("length", "pages")] "author.name" [] rfl nofun
  cases resolved
  exact ⟨done, _, rfl, columns, read⟩

end Library

end EntityQuery
