import EntityQuery.Proofs.Path.Writing

/-!
Two prunings of one record. They can be made in either order, unless the one goes on inside the records that
the other one leads to and thereby changes which of these are dropped.
-/

namespace EntityQuery

variable {ε : Type}

/-! ### Containers -/

theorem filter_map_eq_map_filter_iff {α : Type} (f : α → α) (keep : α → Bool) (as : List α) :
    (as.map f).filter keep = (as.filter keep).map f ↔ as.map (keep ∘ f) = as.map keep := by
  rw [List.map_inj_left]
  constructor
  · intro same
    -- What is kept before the change is kept after it, so that only the numbers can differ.
    have kept : ∀ a ∈ as, keep a = true → keep (f a) = true := by
      intro a member passes
      have after : f a ∈ (as.map f).filter keep :=
        same ▸ List.mem_map_of_mem (List.mem_filter.mpr ⟨member, passes⟩)
      exact (List.mem_filter.mp after).2
    have fewer : (as.filter keep).Sublist (as.filter (keep ∘ f)) := by
      have both : as.filter keep = (as.filter (keep ∘ f)).filter keep := by
        rw [List.filter_filter]
        refine List.filter_congr fun a member => ?_
        cases passes : keep a with
        | false => rfl
        | true => exact (kept a member passes).symm
      rw [both]
      exact List.filter_sublist
    rw [List.filter_map] at same
    have lengths := congrArg List.length same
    rw [List.length_map, List.length_map] at lengths
    have equal := fewer.eq_of_length lengths.symm
    intro a member
    rw [Bool.eq_iff_iff]
    constructor
    · intro passes
      exact (List.mem_filter.mp (equal ▸ List.mem_filter.mpr ⟨member, passes⟩)).2
    · exact kept a member
  · intro agree
    rw [List.filter_map]
    exact congrArg (List.map f) (List.filter_congr agree)

namespace Container

variable {f g : Record ε → Record ε} {keep other : Record ε → Bool} {c : Container ε}

def marks (keep : Record ε → Bool) : Container ε → List Bool
  | single _ => [true]
  | list rs => rs.map keep
  | absent => []
  | present inner => inner.records.map fun _ => inner.records.all keep

theorem map_map (f g : Record ε → Record ε) (c : Container ε) : (c.map f).map g = c.map (g ∘ f) := by
  fun_induction Container.map f c with
  | case1 => rfl
  | case2 rs => exact congrArg list List.map_map
  | case3 => rfl
  | case4 inner ih => exact congrArg present ih

theorem map_eq_map_iff : c.map f = c.map g ↔ ∀ r ∈ c.records, f r = g r := by
  fun_induction Container.map f c with
  | case1 r => simp [Container.map, records]
  | case2 rs => simp [Container.map, records]
  | case3 => simp [Container.map, records]
  | case4 inner ih => simpa [Container.map, records] using ih

theorem retain_retain (keep other : Record ε → Bool) (c : Container ε) :
    (c.retain keep).retain other = (c.retain other).retain keep := by
  cases c with
  | single | absent => rfl
  | list rs =>
    simp only [retain, List.filter_filter]
    exact congrArg list (List.filter_congr fun r _ => Bool.and_comm _ _)
  | present inner =>
    unfold retain
    cases first : inner.records.all keep <;> cases second : inner.records.all other <;>
      simp [first, second]

theorem retain_map_eq_iff :
    (c.map f).retain keep = (c.retain keep).map f ↔ c.marks (keep ∘ f) = c.marks keep := by
  cases c with
  | single | absent => exact ⟨fun _ => rfl, fun _ => rfl⟩
  | list rs =>
    simp only [Container.map, retain, marks, list.injEq]
    exact filter_map_eq_map_filter_iff f keep rs
  | present inner =>
    simp only [Container.map, retain, marks, records_map, List.all_map]
    cases after : inner.records.all (keep ∘ f) <;> cases before : inner.records.all keep
    case false.false | true.true => simp [Container.map]
    all_goals
      have some : inner.records ≠ [] := by
        intro none
        simp [none] at after before
      simp [Container.map, some]

end Container

/-! ### Changes of a container -/

def Cell.within (f : Container ε → Container ε) : Cell ε → Cell ε
  | relation kind c => relation kind (f c)
  | cell => cell

namespace Record

variable {r : Record ε} {name other : String} {f g : Container ε → Container ε}

def container? (r : Record ε) (name : String) : Option (Container ε) :=
  match r.cell? name with
  | some (.relation _ c) => some c
  | _ => none

def change (r : Record ε) (name : String) (f : Container ε → Container ε) : Record ε :=
  r.adjust name (Cell.within f)

theorem change_eq_match (r : Record ε) (name : String) (f : Container ε → Container ε) :
    r.change name f =
      match r.cell? name with
      | some (.relation kind c) => r.put name (.relation kind (f c))
      | _ => r := by
  unfold change
  cases found : r.cell? name with
  | none => rw [adjust_of_none found]
  | some cell =>
    rw [adjust_of_some found]
    cases cell with
    | relation kind c => rfl
    | _ => exact put_self found

theorem mapRelated_eq_change (f : Record ε → Record ε) : r.mapRelated name f = r.change name (·.map f) :=
  (change_eq_match r name _).symm

theorem retainRelated_eq_change (keep : Record ε → Bool) :
    r.retainRelated name keep = r.change name (·.retain keep) :=
  (change_eq_match r name _).symm

theorem change_change : (r.change name f).change name g = r.change name (g ∘ f) := by
  unfold change
  rw [adjust_adjust]
  exact congrArg (r.adjust name) (funext fun cell => by cases cell <;> rfl)

theorem change_comm (different : name ≠ other) :
    (r.change name f).change other g = (r.change other g).change name f :=
  adjust_comm different

theorem change_eq_change_iff : r.change name f = r.change name g ↔ ∀ c ∈ r.container? name, f c = g c := by
  unfold change container?
  cases found : r.cell? name with
  | none => simp [adjust_of_none found]
  | some cell =>
    rw [adjust_of_some found, adjust_of_some found]
    have same : r.put name (Cell.within f cell) = r.put name (Cell.within g cell) ↔
        Cell.within f cell = Cell.within g cell := by
      refine ⟨fun same => ?_, congrArg (r.put name)⟩
      have after := congrArg (·.cell? name) same
      simpa only [cell?_put_same found, Option.some.injEq] using after
    rw [same]
    cases cell <;> simp [Cell.within]

end Record

/-! ### Prunings -/

namespace Path

variable {leaf leaf' : Field ε} {relations relations' mid : List (Field ε)} {keep keep' : Record ε → Bool}
  {r : Record ε}

def containersAlong (leaf : Field ε) : List (Field ε) → Record ε → List (Container ε)
  | [], r => (r.container? leaf.name).toList
  | field :: rest, r =>
    (r.container? field.name).toList.flatMap fun c => c.records.flatMap (containersAlong leaf rest)

def containers (p : Path ε) (r : Record ε) : List (Container ε) :=
  containersAlong p.leaf p.relations r

theorem retainAlong_nil : retainAlong leaf keep [] r = r.change leaf.name (·.retain keep) :=
  Record.retainRelated_eq_change keep

theorem retainAlong_cons {field : Field ε} {rest : List (Field ε)} :
    retainAlong leaf keep (field :: rest) r = r.change field.name (·.map (retainAlong leaf keep rest)) :=
  Record.mapRelated_eq_change _

/-- Where one pruning goes on inside the records of another one, the order makes no difference exactly if
the containers keep the same of their records before and after the inner one. -/
theorem retainAlong_comm_iff_of_inside :
    retainAlong leaf keep relations (retainAlong leaf' keep' (relations ++ leaf :: mid) r) =
        retainAlong leaf' keep' (relations ++ leaf :: mid) (retainAlong leaf keep relations r) ↔
      ∀ c ∈ containersAlong leaf relations r,
        c.marks (keep ∘ retainAlong leaf' keep' mid) = c.marks keep := by
  -- Along the relations that both share, each change maps the same records. At their end one of them drops
  -- records and the other changes them, which commutes as far as the marks agree.
  induction relations generalizing r with
  | nil =>
    rw [List.nil_append, retainAlong_nil, retainAlong_cons, retainAlong_nil, retainAlong_cons,
      Record.change_change, Record.change_change, Record.change_eq_change_iff]
    simp only [containersAlong, Option.mem_toList, Function.comp_apply, Container.retain_map_eq_iff]
    exact Iff.rfl
  | cons field rest ih =>
    rw [List.cons_append, retainAlong_cons, retainAlong_cons, retainAlong_cons, retainAlong_cons,
      Record.change_change, Record.change_change, Record.change_eq_change_iff]
    simp only [containersAlong, Function.comp_apply, Container.map_map, Container.map_eq_map_iff, ih,
      List.mem_flatMap, Option.mem_toList]
    constructor
    · rintro agree c ⟨outer, found, q, present, member⟩
      exact agree outer found q present c member
    · intro agree outer found q present c member
      exact agree c ⟨outer, found, q, present, member⟩

section Apart

variable [LayoutCatalog ε] {entity owner owner' : ε}

/-- Prunings of which none goes on inside the records of the other one can be made in either order. -/
theorem retainAlong_comm_of_apart (leads : Leads entity relations owner)
    (found : ∃ name, (Catalog.schema owner).field? name = some leaf)
    (leads' : Leads entity relations' owner')
    (found' : ∃ name, (Catalog.schema owner').field? name = some leaf')
    (outside : ∀ mid, relations' ≠ relations ++ leaf :: mid)
    (outside' : ∀ mid, relations ≠ relations' ++ leaf' :: mid) :
    retainAlong leaf keep relations (retainAlong leaf' keep' relations' r) =
      retainAlong leaf' keep' relations' (retainAlong leaf keep relations r) := by
  -- Both paths are followed side by side, until one of them ends or they go different ways.
  induction leads generalizing relations' r with
  | here entity =>
    obtain ⟨name, met⟩ := found
    cases leads' with
    | here =>
      rw [retainAlong_nil, retainAlong_nil, retainAlong_nil, retainAlong_nil]
      by_cases same : leaf.name = leaf'.name
      · rw [same, Record.change_change, Record.change_change]
        exact congrArg (r.change leaf'.name) (funext fun c => c.retain_retain keep' keep)
      · exact (Record.change_comm same).symm
    | @via _ _ _ _ field rest step =>
      have different : leaf.name ≠ field.name := fun same =>
        outside rest (by rw [field_eq_of_name met step same, List.nil_append])
      rw [retainAlong_nil, retainAlong_cons, retainAlong_nil, retainAlong_cons]
      exact (Record.change_comm different).symm
  | @via entity next last name field rest step target _ ih =>
    cases leads' with
    | here =>
      obtain ⟨name', met⟩ := found'
      have different : field.name ≠ leaf'.name := fun same =>
        outside' rest (by rw [field_eq_of_name step met same, List.nil_append])
      rw [retainAlong_cons, retainAlong_nil, retainAlong_cons, retainAlong_nil]
      exact (Record.change_comm different).symm
    | @via _ _ _ _ field' rest' step' target' leads' =>
      rw [retainAlong_cons, retainAlong_cons, retainAlong_cons, retainAlong_cons]
      by_cases same : field.name = field'.name
      · cases field_eq_of_name step step' same
        rw [target] at target'
        cases target'
        have deeper : ∀ q : Record ε, retainAlong leaf keep rest (retainAlong leaf' keep' rest' q) =
            retainAlong leaf' keep' rest' (retainAlong leaf keep rest q) := fun q =>
          ih found leads' (fun mid split => outside mid (by rw [split, List.cons_append]))
            fun mid split => outside' mid (by rw [split, List.cons_append])
        rw [Record.change_change, Record.change_change]
        refine congrArg (r.change field.name) (funext fun c => ?_)
        rw [Function.comp_apply, Function.comp_apply, Container.map_map, Container.map_map]
        exact congrArg c.map (funext deeper)
      · exact (Record.change_comm same).symm

/-! ### Either order -/

variable {p q : Path ε}

/-- Whether a pruning at another path changes what is dropped at this one: it goes on inside the records that
are to be kept or dropped, and some container keeps other records of them after it than before. -/
def Sways (q : Path ε) (keep' : Record ε → Bool) (p : Path ε) (keep : Record ε → Bool) (r : Record ε) :
    Prop :=
  ∃ mid, q.relations = p.segments ++ mid ∧
    ∃ c ∈ p.containers r, c.marks (keep ∘ retainAlong q.leaf keep' mid) ≠ c.marks keep

omit [LayoutCatalog ε] in
theorem segments_append (p : Path ε) (mid : List (Field ε)) :
    p.segments ++ mid = p.relations ++ p.leaf :: mid := by
  rw [segments, List.append_assoc, List.singleton_append]

omit [LayoutCatalog ε] in
theorem length_lt_of_inside (inside : q.relations = p.segments ++ mid) :
    p.relations.length < q.relations.length := by
  rw [inside, segments_append, List.length_append, List.length_cons]
  omega

omit [LayoutCatalog ε] in
theorem retain_comm_iff_of_inside (inside : q.relations = p.segments ++ mid) :
    p.retain keep (q.retain keep' r) = q.retain keep' (p.retain keep r) ↔ ¬q.Sways keep' p keep r := by
  have along : retainAlong p.leaf keep p.relations (retainAlong q.leaf keep' (p.relations ++ p.leaf :: mid) r) =
        retainAlong q.leaf keep' (p.relations ++ p.leaf :: mid) (retainAlong p.leaf keep p.relations r) ↔
      ∀ c ∈ p.containers r, c.marks (keep ∘ retainAlong q.leaf keep' mid) = c.marks keep :=
    retainAlong_comm_iff_of_inside
  rw [← segments_append, ← inside] at along
  refine along.trans ⟨?_, fun settled c member => ?_⟩
  · rintro agree ⟨mid', inside', c, member, differs⟩
    cases List.append_cancel_left (inside.symm.trans inside')
    exact differs (agree c member)
  · by_contra differs
    exact settled ⟨mid, inside, c, member, differs⟩

/-- Two prunings can be made in either order exactly if neither changes what the other one drops. -/
theorem retain_comm_iff (reaches : p.Reaches entity owner) (reaches' : q.Reaches entity owner') :
    p.retain keep (q.retain keep' r) = q.retain keep' (p.retain keep r) ↔
      ¬q.Sways keep' p keep r ∧ ¬p.Sways keep q keep' r := by
  by_cases inside : ∃ mid, q.relations = p.segments ++ mid
  · obtain ⟨mid, inside⟩ := inside
    have apart : ¬p.Sways keep q keep' r := fun ⟨_, back, _⟩ =>
      Nat.lt_asymm (length_lt_of_inside inside) (length_lt_of_inside back)
    rw [retain_comm_iff_of_inside inside]
    exact (and_iff_left apart).symm
  by_cases inside' : ∃ mid, p.relations = q.segments ++ mid
  · obtain ⟨mid, inside'⟩ := inside'
    have apart : ¬q.Sways keep' p keep r := fun ⟨mid, back, _⟩ => inside ⟨mid, back⟩
    rw [eq_comm, retain_comm_iff_of_inside inside']
    exact (and_iff_right apart).symm
  · have either : p.retain keep (q.retain keep' r) = q.retain keep' (p.retain keep r) :=
      retainAlong_comm_of_apart reaches.leads reaches.leaf reaches'.leads reaches'.leaf
        (fun mid split => inside ⟨mid, split.trans (p.segments_append mid).symm⟩)
        (fun mid split => inside' ⟨mid, split.trans (q.segments_append mid).symm⟩)
    have settled : ¬q.Sways keep' p keep r := fun ⟨mid, back, _⟩ => inside ⟨mid, back⟩
    have settled' : ¬p.Sways keep q keep' r := fun ⟨mid, back, _⟩ => inside' ⟨mid, back⟩
    exact iff_of_true either ⟨settled, settled'⟩

end Apart

end Path

end EntityQuery
