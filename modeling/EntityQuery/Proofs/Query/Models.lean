import EntityQuery.Proofs.Path.Reading
import EntityQuery.Proofs.Query.Coercion
import EntityQuery.Proofs.Query.Update

/-!
Updates that are taken from a model. They carry what the model holds at the selected paths over to another
record, and leave all else there as it is.
-/

namespace EntityQuery

variable {ε : Type} {entity : ε}

/-! ### What a run of setters leaves to be read -/

section Runs

variable [LayoutCatalog ε] {setters : List (Setter ε)} {r : Record ε} {p q : Path ε}

theorem Setter.read_foldl_apply_other {owner : ε} (writable : ∀ s ∈ setters, s.path.Writable entity)
    (reaches : q.Reaches entity owner) (unnamed : ∀ s ∈ setters, s.path ≠ q)
    (along : ∀ s ∈ setters, Path.SingleAlong s.path.relations r) :
    q.read (setters.foldl Setter.apply r) = q.read r := by
  induction setters generalizing r with
  | nil => rfl
  | cons s rest ih =>
    rw [List.forall_mem_cons] at writable unnamed along
    have kept : ∀ t ∈ rest, Path.SingleAlong t.path.relations (r.assign s.path.location s.value) :=
      fun t member => Path.singleAlong_assign (along.2 t member) _ _
    rw [List.foldl_cons, Setter.apply_eq_assign writable.1, ih writable.2 unnamed.2 kept]
    exact writable.1.read_assign_other reaches unnamed.1 along.1 _

omit [LayoutCatalog ε] in
theorem lastAccepted_of_uniform [DecidableEq ε] {storage : Storage} {v : Value} (taken : storage.store v = .ok v)
    (uniform : ∀ s ∈ setters, s.path = p → s.value = v) (named : ∃ s ∈ setters, s.path = p) :
    lastAccepted storage p setters = some v := by
  obtain ⟨s, member, same⟩ := named
  have accepted (t : Setter ε) (present : t ∈ setters) :
      ∀ w ∈ (if t.path = p then (storage.store t.value).toOption else none), w = v := by
    intro w given
    split at given
    · rename_i here
      rw [uniform t present here, taken] at given
      exact (Option.some.inj given).symm
    · cases given
  unfold lastAccepted
  cases last : (setters.filterMap fun s => if s.path = p then (storage.store s.value).toOption else none).getLast? with
  | none =>
    have none := List.filterMap_eq_nil_iff.mp (List.getLast?_eq_none_iff.mp last) s member
    rw [if_pos same, uniform s member same, taken] at none
    cases none
  | some w =>
    obtain ⟨t, present, given⟩ := List.mem_filterMap.mp (List.mem_of_getLast? last)
    exact congrArg some (accepted t present w given)

end Runs

namespace UpdateAction

/-! ### Building -/

section Building

variable {config : Config} {p : Path ε} {v : Value}

theorem coerce_of_converted {w : Value} (converted : Coercion.ofValue config p.leaf v = .ok w) :
    coerce config p v = .ok w := by
  unfold coerce
  rw [converted]

theorem checkWritable_of_writable [Catalog ε] (writable : p.Writable entity) : checkWritable p = .ok () := by
  unfold checkWritable
  rw [writable.scalar, writable.single]
  rfl

def gives (model : Record ε) (p : Path ε) : Bool :=
  p.leaf.nullable || p.read model ≠ [.null]

def carriedOver (selectors : List (Path ε)) (model : Record ε) : List (Setter ε) :=
  (selectors.filter (gives model)).map fun p => ⟨p, p.readFirst model⟩

def carry (model : Record ε) (action : UpdateAction entity) (p : Path ε) : UpdateAction entity :=
  if gives model p then action.push ⟨p, p.readFirst model⟩ else action

variable {selectors : List (Path ε)} {model : Record ε}

theorem foldl_carry (action : UpdateAction entity) :
    selectors.foldl (carry model) action = ⟨action.setters ++ carriedOver selectors model⟩ := by
  induction selectors generalizing action with
  | nil => simp [carriedOver]
  | cons p rest ih =>
    rw [List.foldl_cons, ih]
    cases given : gives model p <;> simp [carry, carriedOver, push, given]

theorem map_path_carriedOver : (carriedOver selectors model).map (·.path) = selectors.filter (gives model) := by
  unfold carriedOver
  rw [List.map_map]
  exact List.map_id _

theorem of_mem_carriedOver {s : Setter ε} (member : s ∈ carriedOver selectors model) :
    s.path ∈ selectors ∧ gives model s.path = true ∧ s.value = s.path.readFirst model := by
  obtain ⟨p, kept, rfl⟩ := List.mem_map.mp member
  obtain ⟨selected, given⟩ := List.mem_filter.mp kept
  exact ⟨selected, given, rfl⟩

variable [LayoutCatalog ε]

theorem passed_over (writable : p.Writable entity) (fits : Record.Fits entity model) :
    ((p.readFirst model).isNull && !p.leaf.nullable) = !gives model p := by
  have read := writable.read_eq fits
  have null : (p.readFirst model).isNull = decide (p.readFirst model = .null) := by
    cases p.readFirst model <;> rfl
  rw [gives, read, null]
  cases p.leaf.nullable <;> simp

theorem holds_readFirst {storage : Storage} (writable : p.Writable entity) (fits : Record.Fits entity model)
    (laid : (LayoutCatalog.layout p.owner).fields.lookup p.leaf.name = some (.scalar storage))
    (given : gives model p = true) : storage.Holds (p.readFirst model) := by
  rcases writable.readFirst_holds fits laid with null | held
  · have nullable : storage.nullable = true := by
      have described := congrArg Field.nullable (writable.leaf_eq laid)
      rw [gives, writable.read_eq fits, null, described] at given
      simpa [Backing.field] using given
    rw [null]
    cases storage with
    | optional inner => exact ⟨none, rfl⟩
    | _ => cases nullable
  · exact held

theorem coerce_readFirst (writable : p.Writable entity) (fits : Record.Fits entity model)
    (given : gives model p = true) (config : Config) :
    coerce config p (p.readFirst model) = .ok (p.readFirst model) := by
  obtain ⟨storage, laid⟩ := writable.laid
  have held := holds_readFirst writable fits laid given
  have converted := Coercion.ofValue_of_holds (ε := ε) held config p.leaf.name
  rw [← writable.leaf_eq laid] at converted
  exact coerce_of_converted converted

theorem ofModel_eq [DecidableEq ε] (writable : ∀ p ∈ selectors, p.Writable entity)
    (fits : Record.Fits entity model) (config : Config) :
    ofModel config selectors model = .ok (⟨carriedOver selectors model⟩ : UpdateAction entity) := by
  unfold ofModel
  refine (foldlM_of_steps (g := carry model) ?_ _).trans ?_
  · intro p member action
    have may := writable p member
    obtain ⟨owner, reaches⟩ := may.reaches
    simp only [if_neg (not_not.mpr reaches.root), checkWritable_of_writable may, passed_over may fits, carry]
    cases given : gives model p with
    | false => rfl
    | true =>
      rw [coerce_readFirst may fits given]
      rfl
  · rw [foldl_carry]
    rfl

end Building

/-! ### Carrying over -/

section Transfer

variable [LayoutCatalog ε] {selectors : List (Path ε)} {model target : Record ε}

theorem writable_carriedOver (writable : ∀ p ∈ selectors, p.Writable entity) :
    ∀ s ∈ carriedOver selectors model, s.path.Writable entity :=
  fun _ member => writable _ (of_mem_carriedOver member).1

/-- What is read in the end at a path that was carried over. -/
theorem read_carriedOver [DecidableEq ε] (writable : ∀ p ∈ selectors, p.Writable entity)
    (fits : Record.Fits entity model) (also : Record.Fits entity target)
    (passed : (⟨carriedOver selectors model⟩ : UpdateAction entity).check target = .ok ()) :
    ∀ s ∈ carriedOver selectors model,
      s.path.read ((carriedOver selectors model).foldl Setter.apply target) = s.path.read model := by
  intro s member
  obtain ⟨selected, given, value⟩ := of_mem_carriedOver member
  have may := writable _ selected
  obtain ⟨storage, old, laid, -, read⟩ := (rewrites_of_check (writable_carriedOver writable) also passed).named
    s member
  have taken := Storage.store_of_holds (holds_readFirst may fits laid given)
  have uniform : ∀ t ∈ carriedOver selectors model, t.path = s.path → t.value = s.path.readFirst model := by
    intro t present same
    rw [(of_mem_carriedOver present).2.2, same]
  rw [may.read_eq fits]
  exact read.trans (congrArg (fun last => [last.getD old])
    (lastAccepted_of_uniform taken uniform ⟨s, member, rfl⟩))

/-- From writable paths of one entity every policy takes an update from a model. It passes over just those
paths that read null and whose leaf takes none. Applied to another record, it makes the other paths read
what they read from the model, nulls included, and all further paths what they read before. -/
theorem ofModel_carries_over [DecidableEq ε] (writable : ∀ p ∈ selectors, p.Writable entity)
    (fits : Record.Fits entity model) (also : Record.Fits entity target) (config : Config) :
    ∃ action : UpdateAction entity, ofModel config selectors model = .ok action ∧
      action.setters.map (·.path) = (selectors.filter fun p =>
        p.leaf.nullable || p.read model ≠ [.null]) ∧
      ((action.apply target).result = .ok () →
        (∀ s ∈ action.setters, s.path.read (action.apply target).after = s.path.read model) ∧
        ∀ q owner, q.Reaches entity owner → q ∉ action.setters.map (·.path) →
          q.read (action.apply target).after = q.read target) := by
  refine ⟨_, ofModel_eq writable fits config, map_path_carriedOver, fun done => ?_⟩
  have passed := check_of_apply done
  have may : ∀ s ∈ carriedOver selectors model, s.path.Writable entity := writable_carriedOver writable
  rw [apply_of_passed passed]
  refine ⟨read_carriedOver writable fits also passed, fun q owner reaches unnamed => ?_⟩
  refine Setter.read_foldl_apply_other may reaches (fun s member same => unnamed ?_)
    fun s member => (may s member).singleAlong also
  exact List.mem_map.mpr ⟨s, member, same⟩

end Transfer

end UpdateAction

namespace Library

theorem titleOf_writable : titleOf.Writable book :=
  UpdateAction.writable_of_resolve (show Path.resolve book "title" = .ok titleOf from rfl) rfl

theorem nameOfAuthor_writable : nameOfAuthor.Writable book :=
  UpdateAction.writable_of_resolve (show Path.resolve book "author.name" = .ok nameOfAuthor from rfl) rfl

/-- The author of the model is not known, so that the other book keeps its author's name. -/
theorem title_carried_over :
    (∀ p ∈ [titleOf, nameOfAuthor], p.Writable book) ∧ Record.Fits book (newBook "Dune" 412) ∧
    Record.Fits book bookOfAnn ∧
    ∃ action : UpdateAction book,
      UpdateAction.ofModel {} [titleOf, nameOfAuthor] (newBook "Dune" 412) = .ok action ∧
      action.setters.map (·.path) = [titleOf] ∧ (action.apply bookOfAnn).result = .ok () ∧
      titleOf.read (action.apply bookOfAnn).after = [.string "Dune"] ∧
      nameOfAuthor.read (action.apply bookOfAnn).after = [.string "Ann"] := by
  have writable : ∀ p ∈ [titleOf, nameOfAuthor], p.Writable book := by
    simp [titleOf_writable, nameOfAuthor_writable]
  have fits := newBook_fits "Dune" 412
  have built : UpdateAction.ofModel {} [titleOf, nameOfAuthor] (newBook "Dune" 412) =
      .ok (⟨[⟨titleOf, .string "Dune"⟩]⟩ : UpdateAction book) := rfl
  obtain ⟨action, done, paths, carried⟩ :=
    UpdateAction.ofModel_carries_over writable fits bookOfAnn_fits {}
  rw [built] at done
  cases done
  obtain ⟨named, others⟩ := carried rfl
  obtain ⟨owner, reaches⟩ := nameOfAuthor_writable.reaches
  exact ⟨writable, fits, bookOfAnn_fits, _, built, rfl, rfl, named _ List.mem_cons_self,
    others _ owner reaches (by decide)⟩

end Library

end EntityQuery
