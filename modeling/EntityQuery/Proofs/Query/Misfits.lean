import EntityQuery.Proofs.Query.Coercion
import EntityQuery.Proofs.Query.Policies
import EntityQuery.Proofs.Query.Update

/-!
Values that the lenient policy keeps although they cannot be converted. The storage of the field refuses
every one of them, so that an update does the same without their setters.
-/

namespace EntityQuery

variable {ε : Type} {entity : ε}

namespace Setter

variable {s : Setter ε} {setters : List (Setter ε)} {r : Record ε}

/-- The setter finds a scalar whose storage refuses the value. -/
def RefusedOn (s : Setter ε) (r : Record ε) : Prop :=
  ∃ storage old e, r.at? s.path.location = some (.scalar storage old) ∧ storage.decode s.value = .error e

theorem RefusedOn.assign (refused : s.RefusedOn r) (l : Location) (v : Value) :
    s.RefusedOn (r.assign l v) := by
  obtain ⟨storage, old, e, found, failed⟩ := refused
  by_cases here : l = s.path.location
  · subst here
    refine ⟨storage, (storage.decode v).toOption.getD old, e, ?_, failed⟩
    rw [Record.at?_assign_same, found]
    rfl
  · exact ⟨storage, old, e, (Record.at?_assign_other here).trans found, failed⟩

/-- Refused setters can be left out of a run. -/
theorem foldl_apply_filter [Catalog ε] {keep : Setter ε → Bool}
    (writable : ∀ s ∈ setters, s.path.Writable entity)
    (refused : ∀ s ∈ setters, keep s = false → s.RefusedOn r) :
    (setters.filter keep).foldl apply r = setters.foldl apply r := by
  induction setters generalizing r with
  | nil => rfl
  | cons s rest ih =>
    rw [List.forall_mem_cons] at writable refused
    have done := apply_eq_assign (r := r) writable.1
    have tail : (rest.filter keep).foldl apply (apply r s) = rest.foldl apply (apply r s) := by
      refine ih writable.2 fun t member dropped => ?_
      rw [done]
      exact (refused.2 t member dropped).assign _ _
    rw [List.foldl_cons, ← tail]
    cases kept : keep s with
    | true => rw [List.filter_cons_of_pos kept, List.foldl_cons]
    | false =>
      obtain ⟨storage, old, e, found, failed⟩ := refused.1 kept
      rw [List.filter_cons_of_neg (Bool.eq_false_iff.mp kept), done, Record.assign_of_refused found failed]

end Setter

namespace UpdateAction

variable {action : UpdateAction entity} {config : Config}

def converts (config : Config) (s : Setter ε) : Bool :=
  (Coercion.ofValue config s.path.leaf s.value).isOk

/-- The update without the setters whose values cannot be converted. -/
def convertible (config : Config) (action : UpdateAction entity) : UpdateAction entity :=
  ⟨action.setters.filter (converts config)⟩

/-! ### Which setters are left -/

section Building

variable [Catalog ε] {key : String} {json : Json} {p : Path ε} {raw : Value} {e : QueryError}

theorem setterOf?_of_value (resolved : Path.resolve entity key = .ok p) (passed : checkWritable p = .ok ())
    (read : Value.ofJson? json = .ok raw) (config : Config) :
    setterOf? entity config key json = (coerce config p raw).map fun v => some ⟨p, v⟩ := by
  unfold setterOf?
  rw [resolved]
  change (checkWritable p >>= _) = _
  rw [passed, read]
  rfl

theorem setterOf?_of_no_value (resolved : Path.resolve entity key = .ok p)
    (passed : checkWritable p = .ok ()) (read : Value.ofJson? json = .error e) (config : Config) :
    setterOf? entity config key json =
      match config.coercionPolicy with
      | .strict => .error e
      | .degrade => .ok none := by
  unfold setterOf?
  rw [resolved]
  change (checkWritable p >>= _) = _
  rw [passed, read]
  rfl

omit [Catalog ε] in
theorem coerce_under (config : Config) (policy : CoercionPolicy) (p : Path ε) (raw : Value) :
    coerce (config.under policy) p raw =
      match Coercion.ofValue config p.leaf raw, policy with
      | .ok v, _ => .ok v
      | .error e, .strict => .error e
      | .error _, .degrade => .ok raw := by
  unfold coerce
  rw [Coercion.ofValue_under]
  cases Coercion.ofValue config p.leaf raw <;> cases policy <;> rfl

/-- Of the setters that the lenient policy makes, the strict one makes those with convertible values. -/
theorem filter_setterOf? {s : Option (Setter ε)}
    (done : setterOf? entity (config.under .degrade) key json = .ok s) :
    s.filter (converts config) = (setterOf? entity (config.under .strict) key json).toOption.join := by
  obtain ⟨p, resolved, rest⟩ := bind_ok done
  obtain ⟨_, passed, -⟩ := bind_ok rest
  cases read : Value.ofJson? json with
  | error e =>
    rw [setterOf?_of_no_value resolved passed read] at done ⊢
    cases done
    rfl
  | ok raw =>
    rw [setterOf?_of_value resolved passed read, coerce_under] at done ⊢
    cases converted : Coercion.ofValue config p.leaf raw with
    | ok v =>
      rw [converted] at done
      cases done
      have kept : converts config ⟨p, v⟩ = true := by
        rw [converts, Coercion.ofValue_ofValue converted]
        rfl
      rw [Option.filter_some, if_pos kept]
      rfl
    | error e =>
      rw [converted] at done
      cases done
      have dropped : converts config ⟨p, raw⟩ = false := by
        rw [converts, converted]
        rfl
      rw [Option.filter_some, dropped]
      rfl

theorem setters_convertible {members : List (String × Json)}
    (done : ofMembers (config.under .degrade) members = .ok action) :
    (action.convertible config).setters = (Json.flatten members).filterMap fun (key, json) =>
      (setterOf? entity (config.under .strict) key json).toOption.join := by
  obtain ⟨setters, read, done⟩ := bind_ok done
  cases done
  rw [convertible, List.filter_filterMap]
  exact filterMap_of_mapM (fun _ _ => filter_setterOf?) read

end Building

/-! ### What is written -/

section Entities

variable [LayoutCatalog ε] {r : Record ε}

theorem refusedOn_of_not_converts {s : Setter ε} (writable : s.path.Writable entity)
    (fits : Record.Fits entity r) (reached : s.path.checkReachable r = .ok ())
    (misfit : converts config s = false) : s.RefusedOn r := by
  rcases writable.at?_location fits with ⟨storage, old, laid, found, -⟩ | ⟨-, failed⟩
  · cases converted : Coercion.ofValue config s.path.leaf s.value with
    | ok v =>
      rw [converts, converted] at misfit
      cases misfit
    | error e =>
      rw [writable.leaf_eq laid] at converted
      obtain ⟨e, refused⟩ := Storage.decode_of_not_converted converted
      exact ⟨storage, old, e, found, refused⟩
  · rw [reached] at failed
    cases failed

theorem apply_convertible (writable : action.Writable) (fits : Record.Fits entity r)
    (passed : action.check r = .ok ()) (config : Config) :
    (action.convertible config).apply r = action.apply r := by
  have reached := forM_ok_iff.mp passed
  have passes : (action.convertible config).check r = .ok () :=
    forM_ok_iff.mpr fun s member => reached s (List.mem_filter.mp member).1
  have same : (action.setters.filter (converts config)).foldl Setter.apply r =
      action.setters.foldl Setter.apply r :=
    Setter.foldl_apply_filter writable fun s member misfit =>
      refusedOn_of_not_converts (writable s member) fits (reached s member) misfit
  rw [apply_of_passed passed, apply_of_passed passes, ← same]
  rfl

/-- What cannot be converted to the type of a field, its storage refuses. So an update that the lenient
policy builds from an object changes a record as it does without the setters of such values, which are
those that the strict policy makes of the single members. -/
theorem misfits_never_written (entity : ε) (config : Config) :
    (∀ storage name v e,
      Coercion.ofValue config ((Backing.scalar storage : Backing ε).field name) v = .error e →
        ∃ e, storage.store v = .error e) ∧
    ∀ members (action : UpdateAction entity),
      ofJson (config.under .degrade) (.object members) = .ok action →
        (action.convertible config).setters = ((Json.flatten members).filterMap fun (key, json) =>
          (setterOf? entity (config.under .strict) key json).toOption.join) ∧
        ∀ r, Record.Fits entity r → (∀ s ∈ action.setters, s.path.checkReachable r = .ok ()) →
          action.apply r = (action.convertible config).apply r := by
  refine ⟨fun storage name v e failed => ?_, fun members action done => ?_⟩
  · obtain ⟨e, refused⟩ := Storage.decode_of_not_converted failed
    exact ⟨e, by rw [Storage.store, refused]; rfl⟩
  · refine ⟨setters_convertible done, fun r fits reached => ?_⟩
    exact (apply_convertible (ofJson_writable done) fits (forM_ok_iff.mpr reached) config).symm

end Entities

end UpdateAction

namespace Library

/-- The number of pages cannot be read. -/
def unreadable : List (String × Json) :=
  [("pages", .string "many"), ("title", .string "Emma")]

def unreadableKept : UpdateAction book :=
  ⟨[⟨pagesOf, .string "many"⟩, ⟨titleOf, .string "Emma"⟩]⟩

theorem unreadable_built :
    UpdateAction.ofJson (({} : Config).under .degrade) (.object unreadable) = .ok unreadableKept := by
  simp only [unreadable, UpdateAction.ofJson, UpdateAction.ofMembers, Json.flatten, Json.flattenUnder]
  rfl

theorem unreadable_pages_not_written :
    (∃ e, Coercion.ofValue {} ((Backing.scalar (.unsigned .w64) : Backing Library).field "pages")
      (.string "many") = .error e) ∧
    (∃ e, (Storage.unsigned .w64).store (.string "many") = .error e) ∧
    UpdateAction.ofJson (({} : Config).under .degrade) (.object unreadable) = .ok unreadableKept ∧
    Record.Fits book (newBook "Dune" 412) ∧
    (∀ s ∈ unreadableKept.setters, s.path.checkReachable (newBook "Dune" 412) = .ok ()) ∧
    unreadableKept.convertible {} = ⟨[⟨titleOf, .string "Emma"⟩]⟩ ∧
    unreadableKept.apply (newBook "Dune" 412) =
      (unreadableKept.convertible {}).apply (newBook "Dune" 412) := by
  have misfit : Coercion.ofValue {} ((Backing.scalar (.unsigned .w64) : Backing Library).field "pages")
      (.string "many") = .error (.notConvertible "many" "uint") := by rfl
  have reached : ∀ s ∈ unreadableKept.setters, s.path.checkReachable (newBook "Dune" 412) = .ok () := by
    intro s member
    simp only [unreadableKept, List.mem_cons, List.not_mem_nil, or_false] at member
    rcases member with rfl | rfl <;> rfl
  have fits := newBook_fits "Dune" 412
  exact ⟨⟨_, misfit⟩, (UpdateAction.misfits_never_written book {}).1 _ _ _ _ misfit, unreadable_built, fits,
    reached, rfl,
    ((UpdateAction.misfits_never_written book {}).2 _ _ unreadable_built).2 _ fits reached⟩

end Library

end EntityQuery
