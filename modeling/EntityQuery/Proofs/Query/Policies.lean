import EntityQuery.Proofs.Query.Setters
import EntityQuery.Proofs.Record.Library

/-!
The two policies for values that an update cannot convert. What the strict policy builds from an
object, the lenient one builds as well; and the lenient one fails over the keys of the object only.
-/

namespace EntityQuery

variable {ε : Type}

def Config.under (config : Config) (policy : CoercionPolicy) : Config :=
  { config with coercionPolicy := policy }

namespace Coercion

theorem ofText_under (config : Config) (policy : CoercionPolicy) (field : Field ε) (text : String) :
    ofText (config.under policy) field text = ofText config field text := by
  have dates : ∀ s, parseDate (config.under policy) s = parseDate config s := fun s => by
    simp only [parseDate, bareDate?, fullDateTime?, Config.under]
  have dateTimes : ∀ s, parseDateTime (config.under policy) s = parseDateTime config s := fun s => by
    simp only [parseDateTime, bareDate?, fullDateTime?, Config.under]
  simp only [ofText, dates, dateTimes]

theorem ofValue_under (config : Config) (policy : CoercionPolicy) (field : Field ε) (v : Value) :
    ofValue (config.under policy) field v = ofValue config field v := by
  simp only [ofValue, ofText_under]

end Coercion

namespace UpdateAction

/-! ### Members -/

section Coerce

variable {p : Path ε} {raw v : Value}

theorem coerce_lenient (config : Config) (p : Path ε) (raw : Value) :
    ∃ v, coerce (config.under .degrade) p raw = .ok v := by
  unfold coerce
  split
  · exact ⟨_, rfl⟩
  · exact ⟨raw, rfl⟩

theorem coerce_of_strict {config : Config} (done : coerce (config.under .strict) p raw = .ok v) :
    coerce (config.under .degrade) p raw = .ok v := by
  unfold coerce at done ⊢
  rw [Coercion.ofValue_under] at done ⊢
  split at done
  · exact done
  · cases done

end Coerce

variable [Catalog ε] {entity : ε} {config : Config} {key : String} {json : Json} {e : QueryError}

/-- Why nothing can be written under a key: it names no field, or a relation, or a field behind a
collection. -/
inductive Refused (entity : ε) (key : String) : QueryError → Prop where
  | unresolved {e : QueryError} (failed : Path.resolve entity key = .error e) : Refused entity key e
  | relation {p : Path ε} (resolved : Path.resolve entity key = .ok p)
      (leads : p.type.isRelation = true) : Refused entity key (.invalidOperation "set" p.type.name)
  | collection {p : Path ε} (resolved : Path.resolve entity key = .ok p)
      (scalar : p.type.isRelation = false) (crosses : p.crossesCollection = true) :
      Refused entity key (.invalidOperation "set" "collection")

theorem checkWritable_error {p : Path ε} (resolved : Path.resolve entity key = .ok p)
    (failed : checkWritable p = .error e) : Refused entity key e := by
  unfold checkWritable at failed
  split at failed
  · rename_i leads
    cases failed
    exact .relation resolved leads
  · rename_i scalar
    split at failed
    · rename_i crosses
      cases failed
      exact .collection resolved (Bool.eq_false_iff.mpr scalar) crosses
    · cases failed

theorem not_refused_of_passed {p : Path ε} (resolved : Path.resolve entity key = .ok p)
    (passed : checkWritable p = .ok ()) : ¬ Refused entity key e := by
  obtain ⟨scalar, single⟩ := checkWritable_ok passed
  intro refused
  cases refused with
  | unresolved failed =>
    rw [resolved] at failed
    cases failed
  | relation found leads =>
    cases resolved.symm.trans found
    rw [scalar] at leads
    cases leads
  | collection found _ crosses =>
    cases resolved.symm.trans found
    rw [single] at crosses
    cases crosses

theorem setterOf?_of_refused (config : Config) (json : Json) (refused : Refused entity key e) :
    setterOf? entity config key json = .error e := by
  unfold setterOf?
  cases refused with
  | unresolved failed => exact bind_of_error failed _
  | @relation p resolved leads =>
    have stopped : checkWritable p = .error (.invalidOperation "set" p.type.name) := by
      rw [checkWritable, if_pos leads]
    rw [resolved]
    exact bind_of_error stopped _
  | @collection p resolved scalar crosses =>
    have stopped : checkWritable p = .error (.invalidOperation "set" "collection") := by
      rw [checkWritable, scalar, if_neg nofun, if_pos crosses]
    rw [resolved]
    exact bind_of_error stopped _

theorem setterOf?_lenient_error_iff :
    setterOf? entity (config.under .degrade) key json = .error e ↔ Refused entity key e := by
  refine ⟨fun failed => ?_, setterOf?_of_refused _ json⟩
  rcases bind_error failed with failed | ⟨p, resolved, failed⟩
  · exact .unresolved failed
  rcases bind_error failed with failed | ⟨_, -, failed⟩
  · exact checkWritable_error resolved failed
  -- past its key a member is kept as it is read, kept as it was given or passed over
  split at failed
  · rename_i raw _
    obtain ⟨v, coerced⟩ := coerce_lenient config p raw
    rw [coerced] at failed
    cases failed
  · cases failed

theorem setterOf?_of_strict {s : Option (Setter ε)}
    (done : setterOf? entity (config.under .strict) key json = .ok s) :
    setterOf? entity (config.under .degrade) key json = .ok s := by
  obtain ⟨p, resolved, done⟩ := bind_ok done
  obtain ⟨_, passed, done⟩ := bind_ok done
  unfold setterOf?
  rw [resolved]
  change (checkWritable p >>= _) = _
  rw [passed]
  cases read : Value.ofJson? json with
  | error e =>
    rw [read] at done
    cases done
  | ok raw =>
    rw [read] at done
    obtain ⟨v, coerced, done⟩ := bind_ok done
    cases done
    change (coerce (config.under .degrade) p raw >>= _) = _
    rw [coerce_of_strict coerced]
    rfl

/-! ### Objects -/

theorem ofMembers_of_strict {members : List (String × Json)} {action : UpdateAction entity}
    (done : ofMembers (config.under .strict) members = .ok action) :
    ofMembers (config.under .degrade) members = .ok action := by
  obtain ⟨setters, read, done⟩ := bind_ok done
  unfold ofMembers
  rw [mapM_ok_of_ok (fun _ _ _ done => setterOf?_of_strict done) read]
  exact done

theorem ofMembers_lenient_error_iff {members : List (String × Json)} :
    (ofMembers (config.under .degrade) members : Except QueryError (UpdateAction entity)) = .error e ↔
      ∃ before key value rest, Json.flatten members = before ++ (key, value) :: rest ∧
        (∀ earlier ∈ before, ∀ e, ¬ Refused entity earlier.1 e) ∧ Refused entity key e := by
  constructor
  · intro failed
    rcases bind_error failed with failed | ⟨setters, -, failed⟩
    · obtain ⟨before, ⟨key, value⟩, rest, split, passed, failed⟩ := mapM_error_iff.mp failed
      refine ⟨before, key, value, rest, split, ?_, setterOf?_lenient_error_iff.mp failed⟩
      exact fun earlier member e refused =>
        passed earlier member e (setterOf?_of_refused _ earlier.2 refused)
    · cases failed
  · rintro ⟨before, key, value, rest, split, passed, refused⟩
    refine bind_of_error (mapM_error_iff.mpr ⟨before, (key, value), rest, split, ?_, ?_⟩) _
    · exact fun earlier member e failed =>
        passed earlier member e (setterOf?_lenient_error_iff.mp failed)
    · exact setterOf?_of_refused _ value refused

theorem ofJson_of_strict {action : UpdateAction entity}
    (done : ofJson (config.under .strict) json = .ok action) :
    ofJson (config.under .degrade) json = .ok action := by
  cases json
  case object members => exact ofMembers_of_strict done
  all_goals cases done

theorem ofJson_of_not_object (config : Config) (other : ∀ members, json ≠ .object members) :
    (ofJson config json : Except QueryError (UpdateAction entity)) =
      .error (.notConvertible json.render "object") := by
  cases json
  case object members => exact absurd rfl (other members)
  all_goals rfl

theorem ofJson_lenient_error_iff :
    (ofJson (config.under .degrade) json : Except QueryError (UpdateAction entity)) = .error e ↔
      ((∀ members, json ≠ .object members) ∧ e = .notConvertible json.render "object") ∨
      ∃ members before key value rest, json = .object members ∧
        Json.flatten members = before ++ (key, value) :: rest ∧
        (∀ earlier ∈ before, ∀ e, ¬ Refused entity earlier.1 e) ∧ Refused entity key e := by
  by_cases isObject : ∃ members, json = .object members
  · obtain ⟨members, rfl⟩ := isObject
    refine ofMembers_lenient_error_iff.trans ⟨?_, ?_⟩
    · rintro ⟨before, key, value, rest, refused⟩
      exact .inr ⟨members, before, key, value, rest, rfl, refused⟩
    · rintro (⟨other, -⟩ | ⟨_, before, key, value, rest, same, refused⟩)
      · exact absurd rfl (other members)
      · cases same
        exact ⟨before, key, value, rest, refused⟩
  · have other : ∀ members, json ≠ .object members := fun members same => isObject ⟨members, same⟩
    rw [ofJson_of_not_object _ other]
    constructor
    · intro same
      exact .inl ⟨other, (Except.error.inj same).symm⟩
    · rintro (⟨-, rfl⟩ | ⟨members, _, _, _, _, same, -⟩)
      · rfl
      · exact absurd same (other members)

/-- An update that the strict policy builds is built by the lenient one too, so where the lenient one
fails, the strict one does. The lenient one fails on what is no object, and over the first flattened
key under which nothing can be written, but over no value. -/
theorem ofJson_under_policies (entity : ε) (config : Config) (json : Json) :
    (∀ action : UpdateAction entity, ofJson (config.under .strict) json = .ok action →
      ofJson (config.under .degrade) json = .ok action) ∧
    (∀ e, (ofJson (config.under .degrade) json : Except QueryError (UpdateAction entity)) = .error e →
      ∃ e', (ofJson (config.under .strict) json : Except QueryError (UpdateAction entity)) =
        .error e') ∧
    ∀ e, (ofJson (config.under .degrade) json : Except QueryError (UpdateAction entity)) = .error e ↔
      ((∀ members, json ≠ .object members) ∧ e = .notConvertible json.render "object") ∨
      ∃ members before key value rest, json = .object members ∧
        Json.flatten members = before ++ (key, value) :: rest ∧
        (∀ earlier ∈ before, ∀ e, ¬ Refused entity earlier.1 e) ∧ Refused entity key e := by
  refine ⟨fun _ => ofJson_of_strict, ?_, fun _ => ofJson_lenient_error_iff⟩
  intro e failed
  cases strict : (ofJson (config.under .strict) json : Except QueryError (UpdateAction entity)) with
  | error e' => exact ⟨e', rfl⟩
  | ok action =>
    rw [ofJson_of_strict strict] at failed
    cases failed

end UpdateAction

namespace Library

open UpdateAction

def newEdition : Json := .object [("title", .string "Emma"), ("pages", .string "120")]

/-- Its second member is refused, its first one has a value that cannot be converted. -/
def otherBooks : Json :=
  .object [("pages", .string "many"), ("author", .object [("books", .object [("title", .null)])])]

theorem books_under_policies :
    (∃ action : UpdateAction book, ofJson (({} : Config).under .degrade) newEdition = .ok action ∧
      action.setters.length = 2) ∧
    (ofJson (({} : Config).under .degrade) otherBooks : Except QueryError (UpdateAction book)) =
      .error (.invalidOperation "set" "collection") ∧
    ∃ e, (ofJson (({} : Config).under .strict) otherBooks : Except QueryError (UpdateAction book)) =
      .error e := by
  have built : ∃ action : UpdateAction book, ofJson (({} : Config).under .strict) newEdition =
      .ok action ∧ action.setters.length = 2 := by
    simp only [newEdition, ofJson, ofMembers, Json.flatten, Json.flattenUnder]
    exact ⟨_, rfl, rfl⟩
  have refused : (ofJson (({} : Config).under .degrade) otherBooks :
      Except QueryError (UpdateAction book)) = .error (.invalidOperation "set" "collection") := by
    refine ((UpdateAction.ofJson_under_policies book {} otherBooks).2.2 _).mpr (.inr
      ⟨_, [("pages", .string "many")], "author.books.title", .null, [], rfl, ?_, ?_,
        .collection rfl rfl rfl⟩)
    · simp [Json.flatten, Json.flattenUnder]
    · intro earlier member e refused
      cases List.mem_singleton.mp member
      exact not_refused_of_passed rfl rfl refused
  obtain ⟨action, done, length⟩ := built
  exact ⟨⟨action, (UpdateAction.ofJson_under_policies book {} newEdition).1 action done, length⟩,
    refused, (UpdateAction.ofJson_under_policies book {} otherBooks).2.1 _ refused⟩

end Library

end EntityQuery
